import Chip8.Numeral

/-! Whole numbers as they are typed for an option: blanks around, one sign, decimal digits of any
script with single underscores between them. -/
namespace Chip8.CommandLine

/-- The zeros of the decimal digits of Unicode 14; the other nine digits follow each of them. -/
def zeros : List Nat :=
  [0x0030, 0x0660, 0x06F0, 0x07C0, 0x0966, 0x09E6, 0x0A66, 0x0AE6, 0x0B66, 0x0BE6, 0x0C66, 0x0CE6,
   0x0D66, 0x0DE6, 0x0E50, 0x0ED0, 0x0F20, 0x1040, 0x1090, 0x17E0, 0x1810, 0x1946, 0x19D0, 0x1A80,
   0x1A90, 0x1B50, 0x1BB0, 0x1C40, 0x1C50, 0xA620, 0xA8D0, 0xA900, 0xA9D0, 0xA9F0, 0xAA50, 0xABF0,
   0xFF10, 0x104A0, 0x10D30, 0x11066, 0x110F0, 0x11136, 0x111D0, 0x112F0, 0x11450, 0x114D0, 0x11650,
   0x116C0, 0x11730, 0x118E0, 0x11950, 0x11C50, 0x11D50, 0x11DA0, 0x16A60, 0x16AC0, 0x16B50,
   0x1D7CE, 0x1D7D8, 0x1D7E2, 0x1D7EC, 0x1D7F6, 0x1E140, 0x1E2F0, 0x1E950, 0x1FBF0]

def digitValue? (c : Char) : Option Nat :=
  (zeros.find? fun z => z ≤ c.toNat && c.toNat < z + 10).map (c.toNat - ·)

/-- Spaces and line breaks; the separators among the control characters do not count. -/
def isBlank (c : Char) : Bool :=
  let n := c.toNat
  (9 ≤ n && n ≤ 13) || n == 0x20 || n == 0x85 || n == 0xA0 || n == 0x1680 ||
    (0x2000 ≤ n && n ≤ 0x200A) || n == 0x2028 || n == 0x2029 || n == 0x202F || n == 0x205F ||
    n == 0x3000

/-- The values of one or more digits; an underscore stands only between two of them. -/
def digitValues? : List Char → Option (List Nat)
  | [] => none
  | [c] => (digitValue? c).map ([·])
  | c :: '_' :: rest => do return (← digitValue? c) :: (← digitValues? rest)
  | c :: rest => do return (← digitValue? c) :: (← digitValues? rest)

def magnitude? (text : List Char) : Option Nat := do
  let values ← digitValues? text
  guard (values.length ≤ Numeral.digitLimit)
  return values.foldl (fun n d => 10 * n + d) 0

def integer? (text : String) : Option Int :=
  let trimmed := ((text.toList.dropWhile isBlank).reverse.dropWhile isBlank).reverse
  match trimmed with
  | '-' :: rest => (magnitude? rest).map fun (n : Nat) => -(n : Int)
  | '+' :: rest => (magnitude? rest).map Int.ofNat
  | rest => (magnitude? rest).map Int.ofNat

/-- Whether a word that starts with a minus sign is a number and not an option: digits with at
most one point, and a digit after the point. -/
def looksNegative (text : String) : Bool :=
  let isDigit c := (digitValue? c).isSome
  match text.toList with
  | '-' :: rest =>
    let body := if rest.getLast? = some '\n' then rest.dropLast else rest
    let whole := body.takeWhile isDigit
    match body.dropWhile isDigit with
    | [] => whole != []
    | '.' :: fraction => fraction != [] && fraction.all isDigit
    | _ => false
  | _ => false

end Chip8.CommandLine
