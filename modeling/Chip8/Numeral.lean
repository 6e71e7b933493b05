/-! Numbers as they stand in listings, dumps and time stamps. Hexadecimal fields are upper case
and padded to a least width, never cut; a minus sign comes first and counts in the width. -/
namespace Chip8.Numeral

/-- Digits above nine are the capitals from A on. -/
def digit (d : Nat) : Char :=
  if d < 10 then Char.ofNat (48 + d) else Char.ofNat (55 + d)

/-- Positional digits, most significant first; zero has one digit. -/
def digits (base n : Nat) : List Char :=
  if _h : n < base ∨ base < 2 then [digit n]
  else digits base (n / base) ++ [digit (n % base)]
termination_by n
decreasing_by exact Nat.div_lt_self (by omega) (by omega)

def sign (n : Int) : List Char := if n < 0 then ['-'] else []

def decimal (n : Int) : String :=
  String.ofList (sign n ++ digits 10 n.natAbs)

/-- The most decimal digits of a number that is written or read. -/
def digitLimit : Nat := 4300

@[irreducible] def writeLimit : Nat := Nat.pow 10 digitLimit

def isWritable (n : Int) : Bool := decide (n.natAbs < writeLimit)

theorem isWritable_iff {n : Int} : isWritable n = true ↔ n.natAbs < writeLimit :=
  decide_eq_true_iff

theorem isWritable_eq_false_iff {n : Int} : isWritable n = false ↔ writeLimit ≤ n.natAbs :=
  decide_eq_false_iff_not.trans Nat.not_lt

/-- Upper-case hexadecimal, filled with zeros after the sign up to `width` characters in all. -/
def hex (width : Nat) (n : Int) : String :=
  let body := digits 16 n.natAbs
  let fill := width - (sign n).length - body.length
  String.ofList (sign n ++ (List.replicate fill '0' ++ body))

/-- Commas after every third digit of a numeral that is read from its last digit. -/
def separated : List Char → List Char
  | a :: b :: c :: d :: rest => a :: b :: c :: ',' :: separated (d :: rest)
  | short => short

def grouped (n : Int) : String :=
  String.ofList (sign n ++ (separated (digits 10 n.natAbs).reverse).reverse)

/-- The nearest integer; a half goes to the even neighbour. -/
def roundHalfEven (q : Rat) : Int :=
  let low := q.floor
  let rest := q - low
  if rest < 1 / 2 then low
  else if 1 / 2 < rest then low + 1
  else if low % 2 = 0 then low else low + 1

def powerOfTwo (e : Int) : Rat :=
  if 0 ≤ e then ((1 <<< e.toNat : Nat) : Rat) else 1 / ((1 <<< (-e).toNat : Nat) : Rat)

/-- The exponent of the largest power of two that is not above `q`, for positive `q`. -/
def binaryExponent (q : Rat) : Int :=
  let e : Int := (Nat.log2 q.num.natAbs : Int) - (Nat.log2 q.den : Int)
  if powerOfTwo e ≤ q then e else e - 1

/-- The nearest number with at most `bits` binary digits; a half goes to the even neighbour. -/
def significant (bits : Nat) (q : Rat) : Rat :=
  if q = 0 then 0
  else
    let place := powerOfTwo (binaryExponent (if q < 0 then -q else q) + 1 - bits)
    roundHalfEven (q / place) * place

/-- From here on a number is nearer to the power of two above than to any binary fraction of
53 digits with an exponent below 1024. -/
def limit : Nat := 1 <<< 1024 - 1 <<< 970

theorem limit_lt_writeLimit : limit < writeLimit := by decide +kernel

/-- The digits of `q` with a point in front of the last `places`. -/
def withPlaces (places : Nat) (q : Rat) : String :=
  let unit := Nat.pow 10 places
  let scaled := (roundHalfEven (q * (unit : Rat))).toNat
  let low := (digits 10 (unit + scaled % unit)).drop 1
  String.ofList (digits 10 (scaled / unit) ++ '.' :: low)

def binaryUnits : List String := ["bytes", "KiB", "MiB", "GiB", "TiB", "PiB", "EiB"]

/-- A number of bytes in the largest binary unit, with three digits or all that stand before the
point. The share of the unit is rounded to 53 binary digits first, and single bytes are whole. -/
def inBinaryUnits (bytes : Nat) : String :=
  let least := Nat.log2 bytes / 10
  let share := significant 53 ((bytes : Rat) / ((1 <<< (10 * least) : Nat) : Rat))
  let (k, value) := if roundHalfEven share = 1024 then (least + 1, share / 1024) else (least, share)
  let number :=
    if k = 0 then String.ofList (digits 10 bytes)
    else if roundHalfEven (value * 100) < 1000 then withPlaces 2 value
    else if roundHalfEven (value * 10) < 1000 then withPlaces 1 value
    else withPlaces 0 value
  number ++ " " ++ binaryUnits.getD k "ZiB"

/-- Two decimal places, rounded to even on a tie; the sign is that of the exact number. -/
def hundredths (q : Rat) : String :=
  let scaled := (roundHalfEven (q * 100)).natAbs
  let minus := if q < 0 then "-" else ""
  let places := String.ofList [digit (scaled / 10 % 10), digit (scaled % 10)]
  minus ++ decimal (scaled / 100) ++ "." ++ places

def alignRight (width : Nat) (text : String) : String :=
  String.ofList (List.replicate (width - text.length) ' ') ++ text

end Chip8.Numeral
