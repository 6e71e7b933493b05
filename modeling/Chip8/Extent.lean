import Chip8.Numeral

/-! The sides of an array, and what keeps an array of bytes with these sides from being made. -/
namespace Chip8

inductive ExtentError where
  | dimensions (count : Nat)
  | sideTooLong
  | negativeSide
  | tooManyBytes
  | noMemory (sides : List Nat)
  deriving DecidableEq, Repr

namespace Extent

def maxDimensions : Nat := 64

/-- Sides and sizes are counted in 64 bits, one of them for the sign. -/
def limit : Nat := 1 <<< 63

/-- Whether there is memory for so many bytes. -/
abbrev Room := Nat → Bool

/-- The bytes of `size` arrays with these sides; a side of length zero is passed over. -/
def bytes (size : Nat) : List Int → Except ExtentError Nat
  | [] => .ok size
  | side :: rest =>
    if side < 0 then .error .negativeSide
    else if side = 0 then bytes size rest
    else if limit ≤ size * side.toNat then .error .tooManyBytes
    else bytes (size * side.toNat) rest

def isCountable (side : Int) : Bool := -limit ≤ side && side < limit

/-- The first obstacle, from the first side to the last. An array with a side of length zero needs
no memory. -/
def obstacle? (room : Room) (sides : List Int) : Option ExtentError :=
  if maxDimensions < sides.length then some (.dimensions sides.length)
  else if !sides.all isCountable then some .sideTooLong
  else
    match bytes 1 sides with
    | .error e => some e
    | .ok size =>
      if 0 ∈ sides ∨ room size then none else some (.noMemory (sides.map Int.toNat))

/-- Sizes in brackets with a comma between them, and also after a single one. -/
def text : List Nat → String
  | [n] => "(" ++ toString n ++ ",)"
  | sizes => "(" ++ ", ".intercalate (sizes.map toString) ++ ")"

end Extent

def ExtentError.message : ExtentError → String
  | .dimensions count => "an array has no " ++ toString count ++ " dimensions"
  | .sideTooLong => "a side of the array is too long"
  | .negativeSide => "no side of an array is negative"
  | .tooManyBytes => "the array is too large"
  | .noMemory sides => "there is no memory for an array of the shape " ++ Extent.text sides

end Chip8
