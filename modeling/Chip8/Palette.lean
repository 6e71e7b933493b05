import Chip8.Text.Choice

/-! Colours and the named palettes. -/
namespace Chip8

structure Color where
  red : UInt8
  green : UInt8
  blue : UInt8
  deriving DecidableEq, Repr

/-- Why a list of components is no colour: one of them is no byte, or they are too few or too
many. -/
inductive ColorError where
  | component (value : Int)
  | length (given : Nat)
  deriving DecidableEq, Repr

namespace Color

def isByte (n : Int) : Bool := 0 ≤ n && n < 256

/-- Red, green and blue, or one value for all three. The first component that is no byte counts
before the number of components. -/
def ofList (components : List Int) : Except ColorError Color :=
  match components.find? (!isByte ·), components.map UInt8.ofInt with
  | some n, _ => .error (.component n)
  | none, [grey] => .ok ⟨grey, grey, grey⟩
  | none, [red, green, blue] => .ok ⟨red, green, blue⟩
  | none, _ => .error (.length components.length)

end Color

structure Palette where
  on : Color
  off : Color
  deriving DecidableEq, Repr

namespace Palette

def named : List (String × Palette) :=
  [("classic", ⟨⟨0, 255, 0⟩, ⟨0, 0, 0⟩⟩),
   ("amber", ⟨⟨255, 176, 0⟩, ⟨0, 0, 0⟩⟩),
   ("white", ⟨⟨255, 255, 255⟩, ⟨0, 0, 0⟩⟩),
   ("blue", ⟨⟨0, 255, 255⟩, ⟨0, 0, 64⟩⟩)]

def names : List String := named.map (·.1)

def ofName (name : String) : Except UnknownChoice Palette :=
  match named.lookup name with
  | some palette => .ok palette
  | none => .error ⟨"color scheme", name, names⟩

end Palette
end Chip8
