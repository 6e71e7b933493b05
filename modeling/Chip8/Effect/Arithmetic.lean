import Chip8.Machine

/-! Register arithmetic, 8XYN. Result and flag come from VX and VY as they were before; the flag
is written after the result, so it wins when X is F. -/
namespace Chip8.Arithmetic

/-- `flag` is absent where the operation leaves VF alone. -/
structure Result where
  value : UInt8
  flag : Option UInt8
  deriving DecidableEq, Repr

def bit (b : Bool) : UInt8 := if b then 1 else 0

def copy (_ y : UInt8) : Result := ⟨y, none⟩

def or (x y : UInt8) : Result := ⟨x ||| y, none⟩

def and (x y : UInt8) : Result := ⟨x &&& y, none⟩

def xor (x y : UInt8) : Result := ⟨x ^^^ y, none⟩

/-- The flag is the carry. -/
def add (x y : UInt8) : Result := ⟨x + y, some (bit (255 < x.toNat + y.toNat))⟩

/-- The flag is one when nothing is borrowed. -/
def subtract (x y : UInt8) : Result := ⟨x - y, some (bit (y ≤ x))⟩

/-- The flag is the bit that falls out of VY. -/
def shiftRight (_ y : UInt8) : Result := ⟨y >>> 1, some (y &&& 1)⟩

def subtractFrom (x y : UInt8) : Result := ⟨y - x, some (bit (x ≤ y))⟩

def shiftLeft (_ y : UInt8) : Result := ⟨y <<< 1, some (y >>> 7)⟩

/-- In the order of the last digit, which is E for the ninth. -/
def table : Vector (UInt8 → UInt8 → Result) 9 :=
  #v[copy, or, and, xor, add, subtract, shiftRight, subtractFrom, shiftLeft]

def position (n : Fin 16) : Nat := if n = 0xE then 8 else n

/-- A place behind the table is taken for its last one; of the digits that ask for one the chart
admits none. -/
def entry (n : Fin 16) : Fin 9 := ⟨min (position n) 8, by omega⟩

end Chip8.Arithmetic

namespace Chip8.Machine

/-- Combine VX and VY, then write VX and after it VF. -/
def combine (f : UInt8 → UInt8 → Arithmetic.Result) : Effect := fun i m =>
  let r := f (m.v.get i.x) (m.v.get i.y)
  let v := Digit.put m.v i.x r.value
  { m with v := match r.flag with
      | none => v
      | some flag => Digit.put v 0xF flag }

def family8 : Effect := fun i m =>
  combine Arithmetic.table[Arithmetic.entry i.n] i m

end Chip8.Machine
