/-! Hexadecimal digits: four bits, which number the registers, the keys and the stack slots. -/
namespace Chip8

abbrev Digit := Fin 16

-- The zero is written out, so that a literal digit means the same under any imports.
instance (priority := 2000) Digit.neZero : @NeZero Nat Zero.ofOfNat0 16 := ⟨Nat.succ_ne_zero 15⟩

/-- A row of sixteen with another entry for `digit`. -/
def Digit.put {α : Type} (row : Vector α 16) (digit : Digit) (entry : α) : Vector α 16 :=
  row.set digit entry

theorem Digit.get_put {α : Type} (row : Vector α 16) (digit : Digit) (entry : α) :
    (Digit.put row digit entry).get digit = entry :=
  Vector.getElem_set_self digit.isLt

theorem Digit.get_put_of_ne {α : Type} (row : Vector α 16) {digit other : Digit} (entry : α)
    (h : other ≠ digit) : (Digit.put row digit entry).get other = row.get other :=
  Vector.getElem_set_ne digit.isLt other.isLt fun heq => h (Fin.ext heq.symm)

end Chip8
