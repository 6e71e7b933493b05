import Chip8.Machine

/-! Stores to memory and loads of several registers. Every address is reduced to twelve bits on
its own, so a block may run round the top of memory. -/
namespace Chip8

def Memory.window (memory : Memory) (a : Nat) : Registers :=
  Vector.ofFn fun k => memory.read (a + k)

namespace Machine

def decimalDigits (b : UInt8) : List UInt8 := [b / 100, b / 10 % 10, b % 10]

def storeDigits : Effect := fun i m =>
  { m with memory := m.memory.store m.i.toNat (decimalDigits (m.v.get i.x)) }

/-- Sixteen lanes, the ones up to X from `first` and those behind it from `rest`. -/
-- Irreducible, so that no two machines are compared by writing sixteen bytes to memory.
@[irreducible] def lanes (x : Fin 16) (first rest : Registers) : Registers :=
  Vector.ofFn fun k => if k ≤ x then first.get k else rest.get k

/-- Where the index stands after a block of X + 1 bytes. -/
def nextIndex (m : Machine) (x : Fin 16) : UInt16 := m.i + UInt16.ofNat (x + 1)

/-- Word FX55: sixteen bytes are written, those behind the block as they were. -/
def storeRegisters : Effect := fun i m =>
  { m with
    memory := m.memory.store m.i.toNat (lanes i.x m.v (m.memory.window m.i.toNat)).toList
    i := m.nextIndex i.x }

/-- Word FX65: sixteen bytes are read, and those behind the block are not used. -/
def loadRegisters : Effect := fun i m =>
  { m with v := lanes i.x (m.memory.window m.i.toNat) m.v, i := m.nextIndex i.x }

end Machine
end Chip8
