import Chip8.Machine

/-! Jumps, calls, returns and skips. The program counter is already past the instruction, so a
taken skip adds two more and a call saves the address of the next instruction. -/
namespace Chip8.Machine

def jump : Effect := fun i m => { m with pc := i.nnn }

def call : Effect := fun i m => jump i { m with stack := m.stack.push m.pc }

def ret : Effect := fun _ m => { m with stack := m.stack.pop.1, pc := m.stack.pop.2 }

/-- Word BNNN: the sum is not reduced to twelve bits. -/
def jumpOffset : Effect := fun i m => { m with pc := i.nnn + (m.v.get 0).toUInt16 }

def skipIf (condition : Bool) (m : Machine) : Machine := if condition then m.advance else m

def skipEqualByte : Effect := fun i m => skipIf (m.v.get i.x == i.nn) m

def skipUnequalByte : Effect := fun i m => skipIf (m.v.get i.x != i.nn) m

def skipEqual : Effect := fun i m => skipIf (m.v.get i.x == m.v.get i.y) m

def skipUnequal : Effect := fun i m => skipIf (m.v.get i.x != m.v.get i.y) m

def isDown (m : Machine) (b : UInt8) : Bool := m.keypad.get (Fin.ofNat 16 b.toNat)

/-- Words EX9E and EXA1, told apart by the operand. Neither skips when VX names no key. -/
def familyE : Effect := fun i m =>
  let key := m.v.get i.x
  skipIf (decide (key < 16) && (m.isDown key ^^ (i.nn == 0xA1))) m

end Chip8.Machine
