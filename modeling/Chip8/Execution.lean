import Chip8.Effect.Dispatch
import Chip8.Fault

/-! Validation and execution of one instruction word. A word may be any integer: validation looks
at it as it stands, while its effect depends on the low sixteen bits. -/
namespace Chip8

inductive ExecutionError where
  | fault (f : Fault)
  | wordTooWide (word : Int)
  deriving DecidableEq, Repr

namespace Machine

/-- The first condition that forbids `word` here. The two valid words of family 0 must be given
exactly: with higher bits set they count as machine calls. -/
def violation? (m : Machine) (word : Int) : Option Violation :=
  let i := Instruction.decode word
  if i.family = 0 ∧ word ≠ 0x00E0 ∧ word ≠ 0x00EE then some (.machineCall i.nnn)
  else if word = 0x00EE ∧ m.stack.isEmpty then some .returnFromNothing
  else if i.family = 2 ∧ m.stack.isFull then some .callTooDeep
  else if i.operation? = none then some (.noOperation word)
  else none

def check (m : Machine) (word address : Int) : Option Fault :=
  (m.violation? word).map fun v => ⟨v.kind, v.message, m.snapshot word address⟩

def fetch (m : Machine) : Machine × UInt16 := (m.advance, m.word)

/-- Execute a word that has just been fetched: a fault is reported two bytes before the program
counter. Beyond 32 bits with sign even a valid word is refused. -/
def execute (m : Machine) (word : Int) : Except ExecutionError Machine :=
  match m.check word (((m.pc.toNat : Int) - 2) % 4096) with
  | some f => .error (.fault f)
  | none =>
    if -0x80000000 ≤ word ∧ word < 0x80000000 then .ok (dispatch (Instruction.decode word) m)
    else .error (.wordTooWide word)

end Machine
end Chip8
