import Chip8.Machine
import Chip8.Operation

/-! What a fault report shows of a machine: plain integers of any size, with their dump. A timer
may be unknown. -/
namespace Chip8

structure Snapshot where
  address : Int
  opcode : Int
  pc : Int
  i : Int
  v : List Int
  stack : List Int
  delay : Option Int
  sound : Option Int
  deriving DecidableEq, Repr

namespace Snapshot

def instruction? (s : Snapshot) : Option String := (Instruction.decode s.opcode).text?

def headLine (s : Snapshot) : String :=
  "0x" ++ Numeral.hex 3 s.address ++ ": " ++ Numeral.hex 4 s.opcode ++
    "  (" ++ s.instruction?.getD "unknown" ++ ")"

def timerText (t : Option Int) : String := t.elim "None" Numeral.decimal

def counterLine (s : Snapshot) : String :=
  "PC=0x" ++ Numeral.hex 3 s.pc ++ " I=0x" ++ Numeral.hex 3 s.i ++
    " DT=" ++ timerText s.delay ++ " ST=" ++ timerText s.sound

def registerLine (first : Nat) (values : List Int) : String :=
  " ".intercalate ((values.zipIdx first).map fun entry =>
    "V" ++ Numeral.hex 1 entry.2 ++ "=" ++ Numeral.hex 2 entry.1)

def stackLine (s : Snapshot) : String :=
  let entries := " ".intercalate (s.stack.map fun a => "0x" ++ Numeral.hex 3 a)
  "stack[" ++ Numeral.decimal s.stack.length ++ "]: " ++ (if s.stack = [] then "empty" else entries)

/-- Only the first sixteen registers are shown. -/
def lines (s : Snapshot) : List String :=
  [headLine s, counterLine s, registerLine 0 (s.v.take 8), registerLine 8 ((s.v.drop 8).take 8),
    stackLine s]

/-- Why a snapshot has no dump: a timer has too many digits, or there are not sixteen registers. -/
inductive DumpError where
  | timer
  | registers
  deriving DecidableEq, Repr

/-- A timer that is unknown is shown as such. -/
def showsTimers (s : Snapshot) : Bool :=
  s.delay.all Numeral.isWritable && s.sound.all Numeral.isWritable

/-- The timers stand before the registers. -/
def obstacle? (s : Snapshot) : Option DumpError :=
  if !s.showsTimers then some .timer
  else if s.v.length < 16 then some .registers
  else none

def dump (s : Snapshot) : Except DumpError String :=
  match s.obstacle? with
  | some e => .error e
  | none => .ok ("\n".intercalate s.lines)

end Snapshot

/-- The visible registers, with the word and the address that the report is about. -/
def Machine.snapshot (m : Machine) (opcode address : Int) : Snapshot where
  address := address
  opcode := opcode
  pc := m.pc.toNat
  i := m.i.toNat
  v := m.v.toList.map fun b => (b.toNat : Int)
  stack := m.stack.live.map fun a => (a.toNat : Int)
  delay := some (m.delay.toNat : Int)
  sound := some (m.sound.toNat : Int)

end Chip8
