import Chip8.Execution

/-! Cycles and frames. Fifteen cycles that succeed make a frame; a frame that closes emits the
display and lets both timers run down by one. -/
namespace Chip8.Machine

def cyclesPerFrame : Int32 := 15

/-- Emit the display and tick the timers, which stop at zero. -/
def closeFrame (m : Machine) : Machine :=
  { m with
    delay := if m.delay = 0 then 0 else m.delay - 1
    sound := if m.sound = 0 then 0 else m.sound - 1
    frame := m.display
    frames := m.frames + 1
    step := 0 }

/-- Count one more cycle, closing the frame with its last one. -/
def countCycle (m : Machine) : Machine :=
  let counted := { m with step := m.step + 1 }
  if cyclesPerFrame ≤ counted.step then counted.closeFrame else counted

/-- Fetch, validate and execute one instruction. Beside a fault the machine is the one from before
the fetch. -/
def cycle (m : Machine) : Machine × Option Fault :=
  match m.advance.check m.word.toNat (m.pc.toNat % 4096 : Nat) with
  | some f => (m, some f)
  | none => ((dispatch (Instruction.decode m.word.toNat) m.advance).countCycle, none)

def cycles : Nat → Machine → Machine × Option Fault
  | 0, m => (m, none)
  | n + 1, m =>
    match m.cycle with
    | (next, none) => cycles n next
    | stopped => stopped

/-- The cycles that the frame in progress still lacks. -/
def advanceFrame (m : Machine) : Machine × Option Fault :=
  cycles (cyclesPerFrame.toInt - m.step.toInt).toNat m

def advanceFrames : Nat → Machine → Machine × Option Fault
  | 0, m => (m, none)
  | n + 1, m =>
    match m.advanceFrame with
    | (next, none) => advanceFrames n next
    | stopped => stopped

end Chip8.Machine
