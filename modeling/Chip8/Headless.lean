import Chip8.Log
import Chip8.Progress
import Chip8.Schedule

/-! Runs of whole frames without a window, with or without a trace of every instruction. -/
namespace Chip8

/-- A cycle about to be attempted: where, which word, and its text if it names an operation. -/
structure TracePoint where
  address : Nat
  word : UInt16
  text : Option String
  deriving DecidableEq, Repr

def TracePoint.record (p : TracePoint) : Log.Record := .trace p.address p.word.toNat p.text

namespace Machine

def tracePoint (m : Machine) : TracePoint :=
  ⟨m.pc.toNat % 4096, m.word, (Instruction.decode m.word.toNat).text?⟩

/-- Cycles until the number of emitted frames is no longer `emitted`, or until a fault or the
bound; every attempted cycle is noted, one that faults included. -/
def watch (emitted : Int32) : Nat → Machine → List TracePoint × Machine × Option Fault
  | 0, m => ([], m, none)
  | bound + 1, m =>
    if m.frames = emitted then
      match m.cycle with
      | (next, none) =>
        let rest := watch emitted bound next
        (m.tracePoint :: rest.1, rest.2)
      | stopped => ([m.tracePoint], stopped)
    else ([], m, none)

/-- More cycles than any frame can last: the step counter has 2 ^ 32 values, and passes the
length of a frame before it takes one of them twice. -/
def watchBound : Nat := 0x100000000

def tracedFrame (m : Machine) : List TracePoint × Machine × Option Fault :=
  m.watch m.frames watchBound

def tracedFrames : Nat → Machine → List TracePoint × Machine × Option Fault
  | 0, m => ([], m, none)
  | n + 1, m =>
    match m.tracedFrame with
    | (points, next, none) =>
      let rest := tracedFrames n next
      (points ++ rest.1, rest.2)
    | stopped => stopped

end Machine

/-- What a run leaves behind: the machine, the fault that stopped it, the log records in order, and
the bar that followed it. -/
structure Run where
  machine : Machine
  fault : Option Fault
  records : List Log.Record
  bar : Option Progress

/-- Why a run returns nothing: its bar cannot be drawn, so that nothing is run, or after the last
frame their number has too many digits for the closing record. The trace is written by then. -/
inductive RunError where
  | bar (e : ProgressError)
  | digits (written : List Log.Record)
  deriving DecidableEq, Repr

def RunError.message : RunError → String
  | .bar e => e.message
  | .digits _ => "the number of frames has too many digits"

def RunError.records : RunError → List Log.Record
  | .bar _ => []
  | .digits written => written

/-- The records after the trace: the fault, or how many frames were run. -/
def Run.closing? (frames : Int) (machine : Machine) : Option Fault → Option (List Log.Record)
  | some f => some (Log.Record.fault f)
  | none =>
    if Numeral.isWritable frames then
      some [.info ("Ran " ++ Numeral.decimal frames ++ " frames, PC=0x" ++
        Numeral.hex 3 machine.pc.toNat)]
    else none

/-- Run a number of frames; a negative number means none. A trace is only taken for a logger that
prints it. -/
def Run.ofFrames (m : Machine) (frames : Int) (logger : Log.Logger) (trace : Bool)
    (bar : Option Progress) : Except RunError Run :=
  let (points, machine, fault) :=
    if trace && logger.enabled .debug then m.tracedFrames frames.toNat
    else ([], m.advanceFrames frames.toNat)
  let written := points.map TracePoint.record
  match Run.closing? frames machine fault with
  | some closing => .ok { machine, fault, bar, records := written ++ closing }
  | none => .error (.digits written)

/-- A run with or without a bar. The bar comes first: where it cannot be drawn nothing is run. -/
def Machine.run (m : Machine) (frames : Int) (logger : Log.Logger) (progress trace : Bool) :
    Except RunError Run :=
  if progress then
    match Progress.start frames none 0 with
    | .error e => .error (.bar e)
    | .ok bar => Run.ofFrames m frames logger trace (some bar)
  else Run.ofFrames m frames logger trace none

end Chip8
