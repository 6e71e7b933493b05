import Chip8.Host
import Chip8.Terminal

/-! The command line program. All that is decided is decided by the host; here files are read and
written, lines are printed with the time that has passed, and typed lines become turns. -/
namespace Chip8.Program
open Host

def elapsed (start : Nat) : IO Rat := do
  return ((((← IO.monoMsNow) - start : Nat) : Int) : Rat) / 1000

def readImage (path : String) : IO (Option (List UInt8)) := do
  try
    return some (← IO.FS.readBinFile path).toList
  catch _ => return none

def perform (logger : Log.Logger) (start : Nat) : Action → IO Unit
  | .saveImage path drawing =>
    match ImageFile.Format.ofPath path with
    | .ok format =>
      match ImageFile.encode? format drawing.picture with
      | some bytes => IO.FS.writeBinFile path ⟨bytes.toArray⟩
      | none => throw (IO.userError ("no encoder for " ++ format.name))
    | .error _ => pure ()
  | .followRun bar => IO.eprintln bar.description
  | action => do
    IO.print (printed logger (← elapsed start) action)
    (← IO.getStdout).flush

def conclude : Except HostError Nat → IO UInt32
  | .ok status => return status.toUInt32
  | .error e => do
    IO.eprintln e.message
    return 1

/-- Turns until one quits; the end of the input quits too. -/
partial def play (o : CommandLine.Options) (style : Window.Style) (logger : Log.Logger)
    (start : Nat) (before : List HostKey) (w : Window) : IO UInt32 := do
  IO.println (w.machine.frame.toText "#" " ")
  let line ← (← IO.getStdin).getLine
  let now := Terminal.keys line
  let typed := Terminal.events before now
  let waiting := if line.isEmpty then [.quit] else typed
  let arrivals ← waiting.mapM fun event => do return ⟨event, ← readImage o.rom⟩
  let (actions, result) := w.turn style o.rom ⟨arrivals⟩
  actions.forM (perform logger start)
  match result with
  | .error e => conclude (.error e)
  | .ok next => if next.running then play o style logger start now next else return 0

def launch (o : CommandLine.Options) (logger : Log.Logger) (start : Nat) : IO UInt32 := do
  match prepare o (← readImage o.rom) with
  | .finished actions status =>
    actions.forM (perform logger start)
    conclude status
  | .loaded machine =>
    perform logger start (.log (loadedRecord o))
    match o.frames, style .permissive o with
    | some _, _ =>
      let (actions, status) := played .permissive o [] logger machine
      actions.forM (perform logger start)
      conclude status
    | none, .error e => conclude (.error e)
    | none, .ok style =>
      (Window.opening style).forM (perform logger start)
      play o style logger start [] (Window.start machine)

end Chip8.Program

def main (arguments : List String) : IO UInt32 := do
  let start ← IO.monoMsNow
  match Chip8.CommandLine.parse arguments with
  | .error e =>
    IO.eprintln ("usage: chip8vm [options] rom\nchip8vm: error: " ++ e.message)
    return 2
  | .ok .help =>
    IO.println ("usage: chip8vm [options] rom\noptions: " ++
      ", ".intercalate (Chip8.CommandLine.Flag.all.map Chip8.CommandLine.Flag.name))
    return 0
  | .ok (.run o) =>
    let terminal ← (← IO.getStdout).isTty
    match Chip8.Host.loggerOf o terminal with
    | .error e => Chip8.Program.conclude (.error e)
    | .ok logger => Chip8.Program.launch o logger start
