import Chip8.CommandLine.Reading
import Chip8.Headless
import Chip8.ImageFile
import Chip8.Listing
import Chip8.Window

/-! The host behind the command line: a listing, a run without a window, or a window, as a list
of actions and an exit status. -/
namespace Chip8.Host
open CommandLine

/-- `status` is the exit status, or the error that stopped the host after its actions. -/
structure Session where
  logger : Log.Logger
  actions : List Action
  status : Except HostError Nat

/-- What an action prints, `elapsed` seconds after the start. -/
def printed (logger : Log.Logger) (elapsed : Rat) : Action → String
  | .print text => text
  | .log record => logger.render elapsed record
  | _ => ""

def Session.text (s : Session) (elapsed : Rat) : String :=
  String.join (s.actions.map (printed s.logger elapsed))

/-- How far a session gets before it runs the program. -/
inductive Preparation where
  | finished (actions : List Action) (status : Except HostError Nat)
  | loaded (machine : Machine)

def listing (image : List UInt8) : List Action :=
  (Listing.ofBytes programStart image).map fun line => .print (line.render ++ "\n")

def streamOf (o : Options) : Except HostError Random.Stream := do
  let seed ← o.seed.require (.noValue .seed)
  match Random.Stream.ofSeed? seed with
  | some random => .ok random
  | none => .error (.seedTooWide seed)

/-- List the program, or power on with the seed and load it. An image that is too large is
reported and ends the session with status one. -/
def prepare (o : Options) (rom : Option (List UInt8)) : Preparation :=
  if o.disassemble then
    match rom with
    | none => .finished [] (.error (.missingFile o.rom))
    | some image => .finished (listing image) (.ok 0)
  else
    match streamOf o, rom with
    | .error e, _ => .finished [] (.error e)
    | .ok _, none => .finished [] (.error (.missingFile o.rom))
    | .ok random, some image =>
      match (Machine.powerOn random).loadProgram image with
      | .error e => .finished [.log (.error e.message)] (.ok 1)
      | .ok machine => .loaded machine

def loadedRecord (o : Options) : Log.Record := .info ("Loaded: " ++ o.rom)

def showText (o : Options) (frame : Screen) : List Action :=
  if o.ascii then [.print (frame.toText "#" " " ++ "\n")] else []

def paletteOf (o : Options) : Except HostError Palette := do
  let name ← o.scheme.require (.noValue .colorScheme)
  match Palette.ofName name with
  | .ok palette => .ok palette
  | .error e => .error (.palette e)

/-- How a frame is stored under a path, if it can be; it is drawn before the format is looked at. -/
def storedFrame (room : Extent.Room) (o : Options) (path : String) (frame : Screen) :
    Except HostError Drawing := do
  let palette ← paletteOf o
  let scale ← o.scale.require (.noValue .scale)
  let drawing ← (Drawing.ofScreen room scale palette frame).mapError .extent
  match ImageFile.Format.storing path with
  | .ok _ => .ok drawing
  | .error e => .error (.image e)

/-- The last frame as an image file, when it is asked for under a name that is not empty. -/
def saveFrame (room : Extent.Room) (o : Options) (frame : Screen) :
    List Action × Except HostError Unit :=
  match o.screenshot with
  | none | some "" => ([], .ok ())
  | some path =>
    match storedFrame room o path frame with
    | .error e => ([], .error e)
    | .ok drawing =>
      ([.saveImage path drawing, .log (.info ("Saved frame to " ++ path))], .ok ())

def followed : Option Progress → List Action
  | some bar => [.followRun bar]
  | none => []

/-- Run the frames, then show and save the last one, also after a fault. -/
def headless (room : Extent.Room) (o : Options) (frames : Int) (logger : Log.Logger)
    (machine : Machine) : List Action × Except HostError Nat :=
  match machine.run frames logger true o.trace with
  | .error e => (e.records.map .log, .error (.run e))
  | .ok run =>
    let saved := saveFrame room o run.machine.frame
    (followed run.bar ++ run.records.map .log ++ showText o run.machine.frame ++ saved.1,
      saved.2.map fun _ => if run.fault.isSome then 1 else 0)

def style (platform : Platform) (o : Options) : Except HostError Window.Style :=
  (paletteOf o).map fun palette => ⟨platform, o.scale, palette⟩

def windowed (platform : Platform) (o : Options) (turns : List Turn) (machine : Machine) :
    List Action × Except HostError Nat :=
  match style platform o with
  | .error e => ([], .error e)
  | .ok style =>
    let run := Window.run style o.rom turns machine
    (run.1, run.2.map fun _ => 0)

def played (platform : Platform) (o : Options) (turns : List Turn) (logger : Log.Logger)
    (machine : Machine) : List Action × Except HostError Nat :=
  match o.frames with
  | none => windowed platform o turns machine
  | some .blank => ([], .error (.noValue .frames))
  | some (.given frames) => headless platform.room o frames logger machine

def loggerOf (o : Options) (terminal : Bool) : Except HostError Log.Logger := do
  let level ← o.logLevel.require (.noValue .logLevel)
  match Log.Logger.create Log.Logger.defaultName level true true terminal with
  | .ok logger => .ok logger
  | .error e => .error (.logLevel e)

/-- A whole session on one program file. The turns are only used by a window. -/
def session (platform : Platform) (o : Options) (terminal : Bool) (rom : Option (List UInt8))
    (turns : List Turn) : Except HostError Session :=
  (loggerOf o terminal).map fun logger =>
    match prepare o rom with
    | .finished actions status => ⟨logger, actions, status⟩
    | .loaded machine =>
      let rest := played platform o turns logger machine
      ⟨logger, .log (loadedRecord o) :: rest.1, rest.2⟩

inductive Call where
  | refused (e : UsageError)
  | help
  | session (o : Options) (result : Except HostError Session)

/-- Read the arguments, and only then the program file that they name. -/
def call (platform : Platform) (arguments : List String) (terminal : Bool)
    (file : String → Option (List UInt8)) (turns : List Turn) : Call :=
  match parse arguments with
  | .error e => .refused e
  | .ok .help => .help
  | .ok (.run o) => .session o (session platform o terminal (file o.rom) turns)

def Call.status : Call → Except HostError Nat
  | refused _ => .ok 2
  | help => .ok 0
  | session _ (.error e) => .error e
  | session _ (.ok s) => s.status

end Chip8.Host
