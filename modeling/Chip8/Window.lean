import Chip8.Action
import Chip8.Schedule

/-! The window host: keys of the computer stand for keys of the pad, one turn of the loop runs
one frame, and a fault pauses the machine. -/
namespace Chip8

inductive HostKey where
  | letter (c : Char)
  | escape
  | backspace
  deriving DecidableEq, Repr

/-- The left block of the keyboard in the order of the pad. -/
def HostKey.layout : List (Char × Key) :=
  [('1', 0x1), ('2', 0x2), ('3', 0x3), ('4', 0xC),
   ('q', 0x4), ('w', 0x5), ('e', 0x6), ('r', 0xD),
   ('a', 0x7), ('s', 0x8), ('d', 0x9), ('f', 0xE),
   ('z', 0xA), ('x', 0x0), ('c', 0xB), ('v', 0xF)]

def HostKey.pad? : HostKey → Option Key
  | letter c => layout.lookup c
  | _ => none

inductive Event where
  | down (key : HostKey)
  | up (key : HostKey)
  | quit
  | other
  deriving DecidableEq, Repr

/-- An event, and what the program file holds when it is handled: a reset reads the file again. -/
structure Arrival where
  event : Event
  rom : Option (List UInt8)

structure Turn where
  arrivals : List Arrival

def Turn.events (t : Turn) : List Event := t.arrivals.map Arrival.event

/-- `held` are the keys of the pad that are down by the events so far, also while paused. -/
structure Window where
  machine : Machine
  held : Keypad
  paused : Bool
  running : Bool

namespace Window

def caption : String := "chip8vm"

def rate : Nat := 60

def start (machine : Machine) : Window := ⟨machine, Keypad.released, false, true⟩

def info (message : String) : List Action := [.log (.info message)]

/-- Power on again with the program file as it is now. -/
def reload (path : String) (rom : Option (List UInt8)) (w : Window) :
    List Action × Except HostError Window :=
  match rom with
  | none => ([], .error (.missingFile path))
  | some image =>
    match w.machine.reset.loadProgram image with
    | .error e => ([], .error (.oversize e))
    | .ok machine =>
      (info "Reset", .ok { w with machine, held := Keypad.released, paused := false })

def hold (w : Window) (key : HostKey) (down : Bool) : Window :=
  match key.pad? with
  | some k => { w with held := Digit.put w.held k down }
  | none => w

def handle (path : String) (rom : Option (List UInt8)) (w : Window) :
    Event → List Action × Except HostError Window
  | .quit => ([], .ok { w with running := false })
  | .down .escape => ([], .ok { w with running := false })
  | .down .backspace => w.reload path rom
  | .down (.letter 'p') =>
    (info (if w.paused then "Resumed" else "Paused"), .ok { w with paused := !w.paused })
  | .down key => ([], .ok (hold w key true))
  | .up key => ([], .ok (hold w key false))
  | .other => ([], .ok w)

/-- Events in order, up to the first that fails. -/
def handleAll (path : String) :
    List Arrival → Window → List Action × Except HostError Window
  | [], w => ([], .ok w)
  | a :: rest, w =>
    match w.handle path a.rom a.event with
    | (actions, .error e) => (actions, .error e)
    | (actions, .ok next) =>
      let later := handleAll path rest next
      (actions ++ later.1, later.2)

/-- One frame with the keys that are held, unless paused. A fault is logged and pauses. -/
def play (w : Window) : List Action × Window :=
  if w.paused then ([], w)
  else
    match { w.machine with keypad := w.held }.advanceFrame with
    | (machine, none) => ([], { w with machine })
    | (machine, some f) => ((Log.Record.fault f).map .log, { w with machine, paused := true })

/-- How a window looks, and the system that shows it. -/
structure Style where
  platform : Platform
  scale : Setting Int
  palette : Palette

namespace Style

/-- The size of the window is not floored like that of the images drawn into it. -/
def width (style : Style) : Setting Int := style.scale.map (64 * ·)

def height (style : Style) : Setting Int := style.scale.map (32 * ·)

def opens (style : Style) : Bool := style.platform.opens style.width style.height

def takes (style : Style) (d : Drawing) : Bool :=
  style.platform.draws style.width style.height d.surface.height d.surface.width

end Style

/-- The last frame as it is drawn. Without a scale, or with one that is too large, there is no
image, and an image may be refused by the window. -/
def drawing (style : Style) (w : Window) : Except HostError Drawing := do
  let scale ← style.scale.require (.noValue .scale)
  let drawn ← (Drawing.ofScreen style.platform.room scale style.palette w.machine.frame).mapError
    .extent
  if style.takes drawn then .ok drawn
  else .error (.notDrawn drawn.surface.height drawn.surface.width)

/-- Events, frame, image. A turn that is told to quit is still played and drawn. -/
def turn (style : Style) (path : String) (t : Turn) (w : Window) :
    List Action × Except HostError Window :=
  match handleAll path t.arrivals w with
  | (actions, .error e) => (actions, .error e)
  | (actions, .ok handled) =>
    let played := handled.play
    match played.2.drawing style with
    | .error e => (actions ++ played.1, .error e)
    | .ok drawing => (actions ++ played.1 ++ [.present drawing], .ok played.2)

/-- Turns until one quits; after the last one given the user quits. -/
def loop (style : Style) (path : String) :
    List Turn → Window → List Action × Except HostError Window
  | [], w => turn style path ⟨[⟨.quit, none⟩]⟩ w
  | t :: rest, w =>
    match turn style path t w with
    | (actions, .error e) => (actions, .error e)
    | (actions, .ok next) =>
      if next.running then
        let later := loop style path rest next
        (actions ++ later.1, later.2)
      else (actions, .ok next)

def opening (style : Style) : List Action :=
  [.openWindow style.width style.height caption rate,
    .log (.info "Controls: ESC=Quit, P=Pause, Backspace=Reset")]

def live (style : Style) (path : String) (turns : List Turn) (machine : Machine) :
    List Action × Except HostError Window :=
  let looped := loop style path turns (start machine)
  (opening style ++ looped.1 ++ (match looped.2 with | .ok _ => [.closeWindow] | .error _ => []),
    looped.2)

/-- The life of a window, if it can be opened. -/
def run (style : Style) (path : String) (turns : List Turn) (machine : Machine) :
    List Action × Except HostError Window :=
  if style.opens then live style path turns machine
  else ([], .error (.noWindow style.width style.height))

end Window
end Chip8
