import Chip8.Fault
import Chip8.Text.Choice
import Chip8.Text.Lines

/-! The console log: records with a level, and a logger that drops those below its threshold and
prints the rest with a time stamp, a tag and its name. -/
namespace Chip8.Log

inductive Level where
  | debug
  | info
  | warning
  | error
  | critical
  deriving DecidableEq, Repr

namespace Level

/-- From the least to the most urgent. -/
def all : List Level := [debug, info, warning, error, critical]

def rank : Level → Nat
  | debug => 0
  | info => 1
  | warning => 2
  | error => 3
  | critical => 4

def label : Level → String
  | debug => "DEBUG"
  | info => "INFO"
  | warning => "WARNING"
  | error => "ERROR"
  | critical => "CRITICAL"

def color : Level → String
  | debug => "\x1b[36m"
  | info => "\x1b[32m"
  | warning => "\x1b[33m"
  | error => "\x1b[31m"
  | critical => "\x1b[35m"

def ofLabel? (label : String) : Option Level := all.find? fun level => level.label == label

/-- The capital of a letter, for the letters whose capital stands in the English alphabet: besides
the small ones these are the dotless i and the long s. -/
def capital (c : Char) : Char :=
  if c = 'ı' then 'I' else if c = 'ſ' then 'S' else c.toUpper

/-- The level that a user names, in capitals or not. -/
def ofName (name : String) : Except UnknownChoice Level :=
  match ofLabel? (String.ofList (name.toList.map capital)) with
  | some level => .ok level
  | none => .error ⟨"log level", name, all.map label⟩

end Level

structure Record where
  level : Level
  message : String
  deriving DecidableEq, Repr

namespace Record

def info (message : String) : Record := ⟨.info, message⟩

def error (message : String) : Record := ⟨.error, message⟩

/-- One instruction of a trace; a word without text is shown by question marks. -/
def trace (address word : Int) (text : Option String) : Record :=
  let shown := match text with
    | none | some "" => "???"
    | some t => t
  ⟨.debug, "0x" ++ Numeral.hex 3 address ++ ": " ++ Numeral.hex 4 word ++ "  " ++ shown⟩

/-- A fault and below it the lines of its register dump, if it has one. -/
def fault (f : Fault) : List Record :=
  ⟨.critical, f.summary⟩ ::
    match f.snapshot.dump with
    | .error _ => []
    | .ok dump => (Text.lines dump).map fun line => ⟨.critical, "  " ++ line⟩

end Record

structure Logger where
  name : String
  threshold : Level
  colored : Bool
  stamped : Bool
  deriving DecidableEq, Repr

namespace Logger

def defaultName : String := "chip8vm"

/-- Colours are only used on a terminal. -/
def create (name levelName : String) (colors stamped terminal : Bool) :
    Except UnknownChoice Logger :=
  (Level.ofName levelName).map fun level => ⟨name, level, colors && terminal, stamped⟩

def enabled (l : Logger) (level : Level) : Bool := decide (l.threshold.rank ≤ level.rank)

/-- A clock tells the seconds in this many binary digits. -/
def clockDigits : Nat := 53

/-- Seconds since the logger was made, in a field of eight characters. -/
def stamp (elapsed : Rat) : String :=
  let seconds := Numeral.significant clockDigits elapsed
  "[" ++ Numeral.alignRight 8 (Numeral.hundredths seconds) ++ "s]"

def tag (l : Logger) (level : Level) : String :=
  let plain := "[" ++ Numeral.alignRight 8 level.label ++ "]"
  if l.colored then level.color ++ plain ++ "\x1b[0m" else plain

/-- The printed line, or nothing below the threshold. -/
def render (l : Logger) (elapsed : Rat) (r : Record) : String :=
  if l.enabled r.level then
    (if l.stamped then stamp elapsed else "") ++ tag l r.level ++
      "[" ++ l.name ++ "] " ++ r.message ++ "\n"
  else ""

end Logger
end Chip8.Log
