import Chip8.CommandLine.Token

/-! Tokens read in order into options. A value follows its flag, the one operand names the program
image, and of a flag that is given twice the last value counts. -/
namespace Chip8.CommandLine

/-- The flags read so far, the operand that names the program image, and whatever has no place. -/
structure Reading where
  options : Options
  rom : Option String := none
  surplus : List String := []
  /-- The last token was the operand that was taken. -/
  justTaken : Bool := false

namespace Reading

def start : Reading := { options := { rom := "" } }

/-- A bare double minus behind an equals sign leaves the option without a value. -/
def entry (text : String) : Setting String := if text = "--" then .blank else .given text

def readInteger (flag : Flag) : Setting String → Except UsageError (Setting Int)
  | .blank => .ok .blank
  | .given text =>
    match integer? text with
    | some n => .ok (.given n)
    | none => .error (.notInteger flag text)

def readPalette : Setting String → Except UsageError (Setting String)
  | .blank => .ok .blank
  | .given name => if name ∈ Palette.names then .ok (.given name) else .error (.notPalette name)

def setValue (o : Options) (flag : Flag) (value : Setting String) :
    Except UsageError Options :=
  match flag with
  | .frames => (readInteger flag value).map fun n => { o with frames := some n }
  | .scale => (readInteger flag value).map fun n => { o with scale := n }
  | .seed => (readInteger flag value).map fun n => { o with seed := n }
  | .colorScheme => (readPalette value).map fun name => { o with scheme := name }
  | .logLevel => .ok { o with logLevel := value }
  | .screenshot =>
    match value with
    | .given path => .ok { o with screenshot := some path }
    | .blank => .ok { o with screenshot := none }
  | .help | .trace | .ascii | .disassemble => .ok o

def setSwitch (o : Options) : Flag → Options
  | .trace => { o with trace := true }
  | .ascii => { o with ascii := true }
  | .disassemble => { o with disassemble := true }
  | _ => o

def takeOperand (r : Reading) (text : String) : Reading :=
  match r.rom with
  | none => { r with rom := some text, justTaken := true }
  | some _ => { r with surplus := r.surplus ++ [text], justTaken := false }

def addSurplus (r : Reading) (text : String) : Reading :=
  { r with surplus := r.surplus ++ [text], justTaken := false }

def giveValue (r : Reading) (flag : Flag) (value : String) : Except UsageError Reading :=
  (setValue r.options flag (entry value)).map fun options =>
    { r with options, justTaken := false }

def setFlag (r : Reading) (flag : Flag) : Reading :=
  { r with options := setSwitch r.options flag, justTaken := false }

/-- A separator is dropped beside the operand that is taken, and has no place elsewhere. -/
def passSeparator (r : Reading) (operandFollows : Bool) : Reading :=
  if r.justTaken || (r.rom.isNone && operandFollows) then r else r.addSurplus "--"

def finish (r : Reading) : Except UsageError Options :=
  match r.rom with
  | none => .error .missingRom
  | some rom =>
    if r.surplus = [] then .ok { r.options with rom } else .error (.unrecognized r.surplus)

end Reading

inductive Request where
  | run (options : Options)
  | help
  deriving DecidableEq, Repr

/-- Read the tokens in order. Help is granted when its turn comes, whatever follows. -/
def readTokens (r : Reading) : List Token → Except UsageError Request
  | [] => r.finish.map .run
  | .operand text :: rest => readTokens (r.takeOperand text) rest
  | .unknown text :: rest => readTokens (r.addSurplus text) rest
  | .separator :: rest => readTokens (r.passSeparator (!rest.isEmpty)) rest
  | .named flag (some value) :: rest =>
    if flag.takesValue then
      match r.giveValue flag value with
      | .ok r => readTokens r rest
      | .error e => .error e
    else .error (.surplusValue flag value)
  | .named flag none :: rest =>
    if flag.takesValue then
      match rest with
      | .operand value :: rest =>
        match r.giveValue flag value with
        | .ok r => readTokens r rest
        | .error e => .error e
      | _ => .error (.missingValue flag)
    else if flag = .help then .ok .help
    else readTokens (r.setFlag flag) rest

/-- A name that is cut too short is refused before anything is read. -/
def parse (arguments : List String) : Except UsageError Request := do
  readTokens Reading.start (← Token.ofArguments arguments)

end Chip8.CommandLine
