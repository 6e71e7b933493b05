import Chip8.Palette
import Chip8.Setting

/-! The options of the program with their values when nothing is given, the flags that set them,
and what is wrong with arguments that are refused. -/
namespace Chip8.CommandLine

/-- Without `frames` there is a window, without `screenshot` no image file. -/
structure Options where
  rom : String
  frames : Option (Setting Int) := none
  scale : Setting Int := .given 8
  scheme : Setting String := .given "classic"
  seed : Setting Int := .given 0
  logLevel : Setting String := .given "INFO"
  trace : Bool := false
  screenshot : Option String := none
  ascii : Bool := false
  disassemble : Bool := false
  deriving DecidableEq, Repr

inductive Flag where
  | help
  | frames
  | scale
  | colorScheme
  | seed
  | logLevel
  | trace
  | screenshot
  | ascii
  | disassemble
  deriving DecidableEq, Repr

namespace Flag

def all : List Flag :=
  [help, frames, scale, colorScheme, seed, logLevel, trace, screenshot, ascii, disassemble]

def name : Flag → String
  | help => "--help"
  | frames => "--frames"
  | scale => "--scale"
  | colorScheme => "--color-scheme"
  | seed => "--seed"
  | logLevel => "--log-level"
  | trace => "--trace"
  | screenshot => "--screenshot"
  | ascii => "--ascii"
  | disassemble => "--disassemble"

def takesValue : Flag → Bool
  | help | trace | ascii | disassemble => false
  | _ => true

end Flag

inductive UsageError where
  | ambiguous (given : String)
  | missingValue (flag : Flag)
  | surplusValue (flag : Flag) (value : String)
  | notInteger (flag : Flag) (value : String)
  | notPalette (value : String)
  | missingRom
  | unrecognized (arguments : List String)
  deriving DecidableEq, Repr

def UsageError.message : UsageError → String
  | .ambiguous given => "ambiguous option: " ++ given
  | .missingValue flag => "argument " ++ flag.name ++ ": expected one argument"
  | .surplusValue flag value =>
    "argument " ++ flag.name ++ ": ignored explicit argument '" ++ value ++ "'"
  | .notInteger flag value => "argument " ++ flag.name ++ ": invalid int value: '" ++ value ++ "'"
  | .notPalette value =>
    "argument --color-scheme: invalid choice: '" ++ value ++ "' (choose from " ++
      ", ".intercalate Palette.names ++ ")"
  | .missingRom => "the following arguments are required: rom"
  | .unrecognized arguments => "unrecognized arguments: " ++ " ".intercalate arguments

end Chip8.CommandLine
