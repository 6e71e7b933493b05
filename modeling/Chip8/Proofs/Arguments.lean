import Chip8.CommandLine.Reading
import Chip8.Log
import Chip8.Proofs.Readback
import Mathlib.Data.List.TakeWhile

/-! The arguments of a run without a window, read in order. An integer that is typed as it is
written is read back, as long as it has not too many digits. -/
namespace Chip8.CommandLine
open Numeral

namespace Token

end Token

/-- Options of a run without a window besides the number of its frames. -/
inductive Extra where
  | seed (n : Int)
  | scale (n : Int)
  | logLevel (name : String)
  | colorScheme (name : String)
  | trace
  | ascii
  deriving DecidableEq

namespace Extra

def flag : Extra → Flag
  | seed _ => .seed
  | scale _ => .scale
  | logLevel _ => .logLevel
  | colorScheme _ => .colorScheme
  | trace => .trace
  | ascii => .ascii

def value? : Extra → Option String
  | seed n | scale n => some (decimal n)
  | logLevel name | colorScheme name => some name
  | trace | ascii => none

def arguments (e : Extra) : List String := e.flag.name :: e.value?.toList

def Accepted : Extra → Prop
  | seed n => -0x8000000000000000 ≤ n ∧ n < 0x8000000000000000
  | scale n => isWritable n = true
  | logLevel name => ∃ level, Log.Level.ofName name = .ok level
  | colorScheme name => name ∈ Palette.names
  | trace | ascii => True

def apply (o : Options) : Extra → Options
  | seed n => { o with seed := .given n }
  | scale n => { o with scale := .given n }
  | logLevel name => { o with logLevel := .given name }
  | colorScheme name => { o with scheme := .given name }
  | trace => { o with trace := true }
  | ascii => { o with ascii := true }

variable {e : Extra} {extras : List Extra} {r : Reading}

end Extra

section Headless
variable {rom : String} {frames : Int} {extras : List Extra}
  (hrom : Token.ofArgument rom = .ok (.operand rom))
include hrom

end Headless
end Chip8.CommandLine
