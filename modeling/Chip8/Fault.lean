import Chip8.Snapshot

/-! Why a program cannot go on, and the report of it with the state of the machine. -/
namespace Chip8

namespace Fault

inductive Kind where
  | general
  | stackUnderflow
  | stackOverflow
  | unknownOpcode
  | machineCall
  deriving DecidableEq, Repr

def Kind.name : Kind → String
  | .general => "MachineFault"
  | .stackUnderflow => "StackUnderflow"
  | .stackOverflow => "StackOverflow"
  | .unknownOpcode => "UnknownOpcode"
  | .machineCall => "UnimplementedSubroutineCall"

end Fault

structure Fault where
  kind : Fault.Kind
  message : String
  snapshot : Snapshot
  deriving DecidableEq, Repr

def Fault.summary (f : Fault) : String :=
  f.kind.name ++ " at 0x" ++ Numeral.hex 3 f.snapshot.address ++ ": " ++ f.message

/-- The four conditions under which a word may not be executed. -/
inductive Violation where
  | machineCall (target : UInt16)
  | returnFromNothing
  | callTooDeep
  | noOperation (word : Int)
  deriving DecidableEq, Repr

namespace Violation

def kind : Violation → Fault.Kind
  | machineCall _ => .machineCall
  | returnFromNothing => .stackUnderflow
  | callTooDeep => .stackOverflow
  | noOperation _ => .unknownOpcode

def message : Violation → String
  | machineCall target =>
    "machine-language call to 0x" ++ Numeral.hex 3 target.toNat ++ " is not supported"
  | returnFromNothing => "return with an empty call stack"
  | callTooDeep => "call with a full call stack"
  | noOperation word => "no operation matches 0x" ++ Numeral.hex 4 word

end Violation
end Chip8
