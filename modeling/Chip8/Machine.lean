import Chip8.Bitmap
import Chip8.CallStack
import Chip8.Instruction
import Chip8.Keypad
import Chip8.Random

/-! The state of the machine and what a host may do to it between instructions. Program counter
and index are full 16-bit words; only the places that read memory or push reduce them. -/
namespace Chip8

abbrev Registers := Vector UInt8 16

/-- `step` counts the cycles of the frame in progress, `frame` is the last display that was
emitted and `frames` the number of emissions. -/
structure Machine where
  random : Random.Stream
  memory : Memory
  pc : UInt16
  display : Screen
  stack : CallStack
  delay : UInt8
  sound : UInt8
  keypad : Keypad
  v : Registers
  i : UInt16
  step : Int32
  frame : Screen
  frames : Int32
  deriving DecidableEq

/-- A program image that does not fit between its start and the top of memory. -/
structure Oversize where
  size : Nat
  deriving DecidableEq, Repr

def Oversize.message (e : Oversize) : String :=
  "ROM is " ++ toString e.size ++ " bytes, at most " ++ toString programLimit ++
    " bytes fit in memory"

/-- What an instruction does once it has been fetched and found valid. -/
abbrev Effect := Instruction → Machine → Machine

namespace Machine

def powerOn (random : Random.Stream) : Machine where
  random := random
  memory := Memory.powerOn
  pc := UInt16.ofNat programStart
  display := Bitmap.blank
  stack := CallStack.empty
  delay := 0
  sound := 0
  keypad := Keypad.released
  v := Vector.replicate 16 0
  i := 0
  step := 0
  frame := Bitmap.blank
  frames := 0

/-- Power-on, except that the random stream goes on from where it was. -/
def reset (m : Machine) : Machine := powerOn m.random

def loadProgram (m : Machine) (image : List UInt8) : Except Oversize Machine :=
  if programLimit < image.length then .error ⟨image.length⟩
  else .ok { m with memory := m.memory.store programStart image }

def setKey (m : Machine) (index : Int) (down : Bool) : Except KeyError Machine :=
  (m.keypad.setKey index down).map fun keypad => { m with keypad }

def setKeys (m : Machine) (downs : List Bool) : Except KeyError Machine :=
  (Keypad.ofList downs).map fun keypad => { m with keypad }

def word (m : Machine) : UInt16 :=
  (m.memory.read m.pc.toNat).toUInt16 <<< 8 ||| (m.memory.read (m.pc.toNat + 1)).toUInt16

def advance (m : Machine) : Machine := { m with pc := m.pc + 2 }

end Machine
end Chip8
