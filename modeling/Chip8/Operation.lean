import Chip8.Instruction
import Chip8.Numeral

/-! The operations of the machine, the chart of words that name them, and their assembler text.
The chart is read from the top: the two exact words of family 0 come before its machine calls. -/
namespace Chip8

inductive Operation where
  | clear | ret | machineCall
  | jump | call
  | skipEqualByte | skipUnequalByte | skipEqual
  | loadByte | addByte
  | copy | or | and | xor | add | subtract | shiftRight | subtractFrom | shiftLeft
  | skipUnequal
  | loadIndex | jumpOffset | random | draw
  | skipPressed | skipReleased
  | readDelay | waitKey | setDelay | setSound | addIndex | glyph | digits | store | load
  deriving DecidableEq, Repr

/-- A family and the digits that are fixed in it; `none` admits every digit. -/
structure Pattern where
  family : Fin 16
  x : Option (Fin 16) := none
  y : Option (Fin 16) := none
  n : Option (Fin 16) := none
  deriving DecidableEq, Repr

namespace Pattern

def admits (fixed : Option (Fin 16)) (digit : Fin 16) : Bool :=
  match fixed with
  | none => true
  | some d => d == digit

def fits (p : Pattern) (i : Instruction) : Bool :=
  p.family == i.family && admits p.x i.x && admits p.y i.y && admits p.n i.n

end Pattern

namespace Operation

def chart : List (Pattern × Operation) :=
  [({ family := 0x0, x := some 0x0, y := some 0xE, n := some 0x0 }, clear),
   ({ family := 0x0, x := some 0x0, y := some 0xE, n := some 0xE }, ret),
   ({ family := 0x0 }, machineCall),
   ({ family := 0x1 }, jump),
   ({ family := 0x2 }, call),
   ({ family := 0x3 }, skipEqualByte),
   ({ family := 0x4 }, skipUnequalByte),
   ({ family := 0x5, n := some 0x0 }, skipEqual),
   ({ family := 0x6 }, loadByte),
   ({ family := 0x7 }, addByte),
   ({ family := 0x8, n := some 0x0 }, copy),
   ({ family := 0x8, n := some 0x1 }, or),
   ({ family := 0x8, n := some 0x2 }, and),
   ({ family := 0x8, n := some 0x3 }, xor),
   ({ family := 0x8, n := some 0x4 }, add),
   ({ family := 0x8, n := some 0x5 }, subtract),
   ({ family := 0x8, n := some 0x6 }, shiftRight),
   ({ family := 0x8, n := some 0x7 }, subtractFrom),
   ({ family := 0x8, n := some 0xE }, shiftLeft),
   ({ family := 0x9 }, skipUnequal),
   ({ family := 0xA }, loadIndex),
   ({ family := 0xB }, jumpOffset),
   ({ family := 0xC }, random),
   ({ family := 0xD }, draw),
   ({ family := 0xE, y := some 0x9, n := some 0xE }, skipPressed),
   ({ family := 0xE, y := some 0xA, n := some 0x1 }, skipReleased),
   ({ family := 0xF, y := some 0x0, n := some 0x7 }, readDelay),
   ({ family := 0xF, y := some 0x0, n := some 0xA }, waitKey),
   ({ family := 0xF, y := some 0x1, n := some 0x5 }, setDelay),
   ({ family := 0xF, y := some 0x1, n := some 0x8 }, setSound),
   ({ family := 0xF, y := some 0x1, n := some 0xE }, addIndex),
   ({ family := 0xF, y := some 0x2, n := some 0x9 }, glyph),
   ({ family := 0xF, y := some 0x3, n := some 0x3 }, digits),
   ({ family := 0xF, y := some 0x5, n := some 0x5 }, store),
   ({ family := 0xF, y := some 0x6, n := some 0x5 }, load)]

def digitText (d : Fin 16) : String := String.singleton (Numeral.digit d)

def register (r : Fin 16) : String := "V" ++ digitText r

def byte (i : Instruction) : String := "0x" ++ digitText i.y ++ digitText i.n

def target (i : Instruction) : String :=
  "0x" ++ digitText i.x ++ digitText i.y ++ digitText i.n

/-- Assembler text with the operands of `i`. The unused last digit of 9XYN is not shown. -/
def text (i : Instruction) : Operation → String
  | clear => "CLS"
  | ret => "RET"
  | machineCall => "SYS " ++ target i
  | jump => "JP " ++ target i
  | call => "CALL " ++ target i
  | skipEqualByte => "SE " ++ register i.x ++ ", " ++ byte i
  | skipUnequalByte => "SNE " ++ register i.x ++ ", " ++ byte i
  | skipEqual => "SE " ++ register i.x ++ ", " ++ register i.y
  | loadByte => "LD " ++ register i.x ++ ", " ++ byte i
  | addByte => "ADD " ++ register i.x ++ ", " ++ byte i
  | copy => "LD " ++ register i.x ++ ", " ++ register i.y
  | or => "OR " ++ register i.x ++ ", " ++ register i.y
  | and => "AND " ++ register i.x ++ ", " ++ register i.y
  | xor => "XOR " ++ register i.x ++ ", " ++ register i.y
  | add => "ADD " ++ register i.x ++ ", " ++ register i.y
  | subtract => "SUB " ++ register i.x ++ ", " ++ register i.y
  | shiftRight => "SHR " ++ register i.x ++ ", " ++ register i.y
  | subtractFrom => "SUBN " ++ register i.x ++ ", " ++ register i.y
  | shiftLeft => "SHL " ++ register i.x ++ ", " ++ register i.y
  | skipUnequal => "SNE " ++ register i.x ++ ", " ++ register i.y
  | loadIndex => "LD I, " ++ target i
  | jumpOffset => "JP V0, " ++ target i
  | random => "RND " ++ register i.x ++ ", " ++ byte i
  | draw => "DRW " ++ register i.x ++ ", " ++ register i.y ++ ", " ++ Numeral.decimal i.n
  | skipPressed => "SKP " ++ register i.x
  | skipReleased => "SKNP " ++ register i.x
  | readDelay => "LD " ++ register i.x ++ ", DT"
  | waitKey => "LD " ++ register i.x ++ ", K"
  | setDelay => "LD DT, " ++ register i.x
  | setSound => "LD ST, " ++ register i.x
  | addIndex => "ADD I, " ++ register i.x
  | glyph => "LD F, " ++ register i.x
  | digits => "LD B, " ++ register i.x
  | store => "LD [I], " ++ register i.x
  | load => "LD " ++ register i.x ++ ", [I]"

end Operation

namespace Instruction

/-- The operation of the first row of the chart that fits. -/
def operation? (i : Instruction) : Option Operation :=
  (Operation.chart.find? fun row => row.1.fits i).map (·.2)

def text? (i : Instruction) : Option String := i.operation?.map (Operation.text i)

end Instruction
end Chip8
