import Chip8.Effect.Arithmetic
import Chip8.Effect.Block
import Chip8.Effect.Branch
import Chip8.Effect.Register
import Chip8.Effect.Sprite

/-! From an instruction to its effect in two steps: the family by its first digit, and inside a
family the member by the remaining ones. Nothing is refused here: a word that names no operation
falls to some member of its family, and validation keeps such words away. -/
namespace Chip8.Machine

/-- Words 0NNN: the screen is cleared by 00E0, everything else returns. -/
def family0 : Effect := fun i m => if i.nnn = 0x0E0 then clear i m else ret i m

def members : List (UInt8 × Effect) :=
  [(0x07, readDelay), (0x0A, waitKey), (0x15, setDelay), (0x18, setSound), (0x1E, addIndex),
   (0x29, glyph), (0x33, storeDigits), (0x55, storeRegisters), (0x65, loadRegisters)]

/-- Words FXNN; a byte that has no member is taken for the first one. -/
def familyF : Effect := fun i m =>
  match members.find? (·.1 == i.nn) with
  | some (_, effect) => effect i m
  | none => readDelay i m

def families : Vector Effect 16 :=
  #v[family0, jump, call, skipEqualByte, skipUnequalByte, skipEqual, loadByte, addByte,
    family8, skipUnequal, loadIndex, jumpOffset, drawRandom, draw, familyE, familyF]

def dispatch : Effect := fun i m => families[i.family] i m

end Chip8.Machine
