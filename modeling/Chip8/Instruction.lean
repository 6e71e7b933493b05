import Chip8.Digit

/-! An instruction word as its four hexadecimal digits. Any integer may stand for a word: only its
low sixteen bits count, so the digits of a negative number are those of its two's complement. -/
namespace Chip8

/-- The first digit picks the family; `x` and `y` name registers, and `n`, `y n` and `x y n` are
the operands of four, eight and twelve bits. -/
structure Instruction where
  family : Fin 16
  x : Fin 16
  y : Fin 16
  n : Fin 16
  deriving DecidableEq, Repr

namespace Instruction

/-- The hexadecimal digit of `word` that counts multiples of `unit`. -/
def digitAt (word unit : Int) : Fin 16 := Fin.ofNat 16 (word / unit % 16).toNat

def decode (word : Int) : Instruction :=
  ⟨digitAt word 4096, digitAt word 256, digitAt word 16, digitAt word 1⟩

def nn (i : Instruction) : UInt8 := UInt8.ofNat (16 * i.y + i.n)

def nnn (i : Instruction) : UInt16 := UInt16.ofNat (256 * i.x + 16 * i.y + i.n)

def word (i : Instruction) : UInt16 := UInt16.ofNat (4096 * i.family + 256 * i.x + 16 * i.y + i.n)

theorem decode_word (i : Instruction) : decode i.word.toNat = i := by
  obtain ⟨⟨f, hf⟩, ⟨x, hx⟩, ⟨y, hy⟩, ⟨n, hn⟩⟩ := i
  simp only [decode, digitAt, word, UInt16.toNat_ofNat', Fin.ofNat, Instruction.mk.injEq,
    Fin.mk.injEq]
  omega

theorem decode_emod (word : Int) : decode (word % 65536) = decode word := by
  simp only [decode, digitAt, Fin.ofNat, Instruction.mk.injEq, Fin.mk.injEq]
  omega

end Instruction
end Chip8
