import Chip8.Operation

/-! The listing of a program image: one line a word, from a given address on. -/
namespace Chip8.Listing

structure Line where
  address : Int
  word : UInt16
  text : String
  deriving DecidableEq, Repr

/-- Big-endian, as words stand in memory. -/
def pack (high low : UInt8) : UInt16 := high.toUInt16 <<< 8 ||| low.toUInt16

/-- A word that names no operation is shown as data, and so is an odd byte at the end. -/
def ofBytes (start : Int) : List UInt8 → List Line
  | high :: low :: rest =>
    let word := pack high low
    let text := (Instruction.decode word.toNat).text?.getD ("DW 0x" ++ Numeral.hex 4 word.toNat)
    ⟨start, word, text⟩ :: ofBytes (start + 2) rest
  | [last] => [⟨start, last.toUInt16, "DB 0x" ++ Numeral.hex 2 last.toNat⟩]
  | [] => []

def Line.render (line : Line) : String :=
  "0x" ++ Numeral.hex 3 line.address ++ ": " ++ Numeral.hex 4 line.word.toNat ++ "  " ++ line.text

end Chip8.Listing
