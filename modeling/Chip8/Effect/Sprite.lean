import Chip8.Machine

/-! Sprites: up to fifteen rows of eight pixels, read from memory and flipped into the display.
Each pixel runs round the edges of the screen on its own. -/
namespace Chip8

namespace Sprite

/-- Rows and columns of the block that every sprite fills, whatever its height. -/
def cells : List (Fin 16 × Fin 8) :=
  (List.finRange 16).flatMap fun r => (List.finRange 8).map fun c => (r, c)

/-- The pixel of one cell of a sprite of `height` rows at `a`, with its corner at `x`, `y`. The rows
that it does not have are off. -/
def dot (memory : Memory) (a height x y : Nat) (cell : Fin 16 × Fin 8) : Bitmap.Dot 32 64 where
  row := Fin.ofNat 32 (y + cell.1)
  column := Fin.ofNat 64 (x + cell.2)
  lit := decide (cell.1 < height) && (memory.read (a + cell.1)).toNat.testBit (7 - cell.2)

end Sprite

def Memory.sprite (memory : Memory) (a height x y : Nat) : Screen :=
  Bitmap.blank.scatter (Sprite.cells.map (Sprite.dot memory a height x y))

namespace Machine

def clear : Effect := fun _ m => { m with display := Bitmap.blank }

/-- Word DXYN: VF tells whether a lit pixel was turned off. -/
def draw : Effect := fun i m =>
  let sprite := m.memory.sprite m.i.toNat i.n (m.v.get i.x).toNat (m.v.get i.y).toNat
  { m with
    display := m.display.xor sprite
    v := Digit.put m.v 0xF (if m.display.meets sprite then 1 else 0) }

end Machine
end Chip8
