import Chip8.Bitmap
import Chip8.Extent
import Chip8.Palette

/-! Colour images of the screen, enlarged by repeating pixels in both directions. -/
namespace Chip8

abbrev Image (height width : Nat) := Vector (Vector Color width) height

theorem quotient_lt {n m k : Nat} (h : k < n * m) : k / m < n :=
  Nat.div_lt_of_lt_mul (Nat.mul_comm n m ▸ h)

def repeatEach {α : Type} {n : Nat} (m : Nat) (v : Vector α n) : Vector α (n * m) :=
  Vector.ofFn fun k =>
    have := quotient_lt k.isLt
    v[k.val / m]

namespace Image
variable {height width : Nat}

def magnify (m : Nat) (image : Image height width) : Image (height * m) (width * m) :=
  repeatEach m (image.map (repeatEach m))

/-- The same pixels column by column. -/
def transpose (image : Image height width) : Image width height :=
  Vector.ofFn fun x => Vector.ofFn fun y => image[y][x]

end Image

/-- A scale below one counts as one. -/
def magnification (scale : Int) : Nat := max scale.toNat 1

theorem magnification_eq (scale : Int) : (magnification scale : Int) = max scale 1 := by
  unfold magnification
  omega

/-- What keeps a screen from being enlarged. A scale has at most 63 bits; the rows are multiplied
before the columns, and sides run round in 64 bits. One that comes round to a length that would
do is still too long. -/
def scaleObstacle? (room : Extent.Room) (scale : Int) : Option ExtentError :=
  let height := (32 * scale).bmod (1 <<< 64)
  let width := (64 * scale).bmod (1 <<< 64)
  if scale ≤ 1 then none
  else if !Extent.isCountable scale then some .sideTooLong
  else
    let obstacles := [[height, 64, 3], [height, width, 3]]
    (obstacles.findSome? (Extent.obstacle? room)).orElse fun _ =>
      if Extent.isCountable (32 * scale) then none else some .tooManyBytes

def Bitmap.paint {height width : Nat} (palette : Palette) (picture : Bitmap height width) :
    Image height width :=
  picture.map fun row => row.map fun lit => if lit then palette.on else palette.off

def Bitmap.toImage (scale : Int) (palette : Palette) (screen : Screen) :
    Image (32 * magnification scale) (64 * magnification scale) :=
  (screen.paint palette).magnify (magnification scale)

structure Picture where
  height : Nat
  width : Nat
  pixels : Image height width

def Picture.ofScreen (scale : Int) (palette : Palette) (screen : Screen) : Picture :=
  ⟨_, _, screen.toImage scale palette⟩

def Picture.transpose (p : Picture) : Picture := ⟨p.width, p.height, p.pixels.transpose⟩

/-- A screen and how it is to be drawn, at a scale at which it can be where there is room. -/
structure Drawing where
  screen : Screen
  scale : Int
  palette : Palette
  drawable : ∃ room, scaleObstacle? room scale = none
  deriving DecidableEq

def Drawing.ofScreen (room : Extent.Room) (scale : Int) (palette : Palette) (screen : Screen) :
    Except ExtentError Drawing :=
  match h : scaleObstacle? room scale with
  | some e => .error e
  | none => .ok ⟨screen, scale, palette, room, h⟩

def Drawing.picture (d : Drawing) : Picture := Picture.ofScreen d.scale d.palette d.screen

/-- What a window is given: its surface is indexed by columns first. -/
def Drawing.surface (d : Drawing) : Picture := d.picture.transpose

end Chip8
