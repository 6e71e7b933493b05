/-! One-bit pictures of any size, stored row by row, and the screen of the machine. -/
namespace Chip8

/-- Rows from top to bottom, each from left to right; `true` is a lit pixel. -/
abbrev Bitmap (height width : Nat) := Vector (Vector Bool width) height

abbrev Screen := Bitmap 32 64

namespace Bitmap
variable {height width : Nat}

def blank : Bitmap height width :=
  Vector.replicate height (Vector.replicate width false)

structure Dot (height width : Nat) where
  row : Fin height
  column : Fin width
  lit : Bool

def put (picture : Bitmap height width) (dot : Dot height width) : Bitmap height width :=
  Vector.set picture dot.row (picture[dot.row].set dot.column dot.lit)

def scatter (picture : Bitmap height width) (dots : List (Dot height width)) :
    Bitmap height width :=
  dots.foldl put picture

/-- The pixels that exactly one of the two pictures lights. -/
def xor (a b : Bitmap height width) : Bitmap height width :=
  Vector.zipWith (Vector.zipWith Bool.xor) a b

def meets (a b : Bitmap height width) : Bool :=
  (Vector.zipWith (Vector.zipWith Bool.and) a b).any fun row => row.any id

def litCount (picture : Bitmap height width) : Nat :=
  (picture.toList.flatMap Vector.toList).countP id

/-- One line a row, with `on` and `off` standing for the pixels; no line break at the end. -/
def toText (on off : String) (picture : Bitmap height width) : String :=
  "\n".intercalate (picture.toList.map fun row =>
    String.join (row.toList.map fun lit => if lit then on else off))

@[simp] theorem blank_pixel {y x : Nat} (hy : y < height) (hx : x < width) :
    (blank : Bitmap height width)[y][x] = false := by
  simp [blank]

@[simp] theorem xor_pixel (a b : Bitmap height width) {y x : Nat} (hy : y < height)
    (hx : x < width) : (a.xor b)[y][x] = Bool.xor a[y][x] b[y][x] := by
  simp [xor]

theorem meets_iff (a b : Bitmap height width) :
    a.meets b = true ↔ ∃ (y : Nat) (hy : y < height) (x : Nat) (hx : x < width),
      a[y][x] = true ∧ b[y][x] = true := by
  simp [meets, Vector.any_eq_true]

end Bitmap
end Chip8
