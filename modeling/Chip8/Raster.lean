import Chip8.Image

/-! Pixel arrays of any shape, as they are handed over to be drawn, and what is refused. -/
namespace Chip8

/-- Arrays of two dimensions carry pixels; of other arrays, and of those with no lit pixel, just
the shape matters. -/
inductive Raster where
  | flat {height width : Nat} (picture : Bitmap height width)
  | other (shape : List Nat)

inductive RenderError where
  | shape (given : List Nat)
  | component (value : Int)
  /-- So many components for so many pixels. -/
  | color (components pixels : Nat)
  | extent (e : ExtentError)
  deriving DecidableEq, Repr

inductive TextError where
  | noRows
  | noColumns
  /-- Each pixel is itself an array of this size. -/
  | deep (size : Nat)
  deriving DecidableEq, Repr

namespace Raster

def shape : Raster → List Nat
  | @flat height width _ => [height, width]
  | other shape => shape

def screen? : Raster → Option Screen
  | @flat 32 64 picture => some picture
  | _ => none

def ofSides (room : Extent.Room) (sides : List Int) : Except ExtentError Raster :=
  match Extent.obstacle? room sides with
  | some e => .error e
  | none => .ok (if sides = [32, 64] then flat (Bitmap.blank : Screen)
      else other (sides.map Int.toNat))

def colorOf (pixels : Nat) (components : List Int) : Except RenderError Color :=
  (Color.ofList components).mapError fun e => match e with
    | .component value => .component value
    | .length given => .color given pixels

/-- The shape is looked at before the colours, the lit colour before the unlit one, and the scale
at last. -/
def render (room : Extent.Room) (raster : Raster) (scale : Int) (on off : List Int) :
    Except RenderError Picture := do
  match raster.screen? with
  | none => throw (.shape raster.shape)
  | some screen =>
    let lit ← colorOf screen.litCount on
    let unlit ← colorOf (2048 - screen.litCount) off
    match scaleObstacle? room scale with
    | some e => throw (.extent e)
    | none => return Picture.ofScreen scale ⟨lit, unlit⟩ screen

/-- One line a row. Of an array without pixels in two dimensions only the rows count, and a pixel
that is an array with a single entry is that entry. -/
def toText (on off : String) : Raster → Except TextError String
  | flat picture => .ok (picture.toText on off)
  | other [] => .error .noRows
  | other (0 :: _) => .ok ""
  | other [_] => .error .noColumns
  | other (height :: width :: rest) =>
    let size := rest.foldl (· * ·) 1
    if width = 0 ∨ size = 1 then
      .ok ((Bitmap.blank : Bitmap height width).toText on off)
    else .error (.deep size)

end Raster

def TextError.message : TextError → String
  | .noRows => "an array without dimensions has no rows"
  | .noColumns => "an array of one dimension has no columns"
  | .deep size => "each pixel is an array of " ++ toString size ++ " entries"

def RenderError.message : RenderError → String
  | .shape given => "Expected frame shape (32, 64), got " ++ Extent.text given
  | .component value => "Color component " ++ toString value ++ " is not in 0..255"
  | .color components pixels =>
    toString components ++ " components are no color for " ++ toString pixels ++ " pixels"
  | .extent e => e.message

end Chip8
