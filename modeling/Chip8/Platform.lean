import Chip8.Extent
import Chip8.Setting

/-! What the system that a host runs on can refuse: memory, a window, and an image in it. The
caption of a window, its clock and its events are taken for granted. -/
namespace Chip8

/-- `room` tells whether there is memory for so many bytes, `opens` whether a window that is asked
for in this size is opened, and `draws` whether an image of so many columns and rows can be drawn
into it. -/
structure Platform where
  room : Extent.Room
  opens (width height : Setting Int) : Bool
  draws (width height : Setting Int) (columns rows : Nat) : Bool

def Platform.permissive : Platform := ⟨fun _ => true, fun _ _ => true, fun _ _ _ _ => true⟩

end Chip8
