/-! Classes of characters as lists of closed ranges of code points, ascending and apart. The data
are those of Unicode 14. -/
namespace Chip8.Text

/-- The first range that does not end below `n` is the only one that can hold it. -/
def within (ranges : List (Nat × Nat)) (n : Nat) : Bool :=
  match ranges.find? fun range => n ≤ range.2 with
  | some range => range.1 ≤ n
  | none => false

end Chip8.Text
