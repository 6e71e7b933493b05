import Chip8.Window

/-! A terminal in place of a window: each line that is typed is one turn. A terminal does not tell
when a key goes up, so the keys of a line are held for its turn and let go at the next one. -/
namespace Chip8.Terminal

/-- The words of a line: single letters, and the two keys that have a name. -/
def keys (line : String) : List HostKey :=
  (line.splitToList fun c => c == ' ' || c == '\n' || c == '\r' || c == '\t').filterMap fun word =>
    match word.toList with
    | [c] => some (.letter c)
    | _ =>
      if word = "escape" then some .escape
      else if word = "backspace" then some .backspace
      else none

/-- Let go of the keys of the turn before, then press those of this one. -/
def events (before now : List HostKey) : List Event := before.map .up ++ now.map .down

end Chip8.Terminal
