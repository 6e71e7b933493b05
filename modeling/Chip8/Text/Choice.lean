/-! How a message refuses a name that is none of a fixed list. -/
namespace Chip8

structure UnknownChoice where
  subject : String
  given : String
  available : List String
  deriving DecidableEq, Repr

def UnknownChoice.message (e : UnknownChoice) : String :=
  "Unknown " ++ e.subject ++ " '" ++ e.given ++ "'. Available: [" ++
    ", ".intercalate (e.available.map fun name => "'" ++ name ++ "'") ++ "]"

end Chip8
