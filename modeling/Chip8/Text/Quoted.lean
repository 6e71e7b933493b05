import Chip8.Numeral
import Chip8.Text.Printable

/-! Text between quotes on one line, as messages show a name that may hold anything. -/
namespace Chip8.Text

/-- Double quotes only where that saves escapes. -/
def quoteFor (text : List Char) : Char :=
  if text.contains '\'' && !text.contains '"' then '"' else '\''

/-- The code point behind a letter that tells how many digits follow. -/
def codePoint (c : Char) : String :=
  let n := c.toNat
  let digits (width : Nat) := String.ofList ((Numeral.hex width n).toList.map Char.toLower)
  if n < 0x100 then "\\x" ++ digits 2
  else if n < 0x10000 then "\\u" ++ digits 4
  else "\\U" ++ digits 8

def escaped (quote c : Char) : String :=
  if c = quote ∨ c = '\\' then String.ofList ['\\', c]
  else if c = '\n' then "\\n"
  else if c = '\r' then "\\r"
  else if c = '\t' then "\\t"
  else if isPrintable c then String.singleton c
  else codePoint c

def quoted (text : String) : String :=
  let quote := quoteFor text.toList
  String.singleton quote ++ String.join (text.toList.map (escaped quote)) ++
    String.singleton quote

end Chip8.Text
