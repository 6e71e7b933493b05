import Chip8.CommandLine.Integer
import Chip8.CommandLine.Options

/-! Arguments by their looks: flags, operands and what is neither. Long names may be cut short
while they stay unambiguous, and a value may follow an equals sign. -/
namespace Chip8.CommandLine

inductive Token where
  | operand (text : String)
  | separator
  | named (flag : Flag) (value : Option String)
  | unknown (text : String)
  deriving DecidableEq, Repr

namespace Token

def splitEquals (text : String) : String × Option String :=
  let chars := text.toList
  let rest := chars.dropWhile (· != '=')
  let value := if rest = [] then none else some (String.ofList rest.tail)
  (String.ofList (chars.takeWhile (· != '=')), value)

/-- The flags that a long name may stand for: the one with exactly this name, or else all that
start with it. -/
def candidates (name : String) : List Flag :=
  match Flag.all.find? fun flag => flag.name == name with
  | some flag => [flag]
  | none => Flag.all.filter fun flag => name.toList.isPrefixOf flag.name.toList

/-- The single-letter option for help may be repeated behind its minus sign, the first time also
behind an equals sign; anything else behind it is a value. -/
def shortHelp (tail : List Char) : Token :=
  let text := match tail with
    | '=' :: rest => rest
    | _ => tail
  if tail = [] ∨ (text ≠ [] ∧ text.all (· == 'h')) then named .help none
  else named .help (some (String.ofList text))

/-- An argument that names no flag: negative numbers and whatever holds a space are operands. -/
def nameless (text : String) : Token :=
  if looksNegative text || text.toList.contains ' ' then operand text else unknown text

/-- Anything that does not start with a minus sign is an operand, and so is a minus sign alone. -/
def ofArgument (text : String) : Except UsageError Token :=
  match text.toList with
  | '-' :: 'h' :: tail => .ok (shortHelp tail)
  | '-' :: '-' :: _ =>
    let (name, value) := splitEquals text
    match candidates name with
    | [] => .ok (nameless text)
    | [found] => .ok (named found value)
    | _ => .error (.ambiguous text)
  | '-' :: _ :: _ => .ok (nameless text)
  | _ => .ok (operand text)

/-- After the first bare double minus everything is an operand. -/
def ofArguments : List String → Except UsageError (List Token)
  | [] => .ok []
  | "--" :: rest => .ok (separator :: rest.map operand)
  | text :: rest => do return (← ofArgument text) :: (← ofArguments rest)

end Token

end Chip8.CommandLine
