/-! The value of an option. An option can be named and yet left without a value. -/
namespace Chip8

inductive Setting (α : Type) where
  | given (value : α)
  | blank
  deriving DecidableEq, Repr

namespace Setting
variable {α β : Type}

def map (f : α → β) : Setting α → Setting β
  | given value => given (f value)
  | blank => blank

def require {ε : Type} (error : ε) : Setting α → Except ε α
  | given value => .ok value
  | blank => .error error

end Setting
end Chip8
