import Chip8.Digit
import Chip8.Numeral

/-! The sixteen keys and the two ways in which a host presses them. -/
namespace Chip8

abbrev Key := Fin 16

/-- Key `k` is down when entry `k` is true. -/
abbrev Keypad := Vector Bool 16

inductive KeyError where
  | noSuchKey (index : Int)
  | indexTooLong
  | wrongCount (count : Nat)
  deriving DecidableEq, Repr

def KeyError.message : KeyError → String
  | .noSuchKey index => "Key index must be in 0..15, got " ++ Numeral.decimal index
  | .indexTooLong => "the key index has too many digits"
  | .wrongCount count => "Expected 16 key states, got " ++ toString count

namespace Keypad

def released : Keypad := Vector.replicate 16 false

def setKey (keypad : Keypad) (index : Int) (down : Bool) : Except KeyError Keypad :=
  if h : 0 ≤ index ∧ index < 16 then .ok (keypad.set index.toNat down (by omega))
  else .error (if Numeral.isWritable index then .noSuchKey index else .indexTooLong)

def ofList (downs : List Bool) : Except KeyError Keypad :=
  if h : downs.toArray.size = 16 then .ok ⟨downs.toArray, h⟩
  else .error (.wrongCount downs.length)

/-- The key with the smallest index that is down. -/
def lowest? (keypad : Keypad) : Option Key := (List.finRange 16).find? fun k => keypad.get k

theorem lowest?_eq_none_iff (keypad : Keypad) :
    keypad.lowest? = none ↔ ∀ key : Key, keypad.get key = false := by
  simp [lowest?, List.find?_eq_none]

end Keypad
end Chip8
