import Chip8.Proofs.Cycle

/-! What a host may do with a machine, as data: inputs to a running program, and all requests
that there are. A request that is refused leaves the machine as it was. -/
namespace Chip8

/-- What reaches a program while it runs: a change of keys, one cycle, the rest of a frame. -/
inductive Input where
  | setKey (index : Int) (down : Bool)
  | setKeys (downs : List Bool)
  | cycle
  | frame
  deriving DecidableEq, Repr

inductive Request where
  | input (input : Input)
  | reset
  | load (image : List UInt8)
  | fetch
  | execute (word : Int)
  | closeFrame
  | run (frames : Int) (logger : Log.Logger) (progress trace : Bool)

namespace Machine

def feed (m : Machine) : Input → Machine × Option Fault
  | .setKey index down => ((m.setKey index down).toOption.getD m, none)
  | .setKeys downs => ((m.setKeys downs).toOption.getD m, none)
  | .cycle => m.cycles 1
  | .frame => m.advanceFrame

/-- One input after the other, also after a fault, with what each of them met. -/
def session : List Input → Machine → Machine × List (Option Fault)
  | [], m => (m, [])
  | input :: rest, m =>
    let after := session rest (m.feed input).1
    (after.1, (m.feed input).2 :: after.2)

def serve (m : Machine) : Request → Machine
  | .input input => (m.feed input).1
  | .reset => m.reset
  | .load image => (m.loadProgram image).toOption.getD m
  | .fetch => m.fetch.1
  | .execute word => (m.execute word).toOption.getD m
  | .closeFrame => m.closeFrame
  | .run frames logger progress trace =>
    ((m.run frames logger progress trace).map Run.machine).toOption.getD m

inductive Reachable : Machine → Prop
  | powerOn (random : Random.Stream) : Reachable (powerOn random)
  | serve {m : Machine} (request : Request) : Reachable m → Reachable (m.serve request)

theorem feed_setKey (m : Machine) (index : Int) (down : Bool) :
    m.feed (.setKey index down) =
      ({ m with keypad := (m.keypad.setKey index down).toOption.getD m.keypad }, none) := by
  rw [feed, setKey]
  cases m.keypad.setKey index down <;> rfl

theorem feed_setKeys (m : Machine) (downs : List Bool) :
    m.feed (.setKeys downs) =
      ({ m with keypad := (Keypad.ofList downs).toOption.getD m.keypad }, none) := by
  rw [feed, setKeys]
  cases Keypad.ofList downs <;> rfl

/-- An image that does not fit is not loaded in part. -/
theorem serve_load (m : Machine) (image : List UInt8) :
    m.serve (.load image) = { m with
      memory := if programLimit < image.length then m.memory
        else m.memory.store programStart image } := by
  rw [serve, loadProgram]
  split <;> rfl

end Machine
end Chip8
