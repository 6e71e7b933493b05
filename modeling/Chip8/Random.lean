/-! A splittable random stream. No state of it is drawn from twice: each splits into the state to
go on with and one to spend. The mixing function is twenty rounds of Threefry on two words. -/
namespace Chip8.Random

structure Stream where
  high : UInt32
  low : UInt32
  deriving DecidableEq, Repr

def mix : List UInt32 → UInt32 × UInt32 → UInt32 × UInt32
  | [], x => x
  | r :: rest, (a, b) => mix rest (a + b, (b <<< r ||| b >>> (32 - r)) ^^^ (a + b))

def evenRotations : List UInt32 := [13, 15, 26, 6]
def oddRotations : List UInt32 := [17, 29, 16, 24]

namespace Stream

/-- Seeds are signed 64-bit numbers, of which only the low half counts. -/
def ofSeed? (seed : Int) : Option Stream :=
  if -0x8000000000000000 ≤ seed ∧ seed < 0x8000000000000000 then some ⟨0, UInt32.ofInt seed⟩
  else none

/-- Five groups of rounds, with the three words of the key schedule added in turn between them. -/
def block (s : Stream) (counter : UInt32) : Stream :=
  let third := s.high ^^^ s.low ^^^ 0x1BD11BDA
  let group (rotations : List UInt32) (k l i : UInt32) (x : UInt32 × UInt32) :=
    let mixed := mix rotations x
    (mixed.1 + k, mixed.2 + l + i)
  let x := (s.high, counter + s.low)
  let x := group evenRotations s.low third 1 x
  let x := group oddRotations third s.high 2 x
  let x := group evenRotations s.high s.low 3 x
  let x := group oddRotations s.low third 4 x
  let x := group evenRotations third s.high 5 x
  ⟨x.1, x.2⟩

def next (s : Stream) : Stream := s.block 0

def spare (s : Stream) : Stream := s.block 1

/-- The byte drawn here: the low eight bits of both words of one block, added bit by bit. -/
def byte (s : Stream) : UInt8 :=
  let bits := s.spare.spare.block 0
  (bits.high ^^^ bits.low).toUInt8

end Stream
end Chip8.Random
