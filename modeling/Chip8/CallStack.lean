import Chip8.Digit
import Chip8.Memory

/-! Sixteen slots for return addresses. Nothing here refuses a push or a pop: validation comes
before execution, so a position outside the slots is only reached by direct use. -/
namespace Chip8

/-- `pointer` is the position of the next push and may leave the slots at either end. -/
structure CallStack where
  slots : Vector UInt16 16
  pointer : Int32
  deriving DecidableEq

namespace CallStack

def empty : CallStack := ⟨Vector.replicate 16 0, 0⟩

def depth (s : CallStack) : Int := s.pointer.toInt

/-- Positions just below zero count back from the last slot. -/
def position (p : Int) : Int := if p < 0 then p + 16 else p

/-- A slot outside the sixteen reads as the nearest one. -/
def readSlot (s : CallStack) (p : Int) : UInt16 :=
  s.slots.get (Fin.ofNat 16 (min (position p).toNat 15))

/-- A write outside the sixteen slots is lost. -/
def writeSlot (s : CallStack) (p : Int) (value : UInt16) : Vector UInt16 16 :=
  let q := position p
  if h : 0 ≤ q ∧ q < 16 then s.slots.set q.toNat value (by omega) else s.slots

/-- Return addresses keep their low twelve bits. -/
def push (s : CallStack) (a : UInt16) : CallStack :=
  ⟨s.writeSlot s.pointer.toInt (a &&& 0xFFF), s.pointer + 1⟩

/-- The slot below the depth, which is cleared. -/
def pop (s : CallStack) : CallStack × UInt16 :=
  let top := s.pointer - 1
  (⟨s.writeSlot top.toInt 0, top⟩, s.readSlot top.toInt)

def isEmpty (s : CallStack) : Bool := s.depth == 0

def isFull (s : CallStack) : Bool := decide (16 ≤ s.depth)

/-- The slots below the depth; a depth under zero leaves out that many at the end. -/
def live (s : CallStack) : List UInt16 := s.slots.toList.take (position s.depth).toNat

end CallStack
end Chip8
