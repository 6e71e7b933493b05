import Chip8.Log
import Chip8.Proofs.Readback

/-! The register dump read back. Every number in it ends at a character that no numeral holds, so
each line gives back its fields, and the five lines give back the snapshot. -/
namespace Chip8
open Numeral Text

namespace Operation

private theorem unbroken_digitText (d : Fin 16) : Unbroken (digitText d).toList := by
  rw [digitText, String.toList_singleton]
  revert d
  decide

private theorem unbroken_text (i : Instruction) (op : Operation) : Unbroken (op.text i).toList := by
  cases op <;> simp [text, register, byte, target, unbroken_append, unbroken_cons, unbroken_nil,
    isLineBreak, unbroken_digitText, unbroken_decimal]

end Operation

namespace Snapshot
variable {s t : Snapshot}

private def slotText (address : Int) : String := "0x" ++ hex 3 address

private theorem toList_stackLine (s : Snapshot) : s.stackLine.toList =
    's' :: 't' :: 'a' :: 'c' :: 'k' :: '[' :: ((decimal s.stack.length).toList ++
      ']' :: ':' :: ' ' :: (if s.stack = [] then "empty"
        else " ".intercalate (s.stack.map slotText)).toList) := by
  change ("stack[" ++ decimal s.stack.length ++ "]: " ++
    (if s.stack = [] then "empty" else " ".intercalate (s.stack.map slotText))).toList = _
  simp

private theorem unbroken_timerText (timer : Option Int) : Unbroken (timerText timer).toList := by
  cases timer with
  | none => decide
  | some n => exact unbroken_decimal n

private theorem unbroken_instruction (s : Snapshot) :
    Unbroken (s.instruction?.getD "unknown").toList := by
  rw [instruction?, Instruction.text?]
  cases (Instruction.decode s.opcode).operation? with
  | none => exact (by decide : Unbroken "unknown".toList)
  | some op => exact op.unbroken_text _

private theorem unbroken_registerLine (first : Nat) (values : List Int) :
    Unbroken (registerLine first values).toList := by
  apply unbroken_intercalate (by decide)
  intro part hpart
  obtain ⟨entry, -, rfl⟩ := List.mem_map.mp hpart
  simp [unbroken_append, unbroken_cons, isLineBreak, unbroken_hex]

private theorem unbroken_slots (stack : List Int) :
    Unbroken (" ".intercalate (stack.map slotText)).toList := by
  apply unbroken_intercalate (by decide)
  intro part hpart
  obtain ⟨address, -, rfl⟩ := List.mem_map.mp hpart
  simp [slotText, unbroken_cons, isLineBreak, unbroken_hex]

private theorem unbroken_lines (s : Snapshot) : ∀ line ∈ s.lines, Unbroken line.toList := by
  simp only [lines, List.forall_mem_cons]
  refine ⟨?_, ?_, unbroken_registerLine _ _, unbroken_registerLine _ _, ?_, List.forall_mem_nil _⟩
  · simp [headLine, unbroken_append, unbroken_cons, unbroken_nil, isLineBreak, unbroken_hex,
      unbroken_instruction]
  · simp [counterLine, unbroken_append, unbroken_cons, isLineBreak, unbroken_hex,
      unbroken_timerText]
  · have hslots : Unbroken (if s.stack = [] then "empty"
        else " ".intercalate (s.stack.map slotText)).toList := by
      split
      · decide
      · exact unbroken_slots s.stack
    rw [toList_stackLine]
    simp [unbroken_append, unbroken_cons, isLineBreak, unbroken_decimal, hslots]

private theorem dump_of_timers (hv : s.v.length = 16) (h : s.showsTimers = true) :
    s.dump = .ok ("\n".intercalate s.lines) := by
  rw [dump, obstacle?, h]
  simp [hv]

private theorem lines_dump (s : Snapshot) : Text.lines ("\n".intercalate s.lines) = s.lines := by
  apply lines_intercalate s.unbroken_lines
  intro hlast
  have hstack : s.stackLine = "" := Option.some.inj hlast
  have hchars := congrArg String.toList hstack
  rw [toList_stackLine] at hchars
  cases hchars

end Snapshot

/-- A machine has sixteen registers, and its timers have at most three digits. -/
theorem Machine.snapshot_dumps (m : Machine) (word address : Int) :
    (m.snapshot word address).v.length = 16 ∧ (m.snapshot word address).showsTimers = true := by
  have hbyte (b : UInt8) : isWritable b.toNat = true := by
    have hlt := b.toNat_lt
    have hlimit : 256 < limit := by decide +kernel
    have hwrite := limit_lt_writeLimit
    exact isWritable_iff.mpr (by omega)
  simp [snapshot, Snapshot.showsTimers, hbyte]

namespace Log
variable {f g : Fault}

theorem Record.fault_eq (hv : f.snapshot.v.length = 16) (h : f.snapshot.showsTimers = true) :
    Record.fault f =
      ⟨.critical, f.summary⟩ :: f.snapshot.lines.map fun line => ⟨.critical, "  " ++ line⟩ := by
  rw [Record.fault, Snapshot.dump_of_timers hv h]
  dsimp only
  rw [Snapshot.lines_dump]

end Log
end Chip8
