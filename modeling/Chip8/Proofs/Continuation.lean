import Chip8.Proofs.Calls

/-! Where a machine goes on after a cycle, and with which return addresses: jumps, calls, returns,
skips, the wait for a key, and the next word after everything else. -/
namespace Chip8

namespace CallStack
variable {s : CallStack}

private theorem live_eq_take (h : 0 ≤ s.depth) : s.live = s.slots.toList.take s.depth.toNat := by
  rw [live, position, if_neg (by omega)]

private theorem take_set (slots : Vector UInt16 16) {p : Nat} (hp : p < 16) (a : UInt16) :
    (slots.set p a).toList.take p = slots.toList.take p := by
  rw [Vector.toList_set]
  exact List.take_set_of_le (Nat.le_refl p)

private theorem take_succ (slots : Vector UInt16 16) {p : Nat} (hp : p < 16) :
    slots.toList.take (p + 1) = slots.toList.take p ++ [slots[p]] := by
  have hlength : p < slots.toList.length := by rwa [Vector.length_toList]
  exact (List.take_append_getElem hlength).symm

private theorem live_push (h0 : 0 ≤ s.depth) (h16 : s.depth < 16) (a : UInt16) :
    (s.push a).live = s.live ++ [a &&& 0xFFF] := by
  have hdepth : (s.depth + 1).toNat = s.depth.toNat + 1 := by omega
  have hp : s.depth.toNat < 16 := by omega
  rw [live_eq_take (by rw [depth_push h0 h16]; omega), live_eq_take h0, depth_push h0 h16, hdepth,
    push_of_lt h0 h16, take_succ _ hp, take_set _ hp, Vector.getElem_set_self]

/-- A pop takes the last live entry. -/
theorem live_pop (h0 : 0 < s.depth) (h16 : s.depth ≤ 16) : s.live = s.pop.1.live ++ [s.pop.2] := by
  have hdepth : s.depth.toNat = (s.depth - 1).toNat + 1 := by omega
  have hp : (s.depth - 1).toNat < 16 := by omega
  rw [live_eq_take (by omega), live_eq_take (by rw [depth_pop h0 h16]; omega), depth_pop h0 h16,
    hdepth, pop_of_pos h0 h16, take_succ _ hp, take_set _ hp]

end CallStack

namespace Instruction

/-- The word with these digits skips the word after it. -/
inductive Skips (i : Instruction) (v : Registers) (keypad : Keypad) : Prop
  /-- Word 3XNN. -/
  | equalByte : i.family = 0x3 → v.get i.x = i.nn → Skips i v keypad
  /-- Word 4XNN. -/
  | unequalByte : i.family = 0x4 → v.get i.x ≠ i.nn → Skips i v keypad
  /-- Word 5XY0. -/
  | equal : i = ⟨0x5, i.x, i.y, 0x0⟩ → v.get i.x = v.get i.y → Skips i v keypad
  /-- Word 9XYN. -/
  | unequal : i.family = 0x9 → v.get i.x ≠ v.get i.y → Skips i v keypad
  /-- Word EX9E. -/
  | pressed (key : Key) : i = ⟨0xE, i.x, 0x9, 0xE⟩ → (v.get i.x).toNat = key →
    keypad.get key = true → Skips i v keypad
  /-- Word EXA1. -/
  | released (key : Key) : i = ⟨0xE, i.x, 0xA, 0x1⟩ → (v.get i.x).toNat = key →
    keypad.get key = false → Skips i v keypad

def Waits (i : Instruction) (keypad : Keypad) : Prop :=
  i = ⟨0xF, i.x, 0x0, 0xA⟩ ∧ ∀ key : Key, keypad.get key = false

end Instruction

namespace Machine
variable {m next : Machine} {i : Instruction} {op : Operation}

private theorem isDown_of_key {b : UInt8} {key : Key} (h : b.toNat = key) :
    decide (b < 16) = true ∧ m.isDown b = m.keypad.get key := by
  have hkey : Fin.ofNat 16 b.toNat = key := by
    apply Fin.ext
    rw [Fin.val_ofNat, h]
    exact Nat.mod_eq_of_lt key.isLt
  refine ⟨decide_eq_true (UInt8.lt_iff_toNat_lt.mpr (h ▸ key.isLt)), ?_⟩
  rw [isDown, hkey]

private theorem exists_key_of_lt {b : UInt8} (h : decide (b < 16) = true) :
    ∃ key : Key, b.toNat = key :=
  ⟨⟨b.toNat, UInt8.lt_iff_toNat_lt.mp (of_decide_eq_true h)⟩, rfl⟩

private theorem skipIf_pc_of {condition : Bool} (h : condition = true) (m : Machine) :
    (skipIf condition m).pc = m.pc + 2 := by
  rw [h]
  rfl

private theorem skipIf_pc_of_not {condition : Bool} (h : condition ≠ true) (m : Machine) :
    (skipIf condition m).pc = m.pc := by
  rw [Bool.eq_false_iff.mpr h]
  rfl

private theorem effect_pc_of_skips (hop : m.Admits i op) (h : i.Skips m.v m.keypad) :
    (op.effect i m).pc = m.pc + 2 := by
  cases h with
  | equalByte hf hv =>
    obtain rfl : op = .skipEqualByte := hop.eq_of_family (by decide) rfl hf
    exact skipIf_pc_of (beq_iff_eq.mpr hv) m
  | unequalByte hf hv =>
    obtain rfl : op = .skipUnequalByte := hop.eq_of_family (by decide) rfl hf
    exact skipIf_pc_of (bne_iff_ne.mpr hv) m
  | equal hi hv =>
    obtain rfl : op = .skipEqual := hop.eq_of_fill (by decide) hi.symm
    exact skipIf_pc_of (beq_iff_eq.mpr hv) m
  | unequal hf hv =>
    obtain rfl : op = .skipUnequal := hop.eq_of_family (by decide) rfl hf
    exact skipIf_pc_of (bne_iff_ne.mpr hv) m
  | pressed key hi hkey hdown =>
    obtain rfl : op = .skipPressed := hop.eq_of_fill (by decide) hi.symm
    obtain ⟨hlt, hisDown⟩ := isDown_of_key (m := m) hkey
    exact skipIf_pc_of (by rw [hlt, hisDown, hdown]; rfl) m
  | released key hi hkey hup =>
    obtain rfl : op = .skipReleased := hop.eq_of_fill (by decide) hi.symm
    obtain ⟨hlt, hisDown⟩ := isDown_of_key (m := m) hkey
    exact skipIf_pc_of (by rw [hlt, hisDown, hup]; rfl) m

private theorem effect_pc_of_not_skips (hop : m.Admits i op) (h : ¬i.Skips m.v m.keypad)
    (hbranch : op ∉ [.jump, .call, .ret, .jumpOffset, .waitKey]) :
    (op.effect i m).pc = m.pc := by
  -- Besides the taken skips only five operations write the program counter.
  have hfamily := hop.family_eq
  have hdigits := hop.digits_eq
  cases op with
  | jump | call | ret | jumpOffset | waitKey => exact absurd (by decide) hbranch
  | skipEqualByte =>
    exact skipIf_pc_of_not (fun hc => h (.equalByte hfamily (beq_iff_eq.mp hc))) m
  | skipUnequalByte =>
    exact skipIf_pc_of_not (fun hc => h (.unequalByte hfamily (bne_iff_ne.mp hc))) m
  | skipEqual => exact skipIf_pc_of_not (fun hc => h (.equal hdigits (beq_iff_eq.mp hc))) m
  | skipUnequal => exact skipIf_pc_of_not (fun hc => h (.unequal hfamily (bne_iff_ne.mp hc))) m
  | skipPressed =>
    refine skipIf_pc_of_not (fun hc => ?_) m
    obtain ⟨hlt, hdown⟩ := Bool.and_eq_true_iff.mp hc
    obtain ⟨key, hkey⟩ := exists_key_of_lt hlt
    exact h (.pressed key hdigits hkey ((isDown_of_key hkey).2.symm.trans hdown))
  | skipReleased =>
    refine skipIf_pc_of_not (fun hc => ?_) m
    obtain ⟨hlt, hup⟩ := Bool.and_eq_true_iff.mp hc
    obtain ⟨key, hkey⟩ := exists_key_of_lt hlt
    refine h (.released key hdigits hkey ((isDown_of_key hkey).2.symm.trans ?_))
    exact (Bool.not_eq_true' _).mp hup
  | _ => rfl

private theorem waitKey_pc (i : Instruction) (m : Machine) :
    (waitKey i m).pc = if m.keypad.lowest? = none then m.pc - 2 else m.pc := by
  rw [waitKey_eq]
  cases m.keypad.lowest? <;> rfl

private theorem jumpOffset_pc_toNat (i : Instruction) (m : Machine) :
    (jumpOffset i m).pc.toNat = i.nnn.toNat + (m.v.get 0).toNat := by
  have hbyte := (m.v.get 0).toNat_lt
  have htarget : i.nnn.toNat < 4096 := by
    rw [Instruction.nnn, UInt16.toNat_ofNat']
    omega
  rw [jumpOffset, UInt16.toNat_add, UInt8.toNat_toUInt16]
  omega

private theorem effect_pc_of_plain (hop : m.Admits i op) (hjump : i.family ≠ 0x1)
    (hcall : i.family ≠ 0x2)
    (hoffset : i.family ≠ 0xB) (hret : op ≠ .ret) (hwaits : ¬i.Waits m.keypad)
    (hskips : ¬i.Skips m.v m.keypad) : (op.effect i m).pc = m.pc := by
  have hfamily := hop.family_eq
  by_cases hwait : op = .waitKey
  · subst hwait
    have hdigits := hop.digits_eq
    refine (waitKey_pc i m).trans (if_neg fun hnone => hwaits ⟨hdigits, ?_⟩)
    exact (Keypad.lowest?_eq_none_iff _).mp hnone
  · refine effect_pc_of_not_skips hop hskips fun hbranch => ?_
    simp only [List.mem_cons, List.not_mem_nil, or_false] at hbranch
    obtain rfl | rfl | rfl | rfl | rfl := hbranch
    · exact hjump hfamily
    · exact hcall hfamily
    · exact hret rfl
    · exact hoffset hfamily
    · exact hwait rfl

private theorem low_of_advance (m : Machine) :
    (m.pc + 2) &&& 0xFFF = UInt16.ofNat ((m.pc.toNat + 2) % 4096) := by
  apply UInt16.toNat_inj.mp
  rw [toNat_and_low, UInt16.toNat_add, UInt16.toNat_ofNat']
  show (m.pc.toNat + 2) % 65536 % 4096 = (m.pc.toNat + 2) % 4096 % 65536
  omega

/-- A call adds one entry to the live stack, a return takes the last one and goes there, and nothing
else changes the stack. -/
theorem cycle_live (h0 : 0 ≤ m.stack.depth) (h16 : m.stack.depth ≤ 16)
    (hc : m.cycle = (next, none)) :
    (m.instruction.family = 0x2 →
      next.stack.live = m.stack.live ++ [UInt16.ofNat ((m.pc.toNat + 2) % 4096)]) ∧
    (m.word = 0x00EE → m.stack.live = next.stack.live ++ [next.pc]) ∧
    (m.instruction.family ≠ 0x2 → m.word ≠ 0x00EE → next.stack = m.stack) := by
  obtain ⟨hcall, hlt, hpush⟩ | ⟨hword, hne, hpop, hpc⟩ | ⟨hcall, hword, hsame⟩ := cycle_stack hc
  · refine ⟨fun _ => ?_, fun hword => ?_, fun hno => absurd hcall hno⟩
    · rw [hpush, ← low_of_advance]
      exact CallStack.live_push h0 hlt _
    · exact absurd hcall (family_ne_of_return hword)
  · refine ⟨fun hcall => ?_, fun _ => ?_, fun _ hno => absurd hword hno⟩
    · exact absurd hcall (family_ne_of_return hword)
    · rw [hpop, hpc]
      exact CallStack.live_pop (by omega) h16
  · exact ⟨fun h => absurd h hcall, fun h => absurd h hword, fun _ _ => hsame⟩

/-- The address and the stack after a cycle. Jumps and calls go to their operand, which BNNN does
not bring back to twelve bits; a return goes to the last live entry of the stack and removes it; a
wait stays where it is; a taken skip leaves out one word; all else goes on with the next word. Only
a call adds an entry to the stack, the low twelve bits of the address after it. -/
theorem cycle_continues (h0 : 0 ≤ m.stack.depth) (h16 : m.stack.depth ≤ 16)
    (hc : m.cycle = (next, none)) :
    let i := m.instruction
    (i.family = 0x1 ∨ i.family = 0x2 → next.pc = i.nnn) ∧
    (i.family = 0xB → next.pc.toNat = i.nnn.toNat + (m.v.get 0).toNat) ∧
    (i.Waits m.keypad → next.pc = m.pc) ∧
    (i.Skips m.v m.keypad → next.pc.toNat = (m.pc.toNat + 4) % 65536) ∧
    (¬(i.family = 0x1 ∨ i.family = 0x2 ∨ i.family = 0xB ∨ m.word = 0x00EE ∨
      i.Waits m.keypad ∨ i.Skips m.v m.keypad) →
      next.pc.toNat = (m.pc.toNat + 2) % 65536) ∧
    (i.family = 0x2 →
      next.stack.live = m.stack.live ++ [UInt16.ofNat ((m.pc.toNat + 2) % 4096)]) ∧
    (m.word = 0x00EE → m.stack.live = next.stack.live ++ [next.pc]) ∧
    (i.family ≠ 0x2 → m.word ≠ 0x00EE → next.stack = m.stack) := by
  intro i
  obtain ⟨op, hop, hnext⟩ := cycle_eq_ok hc
  have hpc : next.pc = (op.effect i m.advance).pc := by rw [hnext, countCycle_pc]
  refine ⟨?_, ?_, ?_, ?_, ?_, cycle_live h0 h16 hc⟩
  · rintro (hf | hf)
    · obtain rfl : op = .jump := hop.eq_of_family (by decide) rfl hf
      exact hpc
    · obtain rfl : op = .call := hop.eq_of_family (by decide) rfl hf
      exact hpc
  · intro hf
    obtain rfl : op = .jumpOffset := hop.eq_of_family (by decide) rfl hf
    rw [hpc]
    exact jumpOffset_pc_toNat i m.advance
  · rintro ⟨hdigits, hup⟩
    obtain rfl : op = .waitKey := hop.eq_of_fill (by decide) hdigits.symm
    have hnone : m.advance.keypad.lowest? = none := (Keypad.lowest?_eq_none_iff _).mpr hup
    calc next.pc = (waitKey i m.advance).pc := hpc
      _ = m.pc + 2 - 2 := (waitKey_pc i m.advance).trans (if_pos hnone)
      _ = m.pc := UInt16.add_sub_cancel m.pc 2
  · intro hskips
    have hskipped : next.pc = m.advance.pc + 2 := hpc.trans (effect_pc_of_skips hop.advance hskips)
    rw [hskipped, UInt16.toNat_add, advance_pc_toNat]
    show ((m.pc.toNat + 2) % 65536 + 2) % 65536 = _
    omega
  · intro hplain
    simp only [not_or] at hplain
    obtain ⟨hjump, hcall, hoffset, hword, hwaits, hskips⟩ := hplain
    have hret : op ≠ .ret := fun h => hword (hop.return_iff.mp h)
    rw [hpc, ← advance_pc_toNat]
    exact congrArg UInt16.toNat
      (effect_pc_of_plain hop.advance hjump hcall hoffset hret hwaits hskips)

/-- A skip at the last word of the sixteen-bit range, with a full stack. -/
theorem cycle_continues_over_top :
    let m := { powerOn ⟨0, 0⟩ with
      memory := Memory.powerOn.store 0xFFFE [0x30, 0x00]
      pc := 0xFFFE
      stack := ⟨Vector.replicate 16 0x202, 16⟩ }
    ∃ next, (0 ≤ m.stack.depth ∧ m.stack.depth ≤ 16) ∧ m.cycle = (next, none) ∧
      m.instruction.Skips m.v m.keypad ∧ next.pc.toNat = 2 ∧ next.stack = m.stack := by
  intro m
  have hdepth : 0 ≤ m.stack.depth ∧ m.stack.depth ≤ 16 := by decide
  have hword : m.word = 0x3000 :=
    (word_of_store (show m.memory = Memory.powerOn.store 0xFFFE [0x30, 0x00] from rfl) rfl
      (by decide)).trans (by decide)
  have hm : m.instruction = ⟨0x3, 0, 0, 0⟩ := by
    rw [instruction, hword]
    decide
  have hadmits : m.Admits (Instruction.decode (0x3000 : UInt16).toNat) .skipEqualByte :=
    .of_operation? (by decide) (by decide) (by decide) (by decide)
  obtain ⟨next, hc⟩ : ∃ next, m.cycle = (next, none) := ⟨_, cycle_of_admits hword hadmits⟩
  have hskips : m.instruction.Skips m.v m.keypad := by
    rw [hm]
    exact .equalByte rfl (by decide)
  obtain ⟨-, -, -, hskipped, -, -, -, hkept⟩ := cycle_continues hdepth.1 hdepth.2 hc
  refine ⟨next, hdepth, hc, hskips, ?_, hkept ?_ ?_⟩
  · have hpc : m.pc.toNat = 0xFFFE := rfl
    rw [hskipped hskips, hpc]
  · rw [hm]
    decide
  · rw [hword]
    decide

end Machine
end Chip8
