import Chip8.Proofs.Attempt
import Chip8.Proofs.Bounds
import Chip8.Proofs.Passage

/-! Calls and returns as brackets. Until the depth comes back to where it was at a call, nothing
reaches the address that the call saved nor the slots below it, and what comes back is a return. -/
namespace Chip8.Machine
variable {s m next last : Machine} {t : Transition} {inner : List Transition}

/-- A cycle pushes the address of the next word, or pops, or leaves the stack alone. -/
theorem cycle_stack (hc : m.cycle = (next, none)) :
    (m.instruction.family = 2 ∧ m.stack.depth < 16 ∧ next.stack = m.stack.push (m.pc + 2)) ∨
    (m.word = 0x00EE ∧ m.stack.depth ≠ 0 ∧
      next.stack = m.stack.pop.1 ∧ next.pc = m.stack.pop.2) ∨
    (m.instruction.family ≠ 2 ∧ m.word ≠ 0x00EE ∧ next.stack = m.stack) := by
  obtain ⟨op, hop, rfl⟩ := cycle_eq_ok hc
  rw [countCycle_stack, countCycle_pc]
  by_cases hcall : op = .call
  · subst hcall
    exact .inl ⟨Instruction.operation?_call_iff.mp hop.named, hop.depth_lt, rfl⟩
  by_cases hret : op = .ret
  · subst hret
    have hempty := hop.return_address rfl
    refine .inr (.inl ⟨hop.return_iff.mp rfl, ?_, rfl, rfl⟩)
    simpa [CallStack.isEmpty] using hempty
  · refine .inr (.inr ⟨?_, ?_, Operation.effect_stack hcall hret _ m.advance⟩)
    · intro hfamily
      exact hcall (hop.eq_of_operation? (Instruction.operation?_call_iff.mpr hfamily))
    · intro hword
      exact hret (hop.return_iff.mpr hword)

theorem family_ne_of_return (hword : m.word = 0x00EE) : m.instruction.family ≠ 2 := by
  rw [instruction, hword]
  decide

private theorem cycle_of_call (hcall : m.instruction.family = 2) (hdepth : m.stack.depth < 16) :
    ∃ next, m.cycle = (next, none) ∧ next.stack = m.stack.push (m.pc + 2) ∧
      next.pc = m.instruction.nnn ∧ next.memory = m.memory := by
  have hfree : m.stack.isFull = false := decide_eq_false (Int.not_le.mpr hdepth)
  have hadmits : m.Admits m.instruction .call :=
    ⟨Instruction.operation?_call_iff.mpr hcall, nofun, nofun, fun _ => hfree⟩
  exact ⟨_, cycle_of_admits rfl hadmits, countCycle_stack _, countCycle_pc _, countCycle_memory _⟩

private theorem cycle_of_return (hword : m.word = 0x00EE) (hdepth : m.stack.depth ≠ 0) :
    ∃ next, m.cycle = (next, none) ∧ next.stack = m.stack.pop.1 ∧ next.pc = m.stack.pop.2 := by
  have hsaved : m.stack.isEmpty = false := beq_false_of_ne hdepth
  have hadmits : m.Admits (Instruction.decode (0x00EE : UInt16).toNat) .ret :=
    ⟨rfl, nofun, fun _ => hsaved, nofun⟩
  exact ⟨_, cycle_of_admits hword hadmits, countCycle_stack _, countCycle_pc _⟩

/-- `m` has not yet returned from a call made at `s`: the slot at the depth of `s` holds the address
after the call, and the slots below are those of `s`. -/
structure Inside (s m : Machine) : Prop where
  bounded : m.Bounded
  deeper : s.stack.depth < m.stack.depth
  saved : ∀ k : Fin 16, (k : Int) = s.stack.depth → m.stack.slots[k] = (s.pc + 2) &&& 0xFFF
  below : ∀ k : Fin 16, (k : Int) < s.stack.depth → m.stack.slots[k] = s.stack.slots[k]

private theorem inside_of_call (hs : s.Bounded) (hcall : s.instruction.family = 2)
    (hc : s.cycle = (next, none)) : s.Inside next := by
  have h0 := hs.stack.depth_nonneg
  have hbounded := cycle_bounded s next hs hc
  obtain ⟨-, h16, hpush⟩ | ⟨hword, -⟩ | ⟨hno, -⟩ := cycle_stack hc
  · refine ⟨hbounded, ?_, ?_, ?_⟩
    · rw [hpush, CallStack.depth_push h0 h16]
      exact Int.lt_succ _
    all_goals rw [CallStack.push_of_lt h0 h16] at hpush
    · intro k hk
      rw [hpush, CallStack.getElem_set_slot, if_pos (by omega)]
    · intro k hk
      rw [hpush, CallStack.getElem_set_slot, if_neg (by omega)]
  · exact absurd hcall (family_ne_of_return hword)
  · exact absurd hcall hno

namespace Inside

private theorem of_write (h : s.Inside m) (hnext : next.Bounded)
    (hdeeper : s.stack.depth < next.stack.depth) {p : Nat} (hp : p < 16)
    (habove : s.stack.depth < (p : Int)) {a : UInt16}
    (hslots : next.stack.slots = m.stack.slots.set p a) : s.Inside next := by
  -- Writing above the depth of the call reaches neither the saved address nor the slots below.
  refine ⟨hnext, hdeeper, ?_, ?_⟩
  · intro k hk
    rw [hslots, CallStack.getElem_set_slot, if_neg (by omega)]
    exact h.saved k hk
  · intro k hk
    rw [hslots, CallStack.getElem_set_slot, if_neg (by omega)]
    exact h.below k hk

theorem cycle (h : s.Inside m) (hc : m.cycle = (next, none))
    (hdeeper : s.stack.depth < next.stack.depth) : s.Inside next := by
  have h0 := h.bounded.stack.depth_nonneg
  have h16 := h.bounded.stack.depth_le
  have hmdeeper := h.deeper
  have hnext := cycle_bounded m next h.bounded hc
  obtain ⟨-, hlt, hpush⟩ | ⟨-, hne, hpop, -⟩ | ⟨-, -, hsame⟩ := cycle_stack hc
  · rw [CallStack.push_of_lt h0 hlt] at hpush
    exact h.of_write hnext hdeeper (by omega) (by omega) (congrArg CallStack.slots hpush)
  · have hdepth : next.stack.depth = m.stack.depth - 1 :=
      (congrArg CallStack.depth hpop).trans (CallStack.depth_pop (by omega) h16)
    rw [CallStack.pop_of_pos (by omega) h16] at hpop
    exact h.of_write hnext hdeeper (by omega) (by omega) (congrArg CallStack.slots hpop)
  · refine ⟨hnext, hdeeper, ?_, ?_⟩
    · rw [hsame]
      exact h.saved
    · rw [hsame]
      exact h.below

theorem keys (h : s.Inside m) (keypad : Keypad) : s.Inside { m with keypad } :=
  ⟨⟨h.bounded.stack, h.bounded.step_nonneg, h.bounded.step_le⟩, h.deeper, h.saved, h.below⟩

private theorem return_of_depth_eq (hs : s.Bounded) (h : s.Inside m) (hc : m.cycle = (next, none))
    (hback : next.stack.depth = s.stack.depth) :
    m.word = 0x00EE ∧ next.pc = (s.pc + 2) &&& 0xFFF ∧ next.stack = s.stack := by
  -- Coming back to the depth of the call takes a return, which restores the stack as a whole.
  have h16 := h.bounded.stack.depth_le
  have hs0 := hs.stack.depth_nonneg
  have hdeeper := h.deeper
  obtain ⟨-, hlt, hpush⟩ | ⟨hword, -, hpop, hpc⟩ | ⟨-, -, hsame⟩ := cycle_stack hc
  · have hdepth : next.stack.depth = m.stack.depth + 1 :=
      (congrArg CallStack.depth hpush).trans (CallStack.depth_push (by omega) hlt _)
    omega
  · have hdepth : next.stack.depth = m.stack.depth - 1 :=
      (congrArg CallStack.depth hpop).trans (CallStack.depth_pop (by omega) h16)
    rw [CallStack.pop_of_pos (by omega) h16] at hpop hpc
    have hslots : next.stack.slots = m.stack.slots.set (m.stack.depth - 1).toNat 0 :=
      congrArg CallStack.slots hpop
    have hnext := (cycle_bounded m next h.bounded hc).stack
    refine ⟨hword, ?_, ?_⟩
    · rw [hpc]
      exact h.saved ⟨(m.stack.depth - 1).toNat, by omega⟩ (by dsimp only; omega)
    · have hslot (k : Fin 16) : next.stack.slots[k] = s.stack.slots[k] := by
        by_cases hk : (k : Int) < s.stack.depth
        · rw [hslots, CallStack.getElem_set_slot, if_neg (by omega)]
          exact h.below k hk
        · rw [hnext.rest_zero k (by omega), hs.stack.rest_zero k (by omega)]
      have hall : next.stack.slots = s.stack.slots := by
        apply Vector.ext
        intro k hk
        exact hslot ⟨k, hk⟩
      exact CallStack.ext_depth hall hback
  · rw [hsame] at hback
    omega

/-- As long as the depth stays above that of the call, every cycle is attempted inside it. -/
theorem passage {final : Transition} (h : s.Inside m)
    (hrun : Passage m (inner ++ [final]) last)
    (habove : ∀ t ∈ inner, s.stack.depth < t.target.stack.depth) :
    (∀ t ∈ inner, s.Inside t.source ∧ s.Inside t.target) ∧
      s.Inside final.source ∧ final.source.cycle = (final.target, none) := by
  induction inner generalizing m with
  | nil =>
    obtain ⟨⟨keypad, hsource⟩, hc, -⟩ := hrun.of_cons
    exact ⟨fun t ht => absurd ht List.not_mem_nil, hsource ▸ h.keys keypad, hc⟩
  | cons t rest ih =>
    obtain ⟨⟨keypad, hsource⟩, hc, hrest⟩ := hrun.of_cons
    have hin : s.Inside t.source := hsource ▸ h.keys keypad
    have hout := hin.cycle hc (habove t List.mem_cons_self)
    obtain ⟨hinner, hfinal⟩ := ih hout hrest fun u hu => habove u (List.mem_cons_of_mem t hu)
    exact ⟨List.forall_mem_cons.mpr ⟨⟨hin, hout⟩, hinner⟩, hfinal⟩

end Inside

theorem toNat_and_low (a : UInt16) : (a &&& 0xFFF).toNat = a.toNat % 4096 := by
  rw [UInt16.toNat_and]
  exact Nat.and_two_pow_sub_one_eq_mod _ 12

/-- A call is closed by the first cycle after which the depth is again what it was. That cycle
executes a return to the word after the call, it leaves the whole stack as the call found it, and
on the way the slots below have not changed, whatever the subroutine did, called or wrote over. -/
theorem calls_are_bracketed {final : Transition} (hs : s.Reachable)
    (hcall : s.instruction.family = 2) (hrun : Passage s (inner ++ [final]) last)
    (habove : ∀ t ∈ inner, s.stack.depth < t.target.stack.depth)
    (hback : final.target.stack.depth = s.stack.depth) :
    final.source.word = 0x00EE ∧
    final.target.pc.toNat = (s.pc.toNat + 2) % 4096 ∧
    final.target.stack = s.stack ∧
    ∀ t ∈ inner ++ [final], ∀ k : Fin 16, (k : Int) < s.stack.depth →
      t.source.stack.slots[k] = s.stack.slots[k] ∧ t.target.stack.slots[k] = s.stack.slots[k] := by
  have hb := hs.bounded
  have hopened (keypad : Keypad) {next : Machine} (hc : { s with keypad }.cycle = (next, none)) :
      s.Inside next := by
    have hkeys : { s with keypad }.Bounded := ⟨hb.stack, hb.step_nonneg, hb.step_le⟩
    obtain ⟨hbounded, hdeeper, hsaved, hbelow⟩ := inside_of_call hkeys hcall hc
    exact ⟨hbounded, hdeeper, hsaved, hbelow⟩
  cases inner with
  | nil =>
    -- The call itself goes one deeper, so it cannot be the cycle that comes back.
    obtain ⟨⟨keypad, hsource⟩, hc, -⟩ := hrun.of_cons
    rw [hsource] at hc
    have hdeeper := (hopened keypad hc).deeper
    omega
  | cons first rest =>
    obtain ⟨⟨keypad, hsource⟩, hc, hrest⟩ := hrun.of_cons
    rw [hsource] at hc
    obtain ⟨hrestInside, hfinal, hreturn⟩ := (hopened keypad hc).passage hrest fun t ht =>
      habove t (List.mem_cons_of_mem first ht)
    obtain ⟨hword, hpc, hstack⟩ := hfinal.return_of_depth_eq hb hreturn hback
    refine ⟨hword, ?_, hstack, ?_⟩
    · rw [hpc, toNat_and_low]
      show s.advance.pc.toNat % 4096 = _
      rw [advance_pc_toNat]
      omega
    · intro t ht k hk
      rw [List.cons_append, List.mem_cons, List.mem_append, List.mem_singleton] at ht
      obtain rfl | ht | rfl := ht
      · rw [hsource]
        exact ⟨rfl, (hopened keypad hc).below k hk⟩
      · exact ⟨(hrestInside t ht).1.below k hk, (hrestInside t ht).2.below k hk⟩
      · rw [hstack]
        exact ⟨hfinal.below k hk, rfl⟩

/-- A call of a subroutine that returns at once, with all keys pressed before it does. -/
theorem calls_are_bracketed_with_keys :
    let program := Memory.powerOn.store 0x200 [0x22, 0x04, 0x12, 0x00, 0x00, 0xEE]
    let s := { powerOn ⟨0, 0⟩ with memory := program }
    ∃ called final,
      let pressed := { called with keypad := Vector.replicate 16 true }
      s.Reachable ∧ s.instruction.family = 2 ∧
      Passage s ([⟨s, called⟩] ++ [⟨pressed, final⟩]) final ∧
      s.stack.depth < called.stack.depth ∧ final.stack.depth = s.stack.depth ∧
      pressed.word = 0x00EE ∧ final.pc.toNat = (s.pc.toNat + 2) % 4096 ∧
      final.stack = s.stack := by
  intro program s
  have hs : s.Reachable := by
    have hload := serve_load (powerOn ⟨0, 0⟩) [0x22, 0x04, 0x12, 0x00, 0x00, 0xEE]
    exact (show _ = s from hload) ▸ .serve _ (.powerOn _)
  have hread (a : Nat) : program.read a = _ := Memory.read_store _ _ 0x200 a (by decide)
  have hword : s.word = 0x2204 := by
    rw [word, show s.memory = program from rfl, hread, hread]
    decide
  have hcall : s.instruction.family = 2 := by
    rw [instruction, hword]
    rfl
  obtain ⟨called, hfirst, hpushed, hpc, hmemory⟩ := cycle_of_call hcall (by decide)
  have hdeeper : s.stack.depth < called.stack.depth := by
    rw [hpushed]
    decide
  have hret : called.word = 0x00EE := by
    rw [instruction, hword] at hpc
    rw [word, hpc, hmemory, hread, hread]
    decide
  let pressed := { called with keypad := Vector.replicate 16 true }
  obtain ⟨final, hlast, hpopped, -⟩ :=
    cycle_of_return (show pressed.word = _ from hret) (Int.ne_of_gt hdeeper)
  have hback : final.stack.depth = s.stack.depth := by
    rw [hpopped, show pressed.stack = _ from hpushed]
    decide
  have hrun := Passage.cycle hfirst (.keys _ (.cycle hlast (.refl _)))
  obtain ⟨hreturn, hnext, hrestored, -⟩ := calls_are_bracketed hs hcall hrun
    (List.forall_mem_singleton.mpr hdeeper) hback
  exact ⟨called, final, hs, hcall, hrun, hdeeper, hback, hreturn, hnext, hrestored⟩

end Chip8.Machine
