import Chip8.Proofs.Session

/-! What holds of a machine after any requests: the stack stays inside its slots, and the frame in
progress is never over. Inside the slots, pushing and popping need no rule for outside positions. -/
namespace Chip8

/-- The depth lies between the ends, return addresses have twelve bits, and the rest is zero. -/
structure CallStack.Bounded (s : CallStack) : Prop where
  depth_nonneg : 0 ≤ s.depth
  depth_le : s.depth ≤ 16
  live_le : ∀ k : Fin 16, (k : Int) < s.depth → s.slots[k] ≤ 0xFFF
  rest_zero : ∀ k : Fin 16, s.depth ≤ (k : Int) → s.slots[k] = 0

structure Machine.Bounded (m : Machine) : Prop where
  stack : m.stack.Bounded
  step_nonneg : 0 ≤ m.step
  step_le : m.step ≤ 14

namespace CallStack
variable {s : CallStack}

theorem ext_depth {t : CallStack} (hslots : s.slots = t.slots) (hdepth : s.depth = t.depth) :
    s = t := by
  cases s
  cases t
  exact congr (congrArg mk hslots) (Int32.toInt_inj.mp hdepth)

private theorem toInt_add_one (h0 : 0 ≤ s.depth) (h16 : s.depth < 16) :
    (s.pointer + 1).toInt = s.depth + 1 := by
  unfold depth at *
  rw [Int32.toInt_add]
  exact Int.bmod_eq_of_le (by simp; omega) (by simp; omega)

private theorem toInt_sub_one (h0 : 0 < s.depth) (h16 : s.depth ≤ 16) :
    (s.pointer - 1).toInt = s.depth - 1 := by
  unfold depth at *
  rw [Int32.toInt_sub]
  exact Int.bmod_eq_of_le (by simp; omega) (by simp; omega)

theorem push_of_lt (h0 : 0 ≤ s.depth) (h16 : s.depth < 16) (a : UInt16) :
    s.push a = ⟨s.slots.set s.depth.toNat (a &&& 0xFFF) (by omega), s.pointer + 1⟩ := by
  have hp : position s.depth = s.depth := if_neg (by omega)
  unfold depth at *
  simp only [push, writeSlot, hp, h0, h16, and_self, dite_true]

theorem depth_push (h0 : 0 ≤ s.depth) (h16 : s.depth < 16) (a : UInt16) :
    (s.push a).depth = s.depth + 1 :=
  toInt_add_one h0 h16

theorem depth_pop (h0 : 0 < s.depth) (h16 : s.depth ≤ 16) : s.pop.1.depth = s.depth - 1 :=
  toInt_sub_one h0 h16

theorem pop_of_pos (h0 : 0 < s.depth) (h16 : s.depth ≤ 16) :
    s.pop = (⟨s.slots.set (s.depth - 1).toNat 0 (by omega), s.pointer - 1⟩,
      s.slots[(s.depth - 1).toNat]) := by
  have hp : position (s.depth - 1) = s.depth - 1 := if_neg (by omega)
  have hin : 0 ≤ s.depth - 1 ∧ s.depth - 1 < 16 := by omega
  have hval : (Fin.ofNat 16 (min (s.depth - 1).toNat 15)).val = (s.depth - 1).toNat := by
    rw [Fin.val_ofNat]
    omega
  have hslot : s.slots.get (Fin.ofNat 16 (min (s.depth - 1).toNat 15)) =
      s.slots[(s.depth - 1).toNat] := by
    show s.slots[(Fin.ofNat 16 (min (s.depth - 1).toNat 15)).val] = _
    simp only [hval]
  simp only [pop, toInt_sub_one h0 h16, writeSlot, readSlot, hp, hin, hslot, and_self, dite_true]

theorem getElem_set_slot (slots : Vector UInt16 16) (p : Nat) (hp : p < 16) (a : UInt16)
    (k : Fin 16) : (slots.set p a)[k] = if p = k.val then a else slots[k] := by
  simp only [Fin.getElem_fin, Vector.getElem_set]

private theorem bounded_empty : empty.Bounded := by
  refine ⟨by decide, by decide, ?_, ?_⟩
  · intro k hk
    exact absurd hk (by simp [empty, depth])
  · intro k _
    simp [empty]

private theorem Bounded.write (h : s.Bounded) {p : Nat} (hp : p < 16) {a : UInt16}
    {t : CallStack} (hslots : t.slots = s.slots.set p a)
    (hd : 0 ≤ t.depth ∧ t.depth ≤ 16) (hlive : (p : Int) < t.depth → a ≤ 0xFFF)
    (hrest : t.depth ≤ (p : Int) → a = 0)
    (hsame : ∀ k : Nat, p ≠ k → ((k : Int) < t.depth ↔ (k : Int) < s.depth)) : t.Bounded := by
  refine ⟨hd.1, hd.2, ?_, ?_⟩
  · intro k hk
    rw [hslots, getElem_set_slot]
    split
    · rename_i hpk
      exact hlive (hpk ▸ hk)
    · rename_i hpk
      exact h.live_le k ((hsame k hpk).mp hk)
  · intro k hk
    rw [hslots, getElem_set_slot]
    split
    · rename_i hpk
      exact hrest (hpk ▸ hk)
    · rename_i hpk
      have hback := hsame k hpk
      exact h.rest_zero k (by omega)

theorem Bounded.push (h : s.Bounded) (h16 : s.depth < 16) (a : UInt16) : (s.push a).Bounded := by
  have h0 := h.depth_nonneg
  have hd := depth_push h0 h16 a
  have hp : s.depth.toNat < 16 := by omega
  have hslots : (s.push a).slots = s.slots.set s.depth.toNat (a &&& 0xFFF) :=
    congrArg slots (push_of_lt h0 h16 a)
  exact h.write hp hslots (by omega) (fun _ => UInt16.and_le_right) (fun _ => by omega)
    (fun k _ => by omega)

theorem Bounded.pop (h : s.Bounded) (h0 : 0 < s.depth) : s.pop.1.Bounded := by
  have h16 := h.depth_le
  have hd := depth_pop h0 h16
  have hp : (s.depth - 1).toNat < 16 := by omega
  have hslots : s.pop.1.slots = s.slots.set (s.depth - 1).toNat 0 :=
    congrArg (·.1.slots) (pop_of_pos h0 h16)
  exact h.write hp hslots (by omega) (fun _ => by omega) (fun _ => rfl) (fun k _ => by omega)

end CallStack

namespace Machine
variable {m : Machine} {i : Instruction} {op : Operation}

theorem Admits.depth_pos (h : m.Admits i .ret) (h0 : 0 ≤ m.stack.depth) : 0 < m.stack.depth := by
  have hne := h.return_address rfl
  simp only [CallStack.isEmpty, beq_eq_false_iff_ne] at hne
  omega

theorem Admits.depth_lt (h : m.Admits i .call) : m.stack.depth < 16 := by
  have hfull := h.free_slot rfl
  simp only [CallStack.isFull, decide_eq_false_iff_not] at hfull
  omega

private theorem effect_bounded (h : m.Admits i op) (hb : m.Bounded) : (op.effect i m).Bounded := by
  refine ⟨?_, ?_, ?_⟩
  · by_cases hcall : op = .call
    · subst hcall
      exact hb.stack.push h.depth_lt m.pc
    · by_cases hret : op = .ret
      · subst hret
        exact hb.stack.pop (h.depth_pos hb.stack.depth_nonneg)
      · rw [Operation.effect_stack hcall hret]
        exact hb.stack
  · rw [Operation.effect_step]
    exact hb.step_nonneg
  · rw [Operation.effect_step]
    exact hb.step_le

private theorem closeFrame_bounded (hb : m.stack.Bounded) : m.closeFrame.Bounded :=
  ⟨hb, (by decide : (0 : Int32) ≤ 0), (by decide : (0 : Int32) ≤ 14)⟩

private theorem countCycle_bounded (h : m.Bounded) : m.countCycle.Bounded := by
  rw [countCycle_eq]
  split
  · exact closeFrame_bounded h.stack
  · have h0 := h.step_nonneg
    have h14 := h.step_le
    exact ⟨h.stack, by dsimp only; grind, by dsimp only; grind⟩

private theorem powerOn_bounded (random : Random.Stream) : (powerOn random).Bounded :=
  ⟨CallStack.bounded_empty, (by decide : (0 : Int32) ≤ 0), (by decide : (0 : Int32) ≤ 14)⟩

private theorem execute_bounded (word : Int) (next : Machine) (h : m.Bounded)
    (hx : m.execute word = .ok next) : next.Bounded := by
  obtain ⟨op, hop, rfl⟩ := execute_eq_ok hx
  exact effect_bounded hop h

theorem cycle_bounded (m next : Machine) (h : m.Bounded) (hc : m.cycle = (next, none)) :
    next.Bounded := by
  obtain ⟨op, hop, rfl⟩ := cycle_eq_ok hc
  have hadvance : m.advance.Bounded := ⟨h.stack, h.step_nonneg, h.step_le⟩
  exact countCycle_bounded (effect_bounded hop.advance hadvance)

private theorem feed_bounded (input : Input) (h : m.Bounded) : (m.feed input).1.Bounded := by
  cases input with
  | setKey index down =>
    rw [feed_setKey]
    exact ⟨h.stack, h.step_nonneg, h.step_le⟩
  | setKeys downs =>
    rw [feed_setKeys]
    exact ⟨h.stack, h.step_nonneg, h.step_le⟩
  | cycle => exact cycles_keep cycle_bounded 1 m h
  | frame => exact advanceFrame_keep cycle_bounded m h

private theorem serve_bounded (request : Request) (h : m.Bounded) : (m.serve request).Bounded := by
  cases request with
  | input input => exact feed_bounded input h
  | reset => exact powerOn_bounded m.random
  | load image =>
    rw [serve_load]
    exact ⟨h.stack, h.step_nonneg, h.step_le⟩
  | fetch => exact ⟨h.stack, h.step_nonneg, h.step_le⟩
  | execute word =>
    rw [serve]
    cases hx : m.execute word with
    | error e => exact h
    | ok next => exact execute_bounded word next h hx
  | closeFrame => exact closeFrame_bounded h.stack
  | run frames logger progress trace =>
    rw [serve]
    cases hr : m.run frames logger progress trace with
    | error e => exact h
    | ok result => exact run_keep cycle_bounded m frames logger progress trace h result hr

theorem Reachable.bounded (h : m.Reachable) : m.Bounded := by
  induction h with
  | powerOn random => exact powerOn_bounded random
  | serve request _ ih => exact serve_bounded request ih

/-- Whatever was asked of a machine, its stack is inside the slots and its frame is not over. So
an accepted call writes the slot at the depth and an accepted return reads and clears the slot
below it: no position is ever lost or moved to the nearest slot. -/
theorem reachable_bounded (h : m.Reachable) :
    m.Bounded ∧ ∀ word, m.violation? word = none →
      ((Instruction.decode word).operation? = some .call →
        ∃ _ : 0 ≤ m.stack.depth ∧ m.stack.depth < 16,
          (dispatch (Instruction.decode word) m).stack =
            ⟨m.stack.slots.set m.stack.depth.toNat (m.pc &&& 0xFFF) (by omega),
              m.stack.pointer + 1⟩) ∧
      ((Instruction.decode word).operation? = some .ret →
        ∃ _ : 0 < m.stack.depth ∧ m.stack.depth ≤ 16,
          dispatch (Instruction.decode word) m =
            { m with
              stack := ⟨m.stack.slots.set (m.stack.depth - 1).toNat 0 (by omega),
                m.stack.pointer - 1⟩
              pc := m.stack.slots[(m.stack.depth - 1).toNat] }) := by
  have hb := h.bounded
  refine ⟨hb, fun word hv => ?_⟩
  obtain ⟨⟨op, hop⟩, -⟩ := (violation?_eq_none_iff m word).mp hv
  constructor
  · intro hcall
    obtain rfl : op = .call := Option.some.inj (hop.named.symm.trans hcall)
    refine ⟨⟨hb.stack.depth_nonneg, hop.depth_lt⟩, ?_⟩
    rw [hop.dispatch m]
    exact CallStack.push_of_lt hb.stack.depth_nonneg hop.depth_lt m.pc
  · intro hret
    obtain rfl : op = .ret := Option.some.inj (hop.named.symm.trans hret)
    have hpos := hop.depth_pos hb.stack.depth_nonneg
    refine ⟨⟨hpos, hb.stack.depth_le⟩, ?_⟩
    rw [hop.dispatch m]
    show { m with stack := m.stack.pop.1, pc := m.stack.pop.2 } = _
    rw [CallStack.pop_of_pos hpos hb.stack.depth_le]

/-- After one call, a return is accepted and takes the single address back. -/
theorem reachable_bounded_after_call :
    let m := (powerOn ⟨0, 0⟩).serve (.execute 0x2300)
    m.Reachable ∧ m.violation? 0x00EE = none ∧ m.Bounded ∧
      ∃ _ : 0 < m.stack.depth ∧ m.stack.depth ≤ 16,
        dispatch (Instruction.decode 0x00EE) m =
          { m with
            stack := ⟨m.stack.slots.set (m.stack.depth - 1).toNat 0 (by omega),
              m.stack.pointer - 1⟩
            pc := m.stack.slots[(m.stack.depth - 1).toNat] } := by
  intro m
  have h : m.Reachable := .serve _ (.powerOn _)
  have hv : m.violation? 0x00EE = none := rfl
  exact ⟨h, hv, (reachable_bounded h).1, ((reachable_bounded h).2 _ hv).2 rfl⟩

end Machine
end Chip8
