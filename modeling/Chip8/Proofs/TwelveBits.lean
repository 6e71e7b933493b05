import Chip8.Proofs.Bounds
import Mathlib.Data.List.Forall2

/-! Program counter, index and return addresses are words of sixteen bits, but programs see twelve
of them. Two machines that differ in the other bits run in lockstep, up to their fault reports. -/
namespace Chip8

def SameAddress (a b : UInt16) : Prop := a.toNat % 4096 = b.toNat % 4096

instance (a b : UInt16) : Decidable (SameAddress a b) :=
  inferInstanceAs (Decidable (a.toNat % 4096 = b.toNat % 4096))

namespace SameAddress
variable {a b : UInt16}

theorem refl (a : UInt16) : SameAddress a a := rfl

theorem add (h : SameAddress a b) (c : UInt16) : SameAddress (a + c) (b + c) := by
  unfold SameAddress at h ⊢
  rw [UInt16.toNat_add, UInt16.toNat_add]
  omega

private theorem sub (h : SameAddress a b) (c : UInt16) : SameAddress (a - c) (b - c) := by
  unfold SameAddress at h ⊢
  have hc := c.toNat_lt
  rw [UInt16.toNat_sub, UInt16.toNat_sub]
  omega

private theorem mask (h : SameAddress a b) : a &&& 0xFFF = b &&& 0xFFF := by
  apply UInt16.toNat_inj.mp
  rw [UInt16.toNat_and, UInt16.toNat_and]
  exact (Nat.and_two_pow_sub_one_eq_mod _ 12).trans
    (h.trans (Nat.and_two_pow_sub_one_eq_mod _ 12).symm)

theorem ite (h : SameAddress a b) {c d : UInt16} (h' : SameAddress c d) (condition : Bool) :
    SameAddress (if condition then a else c) (if condition then b else d) := by
  cases condition
  · exact h'
  · exact h

end SameAddress

namespace Memory
variable (memory : Memory) {a b : UInt16}

private theorem read_congr (h : SameAddress a b) (k : Nat) :
    memory.read (a.toNat + k) = memory.read (b.toNat + k) := by
  have hk : (a.toNat + k) % 4096 = (b.toNat + k) % 4096 := by
    unfold SameAddress at h
    omega
  rw [← read_mod, hk, read_mod]

private theorem write_mod (a : Nat) (byte : UInt8) :
    memory.write (a % 4096) byte = memory.write a byte := by
  simp [write, Address.ofNat, Fin.ofNat]

private theorem store_congr (bytes : List UInt8) {a b : Nat} (h : a % 4096 = b % 4096) :
    memory.store a bytes = memory.store b bytes := by
  induction bytes generalizing memory a b with
  | nil => rfl
  | cons byte rest ih =>
    rw [store, store, ← write_mod, h, write_mod]
    exact ih _ (by omega)

private theorem window_congr (h : SameAddress a b) :
    memory.window a.toNat = memory.window b.toNat := by
  simp only [window, memory.read_congr h]

private theorem sprite_congr (h : SameAddress a b) (height x y : Nat) :
    memory.sprite a.toNat height x y = memory.sprite b.toNat height x y := by
  have hdot : Sprite.dot memory a.toNat height x y = Sprite.dot memory b.toNat height x y :=
    funext fun cell => by rw [Sprite.dot, Sprite.dot, memory.read_congr h]
  rw [sprite, sprite, hdot]

end Memory

/-- The same depth inside the slots; live entries are only compared as addresses. -/
structure CallStack.Similar (s t : CallStack) : Prop where
  depth_eq : s.depth = t.depth
  depth_nonneg : 0 ≤ s.depth
  depth_le : s.depth ≤ 16
  live : ∀ k : Fin 16, (k : Int) < s.depth → SameAddress s.slots[k] t.slots[k]
  rest : ∀ k : Fin 16, s.depth ≤ (k : Int) → s.slots[k] = t.slots[k]

/-- All fields are equal, except that program counter, index and live stack entries are only
compared as addresses. -/
structure Machine.Similar (a b : Machine) : Prop where
  random_eq : a.random = b.random
  memory_eq : a.memory = b.memory
  pc : SameAddress a.pc b.pc
  display_eq : a.display = b.display
  stack : a.stack.Similar b.stack
  delay_eq : a.delay = b.delay
  sound_eq : a.sound = b.sound
  keypad_eq : a.keypad = b.keypad
  v_eq : a.v = b.v
  i : SameAddress a.i b.i
  step_eq : a.step = b.step
  frame_eq : a.frame = b.frame
  frames_eq : a.frames = b.frames

/-- Equal reports, except that the three kinds of addresses agree modulo 4096 only. -/
structure Fault.Similar (f g : Fault) : Prop where
  kind_eq : f.kind = g.kind
  message_eq : f.message = g.message
  address_eq : f.snapshot.address = g.snapshot.address
  opcode_eq : f.snapshot.opcode = g.snapshot.opcode
  v_eq : f.snapshot.v = g.snapshot.v
  delay_eq : f.snapshot.delay = g.snapshot.delay
  sound_eq : f.snapshot.sound = g.snapshot.sound
  pc : f.snapshot.pc % 4096 = g.snapshot.pc % 4096
  i : f.snapshot.i % 4096 = g.snapshot.i % 4096
  stack : List.Forall₂ (fun x y => x % 4096 = y % 4096) f.snapshot.stack g.snapshot.stack

namespace CallStack.Similar
variable {s t : CallStack} {a b : UInt16}

private theorem write (h : s.Similar t) {p : Nat} (hp : p < 16) {pointer : Int32} (a : UInt16)
    (hd : 0 ≤ pointer.toInt ∧ pointer.toInt ≤ 16)
    (hsame : ∀ k : Nat, p ≠ k → ((k : Int) < pointer.toInt ↔ (k : Int) < s.depth)) :
    CallStack.Similar ⟨s.slots.set p a, pointer⟩ ⟨t.slots.set p a, pointer⟩ := by
  refine ⟨rfl, hd.1, hd.2, ?_, ?_⟩
  · intro k hk
    rw [getElem_set_slot, getElem_set_slot]
    split
    · exact .refl _
    · rename_i hpk
      exact h.live k ((hsame k hpk).mp hk)
  · intro k hk
    rw [getElem_set_slot, getElem_set_slot]
    split
    · rfl
    · rename_i hpk
      have hmoved : pointer.toInt ≤ (k : Int) := hk
      have hback := hsame k hpk
      exact h.rest k (by omega)

theorem push (h : s.Similar t) (h16 : s.depth < 16) (hab : SameAddress a b) :
    (s.push a).Similar (t.push b) := by
  have h0 := h.depth_nonneg
  have hd := h.depth_eq
  have hmoved : (s.pointer + 1).toInt = s.depth + 1 := depth_push h0 h16 a
  rw [push_of_lt h0 h16, push_of_lt (by omega) (by omega), hab.mask, ← Int32.toInt_inj.mp hd]
  simp only [← hd]
  exact h.write _ _ (by omega) (fun k _ => by omega)

theorem pop (h : s.Similar t) (h0 : 0 < s.depth) :
    s.pop.1.Similar t.pop.1 ∧ SameAddress s.pop.2 t.pop.2 := by
  have h16 := h.depth_le
  have hd := h.depth_eq
  have hmoved : (s.pointer - 1).toInt = s.depth - 1 := depth_pop h0 h16
  rw [pop_of_pos h0 h16, pop_of_pos (by omega) (by omega), ← Int32.toInt_inj.mp hd]
  simp only [← hd]
  have hlast : SameAddress s.slots[(s.depth - 1).toNat] t.slots[(s.depth - 1).toNat] :=
    h.live ⟨(s.depth - 1).toNat, by omega⟩ (by dsimp only; omega)
  exact ⟨h.write _ _ (by omega) (fun k _ => by omega), hlast⟩

private theorem live_forall₂ (h : s.Similar t) :
    List.Forall₂ (fun x y : Int => x % 4096 = y % 4096)
      (s.live.map fun a => (a.toNat : Int)) (t.live.map fun a => (a.toNat : Int)) := by
  rw [List.forall₂_map_left_iff, List.forall₂_map_right_iff, List.forall₂_iff_get]
  have hlive (u : CallStack) (hu : 0 ≤ u.depth) : u.live = u.slots.toList.take u.depth.toNat := by
    rw [CallStack.live, position, if_neg (by omega)]
  have h0 := h.depth_nonneg
  rw [hlive s h0, hlive t (h.depth_eq ▸ h0), ← h.depth_eq]
  refine ⟨by simp, fun k hk hk' => ?_⟩
  have hd : k < s.depth.toNat ∧ k < 16 := by simpa [Nat.lt_min] using hk
  have hsame : SameAddress s.slots[k] t.slots[k] := h.live ⟨k, hd.2⟩ (by dsimp only; omega)
  unfold SameAddress at hsame
  simp only [List.get_eq_getElem, List.getElem_take, Vector.getElem_toList]
  omega

end CallStack.Similar

namespace Machine
variable {a b m : Machine} {p j : UInt16} {s : CallStack} {op : Operation} {i : Instruction}

private theorem similar_with (hp : SameAddress m.pc p) (hj : SameAddress m.i j)
    (hs : m.stack.Similar s) : m.Similar { m with pc := p, i := j, stack := s } :=
  ⟨rfl, rfl, hp, rfl, hs, rfl, rfl, rfl, rfl, hj, rfl, rfl, rfl⟩

private theorem Similar.eq_with (h : a.Similar b) :
    b = { a with pc := b.pc, i := b.i, stack := b.stack } := by
  obtain ⟨hrandom, hmemory, -, hdisplay, -, hdelay, hsound, hkeypad, hv, -, hstep, hframe,
    hframes⟩ := h
  rw [hrandom, hmemory, hdisplay, hdelay, hsound, hkeypad, hv, hstep, hframe, hframes]

private theorem skipIf_with (condition : Bool) (hp : SameAddress m.pc p)
    (hj : SameAddress m.i j) (hs : m.stack.Similar s) :
    (skipIf condition m).Similar (skipIf condition { m with pc := p, i := j, stack := s }) := by
  rw [skipIf_eq, skipIf_eq]
  exact similar_with ((hp.add 2).ite hp condition) hj hs

private theorem waitKey_with (i : Instruction) (hp : SameAddress m.pc p)
    (hj : SameAddress m.i j) (hs : m.stack.Similar s) :
    (waitKey i m).Similar (waitKey i { m with pc := p, i := j, stack := s }) := by
  rw [waitKey_eq, waitKey_eq]
  exact similar_with (hp.ite (hp.sub 2) _) hj hs

private theorem nextIndex_with (x : Fin 16) (hj : SameAddress m.i j) :
    SameAddress (m.nextIndex x) (nextIndex { m with pc := p, i := j, stack := s } x) :=
  hj.add _

private theorem effect_with (hop : m.Admits i op) (hp : SameAddress m.pc p)
    (hj : SameAddress m.i j) (hs : m.stack.Similar s) :
    (op.effect i m).Similar (op.effect i { m with pc := p, i := j, stack := s }) := by
  -- One case for each operation: whatever leaves program counter, index and stack alone computes
  -- the same from both machines, and the others only use these through their low twelve bits.
  cases op with
  | machineCall => exact absurd rfl hop.no_machine_call
  | jump => exact similar_with (.refl _) hj hs
  | call => exact similar_with (.refl _) hj (hs.push hop.depth_lt hp)
  | ret =>
    have hpop := hs.pop (hop.depth_pos hs.depth_nonneg)
    exact similar_with hpop.2 hj hpop.1
  | jumpOffset => exact similar_with (.refl _) hj hs
  | skipEqualByte | skipUnequalByte | skipEqual | skipUnequal | skipPressed | skipReleased =>
    exact skipIf_with _ hp hj hs
  | waitKey => exact waitKey_with i hp hj hs
  | loadIndex => exact similar_with hp (.refl _) hs
  | addIndex => exact similar_with hp (hj.add _) hs
  | glyph => exact similar_with hp (.refl _) hs
  | digits =>
    have hm := m.memory.store_congr (decimalDigits (m.v.get i.x)) hj
    exact ⟨rfl, hm, hp, rfl, hs, rfl, rfl, rfl, rfl, hj, rfl, rfl, rfl⟩
  | store =>
    have hm : (storeRegisters i m).memory =
        (storeRegisters i { m with pc := p, i := j, stack := s }).memory := by
      rw [storeRegisters, storeRegisters, m.memory.window_congr hj]
      exact m.memory.store_congr _ hj
    exact ⟨rfl, hm, hp, rfl, hs, rfl, rfl, rfl, rfl, nextIndex_with i.x hj, rfl, rfl, rfl⟩
  | load =>
    rw [Operation.effect, loadRegisters, loadRegisters, m.memory.window_congr hj]
    exact ⟨rfl, rfl, hp, rfl, hs, rfl, rfl, rfl, rfl, nextIndex_with i.x hj, rfl, rfl, rfl⟩
  | draw =>
    have hsprite := m.memory.sprite_congr hj i.n (m.v.get i.x).toNat (m.v.get i.y).toNat
    have hd : (draw i m).display = (draw i { m with pc := p, i := j, stack := s }).display :=
      congrArg m.display.xor hsprite
    have hv : (draw i m).v = (draw i { m with pc := p, i := j, stack := s }).v :=
      congrArg (fun sprite => Digit.put m.v 0xF (if m.display.meets sprite then 1 else 0)) hsprite
    exact ⟨rfl, rfl, hp, hd, hs, rfl, rfl, rfl, hv, hj, rfl, rfl, rfl⟩
  | _ => exact similar_with hp hj hs

private theorem effect_similar (h : a.Similar b) (hop : a.Admits i op) :
    (op.effect i a).Similar (op.effect i b) := by
  rw [h.eq_with]
  exact effect_with hop h.pc h.i h.stack

private theorem advance_similar (h : a.Similar b) : a.advance.Similar b.advance := by
  rw [h.eq_with]
  exact similar_with (h.pc.add 2) h.i h.stack

private theorem closeFrame_similar (h : a.Similar b) : a.closeFrame.Similar b.closeFrame := by
  rw [h.eq_with]
  exact similar_with h.pc h.i h.stack

private theorem countCycle_similar (h : a.Similar b) : a.countCycle.Similar b.countCycle := by
  rw [countCycle_eq, countCycle_eq, ← h.step_eq]
  split
  · exact closeFrame_similar h
  · rw [h.eq_with]
    exact similar_with h.pc h.i h.stack

private theorem word_similar (h : a.Similar b) : a.word = b.word := by
  have hread := b.memory.read_congr h.pc
  unfold word
  rw [h.memory_eq, ← Nat.add_zero a.pc.toNat, ← Nat.add_zero b.pc.toNat, hread 0, Nat.add_zero,
    Nat.add_zero, hread 1]

private theorem violation?_similar (h : a.Similar b) (word : Int) :
    a.violation? word = b.violation? word := by
  have hempty : a.stack.isEmpty = b.stack.isEmpty := congrArg (· == 0) h.stack.depth_eq
  have hfull : a.stack.isFull = b.stack.isFull :=
    congrArg (fun depth : Int => decide (16 ≤ depth)) h.stack.depth_eq
  unfold violation?
  rw [hempty, hfull]

private theorem toNat_cast_emod {p q : UInt16} (h : SameAddress p q) :
    (p.toNat : Int) % 4096 = (q.toNat : Int) % 4096 := by
  unfold SameAddress at h
  omega

private theorem check_similar (h : a.Similar b) (word address : Int) :
    Option.Rel Fault.Similar (a.check word address) (b.check word address) := by
  unfold check
  rw [violation?_similar h]
  cases b.violation? word with
  | none => exact .none
  | some v =>
    refine .some ⟨rfl, rfl, rfl, rfl, ?_, ?_, ?_, toNat_cast_emod h.pc, toNat_cast_emod h.i,
      h.stack.live_forall₂⟩
    · exact congrArg (fun v : Registers => v.toList.map fun b => (b.toNat : Int)) h.v_eq
    · exact congrArg (fun t : UInt8 => some (t.toNat : Int)) h.delay_eq
    · exact congrArg (fun t : UInt8 => some (t.toNat : Int)) h.sound_eq

/-- Similar machines both fault, with similar reports, or both go on to similar machines. -/
theorem cycle_similar (h : a.Similar b) :
    (∃ f g, a.cycle = (a, some f) ∧ b.cycle = (b, some g) ∧ f.Similar g) ∨
      ∃ x y, a.cycle = (x, none) ∧ b.cycle = (y, none) ∧ x.Similar y := by
  have haddress : a.pc.toNat % 4096 = b.pc.toNat % 4096 := h.pc
  have hcheck := check_similar (advance_similar h) a.word.toNat (a.pc.toNat % 4096 : Nat)
  unfold cycle
  rw [← word_similar h, ← haddress]
  -- Both checks are named first: the goal is a match on each of them.
  generalize hca : a.advance.check a.word.toNat (a.pc.toNat % 4096 : Nat) = ca at hcheck ⊢
  generalize b.advance.check a.word.toNat (a.pc.toNat % 4096 : Nat) = cb at hcheck ⊢
  cases hcheck with
  | some hfg => exact .inl ⟨_, _, rfl, rfl, hfg⟩
  | none =>
    have hv := (check_eq_none_iff _ _ _).mp hca
    obtain ⟨op, hop⟩ := (violation?_eq_none_iff_admits a.advance a.word).mp hv
    refine .inr ⟨_, _, rfl, rfl, countCycle_similar ?_⟩
    rw [hop.dispatch, hop.dispatch]
    exact effect_similar (advance_similar h) hop

private theorem cycles_similar (n : Nat) (h : a.Similar b) :
    (a.cycles n).1.Similar (b.cycles n).1 ∧
      Option.Rel Fault.Similar (a.cycles n).2 (b.cycles n).2 := by
  induction n generalizing a b with
  | zero => exact ⟨h, .none⟩
  | succ n ih =>
    rw [cycles, cycles]
    rcases cycle_similar h with ⟨f, g, hf, hg, hfg⟩ | ⟨x, y, hx, hy, hxy⟩
    · rw [hf, hg]
      exact ⟨h, .some hfg⟩
    · rw [hx, hy]
      exact ih hxy

private theorem keypad_similar (h : a.Similar b) (keypad : Keypad) :
    { a with keypad }.Similar { b with keypad } := by
  rw [h.eq_with]
  exact similar_with h.pc h.i h.stack

private theorem feed_similar (h : a.Similar b) (input : Input) :
    (a.feed input).1.Similar (b.feed input).1 ∧
      Option.Rel Fault.Similar (a.feed input).2 (b.feed input).2 := by
  cases input with
  | setKey index down =>
    rw [feed_setKey, feed_setKey, ← h.keypad_eq]
    exact ⟨keypad_similar h _, .none⟩
  | setKeys downs =>
    rw [feed_setKeys, feed_setKeys, ← h.keypad_eq]
    exact ⟨keypad_similar h _, .none⟩
  | cycle => exact cycles_similar 1 h
  | frame =>
    rw [feed, feed, advanceFrame, advanceFrame, ← h.step_eq]
    exact cycles_similar _ h

/-- The bits of program counter, index and live return addresses above the low twelve never
matter: through any cycles, frames and changes of keys the machines stay similar, and whatever
input meets a fault in one of them meets it in the other, with a similar report. -/
theorem twelve_bit_lockstep (inputs : List Input) (h : a.Similar b) :
    (a.session inputs).1.Similar (b.session inputs).1 ∧
      List.Forall₂ (Option.Rel Fault.Similar) (a.session inputs).2 (b.session inputs).2 := by
  induction inputs generalizing a b with
  | nil => exact ⟨h, .nil⟩
  | cons input rest ih =>
    obtain ⟨hnext, hfault⟩ := feed_similar h input
    obtain ⟨hlast, hfaults⟩ := ih hnext
    exact ⟨hlast, .cons hfault hfaults⟩

/-- A return below 4096 and one above it, with different saved words. -/
theorem twelve_bit_lockstep_above_top :
    let low := { powerOn ⟨0, 0⟩ with
      memory := Memory.powerOn.store 0x200 [0x00, 0xEE]
      stack := (CallStack.empty.push 0x204) }
    let high := { low with
      pc := 0x5200
      i := 0xF000
      stack := ⟨CallStack.empty.slots.set 0 0x3204, 1⟩ }
    let inputs := [Input.cycle, .setKey 3 true, .frame]
    low.Similar high ∧ (low.session inputs).1.Similar (high.session inputs).1 ∧
      List.Forall₂ (Option.Rel Fault.Similar) (low.session inputs).2 (high.session inputs).2 := by
  intro low high inputs
  have hstack : low.stack.Similar high.stack := ⟨rfl, by decide, by decide, by decide, by decide⟩
  have hpc : SameAddress low.pc high.pc := (by decide : SameAddress 0x200 0x5200)
  have hi : SameAddress low.i high.i := (by decide : SameAddress 0 0xF000)
  have h : low.Similar high := ⟨rfl, rfl, hpc, rfl, hstack, rfl, rfl, rfl, rfl, hi, rfl, rfl, rfl⟩
  exact ⟨h, twelve_bit_lockstep inputs h⟩

end Machine
end Chip8
