import Chip8.Proofs.Attempt
import Chip8.Proofs.FrameCount
import Mathlib.Data.List.Forall2

/-! Sound timer, emitted frame and number of emissions are only put out. Two machines that differ
in nothing else run in lockstep: no instruction, no fault and no frame depends on them. -/
namespace Chip8

/-- All fields are equal but the three that are only put out. -/
structure Machine.SameButOutput (a b : Machine) : Prop where
  random_eq : a.random = b.random
  memory_eq : a.memory = b.memory
  pc_eq : a.pc = b.pc
  display_eq : a.display = b.display
  stack_eq : a.stack = b.stack
  delay_eq : a.delay = b.delay
  keypad_eq : a.keypad = b.keypad
  v_eq : a.v = b.v
  i_eq : a.i = b.i
  step_eq : a.step = b.step

structure Fault.SameButSound (f g : Fault) : Prop where
  kind_eq : f.kind = g.kind
  message_eq : f.message = g.message
  snapshot_eq : { f.snapshot with sound := g.snapshot.sound } = g.snapshot

namespace Machine
variable {a b x y : Machine} {i : Instruction} {op : Operation} {xs ys : List Machine}

private theorem sameButOutput_with (m : Machine) (sound : UInt8) (frame : Screen)
    (frames : Int32) : m.SameButOutput { m with sound, frame, frames } :=
  ⟨rfl, rfl, rfl, rfl, rfl, rfl, rfl, rfl, rfl, rfl⟩

private theorem SameButOutput.eq_with (h : a.SameButOutput b) :
    b = { a with sound := b.sound, frame := b.frame, frames := b.frames } := by
  obtain ⟨hrandom, hmemory, hpc, hdisplay, hstack, hdelay, hkeypad, hv, hi, hstep⟩ := h
  rw [hrandom, hmemory, hpc, hdisplay, hstack, hdelay, hkeypad, hv, hi, hstep]

private theorem skipIf_sameButOutput (condition : Bool) (h : a.SameButOutput b) :
    (skipIf condition a).SameButOutput (skipIf condition b) := by
  rw [h.eq_with, skipIf_eq, skipIf_eq]
  exact sameButOutput_with _ _ _ _

/-- One case for each operation: none of them reads an output, and only the setting of the sound
timer writes one. -/
theorem effect_sameButOutput (h : a.SameButOutput b) :
    (op.effect i a).SameButOutput (op.effect i b) := by
  rw [h.eq_with]
  cases op with
  | skipEqualByte | skipUnequalByte | skipEqual | skipUnequal | skipPressed | skipReleased =>
    exact skipIf_sameButOutput _ (sameButOutput_with _ _ _ _)
  | waitKey =>
    rw [Operation.effect, waitKey_eq, waitKey_eq]
    exact sameButOutput_with _ _ _ _
  | _ => exact sameButOutput_with _ _ _ _

private theorem advance_sameButOutput (h : a.SameButOutput b) :
    a.advance.SameButOutput b.advance := by
  rw [h.eq_with]
  exact sameButOutput_with _ _ _ _

private theorem countCycle_sameButOutput (h : a.SameButOutput b) :
    a.countCycle.SameButOutput b.countCycle := by
  rw [countCycle_eq, countCycle_eq, ← h.step_eq]
  split
  · rw [h.eq_with]
    exact sameButOutput_with _ _ _ _
  · rw [h.eq_with]
    exact sameButOutput_with _ _ _ _

private theorem keypad_sameButOutput (h : a.SameButOutput b) (keypad : Keypad) :
    { a with keypad }.SameButOutput { b with keypad } := by
  rw [h.eq_with]
  exact sameButOutput_with _ _ _ _

private theorem word_sameButOutput (h : a.SameButOutput b) : a.word = b.word := by
  rw [h.eq_with]
  rfl

private theorem check_sameButOutput (h : a.SameButOutput b) (word address : Int) :
    Option.Rel Fault.SameButSound (a.check word address) (b.check word address) := by
  rw [h.eq_with]
  change Option.Rel _ (Option.map _ (a.violation? word)) (Option.map _ (a.violation? word))
  cases a.violation? word with
  | none => exact .none
  | some v => exact .some ⟨rfl, rfl, rfl⟩

/-- Both machines fault, with similar reports, or both go on. -/
theorem cycle_sameButOutput (h : a.SameButOutput b) :
    (∃ f g, a.cycle = (a, some f) ∧ b.cycle = (b, some g) ∧ f.SameButSound g) ∨
      ∃ x y, a.cycle = (x, none) ∧ b.cycle = (y, none) ∧ x.SameButOutput y := by
  have hcheck := check_sameButOutput (advance_sameButOutput h) a.word.toNat
    (a.pc.toNat % 4096 : Nat)
  unfold cycle
  rw [← word_sameButOutput h, ← h.pc_eq]
  -- Both checks are named first: the goal is a match on each of them.
  generalize hca : a.advance.check a.word.toNat (a.pc.toNat % 4096 : Nat) = ca at hcheck ⊢
  generalize b.advance.check a.word.toNat (a.pc.toNat % 4096 : Nat) = cb at hcheck ⊢
  cases hcheck with
  | some hfg => exact .inl ⟨_, _, rfl, rfl, hfg⟩
  | none =>
    have hv := (check_eq_none_iff _ _ _).mp hca
    obtain ⟨op, hop⟩ := (violation?_eq_none_iff_admits a.advance a.word).mp hv
    refine .inr ⟨_, _, rfl, rfl, countCycle_sameButOutput ?_⟩
    rw [hop.dispatch, hop.dispatch]
    exact effect_sameButOutput (advance_sameButOutput h)

private theorem cycles_sameButOutput (n : Nat) (h : a.SameButOutput b) :
    (a.cycles n).1.SameButOutput (b.cycles n).1 ∧
      Option.Rel Fault.SameButSound (a.cycles n).2 (b.cycles n).2 := by
  induction n generalizing a b with
  | zero => exact ⟨h, .none⟩
  | succ n ih =>
    rw [cycles, cycles]
    rcases cycle_sameButOutput h with ⟨f, g, hf, hg, hfg⟩ | ⟨x, y, hx, hy, hxy⟩
    · rw [hf, hg]
      exact ⟨h, .some hfg⟩
    · rw [hx, hy]
      exact ih hxy

private theorem feed_sameButOutput (h : a.SameButOutput b) (input : Input) :
    (a.feed input).1.SameButOutput (b.feed input).1 ∧
      Option.Rel Fault.SameButSound (a.feed input).2 (b.feed input).2 := by
  cases input with
  | setKey index down =>
    rw [feed_setKey, feed_setKey, ← h.keypad_eq]
    exact ⟨keypad_sameButOutput h _, .none⟩
  | setKeys downs =>
    rw [feed_setKeys, feed_setKeys, ← h.keypad_eq]
    exact ⟨keypad_sameButOutput h _, .none⟩
  | cycle => exact cycles_sameButOutput 1 h
  | frame =>
    rw [feed, feed, advanceFrame, advanceFrame, ← h.step_eq]
    exact cycles_sameButOutput _ h

/-- For each of the machines whether the cycle that left it has emitted a frame. -/
def emissionMarks (m : Machine) : List Machine → List Bool
  | [] => []
  | next :: rest => (next.frames != m.frames) :: next.emissionMarks rest

private theorem emissionMarks_keypad (m : Machine) (keypad : Keypad) (zs : List Machine) :
    { m with keypad }.emissionMarks zs = m.emissionMarks zs := by
  cases zs <;> rfl

private theorem Counted.sameButOutput (h : a.SameButOutput b) (hxy : x.SameButOutput y)
    (hx : a.Counted x) (hy : b.Counted y) :
    (x.frames = a.frames ∧ y.frames = b.frames ∧ x.frame = a.frame ∧ y.frame = b.frame) ∨
      (x.frames ≠ a.frames ∧ y.frames ≠ b.frames ∧ x.frame = y.frame) := by
  have hstep := h.step_eq
  by_cases hlast : 15 ≤ a.step + 1
  · obtain ⟨-, hxs, hxf⟩ := hx.last hlast
    obtain ⟨-, hys, hyf⟩ := hy.last (hstep ▸ hlast)
    refine .inr ⟨by grind, by grind, ?_⟩
    rw [hxf, hyf, hxy.display_eq]
  · obtain ⟨-, hxs, hxf⟩ := hx.inner hlast
    obtain ⟨-, hys, hyf⟩ := hy.inner (hstep ▸ hlast)
    exact .inl ⟨hxs, hys, hxf, hyf⟩

/-- Side by side, cycles that succeed lead from `a` and `b` past the listed machines to `x` and `y`:
each pair of machines differs in outputs at most, frames are emitted by the same cycles, and what
both have emitted is the same. -/
structure Abreast (a b : Machine) (xs ys : List Machine) (x y : Machine) : Prop where
  machines : List.Forall₂ SameButOutput xs ys
  marks : a.emissionMarks xs = b.emissionMarks ys
  emitted : true ∈ a.emissionMarks xs → x.frame = y.frame
  kept : a.frame = b.frame → x.frame = y.frame

namespace Abreast

theorem refl (a b : Machine) : Abreast a b [] [] a b :=
  ⟨.nil, rfl, nofun, id⟩

theorem keys {p q : Keypad} (h : Abreast { a with keypad := p } { b with keypad := q } xs ys x y) :
    Abreast a b xs ys x y := by
  obtain ⟨hmachines, hmarks, hemitted, hkept⟩ := h
  rw [emissionMarks_keypad a, emissionMarks_keypad b] at hmarks
  rw [emissionMarks_keypad a] at hemitted
  exact ⟨hmachines, hmarks, hemitted, hkept⟩

theorem cycle {s t : Machine} (hab : a.SameButOutput b) (hst : s.SameButOutput t)
    (hs : a.cycle = (s, none)) (ht : b.cycle = (t, none)) (h : Abreast s t xs ys x y) :
    Abreast a b (s :: xs) (t :: ys) x y := by
  have hcounted := Counted.sameButOutput hab hst (cycle_counted hs) (cycle_counted ht)
  refine ⟨.cons hst h.machines, ?_, ?_, ?_⟩
  · rw [emissionMarks, emissionMarks, h.marks]
    congr 1
    rcases hcounted with ⟨hs, ht, -⟩ | ⟨hs, ht, -⟩
    · rw [hs, ht]; simp
    · rw [bne_iff_ne.mpr hs, bne_iff_ne.mpr ht]
  · intro hmem
    rw [emissionMarks, List.mem_cons] at hmem
    rcases hcounted with ⟨hs, -⟩ | ⟨-, -, hframe⟩
    · rw [hs] at hmem
      exact h.emitted (hmem.resolve_left (by simp))
    · exact h.kept hframe
  · intro hframe
    rcases hcounted with ⟨-, -, hs, ht⟩ | ⟨-, -, hst⟩
    · exact h.kept (by rw [hs, ht, hframe])
    · exact h.kept hst

theorem cycles (n : Nat) (hab : a.SameButOutput b)
    (h : Abreast (a.cycles n).1 (b.cycles n).1 xs ys x y) :
    Abreast a b (a.course n ++ xs) (b.course n ++ ys) x y := by
  induction n generalizing a b with
  | zero => exact h
  | succ n ih =>
    rw [course, course]
    rw [Machine.cycles, Machine.cycles] at h
    rcases cycle_sameButOutput hab with ⟨f, g, hf, hg, -⟩ | ⟨s, t, hs, ht, hst⟩
    · rw [hf, hg] at h ⊢
      exact h
    · rw [hs, ht] at h ⊢
      exact (ih hst h).cycle hab hst hs ht

theorem feed (input : Input) (hab : a.SameButOutput b)
    (h : Abreast (a.feed input).1 (b.feed input).1 xs ys x y) :
    Abreast a b (a.successes input ++ xs) (b.successes input ++ ys) x y := by
  cases input with
  | setKey index down =>
    rw [feed_setKey, feed_setKey] at h
    exact h.keys
  | setKeys downs =>
    rw [feed_setKeys, feed_setKeys] at h
    exact h.keys
  | cycle => exact cycles 1 hab h
  | frame =>
    rw [Machine.feed, Machine.feed, advanceFrame, advanceFrame, ← hab.step_eq] at h
    rw [successes, successes, ← hab.step_eq]
    exact cycles _ hab h

end Abreast

/-- Whatever reaches two programs that differ in their outputs alone: machine by machine they still
differ in nothing else, the same cycles succeed and the same of them emit a frame, and each input
meets the same fault, up to the sound timer in its report. From the first emission on the emitted
frames are equal. -/
theorem outputs_stay_outside (inputs : List Input) (h : a.SameButOutput b) :
    (a.session inputs).1.SameButOutput (b.session inputs).1 ∧
      List.Forall₂ (Option.Rel Fault.SameButSound) (a.session inputs).2 (b.session inputs).2 ∧
      List.Forall₂ SameButOutput (a.history inputs) (b.history inputs) ∧
      a.emissionMarks (a.history inputs) = b.emissionMarks (b.history inputs) ∧
      (true ∈ a.emissionMarks (a.history inputs) →
        (a.session inputs).1.frame = (b.session inputs).1.frame) := by
  have hrun : ((a.session inputs).1.SameButOutput (b.session inputs).1 ∧
      List.Forall₂ (Option.Rel Fault.SameButSound) (a.session inputs).2 (b.session inputs).2) ∧
      Abreast a b (a.history inputs) (b.history inputs) (a.session inputs).1
        (b.session inputs).1 := by
    induction inputs generalizing a b with
    | nil => exact ⟨⟨h, .nil⟩, .refl a b⟩
    | cons input rest ih =>
      obtain ⟨hnext, hfault⟩ := feed_sameButOutput h input
      obtain ⟨⟨hlast, hfaults⟩, hrest⟩ := ih hnext
      exact ⟨⟨hlast, .cons hfault hfaults⟩, hrest.feed input h⟩
  obtain ⟨⟨hlast, hfaults⟩, hside⟩ := hrun
  exact ⟨hlast, hfaults, hside.machines, hside.marks, hside.emitted⟩

/-- A jump to itself in the last cycle of a frame: the two machines start with different outputs,
and after that cycle the emitted frames are equal. -/
theorem outputs_stay_outside_of_last_cycle :
    let program := Memory.powerOn.store 0x200 [0x12, 0x00]
    let a := { powerOn ⟨0, 0⟩ with memory := program, step := 14 }
    let b := { a with
      sound := 7
      frame := Vector.replicate 32 (Vector.replicate 64 true)
      frames := -1 }
    let inputs := [Input.cycle, .setKey 3 true, .cycle]
    a.SameButOutput b ∧ a.frame ≠ b.frame ∧
      (a.session inputs).1.SameButOutput (b.session inputs).1 ∧
      true ∈ a.emissionMarks (a.history inputs) ∧
      (a.session inputs).1.frame = (b.session inputs).1.frame := by
  intro program a b inputs
  have hab : a.SameButOutput b := ⟨rfl, rfl, rfl, rfl, rfl, rfl, rfl, rfl, rfl, rfl⟩
  obtain ⟨hlast, -, -, -, hframe⟩ := outputs_stay_outside inputs hab
  have hword : a.word = 0x1200 :=
    (word_of_store (show a.memory = program from rfl) rfl (by decide)).trans (by decide)
  have hadmits : a.Admits (Instruction.decode (0x1200 : UInt16).toNat) .jump :=
    .of_operation? (by decide) (by decide) (by decide) (by decide)
  obtain ⟨next, hc⟩ : ∃ next, a.cycle = (next, none) := ⟨_, cycle_of_admits hword hadmits⟩
  have hemitted : next.frames = a.frames + 1 := ((cycle_counted hc).last (by decide)).2.1
  have hmem : true ∈ a.emissionMarks (a.history inputs) := by
    rw [history, successes, course, hc, List.cons_append, emissionMarks, hemitted]
    exact List.mem_cons_self
  refine ⟨hab, ?_, hlast, hmem, hframe hmem⟩
  intro h
  have hblank : a.frame[0][0] = false := Bitmap.blank_pixel (by decide) (by decide)
  have hlit : b.frame[0][0] = true := by simp [b]
  rw [h, hlit] at hblank
  exact Bool.noConfusion hblank

end Machine
end Chip8
