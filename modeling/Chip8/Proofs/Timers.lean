import Chip8.Proofs.FrameRuns
import Chip8.Proofs.Passage

/-! The timers over a run of cycles. Each frame that is emitted takes one off a timer until it is
zero, so a timer is known from the last value that was put into it and the frames since then. -/
namespace Chip8

inductive Timer where
  | delay
  | sound
  deriving DecidableEq, Repr

namespace Timer

def value (m : Machine) : Timer → UInt8
  | delay => m.delay
  | sound => m.sound

def SetBy (i : Instruction) : Timer → Prop
  | delay => i.IsMember 0x1 0x5
  | sound => i.IsMember 0x1 0x8

/-- What a timer shows after cycles that start at `m`. The subtraction stops at zero. A cycle that
sets the timer counts itself, so the frame that it may close takes one off already. -/
structure Shows (timer : Timer) (m : Machine) (done : List Transition) (shown : Nat) : Prop where
  kept : (∀ t ∈ done, ¬timer.SetBy t.source.instruction) →
    shown = (timer.value m).toNat - m.emissions (done.map Transition.target)
  set : ∀ before t after, done = before ++ t :: after → timer.SetBy t.source.instruction →
    (∀ u ∈ after, ¬timer.SetBy u.source.instruction) →
    shown = (t.source.v.get t.source.instruction.x).toNat -
      t.source.emissions ((t :: after).map Transition.target)

end Timer

namespace Machine
variable {m next last : Machine} {i : Instruction} {op : Operation} {timer : Timer}
  {done : List Transition}

theorem toNat_ticked (t : UInt8) :
    (if t = 0 then 0 else t - 1).toNat = t.toNat - 1 := by
  split
  · rename_i h
    rw [h]
    rfl
  · rename_i h
    have hpos : 1 ≤ t := by
      rw [UInt8.le_iff_toNat_le]
      have hne : t.toNat ≠ 0 := fun hz => h (UInt8.toNat_inj.mp hz)
      exact Nat.one_le_iff_ne_zero.mpr hne
    exact UInt8.toNat_sub_of_le _ _ hpos

private theorem countCycle_timer (timer : Timer) (m : Machine) :
    (timer.value m.countCycle).toNat =
      (timer.value m).toNat - if 15 ≤ m.step + 1 then 1 else 0 := by
  rw [countCycle_eq]
  split
  · cases timer with
    | delay => exact toNat_ticked m.delay
    | sound => exact toNat_ticked m.sound
  · cases timer <;> rfl

private theorem Admits.timer_effect_of_set (h : m.Admits i op) (hset : timer.SetBy i) :
    timer.value (op.effect i m) = m.v.get i.x := by
  cases timer with
  | delay =>
    obtain rfl : op = .setDelay := h.eq_of_fill (by decide) hset.symm
    rfl
  | sound =>
    obtain rfl : op = .setSound := h.eq_of_fill (by decide) hset.symm
    rfl

private theorem Admits.timer_effect_of_not_set (h : m.Admits i op) (hset : ¬timer.SetBy i) :
    timer.value (op.effect i m) = timer.value m := by
  cases timer with
  | delay =>
    refine Operation.effect_same .delay ?_ m
    rintro rfl
    exact hset h.digits_eq
  | sound =>
    refine Operation.effect_same .sound ?_ m
    rintro rfl
    exact hset h.digits_eq

private theorem emissions_cons (m next : Machine) (rest : List Machine) :
    m.emissions (next :: rest) = m.emissions [next] + next.emissions rest := rfl

private theorem emissions_keypad (m : Machine) (keypad : Keypad) (course : List Machine) :
    { m with keypad }.emissions course = m.emissions course := by
  cases course <;> rfl

private theorem cycle_emissions (hc : m.cycle = (next, none)) :
    m.emissions [next] = if 15 ≤ m.step + 1 then 1 else 0 := by
  have hcount := cycle_counted hc
  rw [emissions, emissions, Nat.add_zero]
  split
  · rename_i hsame
    have hinner : ¬15 ≤ m.step + 1 := by
      intro hlast
      rw [(hcount.last hlast).2.1] at hsame
      grind
    rw [if_neg hinner]
  · rename_i hother
    rw [if_pos]
    by_contra hinner
    exact hother (hcount.inner hinner).2.1

private theorem cycle_timer (hc : m.cycle = (next, none)) (timer : Timer) :
    (timer.SetBy m.instruction → (timer.value next).toNat =
      (m.v.get m.instruction.x).toNat - m.emissions [next]) ∧
    (¬timer.SetBy m.instruction → (timer.value next).toNat =
      (timer.value m).toNat - m.emissions [next]) := by
  have hemissions := cycle_emissions hc
  obtain ⟨op, hop, rfl⟩ := cycle_eq_ok hc
  rw [hemissions, countCycle_timer, Operation.effect_step]
  constructor
  · intro hset
    rw [hop.advance.timer_effect_of_set hset]
    rfl
  · intro hset
    rw [hop.advance.timer_effect_of_not_set hset]
    cases timer <;> rfl

namespace Passage

theorem step_eq (h : Passage m done last) (h0 : 0 ≤ m.step.toInt) (h14 : m.step.toInt ≤ 14) :
    last.step.toInt = (m.step.toInt + done.length) % 15 := by
  induction h with
  | refl m =>
    rw [List.length_nil]
    omega
  | keys keypad _ ih => exact ih h0 h14
  | cycle hc _ ih =>
    have hnext := cycle_step h0 h14 hc
    rw [ih (by omega) (by omega), hnext, List.length_cons]
    omega

/-- Every fifteenth cycle emits a frame, counted from the start of the frame in progress. -/
theorem emissions_eq (h : Passage m done last) (h0 : 0 ≤ m.step.toInt) (h14 : m.step.toInt ≤ 14) :
    m.emissions (done.map Transition.target) = (m.step.toInt.toNat + done.length) / 15 := by
  induction h with
  | refl m =>
    rw [List.map_nil, emissions, List.length_nil]
    omega
  | @keys m _ _ keypad _ ih =>
    rw [← emissions_keypad m keypad]
    exact ih h0 h14
  | @cycle m _ _ _ hc _ ih =>
    have hnext := cycle_step h0 h14 hc
    have hlast := (step_succ h0 h14).2
    rw [List.map_cons, emissions_cons, cycle_emissions hc, ih (by omega) (by omega),
      List.length_cons]
    by_cases hstep : m.step.toInt = 14
    · rw [if_pos (hlast.mpr hstep)]
      omega
    · rw [if_neg (mt hlast.mp hstep)]
      omega

private theorem shows_timer (h : Passage m done last) (timer : Timer) :
    timer.Shows m done (timer.value last).toNat := by
  induction h with
  | refl m =>
    refine ⟨fun _ => rfl, fun before t after hdone => ?_⟩
    cases before <;> cases hdone
  | @keys m _ _ keypad _ ih =>
    refine ⟨fun hnone => ?_, ih.set⟩
    rw [ih.kept hnone, emissions_keypad]
    cases timer <;> rfl
  | @cycle m next last rest hc _ ih =>
    obtain ⟨hset, hkept⟩ := cycle_timer hc timer
    constructor
    · intro hnone
      obtain ⟨hfirst, hrest⟩ := List.forall_mem_cons.mp hnone
      rw [ih.kept hrest, hkept hfirst, Nat.sub_sub]
      rfl
    · intro before t after hdone hsets hafter
      cases before with
      | nil =>
        cases hdone
        rw [ih.kept hafter, hset hsets, Nat.sub_sub]
        rfl
      | cons _ before =>
        exact ih.set before t after (List.cons.inj hdone).2 hsets hafter

end Passage

/-- Over any cycles that succeed, with changes of keys between them, a timer loses one for each
frame that is emitted since it was last set, or since the start, until it is zero; the frames are
those of fifteen cycles. Wherever a program reads the delay timer, it finds this value. -/
theorem timers_count_emitted_frames (h0 : 0 ≤ m.step) (h14 : m.step ≤ 14)
    (h : Passage m done last) :
    m.emissions (done.map Transition.target) = (m.step.toInt.toNat + done.length) / 15 ∧
    (∀ timer : Timer, timer.Shows m done (timer.value last).toNat) ∧
    ∀ before t after, done = before ++ t :: after →
      t.source.emissions ((t :: after).map Transition.target) =
        ((m.step.toInt.toNat + before.length) % 15 + after.length + 1) / 15 ∧
      (t.source.instruction.IsMember 0x0 0x7 →
        Timer.delay.Shows m before (t.target.v.get t.source.instruction.x).toNat) := by
  obtain ⟨h0, h14⟩ := step_toInt_of_le h0 h14
  refine ⟨h.emissions_eq h0 h14, h.shows_timer, fun before t after hdone => ?_⟩
  obtain ⟨middle, hbefore, ⟨keypad, hsource⟩, hc, hafter⟩ := (hdone ▸ h).split
  constructor
  · have hstep : t.source.step.toInt = (m.step.toInt + before.length) % 15 := by
      rw [hsource]
      exact hbefore.step_eq h0 h14
    have hsuffix := (Passage.cycle hc hafter).emissions_eq (by omega) (by omega)
    rw [hsuffix, List.length_cons]
    omega
  · intro hread
    obtain ⟨op, hop, hnext⟩ := cycle_eq_ok hc
    obtain rfl : op = .readDelay := hop.eq_of_fill (by decide) hread.symm
    have hvalue : t.target.v.get t.source.instruction.x = middle.delay := by
      rw [hnext, countCycle_v, hsource]
      exact Digit.get_put ..
    rw [hvalue]
    exact hbefore.shows_timer .delay

/-- The last cycle of a frame sets the delay timer to 5, which that frame makes 4 at once; the next
cycle reads it. -/
theorem timers_count_emitted_frames_at_end :
    let program := Memory.powerOn.store 0x200 [0xF0, 0x15, 0xF1, 0x07]
    let m := { powerOn ⟨0, 0⟩ with
      memory := program
      v := Vector.replicate 16 5
      step := 14 }
    ∃ set read, (0 ≤ m.step ∧ m.step ≤ 14) ∧ Passage m [⟨m, set⟩, ⟨set, read⟩] read ∧
      m.emissions [set, read] = 1 ∧ read.delay.toNat = 4 ∧ (read.v.get 0x1).toNat = 4 := by
  intro program m
  have hstep : 0 ≤ m.step ∧ m.step ≤ 14 := by decide
  have hread (a : Nat) : program.read a = _ := Memory.read_store _ _ 0x200 a (by decide)
  have hword : m.word = 0xF015 := by
    rw [word, show m.memory = program from rfl, hread, hread]
    decide
  have hm : m.instruction = ⟨0xF, 0x0, 0x1, 0x5⟩ := by
    rw [instruction, hword]
    decide
  have hset : m.Admits (Instruction.decode (0xF015 : UInt16).toNat) .setDelay :=
    .of_operation? (by decide) (by decide) (by decide) (by decide)
  have hfirst := cycle_of_admits hword hset
  generalize hnext : (Operation.setDelay.effect _ m.advance).countCycle = set at hfirst
  have hnextWord : set.word = 0xF107 := by
    rw [← hnext, word, countCycle_memory, countCycle_pc]
    change (program.read 0x202).toUInt16 <<< 8 ||| (program.read 0x203).toUInt16 = 0xF107
    rw [hread, hread]
    decide
  have hs : set.instruction = ⟨0xF, 0x1, 0x0, 0x7⟩ := by
    rw [instruction, hnextWord]
    decide
  have hget : set.Admits (Instruction.decode (0xF107 : UInt16).toNat) .readDelay :=
    .of_operation? (by decide) (by decide) (by decide) (by decide)
  obtain ⟨read, hsecond⟩ : ∃ read, set.cycle = (read, none) := ⟨_, cycle_of_admits hnextWord hget⟩
  have hrun : Passage m [⟨m, set⟩, ⟨set, read⟩] read := .cycle hfirst (.cycle hsecond (.refl read))
  obtain ⟨hframes, hshows, hpoints⟩ := timers_count_emitted_frames hstep.1 hstep.2 hrun
  have hsets : Timer.delay.SetBy m.instruction := hm ▸ rfl
  have hkeeps : ¬Timer.delay.SetBy set.instruction := by
    rw [hs]
    exact (by decide : ¬Instruction.IsMember ⟨0xF, 0x1, 0x0, 0x7⟩ 0x1 0x5)
  have hreads : set.instruction.IsMember 0x0 0x7 := hs ▸ rfl
  have hfive : (m.v.get m.instruction.x).toNat = 5 := by
    rw [hm]
    decide
  have hfourteen : m.step.toInt.toNat = 14 := by decide
  rw [hfourteen] at hframes hpoints
  refine ⟨set, read, hstep, hrun, hframes.trans (by simp), ?_, ?_⟩
  · have hlast := (hshows .delay).set [] _ [⟨set, read⟩] rfl hsets
      (List.forall_mem_singleton.mpr hkeeps)
    rw [hfive, (hpoints [] _ _ rfl).1] at hlast
    exact hlast.trans (by simp)
  · have hvalue := ((hpoints [⟨m, set⟩] _ [] rfl).2 hreads).set [] _ [] rfl hsets
      (List.forall_mem_nil _)
    rw [hfive, hs] at hvalue
    exact hvalue.trans (congrArg (5 - ·) (cycle_emissions hfirst))

end Machine
end Chip8
