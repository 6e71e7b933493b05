import Chip8.Proofs.Bounds

/-! The frame counter against the history of a session: the cycles that succeeded, in order. Single
cycles and whole frames share one count, and the emitted frame is a display of the past. -/
namespace Chip8.Machine
variable {m next : Machine} {done : List Machine}

/-- The machines right after each of up to `n` cycles, as long as these succeed. -/
def course : Nat → Machine → List Machine
  | 0, _ => []
  | n + 1, m =>
    match m.cycle with
    | (next, none) => next :: course n next
    | _ => []

def successes (m : Machine) : Input → List Machine
  | .setKey _ _ => []
  | .setKeys _ => []
  | .cycle => m.course 1
  | .frame => m.course (cyclesPerFrame.toInt - m.step.toInt).toNat

def history : List Input → Machine → List Machine
  | [], _ => []
  | input :: rest, m => m.successes input ++ history rest (m.feed input).1

/-- How many of the machines have counted one frame more than the one before. -/
def emissions (m : Machine) : List Machine → Nat
  | [] => 0
  | next :: rest => (if next.frames = m.frames then 0 else 1) + next.emissions rest

/-- The counters and the frame that belong to a history of successful cycles. -/
structure Accounted (done : List Machine) (m : Machine) : Prop where
  step : m.step = Int32.ofNat (done.length % 15)
  frames : m.frames = Int32.ofNat (done.length / 15)
  no_frame : done.length < 15 → m.frame = Bitmap.blank
  frame : ∀ _ : 15 ≤ done.length,
    m.frame = (done.get ⟨15 * (done.length / 15) - 1, by omega⟩).display

structure Counted (m next : Machine) : Prop where
  last : 15 ≤ m.step + 1 →
    next.step = 0 ∧ next.frames = m.frames + 1 ∧ next.frame = next.display
  inner : ¬15 ≤ m.step + 1 →
    next.step = m.step + 1 ∧ next.frames = m.frames ∧ next.frame = m.frame

theorem cycle_counted (hc : m.cycle = (next, none)) : m.Counted next := by
  obtain ⟨op, -, rfl⟩ := cycle_eq_ok hc
  have hstep : (op.effect m.instruction m.advance).step = m.step := Operation.effect_step _ _ _
  have hframe : (op.effect m.instruction m.advance).frame = m.frame := Operation.effect_frame _ _ _
  have hframes : (op.effect m.instruction m.advance).frames = m.frames :=
    Operation.effect_frames _ _ _
  rw [countCycle_eq, hstep]
  constructor
  · intro h
    rw [if_pos h]
    exact ⟨rfl, congrArg (· + 1) hframes, rfl⟩
  · intro h
    rw [if_neg h]
    exact ⟨rfl, hframes, hframe⟩

private theorem cycles_eq_getLastD (n : Nat) (m : Machine) :
    (m.cycles n).1 = (m.course n).getLastD m := by
  induction n generalizing m with
  | zero => rfl
  | succ n ih =>
    rw [cycles, course]
    obtain ⟨next, hc⟩ | ⟨f, hc⟩ := m.cycle_cases
    · rw [hc]
      exact (ih next).trans (List.getLastD_cons ..).symm
    · rw [hc]
      rfl

theorem last_step_iff (r : Nat) (h : r < 15) : 15 ≤ Int32.ofNat r + 1 ↔ r = 14 :=
  (by decide : ∀ r < 15, 15 ≤ Int32.ofNat r + 1 ↔ r = 14) r h

private theorem Accounted.append_last (h : Accounted done m) (hk : done.length % 15 = 14)
    (hstep : next.step = 0) (hframes : next.frames = m.frames + 1)
    (hframe : next.frame = next.display) : Accounted (done ++ [next]) next := by
  have hmod : (done ++ [next]).length % 15 = 0 := by
    rw [List.length_append, List.length_singleton]
    omega
  have hdiv : (done ++ [next]).length / 15 = done.length / 15 + 1 := by
    rw [List.length_append, List.length_singleton]
    omega
  refine ⟨?_, ?_, ?_, ?_⟩
  · rw [hstep, hmod]
    rfl
  · rw [hframes, hdiv, h.frames, Int32.ofNat_add]
    rfl
  · intro hlt
    omega
  · intro hle
    have hindex : 15 * ((done ++ [next]).length / 15) - 1 = done.length := by omega
    rw [hframe, List.get_eq_getElem]
    simp only [hindex, List.getElem_concat_length]

private theorem Accounted.append_inner (h : Accounted done m) (hk : done.length % 15 ≠ 14)
    (hstep : next.step = m.step + 1) (hframes : next.frames = m.frames)
    (hframe : next.frame = m.frame) : Accounted (done ++ [next]) next := by
  have hmod : (done ++ [next]).length % 15 = done.length % 15 + 1 := by
    rw [List.length_append, List.length_singleton]
    omega
  have hdiv : (done ++ [next]).length / 15 = done.length / 15 := by
    rw [List.length_append, List.length_singleton]
    omega
  refine ⟨?_, ?_, ?_, ?_⟩
  · rw [hstep, hmod, h.step, Int32.ofNat_add]
    rfl
  · rw [hframes, hdiv, h.frames]
  · intro hlt
    rw [hframe]
    exact h.no_frame (by omega)
  · intro hle
    have hlt : 15 * (done.length / 15) - 1 < done.length := by omega
    rw [hframe, h.frame (by omega), List.get_eq_getElem, List.get_eq_getElem]
    simp only [hdiv, List.getElem_append_left hlt]

theorem Accounted.cycle (h : Accounted done m) (hc : m.cycle = (next, none)) :
    Accounted (done ++ [next]) next := by
  have hcount := cycle_counted hc
  have hlast := last_step_iff (done.length % 15) (Nat.mod_lt _ (by decide))
  rw [← h.step] at hlast
  by_cases hk : done.length % 15 = 14
  · obtain ⟨hstep, hframes, hframe⟩ := hcount.last (hlast.mpr hk)
    exact h.append_last hk hstep hframes hframe
  · obtain ⟨hstep, hframes, hframe⟩ := hcount.inner (mt hlast.mp hk)
    exact h.append_inner hk hstep hframes hframe

theorem Accounted.cycles (n : Nat) (h : Accounted done m) :
    Accounted (done ++ m.course n) (m.cycles n).1 := by
  induction n generalizing m done with
  | zero =>
    rw [course, List.append_nil]
    exact h
  | succ n ih =>
    rw [course, Machine.cycles]
    obtain ⟨next, hc⟩ | ⟨f, hc⟩ := m.cycle_cases
    · rw [hc]
      dsimp only
      rw [List.append_cons]
      exact ih (h.cycle hc)
    · rw [hc]
      dsimp only
      rw [List.append_nil]
      exact h

theorem Accounted.feed (input : Input) (h : Accounted done m) :
    Accounted (done ++ m.successes input) (m.feed input).1 := by
  cases input with
  | setKey index down =>
    rw [feed_setKey, successes, List.append_nil]
    exact ⟨h.step, h.frames, h.no_frame, h.frame⟩
  | setKeys downs =>
    rw [feed_setKeys, successes, List.append_nil]
    exact ⟨h.step, h.frames, h.no_frame, h.frame⟩
  | cycle => exact h.cycles 1
  | frame => exact h.cycles _

theorem Accounted.session (inputs : List Input) (h : Accounted done m) :
    Accounted (done ++ m.history inputs) (m.session inputs).1 := by
  induction inputs generalizing m done with
  | nil =>
    rw [history, List.append_nil]
    exact h
  | cons input rest ih =>
    rw [history, ← List.append_assoc]
    exact ih (h.feed input)

private theorem Accounted.step_toInt (h : Accounted done m) :
    0 ≤ m.step.toInt ∧ m.step.toInt ≤ 14 := by
  have hr : ∀ r < 15, 0 ≤ (Int32.ofNat r).toInt ∧ (Int32.ofNat r).toInt ≤ 14 := by decide
  rw [h.step]
  exact hr _ (Nat.mod_lt _ (by decide))

theorem step_succ {step : Int32} (h0 : 0 ≤ step.toInt) (h14 : step.toInt ≤ 14) :
    (step + 1).toInt = step.toInt + 1 ∧ (15 ≤ step + 1 ↔ step.toInt = 14) := by
  have hone : (1 : Int32).toInt = 1 := rfl
  have hsucc : (step + 1).toInt = step.toInt + 1 := by
    rw [Int32.toInt_add, hone]
    exact Int.bmod_eq_of_le (by omega) (by omega)
  refine ⟨hsucc, ?_⟩
  rw [Int32.le_iff_toInt_le, hsucc]
  show (15 : Int) ≤ _ ↔ _
  omega

/-- The cycles up to the end of a frame emit it with the last of them, and nothing before. -/
theorem course_emissions (n : Nat) (m : Machine) (h0 : 0 ≤ m.step.toInt)
    (hn : m.step.toInt + n = 15) (hpos : 0 < n) :
    ((m.cycles n).2 = none → (m.course n).length = n ∧ m.emissions (m.course n) = 1) ∧
      ((m.cycles n).2 ≠ none → m.emissions (m.course n) = 0) := by
  induction n generalizing m with
  | zero => exact absurd hpos (Nat.lt_irrefl 0)
  | succ n ih =>
    rw [course, cycles]
    obtain ⟨next, hc⟩ | ⟨f, hc⟩ := m.cycle_cases
    · have hcount := cycle_counted hc
      obtain ⟨hsucc, hlast⟩ := step_succ h0 (by omega)
      rw [hc]
      dsimp only
      rw [emissions]
      -- With no cycle left to do this one closes the frame, otherwise it leaves the count alone.
      rcases Nat.eq_zero_or_pos n with hzero | hmore
      · subst hzero
        have hne : next.frames ≠ m.frames := by
          rw [(hcount.last (hlast.mpr (by omega))).2.1]
          grind
        rw [if_neg hne]
        exact ⟨fun _ => ⟨rfl, rfl⟩, fun h => absurd rfl h⟩
      · obtain ⟨hstep, hframes, -⟩ := hcount.inner (mt hlast.mp (by omega))
        have hrest := ih next (by rw [hstep]; omega) (by rw [hstep]; omega) hmore
        rw [if_pos hframes, Nat.zero_add, List.length_cons]
        exact ⟨fun h => ⟨congrArg (· + 1) (hrest.1 h).1, (hrest.1 h).2⟩, hrest.2⟩
    · rw [hc]
      exact ⟨fun h => (by cases h), fun _ => rfl⟩

theorem Accounted.advanceFrame (h : Accounted done m) :
    (m.advanceFrame.2 = none → ((m.successes .frame).length : Int) = 15 - m.step.toInt ∧
      m.emissions (m.successes .frame) = 1) ∧
    (m.advanceFrame.2 ≠ none → m.emissions (m.successes .frame) = 0) := by
  obtain ⟨h0, h14⟩ := h.step_toInt
  have hlen : cyclesPerFrame.toInt = 15 := rfl
  have hcourse := course_emissions (cyclesPerFrame.toInt - m.step.toInt).toNat m h0 (by omega)
    (by omega)
  refine ⟨fun hf => ⟨?_, (hcourse.1 hf).2⟩, hcourse.2⟩
  rw [successes, (hcourse.1 hf).1]
  omega

/-- After any inputs to a freshly loaded program, step, number of frames and emitted frame are
those of the number of cycles that succeeded. The rest of a frame, started from there, takes the
cycles that are missing to fifteen and emits once, or it meets a fault and emits nothing. -/
theorem frame_accounting (random : Random.Stream) (image : List UInt8) (start : Machine)
    (hload : (powerOn random).loadProgram image = .ok start) (inputs : List Input) :
    let done := start.history inputs
    let m := (start.session inputs).1
    Accounted done m ∧
      m.advanceFrame.1 = (m.successes .frame).getLastD m ∧
      (m.advanceFrame.2 = none → ((m.successes .frame).length : Int) = 15 - m.step.toInt ∧
        m.emissions (m.successes .frame) = 1) ∧
      (m.advanceFrame.2 ≠ none → m.emissions (m.successes .frame) = 0) := by
  intro done m
  have hstart : Accounted [] start := by
    unfold loadProgram at hload
    split at hload
    · cases hload
    · cases hload
      exact ⟨rfl, rfl, fun _ => rfl, fun h => absurd h (by decide)⟩
  have hm : Accounted done m := hstart.session inputs
  exact ⟨hm, cycles_eq_getLastD _ m, hm.advanceFrame⟩

/-- A program that jumps to itself: a single cycle, a frame that ends it, a key, one cycle more. -/
theorem frame_accounting_of_loop :
    let start := { powerOn ⟨0, 0⟩ with
      memory := (powerOn ⟨0, 0⟩).memory.store programStart [0x12, 0x00] }
    let inputs := [Input.cycle, .frame, .setKey 3 true, .cycle]
    let done := start.history inputs
    let m := (start.session inputs).1
    (powerOn ⟨0, 0⟩).loadProgram [0x12, 0x00] = .ok start ∧
      Accounted done m ∧
      m.advanceFrame.1 = (m.successes .frame).getLastD m ∧
      (m.advanceFrame.2 = none → ((m.successes .frame).length : Int) = 15 - m.step.toInt ∧
        m.emissions (m.successes .frame) = 1) ∧
      (m.advanceFrame.2 ≠ none → m.emissions (m.successes .frame) = 0) := by
  intro start inputs done m
  have hload : (powerOn ⟨0, 0⟩).loadProgram [0x12, 0x00] = .ok start := if_neg (by decide)
  exact ⟨hload, frame_accounting ⟨0, 0⟩ [0x12, 0x00] start hload inputs⟩

end Chip8.Machine
