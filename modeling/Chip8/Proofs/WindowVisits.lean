import Chip8.Proofs.WindowTurns

/-! The turns that the loop of a window enters, also one that fails before it has drawn its
image. -/
namespace Chip8.Window
variable {style : Style} {path : String} {turns : List Turn} {t : Turn} {w next : Window}

/-- The turns that are entered, each with the window it finds: all of them up to one that quits or
fails. -/
def visits (style : Style) (path : String) : List Turn → Window → List (Turn × Window)
  | [], _ => []
  | t :: rest, w =>
    (t, w) :: match (turn style path t w).2 with
      | .ok next => if next.running then visits style path rest next else []
      | .error _ => []

private theorem visits_last (style : Style) (path : String) (t : Turn) (w : Window) :
    visits style path [t] w = [(t, w)] := by
  rw [visits]
  cases (turn style path t w).2 with
  | ok next => simp [visits]
  | error e => rfl

/-- A loop writes what the turns write that it enters. -/
theorem loop_actions (style : Style) (path : String) (turns : List Turn) (w : Window) :
    (loop style path turns w).1 =
      (visits style path (turns ++ [lastTurn]) w).flatMap fun v => (turn style path v.1 v.2).1 := by
  induction turns generalizing w with
  | nil =>
    rw [List.nil_append, visits_last, List.flatMap_singleton]
    rfl
  | cons t rest ih =>
    rw [loop, List.cons_append, visits, List.flatMap_cons]
    generalize turn style path t w = result
    obtain ⟨actions, e | next⟩ := result
    · exact (List.append_nil actions).symm
    · dsimp only
      by_cases hrunning : next.running = true
      · rw [if_pos hrunning, if_pos hrunning, ih]
      · rw [if_neg hrunning, if_neg hrunning]
        exact (List.append_nil actions).symm

/-- A loop fails with the error of a turn that it enters. -/
theorem loop_error_iff {e : HostError} : (loop style path turns w).2 = .error e ↔
    ∃ v ∈ visits style path (turns ++ [lastTurn]) w, (turn style path v.1 v.2).2 = .error e := by
  induction turns generalizing w with
  | nil =>
    rw [List.nil_append, visits_last]
    simp only [List.mem_singleton, exists_eq_left]
    rfl
  | cons t rest ih =>
    rw [loop, List.cons_append, visits]
    simp only [List.mem_cons, exists_eq_or_imp]
    generalize turn style path t w = result
    obtain ⟨actions, e' | next⟩ := result
    · simp
    · dsimp only
      by_cases hrunning : next.running = true
      · simp [hrunning, ih]
      · simp [hrunning]

/-- What holds of the window that a loop starts with, and is carried on by the turns that are
finished, holds of every window that a turn finds. -/
theorem visits_keep {P : List Turn → Window → Prop}
    (hturn : ∀ past t w next, P past w → (turn style path t w).2 = .ok next → P (past ++ [t]) next)
    (past : List Turn) (h : P past w) {i : Nat} {found : Window}
    (hvisit : (visits style path turns w)[i]? = some (t, found)) :
    turns[i]? = some t ∧ P (past ++ turns.take i) found := by
  induction turns generalizing w past i with
  | nil => cases hvisit
  | cons first rest ih =>
    rw [visits] at hvisit
    cases i with
    | zero =>
      cases hvisit
      exact ⟨rfl, (List.append_nil past).symm ▸ h⟩
    | succ i =>
      rw [List.getElem?_cons_succ] at hvisit
      cases hresult : (turn style path first w).2 with
      | error e =>
        rw [hresult] at hvisit
        cases hvisit
      | ok next =>
        rw [hresult] at hvisit
        dsimp only at hvisit
        split at hvisit
        · obtain ⟨ht, hfound⟩ := ih (past ++ [first]) (hturn past first w next h hresult) hvisit
          refine ⟨ht, ?_⟩
          rw [List.append_assoc] at hfound
          exact hfound
        · cases hvisit

theorem mem_of_visit {v : Turn × Window} (h : v ∈ visits style path turns w) : v.1 ∈ turns := by
  obtain ⟨i, hi⟩ := List.mem_iff_getElem?.mp h
  obtain ⟨hturn, -⟩ := visits_keep (P := fun _ _ => True) (fun _ _ _ _ _ _ => trivial) [] trivial hi
  exact List.mem_of_getElem? hturn

/-- A turn that does not fail is a stage. -/
theorem stage_of_turn (h : (turn style path t w).2 = .ok next) :
    ∃ s, stage? style path t w = some s ∧ s.after = next := by
  cases hs : stage? style path t w with
  | none =>
    obtain ⟨actions, e, hturn, -⟩ := turn_of_no_stage hs
    rw [hturn] at h
    cases h
  | some s =>
    rw [turn_of_stage hs] at h
    exact ⟨s, rfl, Except.ok.inj h⟩

end Chip8.Window
