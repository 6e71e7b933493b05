import Chip8.Proofs.Cycle

/-! Passages: cycles that succeed one after the other, with changes of keys anywhere between them.
Each cycle is kept as the machines before and after it. -/
namespace Chip8

/-- A cycle that succeeded: the machine at which it was attempted, with the keys that it met, and
the machine that it left. -/
structure Transition where
  source : Machine
  target : Machine

namespace Machine

def transitions : Nat → Machine → List Transition
  | 0, _ => []
  | n + 1, m =>
    match m.cycle with
    | (next, none) => ⟨m, next⟩ :: transitions n next
    | _ => []

/-- From one machine the listed cycles succeed, in this order, and lead to the other; the keys may
be changed before, between and after them. -/
inductive Passage : Machine → List Transition → Machine → Prop
  | refl (m : Machine) : Passage m [] m
  | keys {m last : Machine} {done : List Transition} (keypad : Keypad) :
    Passage { m with keypad } done last → Passage m done last
  | cycle {m next last : Machine} {done : List Transition} :
    m.cycle = (next, none) → Passage next done last → Passage m (⟨m, next⟩ :: done) last

namespace Passage
variable {m middle last : Machine} {t : Transition} {done more : List Transition}

theorem append (h : Passage m done middle) (h' : Passage middle more last) :
    Passage m (done ++ more) last := by
  induction h with
  | refl => exact h'
  | keys keypad _ ih => exact .keys keypad (ih h')
  | cycle hc _ ih => exact .cycle hc (ih h')

/-- The first cycle is attempted at the machine itself, up to a change of keys. -/
theorem of_cons (h : Passage m (t :: done) last) :
    (∃ keypad, t.source = { m with keypad }) ∧ t.source.cycle = (t.target, none) ∧
      Passage t.target done last := by
  generalize hlist : t :: done = list at h
  induction h with
  | refl => cases hlist
  | keys keypad _ ih =>
    obtain ⟨⟨other, hsource⟩, hrest⟩ := ih hlist
    exact ⟨⟨other, hsource⟩, hrest⟩
  | @cycle m next _ _ hc hrest =>
    cases hlist
    exact ⟨⟨m.keypad, rfl⟩, hc, hrest⟩

/-- What comes before a cycle is a passage as well, up to a change of keys. -/
theorem split (h : Passage m (done ++ t :: more) last) :
    ∃ middle, Passage m done middle ∧ (∃ keypad, t.source = { middle with keypad }) ∧
      t.source.cycle = (t.target, none) ∧ Passage t.target more last := by
  induction done generalizing m with
  | nil =>
    obtain ⟨hsource, hc, hrest⟩ := h.of_cons
    exact ⟨m, .refl m, hsource, hc, hrest⟩
  | cons first done ih =>
    obtain ⟨⟨keypad, hsource⟩, hc, hrest⟩ := h.of_cons
    obtain ⟨middle, hdone, hlater⟩ := ih hrest
    refine ⟨middle, .keys keypad ?_, hlater⟩
    rw [← hsource]
    exact .cycle hc hdone

theorem of_transitions (n : Nat) (m : Machine) : Passage m (m.transitions n) (m.cycles n).1 := by
  induction n generalizing m with
  | zero => exact .refl m
  | succ n ih =>
    rw [cycles, transitions]
    obtain ⟨next, hc⟩ | ⟨f, hc⟩ := m.cycle_cases
    · rw [hc]
      exact .cycle hc (ih next)
    · rw [hc]
      exact .refl m

end Passage
end Machine
end Chip8
