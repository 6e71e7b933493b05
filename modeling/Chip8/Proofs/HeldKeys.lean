import Chip8.Proofs.KeyInput
import Chip8.Proofs.WindowVisits

/-! The keys that a program finds down, told by the events of a window so far. -/
namespace Chip8

private theorem Keypad.get_released (k : Key) :
    released.get k = false := Vector.getElem_replicate k.isLt

/-- The events that decide on a key of the pad: its key of the computer goes down or up, or the
machine is reset. -/
def Event.concerns (k : Key) : Event → Bool
  | .down key => key == .backspace || key.pad? == some k
  | .up key => key.pad? == some k
  | .quit | .other => false

/-- Of the events that decide on the key, the last one is its way down. -/
def HeldBy (k : Key) (history : List Event) : Prop :=
  ∃ key, HostKey.pad? key = some k ∧
    (history.filter (Event.concerns k)).getLast? = some (.down key)

private theorem heldBy_concat_iff (k : Key) (history : List Event) (event : Event) :
    HeldBy k (history ++ [event]) ↔
      if event.concerns k then ∃ key, HostKey.pad? key = some k ∧ event = .down key
      else HeldBy k history := by
  unfold HeldBy
  rw [List.filter_append]
  cases hconcerns : event.concerns k with
  | true => simp [hconcerns]
  | false => simp [hconcerns]

namespace Window
variable {style : Style} {path : String} {turns past : List Turn} {t : Turn} {w next : Window}
  {rom : Option (List UInt8)} {event : Event} {history : List Event} {arrivals : List Arrival}

def Heeds (history : List Event) (w : Window) : Prop :=
  ∀ k, w.held.get k = true ↔ HeldBy k history

theorem Heeds.start (machine : Machine) : Heeds [] (start machine) := by
  intro k
  simp [Window.start, Keypad.get_released, HeldBy]

private theorem hold_held (w : Window) (key : HostKey) (down : Bool) (k : Key) :
    (w.hold key down).held.get k = if key.pad? = some k then down else w.held.get k := by
  unfold hold
  cases hpad : key.pad? with
  | none => rfl
  | some pressed =>
    by_cases heq : pressed = k
    · rw [if_pos (congrArg some heq), ← heq]
      exact Digit.get_put ..
    · rw [if_neg fun h => heq (Option.some.inj h)]
      exact Digit.get_put_of_ne _ _ (Ne.symm heq)

private theorem reload_held (h : (w.reload path rom).2 = .ok next) :
    next.held = Keypad.released := by
  unfold reload at h
  split at h
  · cases h
  · split at h
    · cases h
    · cases h
      rfl

private theorem held_of_handle (h : (w.handle path rom event).2 = .ok next) (k : Key) :
    next.held.get k = true ↔
      if event.concerns k then ∃ key, HostKey.pad? key = some k ∧ event = .down key
      else w.held.get k = true := by
  unfold handle at h
  split at h
  · cases h; rfl
  · cases h; rfl
  · -- A reset lets go of every key.
    rw [reload_held h, Keypad.get_released]
    refine iff_of_false Bool.false_ne_true ?_
    rintro ⟨key, hpad, heq⟩
    cases heq
    cases hpad
  · cases h; rfl
  · next key _ hbackspace _ =>
    cases h
    rw [hold_held]
    by_cases hpad : key.pad? = some k
    · simp [Event.concerns, hpad]
    · have hidle : (Event.down key).concerns k = false := by
        simp [Event.concerns, hpad, show key ≠ .backspace from hbackspace]
      rw [if_neg hpad, hidle]
      rfl
  · next key =>
    cases h
    rw [hold_held]
    by_cases hpad : key.pad? = some k
    · simp [Event.concerns, hpad]
    · simp [Event.concerns, hpad]
  · cases h; rfl

theorem Heeds.handle (hw : Heeds history w) (h : (w.handle path rom event).2 = .ok next) :
    Heeds (history ++ [event]) next := by
  intro k
  rw [held_of_handle h k, heldBy_concat_iff, hw k]

theorem Heeds.handleAll (hw : Heeds history w)
    (h : (handleAll path arrivals w).2 = .ok next) :
    Heeds (history ++ arrivals.map Arrival.event) next := by
  induction arrivals generalizing history w with
  | nil =>
    cases h
    exact (List.append_nil history).symm ▸ hw
  | cons a rest ih =>
    rw [Window.handleAll] at h
    cases hfirst : w.handle path a.rom a.event with
    | mk noted result =>
      rw [hfirst] at h
      cases result with
      | error e => cases h
      | ok middle =>
        rw [List.map_cons, List.append_cons]
        exact ih (hw.handle (congrArg Prod.snd hfirst)) h

@[simp] theorem play_held (w : Window) : w.play.2.held = w.held := by
  unfold play
  split
  · rfl
  · split <;> rfl

theorem Heeds.turn (hw : Heeds history w) (h : (Window.turn style path t w).2 = .ok next) :
    Heeds (history ++ t.events) next := by
  obtain ⟨s, hs, rfl⟩ := stage_of_turn h
  obtain ⟨rfl, rfl, hfinishes⟩ := stage?_eq_some.mp hs
  intro k
  rw [Stage.after, play_held]
  exact hw.handleAll (congrArg Prod.snd hfinishes.events) k

theorem Heeds.visits {i : Nat} {machine : Machine}
    (h : (visits style path turns (Window.start machine))[i]? = some (t, w)) :
    turns[i]? = some t ∧ Heeds ((turns.take i).flatMap Turn.events) w := by
  refine visits_keep (P := fun past w => Heeds (past.flatMap Turn.events) w) ?_ []
    (Heeds.start machine) h
  intro past t w next hw hturn
  rw [List.flatMap_append, List.flatMap_singleton]
  exact hw.turn hturn

end Window
end Chip8
