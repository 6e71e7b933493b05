import Chip8.Proofs.HeadlessReport
import Chip8.Proofs.KeyInput
import Chip8.Proofs.PixelImages
import Chip8.Proofs.WindowTurns

/-! A window that nobody touches shows, turn after turn, the frames that a run without a window
emits, also once a fault has paused it. -/
namespace Chip8

namespace Machine

private theorem advanceFrames_one (m : Machine) : m.advanceFrames 1 = m.advanceFrame := by
  rw [advanceFrames_succ]
  obtain ⟨next, _ | f⟩ := m.advanceFrame <;> rfl

private theorem advanceFrames_keypad (n : Nat) (m : Machine) :
    (m.advanceFrames n).1.keypad = m.keypad :=
  advanceFrames_keep (P := fun s => s.keypad = m.keypad)
    (fun _ _ h hc => (cycle_keypad hc).trans h) n m rfl

end Machine

namespace Window
variable {loaded : Machine} {k : Nat} {w : Window} {scale : Int} {t : Turn}

/-- The window has gone through `k` frames of the loaded program with its keys untouched. -/
structure Abides (loaded : Machine) (k : Nat) (w : Window) : Prop where
  machine : w.machine = (loaded.advanceFrames k).1
  paused : w.paused = (loaded.advanceFrames k).2.isSome
  held : w.held = loaded.keypad

theorem Abides.start (h : loaded.keypad = Keypad.released) : Abides loaded 0 (start loaded) :=
  ⟨rfl, rfl, h.symm⟩

/-- A fault stays where it is met first: the frames after it are not played, as a run of more frames
does not play them. -/
theorem Abides.play (h : Abides loaded k w) : Abides loaded (k + 1) w.play.2 := by
  obtain ⟨hmachine, hpaused, hheld⟩ := h
  have hkeys : { w.machine with keypad := w.held } = w.machine := by
    rw [hheld, ← Machine.advanceFrames_keypad k loaded, hmachine]
  have hnext := Machine.advanceFrames_add k 1 loaded
  generalize loaded.advanceFrames k = before at hmachine hpaused hnext
  obtain ⟨m, fault⟩ := before
  obtain rfl : w.machine = m := hmachine
  cases fault with
  | none =>
    rw [Machine.andThen_none, Machine.advanceFrames_one, ← hkeys] at hnext
    cases hframe : { w.machine with keypad := w.held }.advanceFrame with
    | mk next stop =>
      rw [hframe] at hnext
      cases stop with
      | none =>
        rw [play_of_frame hpaused hframe]
        exact ⟨(congrArg Prod.fst hnext).symm, by rw [hpaused, hnext], hheld⟩
      | some f =>
        rw [play_of_fault hpaused hframe]
        exact ⟨(congrArg Prod.fst hnext).symm, by rw [hnext]; rfl, hheld⟩
  | some f =>
    rw [Machine.andThen_some] at hnext
    rw [play_of_paused hpaused]
    exact ⟨(congrArg Prod.fst hnext).symm, by rw [hpaused, hnext], hheld⟩

/-- Turns without keys: their events mean nothing to a window, but for a wish to quit in the last
turn. -/
def Untouched (turns : List Turn) : Prop :=
  ∀ i (_ : i < turns.length), ∀ event ∈ turns[i].events,
    event = .other ∨ event = .quit ∧ i + 1 = turns.length

theorem Untouched.tail {rest : List Turn} (h : Untouched (t :: rest)) : Untouched rest := by
  intro i hi event he
  exact (h (i + 1) (Nat.succ_lt_succ hi) event he).imp_right fun hquit =>
    ⟨hquit.1, Nat.succ.inj hquit.2⟩

section Drawn
variable {style : Style} (hdraws : style.Draws scale) (path : String)

end Drawn

section Obstacle
variable {style : Style} {e : ExtentError} (hscale : style.scale = .given scale)
  (hobstacle : scaleObstacle? style.platform.room scale = some e) (path : String)
include hscale hobstacle

end Obstacle

end Window
end Chip8
