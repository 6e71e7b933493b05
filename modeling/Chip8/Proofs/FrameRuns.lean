import Chip8.Proofs.FrameCount

/-! Frames and runs of frames as numbers of cycles. What follows one another adds up until a fault
stops it, and a run of frames is one sequence of cycles that ends where its last frame does. -/
namespace Chip8.Machine
variable {m next : Machine} {n : Nat}

/-- Go on with `rest` unless a fault has stopped the machine. -/
def andThen (before : Machine × Option Fault) (rest : Machine → Machine × Option Fault) :
    Machine × Option Fault :=
  match before with
  | (next, none) => rest next
  | stopped => stopped

@[simp] theorem andThen_none (m : Machine) (rest : Machine → Machine × Option Fault) :
    andThen (m, none) rest = rest m := rfl

@[simp] theorem andThen_some (m : Machine) (f : Fault) (rest : Machine → Machine × Option Fault) :
    andThen (m, some f) rest = (m, some f) := rfl

private theorem andThen_assoc (before : Machine × Option Fault)
    (first second : Machine → Machine × Option Fault) :
    andThen (andThen before first) second = andThen before fun m => andThen (first m) second := by
  obtain ⟨m, _ | f⟩ := before <;> rfl

private theorem cycles_succ (n : Nat) (m : Machine) :
    m.cycles (n + 1) = andThen (m.cycles 1) (cycles n) := by
  rw [cycles, cycles]
  obtain ⟨next, hc⟩ | ⟨f, hc⟩ := m.cycle_cases <;> rw [hc] <;> rfl

theorem cycles_add (a b : Nat) (m : Machine) :
    m.cycles (a + b) = andThen (m.cycles a) (cycles b) := by
  induction a generalizing m with
  | zero =>
    rw [Nat.zero_add]
    rfl
  | succ a ih =>
    rw [Nat.succ_add, cycles_succ, cycles_succ a, andThen_assoc]
    exact congrArg (andThen (m.cycles 1)) (funext ih)

theorem advanceFrames_succ (n : Nat) (m : Machine) :
    m.advanceFrames (n + 1) = andThen m.advanceFrame (advanceFrames n) := rfl

theorem advanceFrames_add (a b : Nat) (m : Machine) :
    m.advanceFrames (a + b) = andThen (m.advanceFrames a) (advanceFrames b) := by
  induction a generalizing m with
  | zero =>
    rw [Nat.zero_add]
    rfl
  | succ a ih =>
    rw [Nat.succ_add, advanceFrames_succ, advanceFrames_succ, andThen_assoc]
    exact congrArg (andThen m.advanceFrame) (funext ih)

theorem step_toInt_of_le (h0 : 0 ≤ m.step) (h14 : m.step ≤ 14) :
    0 ≤ m.step.toInt ∧ m.step.toInt ≤ 14 :=
  ⟨Int32.le_iff_toInt_le.mp h0, Int32.le_iff_toInt_le.mp h14⟩

/-- The count of a frame goes round with every fifteenth cycle. -/
theorem cycle_step (h0 : 0 ≤ m.step.toInt) (h14 : m.step.toInt ≤ 14) (hc : m.cycle = (next, none)) :
    next.step.toInt = (m.step.toInt + 1) % 15 := by
  have hcount := cycle_counted hc
  obtain ⟨hsucc, hlast⟩ := step_succ h0 h14
  by_cases h : m.step.toInt = 14
  · rw [(hcount.last (hlast.mpr h)).1, h]
    rfl
  · rw [(hcount.inner (mt hlast.mp h)).1, hsucc]
    omega

/-- The cycles of `n` frames, the first of which is the frame in progress. -/
def cyclesOfFrames (m : Machine) (n : Nat) : Nat := (15 * n - m.step.toInt).toNat

theorem advanceFrame_eq_cycles (m : Machine) : m.advanceFrame = m.cycles (m.cyclesOfFrames 1) := rfl

section InFrame
variable (h0 : 0 ≤ m.step.toInt) (h14 : m.step.toInt ≤ 14)
include h0

include h14

end InFrame

end Chip8.Machine
