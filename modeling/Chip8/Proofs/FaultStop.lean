import Chip8.Proofs.Attempt
import Chip8.Proofs.Tracing

/-! A fault stops a program for good. Other keys do not help, and whatever is tried next meets
the same fault and leaves the machine as it is; so runs of frames that follow one another are one
run. -/
namespace Chip8.Machine
variable {m next pressed : Machine} {f : Fault} {n : Nat}

theorem setKeys_eq_ok {downs : List Bool} (h : m.setKeys downs = .ok pressed) :
    ∃ keypad, pressed = { m with keypad } := by
  unfold setKeys at h
  cases hkeys : Keypad.ofList downs with
  | error e =>
    rw [hkeys] at h
    cases h
  | ok keypad =>
    rw [hkeys] at h
    exact ⟨keypad, (Except.ok.inj h).symm⟩

/-- Neither the conditions of a fault nor its report look at the keys. -/
theorem cycle_fault_keypad (h : m.cycle = (m, some f)) (keypad : Keypad) :
    { m with keypad }.cycle = ({ m with keypad }, some f) := by
  have hcheck := cycle_eq_fault_iff.mp h
  exact cycle_eq_fault_iff.mpr hcheck

theorem cycles_of_fault (h : m.cycle = (m, some f)) (hn : 0 < n) : m.cycles n = (m, some f) := by
  obtain ⟨n, rfl⟩ : ∃ k, n = k + 1 := ⟨n - 1, by omega⟩
  rw [cycles, h]

theorem advanceFrame_of_fault (h : m.cycle = (m, some f)) (h14 : m.step.toInt ≤ 14) :
    m.advanceFrame = (m, some f) := by
  rw [advanceFrame_eq_cycles]
  refine cycles_of_fault h ?_
  unfold cyclesOfFrames
  omega

/-- A machine without a program meets a fault with its first word. -/
theorem cycle_powerOn (random : Random.Stream) :
    ∃ f, (powerOn random).cycle = (powerOn random, some f) := by
  have hhigh : Memory.powerOn.read 0x200 = 0 := (Memory.read_powerOn _).trans (by decide)
  have hlow : Memory.powerOn.read 0x201 = 0 := (Memory.read_powerOn _).trans (by decide)
  have hword : (powerOn random).word = 0 :=
    (word_of_read (m := powerOn random) hhigh hlow).trans (by decide)
  have hviolation : (powerOn random).violation? (powerOn random).word.toNat =
      some (.machineCall 0) := by
    rw [hword]
    rfl
  have hdepth : 0 ≤ CallStack.empty.depth := by decide
  exact ⟨_, (cycle_fault_iff hdepth).mpr ⟨_, hviolation, rfl⟩⟩

end Chip8.Machine
