import Chip8.Headless
import Chip8.Proofs.Footprint
import Chip8.Proofs.Validation

/-! What one executed word does to a machine, and the passage from single cycles to frames and
runs. A property that every successful cycle keeps holds after each of them. -/
namespace Chip8.Machine
variable {m next : Machine} {word : Int}

def instruction (m : Machine) : Instruction := Instruction.decode m.word.toNat

theorem word_of_read {high low : UInt8} (hhigh : m.memory.read m.pc.toNat = high)
    (hlow : m.memory.read (m.pc.toNat + 1) = low) :
    m.word = high.toUInt16 <<< 8 ||| low.toUInt16 := by
  rw [Machine.word, hhigh, hlow]

/-- The first word of a program that stands at the program counter. -/
theorem word_of_store {memory : Memory} {start : Nat} {high low : UInt8} {rest : List UInt8}
    (hm : m.memory = memory.store start (high :: low :: rest)) (hpc : m.pc.toNat = start)
    (hlength : (high :: low :: rest).length ≤ 4096) :
    m.word = high.toUInt16 <<< 8 ||| low.toUInt16 := by
  have hfirst : (start + (4096 - start % 4096)) % 4096 = 0 := by omega
  have hsecond : (start + 1 + (4096 - start % 4096)) % 4096 = 1 := by omega
  refine word_of_read ?_ ?_
  · rw [hm, hpc, Memory.read_store _ _ _ _ hlength, hfirst]
    rfl
  · rw [hm, hpc, Memory.read_store _ _ _ _ hlength, hsecond]
    rfl

/-- Closing a frame forgets its count, so the last cycle need not be counted first. -/
theorem countCycle_eq (m : Machine) :
    m.countCycle = if 15 ≤ m.step + 1 then m.closeFrame else { m with step := m.step + 1 } := rfl

@[simp] theorem countCycle_stack (m : Machine) : m.countCycle.stack = m.stack := by
  rw [countCycle_eq]
  split <;> rfl

@[simp] theorem countCycle_memory (m : Machine) : m.countCycle.memory = m.memory := by
  rw [countCycle_eq]
  split <;> rfl

@[simp] theorem countCycle_pc (m : Machine) : m.countCycle.pc = m.pc := by
  rw [countCycle_eq]
  split <;> rfl

@[simp] theorem countCycle_v (m : Machine) : m.countCycle.v = m.v := by
  rw [countCycle_eq]
  split <;> rfl

@[simp] theorem countCycle_random (m : Machine) : m.countCycle.random = m.random := by
  rw [countCycle_eq]
  split <;> rfl

@[simp] theorem countCycle_keypad (m : Machine) : m.countCycle.keypad = m.keypad := by
  rw [countCycle_eq]
  split <;> rfl

theorem execute_eq_ok (h : m.execute word = .ok next) :
    ∃ op, m.Admits (Instruction.decode word) op ∧ next = op.effect (Instruction.decode word) m := by
  unfold execute at h
  split at h
  · cases h
  · rename_i hcheck
    obtain ⟨op, hop⟩ := ((violation?_eq_none_iff m word).mp ((check_eq_none_iff _ _ _).mp hcheck)).1
    split at h
    · cases h
      exact ⟨op, hop, hop.dispatch m⟩
    · cases h

theorem execute_of_violation? {op : Operation} (hv : m.violation? word = none)
    (hwidth : -0x80000000 ≤ word ∧ word < 0x80000000) (h : m.Admits (Instruction.decode word) op) :
    m.execute word = .ok (op.effect (Instruction.decode word) m) := by
  rw [execute, (check_eq_none_iff m word _).mpr hv]
  dsimp only
  rw [if_pos hwidth, h.dispatch]

/-- A word of sixteen bits is never too wide, so it runs if it is admitted. -/
theorem execute_of_admits {i : Instruction} {op : Operation} (h : m.Admits i op) :
    m.execute i.word.toNat = .ok (op.effect i m) := by
  have hadmits : m.Admits (Instruction.decode i.word.toNat) op :=
    (Instruction.decode_word i).symm ▸ h
  have hv := (violation?_eq_none_iff_admits m i.word).mpr ⟨op, hadmits⟩
  have hwidth : -0x80000000 ≤ (i.word.toNat : Int) ∧ (i.word.toNat : Int) < 0x80000000 := by
    have := i.word.toNat_lt
    omega
  rw [execute_of_violation? hv hwidth hadmits, Instruction.decode_word]

/-- A cycle that meets a fault hands back the machine it was given. -/
theorem cycle_cases (m : Machine) :
    (∃ next, m.cycle = (next, none)) ∨ ∃ f, m.cycle = (m, some f) := by
  unfold cycle
  cases m.advance.check m.word.toNat (m.pc.toNat % 4096 : Nat) with
  | none => exact .inl ⟨_, rfl⟩
  | some f => exact .inr ⟨f, rfl⟩

theorem eq_of_cycle_fault {stopped : Machine} {f : Fault} (h : m.cycle = (stopped, some f)) :
    stopped = m := by
  obtain ⟨next, hc⟩ | ⟨g, hc⟩ := m.cycle_cases <;> cases h.symm.trans hc
  rfl

theorem cycle_eq_ok (h : m.cycle = (next, none)) :
    ∃ op, m.Admits m.instruction op ∧ next = (op.effect m.instruction m.advance).countCycle := by
  unfold cycle at h
  split at h
  · cases h
  · rename_i hcheck
    have hv := (check_eq_none_iff m.advance _ _).mp hcheck
    obtain ⟨op, hop⟩ := (violation?_eq_none_iff_admits m.advance m.word).mp hv
    have hnext := (Prod.mk.inj h).1.symm
    refine ⟨op, ⟨hop.named, hop.no_machine_call, hop.return_address, hop.free_slot⟩, ?_⟩
    exact hnext.trans (congrArg countCycle (hop.dispatch m.advance))

/-- A word that is admitted is executed and counted. -/
theorem cycle_of_admits {w : UInt16} {op : Operation} (hw : m.word = w)
    (h : m.Admits (Instruction.decode w.toNat) op) :
    m.cycle = ((op.effect (Instruction.decode w.toNat) m.advance).countCycle, none) := by
  subst hw
  have hv := (violation?_eq_none_iff_admits m.advance m.word).mpr ⟨op, h.advance⟩
  have hcheck := (check_eq_none_iff m.advance m.word.toNat (m.pc.toNat % 4096 : Nat)).mpr hv
  rw [cycle, hcheck]
  exact congrArg (fun executed : Machine => (executed.countCycle, none)) (h.dispatch m.advance)

section Preservation
variable {P : Machine → Prop} (keeps : ∀ m next, P m → m.cycle = (next, none) → P next)
include keeps

theorem cycles_keep (n : Nat) (m : Machine) (h : P m) : P (m.cycles n).1 := by
  induction n generalizing m with
  | zero => exact h
  | succ n ih =>
    rw [cycles]
    obtain ⟨next, hc⟩ | ⟨f, hc⟩ := m.cycle_cases
    · rw [hc]
      exact ih next (keeps m next h hc)
    · rw [hc]
      exact h

theorem advanceFrame_keep (m : Machine) (h : P m) : P m.advanceFrame.1 :=
  cycles_keep keeps _ m h

theorem advanceFrames_keep (n : Nat) (m : Machine) (h : P m) : P (m.advanceFrames n).1 := by
  induction n generalizing m with
  | zero => exact h
  | succ n ih =>
    have hframe := advanceFrame_keep keeps m h
    rw [advanceFrames]
    split
    · rename_i next hnext
      rw [hnext] at hframe
      exact ih next hframe
    · exact hframe

private theorem watch_keep (emitted : Int32) (bound : Nat) (m : Machine) (h : P m) :
    P (m.watch emitted bound).2.1 := by
  induction bound generalizing m with
  | zero => exact h
  | succ bound ih =>
    rw [watch]
    split
    · obtain ⟨next, hc⟩ | ⟨f, hc⟩ := m.cycle_cases
      · rw [hc]
        exact ih next (keeps m next h hc)
      · rw [hc]
        exact h
    · exact h

private theorem tracedFrames_keep (n : Nat) (m : Machine) (h : P m) : P (m.tracedFrames n).2.1 := by
  induction n generalizing m with
  | zero => exact h
  | succ n ih =>
    have hframe : P m.tracedFrame.2.1 := watch_keep keeps _ _ m h
    rw [tracedFrames]
    split
    · rename_i points next hnext
      rw [hnext] at hframe
      exact ih next hframe
    · exact hframe

private theorem ofFrames_keep (m : Machine) (frames : Int) (logger : Log.Logger) (trace : Bool)
    (bar : Option Progress) (h : P m) (result : Run)
    (hr : Run.ofFrames m frames logger trace bar = .ok result) : P result.machine := by
  have hstopped : P (if trace && logger.enabled .debug then m.tracedFrames frames.toNat
      else ([], m.advanceFrames frames.toNat)).2.1 := by
    split
    · exact tracedFrames_keep keeps _ m h
    · exact advanceFrames_keep keeps _ m h
  unfold Run.ofFrames at hr
  generalize (if trace && logger.enabled .debug then m.tracedFrames frames.toNat
    else ([], m.advanceFrames frames.toNat)) = stopped at hr hstopped
  obtain ⟨points, machine, fault⟩ := stopped
  dsimp only at hr
  split at hr
  · cases hr
    exact hstopped
  · cases hr

theorem run_keep (m : Machine) (frames : Int) (logger : Log.Logger) (progress trace : Bool)
    (h : P m) (result : Run) (hr : m.run frames logger progress trace = .ok result) :
    P result.machine := by
  unfold Machine.run at hr
  split at hr
  · split at hr
    · cases hr
    · exact ofFrames_keep keeps m frames logger trace _ h result hr
  · exact ofFrames_keep keeps m frames logger trace none h result hr

end Preservation

end Chip8.Machine
