import Chip8.Proofs.FaultStop
import Chip8.Proofs.Passage

/-! Keys and the words that read them. Two runs that differ in their keys alone execute the same
words and meet the same fault, until one of three words looks at a key. So it does not matter when
the keys are set, as long as none of these words stands between. -/
namespace Chip8

def Instruction.ReadsKeys (i : Instruction) : Prop :=
  i = ⟨0xE, i.x, 0x9, 0xE⟩ ∨ i = ⟨0xE, i.x, 0xA, 0x1⟩ ∨ i = ⟨0xF, i.x, 0x0, 0xA⟩

def Transition.withKeys (keypad : Keypad) (t : Transition) : Transition :=
  ⟨{ t.source with keypad }, { t.target with keypad }⟩

namespace Machine

/-- None of the cycles that succeed among the next `n` executes a word that reads keys. -/
def KeyFree (n : Nat) (m : Machine) : Prop :=
  ∀ t ∈ m.transitions n, ¬t.source.instruction.ReadsKeys

private theorem skipIf_keys (condition : Bool) (m : Machine) (keypad : Keypad) :
    skipIf condition { m with keypad } = { skipIf condition m with keypad } := by
  rw [skipIf_eq, skipIf_eq]

private theorem countCycle_keys (m : Machine) (keypad : Keypad) :
    { m with keypad }.countCycle = { m.countCycle with keypad } := by
  rw [countCycle_eq, countCycle_eq]
  dsimp only
  split <;> rfl

end Machine

private theorem Operation.effect_keys {i : Instruction} {op : Operation}
    (hop : i.operation? = some op) (hi : ¬i.ReadsKeys) (m : Machine) (keypad : Keypad) :
    op.effect i { m with keypad } = { op.effect i m with keypad } := by
  have hdigits := (Instruction.fill_of_operation? hop).symm
  cases op with
  | skipPressed => exact absurd (.inl hdigits) hi
  | skipReleased => exact absurd (.inr (.inl hdigits)) hi
  | waitKey => exact absurd (.inr (.inr hdigits)) hi
  | skipEqualByte | skipUnequalByte | skipEqual | skipUnequal =>
    exact Machine.skipIf_keys _ m keypad
  | _ => rfl

namespace Machine
variable {m next : Machine} {n : Nat}

/-- A cycle whose word does not read keys succeeds or fails whatever they are, and leaves them. -/
theorem cycle_keys (h : ¬m.instruction.ReadsKeys) (keypad : Keypad) :
    { m with keypad }.cycle = ({ m.cycle.1 with keypad }, m.cycle.2) := by
  obtain ⟨next, hc⟩ | ⟨f, hc⟩ := m.cycle_cases
  · rw [hc]
    obtain ⟨op, hop, rfl⟩ := cycle_eq_ok hc
    have hadmits : { m with keypad }.Admits m.instruction op :=
      ⟨hop.named, hop.no_machine_call, hop.return_address, hop.free_slot⟩
    have hcycle := cycle_of_admits (m := { m with keypad }) rfl hadmits
    have heffect := Operation.effect_keys hop.named h m.advance keypad
    rw [hcycle]
    exact Prod.ext ((congrArg countCycle heffect).trans (countCycle_keys _ keypad)) rfl
  · rw [hc]
    exact cycle_fault_keypad hc keypad

theorem cycle_keypad (h : m.cycle = (next, none)) : next.keypad = m.keypad := by
  obtain ⟨op, -, rfl⟩ := cycle_eq_ok h
  rw [countCycle_keypad, Operation.effect_keypad]
  rfl

theorem cycles_keypad (n : Nat) (m : Machine) : (m.cycles n).1.keypad = m.keypad :=
  cycles_keep (P := fun s => s.keypad = m.keypad) (fun _ _ h hc => (cycle_keypad hc).trans h) n m
    rfl

/-- Two runs in lockstep: with other keys the same cycles succeed, and the run ends with the same
fault and, but for its keys, with the same machine. -/
theorem KeyFree.lockstep (h : m.KeyFree n) (keypad : Keypad) :
    { m with keypad }.transitions n = (m.transitions n).map (Transition.withKeys keypad) ∧
      { m with keypad }.cycles n = ({ (m.cycles n).1 with keypad }, (m.cycles n).2) := by
  induction n generalizing m with
  | zero => exact ⟨rfl, rfl⟩
  | succ n ih =>
    rw [KeyFree, transitions] at h
    rw [transitions, transitions, cycles, cycles]
    obtain ⟨next, hc⟩ | ⟨f, hc⟩ := m.cycle_cases
    · rw [hc] at h
      obtain ⟨hfirst, hrest⟩ := List.forall_mem_cons.mp h
      obtain ⟨htransitions, hcycles⟩ := ih hrest
      rw [cycle_keys hfirst keypad, hc]
      exact ⟨congrArg (_ :: ·) htransitions, hcycles⟩
    · rw [hc, cycle_fault_keypad hc keypad]
      exact ⟨rfl, rfl⟩

private theorem KeyFree.withKeys (h : m.KeyFree n) (keypad : Keypad) :
    { m with keypad }.KeyFree n := by
  intro t ht
  rw [(h.lockstep keypad).1] at ht
  obtain ⟨u, hu, rfl⟩ := List.mem_map.mp ht
  exact h u hu

private theorem keyFree_withKeys_iff (keypad : Keypad) :
    { m with keypad }.KeyFree n ↔ m.KeyFree n :=
  ⟨fun h => h.withKeys m.keypad, fun h => h.withKeys keypad⟩

theorem setKeys_toList (m : Machine) (keypad : Keypad) :
    m.setKeys keypad.toList = .ok { m with keypad } := by
  have hkeys : Keypad.ofList keypad.toList = .ok keypad := by
    rw [Keypad.ofList, dif_pos (by simp)]
    rfl
  rw [setKeys, hkeys]
  rfl

private theorem setKeys_of_setKeys {downs : List Bool} {pressed : Machine}
    (h : m.setKeys downs = .ok pressed) (s : Machine) :
    s.setKeys downs = .ok { s with keypad := pressed.keypad } := by
  rw [setKeys] at h ⊢
  cases hkeys : Keypad.ofList downs with
  | error e =>
    rw [hkeys] at h
    cases h
  | ok keypad =>
    rw [hkeys] at h
    cases h
    rfl

/-- Only the words that read keys tell two runs apart that start with other keys: up to such a word
both execute the same words, and end with the same fault and the same machine, each with its own
keys. So keys may as well be set after cycles without such a word as before them; and no
instruction changes them. -/
theorem keys_act_through_key_words (s : Machine) :
    (∀ p q : Keypad, ∃ pressed other,
      s.setKeys p.toList = .ok pressed ∧ s.setKeys q.toList = .ok other ∧
      ∀ n, pressed.KeyFree n →
        (other.transitions n).map (fun t => t.source.word) =
          (pressed.transitions n).map (fun t => t.source.word) ∧
        (pressed.cycles n).1.keypad = p ∧
        other.cycles n = ({ (pressed.cycles n).1 with keypad := q }, (pressed.cycles n).2)) ∧
    (∀ (n : Nat) (downs : List Bool) (pressed : Machine), s.setKeys downs = .ok pressed →
      (pressed.KeyFree n ↔ s.KeyFree n) ∧
      (s.KeyFree n → (s.cycles n).1.setKeys downs = .ok (pressed.cycles n).1 ∧
        (s.cycles n).2 = (pressed.cycles n).2)) ∧
    (∀ (word : Int) (next : Machine), s.execute word = .ok next → next.keypad = s.keypad) ∧
    ∀ next : Machine, s.cycle = (next, none) → next.keypad = s.keypad := by
  refine ⟨fun p q => ⟨_, _, setKeys_toList s p, setKeys_toList s q, ?_⟩, ?_, ?_,
    fun next => cycle_keypad⟩
  · intro n h
    obtain ⟨htransitions, hcycles⟩ := h.lockstep q
    refine ⟨?_, cycles_keypad n _, hcycles⟩
    rw [htransitions, List.map_map]
    rfl
  · intro n downs pressed hkeys
    obtain ⟨keypad, rfl⟩ := setKeys_eq_ok hkeys
    refine ⟨keyFree_withKeys_iff keypad, fun h => ?_⟩
    rw [(h.lockstep keypad).2]
    exact ⟨setKeys_of_setKeys hkeys _, rfl⟩
  · exact fun word next hx => (execute_hostFields hx).keypad

/-- No key and all keys down, at a word that loads a byte and a word that is refused. -/
theorem keys_act_through_key_words_until_fault :
    let program := Memory.powerOn.store 0x200 [0x60, 0x05]
    let m := { powerOn ⟨0, 0⟩ with memory := program }
    let all : Keypad := Vector.replicate 16 true
    ∃ pressed other f, m.setKeys Keypad.released.toList = .ok pressed ∧
      m.setKeys all.toList = .ok other ∧ pressed.KeyFree 2 ∧
      (other.transitions 2).map (fun t => t.source.word) = [0x6005] ∧
      (other.cycles 2).2 = some f ∧ (other.cycles 2).1.keypad = all := by
  intro program m all
  obtain ⟨hkeys, -⟩ := keys_act_through_key_words m
  obtain ⟨pressed, other, hpressed, hother, hrun⟩ := hkeys Keypad.released all
  obtain rfl : m = pressed := Except.ok.inj ((setKeys_toList m Keypad.released).symm.trans hpressed)
  have hword : m.word = 0x6005 :=
    (word_of_store (show m.memory = program from rfl) rfl (by decide)).trans (by decide)
  have hm : m.instruction = ⟨6, 0, 0, 5⟩ := by
    rw [instruction, hword]
    decide
  have hadmits : m.Admits (Instruction.decode (0x6005 : UInt16).toNat) .loadByte :=
    .of_operation? (by decide) (by decide) (by decide) (by decide)
  have hc := cycle_of_admits hword hadmits
  generalize hnext : (Operation.loadByte.effect _ m.advance).countCycle = next at hc
  have hzero : next.word = 0 := by
    rw [← hnext, word, countCycle_memory, countCycle_pc]
    change (program.read 0x202).toUInt16 <<< 8 ||| (program.read 0x203).toUInt16 = 0
    rw [Memory.read_store _ _ _ _ (by decide), Memory.read_store _ _ _ _ (by decide),
      Memory.read_powerOn, Memory.read_powerOn]
    decide
  have hdepth : 0 ≤ next.stack.depth := by
    rw [← hnext, countCycle_stack]
    exact Int.le_refl 0
  have hviolation : next.violation? next.word.toNat = some (.machineCall 0) := by
    rw [hzero]
    rfl
  obtain ⟨f, hfault⟩ : ∃ f, next.cycle = (next, some f) :=
    ⟨_, (cycle_fault_iff hdepth).mpr ⟨_, hviolation, rfl⟩⟩
  have htransitions : m.transitions 2 = [⟨m, next⟩] := by
    rw [transitions, hc]
    dsimp only
    rw [transitions, hfault]
  have hcycles : m.cycles 2 = (next, some f) := by
    rw [cycles, hc]
    exact cycles_of_fault hfault Nat.one_pos
  have hfree : m.KeyFree 2 := by
    rw [KeyFree, htransitions, List.forall_mem_singleton, hm]
    rintro (h | h | h) <;> cases h
  obtain ⟨hwords, -, hother'⟩ := hrun 2 hfree
  refine ⟨m, other, f, hpressed, hother, hfree, ?_, ?_, ?_⟩
  · rw [hwords, htransitions, List.map_singleton, hword]
  · rw [hother', hcycles]
  · rw [hother']

end Machine
end Chip8
