import Chip8.Proofs.Passage

/-! Memory over a run of instructions: what stood there at first, under what the two storing words
have put there since. A store reaches its own block of addresses and nothing else writes memory. -/
namespace Chip8

namespace Machine

/-- The word with the digits `i`, about to run on `m`, puts `byte` at `a`. -/
inductive Stores (m : Machine) (i : Instruction) (a : Address) : UInt8 → Prop
  /-- Word FX33: hundreds, tens and units of VX. -/
  | digit (k : Nat) : i = ⟨0xF, i.x, 0x3, 0x3⟩ → k < 3 → (m.i.toNat + k) % 4096 = a →
    Stores m i a (UInt8.ofNat ((m.v.get i.x).toNat / Nat.pow 10 (2 - k) % 10))
  /-- Word FX55: the registers V0 to VX. -/
  | register (k : Fin 16) : i = ⟨0xF, i.x, 0x5, 0x5⟩ → k ≤ i.x → (m.i.toNat + k) % 4096 = a →
    Stores m i a (m.v.get k)

def Covers (m : Machine) (i : Instruction) (a : Address) : Prop := ∃ byte, m.Stores i a byte

variable {m next last : Machine} {i : Instruction} {a : Address} {byte : UInt8} {op : Operation}
  {done : List Transition}

@[simp] theorem length_decimalDigits (b : UInt8) : (decimalDigits b).length = 3 := rfl

private theorem getElem_decimalDigits (b : UInt8) {k : Nat} (hk : k < (decimalDigits b).length) :
    (decimalDigits b)[k] = UInt8.ofNat (b.toNat / Nat.pow 10 (2 - k) % 10) := by
  have hb := b.toNat_lt
  apply UInt8.toNat_inj.mp
  obtain rfl | rfl | rfl : k = 0 ∨ k = 1 ∨ k = 2 := by
    rw [length_decimalDigits] at hk
    omega
  all_goals
    simp [decimalDigits]
    omega

def firstRegisters (m : Machine) (x : Fin 16) : List UInt8 := m.v.toList.take (x + 1)

@[simp] theorem length_firstRegisters (m : Machine) (x : Fin 16) :
    (m.firstRegisters x).length = x + 1 := by
  simp only [firstRegisters, List.length_take, Vector.length_toList]
  omega

theorem getElem_firstRegisters (m : Machine) (x k : Fin 16)
    (hk : k.val < (m.firstRegisters x).length) : (m.firstRegisters x)[k.val] = m.v.get k := by
  simp [firstRegisters, Vector.get]

private theorem lanes_take (x : Fin 16) (first rest : Registers) :
    (lanes x first rest).toList.take (x + 1) = first.toList.take (x + 1) := by
  apply List.ext_getElem
  · simp
  · intro k hk hk'
    rw [List.length_take, Vector.length_toList] at hk'
    have h16 : k < 16 := by omega
    have hlane := lanes_get x first rest ⟨k, h16⟩
    have hle : k ≤ x.val := by omega
    rw [if_pos (Fin.mk_le_of_le_val hle)] at hlane
    rw [List.getElem_take, List.getElem_take, Vector.getElem_toList, Vector.getElem_toList]
    exact hlane

/-- Sixteen bytes are written, but the lanes behind VX write what they have read at their own
addresses, so that only the first registers are stored. -/
theorem storeRegisters_memory (i : Instruction) (m : Machine) :
    (storeRegisters i m).memory = m.memory.store m.i.toNat (m.firstRegisters i.x) := by
  have hlength (rest : Registers) : (lanes i.x m.v rest).toList.length ≤ 4096 := by simp
  rw [firstRegisters, ← lanes_take i.x m.v (m.memory.window m.i.toNat)]
  refine (m.memory.store_take _ _ (hlength _) fun k hk hxk => ?_).symm
  have h16 : k < 16 := by simpa using hk
  have hbehind : ¬(⟨k, h16⟩ : Fin 16) ≤ i.x := Nat.not_le.mpr hxk
  rw [Vector.getElem_toList]
  refine (lanes_get ..).trans ?_
  rw [if_neg hbehind, Memory.window_get]

private theorem effect_stored (hop : i.operation? = some op) (h : m.Stores i a byte) :
    (op.effect i m).memory.get a = byte := by
  cases h with
  | digit k hi hk ha =>
    have hdigits : op = .digits := by
      rw [hi] at hop
      exact (Option.some.inj hop).symm
    subst hdigits
    rw [← getElem_decimalDigits _ hk]
    exact m.memory.get_store_of_eq (by simp) hk ha
  | register k hi hk ha =>
    have hstore : op = .store := by
      rw [hi] at hop
      exact (Option.some.inj hop).symm
    subst hstore
    have hlt : k.val < (m.firstRegisters i.x).length := by
      rw [length_firstRegisters]
      omega
    rw [← getElem_firstRegisters m i.x k hlt, Operation.effect, storeRegisters_memory]
    exact m.memory.get_store_of_eq (by rw [length_firstRegisters]; omega) hlt ha

private theorem effect_kept (hop : i.operation? = some op) (h : ¬m.Covers i a) :
    (op.effect i m).memory.get a = m.memory.get a := by
  by_cases hdigits : op = .digits
  · subst hdigits
    have hi := (Instruction.fill_of_operation? hop).symm
    exact m.memory.get_store_of_ne (by simp) fun k hk ha =>
      h ⟨_, .digit k hi hk ha⟩
  by_cases hstore : op = .store
  · subst hstore
    have hi := (Instruction.fill_of_operation? hop).symm
    rw [Operation.effect, storeRegisters_memory]
    refine m.memory.get_store_of_ne (by rw [length_firstRegisters]; omega) fun k hk ha => ?_
    rw [length_firstRegisters] at hk
    exact h ⟨_, .register ⟨k, by omega⟩ hi (Nat.le_of_lt_succ hk) ha⟩
  · rw [Operation.effect_memory hdigits hstore]

private theorem Stores.advance (h : m.Stores i a byte) : m.advance.Stores i a byte := by
  cases h with
  | digit k hi hk ha => exact .digit k hi hk ha
  | register k hi hk ha => exact .register k hi hk ha

private theorem Covers.of_advance (h : m.advance.Covers i a) : m.Covers i a := by
  obtain ⟨byte, h⟩ := h
  cases h with
  | digit k hi hk ha => exact ⟨_, .digit k hi hk ha⟩
  | register k hi hk ha => exact ⟨_, .register k hi hk ha⟩

private theorem cycle_stored (hc : m.cycle = (next, none)) (h : m.Stores m.instruction a byte) :
    next.memory.get a = byte := by
  obtain ⟨op, hop, rfl⟩ := cycle_eq_ok hc
  rw [countCycle_memory]
  exact effect_stored hop.named h.advance

private theorem cycle_kept (hc : m.cycle = (next, none)) (h : ¬m.Covers m.instruction a) :
    next.memory.get a = m.memory.get a := by
  obtain ⟨op, hop, rfl⟩ := cycle_eq_ok hc
  rw [countCycle_memory]
  exact effect_kept hop.named (mt Covers.of_advance h)

/-- The byte at `a` after the listed cycles: that of the last of them that stores there, or the one
that stood there before them. -/
structure Overlaid (done : List Transition) (a : Address) (initial final : UInt8) : Prop where
  stored : ∀ before t after byte, done = before ++ t :: after →
    t.source.Stores t.source.instruction a byte →
    (∀ u ∈ after, ¬u.source.Covers u.source.instruction a) → final = byte
  kept : (∀ t ∈ done, ¬t.source.Covers t.source.instruction a) → final = initial

private theorem Passage.overlaid (h : Passage m done last) (a : Address) :
    Overlaid done a (m.memory.get a) (last.memory.get a) := by
  induction h with
  | refl m =>
    refine ⟨fun before t after byte hdone => ?_, fun _ => rfl⟩
    cases before <;> cases hdone
  | keys keypad _ ih => exact ih
  | @cycle m next last rest hc _ ih =>
    constructor
    · intro before t after byte hdone hstores hafter
      cases before with
      | nil =>
        cases hdone
        exact (ih.kept hafter).trans (cycle_stored hc hstores)
      | cons _ before =>
        exact ih.stored before t after byte (List.cons.inj hdone).2 hstores hafter
    · intro hnone
      obtain ⟨hfirst, hrest⟩ := List.forall_mem_cons.mp hnone
      exact (ih.kept hrest).trans (cycle_kept hc hfirst)

/-- Whatever a program does, to its own words as well, each byte of memory is the one that the last
store to its address put there, or the initial one. No other instruction changes it, and neither
does a fetch, the end of a frame or a cycle that meets a fault. -/
theorem memory_is_overlaid (h : Passage m done last) :
    (∀ a, Overlaid done a (m.memory.get a) (last.memory.get a)) ∧
    (∀ (s executed : Machine) (word : Int), s.execute word = .ok executed →
      ∀ a, ¬s.Covers (Instruction.decode word) a → executed.memory.get a = s.memory.get a) ∧
    (∀ s : Machine, s.fetch.1.memory = s.memory ∧ s.closeFrame.memory = s.memory) ∧
    ∀ (s stopped : Machine) (f : Fault), s.cycle = (stopped, some f) → stopped = s := by
  refine ⟨h.overlaid, ?_, fun s => ⟨rfl, rfl⟩, fun s stopped f => eq_of_cycle_fault⟩
  intro s executed word hx a ha
  obtain ⟨op, hop, rfl⟩ := execute_eq_ok hx
  exact effect_kept hop.named ha

/-- The digits of 254 stored over the top of memory. -/
theorem memory_is_overlaid_round_top :
    let program := Memory.powerOn.store 0x200 [0xF0, 0x33]
    let m := { powerOn ⟨0, 0⟩ with
      memory := program
      v := Vector.replicate 16 254
      i := 0xFFFE }
    ∃ last, Passage m [⟨m, last⟩] last ∧
      last.memory.get 0xFFE = 2 ∧ last.memory.get 0xFFF = 5 ∧
      last.memory.get 0x000 = 4 ∧ last.memory.get 0x001 = 0x90 := by
  intro program m
  have hword : m.word = 0xF033 :=
    (word_of_store (show m.memory = program from rfl) rfl (by decide)).trans (by decide)
  have hm : m.instruction = ⟨0xF, 0, 0x3, 0x3⟩ := by
    rw [instruction, hword]
    decide
  have hadmits : m.Admits (Instruction.decode (0xF033 : UInt16).toNat) .digits :=
    .of_operation? (by decide) (by decide) (by decide) (by decide)
  obtain ⟨last, hc⟩ : ∃ last, m.cycle = (last, none) := ⟨_, cycle_of_admits hword hadmits⟩
  have hrun : Passage m [⟨m, last⟩] last := .cycle hc (.refl last)
  have hstores (k : Nat) (hk : k < 3) {a : Address} (ha : (0xFFFE + k) % 4096 = a) :
      m.Stores m.instruction a (UInt8.ofNat (254 / Nat.pow 10 (2 - k) % 10)) := by
    rw [hm]
    exact .digit k rfl hk ha
  have hfree : ¬m.Covers m.instruction 1 := by
    rw [hm]
    rintro ⟨byte, ⟨k, -, hk, hka⟩ | ⟨k, hi, -, -⟩⟩
    · change (0xFFFE + k) % 4096 = 1 at hka
      omega
    · cases hi
  have hinitial : m.memory.get 1 = 0x90 := by
    rw [← Memory.read_val, Memory.read_store _ _ _ _ (by decide), Memory.read_powerOn]
    decide
  obtain ⟨hoverlaid, -⟩ := memory_is_overlaid hrun
  have hstored (k : Nat) (hk : k < 3) (a : Address) (ha : (0xFFFE + k) % 4096 = a) :=
    (hoverlaid a).stored [] _ [] _ rfl (hstores k hk ha) (List.forall_mem_nil _)
  refine ⟨last, hrun, hstored 0 (by decide) _ (by decide), hstored 1 (by decide) _ (by decide),
    hstored 2 (by decide) _ (by decide), ?_⟩
  exact ((hoverlaid 1).kept (List.forall_mem_singleton.mpr hfree)).trans hinitial

end Machine
end Chip8
