import Chip8.Proofs.Cycle

/-! What a word may change. A word that is accepted leaves every part of the machine as it was but
those that belong to it, and most words have one such part or none. -/
namespace Chip8

def Instruction.Writes (i : Instruction) : Part → Prop
  | .memory => i.IsMember 0x3 0x3 ∨ i.IsMember 0x5 0x5
  | .register k =>
    (k = i.x ∧ (i.family ∈ [0x6, 0x7, 0x8, 0xC] ∨ i.IsMember 0x0 0x7 ∨ i.IsMember 0x0 0xA)) ∨
    (k = 0xF ∧ (i.family = 0x8 ∧ i.n ∈ [0x4, 0x5, 0x6, 0x7, 0xE] ∨ i.family = 0xD)) ∨
    (k ≤ i.x ∧ i.IsMember 0x6 0x5)
  | .index =>
    i.family = 0xA ∨ i.IsMember 0x1 0xE ∨ i.IsMember 0x2 0x9 ∨ i.IsMember 0x5 0x5 ∨
      i.IsMember 0x6 0x5
  | .display => i.word = 0x00E0 ∨ i.family = 0xD
  | .delay => i.IsMember 0x1 0x5
  | .sound => i.IsMember 0x1 0x8
  | .random => i.family = 0xC
  | .stack => i.word = 0x00EE ∨ i.family = 0x2
  | .keypad | .step | .frame | .frames => False

instance (i : Instruction) : (part : Part) → Decidable (i.Writes part)
  | .memory | .register _ | .index | .display | .stack => inferInstanceAs (Decidable (_ ∨ _))
  | .delay | .sound => inferInstanceAs (Decidable (i.IsMember _ _))
  | .random => inferInstanceAs (Decidable (_ = _))
  | .keypad | .step | .frame | .frames => inferInstanceAs (Decidable False)

namespace Machine
variable {m : Machine} {i : Instruction} {op : Operation}

private theorem Admits.n_eq (h : m.Admits i op) {d : Fin 16} (hd : op.pattern.n = some d) :
    i.n = d := by
  rw [h.digits_eq, Pattern.fill, hd]
  rfl

private theorem Admits.result_register (h : m.Admits i op)
    (hop : op ∈ [.loadByte, .addByte, .copy, .or, .and, .xor, .add, .subtract, .shiftRight,
      .subtractFrom, .shiftLeft, .random, .readDelay, .waitKey]) :
    i.family ∈ [0x6, 0x7, 0x8, 0xC] ∨ i.IsMember 0x0 0x7 ∨ i.IsMember 0x0 0xA := by
  cases op with
  | readDelay => exact .inr (.inl h.digits_eq)
  | waitKey => exact .inr (.inr h.digits_eq)
  | loadByte | addByte | copy | or | and | xor | add | subtract | shiftRight | subtractFrom
  | shiftLeft | random =>
    left
    rw [h.family_eq]
    decide
  | _ => exact absurd hop (by decide)

private theorem Admits.flag_register (h : m.Admits i op)
    (hop : op ∈ [.add, .subtract, .shiftRight, .subtractFrom, .shiftLeft, .draw]) :
    i.family = 0x8 ∧ i.n ∈ [0x4, 0x5, 0x6, 0x7, 0xE] ∨ i.family = 0xD := by
  cases op with
  | draw => exact .inr h.family_eq
  | add | subtract | shiftRight | subtractFrom | shiftLeft =>
    refine .inl ⟨h.family_eq, ?_⟩
    rw [h.n_eq rfl]
    decide
  | _ => exact absurd hop (by decide)

/-- What an operation may change is what its words may change. -/
theorem Admits.writes (h : m.Admits i op) {part : Part} (hw : op.Writes i part) :
    i.Writes part := by
  cases part with
  | memory =>
    obtain rfl | rfl := hw
    · exact .inl h.digits_eq
    · exact .inr h.digits_eq
  | register k =>
    obtain ⟨hk, hop⟩ | ⟨hk, hop⟩ | ⟨hk, rfl⟩ := hw
    · exact .inl ⟨hk, h.result_register hop⟩
    · exact .inr (.inl ⟨hk, h.flag_register hop⟩)
    · exact .inr (.inr ⟨hk, h.digits_eq⟩)
  | index =>
    simp only [Operation.Writes, List.mem_cons, List.not_mem_nil, or_false] at hw
    obtain rfl | rfl | rfl | rfl | rfl := hw
    · exact .inl h.family_eq
    · exact .inr (.inl h.digits_eq)
    · exact .inr (.inr (.inl h.digits_eq))
    · exact .inr (.inr (.inr (.inl h.digits_eq)))
    · exact .inr (.inr (.inr (.inr h.digits_eq)))
  | display =>
    obtain rfl | rfl := hw
    · exact .inl (congrArg Instruction.word h.digits_eq)
    · exact .inr h.family_eq
  | stack =>
    obtain rfl | rfl := hw
    · exact .inr h.family_eq
    · exact .inl (congrArg Instruction.word h.digits_eq)
  | delay =>
    obtain rfl := hw
    exact h.digits_eq
  | sound =>
    obtain rfl := hw
    exact h.digits_eq
  | random =>
    obtain rfl := hw
    exact h.family_eq
  | keypad | step | frame | frames => exact hw.elim

private theorem addByte_register (i : Instruction) (m : Machine) (k : Fin 16) :
    (addByte i m).v.get k = if k = i.x then m.v.get i.x + i.nn else m.v.get k := by
  split
  · rename_i hk
    rw [hk]
    exact Digit.get_put ..
  · rename_i hk
    exact Digit.get_put_of_ne _ _ hk

/-- A word that is accepted changes nothing that does not belong to it, beside the program counter.
In particular neither of the words 7XNN and FX1E puts a carry into VF. -/
theorem words_write_their_parts (m : Machine) (w : UInt16) (address : Int)
    (h : m.check w.toNat address = none) :
    let i := Instruction.decode w.toNat
    let next := dispatch i m
    (∀ part : Part, ¬i.Writes part → part.Same next m) ∧
    ((∀ part : Part, ¬i.Writes part) → next = { m with pc := next.pc }) ∧
    (i.family = 0x7 → next.v.get 0xF = if 0xF = i.x then m.v.get i.x + i.nn else m.v.get 0xF) ∧
    (i.IsMember 0x1 0xE → next.v = m.v) := by
  intro i next
  rw [check_eq_none_iff, violation?_eq_none_iff_admits] at h
  obtain ⟨op, hop⟩ := h
  have hnext : next = op.effect i m := hop.dispatch m
  have hsame (part : Part) (hw : ¬i.Writes part) : part.Same next m := by
    rw [hnext]
    exact Operation.effect_same part (mt hop.writes hw) m
  refine ⟨hsame, fun hnone => ?_, fun hf => ?_, fun hmember => ?_⟩
  · exact eq_of_same fun part => hsame part (hnone part)
  · obtain rfl : op = .addByte := hop.eq_of_family (by decide) rfl hf
    rw [hnext]
    exact addByte_register i m 0xF
  · obtain rfl : op = .addIndex := hop.eq_of_fill (by decide) hmember.symm
    rw [hnext]
    rfl

/-- A sum that overflows: V0 comes round to 1, and VF is as untouched as all the rest. -/
theorem words_write_their_parts_on_overflow :
    let m := { powerOn ⟨0, 0⟩ with v := Vector.replicate 16 0xFF }
    let next := dispatch (Instruction.decode (0x7002 : UInt16).toNat) m
    m.check (0x7002 : UInt16).toNat 0x200 = none ∧ next.v.get 0x0 = 1 ∧ next.v.get 0xF = 0xFF ∧
      ∀ part : Part, part ≠ .register 0x0 → part.Same next m := by
  intro m next
  have hcheck : m.check (0x7002 : UInt16).toNat 0x200 = none := rfl
  obtain ⟨hsame, -, hflag, -⟩ := words_write_their_parts m 0x7002 0x200 hcheck
  refine ⟨hcheck, ?_, hflag rfl, fun part hpart => hsame part ?_⟩
  · exact (addByte_register ⟨0x7, 0x0, 0x0, 0x2⟩ m 0x0).trans (by decide)
  · cases part with
    | register k =>
      have hothers : ∀ k : Fin 16, k ≠ 0 →
          ¬(Instruction.decode (0x7002 : UInt16).toNat).Writes (.register k) := by decide
      exact hothers k fun hk => hpart (congrArg Part.register hk)
    | _ => decide

end Machine
end Chip8
