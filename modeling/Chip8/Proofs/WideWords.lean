import Chip8.Proofs.Cycle

/-! Integers as instruction words. Validation looks at the whole number and at its digits, the
effect at the digits alone. The two part only where a number beyond sixteen bits ends in one of the
two valid words of family 0. -/
namespace Chip8

/-- A number beyond sixteen bits that ends in 00E0 or 00EE. -/
def Instruction.Disguised (word : Int) : Prop :=
  (word < 0 ∨ 65535 < word) ∧ (word % 65536 = 0x00E0 ∨ word % 65536 = 0x00EE)

namespace Machine
variable {m next : Machine} {word other : Int}

/-- The class of a fault depends on the digits, and on whether the number is 00E0 or 00EE. -/
theorem violation?_kind_congr (hdigits : Instruction.decode word = Instruction.decode other)
    (hclear : word = 0x00E0 ↔ other = 0x00E0) (hret : word = 0x00EE ↔ other = 0x00EE) :
    (m.violation? word).map Violation.kind = (m.violation? other).map Violation.kind := by
  simp only [violation?, ne_eq, hdigits, hclear, hret]
  split_ifs <;> rfl

private theorem violation?_kind_emod (h : ¬Instruction.Disguised word) :
    (m.violation? word).map Violation.kind = (m.violation? (word % 65536)).map Violation.kind := by
  unfold Instruction.Disguised at h
  refine violation?_kind_congr (Instruction.decode_emod word).symm ?_ ?_
  · omega
  · omega

private theorem violation?_of_disguised (h : Instruction.Disguised word) :
    ∃ target, m.violation? word = some (.machineCall target) := by
  obtain ⟨hwide, hlow⟩ := h
  have hfamily : (Instruction.decode word).family = 0 := by
    rw [← Instruction.decode_emod]
    rcases hlow with hlow | hlow
    · rw [hlow]
      rfl
    · rw [hlow]
      rfl
  refine ⟨_, if_pos ⟨hfamily, ?_, ?_⟩⟩
  · omega
  · omega

private theorem not_disguised_of_valid (h : m.violation? word = none) :
    ¬Instruction.Disguised word := by
  intro hdisguised
  obtain ⟨target, hcall⟩ := violation?_of_disguised (m := m) hdisguised
  cases h.symm.trans hcall

private theorem violation?_emod_of_valid (h : m.violation? word = none) :
    m.violation? (word % 65536) = none := by
  have hkind := violation?_kind_emod (m := m) (not_disguised_of_valid h)
  rw [h] at hkind
  exact Option.map_eq_none_iff.mp hkind.symm

/-- Every number that is accepted acts as its low sixteen bits, and what is refused is refused with
the fault class of its low sixteen bits. Only numbers beyond sixteen bits that end in 00E0 or 00EE
make an exception: they count as machine calls. So nothing is ever executed but what the low
sixteen bits name. -/
theorem wide_words_act_by_low_bits (m : Machine) (word address : Int) :
    let low := word % 65536
    (Instruction.decode word).text? = (Instruction.decode low).text? ∧
    (m.check word address = none → m.check low address = none ∧
      ∃ next, m.execute low = .ok next ∧
        (-0x80000000 ≤ word → word < 0x80000000 → m.execute word = .ok next)) ∧
    (Instruction.Disguised word → (m.check word address).map Fault.kind = some .machineCall) ∧
    (¬Instruction.Disguised word →
      (m.check word address).map Fault.kind = (m.check low address).map Fault.kind) ∧
    ∀ next, m.execute word = .ok next → ∃ op, (Instruction.decode low).operation? = some op ∧
      op ≠ .machineCall ∧ next = op.effect (Instruction.decode low) m := by
  intro low
  have hdigits : Instruction.decode low = Instruction.decode word := Instruction.decode_emod word
  refine ⟨by rw [hdigits], ?_, ?_, ?_, ?_⟩
  · intro hcheck
    have hv := (check_eq_none_iff m word address).mp hcheck
    have hlow : m.violation? low = none := violation?_emod_of_valid hv
    have hwidth : -0x80000000 ≤ low ∧ low < 0x80000000 := by omega
    obtain ⟨⟨op, hop⟩, -⟩ := (violation?_eq_none_iff m word).mp hv
    refine ⟨(check_eq_none_iff m low address).mpr hlow, op.effect (Instruction.decode low) m,
      execute_of_violation? hlow hwidth (hdigits ▸ hop), fun hmin hmax => ?_⟩
    rw [execute_of_violation? hv ⟨hmin, hmax⟩ hop, hdigits]
  · intro h
    obtain ⟨target, hcall⟩ := violation?_of_disguised (m := m) h
    rw [check_map_kind, hcall]
    rfl
  · intro h
    rw [check_map_kind, check_map_kind]
    exact violation?_kind_emod h
  · intro next hx
    obtain ⟨op, hop, hnext⟩ := execute_eq_ok hx
    rw [hdigits]
    exact ⟨op, hop.named, hop.no_machine_call, hnext⟩

/-- A negative number that ends in 6105, and a return with a bit too many. -/
theorem wide_words_act_by_low_bits_below_zero :
    let m := powerOn ⟨0, 0⟩
    ∃ next, m.execute (-0x9EFB) = .ok next ∧ m.execute 0x6105 = .ok next ∧ next.v.get 0x1 = 5 ∧
      (m.check 0x100EE 0x200).map Fault.kind = some .machineCall := by
  intro m
  obtain ⟨-, haccepted, -, -, hnamed⟩ := wide_words_act_by_low_bits m (-0x9EFB) 0x200
  obtain ⟨-, -, hcalls, -⟩ := wide_words_act_by_low_bits m 0x100EE 0x200
  have hcheck : m.check (-0x9EFB) 0x200 = none := rfl
  obtain ⟨-, next, hlow, hword⟩ := haccepted hcheck
  have hx := hword (by decide) (by decide)
  obtain ⟨op, hop, -, hnext⟩ := hnamed next hx
  obtain rfl : op = .loadByte := (Option.some.inj hop).symm
  refine ⟨next, hx, hlow, ?_, hcalls ⟨.inr (by decide), .inr (by decide)⟩⟩
  rw [hnext]
  exact Digit.get_put ..

end Machine
end Chip8
