import Chip8.Proofs.Chart
import Mathlib.Tactic.ByContra
import Mathlib.Tactic.SplitIfs

/-! Validation against the chart and against the route of dispatch. A word is refused for one
reason only, and a word that is not refused runs as the operation that the chart names for it. -/
namespace Chip8

namespace Instruction

private theorem operation?_machineCall_iff (w : UInt16) :
    (decode w.toNat).operation? = some .machineCall ↔
      (decode w.toNat).family = 0 ∧ (w.toNat : Int) ≠ 0x00E0 ∧ (w.toNat : Int) ≠ 0x00EE := by
  constructor
  · intro h
    refine ⟨family_of_operation? h, ?_, ?_⟩
    · intro hw
      rw [hw] at h
      cases h
    · intro hw
      rw [hw] at h
      cases h
  · rintro ⟨hf, hclear, hret⟩
    obtain ⟨op, hop⟩ := Option.ne_none_iff_exists'.mp (operation?_ne_none_of_family_zero hf)
    have hw : (decode w.toNat).word = w := word_decode w
    rw [← fill_of_operation? hop] at hw
    rcases Operation.cases_of_family_zero ((family_of_operation? hop).symm.trans hf)
      with rfl | rfl | rfl
    · exact absurd (by rw [← hw]; rfl) hclear
    · exact absurd (by rw [← hw]; rfl) hret
    · exact hop

end Instruction

/-- The chart names `op` for `i`, and nothing keeps the machine from running it. -/
structure Machine.Admits (m : Machine) (i : Instruction) (op : Operation) : Prop where
  named : i.operation? = some op
  no_machine_call : op ≠ .machineCall
  return_address : op = .ret → m.stack.isEmpty = false
  free_slot : op = .call → m.stack.isFull = false

namespace Machine
variable {m : Machine} {i : Instruction} {op : Operation}

theorem Admits.dispatch (h : m.Admits i op) (s : Machine) : dispatch i s = op.effect i s :=
  Instruction.dispatch_eq_effect s h.named h.no_machine_call

/-- Outside calls and returns a word is admitted by its digits. -/
theorem Admits.of_operation? (h : i.operation? = some op) (hmachine : op ≠ .machineCall)
    (hret : op ≠ .ret) (hcall : op ≠ .call) : m.Admits i op :=
  ⟨h, hmachine, fun hop => absurd hop hret, fun hop => absurd hop hcall⟩

/-- The chart names one operation at most. -/
theorem Admits.eq_of_operation? {other : Operation} (h : m.Admits i op)
    (hother : i.operation? = some other) : op = other :=
  Option.some.inj (h.named.symm.trans hother)

theorem Admits.eq_of_fill {other : Operation} (h : m.Admits i op) (hother : other ≠ .machineCall)
    (hi : other.pattern.fill i = i) : op = other :=
  h.eq_of_operation? ((Instruction.operation?_eq_some_iff hother).mpr hi)

theorem Admits.eq_of_family {other : Operation} (h : m.Admits i op) (hother : other ≠ .machineCall)
    (hopen : other.pattern = { family := other.pattern.family })
    (hf : i.family = other.pattern.family) : op = other :=
  h.eq_of_operation? ((Instruction.operation?_iff_family hother hopen).mpr hf)

theorem Admits.family_eq (h : m.Admits i op) : i.family = op.pattern.family :=
  Instruction.family_of_operation? h.named

theorem Admits.digits_eq (h : m.Admits i op) : i = op.pattern.fill i :=
  (Instruction.fill_of_operation? h.named).symm

/-- Moving past a word changes neither what it names nor the stack. -/
theorem Admits.advance (h : m.Admits i op) : m.advance.Admits i op :=
  ⟨h.named, h.no_machine_call, h.return_address, h.free_slot⟩

theorem Admits.cases_of_family_zero (h : m.Admits i op) (hi : i.family = 0) :
    (op = .clear ∧ i = ⟨0, 0, 0xE, 0⟩) ∨ (op = .ret ∧ i = ⟨0, 0, 0xE, 0xE⟩) := by
  have hdigits := h.digits_eq
  have hf : op.pattern.family = 0 := h.family_eq.symm.trans hi
  rcases Operation.cases_of_family_zero hf with rfl | rfl | rfl
  · exact .inl ⟨rfl, hdigits⟩
  · exact .inr ⟨rfl, hdigits⟩
  · exact absurd rfl h.no_machine_call

private theorem Admits.return_not_empty (h : m.Admits (Instruction.decode 0x00EE) op) :
    m.stack.isEmpty = false := by
  have hop : op = .ret := (Option.some.inj h.named).symm
  exact h.return_address hop

private theorem Admits.call_not_full (h : m.Admits i op) (hf : i.family = 2) :
    m.stack.isFull = false :=
  h.free_slot (h.eq_of_operation? (Instruction.operation?_call_iff.mpr hf))

/-- Of the words that are admitted by their digits, validation refuses only those of family 0
that have higher bits set. -/
theorem violation?_eq_none_iff (m : Machine) (word : Int) :
    m.violation? word = none ↔ (∃ op, m.Admits (Instruction.decode word) op) ∧
      ((Instruction.decode word).family = 0 → word = 0x00E0 ∨ word = 0x00EE) := by
  unfold violation?
  constructor
  · intro h
    dsimp only at h
    split_ifs at h with hcall hret hdeep hop
    obtain ⟨op, hop⟩ := Option.ne_none_iff_exists'.mp hop
    have hexact : (Instruction.decode word).family = 0 → word = 0x00E0 ∨ word = 0x00EE := by
      intro hf
      by_contra hw
      exact hcall ⟨hf, not_or.mp hw⟩
    refine ⟨⟨op, hop, ?_, ?_, ?_⟩, hexact⟩
    · rintro rfl
      rcases hexact (Instruction.family_of_operation? hop) with rfl | rfl <;> cases hop
    · rintro rfl
      rcases hexact (Instruction.family_of_operation? hop) with rfl | rfl
      · cases hop
      · simpa using hret
    · rintro rfl
      simpa [Instruction.operation?_call_iff.mp hop] using hdeep
  · rintro ⟨⟨op, h⟩, hexact⟩
    have hret : ¬(word = 0x00EE ∧ m.stack.isEmpty = true) := by
      rintro ⟨rfl, he⟩
      exact Bool.false_ne_true (h.return_not_empty.symm.trans he)
    have hdeep : ¬((Instruction.decode word).family = 2 ∧ m.stack.isFull = true) := by
      rintro ⟨hf, he⟩
      exact Bool.false_ne_true ((h.call_not_full hf).symm.trans he)
    rw [if_neg, if_neg hret, if_neg hdeep, if_neg (by simp [h.named])]
    rintro ⟨hf, h0, hE⟩
    exact (hexact hf).elim h0 hE

private theorem Admits.exact_word {w : UInt16} (h : m.Admits (Instruction.decode w.toNat) op)
    (hf : (Instruction.decode w.toNat).family = 0) :
    (op = .clear ∧ w = 0x00E0) ∨ (op = .ret ∧ w = 0x00EE) := by
  rw [← Instruction.word_decode w]
  rcases h.cases_of_family_zero hf with ⟨hop, hi⟩ | ⟨hop, hi⟩
  · exact .inl ⟨hop, by rw [hi]; rfl⟩
  · exact .inr ⟨hop, by rw [hi]; rfl⟩

theorem Admits.return_iff {w : UInt16} (h : m.Admits (Instruction.decode w.toNat) op) :
    op = .ret ↔ w = 0x00EE := by
  constructor
  · rintro rfl
    obtain ⟨hclear, -⟩ | ⟨-, hw⟩ := h.exact_word h.family_eq
    · cases hclear
    · exact hw
  · rintro rfl
    exact h.eq_of_operation? rfl

theorem violation?_eq_none_iff_admits (m : Machine) (w : UInt16) :
    m.violation? w.toNat = none ↔ ∃ op, m.Admits (Instruction.decode w.toNat) op := by
  rw [violation?_eq_none_iff]
  constructor
  · exact And.left
  · rintro ⟨op, h⟩
    refine ⟨⟨op, h⟩, fun hf => ?_⟩
    rcases h.exact_word hf with ⟨-, rfl⟩ | ⟨-, rfl⟩
    · exact .inl rfl
    · exact .inr rfl

theorem check_eq_none_iff (m : Machine) (word address : Int) :
    m.check word address = none ↔ m.violation? word = none := by
  simp [check]

theorem check_map_kind (m : Machine) (word address : Int) :
    (m.check word address).map Fault.kind = (m.violation? word).map Violation.kind := by
  rw [check, Option.map_map]
  rfl

/-- Whatever the machine, a word is refused as unknown if it names no operation, and as a machine
call if it names that. -/
theorem check_kind_iff (s : Machine) (w : UInt16) (address : Int) :
    ((s.check w.toNat address).map Fault.kind = some .unknownOpcode ↔
      (Instruction.decode w.toNat).operation? = none) ∧
    ((s.check w.toNat address).map Fault.kind = some .machineCall ↔
      (Instruction.decode w.toNat).operation? = some .machineCall) := by
  have hzero := @Instruction.operation?_ne_none_of_family_zero (Instruction.decode w.toNat)
  have hexact := Instruction.operation?_machineCall_iff w
  rw [check_map_kind]
  unfold violation?
  dsimp only
  split_ifs with hcall hret hdeep hnone
  · exact ⟨iff_of_false nofun (hzero hcall.1), iff_of_true rfl (hexact.mpr hcall)⟩
  · have hf : (Instruction.decode w.toNat).family = 0 := by
      rw [hret.1]
      rfl
    exact ⟨iff_of_false nofun (hzero hf), iff_of_false nofun fun h => hcall (hexact.mp h)⟩
  · have hop := Instruction.operation?_call_iff.mpr hdeep.1
    exact ⟨iff_of_false nofun (by rw [hop]; nofun), iff_of_false nofun (by rw [hop]; nofun)⟩
  · exact ⟨iff_of_true rfl hnone, iff_of_false nofun (by rw [hnone]; nofun)⟩
  · exact ⟨iff_of_false nofun hnone, iff_of_false nofun fun h => hcall (hexact.mp h)⟩

/-- The four tests of validation by themselves, in the order in which they are made. -/
def tests (m : Machine) (word : Int) : List (Option Violation) :=
  let i := Instruction.decode word
  [if i.family = 0 ∧ word ≠ 0x00E0 ∧ word ≠ 0x00EE then some (.machineCall i.nnn) else none,
   if word = 0x00EE ∧ m.stack.isEmpty then some .returnFromNothing else none,
   if i.family = 2 ∧ m.stack.isFull then some .callTooDeep else none,
   if i.operation? = none then some (.noOperation word) else none]

private theorem findSome?_tests (m : Machine) (word : Int) :
    (m.tests word).findSome? id = m.violation? word := by
  simp only [tests, violation?, List.findSome?_cons, List.findSome?_nil, id]
  split_ifs <;> rfl

private theorem tests_exclusive (m : Machine) (word : Int) :
    (m.tests word).Pairwise fun a b => a = none ∨ b = none := by
  have hzero := @Instruction.operation?_ne_none_of_family_zero (Instruction.decode word)
  have hcall : (Instruction.decode word).family = 2 → (Instruction.decode word).operation? ≠ none :=
    fun hf => by simp [Instruction.operation?_call_iff.mpr hf]
  have hret : word = 0x00EE → (Instruction.decode word).family = 0 := fun h => by rw [h]; rfl
  simp only [tests, List.pairwise_cons, List.mem_cons, List.not_mem_nil, or_false, forall_eq_or_imp,
    forall_eq, ite_eq_right_iff, reduceCtorEq, imp_false, false_imp_iff, implies_true,
    List.Pairwise.nil, and_true]
  grind

private theorem findSome?_perm {α : Type} {first second : List (Option α)} (h : first.Perm second)
    (hp : first.Pairwise fun a b => a = none ∨ b = none) :
    first.findSome? id = second.findSome? id := by
  induction h with
  | nil => rfl
  | cons a _ ih => rw [List.findSome?_cons, List.findSome?_cons, ih (List.pairwise_cons.mp hp).2]
  | swap a b l =>
    -- At most one of the two neighbours is a violation, so either order finds it.
    have hab : b = none ∨ a = none := (List.pairwise_cons.mp hp).1 a List.mem_cons_self
    rcases hab with rfl | rfl
    · rfl
    · cases b <;> rfl
  | trans h _ ih ih' =>
    rw [ih hp, ih' ((h.pairwise_iff Or.symm).mp hp)]

end Machine

namespace Arithmetic

def operations : Vector Operation 9 :=
  #v[.copy, .or, .and, .xor, .add, .subtract, .shiftRight, .subtractFrom, .shiftLeft]

private theorem entry_of_position_lt {n : Fin 16} (h : position n < 9) :
    entry n = ⟨position n, h⟩ :=
  Fin.ext (Nat.min_eq_left (Nat.le_of_lt_succ h))

end Arithmetic

/-- Each choice on the route to the effect of `op` is made by a digit that the chart fixes for
it; none falls to a last or first entry that happens to stand there. -/
structure Instruction.Routed (i : Instruction) (op : Operation) : Prop where
  system : i.family = 0x0 → (i.nnn = 0x0E0 ∧ op = .clear) ∨ (i.nnn = 0x0EE ∧ op = .ret)
  arithmetic : i.family = 0x8 → ∃ h : Arithmetic.position i.n < 9,
    Arithmetic.entry i.n = ⟨Arithmetic.position i.n, h⟩ ∧
      Arithmetic.operations[Arithmetic.position i.n] = op ∧
      op.effect = Machine.combine Arithmetic.table[Arithmetic.position i.n]
  keys : i.family = 0xE → (i.nn = 0x9E ∧ op = .skipPressed) ∨ (i.nn = 0xA1 ∧ op = .skipReleased)
  members : i.family = 0xF →
    Machine.members.find? (fun member => member.1 == i.nn) = some (i.nn, op.effect)

namespace Instruction
variable {i : Instruction} {op : Operation}

private theorem route_arithmetic (i : Instruction) (hop : op.pattern.family = 0x8) :
    ∃ h : Arithmetic.position (op.pattern.fill i).n < 9,
      Arithmetic.operations[Arithmetic.position (op.pattern.fill i).n] = op ∧
      op.effect = Machine.combine Arithmetic.table[Arithmetic.position (op.pattern.fill i).n] := by
  cases op with
  | copy | or | and | xor | add | subtract | shiftRight | subtractFrom | shiftLeft =>
    exact ⟨of_decide_eq_true rfl, rfl, rfl⟩
  | _ => exact absurd hop (by decide)

private theorem route_members (i : Instruction) (hop : op.pattern.family = 0xF) :
    Machine.members.find? (fun member => member.1 == (op.pattern.fill i).nn) =
      some ((op.pattern.fill i).nn, op.effect) := by
  cases op with
  | readDelay | waitKey | setDelay | setSound | addIndex | glyph | digits | store | load => rfl
  | _ => exact absurd hop (by decide)

private theorem routed (h : i.operation? = some op) (hop : op ≠ .machineCall) : i.Routed op := by
  rw [← fill_of_operation? h]
  constructor
  · intro hf
    rcases Operation.cases_of_family_zero hf with rfl | rfl | rfl
    · exact .inl ⟨rfl, rfl⟩
    · exact .inr ⟨rfl, rfl⟩
    · exact absurd rfl hop
  · intro hf
    obtain ⟨hn, hop, he⟩ := route_arithmetic i hf
    exact ⟨hn, Arithmetic.entry_of_position_lt hn, hop, he⟩
  · intro hf
    rcases Operation.cases_of_family_keys hf with rfl | rfl
    · exact .inl ⟨rfl, rfl⟩
    · exact .inr ⟨rfl, rfl⟩
  · exact route_members i

end Instruction

namespace Machine

private theorem exists_admits_iff_row (m : Machine) (w : UInt16) :
    (∃ op, m.Admits (Instruction.decode w.toNat) op) ↔
      (∃ row ∈ Operation.chart, row.2 ≠ .machineCall ∧
        row.1.fits (Instruction.decode w.toNat) = true) ∧
      ¬(w = 0x00EE ∧ m.stack.isEmpty = true) ∧
      ¬((Instruction.decode w.toNat).family = 2 ∧ m.stack.isFull = true) := by
  constructor
  · rintro ⟨op, h⟩
    refine ⟨⟨_, op.pattern_mem_chart, h.no_machine_call, ?_⟩, ?_, ?_⟩
    · exact (Pattern.fits_iff _ _).mpr (Instruction.fill_of_operation? h.named)
    · rintro ⟨rfl, he⟩
      exact Bool.false_ne_true (h.return_not_empty.symm.trans he)
    · rintro ⟨hf, he⟩
      exact Bool.false_ne_true ((h.call_not_full hf).symm.trans he)
  · rintro ⟨⟨row, hrow, hop, hfit⟩, hret, hcall⟩
    rw [Operation.eq_pattern_of_mem_chart hrow, Pattern.fits_iff] at hfit
    have hnamed := (Instruction.operation?_eq_some_iff hop).mpr hfit
    refine ⟨row.2, hnamed, hop, ?_, ?_⟩
    · intro hr
      rw [hr] at hfit
      have hw : w = 0x00EE := by rw [← Instruction.word_decode w, ← hfit]; rfl
      simpa [hw] using hret
    · intro hc
      rw [hc] at hnamed
      simpa [Instruction.operation?_call_iff.mp hnamed] using hcall

/-- Sixteen-bit words are accepted exactly by the rows of the chart other than machine calls, up
to the two conditions on the stack. The tests may be made in any order, and what is accepted runs
as the operation named by the chart, whatever the state of the machine. -/
theorem validation_agrees_with_dispatch (m : Machine) (w : UInt16) (address : Int) :
    (m.check w.toNat address = none ↔
      (∃ row ∈ Operation.chart, row.2 ≠ .machineCall ∧
        row.1.fits (Instruction.decode w.toNat) = true) ∧
      ¬(w = 0x00EE ∧ m.stack.isEmpty = true) ∧
      ¬((Instruction.decode w.toNat).family = 2 ∧ m.stack.isFull = true)) ∧
    ((m.tests w.toNat).Pairwise fun a b => a = none ∨ b = none) ∧
    (∀ order : List (Option Violation), order.Perm (m.tests w.toNat) →
      order.findSome? id = m.violation? w.toNat) ∧
    (m.check w.toNat address = none → ∃ op,
      (Instruction.decode w.toNat).operation? = some op ∧ op ≠ .machineCall ∧
      dispatch (Instruction.decode w.toNat) m = op.effect (Instruction.decode w.toNat) m ∧
      (Instruction.decode w.toNat).Routed op) := by
  refine ⟨?_, tests_exclusive m _, ?_, ?_⟩
  · rw [check_eq_none_iff, violation?_eq_none_iff_admits]
    exact exists_admits_iff_row m w
  · intro order h
    rw [← findSome?_tests]
    exact findSome?_perm h ((h.pairwise_iff Or.symm).mpr (tests_exclusive m _))
  · intro h
    rw [check_eq_none_iff, violation?_eq_none_iff_admits] at h
    obtain ⟨op, h⟩ := h
    exact ⟨op, h.named, h.no_machine_call, h.dispatch m,
      Instruction.routed h.named h.no_machine_call⟩

end Machine
end Chip8
