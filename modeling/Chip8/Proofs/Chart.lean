import Chip8.Effect.Meaning
import Chip8.Execution

/-! What the chart says about a word, and where the route through the families ends for it.
Later proofs look at the operation of a word and no longer at its digits. -/
namespace Chip8

namespace Pattern

/-- The fixed digits of `p`, and the digits of `i` in the places that `p` leaves open. -/
def fill (p : Pattern) (i : Instruction) : Instruction :=
  ⟨p.family, p.x.getD i.x, p.y.getD i.y, p.n.getD i.n⟩

private theorem admits_iff (fixed : Option (Fin 16)) (digit : Fin 16) :
    admits fixed digit = true ↔ fixed.getD digit = digit := by
  cases fixed <;> simp [admits]

theorem fits_iff (p : Pattern) (i : Instruction) : p.fits i = true ↔ p.fill i = i := by
  obtain ⟨f, x, y, n⟩ := i
  simp [fits, fill, admits_iff, and_assoc]

end Pattern

namespace Operation

def pattern (op : Operation) : Pattern :=
  ((chart.find? fun row => row.2 == op).map (·.1)).getD { family := 0 }

theorem pattern_mem_chart (op : Operation) : (op.pattern, op) ∈ chart := by
  cases op <;> decide

theorem eq_pattern_of_mem_chart {row : Pattern × Operation} (h : row ∈ chart) :
    row.1 = row.2.pattern :=
  (by decide : ∀ row ∈ chart, row.1 = row.2.pattern) row h

theorem cases_of_family_zero {op : Operation} (h : op.pattern.family = 0) :
    op = clear ∨ op = ret ∨ op = machineCall := by
  revert h
  cases op <;> decide

theorem cases_of_family_keys {op : Operation} (h : op.pattern.family = 0xE) :
    op = skipPressed ∨ op = skipReleased := by
  revert h
  cases op <;> decide

end Operation

namespace Instruction
variable {i : Instruction} {op : Operation}

theorem fill_of_operation? (h : i.operation? = some op) : op.pattern.fill i = i := by
  obtain ⟨row, hrow, rfl⟩ := Option.map_eq_some_iff.mp h
  have hfit := List.find?_some (p := fun row : Pattern × Operation => row.1.fits i) hrow
  rw [← Operation.eq_pattern_of_mem_chart (List.mem_of_find?_eq_some hrow)]
  exact (Pattern.fits_iff _ _).mp hfit

/-- Only machine calls give way to rows above their own. -/
theorem operation?_fill (i : Instruction) (hop : op ≠ .machineCall) :
    (op.pattern.fill i).operation? = some op := by
  cases op with
  | machineCall => exact absurd rfl hop
  | _ => rfl

theorem operation?_eq_some_iff (hop : op ≠ .machineCall) :
    i.operation? = some op ↔ op.pattern.fill i = i := by
  constructor
  · exact fill_of_operation?
  · intro h
    rw [← h]
    exact operation?_fill i hop

theorem family_of_operation? (h : i.operation? = some op) : i.family = op.pattern.family :=
  congrArg family (fill_of_operation? h).symm

/-- An operation whose row leaves all digits but the first open is named by its family. -/
theorem operation?_iff_family (hop : op ≠ .machineCall)
    (hopen : op.pattern = { family := op.pattern.family }) :
    i.operation? = some op ↔ i.family = op.pattern.family := by
  rw [operation?_eq_some_iff hop, hopen]
  constructor
  · exact fun h => congrArg family h.symm
  · intro h
    obtain ⟨f, x, y, n⟩ := i
    cases h
    rfl

/-- One of the words FXNN, with the last two digits `y` and `n`. -/
def IsMember (i : Instruction) (y n : Fin 16) : Prop := i = ⟨0xF, i.x, y, n⟩

instance (i : Instruction) (y n : Fin 16) : Decidable (i.IsMember y n) :=
  inferInstanceAs (Decidable (_ = _))

theorem isMember_iff {y n : Fin 16} (hop : op ≠ .machineCall)
    (hfixed : op.pattern = { family := 0xF, y := some y, n := some n }) :
    i.IsMember y n ↔ i.operation? = some op := by
  rw [operation?_eq_some_iff hop, hfixed]
  exact eq_comm

theorem operation?_call_iff : i.operation? = some .call ↔ i.family = 2 :=
  operation?_iff_family nofun rfl

/-- Family 0 has a row that fits every word of it. -/
theorem operation?_ne_none_of_family_zero (h : i.family = 0) : i.operation? ≠ none := by
  intro hn
  have hfind : Operation.chart.find? (fun row => row.1.fits i) = none :=
    Option.map_eq_none_iff.mp hn
  have hrow := List.find?_eq_none.mp hfind _ (Operation.pattern_mem_chart .machineCall)
  obtain ⟨f, x, y, n⟩ := i
  cases h
  exact hrow ((Pattern.fits_iff _ _).mpr rfl)

private theorem val_digitAt (word unit : Int) :
    ((digitAt word unit).val : Int) = word / unit % 16 := by
  rw [digitAt, Fin.val_ofNat]
  omega

theorem word_decode (w : UInt16) : (decode w.toNat).word = w := by
  apply UInt16.toNat_inj.mp
  have hw := w.toNat_lt
  have hfamily := val_digitAt w.toNat 4096
  have hx := val_digitAt w.toNat 256
  have hy := val_digitAt w.toNat 16
  have hn := val_digitAt w.toNat 1
  simp only [decode, word, UInt16.toNat_ofNat']
  omega

/-- The route through the families ends at the effect of the operation that the chart names. -/
theorem dispatch_eq_effect (m : Machine) (h : i.operation? = some op) (hop : op ≠ .machineCall) :
    Machine.dispatch i m = op.effect i m := by
  rw [← fill_of_operation? h]
  cases op with
  | machineCall => exact absurd rfl hop
  | skipPressed =>
    exact congrArg (fun b => Machine.skipIf (_ && b) m) (Bool.xor_false _)
  | skipReleased =>
    exact congrArg (fun b => Machine.skipIf (_ && b) m) (Bool.xor_true _)
  | _ => rfl

end Instruction
end Chip8
