import Chip8.Proofs.Cycle
import Chip8.Proofs.Sprites
import Mathlib.Algebra.Ring.Parity

/-! Sprites drawn over each other. Draws that take their place from registers other than VF leave
all that they read as it was, so only the number of sprites over a pixel counts, and not their
order. -/
namespace Chip8

/-- A word DXYN in which neither X nor Y is F. -/
structure Stamp where
  x : Fin 16
  y : Fin 16
  n : Fin 16
  x_ne : x ≠ 0xF
  y_ne : y ≠ 0xF

def Stamp.word (s : Stamp) : UInt16 := Instruction.word ⟨0xD, s.x, s.y, s.n⟩

namespace Machine

def executeAll (m : Machine) (words : List UInt16) : Except ExecutionError Machine :=
  words.foldlM (fun m word => m.execute word.toNat) m

/-- The number of stamps whose sprite, taken from `m`, lights this pixel. -/
def layers (m : Machine) (stamps : List Stamp) (row column : Nat) : Nat :=
  stamps.countP fun s => m.Lights s.x s.y s.n row column

def lit (m : Machine) (row : Fin 32) (column : Fin 64) : Bool := (m.display.get row).get column

def Darkens (m next : Machine) : Prop :=
  ∃ (row : Fin 32) (column : Fin 64), m.lit row column = true ∧ next.lit row column = false

instance (m next : Machine) : Decidable (m.Darkens next) :=
  inferInstanceAs (Decidable (∃ (_ : Fin 32) (_ : Fin 64), _))

/-- `last` is `m` under the stamps: a pixel is flipped when an odd number of them lights it, and
beside the display only VF may have changed. -/
structure Stamped (m : Machine) (stamps : List Stamp) (last : Machine) : Prop where
  lit_eq : ∀ row column,
    last.lit row column = (m.lit row column ^^ decide (Odd (m.layers stamps row column)))
  register : ∀ k, k ≠ 0xF → last.v.get k = m.v.get k
  rest : last = { m with display := last.display, v := last.v }

variable {m here next last : Machine} {stamps done : List Stamp} {s : Stamp}

private theorem executeAll_cons (m : Machine) (word : UInt16) (words : List UInt16) :
    m.executeAll (word :: words) =
      (m.execute word.toNat).bind fun next => next.executeAll words := rfl

private theorem executeAll_append (m : Machine) (words more : List UInt16) :
    m.executeAll (words ++ more) = (m.executeAll words).bind fun next => next.executeAll more :=
  List.foldlM_append

private theorem execute_draw (m : Machine) (x y n : Fin 16) :
    m.execute (Instruction.word ⟨0xD, x, y, n⟩).toNat = .ok (dispatch ⟨0xD, x, y, n⟩ m) := by
  have hop : Instruction.operation? ⟨0xD, x, y, n⟩ = some .draw := rfl
  have hadmits : m.Admits ⟨0xD, x, y, n⟩ .draw := .of_operation? hop nofun nofun nofun
  rw [execute_of_admits hadmits, hadmits.dispatch]

private theorem drawn_lit (m : Machine) (x y n : Fin 16) (row : Fin 32) (column : Fin 64) :
    (dispatch ⟨0xD, x, y, n⟩ m).lit row column =
      (m.lit row column ^^ decide (m.Lights x y n row column)) := by
  rw [dispatch_draw, ← spriteOf_pixel]
  exact Bitmap.xor_pixel _ _ row.isLt column.isLt

private theorem collides_iff_darkens (m : Machine) (x y n : Fin 16) :
    m.Collides x y n ↔ m.Darkens (dispatch ⟨0xD, x, y, n⟩ m) := by
  refine exists_congr fun row => exists_congr fun column => and_congr_right ?_
  intro (hlit : m.lit row column = true)
  rw [drawn_lit, hlit, Bool.true_xor, Bool.not_eq_false', decide_eq_true_iff]

private theorem drawn_flag (m : Machine) (x y n : Fin 16) :
    (dispatch ⟨0xD, x, y, n⟩ m).v.get 0xF =
      if m.Darkens (dispatch ⟨0xD, x, y, n⟩ m) then 1 else 0 := by
  simp only [← collides_iff_darkens]
  rw [dispatch_draw]
  exact Digit.get_put ..

private theorem layers_concat (m : Machine) (done : List Stamp) (s : Stamp) (row column : Nat) :
    m.layers (done ++ [s]) row column =
      m.layers done row column + if m.Lights s.x s.y s.n row column then 1 else 0 := by
  simp [layers, List.countP_append, List.countP_singleton]

private theorem odd_add_ite (count : Nat) (p : Prop) [Decidable p] :
    decide (Odd (count + if p then 1 else 0)) = (decide (Odd count) ^^ decide p) := by
  by_cases hp : p
  · rw [if_pos hp, decide_eq_true hp, Bool.xor_true, ← decide_not]
    exact decide_eq_decide.mpr Nat.odd_add_one
  · rw [if_neg hp, decide_eq_false hp, Nat.add_zero, Bool.xor_false]

namespace Stamped

theorem refl (m : Machine) : m.Stamped [] m :=
  ⟨fun row column => by simp [layers], fun _ _ => rfl, rfl⟩

private theorem lights_iff (h : m.Stamped done here) (s : Stamp) (row column : Nat) :
    here.Lights s.x s.y s.n row column ↔ m.Lights s.x s.y s.n row column := by
  -- Stamps read neither the display nor VF, so those before do not move a sprite.
  have hmemory : here.memory = m.memory := by rw [h.rest]
  have hindex : here.i = m.i := by rw [h.rest]
  rw [Lights, Lights, h.register s.x s.x_ne, h.register s.y s.y_ne, hmemory, hindex]

theorem stamp (h : m.Stamped done here) (s : Stamp) :
    m.Stamped (done ++ [s]) (dispatch ⟨0xD, s.x, s.y, s.n⟩ here) := by
  constructor
  · intro row column
    simp only [drawn_lit, h.lit_eq, h.lights_iff, layers_concat, odd_add_ite, Bool.xor_assoc]
  · intro k hk
    rw [dispatch_draw]
    exact (Digit.get_put_of_ne _ _ hk).trans (h.register k hk)
  · rw [dispatch_draw]
    dsimp only
    rw [h.rest]

/-- Any stamps run to their end. -/
theorem run (h : m.Stamped done here) (stamps : List Stamp) :
    ∃ last, here.executeAll (stamps.map Stamp.word) = .ok last ∧
      m.Stamped (done ++ stamps) last := by
  induction stamps generalizing done here with
  | nil => exact ⟨here, rfl, (List.append_nil done).symm ▸ h⟩
  | cons s rest ih =>
    obtain ⟨last, hrun, hlast⟩ := ih (h.stamp s)
    refine ⟨last, ?_, ?_⟩
    · rw [List.map_cons, executeAll_cons, Stamp.word, execute_draw]
      exact hrun
    · rwa [List.append_assoc] at hlast

theorem display_eq (h : m.Stamped stamps last) (h' : m.Stamped done here)
    (hodd : ∀ row column, Odd (m.layers stamps row column) ↔ Odd (m.layers done row column)) :
    here.display = last.display := by
  apply Vector.ext
  intro row hrow
  apply Vector.ext
  intro column hcolumn
  have hpixel := h.lit_eq ⟨row, hrow⟩ ⟨column, hcolumn⟩
  have hpixel' := h'.lit_eq ⟨row, hrow⟩ ⟨column, hcolumn⟩
  simp only [hodd] at hpixel
  exact hpixel'.trans hpixel.symm

end Stamped

/-- Stamps flip the pixels that an odd number of them lights, so that neither their order nor two
equal ones among them can be seen on the display. Whenever one of them runs, VF tells whether it
turned off a pixel that was lit at that moment; all else stays as it was at the start. -/
theorem stamps_compose_by_parity (m : Machine) (stamps : List Stamp) :
    ∃ last, m.executeAll (stamps.map Stamp.word) = .ok last ∧
      (∀ row column,
        last.lit row column = (m.lit row column ^^ decide (Odd (m.layers stamps row column)))) ∧
      (∀ k, k ≠ 0xF → last.v.get k = m.v.get k) ∧
      last = { m with display := last.display, v := last.v } ∧
      (∀ other : List Stamp, other.Perm stamps →
        ∃ same, m.executeAll (other.map Stamp.word) = .ok same ∧ same.display = last.display) ∧
      (∀ (s : Stamp) (others : List Stamp), stamps.Perm (s :: s :: others) →
        ∃ same, m.executeAll (others.map Stamp.word) = .ok same ∧ same.display = last.display) ∧
      ∀ (before after : List Stamp) (s : Stamp), stamps = before ++ s :: after →
        ∃ here next, m.executeAll (before.map Stamp.word) = .ok here ∧
          here.execute s.word.toNat = .ok next ∧
          next.executeAll (after.map Stamp.word) = .ok last ∧
          next.v.get 0xF = if here.Darkens next then 1 else 0 := by
  obtain ⟨last, hrun, hlast⟩ := (Stamped.refl m).run stamps
  have hsame (other : List Stamp) (hodd : ∀ row column,
      Odd (m.layers stamps row column) ↔ Odd (m.layers other row column)) :
      ∃ same, m.executeAll (other.map Stamp.word) = .ok same ∧ same.display = last.display := by
    obtain ⟨same, hother, hstamped⟩ := (Stamped.refl m).run other
    exact ⟨same, hother, hlast.display_eq hstamped hodd⟩
  refine ⟨last, hrun, hlast.lit_eq, hlast.register, hlast.rest, ?_, ?_, ?_⟩
  · intro other hperm
    refine hsame other fun row column => ?_
    rw [layers, layers, hperm.countP_eq]
  · intro s others hperm
    refine hsame others fun row column => ?_
    rw [layers, layers, hperm.countP_eq, List.countP_cons, List.countP_cons]
    split <;> simp [Nat.odd_add_one]
  · intro before after s hstamps
    obtain ⟨here, hbefore, -⟩ := (Stamped.refl m).run before
    have hstep : here.execute s.word.toNat = .ok (dispatch ⟨0xD, s.x, s.y, s.n⟩ here) :=
      execute_draw here s.x s.y s.n
    refine ⟨here, _, hbefore, hstep, ?_, drawn_flag here s.x s.y s.n⟩
    rw [hstamps, List.map_append, List.map_cons, executeAll_append, hbefore] at hrun
    rw [← hrun]
    change _ = here.executeAll (s.word :: after.map Stamp.word)
    rw [executeAll_cons, hstep]
    rfl

end Machine
end Chip8
