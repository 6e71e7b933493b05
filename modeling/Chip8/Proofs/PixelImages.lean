import Chip8.Raster
import Mathlib.Tactic.SplitIfs

/-! Screens as colour images. An image shows every pixel of its screen as a square of one colour, so
the screen is found again in it. -/
namespace Chip8

namespace Extent

def volume : List Int → Nat
  | [] => 1
  | side :: rest => side.toNat * volume rest

variable {sides : List Int}

private theorem volume_pos (hpos : ∀ side ∈ sides, 0 < side) : 0 < volume sides := by
  induction sides with
  | nil => exact Nat.one_pos
  | cons side rest ih =>
    obtain ⟨hside, hrest⟩ := List.forall_mem_cons.mp hpos
    exact Nat.mul_pos (by omega) (ih hrest)

private theorem le_volume (hpos : ∀ side ∈ sides, 0 < side) {side : Int} (h : side ∈ sides) :
    side ≤ volume sides := by
  induction sides with
  | nil => cases h
  | cons first rest ih =>
    obtain ⟨hfirst, hrest⟩ := List.forall_mem_cons.mp hpos
    have hfirst' : first.toNat ≤ first.toNat * volume rest :=
      Nat.le_mul_of_pos_right _ (volume_pos hrest)
    have hrest' : volume rest ≤ first.toNat * volume rest :=
      Nat.le_mul_of_pos_left _ (by omega)
    rw [volume]
    rcases List.mem_cons.mp h with rfl | hmem
    · omega
    · have hside := ih hrest hmem
      omega

private theorem isCountable_iff {side : Int} :
    isCountable side = true ↔ -limit ≤ side ∧ side < limit := by
  rw [isCountable, Bool.and_eq_true, decide_eq_true_iff, decide_eq_true_iff]

private theorem bytes_of_pos (hpos : ∀ side ∈ sides, 0 < side) {size : Nat} (hsize : size < limit) :
    bytes size sides =
      if size * volume sides < limit then .ok (size * volume sides) else .error .tooManyBytes := by
  induction sides generalizing size with
  | nil => rw [volume, Nat.mul_one, if_pos hsize, bytes]
  | cons side rest ih =>
    obtain ⟨hside, hrest⟩ := List.forall_mem_cons.mp hpos
    rw [bytes, if_neg (by omega), if_neg (by omega), volume, ← Nat.mul_assoc]
    by_cases hlarge : limit ≤ size * side.toNat
    · have hvolume : size * side.toNat ≤ size * side.toNat * volume rest :=
        Nat.le_mul_of_pos_right _ (volume_pos hrest)
      rw [if_pos hlarge, if_neg (by omega)]
    · rw [if_neg hlarge, ih hrest (by omega)]

theorem obstacle?_eq_none_iff (room : Room) (hpos : ∀ side ∈ sides, 0 < side)
    (hlength : sides.length ≤ maxDimensions) :
    obstacle? room sides = none ↔ volume sides < limit ∧ room (volume sides) = true := by
  have hzero : (0 : Int) ∉ sides := fun hmem => absurd (hpos 0 hmem) (by decide)
  have hbytes : bytes 1 sides = if volume sides < limit then .ok (volume sides)
      else .error .tooManyBytes := by
    simpa only [Nat.one_mul] using @bytes_of_pos sides hpos 1 (by decide)
  unfold obstacle?
  rw [if_neg (by omega), hbytes]
  by_cases hcount : sides.all isCountable
  · rw [hcount, if_neg (by decide)]
    by_cases hvolume : volume sides < limit
    · simp only [if_pos hvolume, hzero, false_or]
      split_ifs with hroom <;> simp [hvolume, hroom]
    · simp [hvolume]
  · -- A side that is too long makes the volume too large as well.
    rw [if_pos (by simpa using hcount)]
    refine iff_of_false nofun fun ⟨hvolume, _⟩ => ?_
    refine hcount (List.all_eq_true.mpr fun side hmem => ?_)
    have hside := hpos side hmem
    have hle := le_volume hpos hmem
    exact isCountable_iff.mpr ⟨by omega, by omega⟩

end Extent

def Color.components (c : Color) : List Int := [c.red.toNat, c.green.toNat, c.blue.toNat]

namespace Picture

variable {scale : Int} {palette : Palette} {screen : Screen}

end Picture

end Chip8
