import Chip8.Effect.Dispatch

/-! Draws pixel by pixel: what the rows of a sprite light, and what becomes of the display and of
the flag register. -/
namespace Chip8

namespace Bitmap
variable {height width : Nat} {dots : List (Dot height width)}

def Dot.place (dot : Dot height width) : Fin height × Fin width := (dot.row, dot.column)

private theorem put_row_self (picture : Bitmap height width) (dot : Dot height width) :
    (picture.put dot).get dot.row =
      (picture.get dot.row).set dot.column dot.lit dot.column.isLt :=
  Vector.getElem_set_self ..

private theorem put_pixel_self (picture : Bitmap height width) (dot : Dot height width) :
    ((picture.put dot).get dot.row).get dot.column = dot.lit := by
  rw [put_row_self]
  exact Vector.getElem_set_self ..

private theorem put_pixel_of_ne (picture : Bitmap height width) {dot : Dot height width}
    {row : Fin height} {column : Fin width} (h : dot.place ≠ (row, column)) :
    ((picture.put dot).get row).get column = (picture.get row).get column := by
  by_cases hrow : dot.row = row
  · subst hrow
    have hcolumn : dot.column.val ≠ column := fun heq => h (Prod.ext rfl (Fin.ext heq))
    rw [put_row_self]
    exact Vector.getElem_set_ne _ _ hcolumn
  · have hrow : dot.row.val ≠ row := fun heq => hrow (Fin.ext heq)
    exact congrArg (Vector.get · column) (Vector.getElem_set_ne _ _ hrow)

private theorem scatter_pixel_of_notMem (picture : Bitmap height width) {row : Fin height}
    {column : Fin width} (h : (row, column) ∉ dots.map Dot.place) :
    ((picture.scatter dots).get row).get column = (picture.get row).get column := by
  induction dots generalizing picture with
  | nil => rfl
  | cons dot rest ih =>
    obtain ⟨hne, hrest⟩ := not_or.mp (mt List.mem_cons.mpr h)
    exact (ih _ hrest).trans (put_pixel_of_ne picture (Ne.symm hne))

private theorem scatter_pixel_of_mem (hplaces : (dots.map Dot.place).Nodup)
    (picture : Bitmap height width) {dot : Dot height width} (h : dot ∈ dots) :
    ((picture.scatter dots).get dot.row).get dot.column = dot.lit := by
  induction dots generalizing picture with
  | nil => cases h
  | cons first rest ih =>
    obtain ⟨hfirst, hrest⟩ := List.nodup_cons.mp hplaces
    rcases List.mem_cons.mp h with rfl | h
    · exact (scatter_pixel_of_notMem _ hfirst).trans (put_pixel_self picture dot)
    · exact ih hrest _ h

end Bitmap

namespace Sprite

private theorem nodup_cells : cells.Nodup := by decide +kernel

private theorem mem_cells (cell : Fin 16 × Fin 8) : cell ∈ cells := by
  exact List.mem_flatMap_of_mem (List.mem_finRange _) (List.mem_map_of_mem (List.mem_finRange _))

private theorem nodup_places (memory : Memory) (a height x y : Nat) :
    ((cells.map (dot memory a height x y)).map Bitmap.Dot.place).Nodup := by
  -- The block is smaller than the screen, so that running round the edges it does not meet itself.
  rw [List.map_map]
  refine List.pairwise_map.mpr (nodup_cells.imp fun {cell other} hne h => hne ?_)
  obtain ⟨hrow, hcolumn⟩ := Prod.mk.inj h
  have hrow : (y + cell.1) % 32 = (y + other.1) % 32 := congrArg Fin.val hrow
  have hcolumn : (x + cell.2) % 64 = (x + other.2) % 64 := congrArg Fin.val hcolumn
  exact Prod.ext (by omega) (by omega)

end Sprite

/-- No cell of the block is written twice, so the rows that a sprite does not have leave its own
rows as they are: a pixel is lit by one bit of the sprite or by none. -/
theorem Memory.sprite_pixel (memory : Memory) {height : Nat} (hheight : height ≤ 16) (a x y : Nat)
    (row : Fin 32) (column : Fin 64) :
    (memory.sprite a height x y)[row][column] = true ↔
      ∃ r < height, ∃ c < 8, (y + r) % 32 = row ∧ (x + c) % 64 = column ∧
        (memory.read (a + r)).toNat.testBit (7 - c) = true := by
  have hplaces := Sprite.nodup_places memory a height x y
  constructor
  · intro hlit
    by_cases hmem : (row, column) ∈
        (Sprite.cells.map (Sprite.dot memory a height x y)).map Bitmap.Dot.place
    · obtain ⟨dot, hdot, hplace⟩ := List.mem_map.mp hmem
      obtain ⟨⟨r, c⟩, -, rfl⟩ := List.mem_map.mp hdot
      obtain ⟨rfl, rfl⟩ := Prod.mk.inj hplace
      have hbit := (Bitmap.scatter_pixel_of_mem hplaces Bitmap.blank hdot).symm.trans hlit
      obtain ⟨hr, hbit⟩ := Bool.and_eq_true_iff.mp hbit
      exact ⟨r, of_decide_eq_true hr, c, c.isLt, rfl, rfl, hbit⟩
    · have hblank := (Bitmap.scatter_pixel_of_notMem Bitmap.blank hmem).symm.trans hlit
      have hoff : ((Bitmap.blank : Screen).get row).get column = false :=
        Bitmap.blank_pixel row.isLt column.isLt
      exact absurd (hoff.symm.trans hblank) Bool.false_ne_true
  · rintro ⟨r, hr, c, hc, hrow, hcolumn, hbit⟩
    have hdot := List.mem_map_of_mem (f := Sprite.dot memory a height x y)
      (Sprite.mem_cells (⟨r, by omega⟩, ⟨c, hc⟩))
    obtain rfl : Fin.ofNat 32 (y + r) = row := Fin.ext hrow
    obtain rfl : Fin.ofNat 64 (x + c) = column := Fin.ext hcolumn
    refine (Bitmap.scatter_pixel_of_mem hplaces Bitmap.blank hdot).trans ?_
    exact Bool.and_eq_true_iff.mpr ⟨decide_eq_true hr, hbit⟩

namespace Machine

/-- The sprite of the word DXYN lights this pixel: row `r` of the sprite is the byte at the index
plus `r`, and its column `c` is the bit that counts `2 ^ (7 - c)`. -/
def Lights (m : Machine) (x y n : Fin 16) (row column : Nat) : Prop :=
  ∃ r < n.val, ∃ c < 8, ((m.v.get y).toNat + r) % 32 = row ∧
    ((m.v.get x).toNat + c) % 64 = column ∧
    (m.memory.get (Address.ofNat (m.i.toNat + r))).toNat.testBit (7 - c) = true

instance (m : Machine) (x y n : Fin 16) (row column : Nat) :
    Decidable (m.Lights x y n row column) :=
  inferInstanceAs (Decidable (∃ r < n.val, ∃ c < 8, _))

def Collides (m : Machine) (x y n : Fin 16) : Prop :=
  ∃ (row : Fin 32) (column : Fin 64),
    m.display[row][column] = true ∧ m.Lights x y n row column

instance (m : Machine) (x y n : Fin 16) : Decidable (m.Collides x y n) :=
  inferInstanceAs (Decidable (∃ (_ : Fin 32) (_ : Fin 64), _))

def spriteOf (m : Machine) (x y n : Fin 16) : Screen :=
  m.memory.sprite m.i.toNat n (m.v.get x).toNat (m.v.get y).toNat

theorem spriteOf_pixel (m : Machine) (x y n : Fin 16) (row : Fin 32) (column : Fin 64) :
    (m.spriteOf x y n)[row][column] = decide (m.Lights x y n row column) := by
  refine Bool.eq_iff_iff.mpr ?_
  refine (Memory.sprite_pixel _ (by omega) _ _ _ row column).trans ?_
  rw [decide_eq_true_iff]
  rfl

private theorem meets_spriteOf_iff (m : Machine) (x y n : Fin 16) :
    m.display.meets (m.spriteOf x y n) = true ↔ m.Collides x y n := by
  refine (Bitmap.meets_iff _ _).trans ⟨?_, ?_⟩
  · rintro ⟨row, hrow, column, hcolumn, hlit, hsprite⟩
    refine ⟨⟨row, hrow⟩, ⟨column, hcolumn⟩, hlit, ?_⟩
    exact of_decide_eq_true ((m.spriteOf_pixel x y n _ _).symm.trans hsprite)
  · rintro ⟨row, column, hlit, hlights⟩
    refine ⟨row, row.isLt, column, column.isLt, hlit, ?_⟩
    exact (m.spriteOf_pixel x y n row column).trans (decide_eq_true hlights)

/-- The effect of the word DXYN as a whole. -/
theorem dispatch_draw (m : Machine) (x y n : Fin 16) :
    dispatch ⟨0xD, x, y, n⟩ m = { m with
      display := m.display.xor (m.spriteOf x y n)
      v := Digit.put m.v 0xF (if m.Collides x y n then 1 else 0) } := by
  simp only [← meets_spriteOf_iff]
  rfl

/-- A word DXYN flips the pixels that its sprite lights. The sprite is placed by VX and VY as they
were before, also where one of them is VF, which then tells whether a lit pixel was turned off. All
else stays as it was. -/
theorem draw_flips_lit_pixels (m : Machine) (x y n : Fin 16) :
    let next := dispatch (Instruction.decode (Instruction.word ⟨0xD, x, y, n⟩).toNat) m
    (∀ (row : Fin 32) (column : Fin 64), next.display[row][column] =
      (m.display[row][column] ^^ decide (m.Lights x y n row column))) ∧
    next.v.get 0xF = (if m.Collides x y n then 1 else 0) ∧
    (∀ k, k ≠ 0xF → next.v.get k = m.v.get k) ∧
    next = { m with display := next.display, v := next.v } := by
  intro next
  have hnext : next = dispatch ⟨0xD, x, y, n⟩ m :=
    congrArg (dispatch · m) (Instruction.decode_word _)
  rw [dispatch_draw] at hnext
  refine ⟨fun row column => ?_, ?_, fun k hk => ?_, ?_⟩
  · rw [hnext, ← spriteOf_pixel]
    exact Bitmap.xor_pixel _ _ row.isLt column.isLt
  · rw [hnext]
    exact Digit.get_put ..
  · rw [hnext]
    exact Digit.get_put_of_ne _ _ hk
  · rw [hnext]

end Machine
end Chip8
