import Chip8.Raster
import Chip8.Proofs.Parts

/-! Pictures as text. The text is cut at line breaks into rows and every row into pieces of one
size, which are the pixels, so the text determines the picture and its shape. -/
namespace Chip8

/-- Two texts that can stand for the pixels: as long as each other, so that a row can be cut, but
told apart, and never taken for the end of a row. -/
structure Glyphs (on off : String) : Prop where
  differ : on ≠ off
  length_eq : on.length = off.length
  on_row : '\n' ∉ on.toList
  off_row : '\n' ∉ off.toList

namespace Glyphs

def text (on off : String) (lit : Bool) : String := if lit then on else off

variable {on off : String}

private theorem length_text (h : Glyphs on off) (lit : Bool) :
    (text on off lit).length = on.length := by
  cases lit
  · exact h.length_eq.symm
  · rfl

theorem notMem_text (h : Glyphs on off) (lit : Bool) : '\n' ∉ (text on off lit).toList := by
  cases lit
  · exact h.off_row
  · exact h.on_row

private theorem text_inj (h : Glyphs on off) (lit lit' : Bool) :
    text on off lit = text on off lit' ↔ lit = lit' := by
  cases lit <;> cases lit' <;> simp [text, h.differ, h.differ.symm]

private theorem length_pos (h : Glyphs on off) : 0 < on.length := by
  -- Texts without a character cannot differ.
  refine Nat.pos_of_ne_zero fun hon => h.differ ?_
  have hoff : off.length = 0 := h.length_eq ▸ hon
  rw [String.length_eq_zero_iff.mp hon, String.length_eq_zero_iff.mp hoff]

end Glyphs

namespace Bitmap
variable {height width height' width' : Nat} {on off : String}

def rowText (on off : String) (row : Vector Bool width) : String :=
  String.join (row.toList.map (Glyphs.text on off))

private theorem toText_eq (p : Bitmap height width) :
    p.toText on off = (String.singleton '\n').intercalate (p.toList.map (rowText on off)) := rfl

private theorem toText_of_no_rows (p : Bitmap 0 width) : p.toText on off = "" := by
  rw [@Vector.eq_empty _ p]
  rfl

private theorem fields_toText (h : Glyphs on off) (hheight : 0 < height) (p : Bitmap height width) :
    Text.fields '\n' (p.toText on off) = p.toList.map (rowText on off) := by
  rw [toText_eq]
  refine Text.fields_intercalate ?_ ?_
  · refine List.forall_mem_map.mpr fun row _ hmark => ?_
    rw [rowText, String.toList_join] at hmark
    obtain ⟨glyph, hglyph, hmem⟩ := List.mem_flatMap.mp hmark
    obtain ⟨lit, -, rfl⟩ := List.mem_map.mp hglyph
    exact h.notMem_text lit hmem
  · refine List.ne_nil_of_length_pos ?_
    rwa [List.length_map, Vector.length_toList]

private theorem pieces_rowText (h : Glyphs on off) (row : Vector Bool width) :
    Text.pieces on.length (rowText on off row) = row.toList.map (Glyphs.text on off) :=
  Text.pieces_join h.length_pos (List.forall_mem_map.mpr fun lit _ => h.length_text lit)

private theorem length_rowText (h : Glyphs on off) (row : Vector Bool width) :
    (rowText on off row).length = width * on.length := by
  rw [rowText, Text.length_join (List.forall_mem_map.mpr fun lit _ => h.length_text lit),
    List.length_map, Vector.length_toList]

private theorem flat_eq_of_rows {p : Bitmap height width} {q : Bitmap height' width'}
    (hheight : 0 < height) (h : p.toList.map Vector.toList = q.toList.map Vector.toList) :
    Raster.flat p = Raster.flat q := by
  have hheights : height = height' := by simpa using congrArg List.length h
  subst hheights
  have hrows (y : Nat) (hy : y < height) : p[y].toList = q[y].toList := by
    have hrow := congrArg (·[y]?) h
    simpa [hy] using hrow
  have hwidths : width = width' := by simpa using congrArg List.length (hrows 0 hheight)
  subst hwidths
  rw [Vector.ext fun y hy => Vector.toList_inj.mp (hrows y hy)]

/-- A text with a pixel is that of no other picture. One without rows has the empty text, one
without columns only line breaks. -/
theorem flat_eq_of_toText (h : Glyphs on off) {p : Bitmap height width}
    {q : Bitmap height' width'} (hheight : 0 < height) (hwidth : 0 < width)
    (heq : q.toText on off = p.toText on off) : Raster.flat q = Raster.flat p := by
  have hfields : Text.fields '\n' (q.toText on off) = p.toList.map (rowText on off) := by
    rw [heq, fields_toText h hheight]
  have hheight' : 0 < height' := by
    refine Nat.pos_of_ne_zero fun hzero => ?_
    subst hzero
    have hrow : rowText on off p[0] ∈ Text.fields '\n' "" := by
      rw [← toText_of_no_rows q, hfields]
      exact List.mem_map_of_mem (by simp)
    have hlength := congrArg String.length (List.mem_singleton.mp hrow)
    rw [length_rowText h] at hlength
    exact absurd hlength (Nat.ne_of_gt (Nat.mul_pos hwidth h.length_pos))
  rw [fields_toText h hheight'] at hfields
  have hpieces := congrArg (List.map (Text.pieces on.length)) hfields
  simp only [List.map_map, Function.comp_def, pieces_rowText h] at hpieces
  refine flat_eq_of_rows hheight' ?_
  have hmap (lits lits' : List Bool) :
      lits.map (Glyphs.text on off) = lits'.map (Glyphs.text on off) → lits = lits' :=
    (List.map_inj_right fun lit lit' => (h.text_inj lit lit').mp).mp
  refine (List.map_inj_right hmap).mp ?_
  simpa only [List.map_map, Function.comp_def] using hpieces

/-- The text of a picture has a line for each row, and the lines are cut into the texts of the
pixels. No other picture of any shape has this text. -/
theorem text_shows_picture (h : Glyphs on off) (hheight : 0 < height) (hwidth : 0 < width)
    (p : Bitmap height width) :
    ∃ text, (Raster.flat p).toText on off = .ok text ∧
      (Text.fields '\n' text).length = height ∧
      (∀ (y : Nat) (hy : y < height), ∃ line, (Text.fields '\n' text)[y]? = some line ∧
        line.length = width * on.length ∧
        (Text.pieces on.length line).length = width ∧
        ∀ (x : Nat) (hx : x < width), ∃ piece, (Text.pieces on.length line)[x]? = some piece ∧
          (piece = on ↔ p[y][x] = true) ∧ (piece = off ↔ p[y][x] = false)) ∧
      ∀ {height' width' : Nat} (q : Bitmap height' width'),
        (Raster.flat q).toText on off = .ok text → Raster.flat q = Raster.flat p := by
  refine ⟨p.toText on off, rfl, ?_, fun y hy => ⟨rowText on off p[y], ?_, length_rowText h _, ?_,
    fun x hx => ⟨Glyphs.text on off p[y][x], ?_, ?_, ?_⟩⟩, fun q hq => ?_⟩
  · rw [fields_toText h hheight, List.length_map, Vector.length_toList]
  · rw [fields_toText h hheight]
    simp [hy]
  · rw [pieces_rowText h, List.length_map, Vector.length_toList]
  · rw [pieces_rowText h]
    simp [hx]
  · exact h.text_inj _ true
  · exact h.text_inj _ false
  · exact flat_eq_of_toText h hheight hwidth (Except.ok.inj hq)

theorem text_shows_picture_of_two_rows :
    Glyphs "##" ". " ∧ ∀ {height width : Nat} (q : Bitmap height width),
      (Raster.flat q).toText "##" ". " = .ok "##. ##\n. ####" →
        Raster.flat q = .flat #v[#v[true, false, true], #v[false, true, true]] := by
  have hglyphs : Glyphs "##" ". " := ⟨by decide, by decide, by decide, by decide⟩
  obtain ⟨text, htext, -, -, honly⟩ := text_shows_picture hglyphs (by decide) (by decide)
    #v[#v[true, false, true], #v[false, true, true]]
  have hliteral : text = "##. ##\n. ####" := (Except.ok.inj htext).symm.trans (by decide)
  exact ⟨hglyphs, fun q hq => honly q (hliteral ▸ hq)⟩

end Bitmap

end Chip8
