import Chip8.Text.Lines

/-! Texts that are put together from parts. A character that occurs in none of the parts marks where
one ends, so the parts are found again; line breaks are such marks for the lines of a text. Parts of
one size need no marks. -/
namespace Chip8.Text

/-- What stands before the first `mark`, and what stands behind it. -/
theorem cut_inj {mark : Char} {front back front' back' : List Char} (hfront : mark ∉ front)
    (hfront' : mark ∉ front') (h : front ++ mark :: back = front' ++ mark :: back') :
    front = front' ∧ back = back' := by
  induction front generalizing front' with
  | nil =>
    cases front' with
    | nil => exact ⟨rfl, (List.cons.inj h).2⟩
    | cons c front' => exact absurd ((List.cons.inj h).1 ▸ List.mem_cons_self) hfront'
  | cons c front ih =>
    cases front' with
    | nil => exact absurd ((List.cons.inj h).1 ▸ List.mem_cons_self) hfront
    | cons d front' =>
      obtain ⟨hc, htail⟩ := List.cons.inj h
      obtain ⟨hf, hb⟩ := ih (fun hm => hfront (List.mem_cons_of_mem _ hm))
        (fun hm => hfront' (List.mem_cons_of_mem _ hm)) htail
      exact ⟨by rw [hc, hf], hb⟩

/-- Joined parts are found again if they do not hold the first character of the separator. There has
to be one, since an empty part alone looks like none. -/
theorem intercalate_inj {separator : String} {mark : Char} {tail : List Char}
    (hseparator : separator.toList = mark :: tail) {parts parts' : List String}
    (hparts : ∀ part ∈ parts, mark ∉ part.toList) (hparts' : ∀ part ∈ parts', mark ∉ part.toList)
    (hne : parts ≠ []) (hne' : parts' ≠ [])
    (h : separator.intercalate parts = separator.intercalate parts') : parts = parts' := by
  have hchars := congrArg String.toList h
  rw [String.toList_intercalate, String.toList_intercalate, hseparator] at hchars
  clear h
  induction parts generalizing parts' with
  | nil => exact absurd rfl hne
  | cons part rest ih =>
    obtain ⟨part', rest', rfl⟩ := List.exists_cons_of_ne_nil hne'
    obtain ⟨hpart, hrest⟩ := List.forall_mem_cons.mp hparts
    obtain ⟨hpart', hrest'⟩ := List.forall_mem_cons.mp hparts'
    cases rest with
    | nil =>
      cases rest' with
      | nil =>
        simp only [List.map_cons, List.map_nil, List.intercalate_singleton] at hchars
        rw [String.toList_inj.mp hchars]
      | cons next' rest' =>
        simp only [List.map_cons, List.map_nil, List.intercalate_singleton,
          List.intercalate_cons_cons] at hchars
        exact absurd (by simp [hchars]) hpart
    | cons next rest =>
      cases rest' with
      | nil =>
        simp only [List.map_cons, List.map_nil, List.intercalate_singleton,
          List.intercalate_cons_cons] at hchars
        exact absurd (by simp [← hchars]) hpart'
      | cons next' rest' =>
        simp only [List.map_cons, List.intercalate_cons_cons, List.append_assoc,
          List.cons_append] at hchars
        obtain ⟨hfirst, hback⟩ := cut_inj hpart hpart' hchars
        have hothers := ih hrest hrest' (List.cons_ne_nil _ _) (List.cons_ne_nil _ _)
          (List.append_cancel_left hback)
        rw [String.toList_inj.mp hfirst, hothers]

def fields (mark : Char) (text : String) : List String :=
  (text.toList.splitOn mark).map String.ofList

/-- The text cut into pieces of this size. A rest that is shorter is none of them. -/
def pieces (size : Nat) (text : String) : List String :=
  (List.range (text.length / size)).map fun k =>
    String.ofList ((text.toList.drop (k * size)).take size)

theorem fields_intercalate {mark : Char} {parts : List String}
    (h : ∀ part ∈ parts, mark ∉ part.toList) (hne : parts ≠ []) :
    fields mark ((String.singleton mark).intercalate parts) = parts := by
  have hsplit : ([mark].intercalate (parts.map String.toList)).splitOn mark =
      parts.map String.toList :=
    List.splitOn_intercalate mark (List.forall_mem_map.mpr h) (mt List.map_eq_nil_iff.mp hne)
  rw [fields, String.toList_intercalate, String.toList_singleton, hsplit, List.map_map]
  simp [Function.comp_def]

theorem length_join {size : Nat} {parts : List String}
    (h : ∀ part ∈ parts, part.length = size) :
    (String.join parts).length = parts.length * size := by
  rw [String.length_join, List.map_congr_left h, List.map_const', List.sum_replicate_nat]

private theorem piece_join {size : Nat} {parts : List String}
    (h : ∀ part ∈ parts, part.length = size) {k : Nat} (hk : k < parts.length) :
    ((parts.flatMap String.toList).drop (k * size)).take size = parts[k].toList := by
  induction parts generalizing k with
  | nil => cases hk
  | cons part rest ih =>
    obtain ⟨hpart, hrest⟩ := List.forall_mem_cons.mp h
    rw [← String.length_toList] at hpart
    rw [List.flatMap_cons]
    cases k with
    | zero =>
      rw [Nat.zero_mul, List.drop_zero, List.take_left' hpart]
      rfl
    | succ k =>
      rw [Nat.succ_mul, Nat.add_comm, ← hpart, List.drop_length_add_append, hpart]
      exact ih hrest (Nat.lt_of_succ_lt_succ hk)

/-- Joined parts of one size are found again by it. -/
theorem pieces_join {size : Nat} {parts : List String} (hsize : 0 < size)
    (h : ∀ part ∈ parts, part.length = size) :
    pieces size (String.join parts) = parts := by
  have hcount : (String.join parts).length / size = parts.length := by
    rw [length_join h, Nat.mul_div_cancel _ hsize]
  refine List.ext_getElem (by rw [pieces, List.length_map, List.length_range, hcount])
    fun k _ hk => ?_
  simp only [pieces, List.getElem_map, List.getElem_range, String.toList_join, piece_join h hk,
    String.ofList_toList]

/-- No character of the text ends a line. -/
def Unbroken (text : List Char) : Prop := ∀ c ∈ text, isLineBreak c = false

instance (text : List Char) : Decidable (Unbroken text) :=
  -- Named, since a search may go over all characters instead.
  List.decidableBAll (fun c => isLineBreak c = false) text

theorem unbroken_append {front back : List Char} :
    Unbroken (front ++ back) ↔ Unbroken front ∧ Unbroken back :=
  List.forall_mem_append

theorem unbroken_cons {c : Char} {text : List Char} :
    Unbroken (c :: text) ↔ isLineBreak c = false ∧ Unbroken text :=
  List.forall_mem_cons

theorem unbroken_nil : Unbroken [] := List.forall_mem_nil _

private theorem cutLine_cons {c : Char} (h : isLineBreak c = false) (text : List Char) :
    cutLine (c :: text) = (cutLine text).map (c :: ·) id := by
  rw [cutLine]
  · rw [h]
    rfl
  · rintro rest rfl -
    cases h

private theorem cutLine_of_unbroken {line : List Char} (h : Unbroken line) :
    cutLine line = (line, none) := by
  induction line with
  | nil => rfl
  | cons c line ih =>
    obtain ⟨hc, hline⟩ := unbroken_cons.mp h
    rw [cutLine_cons hc, ih hline]
    rfl

private theorem cutLine_append {line : List Char} (h : Unbroken line) (rest : List Char) :
    cutLine (line ++ '\n' :: rest) = (line, some rest) := by
  induction line with
  | nil => rfl
  | cons c line ih =>
    obtain ⟨hc, hline⟩ := unbroken_cons.mp h
    rw [List.cons_append, cutLine_cons hc, ih hline]
    rfl

private theorem splitLines_of_unbroken {line : List Char} (h : Unbroken line) (hne : line ≠ []) :
    splitLines line = [line] := by
  have hcut := cutLine_of_unbroken h
  rw [splitLines, if_neg hne]
  split
  · rw [hcut]
  · rename_i rest hrest
    rw [hcut] at hrest
    cases hrest

private theorem splitLines_append {line : List Char} (h : Unbroken line) (rest : List Char) :
    splitLines (line ++ '\n' :: rest) = line :: splitLines rest := by
  have hcut := cutLine_append h rest
  rw [splitLines, if_neg (List.append_ne_nil_of_right_ne_nil _ (List.cons_ne_nil _ _))]
  split
  · rename_i hnone
    rw [hcut] at hnone
    cases hnone
  · rename_i tail htail
    rw [hcut] at htail
    cases htail
    rw [hcut]

/-- An empty last line would be lost, since a break at the very end opens no further line. -/
theorem splitLines_intercalate {lines : List (List Char)} (h : ∀ line ∈ lines, Unbroken line)
    (hlast : lines.getLast? ≠ some []) : splitLines (['\n'].intercalate lines) = lines := by
  induction lines with
  | nil =>
    rw [List.intercalate_nil, splitLines]
    rfl
  | cons line rest ih =>
    obtain ⟨hline, hrest⟩ := List.forall_mem_cons.mp h
    cases rest with
    | nil =>
      rw [List.intercalate_singleton]
      exact splitLines_of_unbroken hline fun hnil => hlast (congrArg some hnil)
    | cons next rest =>
      rw [List.getLast?_cons_cons] at hlast
      rw [List.intercalate_cons_cons, List.append_assoc, List.singleton_append,
        splitLines_append hline, ih hrest hlast]

theorem lines_intercalate {lines : List String} (h : ∀ line ∈ lines, Unbroken line.toList)
    (hlast : lines.getLast? ≠ some "") : Text.lines ("\n".intercalate lines) = lines := by
  have hsplit : splitLines (['\n'].intercalate (lines.map String.toList)) =
      lines.map String.toList := by
    refine splitLines_intercalate ?_ ?_
    · intro line hline
      obtain ⟨s, hs, rfl⟩ := List.mem_map.mp hline
      exact h s hs
    · rw [List.getLast?_map]
      intro hnil
      obtain ⟨s, hs, hempty⟩ := Option.map_eq_some_iff.mp hnil
      exact hlast (String.toList_eq_nil_iff.mp hempty ▸ hs)
  rw [Text.lines, String.toList_intercalate]
  change (splitLines (['\n'].intercalate (lines.map String.toList))).map String.ofList = lines
  rw [hsplit, List.map_map]
  simp [Function.comp_def]

theorem unbroken_intercalate {separator : String} {parts : List String}
    (hseparator : Unbroken separator.toList) (h : ∀ part ∈ parts, Unbroken part.toList) :
    Unbroken (separator.intercalate parts).toList := by
  rw [String.toList_intercalate]
  induction parts with
  | nil => exact unbroken_nil
  | cons part rest ih =>
    obtain ⟨hpart, hrest⟩ := List.forall_mem_cons.mp h
    cases rest with
    | nil =>
      rw [List.map_cons, List.map_nil, List.intercalate_singleton]
      exact hpart
    | cons next rest =>
      rw [List.map_cons, List.map_cons, List.intercalate_cons_cons]
      exact unbroken_append.mpr ⟨unbroken_append.mpr ⟨hpart, hseparator⟩, ih hrest⟩

end Chip8.Text
