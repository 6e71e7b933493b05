import Chip8.Proofs.Chart
import Chip8.Proofs.Readback

/-! Assembler text taken apart into a keyword and operands. Both can be read off the text, and
together they tell the operation and its digits, but for the one digit that is not shown. -/
namespace Chip8

inductive Operand where
  | register (r : Fin 16)
  | byte (y n : Fin 16)
  | target (x y n : Fin 16)
  | height (n : Fin 16)
  | index | atIndex | delay | sound | key | glyph | decimals
  deriving DecidableEq, Repr

namespace Operand
open Operation (digitText)

def text : Operand → String
  | register r => "V" ++ digitText r
  | byte y n => "0x" ++ digitText y ++ digitText n
  | target x y n => "0x" ++ digitText x ++ digitText y ++ digitText n
  | height n => Numeral.decimal n
  | index => "I"
  | atIndex => "[I]"
  | delay => "DT"
  | sound => "ST"
  | key => "K"
  | glyph => "F"
  | decimals => "B"

def digitOf (c : Char) : Fin 16 := Fin.ofNat 16 (Numeral.digitValue c)

def digitAt (row : List Char) (k : Nat) : Fin 16 := digitOf (row.getD k '0')

def bare : List Operand := [index, atIndex, delay, sound, key, glyph, decimals]

def read (row : List Char) : Operand :=
  if row.all (· ∈ Numeral.alphabet 10) then height (Fin.ofNat 16 (Numeral.value 10 row))
  else if row.head? = some 'V' then register (digitAt row 1)
  else if row.length = 4 then byte (digitAt row 2) (digitAt row 3)
  else if row.length = 5 then target (digitAt row 2) (digitAt row 3) (digitAt row 4)
  else (bare.find? fun a => a.text.toList = row).getD index

private theorem digitOf_digit (d : Fin 16) : digitOf (Numeral.digit d) = d := by
  revert d
  decide

private theorem toList_digitText (d : Fin 16) : (digitText d).toList = [Numeral.digit d] :=
  String.toList_singleton (Numeral.digit d)

private theorem not_decimal {c : Char} {row : List Char} (hmem : c ∈ row)
    (h : c ∉ Numeral.alphabet 10) : ¬ row.all (· ∈ Numeral.alphabet 10) = true :=
  fun hall => h (of_decide_eq_true (List.all_eq_true.mp hall c hmem))

private theorem read_text (a : Operand) : read a.text.toList = a := by
  cases a with
  | register r =>
    have hrow : (register r).text.toList = ['V', Numeral.digit r] := by
      simp [text, toList_digitText]
    rw [hrow, read, if_neg (not_decimal List.mem_cons_self (by decide))]
    simp [digitAt, digitOf_digit]
  | byte y n =>
    have hrow : (byte y n).text.toList = ['0', 'x', Numeral.digit y, Numeral.digit n] := by
      simp [text, toList_digitText]
    have hx : 'x' ∈ ['0', 'x', Numeral.digit y, Numeral.digit n] := by simp
    rw [hrow, read, if_neg (not_decimal hx (by decide))]
    simp [digitAt, digitOf_digit]
  | target x y n =>
    have hrow : (target x y n).text.toList =
        ['0', 'x', Numeral.digit x, Numeral.digit y, Numeral.digit n] := by
      simp [text, toList_digitText]
    have hx : 'x' ∈ ['0', 'x', Numeral.digit x, Numeral.digit y, Numeral.digit n] := by simp
    rw [hrow, read, if_neg (not_decimal hx (by decide))]
    simp [digitAt, digitOf_digit]
  | height n =>
    have hrow : (Numeral.decimal n.val).toList = Numeral.digits 10 n.val := by
      rw [Numeral.decimal, String.toList_ofList, Numeral.sign, if_neg (by omega)]
      rfl
    have hdigits : (Numeral.decimal n.val).toList.all (· ∈ Numeral.alphabet 10) = true :=
      List.all_eq_true.mpr fun c hc => decide_eq_true (Numeral.mem_decimal hc)
    rw [text, read, if_pos hdigits, hrow, Numeral.value_digits (by decide) (by decide)]
    exact congrArg height (Fin.ofNat_val_eq_self n)
  | _ => decide

private theorem text_injective : Function.Injective text := by
  intro a b h
  rw [← read_text a, h, read_text]

private theorem mem_digitText {c : Char} {d : Fin 16} (h : c ∈ (digitText d).toList) :
    c ∈ Numeral.alphabet 16 := by
  rw [toList_digitText, List.mem_singleton] at h
  subst h
  revert d
  decide

/-- Blanks and commas stand between operands only. -/
theorem notMem_text (a : Operand) : ' ' ∉ a.text.toList ∧ ',' ∉ a.text.toList := by
  have hdigit (d : Fin 16) : ' ' ∉ (digitText d).toList ∧ ',' ∉ (digitText d).toList :=
    ⟨mt mem_digitText (by decide), mt mem_digitText (by decide)⟩
  cases a with
  | height n => exact ⟨mt Numeral.mem_decimal (by decide), mt Numeral.mem_decimal (by decide)⟩
  | _ => simp [text, hdigit]

def erase : Operand → Operand
  | register _ => register 0
  | byte _ _ => byte 0 0
  | target _ _ _ => target 0 0 0
  | height _ => height 0
  | other => other

end Operand

@[ext]
structure Phrase where
  keyword : String
  operands : List Operand
  deriving DecidableEq, Repr

namespace Phrase

/-- A blank behind the keyword, and a comma with a blank between two operands. -/
def text (p : Phrase) : String :=
  if p.operands = [] then p.keyword
  else p.keyword ++ " " ++ ", ".intercalate (p.operands.map Operand.text)

private theorem toList_text {p : Phrase} (h : p.operands ≠ []) : p.text.toList =
    p.keyword.toList ++ ' ' :: (", ".intercalate (p.operands.map Operand.text)).toList := by
  rw [text, if_neg h]
  simp

private theorem notMem_parts (operands : List Operand) :
    ∀ part ∈ operands.map Operand.text, ',' ∉ part.toList := by
  intro part hpart
  obtain ⟨a, -, rfl⟩ := List.mem_map.mp hpart
  exact a.notMem_text.2

private theorem eq_of_text {p q : Phrase} (hp : ' ' ∉ p.keyword.toList)
    (hq : ' ' ∉ q.keyword.toList) (h : p.text = q.text) : p = q := by
  -- The first blank ends the keyword, and the commas part the operands.
  have hchars := congrArg String.toList h
  by_cases hp0 : p.operands = []
  · by_cases hq0 : q.operands = []
    · rw [text, if_pos hp0, text, if_pos hq0] at h
      exact Phrase.ext h (hp0.trans hq0.symm)
    · have hkeyword : p.text = p.keyword := if_pos hp0
      rw [hkeyword, toList_text hq0] at hchars
      exact absurd (hchars ▸ List.mem_append_right _ List.mem_cons_self) hp
  · by_cases hq0 : q.operands = []
    · have hkeyword : q.text = q.keyword := if_pos hq0
      rw [hkeyword, toList_text hp0] at hchars
      exact absurd (hchars ▸ List.mem_append_right _ List.mem_cons_self) hq
    · rw [toList_text hp0, toList_text hq0] at hchars
      obtain ⟨hkeyword, hoperands⟩ := Text.cut_inj hp hq hchars
      have htexts := Text.intercalate_inj rfl (notMem_parts p.operands) (notMem_parts q.operands)
        (mt List.map_eq_nil_iff.mp hp0) (mt List.map_eq_nil_iff.mp hq0)
        (String.toList_inj.mp hoperands)
      have hsame := (List.map_inj_right fun _ _ heq => Operand.text_injective heq).mp htexts
      exact Phrase.ext (String.toList_inj.mp hkeyword) hsame

def erase (p : Phrase) : Phrase := ⟨p.keyword, p.operands.map Operand.erase⟩

end Phrase

namespace Operation
open Operand

def phrase (i : Instruction) : Operation → Phrase
  | clear => ⟨"CLS", []⟩
  | ret => ⟨"RET", []⟩
  | machineCall => ⟨"SYS", [.target i.x i.y i.n]⟩
  | jump => ⟨"JP", [.target i.x i.y i.n]⟩
  | call => ⟨"CALL", [.target i.x i.y i.n]⟩
  | skipEqualByte => ⟨"SE", [.register i.x, .byte i.y i.n]⟩
  | skipUnequalByte => ⟨"SNE", [.register i.x, .byte i.y i.n]⟩
  | skipEqual => ⟨"SE", [.register i.x, .register i.y]⟩
  | loadByte => ⟨"LD", [.register i.x, .byte i.y i.n]⟩
  | addByte => ⟨"ADD", [.register i.x, .byte i.y i.n]⟩
  | copy => ⟨"LD", [.register i.x, .register i.y]⟩
  | or => ⟨"OR", [.register i.x, .register i.y]⟩
  | and => ⟨"AND", [.register i.x, .register i.y]⟩
  | xor => ⟨"XOR", [.register i.x, .register i.y]⟩
  | add => ⟨"ADD", [.register i.x, .register i.y]⟩
  | subtract => ⟨"SUB", [.register i.x, .register i.y]⟩
  | shiftRight => ⟨"SHR", [.register i.x, .register i.y]⟩
  | subtractFrom => ⟨"SUBN", [.register i.x, .register i.y]⟩
  | shiftLeft => ⟨"SHL", [.register i.x, .register i.y]⟩
  | skipUnequal => ⟨"SNE", [.register i.x, .register i.y]⟩
  | loadIndex => ⟨"LD", [.index, .target i.x i.y i.n]⟩
  | jumpOffset => ⟨"JP", [.register 0, .target i.x i.y i.n]⟩
  | random => ⟨"RND", [.register i.x, .byte i.y i.n]⟩
  | draw => ⟨"DRW", [.register i.x, .register i.y, .height i.n]⟩
  | skipPressed => ⟨"SKP", [.register i.x]⟩
  | skipReleased => ⟨"SKNP", [.register i.x]⟩
  | readDelay => ⟨"LD", [.register i.x, .delay]⟩
  | waitKey => ⟨"LD", [.register i.x, .key]⟩
  | setDelay => ⟨"LD", [.delay, .register i.x]⟩
  | setSound => ⟨"LD", [.sound, .register i.x]⟩
  | addIndex => ⟨"ADD", [.index, .register i.x]⟩
  | glyph => ⟨"LD", [.glyph, .register i.x]⟩
  | digits => ⟨"LD", [.decimals, .register i.x]⟩
  | store => ⟨"LD", [.atIndex, .register i.x]⟩
  | load => ⟨"LD", [.register i.x, .atIndex]⟩

private theorem text_phrase (i : Instruction) (op : Operation) :
    (op.phrase i).text = op.text i := by
  apply String.toList_inj.mp
  cases op <;> simp [phrase, Phrase.text, text, Operand.text, register, byte, target, digitText,
    Numeral.digit]

private theorem keyword_notMem (i : Instruction) (op : Operation) :
    ' ' ∉ (op.phrase i).keyword.toList := by
  cases op <;> simp [phrase]

private theorem erase_phrase (i j : Instruction) (op : Operation) :
    (op.phrase i).erase = (op.phrase j).erase := by
  cases op <;> rfl

private theorem eq_of_erase_phrase {op other : Operation} {i : Instruction}
    (h : (op.phrase i).erase = (other.phrase i).erase) : op = other := by
  have hrows : ∀ row ∈ chart, ∀ row' ∈ chart,
      (row.2.phrase ⟨0, 0, 0, 0⟩).erase = (row'.2.phrase ⟨0, 0, 0, 0⟩).erase → row.2 = row'.2 := by
    decide
  refine hrows _ op.pattern_mem_chart _ other.pattern_mem_chart ?_
  rw [erase_phrase _ i op, erase_phrase _ i other, h]

end Operation

namespace Instruction
variable {i j : Instruction} {op other : Operation}

/-- The same instruction, or two words 9XYN that differ in their last digit only. -/
def Twins (i j : Instruction) : Prop :=
  i = j ∨ (i.family = 0x9 ∧ j.family = 0x9 ∧ i.x = j.x ∧ i.y = j.y)

private theorem twins_of_phrase (hi : op.pattern.fill i = i) (hj : op.pattern.fill j = j)
    (h : op.phrase i = op.phrase j) : i.Twins j := by
  rw [← hi, ← hj]
  obtain ⟨f, x, y, n⟩ := i
  obtain ⟨f', x', y', n'⟩ := j
  -- A line shows all digits that the row of its operation leaves open, up to the last one of 9XYN.
  cases op with
  | skipUnequal =>
    cases h
    exact .inr ⟨rfl, rfl, rfl, rfl⟩
  | _ =>
    cases h
    exact .inl rfl

theorem twins_of_text (hi : i.operation? = some op) (hj : j.operation? = some other)
    (h : op.text i = other.text j) : i.Twins j := by
  rw [← Operation.text_phrase, ← Operation.text_phrase] at h
  have hphrase := Phrase.eq_of_text (op.keyword_notMem i) (other.keyword_notMem j) h
  have hop : op = other := by
    apply Operation.eq_of_erase_phrase (i := i)
    rw [hphrase, other.erase_phrase j i]
  subst hop
  exact twins_of_phrase (fill_of_operation? hi) (fill_of_operation? hj) hphrase

theorem operation?_skipUnequal_iff : i.operation? = some .skipUnequal ↔ i.family = 0x9 :=
  operation?_iff_family nofun rfl

theorem Twins.text? (h : i.Twins j) : i.text? = j.text? := by
  obtain rfl | ⟨hi, hj, hx, hy⟩ := h
  · rfl
  · have htext : Operation.text i .skipUnequal = Operation.text j .skipUnequal := by
      simp only [Operation.text, hx, hy]
    simp only [Instruction.text?, operation?_skipUnequal_iff.mpr hi,
      operation?_skipUnequal_iff.mpr hj, Option.map_some, htext]

end Instruction
end Chip8
