import Chip8.Proofs.AssemblerText
import Chip8.Proofs.Loading

/-! The texts of a listing give back the image, up to the digit of 9XYN that is not shown. Words
that are listed with the same text are the same to every machine. -/
namespace Chip8

namespace Listing
open Instruction (decode)

def wordText (word : UInt16) : String :=
  (decode word.toNat).text?.getD ("DW 0x" ++ Numeral.hex 4 word.toNat)

def byteText (byte : UInt8) : String := "DB 0x" ++ Numeral.hex 2 byte.toNat

private theorem map_text_cons (start : Int) (high low : UInt8) (rest : List UInt8) :
    (ofBytes start (high :: low :: rest)).map Line.text =
      wordText (pack high low) :: (ofBytes (start + 2) rest).map Line.text :=
  rfl

private theorem map_text_single (start : Int) (byte : UInt8) :
    (ofBytes start [byte]).map Line.text = [byteText byte] :=
  rfl

/-- Images of one length, with the same words from the start on, and the same odd byte at the end.
Two words 9XYN count as the same. -/
structure Agree (image image' : List UInt8) : Prop where
  length_eq : image.length = image'.length
  words : ∀ k (_ : 2 * k + 1 < image.length) (_ : 2 * k + 1 < image'.length),
    (decode (pack image[2 * k] image[2 * k + 1]).toNat).Twins
      (decode (pack image'[2 * k] image'[2 * k + 1]).toNat)
  last : image.length % 2 = 1 → image.getLast? = image'.getLast?

private theorem isData_congr {v w : UInt16} (h : wordText v = wordText w) :
    (decode v.toNat).operation? = none ↔ (decode w.toNat).operation? = none := by
  have hkeyword (u : UInt16) : (Line.mk 0 u (wordText u)).keyword = "DW" ↔
      (decode u.toNat).operation? = none := by
    rw [wordText, Instruction.text?]
    cases (decode u.toNat).operation? with
    | none => simp [Line.keyword]
    | some op =>
      exact iff_of_false (keyword_operation 0 u (decode u.toNat) op).2.1 (Option.some_ne_none op)
  have hsame : (Line.mk 0 v (wordText v)).keyword = (Line.mk 0 w (wordText w)).keyword := by
    rw [Line.keyword, Line.keyword, h]
  rw [← hkeyword v, ← hkeyword w, hsame]

private theorem wordText_eq_iff (v w : UInt16) :
    wordText v = wordText w ↔ (decode v.toNat).Twins (decode w.toNat) := by
  constructor
  · intro h
    have hdata := isData_congr h
    cases hv : (decode v.toNat).operation? with
    | none =>
      have hw := hdata.mp hv
      simp only [wordText, Instruction.text?, hv, hw, Option.map_none, Option.getD_none] at h
      have hnumber := Numeral.hex_injective 4 ((String.append_right_inj _).mp h)
      exact .inl (congrArg decode hnumber)
    | some op =>
      cases hw : (decode w.toNat).operation? with
      | none =>
        rw [hdata.mpr hw] at hv
        cases hv
      | some other =>
        simp only [wordText, Instruction.text?, hv, hw, Option.map_some, Option.getD_some] at h
        exact Instruction.twins_of_text hv hw h
  · rintro (hsame | hskip)
    · have hword : v = w := by
        rw [← Instruction.word_decode v, hsame, Instruction.word_decode]
      rw [hword]
    · have hnamed := Instruction.operation?_skipUnequal_iff.mpr hskip.2.1
      have htext := Instruction.Twins.text? (.inr hskip)
      rw [wordText, wordText, htext, Instruction.text?, hnamed]
      rfl

example : wordText 0x9120 = wordText 0x912F := (wordText_eq_iff _ _).mpr (.inr (by decide))

private theorem wordText_ne_byteText (word : UInt16) (byte : UInt8) :
    wordText word ≠ byteText byte := by
  intro h
  have hword : (Line.mk 0 word (wordText word)).keyword ≠ "DB" := by
    rw [wordText, Instruction.text?]
    cases (decode word.toNat).operation? with
    | none => simp [Line.keyword]
    | some op => exact (keyword_operation 0 word (decode word.toNat) op).1
  apply hword
  rw [Line.keyword, h]
  exact keyword_byteLine 0 byte

private theorem byteText_injective : Function.Injective byteText := by
  intro a b h
  have hnumber := Numeral.hex_injective 2 ((String.append_right_inj _).mp h)
  exact UInt8.toNat_inj.mp (Int.natCast_inj.mp hnumber)

private theorem agree_cons {high low high' low' : UInt8} {rest rest' : List UInt8} :
    Agree (high :: low :: rest) (high' :: low' :: rest') ↔
      (decode (pack high low).toNat).Twins (decode (pack high' low').toNat) ∧ Agree rest rest' := by
  have hodd (a b : UInt8) (tail : List UInt8) (h : tail.length % 2 = 1) :
      (a :: b :: tail).getLast? = tail.getLast? := by
    cases tail with
    | nil => cases h
    | cons c tail => rw [List.getLast?_cons_cons, List.getLast?_cons_cons]
  constructor
  · intro h
    have hlength : rest.length = rest'.length := by simpa using h.length_eq
    refine ⟨?_, hlength, ?_, ?_⟩
    · exact h.words 0 (by simp) (by simp)
    · intro k hk hk'
      exact h.words (k + 1) (by simp; omega) (by simp; omega)
    · intro hrest
      have hlast := h.last ((Nat.add_mod_right _ 2).trans hrest)
      rwa [hodd _ _ _ hrest, hodd _ _ _ (hlength ▸ hrest)] at hlast
  · rintro ⟨hfirst, h⟩
    refine ⟨by simpa using h.length_eq, ?_, ?_⟩
    · intro k hk hk'
      cases k with
      | zero => exact hfirst
      | succ k =>
        simp only [List.length_cons] at hk hk'
        exact h.words k (by omega) (by omega)
    · intro hlength
      have hrest : rest.length % 2 = 1 := (Nat.add_mod_right _ 2).symm.trans hlength
      rw [hodd _ _ _ hrest, hodd _ _ _ (h.length_eq ▸ hrest)]
      exact h.last hrest

private theorem agree_nil : Agree [] [] := ⟨rfl, fun _ hk => absurd hk (Nat.not_lt_zero _), nofun⟩

private theorem agree_single {byte byte' : UInt8} : Agree [byte] [byte'] ↔ byte = byte' := by
  constructor
  · intro h
    simpa using h.last rfl
  · rintro rfl
    exact ⟨rfl, fun _ hk => absurd hk (by simp), fun _ => rfl⟩

/-- Two listings have the same texts if and only if their images agree. -/
theorem map_text_eq_iff (start start' : Int) (image image' : List UInt8) :
    (ofBytes start image).map Line.text = (ofBytes start' image').map Line.text ↔
      Agree image image' := by
  fun_induction ofBytes start image generalizing start' image' with
  | case1 start high low rest word text ih =>
    change wordText (pack high low) :: (ofBytes (start + 2) rest).map Line.text = _ ↔ _
    rcases image' with _ | ⟨high', _ | ⟨low', rest'⟩⟩
    · exact iff_of_false (List.cons_ne_nil _ _) fun h => by simpa using h.length_eq
    · rw [map_text_single]
      refine iff_of_false ?_ fun h => by simpa using h.length_eq
      exact fun h => wordText_ne_byteText _ _ (List.cons.inj h).1
    · rw [map_text_cons, List.cons_eq_cons, wordText_eq_iff, ih, agree_cons]
  | case2 start byte =>
    change [byteText byte] = _ ↔ _
    rcases image' with _ | ⟨byte', _ | ⟨low', rest'⟩⟩
    · exact iff_of_false (List.cons_ne_nil _ _) fun h => by simpa using h.length_eq
    · rw [map_text_single, List.cons_eq_cons, and_iff_left rfl, byteText_injective.eq_iff,
        agree_single]
    · rw [map_text_cons]
      refine iff_of_false ?_ fun h => by simpa using h.length_eq
      exact fun h => wordText_ne_byteText _ _ (List.cons.inj h).1.symm
  | case3 start =>
    rcases image' with _ | ⟨high', _ | ⟨low', rest'⟩⟩
    · exact iff_of_true rfl agree_nil
    · exact iff_of_false (List.cons_ne_nil _ _).symm fun h => by simpa using h.length_eq
    · exact iff_of_false (List.cons_ne_nil _ _).symm fun h => by simpa using h.length_eq

end Listing

namespace Machine
open Listing Instruction
variable {m : Machine} {v w : UInt16}

/-- The machine accepts both words or refuses them for the same reason, and accepted words have the
same effect. -/
structure Alike (m : Machine) (v w : UInt16) : Prop where
  verdict : ∀ address address' : Int,
    (m.check v.toNat address).map Fault.kind = (m.check w.toNat address').map Fault.kind
  effect : ∀ address : Int, m.check v.toNat address = none →
    dispatch (decode v.toNat) m = dispatch (decode w.toNat) m

private theorem alike_self (m : Machine) (v : UInt16) : m.Alike v v := by
  refine ⟨fun address address' => ?_, fun _ _ => rfl⟩
  rw [check_map_kind, check_map_kind]

private theorem alike_of_twins (h : (decode v.toNat).Twins (decode w.toNat)) : m.Alike v w := by
  obtain hsame | ⟨hv, hw, hx, hy⟩ := h
  · have hword : v = w := by rw [← word_decode v, hsame, word_decode]
    exact hword ▸ alike_self m v
  · have hskip {u : UInt16} (hu : (decode u.toNat).family = 0x9) :
        m.Admits (decode u.toNat) .skipUnequal :=
      .of_operation? (operation?_skipUnequal_iff.mpr hu) nofun nofun nofun
    have hvalid {u : UInt16} (hu : (decode u.toNat).family = 0x9) (address : Int) :
        m.check u.toNat address = none :=
      (check_eq_none_iff m _ address).mpr ((violation?_eq_none_iff_admits m u).mpr ⟨_, hskip hu⟩)
    refine ⟨fun address address' => ?_, fun _ _ => ?_⟩
    · rw [hvalid hv, hvalid hw]
    · rw [(hskip hv).dispatch, (hskip hw).dispatch]
      change skipIf (m.v.get _ != m.v.get _) m = skipIf (m.v.get _ != m.v.get _) m
      rw [hx, hy]

private theorem alike_of_text? (h : (decode v.toNat).text? = (decode w.toNat).text?) :
    m.Alike v w := by
  cases hv : (decode v.toNat).operation? with
  | none =>
    have hw : (decode w.toNat).operation? = none := by
      rw [text?, hv] at h
      exact Option.map_eq_none_iff.mp h.symm
    have hv' (address : Int) := (check_kind_iff m v address).1.mpr hv
    have hw' (address : Int) := (check_kind_iff m w address).1.mpr hw
    refine ⟨fun address address' => (hv' address).trans (hw' address').symm, ?_⟩
    intro address hcheck
    have hkind := hv' address
    rw [hcheck] at hkind
    cases hkind
  | some op =>
    cases hw : (decode w.toNat).operation? with
    | none =>
      rw [text?, hv, text?, hw] at h
      cases h
    | some other =>
      rw [text?, hv, text?, hw] at h
      exact alike_of_twins (twins_of_text hv hw (Option.some.inj h))

/-- A listing determines its image, up to the last digit of 9XYN, which is the only thing that its
texts do not show; and words with the same text are the same to every machine. -/
theorem listing_determines_image :
    (∀ (start start' : Int) (image image' : List UInt8),
      (ofBytes start image).map Line.text = (ofBytes start' image').map Line.text ↔
        Agree image image') ∧
    ∀ v w : UInt16,
      wordText v = wordText w ∨ (decode v.toNat).text? = (decode w.toNat).text? →
      ∀ m : Machine, m.Alike v w := by
  refine ⟨map_text_eq_iff, ?_⟩
  rintro v w (h | h) m
  · exact alike_of_twins ((wordText_eq_iff v w).mp h)
  · exact alike_of_text? h

end Machine
end Chip8
