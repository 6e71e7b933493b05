import Chip8.Numeral
import Chip8.Proofs.Parts

/-! Numbers read back from their numerals. A numeral of any width, with or without a sign, stands
for one number only, and it holds nothing but a sign and digits, so a field ends where another
character follows. -/
namespace Chip8.Numeral

def digitValue (c : Char) : Nat := if c.toNat < 65 then c.toNat - 48 else c.toNat - 55

theorem digitValue_digit {d : Nat} (h : d < 16) : digitValue (digit d) = d :=
  (by decide : ∀ d < 16, digitValue (digit d) = d) d h

def value (base : Nat) (row : List Char) : Nat := row.foldl (fun n c => base * n + digitValue c) 0

theorem value_digits {base : Nat} (hmin : 2 ≤ base) (hmax : base ≤ 16) (n : Nat) :
    value base (digits base n) = n := by
  fun_induction digits base n with
  | case1 n h =>
    have hn : n < 16 := by omega
    simp [value, digitValue_digit hn]
  | case2 n h ih =>
    have hlast : n % base < 16 := Nat.lt_of_lt_of_le (Nat.mod_lt n (by omega)) hmax
    rw [value, List.foldl_append]
    change base * value base (digits base (n / base)) + digitValue (digit (n % base)) = n
    rw [ih, digitValue_digit hlast]
    exact Nat.div_add_mod n base

private theorem value_fill (base fill : Nat) (row : List Char) :
    value base (List.replicate fill '0' ++ row) = value base row := by
  induction fill with
  | zero => rfl
  | succ fill ih => exact ih

theorem mem_digits {base n : Nat} {c : Char} (h : c ∈ digits base n) (hmin : 2 ≤ base) :
    ∃ d < base, c = digit d := by
  fun_induction digits base n with
  | case1 n hn => exact ⟨n, by omega, List.mem_singleton.mp h⟩
  | case2 n hn ih =>
    rcases List.mem_append.mp h with hfront | hlast
    · exact ih hfront
    · exact ⟨n % base, Nat.mod_lt n (by omega), List.mem_singleton.mp hlast⟩

def read (base : Nat) : List Char → Int
  | '-' :: row => -value base row
  | row => value base row

private theorem read_of_head {base : Nat} {row : List Char} (h : '-' ∉ row) :
    read base row = value base row := by
  cases row with
  | nil => rfl
  | cons c row =>
    have hc : c ≠ '-' := fun hc => h (hc ▸ List.mem_cons_self)
    unfold read
    split
    · rename_i heq
      exact absurd (List.cons.inj heq).1 hc
    · rfl

private theorem read_signed {base : Nat} {row : List Char} (n : Int) (h : '-' ∉ row)
    (hvalue : value base row = n.natAbs) : read base (sign n ++ row) = n := by
  by_cases hn : n < 0
  · rw [sign, if_pos hn]
    change -(value base row : Int) = n
    omega
  · rw [sign, if_neg hn, List.nil_append, read_of_head h]
    omega

private theorem minus_notMem {base : Nat} (hmin : 2 ≤ base) (hmax : base ≤ 16) (n : Nat) :
    '-' ∉ digits base n := by
  intro h
  obtain ⟨d, hd, hc⟩ := mem_digits h hmin
  exact (by decide : ∀ d < 16, '-' ≠ digit d) d (by omega) hc

private theorem read_hex (width : Nat) (n : Int) : read 16 (hex width n).toList = n := by
  rw [hex, String.toList_ofList]
  refine read_signed n ?_ ?_
  · intro h
    rcases List.mem_append.mp h with hfill | hdigits
    · cases List.eq_of_mem_replicate hfill
    · exact minus_notMem (by decide) (by decide) _ hdigits
  · rw [value_fill]
    exact value_digits (by decide) (by decide) _

theorem hex_injective (width : Nat) : Function.Injective (hex width) := by
  intro m n h
  rw [← read_hex width m, h, read_hex]

def alphabet (base : Nat) : List Char := '-' :: (List.range base).map digit

private theorem mem_sign {c : Char} {n : Int} (h : c ∈ sign n) : c = '-' := by
  unfold sign at h
  split at h
  · exact List.mem_singleton.mp h
  · cases h

private theorem mem_alphabet_of_digits {base n : Nat} {c : Char} (h : c ∈ digits base n)
    (hmin : 2 ≤ base) : c ∈ alphabet base := by
  obtain ⟨d, hd, rfl⟩ := mem_digits h hmin
  exact List.mem_cons_of_mem _ (List.mem_map_of_mem (List.mem_range.mpr hd))

theorem mem_decimal {c : Char} {n : Int} (h : c ∈ (decimal n).toList) : c ∈ alphabet 10 := by
  rw [decimal, String.toList_ofList] at h
  rcases List.mem_append.mp h with hsign | hdigits
  · exact mem_sign hsign ▸ List.mem_cons_self
  · exact mem_alphabet_of_digits hdigits (by decide)

theorem mem_hex {width : Nat} {c : Char} {n : Int} (h : c ∈ (hex width n).toList) :
    c ∈ alphabet 16 := by
  rw [hex, String.toList_ofList] at h
  rcases List.mem_append.mp h with hsign | hrest
  · exact mem_sign hsign ▸ List.mem_cons_self
  · rcases List.mem_append.mp hrest with hfill | hdigits
    · rw [List.eq_of_mem_replicate hfill]
      decide
    · exact mem_alphabet_of_digits hdigits (by decide)

theorem unbroken_hex (width : Nat) (n : Int) : Text.Unbroken (hex width n).toList :=
  fun c hc => (by decide : Text.Unbroken (alphabet 16)) c (mem_hex hc)

theorem unbroken_decimal (n : Int) : Text.Unbroken (decimal n).toList :=
  fun c hc => (by decide : Text.Unbroken (alphabet 10)) c (mem_decimal hc)

end Chip8.Numeral
