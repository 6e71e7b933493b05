import Chip8.Proofs.Cycle

/-! Register arithmetic as arithmetic of whole numbers. Result and flag together give back the exact
sum, difference or half, and they come from the registers as they were before, whichever of the
registers are the same and whether or not one of them is VF. -/
namespace Chip8

namespace Arithmetic

private theorem toNat_bit (p : Prop) [Decidable p] : (bit p).toNat = if p then 1 else 0 := by
  by_cases h : p <;> simp [bit, h]

private theorem toNat_bit_le (p : Prop) [Decidable p] : (bit p).toNat ≤ 1 := by
  rw [toNat_bit]
  split <;> decide

/-- `op` has a flag for these operands, and with its result it satisfies `law`. -/
def Balances (op : UInt8 → UInt8 → Result) (a b : UInt8) (law : Nat → Nat → Prop) : Prop :=
  ∃ f, (op a b).flag = some f ∧ f.toNat ≤ 1 ∧ law (op a b).value.toNat f.toNat

private theorem add_balances (a b : UInt8) :
    Balances add a b fun r f => r + 256 * f = a.toNat + b.toNat := by
  have ha := a.toNat_lt
  have hb := b.toNat_lt
  refine ⟨_, rfl, toNat_bit_le _, ?_⟩
  rw [toNat_bit, add, UInt8.toNat_add]
  split <;> omega

private theorem sub_borrow (a b : UInt8) :
    ((a - b).toNat : Int) = a.toNat - b.toNat + 256 * (1 - (bit (b ≤ a)).toNat) := by
  have ha := a.toNat_lt
  have hb := b.toNat_lt
  rw [toNat_bit, UInt8.toNat_sub]
  simp only [UInt8.le_iff_toNat_le]
  split <;> omega

private theorem subtract_balances (a b : UInt8) :
    Balances subtract a b fun r f => (r : Int) = a.toNat - b.toNat + 256 * (1 - f) :=
  ⟨_, rfl, toNat_bit_le _, sub_borrow a b⟩

private theorem subtractFrom_balances (a b : UInt8) :
    Balances subtractFrom a b fun r f => (r : Int) = b.toNat - a.toNat + 256 * (1 - f) :=
  ⟨_, rfl, toNat_bit_le _, sub_borrow b a⟩

private theorem shiftRight_balances (a b : UInt8) :
    Balances shiftRight a b fun r f => 2 * r + f = b.toNat := by
  have hvalue : (b >>> 1).toNat = b.toNat / 2 := by
    rw [UInt8.toNat_shiftRight, Nat.shiftRight_eq_div_pow]
    rfl
  have hflag : (b &&& 1).toNat = b.toNat % 2 := by
    rw [UInt8.toNat_and]
    exact Nat.and_one_is_mod _
  refine ⟨_, rfl, ?_, ?_⟩
  · rw [hflag]
    omega
  · rw [shiftRight, hvalue, hflag]
    omega

private theorem shiftLeft_balances (a b : UInt8) :
    Balances shiftLeft a b fun r f => r + 256 * f = 2 * b.toNat := by
  have hb := b.toNat_lt
  have hvalue : (b <<< 1).toNat = b.toNat * 2 % 256 := by
    rw [UInt8.toNat_shiftLeft, Nat.shiftLeft_eq]
    rfl
  have hflag : (b >>> 7).toNat = b.toNat / 128 := by
    rw [UInt8.toNat_shiftRight, Nat.shiftRight_eq_div_pow]
    rfl
  refine ⟨_, rfl, ?_, ?_⟩
  · rw [hflag]
    omega
  · rw [shiftLeft, hvalue, hflag]
    omega

end Arithmetic

namespace Machine

/-- `next` is `m` with `r` in VX and the flag, if there is one, in VF, where it wins over `r`. -/
structure Combined (m next : Machine) (x : Fin 16) (r : Nat) (flag : Option Nat) : Prop where
  flag_eq : ∀ f, flag = some f → (next.v.get 0xF).toNat = f
  result_eq : x ≠ 0xF ∨ flag = none → (next.v.get x).toNat = r
  others_eq : ∀ k, k ≠ x → k ≠ 0xF ∨ flag = none → next.v.get k = m.v.get k
  rest_eq : next = { m with v := next.v }

def Computes (m : Machine) (x y n : Fin 16) (r : Nat) (flag : Option Nat) : Prop :=
  r ≤ 255 ∧ (∀ f, flag = some f → f ≤ 1) ∧
    ∃ next, m.execute (Instruction.word ⟨0x8, x, y, n⟩).toNat = .ok next ∧ m.Combined next x r flag

variable {m : Machine} {x y n : Fin 16} {op : Operation}
  {f : UInt8 → UInt8 → Arithmetic.Result}

private theorem combine_combined (f : UInt8 → UInt8 → Arithmetic.Result) (i : Instruction)
    (m : Machine) : m.Combined (combine f i m) i.x (f (m.v.get i.x) (m.v.get i.y)).value.toNat
      ((f (m.v.get i.x) (m.v.get i.y)).flag.map UInt8.toNat) := by
  unfold combine
  obtain ⟨value, flag⟩ := f (m.v.get i.x) (m.v.get i.y)
  cases flag with
  | none =>
    refine ⟨nofun, fun _ => ?_, fun k hk _ => ?_, rfl⟩
    · exact congrArg UInt8.toNat (Digit.get_put ..)
    · exact Digit.get_put_of_ne _ _ hk
  | some flag =>
    refine ⟨fun f hf => ?_, fun hx => ?_, fun k hk hF => ?_, rfl⟩
    · exact (congrArg UInt8.toNat (Digit.get_put ..)).trans (Option.some.inj hf)
    · have hne : i.x ≠ 0xF := hx.resolve_right nofun
      exact congrArg UInt8.toNat ((Digit.get_put_of_ne _ _ hne).trans (Digit.get_put ..))
    · have hne : k ≠ 0xF := hF.resolve_right nofun
      exact (Digit.get_put_of_ne _ _ hne).trans (Digit.get_put_of_ne _ _ hk)

private theorem executed_combined (hop : Instruction.operation? ⟨0x8, x, y, n⟩ = some op)
    (hf : op.effect = combine f) :
    ∃ next, m.execute (Instruction.word ⟨0x8, x, y, n⟩).toNat = .ok next ∧
      m.Combined next x (f (m.v.get x) (m.v.get y)).value.toNat
        ((f (m.v.get x) (m.v.get y)).flag.map UInt8.toNat) := by
  have hfamily : 0x8 = op.pattern.family := Instruction.family_of_operation? hop
  have hadmits : m.Admits ⟨0x8, x, y, n⟩ op := by
    refine .of_operation? hop ?_ ?_ ?_
    all_goals
      rintro rfl
      cases hfamily
  refine ⟨_, execute_of_admits hadmits, ?_⟩
  rw [hf]
  exact combine_combined f ⟨0x8, x, y, n⟩ m

private theorem computes_of_unflagged {value : Nat}
    (hop : Instruction.operation? ⟨0x8, x, y, n⟩ = some op) (hf : op.effect = combine f)
    (hflag : (f (m.v.get x) (m.v.get y)).flag = none)
    (hvalue : (f (m.v.get x) (m.v.get y)).value.toNat = value) : m.Computes x y n value none := by
  have hrun := executed_combined (m := m) hop hf
  rw [hflag, hvalue] at hrun
  exact ⟨hvalue ▸ Nat.le_of_lt_succ (UInt8.toNat_lt _), nofun, hrun⟩

private theorem computes_of_balances {law : Nat → Nat → Prop}
    (hop : Instruction.operation? ⟨0x8, x, y, n⟩ = some op) (hf : op.effect = combine f)
    (hlaw : Arithmetic.Balances f (m.v.get x) (m.v.get y) law) :
    ∃ r flag, m.Computes x y n r (some flag) ∧ law r flag := by
  obtain ⟨flag, hflag, hle, hlaw⟩ := hlaw
  have hrun := executed_combined (m := m) hop hf
  rw [hflag] at hrun
  refine ⟨_, flag.toNat, ⟨Nat.le_of_lt_succ (UInt8.toNat_lt _), ?_, hrun⟩, hlaw⟩
  rintro _ ⟨⟩
  exact hle

/-- The nine words 8XYN, with `a` and `b` for VX and VY as they were before. Where there is a flag,
result and flag determine the exact number; the other four results are bitwise. X, Y and F may
be the same register in any way: the flag is written last, so where X is F the result is lost. -/
theorem arithmetic_is_exact (m : Machine) (x y : Fin 16) :
    let a := (m.v.get x).toNat
    let b := (m.v.get y).toNat
    (∃ r f, m.Computes x y 0x4 r (some f) ∧ r + 256 * f = a + b) ∧
    (∃ r f, m.Computes x y 0x5 r (some f) ∧ (r : Int) = a - b + 256 * (1 - f)) ∧
    (∃ r f, m.Computes x y 0x7 r (some f) ∧ (r : Int) = b - a + 256 * (1 - f)) ∧
    (∃ r f, m.Computes x y 0x6 r (some f) ∧ 2 * r + f = b) ∧
    (∃ r f, m.Computes x y 0xE r (some f) ∧ r + 256 * f = 2 * b) ∧
    m.Computes x y 0x0 b none ∧ m.Computes x y 0x1 (a ||| b) none ∧
    m.Computes x y 0x2 (a &&& b) none ∧ m.Computes x y 0x3 (a ^^^ b) none := by
  intro a b
  refine ⟨?_, ?_, ?_, ?_, ?_, ?_, ?_, ?_, ?_⟩
  · exact computes_of_balances rfl rfl (Arithmetic.add_balances _ _)
  · exact computes_of_balances rfl rfl (Arithmetic.subtract_balances _ _)
  · exact computes_of_balances rfl rfl (Arithmetic.subtractFrom_balances _ _)
  · exact computes_of_balances rfl rfl (Arithmetic.shiftRight_balances _ _)
  · exact computes_of_balances rfl rfl (Arithmetic.shiftLeft_balances _ _)
  · exact computes_of_unflagged (f := Arithmetic.copy) rfl rfl rfl rfl
  · exact computes_of_unflagged (f := Arithmetic.or) rfl rfl rfl (UInt8.toNat_or _ _)
  · exact computes_of_unflagged (f := Arithmetic.and) rfl rfl rfl (UInt8.toNat_and _ _)
  · exact computes_of_unflagged (f := Arithmetic.xor) rfl rfl rfl (UInt8.toNat_xor _ _)

end Machine
end Chip8
