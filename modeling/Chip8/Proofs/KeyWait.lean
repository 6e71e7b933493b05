import Chip8.Proofs.Continuation
import Chip8.Proofs.KeyInput
import Chip8.Proofs.Timers
import Mathlib.Order.Bounds.Defs

/-! Waiting for a key. As long as no key is down a wait only counts cycles, so what any number of
them leaves is known from the schedule alone; then the first key that is down ends it. -/
namespace Chip8

namespace Keypad
variable {keypad : Keypad}

private theorem lowest?_isLeast {key : Key} (h : keypad.lowest? = some key) :
    IsLeast {k : Key | keypad.get k = true} key := by
  obtain ⟨hdown, position, hposition, hkey, hup⟩ := List.find?_eq_some_iff_getElem.mp h
  refine ⟨hdown, fun other hother => ?_⟩
  by_contra hlt
  have hbefore : other.val < position := by
    rw [← hkey, List.getElem_finRange] at hlt
    exact Nat.lt_of_not_le hlt
  have hreleased := hup other hbefore
  rw [List.getElem_finRange, Bool.not_eq_true'] at hreleased
  exact Bool.false_ne_true (hreleased.symm.trans hother)

private theorem exists_lowest? (h : ∃ key : Key, keypad.get key = true) :
    ∃ key, keypad.lowest? = some key := by
  obtain ⟨key, hdown⟩ := h
  refine Option.ne_none_iff_exists'.mp fun hnone => ?_
  have hup := (lowest?_eq_none_iff keypad).mp hnone key
  exact Bool.false_ne_true (hup.symm.trans hdown)

end Keypad

namespace Machine
variable {m : Machine}

/-- What the schedule makes of a machine in `n` cycles that leave everything else alone. -/
def idle (m : Machine) (n : Nat) : Machine :=
  let counted := m.step.toInt.toNat + n
  let closed := counted / 15
  { m with
    delay := UInt8.ofNat (m.delay.toNat - closed)
    sound := UInt8.ofNat (m.sound.toNat - closed)
    step := Int32.ofNat (counted % 15)
    frame := if closed = 0 then m.frame else m.display
    frames := m.frames + Int32.ofNat closed }

private theorem idle_zero (h0 : 0 ≤ m.step.toInt) (h14 : m.step.toInt ≤ 14) : m.idle 0 = m := by
  have hclosed : (m.step.toInt.toNat + 0) / 15 = 0 := by omega
  have hcounted : (m.step.toInt.toNat + 0) % 15 = m.step.toInt.toNat := by omega
  have hstep : Int32.ofNat m.step.toInt.toNat = m.step := by
    rw [← Int32.ofInt_eq_ofNat, Int.toNat_of_nonneg h0, Int32.ofInt_toInt]
  have hframes : m.frames + Int32.ofNat 0 = m.frames := Int32.add_zero m.frames
  rw [idle, hclosed, hcounted, hstep, hframes, Nat.sub_zero, Nat.sub_zero, UInt8.ofNat_toNat,
    UInt8.ofNat_toNat]
  rfl

private theorem ticked_ofNat (t : UInt8) (closed : Nat) :
    (if UInt8.ofNat (t.toNat - closed) = 0 then 0 else UInt8.ofNat (t.toNat - closed) - 1) =
      UInt8.ofNat (t.toNat - (closed + 1)) := by
  have ht := t.toNat_lt
  apply UInt8.toNat_inj.mp
  rw [toNat_ticked, UInt8.toNat_ofNat', UInt8.toNat_ofNat']
  omega

private theorem idle_countCycle (m : Machine) (n : Nat) :
    (m.idle n).countCycle = m.idle (n + 1) := by
  have hlast : 15 ≤ (m.idle n).step + 1 ↔ (m.step.toInt.toNat + n) % 15 = 14 :=
    last_step_iff _ (Nat.mod_lt _ (by decide))
  rw [countCycle_eq]
  by_cases h : (m.step.toInt.toNat + n) % 15 = 14
  · have hclosed : (m.step.toInt.toNat + (n + 1)) / 15 = (m.step.toInt.toNat + n) / 15 + 1 := by
      omega
    have hstep : (m.step.toInt.toNat + (n + 1)) % 15 = 0 := by omega
    have hframe (before : Screen) :
        (if (m.step.toInt.toNat + n) / 15 + 1 = 0 then before else m.display) = m.display :=
      if_neg (Nat.succ_ne_zero _)
    rw [if_pos (hlast.mpr h), closeFrame, idle, idle, hclosed, hstep, hframe, Int32.ofNat_add,
      ← Int32.add_assoc, ← ticked_ofNat, ← ticked_ofNat]
    rfl
  · have hclosed : (m.step.toInt.toNat + (n + 1)) / 15 = (m.step.toInt.toNat + n) / 15 := by omega
    have hstep : (m.step.toInt.toNat + (n + 1)) % 15 = (m.step.toInt.toNat + n) % 15 + 1 := by
      omega
    rw [if_neg (mt hlast.mp h), idle, idle, hclosed, hstep, Int32.ofNat_add]
    rfl

private theorem cycle_of_keyWait (h : m.instruction.IsMember 0x0 0xA) :
    m.cycle = ((waitKey m.instruction m.advance).countCycle, none) := by
  have hnamed : m.instruction.operation? = some .waitKey :=
    (Instruction.isMember_iff (by decide) rfl).mp h
  have hop : m.Admits (Instruction.decode m.word.toNat) .waitKey :=
    .of_operation? hnamed (by decide) (by decide) (by decide)
  rw [cycle_of_admits rfl hop]
  rfl

private theorem cycle_of_waits (h : m.instruction.Waits m.keypad) :
    m.cycle = (m.countCycle, none) := by
  -- Stepping back undoes the advance of the fetch, at the ends of the sixteen-bit range too.
  have hnone : m.advance.keypad.lowest? = none := (Keypad.lowest?_eq_none_iff _).mpr h.2
  have hpc : m.advance.pc - 2 = m.pc := UInt16.add_sub_cancel m.pc 2
  have hback : waitKey m.instruction m.advance = m := by
    rw [waitKey_eq, hnone, Option.isSome_none, if_neg Bool.false_ne_true, hpc]
    rfl
  rw [cycle_of_keyWait h.1, hback]

private theorem cycle_of_pressed {key : Key} (h : m.instruction.IsMember 0x0 0xA)
    (hkey : m.keypad.lowest? = some key) :
    m.cycle = ({ m with
      v := Digit.put m.v m.instruction.x (UInt8.ofNat key)
      pc := m.pc + 2 }.countCycle, none) := by
  have hlowest : m.advance.keypad.lowest? = some key := hkey
  rw [cycle_of_keyWait h, waitKey_eq, hlowest]
  rfl

private theorem cycles_of_waits (h0 : 0 ≤ m.step.toInt) (h14 : m.step.toInt ≤ 14)
    (h : m.instruction.Waits m.keypad) (n : Nat) : m.cycles n = (m.idle n, none) := by
  induction n with
  | zero => rw [idle_zero h0 h14, cycles]
  | succ n ih =>
    have hwaits : (m.idle n).instruction.Waits (m.idle n).keypad := h
    rw [cycles_add, ih, andThen_none, cycles, cycle_of_waits hwaits, idle_countCycle]
    rfl

/-- With no key down, any number of cycles leaves a machine that waits for a key as it was, but for
what the schedule counts. Whenever keys are then pressed, the next cycle stores the first of them
and moves on. -/
theorem key_wait_is_stable (h0 : 0 ≤ m.step) (h14 : m.step ≤ 14)
    (hwaits : m.instruction.Waits m.keypad) (n : Nat) :
    m.cycles n = (m.idle n, none) ∧
    ∀ keypad : Keypad, (∃ key : Key, keypad.get key = true) →
      ∃ pressed next lowest, (m.idle n).setKeys keypad.toList = .ok pressed ∧
        pressed.cycle = (next, none) ∧
        IsLeast {key : Key | keypad.get key = true} lowest ∧
        (next.v.get m.instruction.x).toNat = lowest ∧
        next.pc.toNat = (m.pc.toNat + 2) % 65536 ∧
        next = { m.idle (n + 1) with
          keypad
          v := Digit.put m.v m.instruction.x (UInt8.ofNat lowest)
          pc := m.pc + 2 } := by
  obtain ⟨h0, h14⟩ := step_toInt_of_le h0 h14
  refine ⟨cycles_of_waits h0 h14 hwaits n, fun keypad hdown => ?_⟩
  obtain ⟨lowest, hlowest⟩ := Keypad.exists_lowest? hdown
  have hpressed : { m.idle n with keypad }.instruction.IsMember 0x0 0xA := hwaits.1
  have hcycle := cycle_of_pressed hpressed hlowest
  -- The schedule reads none of the three parts that differ now.
  have hcount := idle_countCycle { m with
    keypad
    v := Digit.put m.v m.instruction.x (UInt8.ofNat lowest)
    pc := m.pc + 2 } n
  refine ⟨_, _, lowest, setKeys_toList _ keypad, hcycle.trans (congrArg (·, none) hcount),
    Keypad.lowest?_isLeast hlowest, ?_, ?_, rfl⟩
  · have hstored : (Digit.put m.v m.instruction.x (UInt8.ofNat lowest)).get m.instruction.x =
        UInt8.ofNat lowest := Digit.get_put ..
    have hlt := lowest.isLt
    refine (congrArg UInt8.toNat hstored).trans ?_
    rw [UInt8.toNat_ofNat']
    omega
  · exact m.advance_pc_toNat

/-- A wait at the last word of the sixteen-bit range, begun with the last cycle of a frame: two
frames later two keys are pressed. -/
theorem key_wait_is_stable_at_top :
    let m := { powerOn ⟨0, 0⟩ with
      memory := Memory.powerOn.store 0xFFFE [0xF3, 0x0A]
      pc := 0xFFFE
      delay := 2
      step := 14 }
    let keypad : Keypad := (Keypad.released.set 7 true).set 11 true
    ∃ pressed next, (0 ≤ m.step ∧ m.step ≤ 14) ∧ m.instruction.Waits m.keypad ∧
      m.cycles 16 = (m.idle 16, none) ∧ (m.idle 16).delay = 0 ∧
      (m.idle 16).setKeys keypad.toList = .ok pressed ∧ pressed.cycle = (next, none) ∧
      next.v.get 0x3 = 7 ∧ next.pc = 0 := by
  intro m keypad
  have hstep : 0 ≤ m.step ∧ m.step ≤ 14 := by decide
  have hword : m.word = 0xF30A :=
    (word_of_store (show m.memory = Memory.powerOn.store 0xFFFE [0xF3, 0x0A] from rfl) rfl
      (by decide)).trans (by decide)
  have hm : m.instruction = ⟨0xF, 0x3, 0x0, 0xA⟩ := by
    rw [instruction, hword]
    decide
  have hwaits : m.instruction.Waits m.keypad := by
    rw [hm]
    exact ⟨rfl, by decide⟩
  obtain ⟨hrun, hpress⟩ := key_wait_is_stable hstep.1 hstep.2 hwaits 16
  obtain ⟨pressed, next, lowest, hkeys, hc, hleast, hstored, hpc, -⟩ := hpress keypad ⟨7, by decide⟩
  have hseven : ∀ key : Key, keypad.get key = true → key ≤ 7 → key = 7 := by decide
  have hdown : keypad.get 7 = true := by decide
  obtain rfl := hseven lowest hleast.1 (hleast.2 hdown)
  rw [hm] at hstored
  have hzero : next.pc.toNat = 0 := hpc.trans (by decide)
  exact ⟨pressed, next, hstep, hwaits, hrun, by decide, hkeys, hc, UInt8.toNat_inj.mp hstored,
    UInt16.toNat_inj.mp hzero⟩

end Machine
end Chip8
