import Chip8.Proofs.Cycle

/-! One cycle as it is seen from outside: when it meets a fault, what the report of that fault
shows, and how the cycle is put together from fetching a word, executing it and counting it. -/
namespace Chip8.Machine
variable {m next : Machine} {word : Int} {f : Fault}

/-- The report about the word at the program counter. Its address has twelve bits and its program
counter is past the word; of the stack only the entries below the depth are shown. -/
def report (m : Machine) : Snapshot where
  address := (m.pc.toNat % 4096 : Nat)
  opcode := (256 * (m.memory.read m.pc.toNat).toNat + (m.memory.read (m.pc.toNat + 1)).toNat : Nat)
  pc := ((m.pc.toNat + 2) % 65536 : Nat)
  i := m.i.toNat
  v := m.v.toList.map fun b => (b.toNat : Int)
  stack := (m.stack.slots.toList.take m.stack.depth.toNat).map fun a => (a.toNat : Int)
  delay := some (m.delay.toNat : Int)
  sound := some (m.sound.toNat : Int)

theorem toNat_of_bytes (high low : UInt8) :
    (high.toUInt16 <<< 8 ||| low.toUInt16).toNat = 256 * high.toNat + low.toNat := by
  have hlow : low.toNat < 2 ^ 8 := low.toNat_lt
  have hhigh : high.toNat <<< 8 < 2 ^ 16 := by
    have := high.toNat_lt
    rw [Nat.shiftLeft_eq]
    omega
  have hshift : (high.toUInt16 <<< 8).toNat = high.toNat <<< 8 := by
    rw [UInt16.toNat_shiftLeft]
    exact Nat.mod_eq_of_lt hhigh
  calc (high.toUInt16 <<< 8 ||| low.toUInt16).toNat
      = high.toNat <<< 8 ||| low.toNat := by rw [UInt16.toNat_or, hshift, UInt8.toNat_toUInt16]
    _ = high.toNat <<< 8 + low.toNat := (Nat.shiftLeft_add_eq_or_of_lt hlow _).symm
    _ = 256 * high.toNat + low.toNat := by rw [Nat.shiftLeft_eq]; omega

theorem advance_pc_toNat (m : Machine) : m.advance.pc.toNat = (m.pc.toNat + 2) % 65536 :=
  UInt16.toNat_add m.pc 2

/-- Two bytes before the advanced program counter, also where that has run round. -/
theorem advance_pc_sub (m : Machine) :
    ((m.advance.pc.toNat : Int) - 2) % 4096 = (m.pc.toNat % 4096 : Nat) := by
  rw [advance_pc_toNat]
  omega

private theorem snapshot_advance (m : Machine) (h0 : 0 ≤ m.stack.depth) :
    m.advance.snapshot m.word.toNat (m.pc.toNat % 4096 : Nat) = m.report := by
  have hlive : m.stack.live = m.stack.slots.toList.take m.stack.depth.toNat := by
    rw [CallStack.live, CallStack.position, if_neg (by omega)]
  have hword : m.word.toNat = _ := toNat_of_bytes _ _
  rw [report, ← hword, ← hlive, ← advance_pc_toNat]
  rfl

private theorem check_advance (m : Machine) (address : Int) :
    m.advance.check word address =
      (m.violation? word).map fun v => ⟨v.kind, v.message, m.advance.snapshot word address⟩ := rfl

theorem cycle_eq_fault_iff :
    m.cycle = (m, some f) ↔ m.advance.check m.word.toNat (m.pc.toNat % 4096 : Nat) = some f := by
  unfold cycle
  cases m.advance.check m.word.toNat (m.pc.toNat % 4096 : Nat) <;> simp

private theorem cycle_snd_iff : m.cycle.2 = some f ↔ m.cycle = (m, some f) := by
  obtain ⟨next, hc⟩ | ⟨g, hc⟩ := m.cycle_cases <;> simp [hc]

/-- A fault tells which condition was violated, with the report of the machine before the cycle. -/
theorem cycle_fault_iff (h0 : 0 ≤ m.stack.depth) : m.cycle = (m, some f) ↔
    ∃ v, m.violation? m.word.toNat = some v ∧ f = ⟨v.kind, v.message, m.report⟩ := by
  rw [cycle_eq_fault_iff, check_advance, snapshot_advance m h0, Option.map_eq_some_iff]
  simp only [eq_comm]

/-- A word of sixteen bits is never too wide, so only its check can keep it from execution. -/
theorem execute_fetched (m : Machine) :
    m.fetch.1.execute m.fetch.2.toNat =
      match m.advance.check m.word.toNat (m.pc.toNat % 4096 : Nat) with
      | some f => .error (.fault f)
      | none => .ok (dispatch m.instruction m.advance) := by
  have hlt := m.word.toNat_lt
  have hwidth : -0x80000000 ≤ (m.word.toNat : Int) ∧ (m.word.toNat : Int) < 0x80000000 := by omega
  rw [fetch, execute, advance_pc_sub, if_pos hwidth]
  rfl

private theorem execute_fetched_eq_fault_iff :
    m.fetch.1.execute m.fetch.2.toNat = .error (.fault f) ↔ m.cycle = (m, some f) := by
  rw [execute_fetched, cycle_eq_fault_iff]
  cases m.advance.check m.word.toNat (m.pc.toNat % 4096 : Nat) <;> simp

private theorem cycle_eq_ok_iff : m.cycle = (next, none) ↔
    ∃ executed, m.fetch.1.execute m.fetch.2.toNat = .ok executed ∧ executed.countCycle = next := by
  rw [execute_fetched]
  unfold cycle
  cases m.advance.check m.word.toNat (m.pc.toNat % 4096 : Nat) with
  | some f => simp
  | none => simp [instruction]

/-- Executing a word leaves keys and frame counter to host and schedule. -/
theorem execute_hostFields (hx : m.execute word = .ok next) : next.SameHostFields m := by
  obtain ⟨op, -, rfl⟩ := execute_eq_ok hx
  exact op.effect_hostFields _ m

private theorem countCycle_of_le (h0 : 0 ≤ m.step) (h14 : m.step ≤ 14) :
    m.countCycle =
      let counted := { m with step := m.step + 1 }
      if counted.step = 15 then counted.closeFrame else counted := by
  -- Inside a frame the count reaches fifteen before it can pass it.
  have hlast : 15 ≤ m.step + 1 ↔ m.step + 1 = 15 := by
    constructor
    · intro h
      grind
    · intro h
      rw [h]
      decide
  rw [countCycle_eq]
  simp only [hlast]
  rfl

/-- Executing the fetched word and running one cycle are the same machine. They meet the same
faults, whose report is that of the machine before the fetch, and where they succeed the cycle
differs by its count only, which closes the frame at fifteen. Executing counts nothing at all. -/
theorem cycle_iff_execute_fetched (m : Machine) (h0 : 0 ≤ m.step) (h14 : m.step ≤ 14)
    (hdepth : 0 ≤ m.stack.depth) :
    (∀ f, m.fetch.1.execute m.fetch.2.toNat = .error (.fault f) ↔ m.cycle.2 = some f) ∧
    (∀ f, m.cycle.2 = some f → m.cycle.1 = m ∧
      ∃ v, m.violation? m.word.toNat = some v ∧ f = ⟨v.kind, v.message, m.report⟩) ∧
    (m.cycle.2 = none →
      ∃ executed, m.fetch.1.execute m.fetch.2.toNat = .ok executed ∧
        m.cycle.1 =
          let counted := { executed with step := executed.step + 1 }
          if counted.step = 15 then counted.closeFrame else counted) ∧
    ∀ (s executed : Machine) (word : Int), s.execute word = .ok executed →
      executed.step = s.step ∧ executed.frames = s.frames ∧ executed.frame = s.frame := by
  refine ⟨fun f => execute_fetched_eq_fault_iff.trans cycle_snd_iff.symm, fun f hf => ?_,
    fun hf => ?_, ?_⟩
  · have hc := cycle_snd_iff.mp hf
    exact ⟨congrArg Prod.fst hc, (cycle_fault_iff hdepth).mp hc⟩
  · obtain ⟨executed, hx, hnext⟩ := cycle_eq_ok_iff.mp (Prod.ext rfl hf)
    have hstep : executed.step = m.step := (execute_hostFields hx).step
    exact ⟨executed, hx, hnext.symm.trans (countCycle_of_le (hstep ▸ h0) (hstep ▸ h14))⟩
  · intro s executed word hx
    have hkept := execute_hostFields hx
    exact ⟨hkept.step, hkept.frames, hkept.frame⟩

/-- At the last address, in the last cycle of a frame: a word whose second byte is the first of
memory is refused, and with another first byte it is a jump that closes the frame. -/
theorem cycle_iff_execute_fetched_at_top :
    let refused := { powerOn ⟨0, 0⟩ with pc := 0xFFFF, step := 14 }
    let jumping := { refused with memory := refused.memory.write 0xFFF 0x12 }
    (0 ≤ refused.step ∧ refused.step ≤ 14 ∧ 0 ≤ refused.stack.depth) ∧
      (∃ f, refused.fetch.1.execute refused.fetch.2.toNat = .error (.fault f) ∧
        refused.cycle.2 = some f ∧ f.snapshot = refused.report) ∧
      jumping.cycle.2 = none ∧
      ∃ executed, jumping.fetch.1.execute jumping.fetch.2.toNat = .ok executed ∧
        jumping.cycle.1 =
          let counted := { executed with step := executed.step + 1 }
          if counted.step = 15 then counted.closeFrame else counted := by
  intro refused jumping
  have hstep : 0 ≤ refused.step ∧ refused.step ≤ 14 ∧ 0 ≤ refused.stack.depth := by decide
  have hrefused := cycle_iff_execute_fetched refused hstep.1 hstep.2.1 hstep.2.2
  have hjumping := cycle_iff_execute_fetched jumping hstep.1 hstep.2.1 hstep.2.2
  have hfirst : refused.memory.read 0x10000 = 0xF0 := (Memory.read_powerOn _).trans (by decide)
  have hlast : refused.memory.read 0xFFFF = 0 := (Memory.read_powerOn _).trans (by decide)
  have hword : refused.word = 0x00F0 := (word_of_read hlast hfirst).trans (by decide)
  have hjump : jumping.word = 0x12F0 := by
    have hwritten : jumping.memory.read 0xFFFF = 0x12 := by
      rw [Memory.read_write, if_pos (by decide)]
    have hkept : jumping.memory.read 0x10000 = 0xF0 := by
      rw [Memory.read_write, if_neg (by decide), hfirst]
    exact (word_of_read hwritten hkept).trans (by decide)
  refine ⟨hstep, ?_, ?_⟩
  · have hviolation : refused.violation? refused.word.toNat = some (.machineCall 0x0F0) := by
      rw [hword]
      decide
    have hfault := cycle_snd_iff.mpr ((cycle_fault_iff hstep.2.2).mpr ⟨_, hviolation, rfl⟩)
    exact ⟨_, (hrefused.1 _).mpr hfault, hfault, rfl⟩
  · have hadmits : jumping.Admits (Instruction.decode (0x12F0 : UInt16).toNat) .jump :=
      ⟨by decide, nofun, nofun, nofun⟩
    have hnone := congrArg Prod.snd (cycle_of_admits hjump hadmits)
    exact ⟨hnone, hjumping.2.2.1 hnone⟩

end Chip8.Machine
