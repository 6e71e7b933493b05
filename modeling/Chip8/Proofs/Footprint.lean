import Chip8.Effect.Meaning

/-! The parts of a machine, and which of them an operation may write. All operations and all parts
are gone through once; what stack, memory, random stream and keypad keep follows from that. The
effects with a choice in them are first put in the form of one update. -/
namespace Chip8

/-- The parts of a machine beside its program counter. -/
inductive Part where
  | memory
  | register (k : Fin 16)
  | index
  | display
  | delay
  | sound
  | random
  | stack
  | keypad
  | step
  | frame
  | frames
  deriving DecidableEq, Repr

def Part.Same (m s : Machine) : Part → Prop
  | memory => m.memory = s.memory
  | register k => m.v.get k = s.v.get k
  | index => m.i = s.i
  | display => m.display = s.display
  | delay => m.delay = s.delay
  | sound => m.sound = s.sound
  | random => m.random = s.random
  | stack => m.stack = s.stack
  | keypad => m.keypad = s.keypad
  | step => m.step = s.step
  | frame => m.frame = s.frame
  | frames => m.frames = s.frames

theorem Memory.window_get (memory : Memory) (a : Nat) (k : Fin 16) :
    (memory.window a).get k = memory.read (a + k) :=
  Vector.getElem_ofFn k.isLt

namespace Machine

/-- The parts are all that there is. -/
theorem eq_of_same {m s : Machine} (h : ∀ part : Part, part.Same m s) :
    m = { s with pc := m.pc } := by
  have hv : m.v = s.v := Vector.ext fun k hk => h (.register ⟨k, hk⟩)
  have hmemory : m.memory = s.memory := h .memory
  have hi : m.i = s.i := h .index
  have hdisplay : m.display = s.display := h .display
  have hdelay : m.delay = s.delay := h .delay
  have hsound : m.sound = s.sound := h .sound
  have hrandom : m.random = s.random := h .random
  have hstack : m.stack = s.stack := h .stack
  have hkeypad : m.keypad = s.keypad := h .keypad
  have hstep : m.step = s.step := h .step
  have hframe : m.frame = s.frame := h .frame
  have hframes : m.frames = s.frames := h .frames
  rw [← hv, ← hmemory, ← hi, ← hdisplay, ← hdelay, ← hsound, ← hrandom, ← hstack, ← hkeypad,
    ← hstep, ← hframe, ← hframes]

theorem skipIf_eq (condition : Bool) (m : Machine) :
    skipIf condition m = { m with pc := if condition then m.pc + 2 else m.pc } := by
  cases condition <;> rfl

private theorem skipIf_same (condition : Bool) (m : Machine) (part : Part) :
    part.Same (skipIf condition m) m := by
  rw [skipIf_eq]
  cases part <;> rfl

theorem waitKey_eq (i : Instruction) (m : Machine) :
    waitKey i m = { m with
      v := m.keypad.lowest?.elim m.v fun key => Digit.put m.v i.x (UInt8.ofNat key)
      pc := if m.keypad.lowest?.isSome then m.pc else m.pc - 2 } := by
  unfold waitKey
  cases m.keypad.lowest? <;> rfl

structure SameHostFields (m s : Machine) : Prop where
  keypad : m.keypad = s.keypad
  step : m.step = s.step
  frame : m.frame = s.frame
  frames : m.frames = s.frames

theorem lanes_get (x : Fin 16) (first rest : Registers) (k : Fin 16) :
    (lanes x first rest).get k = if k ≤ x then first.get k else rest.get k := by
  rw [lanes]
  exact Vector.getElem_ofFn k.isLt

theorem loadRegisters_get (i : Instruction) (m : Machine) (k : Fin 16) :
    (loadRegisters i m).v.get k =
      if k ≤ i.x then m.memory.read (m.i.toNat + k) else m.v.get k := by
  rw [loadRegisters, lanes_get, Memory.window_get]

end Machine

namespace Operation

def Writes (op : Operation) (i : Instruction) : Part → Prop
  | .memory => op = digits ∨ op = store
  | .register k =>
    (k = i.x ∧ op ∈ [loadByte, addByte, copy, or, and, xor, add, subtract, shiftRight, subtractFrom,
      shiftLeft, random, readDelay, waitKey]) ∨
    (k = 0xF ∧ op ∈ [add, subtract, shiftRight, subtractFrom, shiftLeft, draw]) ∨
    (k ≤ i.x ∧ op = load)
  | .index => op ∈ [loadIndex, addIndex, glyph, store, load]
  | .display => op = clear ∨ op = draw
  | .delay => op = setDelay
  | .sound => op = setSound
  | .random => op = random
  | .stack => op = call ∨ op = ret
  | .keypad | .step | .frame | .frames => False

variable {op : Operation} {i : Instruction}

private theorem effect_register {k : Fin 16} (h : ¬op.Writes i (.register k)) (m : Machine) :
    (op.effect i m).v.get k = m.v.get k := by
  simp only [Writes, not_or, not_and] at h
  obtain ⟨hx, hF, hload⟩ := h
  cases op with
  | loadByte | addByte | copy | or | and | xor | random | readDelay =>
    exact Digit.get_put_of_ne _ _ fun hk => hx hk (by decide)
  | add | subtract | shiftRight | subtractFrom | shiftLeft =>
    have hflag : k ≠ 0xF := fun hk => hF hk (by decide)
    have hresult : k ≠ i.x := fun hk => hx hk (by decide)
    exact (Digit.get_put_of_ne _ _ hflag).trans (Digit.get_put_of_ne _ _ hresult)
  | draw => exact Digit.get_put_of_ne _ _ fun hk => hF hk (by decide)
  | waitKey =>
    rw [effect, Machine.waitKey_eq]
    cases m.keypad.lowest? with
    | none => rfl
    | some key => exact Digit.get_put_of_ne _ _ fun hk => hx hk (by decide)
  | load => rw [effect, Machine.loadRegisters_get, if_neg fun hk => hload hk rfl]
  | skipEqualByte | skipUnequalByte | skipEqual | skipUnequal | skipPressed | skipReleased =>
    exact Machine.skipIf_same _ m (.register k)
  | _ => rfl

/-- One case for each operation, and in it one for each part that the operation reaches. -/
theorem effect_same (part : Part) (h : ¬op.Writes i part) (m : Machine) :
    part.Same (op.effect i m) m := by
  cases op with
  | skipEqualByte | skipUnequalByte | skipEqual | skipUnequal | skipPressed | skipReleased =>
    exact Machine.skipIf_same _ m part
  | clear =>
    cases part with
    | display => exact absurd (.inl rfl) h
    | _ => rfl
  | draw =>
    cases part with
    | register k => exact effect_register h m
    | display => exact absurd (.inr rfl) h
    | _ => rfl
  | call =>
    cases part with
    | stack => exact absurd (.inl rfl) h
    | _ => rfl
  | ret =>
    cases part with
    | stack => exact absurd (.inr rfl) h
    | _ => rfl
  | loadIndex | addIndex | glyph =>
    cases part with
    | index => exact absurd (show _ ∈ _ by decide) h
    | _ => rfl
  | random =>
    cases part with
    | register k => exact effect_register h m
    | random => exact absurd rfl h
    | _ => rfl
  | setDelay =>
    cases part with
    | delay => exact absurd rfl h
    | _ => rfl
  | setSound =>
    cases part with
    | sound => exact absurd rfl h
    | _ => rfl
  | digits =>
    cases part with
    | memory => exact absurd (.inl rfl) h
    | _ => rfl
  | store =>
    cases part with
    | memory => exact absurd (.inr rfl) h
    | index => exact absurd (show _ ∈ _ by decide) h
    | _ => rfl
  | load =>
    cases part with
    | register k => exact effect_register h m
    | index => exact absurd (show _ ∈ _ by decide) h
    | _ => rfl
  | waitKey =>
    cases part with
    | register k => exact effect_register h m
    | _ =>
      rw [effect, Machine.waitKey_eq]
      rfl
  | _ =>
    cases part with
    | register k => exact effect_register h m
    | _ => rfl

/-- Keypad and frame counter belong to the host and the schedule: no instruction writes them. -/
theorem effect_hostFields (op : Operation) (i : Instruction) (m : Machine) :
    (op.effect i m).SameHostFields m :=
  ⟨effect_same .keypad id m, effect_same .step id m, effect_same .frame id m,
    effect_same .frames id m⟩

@[simp] theorem effect_keypad (op : Operation) (i : Instruction) (m : Machine) :
    (op.effect i m).keypad = m.keypad := (effect_hostFields op i m).keypad

@[simp] theorem effect_step (op : Operation) (i : Instruction) (m : Machine) :
    (op.effect i m).step = m.step := (effect_hostFields op i m).step

@[simp] theorem effect_frame (op : Operation) (i : Instruction) (m : Machine) :
    (op.effect i m).frame = m.frame := (effect_hostFields op i m).frame

@[simp] theorem effect_frames (op : Operation) (i : Instruction) (m : Machine) :
    (op.effect i m).frames = m.frames := (effect_hostFields op i m).frames

/-- Only calls and returns reach the stack. -/
theorem effect_stack (hcall : op ≠ call) (hret : op ≠ ret) (i : Instruction) (m : Machine) :
    (op.effect i m).stack = m.stack :=
  effect_same .stack (not_or.mpr ⟨hcall, hret⟩) m

/-- Only the two storing operations reach memory. -/
theorem effect_memory (hdigits : op ≠ digits) (hstore : op ≠ store) (i : Instruction)
    (m : Machine) : (op.effect i m).memory = m.memory :=
  effect_same .memory (not_or.mpr ⟨hdigits, hstore⟩) m

/-- Only a draw reaches the random stream. -/
theorem effect_random (hdraw : op ≠ random) (i : Instruction) (m : Machine) :
    (op.effect i m).random = m.random :=
  effect_same .random hdraw m

end Operation
end Chip8
