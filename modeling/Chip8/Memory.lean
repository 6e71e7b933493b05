/-! The 4 KiB of memory. Addresses have twelve bits, so every index runs round from the top
back to zero; the glyphs of the sixteen digits lie at the bottom and programs start at 0x200. -/
namespace Chip8

abbrev Address := Fin 4096

abbrev Memory := Vector UInt8 4096

namespace Address

def ofNat (n : Nat) : Address := Fin.ofNat 4096 n

@[simp] theorem val_ofNat (n : Nat) : (ofNat n).val = n % 4096 := rfl

end Address

/-- Five bytes a glyph, from 0 to F. -/
def font : List UInt8 :=
  [0xF0, 0x90, 0x90, 0x90, 0xF0, 0x20, 0x60, 0x20, 0x20, 0x70,
   0xF0, 0x10, 0xF0, 0x80, 0xF0, 0xF0, 0x10, 0xF0, 0x10, 0xF0,
   0x90, 0x90, 0xF0, 0x10, 0x10, 0xF0, 0x80, 0xF0, 0x10, 0xF0,
   0xF0, 0x80, 0xF0, 0x90, 0xF0, 0xF0, 0x10, 0x20, 0x40, 0x40,
   0xF0, 0x90, 0xF0, 0x90, 0xF0, 0xF0, 0x90, 0xF0, 0x10, 0xF0,
   0xF0, 0x90, 0xF0, 0x90, 0x90, 0xE0, 0x90, 0xE0, 0x90, 0xE0,
   0xF0, 0x80, 0x80, 0x80, 0xF0, 0xE0, 0x90, 0x90, 0x90, 0xE0,
   0xF0, 0x80, 0xF0, 0x80, 0xF0, 0xF0, 0x80, 0xF0, 0x80, 0x80]

/-- Where a program image is loaded and the first instruction is read. -/
def programStart : Nat := 0x200

/-- The bytes from `programStart` to the top of memory. -/
def programLimit : Nat := 4096 - programStart

namespace Memory

def powerOn : Memory := Vector.ofFn fun a => font[a.val]?.getD 0

/-- The byte at the low twelve bits of `a`. -/
def read (memory : Memory) (a : Nat) : UInt8 := memory[Address.ofNat a]

def write (memory : Memory) (a : Nat) (byte : UInt8) : Memory :=
  memory.set (Address.ofNat a) byte

/-- Consecutive bytes from `a` on, running round at the top. -/
def store (memory : Memory) (a : Nat) : List UInt8 → Memory
  | [] => memory
  | byte :: rest => store (memory.write a byte) (a + 1) rest

/-- The first `count` bytes from `a` on, running round at the top. -/
def block (memory : Memory) (a count : Nat) : List UInt8 :=
  (List.range count).map fun k => memory.read (a + k)

theorem read_write (memory : Memory) (a b : Nat) (byte : UInt8) :
    (memory.write a byte).read b = if a % 4096 = b % 4096 then byte else memory.read b := by
  simp [read, write, Vector.getElem_set]

/-- Bytes that fit in memory stand in it one after the other, and leave the rest as it was. -/
theorem read_store (memory : Memory) (bytes : List UInt8) (a b : Nat) (h : bytes.length ≤ 4096) :
    (memory.store a bytes).read b =
      bytes[(b + (4096 - a % 4096)) % 4096]?.getD (memory.read b) := by
  induction bytes generalizing memory a with
  | nil => rfl
  | cons byte rest ih =>
    have hrest : rest.length < 4096 := h
    rw [store, ih _ _ (Nat.le_of_lt hrest), read_write]
    by_cases hab : a % 4096 = b % 4096
    · -- The first byte stands here, and the others do not come round to it.
      have hfirst : (b + (4096 - a % 4096)) % 4096 = 0 := by omega
      have hlast : (b + (4096 - (a + 1) % 4096)) % 4096 = 4095 := by omega
      rw [hfirst, hlast, if_pos hab, List.getElem?_eq_none (by omega)]
      rfl
    · have hnext : (b + (4096 - a % 4096)) % 4096 =
          (b + (4096 - (a + 1) % 4096)) % 4096 + 1 := by omega
      rw [hnext, if_neg hab, List.getElem?_cons_succ]

theorem read_powerOn (a : Nat) : powerOn.read a = font[a % 4096]?.getD 0 := by
  simp [read, powerOn]

theorem read_mod (memory : Memory) (a : Nat) : memory.read (a % 4096) = memory.read a := by
  simp [read, Address.ofNat, Fin.ofNat]

theorem read_val (memory : Memory) (a : Address) : memory.read a = memory.get a := by
  simp [read, Address.ofNat, Vector.get]

/-- Each byte of a block stands at its own address. -/
theorem get_store_of_eq (memory : Memory) {bytes : List UInt8} (h : bytes.length ≤ 4096)
    {start k : Nat} (hk : k < bytes.length) {a : Address} (hka : (start + k) % 4096 = a) :
    (memory.store start bytes).get a = bytes[k] := by
  have hplace : (a.val + (4096 - start % 4096)) % 4096 = k := by omega
  rw [← read_val, read_store memory bytes start a h, hplace, List.getElem?_eq_getElem hk]
  rfl

/-- Outside its addresses a block leaves memory as it was. -/
theorem get_store_of_ne (memory : Memory) {bytes : List UInt8} (h : bytes.length ≤ 4096)
    {start : Nat} {a : Address} (hne : ∀ k < bytes.length, (start + k) % 4096 ≠ a) :
    (memory.store start bytes).get a = memory.get a := by
  have hplace := hne ((a.val + (4096 - start % 4096)) % 4096)
  rw [← read_val, ← read_val, read_store memory bytes start a h, List.getElem?_eq_none]
  · rfl
  · exact Nat.le_of_not_lt fun hlt => hplace hlt (by omega)

@[simp] theorem length_block (memory : Memory) (a count : Nat) :
    (memory.block a count).length = count := by
  simp [block]

theorem getElem_block (memory : Memory) (a count : Nat) {k : Nat}
    (hk : k < (memory.block a count).length) : (memory.block a count)[k] = memory.read (a + k) := by
  simp [block]

theorem ext_read {memory other : Memory} (h : ∀ a : Nat, memory.read a = other.read a) :
    memory = other := by
  apply Vector.ext
  intro a ha
  have hget := h (⟨a, ha⟩ : Address)
  rwa [read_val, read_val] at hget

theorem read_store_add (memory : Memory) (a : Nat) {bytes : List UInt8} (h : bytes.length ≤ 4096)
    {k : Nat} (hk : k < bytes.length) : (memory.store a bytes).read (a + k) = bytes[k] := by
  have hplace : (a + k + (4096 - a % 4096)) % 4096 = k := by omega
  rw [read_store memory bytes a (a + k) h, hplace, List.getElem?_eq_getElem hk]
  rfl

/-- Bytes that stand there already need not be stored. -/
theorem store_take (memory : Memory) (a count : Nat) {bytes : List UInt8}
    (h : bytes.length ≤ 4096)
    (hrest : ∀ (k : Nat) (hk : k < bytes.length), count ≤ k → bytes[k] = memory.read (a + k)) :
    memory.store a (bytes.take count) = memory.store a bytes := by
  apply ext_read
  intro b
  have hlength : (bytes.take count).length ≤ 4096 := by
    rw [List.length_take]
    omega
  rw [read_store memory _ a b hlength, read_store memory _ a b h, List.getElem?_take]
  split
  · rfl
  · next hcount =>
    cases hbyte : bytes[(b + (4096 - a % 4096)) % 4096]? with
    | none => rfl
    | some byte =>
      obtain ⟨hk, rfl⟩ := List.getElem?_eq_some_iff.mp hbyte
      have hplace : (a + (b + (4096 - a % 4096)) % 4096) % 4096 = b % 4096 := by omega
      rw [Option.getD_none, Option.getD_some, hrest _ hk (Nat.le_of_not_lt hcount), ← read_mod,
        ← hplace, read_mod]

/-- Storing the bytes that stand there already changes nothing. -/
theorem store_block (memory : Memory) (a : Nat) {count : Nat} (h : count ≤ 4096) :
    memory.store a (memory.block a count) = memory :=
  (store_take memory a 0 (by rwa [length_block]) fun _ hk _ => getElem_block memory a count hk).symm

end Memory
end Chip8
