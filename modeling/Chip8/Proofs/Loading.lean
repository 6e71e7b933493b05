import Chip8.Listing
import Chip8.Proofs.Attempt

/-! A program image in its listing and in memory. Both put its bytes from the same address on, two
to a word and the high one first, so what is listed for an address is what is fetched from it. -/
namespace Chip8

namespace Listing
variable {start : Int} {image : List UInt8} {line : Line}

def wordLine (address : Int) (high low : UInt8) : Line :=
  let word := pack high low
  ⟨address, word, (Instruction.decode word.toNat).text?.getD ("DW 0x" ++ Numeral.hex 4 word.toNat)⟩

def byteLine (address : Int) (byte : UInt8) : Line :=
  ⟨address, byte.toUInt16, "DB 0x" ++ Numeral.hex 2 byte.toNat⟩

namespace Line

def keyword (line : Line) : String := String.ofList (line.text.toList.takeWhile (· ≠ ' '))

def bytes (line : Line) : List UInt8 :=
  if line.keyword = "DB" then [line.word.toUInt8]
  else [(line.word >>> 8).toUInt8, line.word.toUInt8]

end Line

/-- From one address on the lines stand for these bytes, without a gap and without an overlap. -/
inductive Tiles : Int → List Line → List UInt8 → Prop
  | nil (start : Int) : Tiles start [] []
  | cons (line : Line) {lines : List Line} {rest : List UInt8} :
    Tiles (line.address + line.bytes.length) lines rest →
    Tiles line.address (line :: lines) (line.bytes ++ rest)

theorem keyword_operation (address : Int) (word : UInt16) (i : Instruction) (op : Operation) :
    let line : Line := ⟨address, word, op.text i⟩
    line.keyword ≠ "DB" ∧ line.keyword ≠ "DW" ∧ (line.keyword = "SYS" ↔ op = .machineCall) := by
  cases op <;> simp [Line.keyword, Operation.text]

@[simp] theorem keyword_byteLine (address : Int) (byte : UInt8) :
    (byteLine address byte).keyword = "DB" := by
  simp [Line.keyword, byteLine]

private theorem keyword_wordLine (address : Int) (high low : UInt8) :
    let line := wordLine address high low
    line.keyword ≠ "DB" ∧
      (line.keyword = "DW" ↔ (Instruction.decode line.word.toNat).operation? = none) ∧
      (line.keyword = "SYS" ↔
        (Instruction.decode line.word.toNat).operation? = some .machineCall) := by
  simp only [wordLine, Instruction.text?]
  cases (Instruction.decode (pack high low).toNat).operation? with
  | none => simp [Line.keyword]
  | some op =>
    obtain ⟨hbyte, hword, hcall⟩ :=
      keyword_operation address (pack high low) (Instruction.decode (pack high low).toNat) op
    exact ⟨hbyte, iff_of_false hword nofun, hcall.trans Option.some_inj.symm⟩

private theorem toNat_pack (high low : UInt8) :
    (pack high low).toNat = 256 * high.toNat + low.toNat :=
  Machine.toNat_of_bytes high low

@[simp] theorem bytes_wordLine (address : Int) (high low : UInt8) :
    (wordLine address high low).bytes = [high, low] := by
  have hhigh : (pack high low >>> 8).toUInt8 = high := by
    apply UInt8.toNat_inj.mp
    have hlt := high.toNat_lt
    have hlow := low.toNat_lt
    rw [UInt16.toNat_toUInt8, UInt16.toNat_shiftRight, toNat_pack, Nat.shiftRight_eq_div_pow]
    show (256 * high.toNat + low.toNat) / 2 ^ 8 % 256 = _
    omega
  have hlow : (pack high low).toUInt8 = low := by
    apply UInt8.toNat_inj.mp
    have hlt := low.toNat_lt
    rw [UInt16.toNat_toUInt8, toNat_pack]
    omega
  rw [Line.bytes, if_neg (keyword_wordLine address high low).1]
  simp only [wordLine, hhigh, hlow]

@[simp] theorem bytes_byteLine (address : Int) (byte : UInt8) :
    (byteLine address byte).bytes = [byte] := by
  rw [Line.bytes, if_pos (keyword_byteLine address byte)]
  simp [byteLine]

private theorem ofBytes_tiles (start : Int) (image : List UInt8) :
    Tiles start (ofBytes start image) image := by
  fun_induction ofBytes start image with
  | case1 start high low rest _ _ ih =>
    have hbytes := bytes_wordLine start high low
    have htiles : Tiles (start + (wordLine start high low).bytes.length)
        (ofBytes (start + 2) rest) rest := by
      rw [hbytes]
      exact ih
    have hline := Tiles.cons (wordLine start high low) htiles
    rw [hbytes] at hline
    exact hline
  | case2 start last =>
    have hline := Tiles.cons (byteLine start last) (.nil _)
    rw [bytes_byteLine] at hline
    exact hline
  | case3 start => exact .nil start

private theorem ofBytes_addresses (start : Int) (image : List UInt8) :
    (ofBytes start image).map Line.address =
      (List.range ((image.length + 1) / 2)).map fun k : Nat => start + 2 * (k : Int) := by
  fun_induction ofBytes start image with
  | case1 start high low rest _ _ ih =>
    have hlength : ((high :: low :: rest).length + 1) / 2 = (rest.length + 1) / 2 + 1 := by
      simp only [List.length_cons]
      omega
    have hnext (k : Nat) : start + 2 + 2 * (k : Int) = start + 2 * ((k + 1 : Nat) : Int) := by
      omega
    rw [hlength, List.range_succ_eq_map, List.map_cons, List.map_cons, ih, List.map_map]
    simp only [hnext]
    simp
  | case2 start last => simp
  | case3 start => rfl

private theorem mem_ofBytes (h : line ∈ ofBytes start image) :
    (∃ front high low back, image = front ++ high :: low :: back ∧
      line = wordLine (start + front.length) high low) ∨
    ∃ front byte, image = front ++ [byte] ∧ line = byteLine (start + front.length) byte := by
  fun_induction ofBytes start image with
  | case1 start high low rest word text ih =>
    have hlength (front : List UInt8) : start + (high :: low :: front).length =
        start + 2 + front.length := by
      simp only [List.length_cons]
      omega
    rcases List.mem_cons.mp h with hfirst | hrest
    · refine .inl ⟨[], high, low, rest, rfl, ?_⟩
      exact hfirst.trans (congrArg (wordLine · high low) (Int.add_zero start).symm)
    · obtain ⟨front, a, b, back, himage, hline⟩ | ⟨front, byte, himage, hline⟩ := ih hrest
      · refine .inl ⟨high :: low :: front, a, b, back, by rw [himage]; rfl, ?_⟩
        rw [hline, hlength]
      · refine .inr ⟨high :: low :: front, byte, by rw [himage]; rfl, ?_⟩
        rw [hline, hlength]
  | case2 start last =>
    exact .inr ⟨[], last, rfl, (List.mem_singleton.mp h).trans (by simp [byteLine])⟩
  | case3 start => cases h

private theorem countP_byteLines (start : Int) (image : List UInt8) :
    (ofBytes start image).countP (fun line => line.keyword = "DB") = image.length % 2 := by
  fun_induction ofBytes start image with
  | case1 start high low rest _ _ ih =>
    have hword : ¬(wordLine start high low).keyword = "DB" := (keyword_wordLine start high low).1
    have hrest : (high :: low :: rest).length % 2 = rest.length % 2 := by
      simp only [List.length_cons]
      omega
    rw [hrest, ← ih]
    exact List.countP_cons_of_neg (mt of_decide_eq_true hword)
  | case2 start last =>
    exact List.countP_cons_of_pos (decide_eq_true (keyword_byteLine start last))
  | case3 start => rfl

end Listing

namespace Machine
open Listing
variable {m loaded : Machine} {image : List UInt8} {line : Line}

/-- `loaded` is `m` with the image in its memory, which is otherwise as it was. -/
structure Holds (m : Machine) (image : List UInt8) (loaded : Machine) : Prop where
  others : loaded = { m with memory := loaded.memory }
  inside : ∀ k (_ : k < image.length) (a : Address), a.val = programStart + k →
    loaded.memory.get a = image[k]
  only_inside : ∀ a : Address, loaded.memory.get a ≠ m.memory.get a →
    programStart ≤ a.val ∧ a.val < programStart + image.length

private theorem loadProgram_holds (h : image.length ≤ programLimit) :
    ∃ loaded, m.loadProgram image = .ok loaded ∧ m.Holds image loaded := by
  have hlimit : programLimit = 3584 := rfl
  have hstart : programStart = 512 := rfl
  refine ⟨_, if_neg (Nat.not_lt.mpr h), rfl, ?_, ?_⟩
  · intro k hk a ha
    exact m.memory.get_store_of_eq (by omega) hk (by omega)
  · intro a hne
    by_contra hout
    exact hne (m.memory.get_store_of_ne (by omega) fun k hk => by omega)

/-- The byte at a place of the image, read at any number with the same low twelve bits. -/
theorem Holds.read (h : m.Holds image loaded) (hlimit : image.length ≤ programLimit) (k : Nat)
    (hk : k < image.length) {b : Nat} (hb : b % 4096 = (programStart + k) % 4096) :
    loaded.memory.read b = image[k] := by
  have hvalue : programLimit = 3584 ∧ programStart = 512 := ⟨rfl, rfl⟩
  exact h.inside k hk (Address.ofNat b) (by rw [Address.val_ofNat]; omega)

/-- From the address of a line, or from one with the same low twelve bits, the word of the line is
fetched, and its keyword tells whether and why it is refused. -/
structure Reads (loaded : Machine) (line : Line) : Prop where
  word : ∀ pc : UInt16, (pc.toNat : Int) % 4096 = line.address % 4096 →
    { loaded with pc }.fetch.2 = line.word
  unknown : ∀ (s : Machine) (address : Int),
    (s.check line.word.toNat address).map Fault.kind = some .unknownOpcode ↔ line.keyword = "DW"
  machineCall : ∀ (s : Machine) (address : Int),
    (s.check line.word.toNat address).map Fault.kind = some .machineCall ↔ line.keyword = "SYS"

private theorem Holds.reads_wordLine (h : m.Holds image loaded)
    (hlimit : image.length ≤ programLimit)
    {front back : List UInt8} {high low : UInt8} (himage : image = front ++ high :: low :: back) :
    loaded.Reads (wordLine (programStart + front.length) high low) := by
  obtain ⟨-, hunknown, hcall⟩ := keyword_wordLine (programStart + front.length) high low
  refine ⟨fun pc hpc => ?_, fun s address => ?_, fun s address => ?_⟩
  · have haddress : (pc.toNat : Int) % 4096 = (programStart + front.length : Int) % 4096 := hpc
    have hhigh : loaded.memory.read pc.toNat = high := by
      rw [h.read hlimit front.length (by simp [himage]) (by omega)]
      simp [himage]
    have hlow : loaded.memory.read (pc.toNat + 1) = low := by
      rw [h.read hlimit (front.length + 1) (by simp [himage]) (by omega)]
      simp [himage]
    exact word_of_read hhigh hlow
  · exact (check_kind_iff s _ address).1.trans hunknown.symm
  · exact (check_kind_iff s _ address).2.trans hcall.symm

private theorem Holds.reads_byteLine (h : m.Holds image loaded)
    (hlimit : image.length ≤ programLimit)
    {front : List UInt8} {byte : UInt8} (himage : image = front ++ [byte]) {pc : UInt16}
    (hpc : (pc.toNat : Int) % 4096 = (programStart + front.length : Int) % 4096) :
    { loaded with pc }.fetch.2.toNat / 256 = byte.toNat := by
  have hhigh : loaded.memory.read pc.toNat = byte := by
    rw [h.read hlimit front.length (by simp [himage]) (by omega)]
    simp [himage]
  have hlt := (loaded.memory.read (pc.toNat + 1)).toNat_lt
  have hfetch : { loaded with pc }.fetch.2.toNat =
      256 * byte.toNat + (loaded.memory.read (pc.toNat + 1)).toNat :=
    (congrArg UInt16.toNat (word_of_read hhigh rfl)).trans (toNat_of_bytes _ _)
  omega

/-- A listing shows the program as it stands in memory. Loading places the image and changes nothing
else; the listing goes through all of its bytes, a word to a line; and for each line the machine
fetches what is shown and refuses what is shown as data or as a machine call. An image that does not
fit is not loaded. -/
theorem listing_shows_loaded_program (m : Machine) (image : List UInt8) :
    let lines := ofBytes programStart image
    (programLimit < image.length → m.loadProgram image = .error ⟨image.length⟩) ∧
    (image.length ≤ programLimit → ∃ loaded,
      m.loadProgram image = .ok loaded ∧ m.Holds image loaded ∧
      (lines.map Line.address =
        (List.range ((image.length + 1) / 2)).map fun k : Nat => (programStart + 2 * k : Int)) ∧
      Tiles programStart lines image ∧
      lines.countP (fun line => line.keyword = "DB") = image.length % 2 ∧
      (∀ line ∈ lines, line.keyword ≠ "DB" → loaded.Reads line) ∧
      ∀ line ∈ lines, line.keyword = "DB" → ∃ front byte, image = front ++ [byte] ∧
        line = byteLine (programStart + front.length) byte ∧
        ∀ pc : UInt16, (pc.toNat : Int) % 4096 = line.address % 4096 →
          { loaded with pc }.fetch.2.toNat / 256 = byte.toNat) := by
  intro lines
  refine ⟨fun hlarge => if_pos hlarge, fun hlimit => ?_⟩
  obtain ⟨loaded, hload, hholds⟩ := loadProgram_holds (m := m) hlimit
  refine ⟨loaded, hload, hholds, ofBytes_addresses _ image, ofBytes_tiles _ image,
    countP_byteLines _ image, ?_, ?_⟩
  · intro line hline hword
    obtain ⟨front, high, low, back, himage, rfl⟩ | ⟨front, byte, -, rfl⟩ := mem_ofBytes hline
    · exact hholds.reads_wordLine hlimit himage
    · exact absurd (keyword_byteLine _ _) hword
  · intro line hline hbyte
    obtain ⟨front, high, low, back, -, rfl⟩ | ⟨front, byte, himage, rfl⟩ := mem_ofBytes hline
    · exact absurd hbyte (keyword_wordLine _ _ _).1
    · exact ⟨front, byte, himage, rfl, fun pc hpc => hholds.reads_byteLine hlimit himage hpc⟩

end Machine
end Chip8
