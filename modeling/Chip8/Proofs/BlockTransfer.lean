import Chip8.Proofs.Stores

/-! Registers to memory and back. The words FX55 and FX65 move the same block in the two directions,
so either of them undoes what the other has moved, at every index, whether or not the block runs
round the top of memory. -/
namespace Chip8.Machine
variable {m : Machine} {x : Fin 16}

private theorem nextIndex_toNat (m : Machine) (x : Fin 16) :
    (m.nextIndex x).toNat = (m.i.toNat + x + 1) % 65536 := by
  rw [nextIndex, UInt16.toNat_add, UInt16.toNat_ofNat']
  omega

private theorem loadRegisters_memory (i : Instruction) (m : Machine) :
    (loadRegisters i m).memory = m.memory := rfl

private theorem firstRegisters_loadRegisters (i : Instruction) (m : Machine) :
    (loadRegisters i m).firstRegisters i.x = m.memory.block m.i.toNat (i.x + 1) := by
  apply List.ext_getElem
  · rw [length_firstRegisters, Memory.length_block]
  · intro k hk hk'
    rw [Memory.length_block] at hk'
    have h16 : k < 16 := by omega
    have hle : (⟨k, h16⟩ : Fin 16) ≤ i.x := Nat.le_of_lt_succ hk'
    rw [Memory.getElem_block, getElem_firstRegisters _ _ ⟨k, h16⟩ hk, loadRegisters_get, if_pos hle]

/-- A store puts the first registers where a load with the same index finds them. -/
theorem read_storeRegisters (i : Instruction) (m : Machine) {k : Fin 16} (hk : k ≤ i.x) :
    (storeRegisters i m).memory.read (m.i.toNat + k) = m.v.get k := by
  have hlength : (m.firstRegisters i.x).length ≤ 4096 := by
    rw [length_firstRegisters]
    omega
  have hlt : k.val < (m.firstRegisters i.x).length := by
    rw [length_firstRegisters]
    exact Nat.lt_succ_of_le hk
  rw [← getElem_firstRegisters m i.x k hlt, storeRegisters_memory]
  exact m.memory.read_store_add m.i.toNat hlength hlt

private theorem storeRegisters_of_load {i j : Instruction} (hx : j.x = i.x) (m : Machine) :
    (storeRegisters j { loadRegisters i m with i := m.i }).memory = m.memory := by
  have hfirst : { loadRegisters i m with i := m.i }.firstRegisters j.x =
      m.memory.block m.i.toNat (i.x + 1) := by
    rw [← firstRegisters_loadRegisters, firstRegisters, hx, firstRegisters]
  rw [storeRegisters_memory, hfirst]
  dsimp only
  rw [loadRegisters_memory]
  exact Memory.store_block _ _ (by omega)

private theorem execute_store (m : Machine) (x : Fin 16) :
    m.execute (Instruction.word ⟨0xF, x, 0x5, 0x5⟩).toNat =
      .ok (storeRegisters ⟨0xF, x, 0x5, 0x5⟩ m) := by
  have hop : Instruction.operation? ⟨0xF, x, 0x5, 0x5⟩ = some .store := rfl
  exact execute_of_admits (.of_operation? hop nofun nofun nofun)

private theorem execute_load (m : Machine) (x : Fin 16) :
    m.execute (Instruction.word ⟨0xF, x, 0x6, 0x5⟩).toNat =
      .ok (loadRegisters ⟨0xF, x, 0x6, 0x5⟩ m) := by
  have hop : Instruction.operation? ⟨0xF, x, 0x6, 0x5⟩ = some .load := rfl
  exact execute_of_admits (.of_operation? hop nofun nofun nofun)

/-- Between the two words only the index has to be set back. A load after a store gives V0 to VX
back their values, whatever was done to the registers in between, and keeps the other registers
and memory. A store after a load leaves memory as it was. Each moves the index past its block. -/
theorem block_transfers_invert (m : Machine) (x : Fin 16) :
    (∃ stored, m.execute (Instruction.word ⟨0xF, x, 0x5, 0x5⟩).toNat = .ok stored ∧
      stored.i.toNat = (m.i.toNat + x + 1) % 65536 ∧
      ∀ registers : Registers, ∃ loaded,
        { stored with v := registers, i := m.i }.execute
          (Instruction.word ⟨0xF, x, 0x6, 0x5⟩).toNat = .ok loaded ∧
        loaded.i.toNat = (m.i.toNat + x + 1) % 65536 ∧
        (∀ k ≤ x, loaded.v.get k = m.v.get k) ∧
        (∀ k, x < k → loaded.v.get k = registers.get k) ∧
        loaded.memory = stored.memory) ∧
    ∃ loaded, m.execute (Instruction.word ⟨0xF, x, 0x6, 0x5⟩).toNat = .ok loaded ∧
      loaded.i.toNat = (m.i.toNat + x + 1) % 65536 ∧
      ∃ stored,
        { loaded with i := m.i }.execute (Instruction.word ⟨0xF, x, 0x5, 0x5⟩).toNat =
          .ok stored ∧
        stored.i.toNat = (m.i.toNat + x + 1) % 65536 ∧
        stored.memory = m.memory := by
  constructor
  · refine ⟨_, execute_store m x, nextIndex_toNat m x, fun registers => ?_⟩
    refine ⟨_, execute_load _ x, nextIndex_toNat _ x, fun k hk => ?_, fun k hk => ?_,
      loadRegisters_memory _ _⟩
    · rw [loadRegisters_get, if_pos hk]
      exact read_storeRegisters _ m hk
    · rw [loadRegisters_get, if_neg (Fin.not_le.mpr hk)]
  · refine ⟨_, execute_load m x, nextIndex_toNat m x, _, execute_store _ x,
      nextIndex_toNat _ x, ?_⟩
    exact storeRegisters_of_load rfl m

end Chip8.Machine
