import UsbCompiler.Error

/-!
# `UsbCompiler.PacketMemory` — memory that is taken from both ends

The packet memory of the peripheral has 512 bytes. The descriptor table grows from its start upwards, one entry
of 8 bytes for each endpoint; packet buffers grow from its end downwards. Nothing is given back.

## Contents
- `Region`: a piece of packet memory.
- `PacketMemory` with `empty` and `free`, and the three operations `takeEntry`, `takeBuffer` and `require`.
- `takeEntry_eq_ok_iff`, `takeBuffer_eq_ok_iff` and `require_eq_ok_iff`: when they succeed, and with what.
-/

namespace UsbCompiler

/-- A piece of packet memory. -/
structure Region where
  /-- The byte offset from the start of packet memory. -/
  address : Int
  /-- The size in bytes. -/
  size : Int
deriving DecidableEq

/-- The smallest even number that is not below `n`. -/
def evenCeil (n : Int) : Int := 2 * ((n + 1) / 2)

/-- What is left of packet memory: the bytes from `tableEnd` up to `bufferStart`. -/
structure PacketMemory where
  /-- The end of the descriptor table. -/
  tableEnd : Int
  /-- The start of the lowest packet buffer. -/
  bufferStart : Int
deriving DecidableEq

namespace PacketMemory

/-- The size of packet memory in bytes. -/
def size : Int := 512

/-- The size of a descriptor table entry in bytes. -/
def entrySize : Int := 8

/-- Packet memory with nothing reserved. -/
def empty : PacketMemory := ⟨0, size⟩

/-- The number of bytes left. -/
def free (memory : PacketMemory) : Int := memory.bufferStart - memory.tableEnd

/-- Reserves the next descriptor table entry. Entries are aligned to their size. As they all have the same size, a
    table that began at 0 ends at a multiple of it. -/
def takeEntry (memory : PacketMemory) : Except Error (Region × PacketMemory) :=
  if memory.tableEnd % entrySize ≠ 0 then .error .unalignedTable
  else if memory.free < entrySize then .error .noRoomForEntry
  else .ok (⟨memory.tableEnd, entrySize⟩, { memory with tableEnd := memory.tableEnd + entrySize })

/-- Reserves a packet buffer below the lowest one. Buffers are aligned to 16 bits, so their size is rounded up
    to an even number. -/
def takeBuffer (memory : PacketMemory) (size : Int) : Except Error (Region × PacketMemory) :=
  if memory.free < evenCeil size then .error (.noRoomForBuffer (evenCeil size) memory.free)
  else
    let start := memory.bufferStart - evenCeil size
    .ok (⟨start, evenCeil size⟩, { memory with bufferStart := start })

/-- Fails if fewer bytes are left than an endpoint needs. -/
def require (memory : PacketMemory) (needed : Int) : Except Error Unit :=
  if memory.free < needed then .error (.noRoomForEndpoint needed memory.free) else .ok ()

/-- **The next entry.** It is to be had if the table is aligned and its eight bytes are left. -/
structure HasEntry (memory : PacketMemory) : Prop where
  aligned : memory.tableEnd % 8 = 0
  room : 8 ≤ memory.free

/-- An entry begins where the table ends. -/
theorem takeEntry_eq_ok_iff {memory rest : PacketMemory} {region : Region} :
    memory.takeEntry = .ok (region, rest)
      ↔ memory.HasEntry ∧ region = ⟨memory.tableEnd, 8⟩
        ∧ rest = ⟨memory.tableEnd + 8, memory.bufferStart⟩ := by
  unfold takeEntry entrySize
  split
  · next unaligned => exact ⟨nofun, fun h => absurd h.1.aligned unaligned⟩
  · next aligned =>
    split
    · next short => exact ⟨nofun, fun h => absurd h.1.room (by omega)⟩
    · next enough =>
      simp only [Except.ok.injEq, Prod.mk.injEq]
      exact ⟨fun h => ⟨⟨by omega, by omega⟩, h.1.symm, h.2.symm⟩, fun h => ⟨h.2.1.symm, h.2.2.symm⟩⟩

/-- A buffer is to be had as long as its even size is left. It ends where the lowest buffer begins. -/
theorem takeBuffer_eq_ok_iff {memory rest : PacketMemory} {size : Int} {region : Region} :
    memory.takeBuffer size = .ok (region, rest)
      ↔ evenCeil size ≤ memory.free ∧ region = ⟨memory.bufferStart - evenCeil size, evenCeil size⟩
        ∧ rest = ⟨memory.tableEnd, memory.bufferStart - evenCeil size⟩ := by
  unfold takeBuffer
  split
  · next short => exact ⟨nofun, fun h => absurd h.1 (by omega)⟩
  · next enough =>
    simp only [Except.ok.injEq, Prod.mk.injEq]
    exact ⟨fun h => ⟨by omega, h.1.symm, h.2.symm⟩, fun h => ⟨h.2.1.symm, h.2.2.symm⟩⟩

theorem require_eq_ok_iff {memory : PacketMemory} {needed : Int} :
    memory.require needed = .ok () ↔ needed ≤ memory.free := by
  unfold require
  split
  · next short => exact ⟨nofun, fun h => absurd h (by omega)⟩
  · next enough => exact ⟨fun _ => by omega, fun _ => rfl⟩

end PacketMemory

theorem le_evenCeil (n : Int) : n ≤ evenCeil n ∧ evenCeil n ≤ n + 1 := by
  unfold evenCeil; omega

@[simp] theorem evenCeil_emod_two (n : Int) : evenCeil n % 2 = 0 := by
  unfold evenCeil; omega

/-- Even numbers are left as they are. -/
theorem evenCeil_of_even {n : Int} (even : n % 2 = 0) : evenCeil n = n := by
  unfold evenCeil; omega

end UsbCompiler
