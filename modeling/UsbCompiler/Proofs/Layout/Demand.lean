import UsbCompiler.PacketMemory.Demand
import UsbCompiler.Proofs.ReceiveClass
import UsbCompiler.Proofs.Results

/-!
# `UsbCompiler.Proofs.Layout.Demand` — demands and their reservations

A demand is met by one or two buffers. Reservations are described here as values, the region that comes next
and the memory after it, so that later modules can speak of the outcome of a chain of reservations without
running it.

## Contents
- `PacketMemory.nextEntry`, `nextBuffer` and the memory after them.
- `bufferSize_spec`: buffers are even and hold their packets; `exists_bufferSize`: the packets that have one.
- `Demand.Meets` and `Demand.ofRequest_eq_ok_iff`: the demand of a request.
- `Demand.occupied`, `Demand.remaining`, `Demand.Fits` and `Demand.fill_eq_ok_iff`: reserving the buffers.
- `Demand.frame_occupied`: what this leaves alone.
-/

namespace UsbCompiler

/-! ## Reservations as values -/

namespace PacketMemory

variable {memory rest : PacketMemory} {size : Int} {region : Region}

/-- The region of the next table entry. -/
def nextEntry (memory : PacketMemory) : Region := ⟨memory.tableEnd, 8⟩

/-- Memory without its next table entry. -/
def afterEntry (memory : PacketMemory) : PacketMemory := ⟨memory.tableEnd + 8, memory.bufferStart⟩

/-- The region of the next buffer of a size. -/
def nextBuffer (memory : PacketMemory) (size : Int) : Region :=
  ⟨memory.bufferStart - evenCeil size, evenCeil size⟩

/-- Memory without its next buffer of a size. -/
def afterBuffer (memory : PacketMemory) (size : Int) : PacketMemory :=
  ⟨memory.tableEnd, memory.bufferStart - evenCeil size⟩

/-- Whole entries keep the table aligned. -/
@[simp] theorem aligned_afterEntry (memory : PacketMemory) : memory.afterEntry.tableEnd % 8 = memory.tableEnd % 8 :=
  Int.add_emod_right memory.tableEnd 8

@[simp] theorem free_afterEntry (memory : PacketMemory) : memory.afterEntry.free = memory.free - 8 := by
  simp only [free, afterEntry]
  omega

@[simp] theorem free_afterBuffer (memory : PacketMemory) (size : Int) :
    (memory.afterBuffer size).free = memory.free - evenCeil size := by
  simp only [free, afterBuffer]
  omega

theorem takeEntry_of_hasEntry (h : memory.HasEntry) : memory.takeEntry = .ok (memory.nextEntry, memory.afterEntry) :=
  takeEntry_eq_ok_iff.mpr ⟨h, rfl, rfl⟩

theorem takeEntry_of_unaligned (h : memory.tableEnd % 8 ≠ 0) : memory.takeEntry = .error .unalignedTable :=
  if_pos h

theorem takeEntry_of_lt (haligned : memory.tableEnd % 8 = 0) (h : memory.free < 8) :
    memory.takeEntry = .error .noRoomForEntry :=
  (if_neg (not_not_intro haligned)).trans (if_pos h)

theorem takeBuffer_of_le (h : evenCeil size ≤ memory.free) :
    memory.takeBuffer size = .ok (memory.nextBuffer size, memory.afterBuffer size) :=
  takeBuffer_eq_ok_iff.mpr ⟨h, rfl, rfl⟩

theorem takeBuffer_of_lt (h : memory.free < evenCeil size) :
    memory.takeBuffer size = .error (.noRoomForBuffer (evenCeil size) memory.free) :=
  if_pos h

end PacketMemory

/-! ## The demand of a request -/

/-- A buffer has an even size that is not below the packet size. -/
theorem bufferSize_spec {direction : Direction} {packetSize size : Int}
    (h : bufferSize direction packetSize = .ok size) : packetSize ≤ size ∧ size % 2 = 0 := by
  cases direction with
  | toHost =>
    cases h
    exact ⟨(le_evenCeil packetSize).1, evenCeil_emod_two packetSize⟩
  | toDevice =>
    obtain ⟨cls, hcls, rfl⟩ := map_eq_ok_iff.mp h
    exact ⟨(ReceiveClass.le_size hcls).2, ReceiveClass.size_emod_two hcls⟩

/-- Every packet size up to 1024 has a buffer size in either direction. -/
theorem exists_bufferSize (d : Direction) {packetSize : Int} (hsize : 0 ≤ packetSize ∧ packetSize ≤ 1024) :
    ∃ size, bufferSize d packetSize = .ok size := by
  cases d with
  | toHost => exact ⟨_, rfl⟩
  | toDevice =>
    obtain ⟨cls, hcls⟩ := ReceiveClass.exists_ofPacketSize_iff.mpr hsize
    exact ⟨cls.size, map_eq_ok_iff.mpr ⟨cls, hcls, rfl⟩⟩

namespace Demand

/-- A request that is complete, whose codes mean something and whose packet size has a buffer size, together
    with the demand that says so. -/
structure Meets (request : Endpoint.Request) (doubled : Bool) (demand : Demand) : Prop where
  number : request.number = demand.number
  type : request.type = some demand.type.code
  direction : request.direction = some demand.direction.code
  size : ∃ packetSize, request.maxPacketSize = some packetSize
    ∧ UsbCompiler.bufferSize demand.direction packetSize = .ok demand.bufferSize
  notControl : demand.type ≠ .control
  doubled : demand.doubled = doubled

/-- A request has a demand exactly if it is met. -/
theorem ofRequest_eq_ok_iff {request : Endpoint.Request} {doubled : Bool} {demand : Demand} :
    ofRequest request doubled = .ok demand ↔ Meets request doubled demand := by
  unfold ofRequest
  constructor
  · intro h
    split at h
    · cases h
    · cases h
    · cases h
    · next typeCode directionCode packetSize htype hdirection hsize =>
      split at h
      · cases h
      · cases h
      · cases h
      · next type direction hnot htypeCode hdirectionCode =>
        obtain ⟨size, hbuffer, rfl⟩ := map_eq_ok_iff.mp h
        rw [TransferType.ofCode?_eq_some_iff] at htypeCode
        rw [Direction.ofCode?_eq_some_iff] at hdirectionCode
        subst htypeCode hdirectionCode
        exact ⟨rfl, htype, hdirection, ⟨packetSize, hsize, hbuffer⟩, hnot, rfl⟩
  · rintro ⟨hnumber, htype, hdirection, ⟨packetSize, hsize, hbuffer⟩, hnot, hdoubled⟩
    simp only [htype, hdirection, hsize, TransferType.ofCode?_code, Direction.ofCode?_code]
    obtain ⟨number, type, direction, size, isDoubled⟩ := demand
    cases hnumber
    cases hdoubled
    cases type with
    | control => exact absurd rfl hnot
    | isochronous | bulk | interrupt => exact map_eq_ok_iff.mpr ⟨size, hbuffer, rfl⟩

end Demand

/-! ## Buffers of a demand -/

namespace Demand

variable {demand : Demand}

/-- Whether memory has room for the buffers of a demand. -/
def Fits (demand : Demand) (memory : PacketMemory) : Prop :=
  evenCeil demand.bufferSize ≤ memory.free
    ∧ (demand.doubled = true → 2 * evenCeil demand.bufferSize ≤ memory.free)

/-- Memory after the buffers of a demand. -/
def remaining (demand : Demand) (memory : PacketMemory) : PacketMemory :=
  if demand.doubled then (memory.afterBuffer demand.bufferSize).afterBuffer demand.bufferSize
  else memory.afterBuffer demand.bufferSize

/-- Buffers leave the table as it is. -/
@[simp] theorem tableEnd_remaining (demand : Demand) (memory : PacketMemory) :
    (demand.remaining memory).tableEnd = memory.tableEnd := by
  unfold remaining
  split <;> rfl

/-- A slot after the endpoint of a demand has moved in with its buffers. -/
def occupied (demand : Demand) (slot : Slot) (memory : PacketMemory) : Slot :=
  if demand.doubled then
    { slot with
      transmit := ⟨demand.direction = .toHost, some (memory.nextBuffer demand.bufferSize)⟩
      receive := ⟨demand.direction = .toDevice,
        some ((memory.afterBuffer demand.bufferSize).nextBuffer demand.bufferSize)⟩
      doubleBuffered := true }
  else slot.setHalf demand.direction ⟨true, some (memory.nextBuffer demand.bufferSize)⟩

/-- Filling a slot succeeds exactly if the buffers fit, and then leaves the occupied slot. -/
theorem fill_eq_ok_iff {slot filled : Slot} {memory rest : PacketMemory} :
    demand.fill slot memory = .ok (filled, rest)
      ↔ demand.Fits memory ∧ filled = demand.occupied slot memory ∧ rest = demand.remaining memory := by
  unfold fill Fits occupied remaining
  by_cases hfirst : evenCeil demand.bufferSize ≤ memory.free
  · rw [PacketMemory.takeBuffer_of_le hfirst]
    simp only [bind, Except.bind]
    by_cases hd : demand.doubled = true
    · -- The first buffer is gone from the free space when the second one is reserved.
      simp only [hd, if_true]
      by_cases hsecond : evenCeil demand.bufferSize ≤ (memory.afterBuffer demand.bufferSize).free
      · rw [PacketMemory.takeBuffer_of_le hsecond]
        rw [PacketMemory.free_afterBuffer] at hsecond
        simp only [pure, Except.pure, Except.ok.injEq, Prod.mk.injEq]
        exact ⟨fun h => ⟨⟨hfirst, fun _ => by omega⟩, h.1.symm, h.2.symm⟩, fun h => ⟨h.2.1.symm, h.2.2.symm⟩⟩
      · rw [PacketMemory.takeBuffer_of_lt (by omega)]
        rw [PacketMemory.free_afterBuffer] at hsecond
        refine ⟨nofun, fun h => ?_⟩
        have := h.1.2 trivial
        omega
    · simp only [hd, Bool.false_eq_true, if_false, pure, Except.pure, Except.ok.injEq, Prod.mk.injEq]
      exact ⟨fun h => ⟨⟨hfirst, nofun⟩, h.1.symm, h.2.symm⟩, fun h => ⟨h.2.1.symm, h.2.2.symm⟩⟩
  · rw [PacketMemory.takeBuffer_of_lt (by omega)]
    exact ⟨nofun, fun h => absurd h.1.1 hfirst⟩

theorem occupied_of_single (hd : demand.doubled = false) (slot : Slot) (memory : PacketMemory) :
    demand.occupied slot memory
      = slot.setHalf demand.direction ⟨true, some (memory.nextBuffer demand.bufferSize)⟩ := by
  simp only [occupied, hd, Bool.false_eq_true, if_false]

theorem remaining_of_single (hd : demand.doubled = false) (memory : PacketMemory) :
    demand.remaining memory = memory.afterBuffer demand.bufferSize := by
  simp only [remaining, hd, Bool.false_eq_true, if_false]

/-- An endpoint that moves in leaves number, type and entry of its slot as they are. -/
theorem frame_occupied (slot : Slot) (memory : PacketMemory) :
    (demand.occupied slot memory).number = slot.number
      ∧ (demand.occupied slot memory).type = slot.type
      ∧ (demand.occupied slot memory).entry = slot.entry := by
  by_cases hd : demand.doubled = true
  · simp only [occupied, hd, if_true, and_self]
  · rw [occupied_of_single (by simpa using hd)]
    cases demand.direction with
    | toHost => exact ⟨rfl, rfl, rfl⟩
    | toDevice => exact ⟨rfl, rfl, rfl⟩

@[simp] theorem number_occupied (slot : Slot) (memory : PacketMemory) :
    (demand.occupied slot memory).number = slot.number :=
  (frame_occupied slot memory).1

@[simp] theorem type_occupied (slot : Slot) (memory : PacketMemory) :
    (demand.occupied slot memory).type = slot.type :=
  (frame_occupied slot memory).2.1

@[simp] theorem entry_occupied (slot : Slot) (memory : PacketMemory) :
    (demand.occupied slot memory).entry = slot.entry :=
  (frame_occupied slot memory).2.2

end Demand

end UsbCompiler
