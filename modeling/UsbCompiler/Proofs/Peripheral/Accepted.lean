import UsbCompiler.Peripheral
import UsbCompiler.Proofs.ReceiveClass
import UsbCompiler.Proofs.Results

/-!
# `UsbCompiler.Proofs.Peripheral.Accepted` — the slots that have a setup

A slot that was made by hand can have any number, addresses and sizes. It has a setup unless the hardware could
not be told about it: the hardware has 16 endpoints, it takes no double-buffered ones, and it knows the size of
a receive buffer only from the receive count register. A transmit buffer can be anything.

## Contents
- `Region.toReceiveBuffer_eq_ok_iff`, `Region.exists_toReceiveBuffer_iff`: receive buffers.
- `Peripheral.Buffer.Sends` and `Peripheral.Buffer.Receives`: what a buffer tells the hardware.
- `Slot.Programmable` and `Peripheral.Endpoint.Shows`: the slots that have a setup, and what it says.
- `Slot.toPeripheral_accepts`: exactly these slots have one, with this content.
-/

namespace UsbCompiler

/-! ## Receive buffers -/

namespace Region

variable {region : Region} {buffer : Peripheral.Buffer}

/-- A receive buffer is taken over if rounding leaves its size alone, with the bits of its class. -/
theorem toReceiveBuffer_eq_ok_iff :
    region.toReceiveBuffer = .ok buffer
      ↔ ∃ cls, ReceiveClass.ofPacketSize region.size = .ok cls ∧ (cls.size : Int) = region.size
        ∧ buffer = ⟨region.address / 2, region.size / 2, cls.count⟩ := by
  unfold toReceiveBuffer
  cases hcls : ReceiveClass.ofPacketSize region.size with
  | error e => exact ⟨nofun, fun ⟨_, hok, _⟩ => by cases hok⟩
  | ok cls =>
    constructor
    · intro h
      dsimp only at h
      split at h
      · next hsize => exact ⟨cls, rfl, hsize, (Except.ok.inj h).symm⟩
      · cases h
    · rintro ⟨_, hok, hsize, rfl⟩
      cases hok
      exact if_pos hsize

/-- These are the receive buffers of describable sizes. -/
theorem exists_toReceiveBuffer_iff :
    (∃ buffer, region.toReceiveBuffer = .ok buffer) ↔ ReceiveClass.Describable region.size := by
  rw [← ReceiveClass.exists_own_class_iff]
  constructor
  · rintro ⟨buffer, h⟩
    obtain ⟨cls, hcls, hsize, _⟩ := toReceiveBuffer_eq_ok_iff.mp h
    exact ⟨cls, hcls, hsize⟩
  · rintro ⟨cls, hcls, hsize⟩
    exact ⟨_, toReceiveBuffer_eq_ok_iff.mpr ⟨cls, hcls, hsize, rfl⟩⟩

end Region

/-! ## What a setup tells the hardware -/

namespace Peripheral

/-- A transmit buffer in words. The receive count stays zero, whatever the size. -/
structure Buffer.Sends (region : Region) (buffer : Buffer) : Prop where
  offset : buffer.offset = region.address / 2
  size : buffer.size = region.size / 2
  receiveCount : buffer.receiveCount = 0

/-- A receive buffer in words. The receive count is the one register value of its size. -/
structure Buffer.Receives (region : Region) (buffer : Buffer) : Prop where
  offset : buffer.offset = region.address / 2
  size : buffer.size = region.size / 2
  receiveCount : ∀ count, ReceiveClass.Counts count region.size ↔ count = buffer.receiveCount

/-- **The content of a setup.** Number, type, flags and table entry are those of the slot, and each of its
    buffers is there in words, with nothing in place of a buffer that the slot does not have. -/
structure Endpoint.Shows (endpoint : Endpoint) (slot : Slot) : Prop where
  number : endpoint.number = slot.number
  type : endpoint.type = slot.type
  transmitEnabled : endpoint.transmitEnabled = slot.transmit.enabled
  receiveEnabled : endpoint.receiveEnabled = slot.receive.enabled
  entry : endpoint.entryOffset = slot.entry.address
  transmit : Option.Rel Buffer.Sends slot.transmit.buffer endpoint.transmitBuffer
  receive : Option.Rel Buffer.Receives slot.receive.buffer endpoint.receiveBuffer

end Peripheral

namespace Region

theorem sends_toTransmitBuffer (region : Region) : region.toTransmitBuffer.Sends region := ⟨rfl, rfl, rfl⟩

theorem receives_of_toReceiveBuffer {region : Region} {buffer : Peripheral.Buffer}
    (h : region.toReceiveBuffer = .ok buffer) : buffer.Receives region := by
  obtain ⟨cls, hcls, hsize, rfl⟩ := toReceiveBuffer_eq_ok_iff.mp h
  have hcounts := ReceiveClass.counts_of_class hcls
  rw [hsize] at hcounts
  refine ⟨rfl, rfl, fun count => ⟨fun h => h.unique hcounts, ?_⟩⟩
  rintro rfl
  exact hcounts

end Region

/-! ## Slots -/

namespace Slot

variable {slot : Slot} {endpoint : Peripheral.Endpoint}

/-- **Programmable slots.** The slots that the hardware can be told about. -/
structure Programmable (slot : Slot) : Prop where
  single : slot.doubleBuffered = false
  number : 0 ≤ slot.number ∧ slot.number ≤ 15
  receive : ∀ region, slot.receive.buffer = some region → ReceiveClass.Describable region.size

/-- All that decides about a slot. -/
theorem toPeripheral_eq_ok_iff :
    slot.toPeripheral = .ok endpoint
      ↔ slot.doubleBuffered = false ∧ (0 ≤ slot.number ∧ slot.number ≤ 15)
        ∧ ∃ receiveBuffer,
          Option.Rel (fun region buffer => region.toReceiveBuffer = .ok buffer) slot.receive.buffer receiveBuffer
            ∧ endpoint = ⟨slot.number, slot.type, slot.transmit.enabled, slot.receive.enabled, slot.entry.address,
              slot.transmit.buffer.map Region.toTransmitBuffer, receiveBuffer⟩ := by
  unfold toPeripheral
  cases hdouble : slot.doubleBuffered with
  | true => exact ⟨nofun, fun h => by cases h.1⟩
  | false =>
    rw [if_neg Bool.false_ne_true]
    split
    · next hout => exact ⟨nofun, fun h => by omega⟩
    · next hin =>
      rw [map_eq_ok_iff]
      constructor
      · rintro ⟨receiveBuffer, hreceive, rfl⟩
        exact ⟨rfl, by omega, receiveBuffer, option_mapM_eq_ok_iff.mp hreceive, rfl⟩
      · rintro ⟨_, _, receiveBuffer, hreceive, rfl⟩
        exact ⟨receiveBuffer, option_mapM_eq_ok_iff.mpr hreceive, rfl⟩

/-- The receive half has a setup if it has no buffer, or one of a describable size. -/
theorem exists_receive_iff {x : Option Region} :
    (∃ y, Option.Rel (fun region buffer => Region.toReceiveBuffer region = .ok buffer) x y)
      ↔ ∀ region, x = some region → ReceiveClass.Describable region.size := by
  constructor
  · rintro ⟨_, hrel⟩ region rfl
    cases hrel with
    | some hbuffer => exact Region.exists_toReceiveBuffer_iff.mp ⟨_, hbuffer⟩
  · intro h
    cases x with
    | none => exact ⟨none, .none⟩
    | some region =>
      obtain ⟨buffer, hbuffer⟩ := Region.exists_toReceiveBuffer_iff.mpr (h region rfl)
      exact ⟨some buffer, .some hbuffer⟩

theorem exists_toPeripheral_iff : (∃ endpoint, slot.toPeripheral = .ok endpoint) ↔ slot.Programmable := by
  constructor
  · rintro ⟨endpoint, h⟩
    obtain ⟨hsingle, hnumber, receiveBuffer, hreceive, _⟩ := toPeripheral_eq_ok_iff.mp h
    exact ⟨hsingle, hnumber, exists_receive_iff.mp ⟨receiveBuffer, hreceive⟩⟩
  · rintro ⟨hsingle, hnumber, hdescribable⟩
    obtain ⟨receiveBuffer, hreceive⟩ := exists_receive_iff.mpr hdescribable
    exact ⟨_, toPeripheral_eq_ok_iff.mpr ⟨hsingle, hnumber, receiveBuffer, hreceive, rfl⟩⟩

theorem shows_of_toPeripheral (h : slot.toPeripheral = .ok endpoint) : endpoint.Shows slot := by
  obtain ⟨_, _, receiveBuffer, hreceive, rfl⟩ := toPeripheral_eq_ok_iff.mp h
  refine ⟨rfl, rfl, rfl, rfl, rfl, ?_, ?_⟩
  · show Option.Rel _ slot.transmit.buffer (slot.transmit.buffer.map Region.toTransmitBuffer)
    cases slot.transmit.buffer with
    | none => exact .none
    | some region => exact .some region.sends_toTransmitBuffer
  · show Option.Rel _ slot.receive.buffer receiveBuffer
    generalize slot.receive.buffer = buffer at hreceive
    cases hreceive with
    | none => exact .none
    | some hbuffer => exact .some (Region.receives_of_toReceiveBuffer hbuffer)

/-- **Exactly the programmable slots have a setup**, and it shows the slot. The sizes of receive buffers are all
    those that the receive count register can describe. -/
theorem toPeripheral_accepts (slot : Slot) :
    ((∃ endpoint, slot.toPeripheral = .ok endpoint) ↔ slot.Programmable)
      ∧ (∀ size, ReceiveClass.Describable size ↔ ∃ count, (ReceiveClass.describedSize count : Int) = size)
      ∧ ∀ endpoint, slot.toPeripheral = .ok endpoint → endpoint.Shows slot :=
  ⟨exists_toPeripheral_iff, fun _ => ReceiveClass.describable_iff, fun _ => shows_of_toPeripheral⟩

/-- A slot that no layout gives out: its transmit buffer lies nowhere and has an odd size, and its receive
    buffer has the smallest size in blocks of 32 bytes. With one byte less in it, or one block more than there
    are, the slot has no setup. -/
theorem toPeripheral_accepts_handmade :
    let slot (size : Int) : Slot := ⟨15, .interrupt, ⟨-6, 3⟩, ⟨false, some ⟨-7, 2001⟩⟩, ⟨false, some ⟨9, size⟩⟩, false⟩
    let endpoint : Peripheral.Endpoint := ⟨15, .interrupt, false, false, -6, some ⟨-4, 1000, 0⟩, some ⟨4, 32, 0x8400⟩⟩
    (slot 64).toPeripheral = .ok endpoint ∧ endpoint.Shows (slot 64)
      ∧ (¬∃ endpoint, (slot 63).toPeripheral = .ok endpoint)
      ∧ ¬∃ endpoint, (slot 1056).toPeripheral = .ok endpoint := by
  intro slot endpoint
  have hok : (slot 64).toPeripheral = .ok endpoint := rfl
  refine ⟨hok, (toPeripheral_accepts _).2.2 endpoint hok, fun h => ?_, fun h => ?_⟩
  · exact absurd (((toPeripheral_accepts _).1.mp h).receive _ rfl) (by decide)
  · exact absurd (((toPeripheral_accepts _).1.mp h).receive _ rfl) (by decide)

end Slot

end UsbCompiler
