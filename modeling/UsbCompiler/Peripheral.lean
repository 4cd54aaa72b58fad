import UsbCompiler.PacketMemory.Layout

/-!
# `UsbCompiler.Peripheral` — what the driver of the peripheral programs

The peripheral addresses packet memory in words of 16 bits, and a driver walks over the endpoints in the order
of their numbers. A layout is turned into that form once and for all when the device is compiled.

## Contents
- `Peripheral.Buffer`, `Peripheral.Endpoint` and `Peripheral` itself.
- `Slot.toPeripheral` and `Layout.toPeripheral`, which refuse what the hardware cannot do.
- `Peripheral.find`: look-up by number.
-/

namespace UsbCompiler

/-- A packet buffer in the terms of the hardware. -/
structure Peripheral.Buffer where
  /-- The offset in words. -/
  offset : Int
  /-- The size in words. -/
  size : Int
  /-- The bits of the receive count register; zero for a transmit buffer. -/
  receiveCount : Nat := 0
deriving DecidableEq

/-- The setup of one hardware endpoint. -/
structure Peripheral.Endpoint where
  number : Int
  type : TransferType
  transmitEnabled : Bool
  receiveEnabled : Bool
  /-- The byte offset of the entry in the descriptor table. -/
  entryOffset : Int
  transmitBuffer : Option Peripheral.Buffer
  receiveBuffer : Option Peripheral.Buffer
deriving DecidableEq

/-- The setup of all hardware endpoints, ordered by endpoint number. -/
structure Peripheral where
  endpoints : List Peripheral.Endpoint
deriving DecidableEq

namespace Region

/-- A transmit buffer in words. -/
def toTransmitBuffer (region : Region) : Peripheral.Buffer :=
  { offset := region.address / 2, size := region.size / 2 }

/-- A receive buffer in words. Its size has to be one that the receive count register describes exactly. -/
def toReceiveBuffer (region : Region) : Except Error Peripheral.Buffer :=
  match ReceiveClass.ofPacketSize region.size with
  | .error error => .error error
  | .ok cls =>
    if (cls.size : Int) = region.size then
      .ok { offset := region.address / 2, size := region.size / 2, receiveCount := cls.count }
    else .error (.receiveSizeMismatch region.address region.size cls.size)

end Region

/-- The setup of one slot. -/
def Slot.toPeripheral (slot : Slot) : Except Error Peripheral.Endpoint :=
  if slot.doubleBuffered then .error (.doubleBuffered slot.number)
  else if ¬(0 ≤ slot.number ∧ slot.number < 16) then .error (.slotNumberRange slot.number)
  else
    (slot.receive.buffer.mapM Region.toReceiveBuffer).map fun receiveBuffer => {
      number := slot.number
      type := slot.type
      transmitEnabled := slot.transmit.enabled
      receiveEnabled := slot.receive.enabled
      entryOffset := slot.entry.address
      transmitBuffer := slot.transmit.buffer.map Region.toTransmitBuffer
      receiveBuffer }

/-- The slots in the order of their numbers. Slots of one number stay in the order in which they were given
    out. -/
def Layout.slotsByNumber (layout : Layout) : List Slot :=
  layout.slots.mergeSort fun a b => a.number ≤ b.number

/-- The setup of all slots. The first slot that has none stops it. -/
def Layout.toPeripheral (layout : Layout) : Except Error Peripheral :=
  (layout.slotsByNumber.mapM Slot.toPeripheral).map Peripheral.mk

/-- The setup of an endpoint number. -/
def Peripheral.find (peripheral : Peripheral) (number : Int) : Except Error Peripheral.Endpoint :=
  match peripheral.endpoints.find? fun endpoint => endpoint.number = number with
  | some endpoint => .ok endpoint
  | none => .error (.missing number)

end UsbCompiler
