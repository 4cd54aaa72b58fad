import UsbCompiler.Endpoint.Request
import UsbCompiler.PacketMemory.ReceiveClass
import UsbCompiler.PacketMemory.Slot

/-!
# `UsbCompiler.PacketMemory.Demand` — what an endpoint needs from packet memory

A demand is a request after all its parts have been looked at: the codes are known to mean something and the
packet size has become a buffer size.

## Contents
- `bufferSize`: the size of the buffer for packets of a size and direction.
- `Demand`, `Demand.ofRequest` and `Demand.needed`.
- `Demand.fill`: reserving the buffers and putting them into a slot.
-/

namespace UsbCompiler

/-- The size of a buffer for packets of a size. Transmit buffers only need to be even; receive buffers need a
    size that the receive count register can describe. -/
def bufferSize (direction : Direction) (packetSize : Int) : Except Error Int :=
  match direction with
  | .toHost => .ok (evenCeil packetSize)
  | .toDevice => (ReceiveClass.ofPacketSize packetSize).map fun cls => cls.size

/-- What an endpoint needs. -/
structure Demand where
  /-- The endpoint number, if the caller chose one. -/
  number : Option Int
  type : TransferType
  direction : Direction
  /-- The size of each buffer. -/
  bufferSize : Int
  /-- Whether the endpoint gets two buffers. -/
  doubled : Bool
deriving DecidableEq

namespace Demand

/-- The demand of a request. Parts that are not set come first, then codes that mean nothing, then the control
    type, and packet sizes last. -/
def ofRequest (request : Endpoint.Request) (doubled : Bool) : Except Error Demand :=
  match request.type, request.direction, request.maxPacketSize with
  | none, _, _ => .error (.incompleteRequest .type)
  | some _, none, _ => .error (.incompleteRequest .direction)
  | some _, some _, none => .error (.incompleteRequest .maxPacketSize)
  | some typeCode, some directionCode, some packetSize =>
    match TransferType.ofCode? typeCode, Direction.ofCode? directionCode with
    | none, _ => .error (.unknownTransferType typeCode)
    | some _, none => .error (.unknownDirection directionCode)
    | some .control, some _ => .error .controlTypeRequested
    | some type, some direction =>
      (UsbCompiler.bufferSize direction packetSize).map fun bufferSize =>
        { number := request.number, type, direction, bufferSize, doubled }

/-- The bytes that the buffers of a demand take. -/
def needed (demand : Demand) : Int :=
  if demand.doubled then 2 * demand.bufferSize else demand.bufferSize

/-- Reserves the buffers of a demand and gives them to a slot. A double-buffered endpoint takes both buffers and
    one half; any other takes one half with its buffer and leaves the other half alone. -/
def fill (demand : Demand) (slot : Slot) (memory : PacketMemory) : Except Error (Slot × PacketMemory) := do
  let (first, memory) ← memory.takeBuffer demand.bufferSize
  if demand.doubled then
    let (second, memory) ← memory.takeBuffer demand.bufferSize
    return ({ slot with
      transmit := ⟨demand.direction = .toHost, some first⟩
      receive := ⟨demand.direction = .toDevice, some second⟩
      doubleBuffered := true }, memory)
  else
    return (slot.setHalf demand.direction ⟨true, some first⟩, memory)

end Demand

end UsbCompiler
