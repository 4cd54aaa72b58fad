import UsbCompiler.Error
import UsbCompiler.PacketMemory.Demand

/-!
# `UsbCompiler.PacketMemory.Layout` — endpoint numbers, slots and buffers of a device

A layout is packet memory together with the slots that it was given out to. Each call takes the next entry and
the next buffers, so a layout depends on nothing but the order of the calls.

## Contents
- `Layout` with `empty`, `find?`, `lowestFreeNumber` and `addSlot`.
- `Layout.choose`: the slot that an endpoint moves into, if any.
- `Layout.place` and `Layout.allocate`: endpoints with a type of their own choice.
- `Layout.allocateControl`: endpoint 0.
- `Layout.takeEntry` and `Layout.takeBuffer`: memory that belongs to no slot.
-/

namespace UsbCompiler

/-- The hardware endpoints of a device. -/
structure Layout where
  memory : PacketMemory
  /-- The slots in the order in which they were given out. -/
  slots : List Slot
deriving DecidableEq

namespace Layout

/-- A layout with nothing given out. -/
def empty : Layout := ⟨.empty, []⟩

/-- The number of bytes left. -/
def free (layout : Layout) : Int := layout.memory.free

/-- The first slot with an endpoint number. -/
def find? (layout : Layout) (number : Int) : Option Slot :=
  layout.slots.find? fun slot => slot.number = number

/-! ## Memory without a slot -/

/-- Reserves a descriptor table entry that belongs to no slot. -/
def takeEntry (layout : Layout) : Except Error (Region × Layout) :=
  layout.memory.takeEntry.map fun (region, memory) => (region, { layout with memory })

/-- Reserves a packet buffer that belongs to no slot. -/
def takeBuffer (layout : Layout) (size : Int) : Except Error (Region × Layout) :=
  (layout.memory.takeBuffer size).map fun (region, memory) => (region, { layout with memory })

/-! ## New slots -/

/-- The numbers that an endpoint other than the control endpoint can have. -/
def numbers : List Nat := List.range' 1 15

/-- The lowest endpoint number that no slot has. Number 0 is kept for the control endpoint. -/
def lowestFreeNumber (layout : Layout) : Except Error Int :=
  match numbers.find? fun (number : Nat) => (layout.find? number).isNone with
  | some number => .ok number
  | none => .error .numbersInUse

/-- The number of a new slot: the given one, which is not checked, or else the lowest free one. -/
def numberOf (layout : Layout) : Option Int → Except Error Int
  | some number => .ok number
  | none => layout.lowestFreeNumber

/-- A slot without buffers that is not part of the layout yet, and memory without its entry. The hardware has
    eight slots, the one of endpoint 0 counted. -/
def newSlot (layout : Layout) (type : TransferType) (number : Option Int) :
    Except Error (Slot × PacketMemory) :=
  if 8 ≤ layout.slots.length then .error .slotsInUse
  else do
    let number ← layout.numberOf number
    let (entry, memory) ← layout.memory.takeEntry
    return ({ number, type, entry }, memory)

/-- Adds a slot without buffers. -/
def addSlot (layout : Layout) (type : TransferType) (number : Option Int) : Except Error (Slot × Layout) :=
  (layout.newSlot type number).map fun (slot, memory) => (slot, ⟨memory, layout.slots ++ [slot]⟩)

/-! ## Endpoints -/

/-- The slot of a number that a caller chose: the one that has the number, if the endpoint can move in. Without
    such a slot the endpoint gets a new one. -/
def chooseNumbered (layout : Layout) (demand : Demand) (number : Int) :
    Except Error (Option (Fin layout.slots.length)) :=
  if number = 0 then .error .controlNumberRequested
  else if ¬(0 < number ∧ number < 16) then .error (.endpointNumberRange number)
  else
    match layout.slots.findFinIdx? fun slot => slot.number = number with
    | none => .ok none
    | some position =>
      let slot := layout.slots[position]
      if demand.doubled ∨ slot.doubleBuffered ∨ (slot.half demand.direction).enabled then
        .error (.endpointInUse number demand.direction)
      else if slot.type ≠ demand.type then .error (.typeConflict number slot.type demand.type)
      else .ok (some position)

/-- The first slot that an endpoint can move into. A double-buffered endpoint never moves in. -/
def chooseShared (layout : Layout) (demand : Demand) : Option (Fin layout.slots.length) :=
  if demand.doubled then none
  else layout.slots.findFinIdx? fun slot => slot.admits demand.type demand.direction

/-- The slot that an endpoint moves into, or `none` if it gets a new one. -/
def choose (layout : Layout) (demand : Demand) : Except Error (Option (Fin layout.slots.length)) :=
  match demand.number with
  | some number => layout.chooseNumbered demand number
  | none => .ok (layout.chooseShared demand)

/-- Moves an endpoint into a slot of the layout. -/
def share (layout : Layout) (demand : Demand) (position : Fin layout.slots.length) :
    Except Error (Slot × Layout) := do
  layout.memory.require demand.needed
  let (slot, memory) ← demand.fill layout.slots[position] layout.memory
  return (slot, ⟨memory, layout.slots.set position slot⟩)

/-- Gives an endpoint a slot of its own. -/
def extend (layout : Layout) (demand : Demand) : Except Error (Slot × Layout) := do
  layout.memory.require (demand.needed + PacketMemory.entrySize)
  let (empty, memory) ← layout.newSlot demand.type demand.number
  let (slot, memory) ← demand.fill empty memory
  return (slot, ⟨memory, layout.slots ++ [slot]⟩)

/-- Finds a slot and buffers for a demand. Nothing is reserved unless all of it is. -/
def place (layout : Layout) (demand : Demand) : Except Error (Slot × Layout) := do
  match ← layout.choose demand with
  | some position => layout.share demand position
  | none => layout.extend demand

/-- Finds a slot and buffers for a request, and gives the request its number if it has none. The number is
    checked like any other that a caller sets, so a slot that was made by hand can bring in a number that is
    refused after the buffers have been reserved. -/
def allocate (layout : Layout) (request : Endpoint.Request) (doubled : Bool) :
    Outcome Layout Endpoint.Request :=
  match Demand.ofRequest request doubled >>= layout.place with
  | .error error => .fail layout error
  | .ok (slot, layout) =>
    match request.number with
    | some _ => .ok layout request
    | none => ⟨layout, request.set (.number slot.number)⟩

/-! ## The control endpoint -/

/-- The packet sizes that endpoint 0 can have. -/
def controlSizes : List Int := [8, 16, 32, 64]

/-- Endpoint 0 with a buffer of the same packet size for each direction, and memory without what it takes. -/
def newControlSlot (memory : PacketMemory) (packetSize : Int) : Except Error (Slot × PacketMemory) := do
  let transmitSize ← bufferSize .toHost packetSize
  let receiveSize ← bufferSize .toDevice packetSize
  memory.require (PacketMemory.entrySize + transmitSize + receiveSize)
  let (entry, memory) ← memory.takeEntry
  let (transmit, memory) ← memory.takeBuffer transmitSize
  let (receive, memory) ← memory.takeBuffer receiveSize
  return ({
    number := 0
    type := .control
    entry
    transmit := ⟨true, some transmit⟩
    receive := ⟨true, some receive⟩ }, memory)

/-- Adds endpoint 0. The number of slots is not limited here, so endpoint 0 can always be added. -/
def allocateControl (layout : Layout) (packetSize : Int) : Except Error (Slot × Layout) :=
  if packetSize ∉ controlSizes then .error (.controlPacketSize packetSize)
  else if (layout.find? 0).isSome then .error .controlInUse
  else
    (newControlSlot layout.memory packetSize).map fun (slot, memory) =>
      (slot, ⟨memory, layout.slots ++ [slot]⟩)

end Layout

end UsbCompiler
