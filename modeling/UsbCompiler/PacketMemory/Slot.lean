import UsbCompiler.PacketMemory

/-!
# `UsbCompiler.PacketMemory.Slot` — one hardware endpoint

A hardware endpoint serves both directions of one endpoint number: the transmit half sends to the host, the
receive half takes what the host sends. Two endpoints of one type can share a slot, one on each half. A
double-buffered endpoint uses both buffers for its one direction and shares its slot with nobody.

## Contents
- `Half` and `Slot`, with `Slot.half`, `Slot.setHalf` and `Slot.admits`.
- `Slot.display`: a slot in messages.
-/

namespace UsbCompiler

/-- One half of a slot: whether it serves an endpoint, and its packet buffer. -/
structure Half where
  enabled : Bool := false
  buffer : Option Region := none
deriving DecidableEq

/-- A hardware endpoint. -/
structure Slot where
  /-- The endpoint number. -/
  number : Int
  type : TransferType
  /-- The entry in the descriptor table. -/
  entry : Region
  transmit : Half := {}
  receive : Half := {}
  doubleBuffered : Bool := false
deriving DecidableEq

namespace Slot

/-- The half that serves a direction. -/
def half (slot : Slot) : Direction → Half
  | .toHost => slot.transmit
  | .toDevice => slot.receive

/-- A slot with the half of one direction replaced. -/
def setHalf (slot : Slot) (direction : Direction) (half : Half) : Slot :=
  match direction with
  | .toHost => { slot with transmit := half }
  | .toDevice => { slot with receive := half }

/-- Whether an endpoint of a type and direction can move into a slot. -/
def admits (slot : Slot) (type : TransferType) (direction : Direction) : Bool :=
  slot.type = type && !slot.doubleBuffered && !(slot.half direction).enabled

/-- A truth value in messages. -/
def displayBool : Bool → String
  | true => "True"
  | false => "False"

/-- A slot in messages. -/
def display (slot : Slot) : String :=
  "EndpointAllocation(" ++ toString slot.number
    ++ ", <EndpointType." ++ slot.type.name ++ ": " ++ toString slot.type.code ++ ">"
    ++ ", tx=" ++ displayBool slot.transmit.enabled
    ++ ", rx=" ++ displayBool slot.receive.enabled
    ++ ", double_buffered=" ++ displayBool slot.doubleBuffered ++ ")"

@[simp] theorem half_setHalf_self (slot : Slot) (direction : Direction) (half : Half) :
    (slot.setHalf direction half).half direction = half := by
  cases direction <;> rfl

theorem half_setHalf_of_ne {slot : Slot} {d e : Direction} (half : Half) (h : d ≠ e) :
    (slot.setHalf d half).half e = slot.half e := by
  cases d <;> cases e <;> first | rfl | exact absurd rfl h

/-- What having space means. -/
theorem admits_iff {slot : Slot} {type : TransferType} {direction : Direction} :
    slot.admits type direction = true
      ↔ slot.type = type ∧ slot.doubleBuffered = false ∧ (slot.half direction).enabled = false := by
  simp only [admits, Bool.and_eq_true, decide_eq_true_eq, Bool.not_eq_true', and_assoc]

end Slot

end UsbCompiler
