import UsbCompiler.Device
import UsbCompiler.Error

/-!
# `UsbCompiler.SerialFunction` — virtual serial lines

A virtual serial line is a function of the communications class with the abstract control model. It takes two
interfaces: one for notifications, which names both interfaces in its functional descriptors, and one for data.

## Contents
- `SerialFunction.communication` and `SerialFunction.data`: the two interfaces.
- `SerialFunction.install`: adding both to a device.
-/

namespace UsbCompiler.SerialFunction

/-- The type of descriptors that belong to the class of an interface. -/
def classDescriptor : Int := 0x24

/-- A number that is stored as a single byte. -/
def singleByte (n : Int) : Except Error UInt8 :=
  if 0 ≤ n ∧ n < 0x100 then .ok (UInt8.ofNat n.toNat) else .error .byteRange

/-- The functional descriptors: the header with version 1.10 of the class, call management without abilities by
    way of the data interface, the abstract control model without abilities, and the union of both
    interfaces. -/
def functionalDescriptors (communicationNumber dataNumber : UInt8) : List ExtraDescriptor :=
  [{ type := classDescriptor, data := [0x00, 0x10, 0x01] },
    { type := classDescriptor, data := [0x01, 0x00, dataNumber] },
    { type := classDescriptor, data := [0x02, 0x00] },
    { type := classDescriptor, data := [0x06, communicationNumber, dataNumber] }]

/-- The interface for notifications: class 2, abstract control model, commands of the AT set. Its number and the
    next one have to be bytes before its endpoint is looked at. -/
def communication (number : Int) (endpoint : Endpoint.Source) : Except Error Interface := do
  let dataNumber ← singleByte (number + 1)
  let communicationNumber ← singleByte number
  let endpoint ← endpoint.describe
  return {
    header := { number, classCode := 0x02, subClass := 0x02, protocol := 0x01 }
    extras := functionalDescriptors communicationNumber dataNumber
    endpoints := [endpoint] }

/-- The interface for data. The endpoint that the device writes to comes first. -/
def data (number : Int) (readEndpoint writeEndpoint : Endpoint.Source) : Except Error Interface := do
  let writeEndpoint ← writeEndpoint.describe
  let readEndpoint ← readEndpoint.describe
  return { header := { number, classCode := 0x0A }, endpoints := [writeEndpoint, readEndpoint] }

/-- A device with its store of interfaces. -/
abbrev State := Device × Interface.Store

/-- Takes a finished interface into a device. -/
def adoptNew (state : State) (interface : Interface) : Outcome State Unit :=
  let (device, store) := state
  let added := store.add interface
  match device.adopt added store.next with
  | .error error => .fail (device, added) error
  | .ok device => .ok (device, added) ()

/-- Adopts an interface that may have failed to come about. -/
def adoptResult (state : State) : Except Error Interface → Outcome State Unit
  | .error error => .fail state error
  | .ok interface => adoptNew state interface

/-- Adds a virtual serial line to a device and returns the numbers of its interfaces for notifications and data.
    Both numbers are given out first and stay so if an endpoint is not usable; the first interface is adopted
    before the endpoints of the second one are looked at. -/
def install (state : State) (notify read write : Endpoint.Source) : Outcome State (Int × Int) :=
  let (communicationNumber, device, store) := state.1.reserveInterface state.2
  let (dataNumber, device, store) := device.reserveInterface store
  (adoptResult (device, store) (communication communicationNumber notify)).andThen fun state _ =>
    (adoptResult state (data dataNumber read write)).andThen fun state _ =>
      .ok state (communicationNumber, dataNumber)

end UsbCompiler.SerialFunction
