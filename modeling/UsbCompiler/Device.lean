import UsbCompiler.Interface
import UsbCompiler.PacketMemory.Layout
import UsbCompiler.Release

/-!
# `UsbCompiler.Device` — devices that are being described

A device has one configuration. Its interfaces get their numbers in the order in which they are asked for. A
number that has been given out is held by an empty interface until the one that was described under it is adopted.

## Contents
- `Device`, `Device.new`, its `Setting`s and `Device.set`.
- `Device.configuration`: the header of the configuration.
- `Device.allocateControl`: packet memory for the control endpoint.
- `Device.newInterface` and `Device.adopt`: giving out interface numbers and taking interfaces in.
-/

namespace UsbCompiler

/-- The description of a device. -/
structure Device where
  header : DeviceHeader
  configurationString : StringSource := .unset
  selfPowered : Bool := false
  remoteWakeup : Bool := false
  /-- The highest bus current in units of 2 mA. -/
  maxPower : Int := 50
  /-- The interfaces in the order of their numbers. -/
  interfaces : List Interface.Handle := []
deriving DecidableEq

namespace Device

/-- A device of which only the numbers of vendor and product are known. It has release 0.1. -/
def new (vendor product : Int) : Except Error Device :=
  if (0 ≤ vendor ∧ vendor < 0x10000) ∧ (0 ≤ product ∧ product < 0x10000) then
    .ok { header := { vendor, product, release := 0x0010 } }
  else .error .identifierRange

/-! ## Settings -/

/-- One property and its value. -/
inductive Setting where
  | classCode (value : Int)
  | subClass (value : Int)
  | protocol (value : Int)
  | releaseCode (code : Int)
  | releaseText (text : Text)
  | controlPacketSize (size : Int)
  | selfPowered (value : Bool)
  | remoteWakeup (value : Bool)
  /-- The highest bus current in mA. -/
  | maxPower (milliamps : Int)
  | manufacturer (source : StringSource)
  | product (source : StringSource)
  | serialNumber (source : StringSource)
  | configuration (source : StringSource)
deriving DecidableEq

/-- Stores a property after checking its value. -/
def set (device : Device) : Setting → Except Error Device
  | .classCode value => (ByteSetting.deviceClass.check value).map fun classCode =>
    { device with header := { device.header with classCode } }
  | .subClass value => (ByteSetting.deviceSubClass.check value).map fun subClass =>
    { device with header := { device.header with subClass } }
  | .protocol value => (ByteSetting.deviceProtocol.check value).map fun protocol =>
    { device with header := { device.header with protocol } }
  | .releaseCode code => (Release.ofCode code).map fun release =>
    { device with header := { device.header with release } }
  | .releaseText text => (Release.ofText text).map fun release =>
    { device with header := { device.header with release } }
  | .controlPacketSize size =>
    if size ∈ Layout.controlSizes then
      .ok { device with header := { device.header with controlPacketSize := size } }
    else .error (.controlPacketSize size)
  | .selfPowered value => .ok { device with selfPowered := value }
  | .remoteWakeup value => .ok { device with remoteWakeup := value }
  | .maxPower milliamps =>
    if 0 ≤ milliamps ∧ milliamps ≤ 500 then .ok { device with maxPower := milliamps / 2 }
    else .error (.maxPowerRange milliamps)
  | .manufacturer source => .ok { device with header := { device.header with manufacturerString := source } }
  | .product source => .ok { device with header := { device.header with productString := source } }
  | .serialNumber source => .ok { device with header := { device.header with serialNumberString := source } }
  | .configuration source => .ok { device with configurationString := source }

/-- The attributes of the configuration: bit 7 is always set, bit 6 tells of a power supply of the device's own
    and bit 5 that it can wake up the host. -/
def attributes (device : Device) : Int :=
  0x80 + (if device.selfPowered then 0x40 else 0) + (if device.remoteWakeup then 0x20 else 0)

/-- The header of the only configuration. -/
def configuration (device : Device) : ConfigurationHeader where
  value := 1
  string := device.configurationString
  attributes := device.attributes
  maxPower := device.maxPower

/-! ## Resources and interfaces -/

/-- Reserves packet memory for the control endpoint. -/
def allocateControl (device : Device) (layout : Layout) : Except Error Layout :=
  (layout.allocateControl device.header.controlPacketSize).map Prod.snd

/-- Gives out the next interface number: the device gets an empty interface with this number, and the caller the
    number. -/
def reserveInterface (device : Device) (store : Interface.Store) : Int × Device × Interface.Store :=
  let number : Int := device.interfaces.length
  (number, { device with interfaces := device.interfaces ++ [store.next] }, store.add (.new number))

/-- Gives out the next interface number together with an interface to describe under it, which is not yet part
    of the device. -/
def newInterface (device : Device) (store : Interface.Store) :
    Interface.Handle × Device × Interface.Store :=
  let (number, device, store) := device.reserveInterface store
  (store.next, device, store.add (.new number))

/-- Takes an interface into the device in the place of its number. -/
def adopt (device : Device) (store : Interface.Store) (handle : Interface.Handle) : Except Error Device :=
  let interface := store.get handle
  if ¬(0 ≤ interface.number ∧ interface.number < device.interfaces.length) then
    .error (.interfaceNotAllocated interface.number)
  else if interface.header.alternateSetting ≠ 0 then .error .alternateSettingUsed
  else if interface.endpoints.isEmpty then .error (.interfaceWithoutEndpoints interface.number)
  else .ok { device with interfaces := device.interfaces.set interface.number.toNat handle }

end Device

end UsbCompiler
