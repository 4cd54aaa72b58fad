import UsbCompiler.StringPool
import UsbCompiler.Wire

/-!
# `UsbCompiler.Descriptor.Header` — the fixed parts of device, configuration and interface

Three of the standard descriptors carry string indexes, and two of them carry counts that are not known before
what follows them has been written. Their numbers are what a caller gave and may be too wide for their fields;
references without an index are found out before that.

## Contents
- `StandardDescriptor`: the standard descriptors.
- `DeviceHeader`, `ConfigurationHeader` and `InterfaceHeader`, each with its `fields`.
- `ExtraDescriptor`: any other descriptor.
-/

namespace UsbCompiler

/-- The standard descriptors. -/
inductive StandardDescriptor where
  | device
  | configuration
  | string
  | interface
  | endpoint
deriving DecidableEq

/-- The type byte of a standard descriptor. -/
def StandardDescriptor.code : StandardDescriptor → Int
  | device => 1
  | configuration => 2
  | string => 3
  | interface => 4
  | endpoint => 5

/-- The description of a device as a whole. -/
structure DeviceHeader where
  classCode : Int := 0
  subClass : Int := 0
  protocol : Int := 0
  /-- The packet size of endpoint 0. -/
  controlPacketSize : Int := 8
  vendor : Int := 0
  product : Int := 0
  /-- The release of the device as binary-coded decimal. -/
  release : Int := 0
  manufacturerString : StringSource := .unset
  productString : StringSource := .unset
  serialNumberString : StringSource := .unset
deriving DecidableEq

/-- The description of a configuration. -/
structure ConfigurationHeader where
  value : Int := 1
  string : StringSource := .unset
  attributes : Int := 0x80
  /-- The highest bus current in units of 2 mA. -/
  maxPower : Int := 50
deriving DecidableEq

/-- The description of an interface. -/
structure InterfaceHeader where
  number : Int := 0
  alternateSetting : Int := 0
  classCode : Int := 0
  subClass : Int := 0
  protocol : Int := 0
  string : StringSource := .unset
deriving DecidableEq

/-- A descriptor of a class or a vendor, whose payload is written as it is. -/
structure ExtraDescriptor where
  type : Int
  data : Bytes
deriving DecidableEq

/-- The payload of a device descriptor. Devices follow version 2.00 of the standard. -/
def DeviceHeader.fields (device : DeviceHeader) (configurations : Int) (strings : StringPool) :
    Except Error (List Field) := do
  let manufacturer ← strings.lookup device.manufacturerString
  let product ← strings.lookup device.productString
  let serialNumber ← strings.lookup device.serialNumberString
  return [.word 0x0200, .byte device.classCode, .byte device.subClass, .byte device.protocol,
    .byte device.controlPacketSize, .word device.vendor, .word device.product, .word device.release,
    .byte manufacturer, .byte product, .byte serialNumber, .byte configurations]

/-- The payload of a configuration descriptor. The total length and the number of interfaces start as zero. -/
def ConfigurationHeader.fields (configuration : ConfigurationHeader) (strings : StringPool) :
    Except Error (List Field) := do
  let string ← strings.lookup configuration.string
  return [.word 0, .byte 0, .byte configuration.value, .byte string, .byte configuration.attributes,
    .byte configuration.maxPower]

/-- The payload of an interface descriptor. The number of endpoints starts as zero. -/
def InterfaceHeader.fields (interface : InterfaceHeader) (strings : StringPool) :
    Except Error (List Field) := do
  let string ← strings.lookup interface.string
  return [.byte interface.number, .byte interface.alternateSetting, .byte 0, .byte interface.classCode,
    .byte interface.subClass, .byte interface.protocol, .byte string]

end UsbCompiler
