import UsbCompiler.Descriptor.Stream
import UsbCompiler.Device

/-!
# `UsbCompiler.Device.Compiled` — devices as the firmware serves them

Compiling turns the description of a device into the byte strings that answer the host: the device descriptor,
the configuration descriptor with all that belongs to it, and for each string index either a descriptor or the
identifier of a text that the firmware provides.

## Contents
- `CompiledString` and `CompiledDevice`, with `stringAt`.
- `Description`: what is compiled, a value without handles.
- `Description.strings`, `deviceDescriptor`, `configurationDescriptor`, `compiledStrings` and `allEndpoints`: the
  parts of the result.
- `Description.compile` and `Device.compile`.
-/

namespace UsbCompiler

/-- The answer to a request for a string descriptor. -/
inductive CompiledString where
  /-- A finished descriptor. -/
  | descriptor (bytes : Bytes)
  /-- The identifier of a text that the firmware provides. -/
  | external (identifier : Int)
deriving DecidableEq

/-- All that the firmware needs to answer the host. -/
structure CompiledDevice where
  deviceDescriptor : Bytes
  configurationDescriptor : Bytes
  /-- The answers by string index. -/
  strings : List (Int × CompiledString)
  /-- All endpoints, both halves of endpoint 0 first. -/
  endpoints : List Endpoint.Descriptor
deriving DecidableEq

namespace CompiledDevice

/-- The answer to a request for the string with an index. -/
def stringAt (device : CompiledDevice) (index : Int) : Except Error CompiledString :=
  match device.strings.lookup index with
  | some answer => .ok answer
  | none => .error (.missing index)

/-- The indexes with finished descriptors. -/
def staticStrings (device : CompiledDevice) : List (Int × Bytes) :=
  device.strings.filterMap fun
    | (index, .descriptor bytes) => some (index, bytes)
    | (_, .external _) => none

/-- The indexes with texts that the firmware provides. -/
def externalStrings (device : CompiledDevice) : List (Int × Int) :=
  device.strings.filterMap fun
    | (_, .descriptor _) => none
    | (index, .external identifier) => some (index, identifier)

end CompiledDevice

/-- A device at the moment when it is compiled. -/
structure Description where
  device : DeviceHeader
  configuration : ConfigurationHeader
  interfaces : List Interface
deriving DecidableEq

namespace Description

/-! ## Parts of the result -/

/-- A device needs an interface, and each interface an endpoint. -/
def check (description : Description) : Except Error Unit :=
  if description.interfaces.isEmpty then .error .deviceWithoutInterfaces
  else
    match description.interfaces.find? (·.endpoints.isEmpty) with
    | some interface => .error (.interfaceWithoutEndpoints interface.number)
    | none => .ok ()

/-- The sources of strings in the order that decides their indexes. -/
def stringSources (description : Description) : List StringSource :=
  [description.device.manufacturerString, description.device.productString,
    description.device.serialNumberString, description.configuration.string]
    ++ description.interfaces.map (·.header.string)

/-- The string indexes of a device. -/
def strings (description : Description) : Except Error StringPool :=
  StringPool.empty.internAll description.stringSources

/-- The device descriptor. -/
def deviceDescriptor (description : Description) (strings : StringPool) : Except Error Bytes :=
  ((Stream.empty.writeDevice description.device 1 strings).andThen fun stream _ => stream.complete).result

/-- Writes an interface with all that belongs to it. -/
def writeInterface (strings : StringPool) (stream : Stream) (interface : Interface) : Except Error Stream := do
  let stream ← (stream.beginInterface interface.header strings).commit
  let stream ← interface.extras.foldlM (fun stream extra => (stream.writeExtra extra).commit) stream
  interface.endpoints.foldlM (fun stream endpoint => (stream.writeEndpoint endpoint).commit) stream

/-- The configuration descriptor with all that belongs to it. -/
def configurationDescriptor (description : Description) (strings : StringPool) : Except Error Bytes := do
  let stream ← (Stream.empty.beginConfiguration description.configuration strings).commit
  let stream ← description.interfaces.foldlM (writeInterface strings) stream
  stream.complete.result

/-- The answer for one source. A source without text is answered with the list of languages, wherever it
    stands. -/
def compileString (source : StringSource) : Except Error CompiledString :=
  match source with
  | .unset | .marked _ =>
    (((Stream.empty.writeLanguages []).andThen fun stream _ => stream.complete).result).map .descriptor
  | .literal text =>
    (((Stream.empty.writeString text).andThen fun stream _ => stream.complete).result).map .descriptor
  | .external identifier => .ok (.external identifier)

/-- The answers for all string indexes, in their order. -/
def compiledStrings (strings : StringPool) : Except Error (List (Int × CompiledString)) :=
  strings.sources.zipIdx.mapM fun (source, index) =>
    (compileString source).map fun answer => ((index : Int), answer)

/-- All endpoints: both halves of endpoint 0, then those of the interfaces in their order. -/
def allEndpoints (description : Description) : List Endpoint.Descriptor :=
  Endpoint.Descriptor.control .toDevice description.device.controlPacketSize
    :: Endpoint.Descriptor.control .toHost description.device.controlPacketSize
    :: description.interfaces.flatMap (·.endpoints)

/-! ## Compiling -/

/-- Compiles a device. -/
def compile (description : Description) : Except Error CompiledDevice := do
  description.check
  let strings ← description.strings
  let deviceDescriptor ← description.deviceDescriptor strings
  let configurationDescriptor ← description.configurationDescriptor strings
  let answers ← compiledStrings strings
  return { deviceDescriptor, configurationDescriptor, strings := answers, endpoints := description.allEndpoints }

end Description

namespace Device

/-- The device with the present contents of its interfaces. -/
def describe (device : Device) (store : Interface.Store) : Description where
  device := device.header
  configuration := device.configuration
  interfaces := device.interfaces.map store.get

/-- Compiles a device with the present contents of its interfaces. -/
def compile (device : Device) (store : Interface.Store) : Except Error CompiledDevice :=
  (device.describe store).compile

end Device

end UsbCompiler
