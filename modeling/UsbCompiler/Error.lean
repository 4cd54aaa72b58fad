import UsbCompiler.Text.Quoted
import UsbCompiler.Transfer

/-!
# `UsbCompiler.Error` — why an operation failed and what it leaves behind

One constructor for each cause, with the values that tell its story. Callers tell errors apart by their
`kind`; people read their `message`.

A descriptor refers to a string by index. Behind the index is a literal text, which is compiled into a static
descriptor, or an identifier by which the firmware finds the text at run time, or nothing.

## Contents
- `ByteSetting`, `RequestPart` and `StringSource`: what errors speak of.
- `Error` and `Error.Kind`.
- `Error.kind` and `Error.message`.
- `Outcome`, with `ok`, `fail`, the sequencing `andThen`, and `commit`: the view of a caller that gives up at the first
  failure.
- `ByteSetting.check`: a value on its way into a setting of one byte.
-/

namespace UsbCompiler

/-! ## What errors speak of -/

/-- A setting of an endpoint, an interface or a device whose value is one byte. -/
inductive ByteSetting where
  | interval
  | alternateSetting
  | interfaceClass
  | interfaceSubClass
  | interfaceProtocol
  | descriptorType
  | deviceClass
  | deviceSubClass
  | deviceProtocol
deriving DecidableEq

/-- The name of a setting in messages. -/
def ByteSetting.name : ByteSetting → String
  | interval => "interval"
  | alternateSetting => "alternate setting"
  | interfaceClass => "interface class"
  | interfaceSubClass => "interface sub-class"
  | interfaceProtocol => "interface protocol"
  | descriptorType => "descriptor type"
  | deviceClass => "device class"
  | deviceSubClass => "device sub-class"
  | deviceProtocol => "device protocol"

/-- A part of an endpoint request that has no default. -/
inductive RequestPart where
  | number
  | direction
  | type
  | maxPacketSize
deriving DecidableEq

/-- A value that an unset source can carry. It takes part in comparisons and in nothing else. -/
inductive StringSource.Mark where
  | text (text : Text)
  | number (number : Int)
deriving DecidableEq

/-- Where the text behind a string index comes from. -/
inductive StringSource where
  /-- No text. -/
  | unset
  /-- No text either, but told apart from `unset` by a mark. -/
  | marked (mark : StringSource.Mark)
  /-- A text that is known when the device is compiled. -/
  | literal (text : Text)
  /-- A text that the firmware provides, by its identifier. -/
  | external (identifier : Int)
deriving DecidableEq

/-- A source in messages. Marks are not shown. -/
def StringSource.display : StringSource → String
  | unset => "StringRef.unset()"
  | marked _ => "StringRef.unset()"
  | literal text => "StringRef.literal(" ++ quoted text ++ ")"
  | external identifier => "StringRef.external(" ++ toString identifier ++ ")"

/-! ## Errors -/

/-- Why an operation failed. -/
inductive Error where
  /-- The value is no packed endpoint address. -/
  | invalidAddress (value : Int)
  /-- A caller asked for an endpoint number outside of 0 to 15. -/
  | endpointNumberRange (number : Int)
  /-- No direction has this code. -/
  | unknownDirection (code : Int)
  /-- No transfer type has this code. -/
  | unknownTransferType (code : Int)
  /-- A setting does not fit in its byte. -/
  | byteSettingRange (setting : ByteSetting) (value : Int)
  /-- A maximum packet size is outside of 0 to 1024. -/
  | maxPacketSizeRange (size : Int)
  /-- A request cannot be turned into a descriptor without this part. -/
  | incompleteDescriptor (part : RequestPart)
  /-- A request cannot be placed in packet memory without this part. -/
  | incompleteRequest (part : RequestPart)
  /-- A bare number stands where an endpoint is needed. -/
  | notAnEndpoint
  /-- A literal string needs text. -/
  | textExpected
  /-- An external string needs an integer. -/
  | identifierExpected
  /-- No more string indexes are left. -/
  | tooManyStrings
  /-- A descriptor refers to a string without an index. -/
  | unknownString (source : StringSource)
  /-- A descriptor of this size has no length byte. -/
  | descriptorTooBig (size : Nat)
  /-- A text with a surrogate has no code units. -/
  | surrogateInText
  /-- An interface was written before any configuration. -/
  | interfaceOutsideConfiguration
  /-- An endpoint was written before any interface of the configuration. -/
  | endpointOutsideInterface
  /-- A number does not fit in a field of fixed width, or the field is not there. -/
  | fieldRange
  /-- A number that is stored as a single byte is not one. -/
  | byteRange
  /-- A position lies outside of a list. -/
  | indexRange
  /-- Nothing has this number. -/
  | missing (number : Int)
  /-- A negative packet size. -/
  | negativePacketSize (size : Int)
  /-- A packet size that no receive buffer can hold. -/
  | packetSizeTooBig (size : Int)
  /-- The descriptor table does not end at a multiple of the size of its entries. -/
  | unalignedTable
  /-- No room for a descriptor table entry. -/
  | noRoomForEntry
  /-- No room for a packet buffer. -/
  | noRoomForBuffer (size free : Int)
  /-- No room for all that an endpoint needs. -/
  | noRoomForEndpoint (needed free : Int)
  /-- All hardware slots are taken. -/
  | slotsInUse
  /-- All endpoint numbers are taken. -/
  | numbersInUse
  /-- Only endpoint 0 serves control transfers. -/
  | controlTypeRequested
  /-- Endpoint 0 serves control transfers only. -/
  | controlNumberRequested
  /-- The half of the endpoint that was asked for is taken. -/
  | endpointInUse (number : Int) (direction : Direction)
  /-- The other half of the endpoint has another type. -/
  | typeConflict (number : Int) (present requested : TransferType)
  /-- The size is none that endpoint 0 can have. -/
  | controlPacketSize (size : Int)
  /-- Endpoint 0 was placed before. -/
  | controlInUse
  /-- Double-buffered endpoints have no hardware setup. -/
  | doubleBuffered (number : Int)
  /-- A slot has a number outside of 0 to 15. -/
  | slotNumberRange (number : Int)
  /-- A receive buffer has a size that the hardware cannot describe. -/
  | receiveSizeMismatch (address size : Int) (described : Nat)
  /-- A vendor or product number has more than 16 bits. -/
  | identifierRange
  /-- A release code has more than 16 bits. -/
  | releaseRange (code : Int)
  /-- A text is no version. -/
  | invalidRelease (text : Text)
  /-- A version has numbers that the release code has no digits for. -/
  | releaseTooBig (text : Text)
  /-- A bus current is outside of 0 to 500 mA. -/
  | maxPowerRange (milliamps : Int)
  /-- The device never gave out this interface number. -/
  | interfaceNotAllocated (number : Int)
  /-- A device takes interfaces with alternate setting 0 only. -/
  | alternateSettingUsed
  /-- An interface needs an endpoint. -/
  | interfaceWithoutEndpoints (number : Int)
  /-- A device needs an interface. -/
  | deviceWithoutInterfaces
deriving DecidableEq

namespace Error

/-- The kinds of error that callers tell apart. -/
inductive Kind where
  /-- The description of the device is invalid. -/
  | configuration
  /-- Packet memory, slots or endpoint numbers have run out. -/
  | exhausted
  /-- Parts that belong together do not fit. -/
  | inconsistent
  /-- Double buffering has no hardware setup. -/
  | doubleBuffering
  /-- A value of the wrong type. -/
  | wrongType
  /-- Nothing under the number that was looked up. -/
  | missingKey
  /-- A code that stands for nothing. -/
  | unknownCode
  /-- A number too wide for its field. -/
  | fieldRange
  /-- A number too wide for a byte. -/
  | byteRange
  /-- A position outside of a list. -/
  | indexRange
  /-- A text that its encoding has no form for. -/
  | encoding
  /-- A condition that was taken for granted does not hold. -/
  | assertion
deriving DecidableEq

/-- The kind of an error. -/
def kind : Error → Kind
  | invalidAddress _ => .configuration
  | endpointNumberRange _ => .configuration
  | unknownDirection _ => .unknownCode
  | unknownTransferType _ => .unknownCode
  | byteSettingRange _ _ => .configuration
  | maxPacketSizeRange _ => .configuration
  | incompleteDescriptor _ => .configuration
  | incompleteRequest _ => .configuration
  | notAnEndpoint => .wrongType
  | textExpected => .wrongType
  | identifierExpected => .wrongType
  | tooManyStrings => .configuration
  | unknownString _ => .inconsistent
  | descriptorTooBig _ => .configuration
  | surrogateInText => .encoding
  | interfaceOutsideConfiguration => .inconsistent
  | endpointOutsideInterface => .inconsistent
  | fieldRange => .fieldRange
  | byteRange => .byteRange
  | indexRange => .indexRange
  | missing _ => .missingKey
  | negativePacketSize _ => .configuration
  | packetSizeTooBig _ => .configuration
  | unalignedTable => .assertion
  | noRoomForEntry => .exhausted
  | noRoomForBuffer _ _ => .exhausted
  | noRoomForEndpoint _ _ => .exhausted
  | slotsInUse => .exhausted
  | numbersInUse => .exhausted
  | controlTypeRequested => .configuration
  | controlNumberRequested => .configuration
  | endpointInUse _ _ => .configuration
  | typeConflict _ _ _ => .configuration
  | controlPacketSize _ => .configuration
  | controlInUse => .configuration
  | doubleBuffered _ => .doubleBuffering
  | slotNumberRange _ => .inconsistent
  | receiveSizeMismatch _ _ _ => .inconsistent
  | identifierRange => .configuration
  | releaseRange _ => .configuration
  | invalidRelease _ => .configuration
  | releaseTooBig _ => .configuration
  | maxPowerRange _ => .configuration
  | interfaceNotAllocated _ => .configuration
  | alternateSettingUsed => .configuration
  | interfaceWithoutEndpoints _ => .configuration
  | deviceWithoutInterfaces => .configuration

/-- What a request lacks, seen from its descriptor. -/
def missingInDescriptor : RequestPart → String
  | .number => "endpoint number is not set"
  | .direction => "endpoint direction is not set"
  | .type => "endpoint ep_type is not set"
  | .maxPacketSize => "endpoint max_packet_size is not set"

/-- What a request lacks, seen from packet memory. -/
def missingInRequest : RequestPart → String
  | .number => "endpoint number is not set"
  | .direction => "endpoint direction is not set"
  | .type => "endpoint type is not set"
  | .maxPacketSize => "max packet size is not set"

/-- The text of an error. -/
def message : Error → String
  | invalidAddress value => "invalid endpoint address: 0x" ++ Hex.upper 2 value
  | endpointNumberRange number => s!"endpoint number out of range: {number}"
  | unknownDirection code => s!"{code} is not a valid Direction"
  | unknownTransferType code => s!"{code} is not a valid EndpointType"
  | byteSettingRange setting value => setting.name ++ s!" must fit in one byte: {value}"
  | maxPacketSizeRange size => s!"max packet size must be between 0 and 1024: {size}"
  | incompleteDescriptor part => missingInDescriptor part
  | incompleteRequest part => missingInRequest part
  | notAnEndpoint => "expecting an endpoint but received <class 'int'>"
  | textExpected => "text must be str"
  | identifierExpected => "string_id must be int"
  | tooManyStrings => "too many distinct strings"
  | unknownString source => source.display ++ " was never added to the string table"
  | descriptorTooBig size => s!"descriptor is too big - {size} bytes (max 255)"
  | surrogateInText => "a text has no encoding"
  | interfaceOutsideConfiguration => "interface written outside of a configuration"
  | endpointOutsideInterface => "endpoint written outside of an interface"
  | fieldRange => "a number does not fit in its field"
  | byteRange => "a number does not fit in a byte"
  | indexRange => "position out of range"
  | missing number => s!"{number}"
  | negativePacketSize size => s!"invalid packet size: {size}"
  | packetSizeTooBig size => s!"packet size is too big - {size} bytes (max 1024)"
  | unalignedTable => "the descriptor table is not aligned"
  | noRoomForEntry => "can't allocate buffer descriptor: not enough packet memory"
  | noRoomForBuffer size free =>
    s!"can't allocate {size} byte endpoint buffer: only {free} bytes of packet memory left"
  | noRoomForEndpoint needed free =>
    s!"can't allocate endpoint: needs {needed} bytes of packet memory, only {free} bytes left"
  | slotsInUse => "can't allocate endpoint: all 8 endpoint slots are in use"
  | numbersInUse => "all endpoint addresses are already allocated"
  | controlTypeRequested => "only endpoint 0 can be a control endpoint"
  | controlNumberRequested => "endpoint 0 is reserved for the control endpoint"
  | endpointInUse number direction => s!"endpoint {number} " ++ direction.name ++ " already exists"
  | typeConflict number present requested =>
    s!"endpoint {number} is " ++ present.name ++ ", not " ++ requested.name
  | controlPacketSize size => s!"invalid max_packet_size_0: {size}"
  | controlInUse => "endpoint 0 is already allocated"
  | doubleBuffered number => s!"endpoint {number} is double-buffered"
  | slotNumberRange number => s!"endpoint number out of range: {number}"
  | receiveSizeMismatch address size described =>
    "receive buffer at 0x" ++ Hex.upper 3 address
      ++ s!" has {size} bytes but the receive count describes {described} bytes"
  | identifierRange => "vendor and product IDs must be 16-bit values"
  | releaseRange code => s!"invalid device release: {code}"
  | invalidRelease text => "invalid release version: " ++ quoted text
  | releaseTooBig text =>
    "release version " ++ quoted text ++ " does not fit in BCD format JJ.M.N"
  | maxPowerRange milliamps => s!"max power must be between 0 and 500 mA: {milliamps}"
  | interfaceNotAllocated number => s!"interface {number} was not allocated"
  | alternateSettingUsed => "alternate settings are not supported"
  | interfaceWithoutEndpoints number => s!"interface {number} has no endpoints"
  | deviceWithoutInterfaces => "device has no interfaces"

end Error

/-! ## Outcomes

Most operations of the library either succeed or change nothing, and return an `Except`. A few do their work
in steps that stay done when a later one fails: those return an `Outcome`, the state that they leave behind
together with the result. -/

/-- What an operation leaves behind: the state after it, failed or not, and its result. -/
structure Outcome (σ α : Type) where
  /-- The state after the operation. -/
  state : σ
  /-- The value of a successful operation, or the error that stopped it. -/
  result : Except Error α

namespace Outcome

variable {σ α β : Type}

/-- An operation that succeeds with `value` and leaves `state`. -/
def ok (state : σ) (value : α) : Outcome σ α := ⟨state, .ok value⟩

/-- An operation that stops with `error` and leaves `state`. -/
def fail (state : σ) (error : Error) : Outcome σ α := ⟨state, .error error⟩

/-- One operation after another: the second starts from the state and the value of the first, and does not
    start at all if the first fails. -/
def andThen (first : Outcome σ α) (second : σ → α → Outcome σ β) : Outcome σ β :=
  match first.result with
  | .ok value => second first.state value
  | .error error => fail first.state error

/-- The state after an operation that has to succeed. -/
def commit (outcome : Outcome σ α) : Except Error σ :=
  match outcome.result with
  | .ok _ => .ok outcome.state
  | .error error => .error error

@[simp] theorem ok_andThen (state : σ) (value : α) (second : σ → α → Outcome σ β) :
    (ok state value).andThen second = second state value := rfl

@[simp] theorem fail_andThen (state : σ) (error : Error) (second : σ → α → Outcome σ β) :
    (fail state error).andThen second = fail state error := rfl

end Outcome

/-! ## Settings of one byte -/

namespace ByteSetting

/-- The value of a setting, if it is a byte. -/
def check (setting : ByteSetting) (value : Int) : Except Error Int :=
  if 0 ≤ value ∧ value < 0x100 then .ok value else .error (.byteSettingRange setting value)

/-- What passes is a byte and is not changed. -/
theorem check_eq_ok_iff {setting : ByteSetting} {value checked : Int} :
    setting.check value = .ok checked ↔ (0 ≤ value ∧ value < 0x100) ∧ value = checked := by
  unfold check
  split
  · next range => exact ⟨fun h => ⟨range, Except.ok.inj h⟩, fun h => congrArg Except.ok h.2⟩
  · next range => exact ⟨nofun, fun h => absurd h.1 range⟩

end ByteSetting

end UsbCompiler
