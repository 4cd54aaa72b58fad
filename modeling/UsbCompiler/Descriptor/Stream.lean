import UsbCompiler.Descriptor.Header
import UsbCompiler.Endpoint.Descriptor
import UsbCompiler.Error
import UsbCompiler.Text
import UsbCompiler.Wire

/-!
# `UsbCompiler.Descriptor.Stream` — descriptors written one after another

A configuration descriptor tells the length of all that belongs to it and the number of its interfaces; an
interface descriptor tells the number of its endpoints. None of these is known when the descriptor is written.
A stream remembers where they stand: counts go up with each interface and endpoint that follows, and the length
is filled in when the next configuration begins or the stream is completed.

## Contents
- `Stream` with `size` and `append`.
- `Stream.writeRecord`: any descriptor, from its type and payload.
- `Stream.increment` and `Stream.closeConfiguration`: changes to what has been written.
- `writeDevice`, `beginConfiguration`, `beginInterface`, `writeEndpoint`, `writeString`, `writeLanguages`: the
  standard descriptors.
- `Stream.complete`: the bytes so far.
- `writeRecord_eq_ok_iff`, `increment_eq_ok_iff` and `size_closeConfiguration`: what the basic steps do.

Counts and marks are changed before the payload of a descriptor is looked at. If it turns out not to fit, they
stay changed, and a mark can then point beyond the end of the stream or at a later descriptor.
-/

namespace UsbCompiler

/-- Bytes with a new piece written over them, from a place on. -/
def overwrite (bytes : Bytes) (place : Nat) (piece : Bytes) : Bytes :=
  bytes.take place ++ piece ++ bytes.drop (place + piece.length)

/-- Writing over bytes changes no length if the piece lies within them. -/
theorem length_overwrite {bytes : Bytes} {place : Nat} {piece : Bytes}
    (inside : place + piece.length ≤ bytes.length) :
    (overwrite bytes place piece).length = bytes.length := by
  simp only [overwrite, List.length_append, List.length_take, List.length_drop]
  omega

/-- Descriptors that have been written, and the places where counts are still to come. -/
structure Stream where
  bytes : Bytes := []
  /-- The start of the configuration that is open. -/
  configuration : Option Nat := none
  /-- The place of the endpoint count of the interface that is open. -/
  endpointCount : Option Nat := none
deriving DecidableEq

namespace Stream

/-- A stream with nothing written. -/
def empty : Stream := {}

/-- The number of bytes written. -/
def size (stream : Stream) : Nat := stream.bytes.length

/-- A stream with bytes added at its end. -/
def append (stream : Stream) (bytes : Bytes) : Stream :=
  { stream with bytes := stream.bytes ++ bytes }

/-! ## Descriptors in general -/

/-- Writes a descriptor. One of more than 255 bytes is refused as a whole. A type that is no byte is found out
    when the length has been written. -/
def writeRecord (stream : Stream) (type : Int) (payload : Bytes) : Outcome Stream Unit :=
  if 0xFF < payload.length + 2 then .fail stream (.descriptorTooBig (payload.length + 2))
  else if 0 ≤ type ∧ type < 0x100 then
    .ok (stream.append (Record.bytes ⟨UInt8.ofNat type.toNat, payload⟩)) ()
  else .fail (stream.append [UInt8.ofNat (payload.length + 2)]) .byteRange

/-- A descriptor is written exactly if its size and its type are bytes. -/
theorem writeRecord_eq_ok_iff {stream : Stream} {type : Int} {payload : Bytes} :
    (stream.writeRecord type payload).result = .ok () ↔ payload.length ≤ 253 ∧ 0 ≤ type ∧ type < 0x100 := by
  unfold writeRecord
  split
  · next large => exact ⟨nofun, fun h => absurd h.1 (by omega)⟩
  · next small =>
    split
    · next isByte => exact ⟨fun _ => ⟨by omega, isByte⟩, fun _ => rfl⟩
    · next noByte => exact ⟨nofun, fun h => absurd h.2 noByte⟩

/-- What is written is the record of the type and the payload. -/
theorem state_writeRecord {stream : Stream} {type : Int} {payload : Bytes}
    (h : (stream.writeRecord type payload).result = .ok ()) :
    (stream.writeRecord type payload).state
      = stream.append (Record.bytes ⟨UInt8.ofNat type.toNat, payload⟩) := by
  obtain ⟨small, isByte⟩ := writeRecord_eq_ok_iff.mp h
  have fits : ¬0xFF < payload.length + 2 := by omega
  simp only [writeRecord, fits, isByte, and_self, if_true, if_false, Outcome.ok]

/-- Writes a descriptor of a class or a vendor. -/
def writeExtra (stream : Stream) (extra : ExtraDescriptor) : Outcome Stream Unit :=
  stream.writeRecord extra.type extra.data

/-- Writes a standard descriptor, if its payload could be determined and its numbers fit. -/
def writeFields (stream : Stream) (type : StandardDescriptor) (fields : Except Error (List Field)) :
    Outcome Stream Unit :=
  match fields >>= pack with
  | .error error => .fail stream error
  | .ok payload => stream.writeRecord type.code payload

/-! ## Changes to what has been written -/

/-- Raises the count at a place by one. -/
def increment (stream : Stream) (place : Nat) : Except Error Stream :=
  match stream.bytes[place]? with
  | none => .error .indexRange
  | some count =>
    if count = 0xFF then .error .byteRange
    else .ok { stream with bytes := stream.bytes.set place (count + 1) }

/-- A count is raised exactly if it is there and below 255. -/
theorem increment_eq_ok_iff {stream next : Stream} {place : Nat} :
    stream.increment place = .ok next
      ↔ ∃ count, stream.bytes[place]? = some count ∧ count ≠ 0xFF
        ∧ next = { stream with bytes := stream.bytes.set place (count + 1) } := by
  unfold increment
  split
  · next absent => exact ⟨nofun, fun ⟨count, present, _⟩ => by rw [absent] at present; cases present⟩
  · next count present =>
    split
    · next full =>
      refine ⟨nofun, fun ⟨other, same, room, _⟩ => ?_⟩
      rw [present] at same
      cases same
      exact absurd full room
    · next room =>
      constructor
      · intro h
        exact ⟨count, present, room, (Except.ok.inj h).symm⟩
      · rintro ⟨other, same, _, rfl⟩
        rw [present] at same
        cases same
        rfl

/-- Fills in the length of the configuration that is open, up to the end of the stream. Nothing happens without
    such a configuration. -/
def closeConfiguration (stream : Stream) : Except Error Stream :=
  match stream.configuration with
  | none => .ok stream
  | some start =>
    if start + 4 ≤ stream.size ∧ stream.size - start < 0x10000 then
      .ok { stream with bytes := overwrite stream.bytes (start + 2) (Width.word.encode (stream.size - start)) }
    else .error .fieldRange

/-- Closing a configuration changes no size. -/
theorem size_closeConfiguration {stream next : Stream} (h : stream.closeConfiguration = .ok next) :
    next.size = stream.size := by
  unfold closeConfiguration at h
  split at h
  · cases h
    rfl
  · next start _ =>
    split at h
    · next inside =>
      cases h
      exact length_overwrite (by simp only [Width.encode, List.length_cons, List.length_nil]; exact inside.1)
    · cases h

/-! ## Standard descriptors -/

/-- Writes a device descriptor. -/
def writeDevice (stream : Stream) (device : DeviceHeader) (configurations : Int) (strings : StringPool) :
    Outcome Stream Unit :=
  stream.writeFields .device (device.fields configurations strings)

/-- Closes the configuration that is open and begins another one, which has no interface yet. -/
def beginConfiguration (stream : Stream) (header : ConfigurationHeader) (strings : StringPool) :
    Outcome Stream Unit :=
  match stream.closeConfiguration with
  | .error error => .fail stream error
  | .ok stream =>
    { stream with configuration := some stream.size, endpointCount := none : Stream }.writeFields
      .configuration (header.fields strings)

/-- Counts an interface in the configuration that is open and begins it. -/
def beginInterface (stream : Stream) (header : InterfaceHeader) (strings : StringPool) :
    Outcome Stream Unit :=
  match stream.configuration with
  | none => .fail stream .interfaceOutsideConfiguration
  | some start =>
    match stream.increment (start + 4) with
    | .error error => .fail stream error
    | .ok stream =>
      { stream with endpointCount := some (stream.size + 4) : Stream }.writeFields
        .interface (header.fields strings)

/-- Counts an endpoint in the interface that is open and writes it. -/
def writeEndpoint (stream : Stream) (endpoint : Endpoint.Descriptor) : Outcome Stream Unit :=
  match stream.endpointCount with
  | none => .fail stream .endpointOutsideInterface
  | some place =>
    match stream.increment place with
    | .error error => .fail stream error
    | .ok stream => stream.writeFields .endpoint (.ok endpoint.fields)

/-- The payload of a string descriptor with a text: code units, low bytes first. -/
def textPayload (units : List Nat) : Bytes := units.flatMap Width.word.encode

/-- Writes a string descriptor with a text. The text is encoded before anything is written. -/
def writeString (stream : Stream) (text : Text) : Outcome Stream Unit :=
  match Utf16.encode? text with
  | none => .fail stream .surrogateInText
  | some units => stream.writeRecord StandardDescriptor.string.code (textPayload units)

/-- The language that is announced if no other is: English as it is used in the United States. -/
def defaultLanguages : List Int := [0x0409]

/-- Writes the string descriptor that lists the supported languages. -/
def writeLanguages (stream : Stream) (languages : List Int) : Outcome Stream Unit :=
  let languages := if languages.isEmpty then defaultLanguages else languages
  stream.writeFields .string (.ok (languages.map Field.word))

/-- Fills in the length that is still open and returns all bytes. The stream can go on afterwards. -/
def complete (stream : Stream) : Outcome Stream Bytes :=
  match stream.closeConfiguration with
  | .error error => .fail stream error
  | .ok stream => .ok stream stream.bytes

end Stream

end UsbCompiler
