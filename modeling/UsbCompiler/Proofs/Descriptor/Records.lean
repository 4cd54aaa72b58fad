import UsbCompiler.Interface
import UsbCompiler.Proofs.Lists
import UsbCompiler.Proofs.Results
import UsbCompiler.Wire

/-!
# `UsbCompiler.Proofs.Descriptor.Records` — descriptors as the host reads them

The host cuts a configuration descriptor into records and decodes the payload of each. The records of the
standard descriptors are given here as values, with the counts that they end up with and not with the zeros that
are written first, and decoding is shown to give back the numbers that went in.

## Contents
- `Record.Decodes` and `StandardDescriptor.decodes_record`: reading a payload back.
- `Record.split?_bytes`: a record that stands alone.
- `ConfigurationHeader.counted`, `InterfaceHeader.counted` and `Endpoint.Descriptor.record`.
- `Endpoint.Descriptor.fits_iff`: endpoints whose numbers fit.
- `Endpoint.Descriptor.ofRecord?` and `ofRecord?_record`: endpoints read back.
- `InterfaceRecords` and `InterfaceRecords.Describes`: all that is written for an interface.
- `Interface.records` and `describes_records`: the records of an interface whose numbers fit.
-/

namespace UsbCompiler

/-! ## Payloads -/

theorem Field.fits_byte_iff {value : Int} : (Field.byte value).Fits ↔ 0 ≤ value ∧ value < 0x100 := Iff.rfl

theorem Field.fits_word_iff {value : Int} : (Field.word value).Fits ↔ 0 ≤ value ∧ value < 0x10000 := Iff.rfl

/-- The record of a standard descriptor with the given fields. -/
def StandardDescriptor.record (type : StandardDescriptor) (fields : List Field) : Record :=
  ⟨UInt8.ofNat type.code.toNat, fields.flatMap Field.bytes⟩

/-- **Decoded records.** A record has the type of a standard descriptor, and cutting its payload into fields of
    the given widths gives their numbers. -/
def Record.Decodes (record : Record) (type : StandardDescriptor) (fields : List Field) : Prop :=
  (record.type.toNat : Int) = type.code
    ∧ (unpack? (fields.map Field.width) record.payload).map (List.map Int.ofNat) = some (fields.map Field.value)

/-- Fields that fit are read back. -/
theorem StandardDescriptor.decodes_record (type : StandardDescriptor) {fields : List Field}
    (hfits : ∀ field ∈ fields, field.Fits) : (type.record fields).Decodes type fields := by
  refine ⟨by cases type <;> rfl, ?_⟩
  have hunpack := unpack?_of_pack (pack_eq_ok_iff.mpr ⟨hfits, rfl⟩)
  rw [record, hunpack, Option.map_some, List.map_map]
  refine congrArg some (List.map_congr_left ?_)
  intro field hfield
  exact Int.toNat_of_nonneg (hfits field hfield).1

/-- A record that stands alone is cut off as a whole. -/
theorem Record.split?_bytes {record : Record} (hsmall : record.size ≤ 255) :
    Record.split? record.bytes = some [record] := by
  have hsplit := Record.split?_bytes_append hsmall []
  rw [List.append_nil, Record.split?_nil] at hsplit
  exact hsplit

/-! ## Records with counts -/

/-- The payload of a configuration descriptor with a length and a number of interfaces. -/
def ConfigurationHeader.counted (header : ConfigurationHeader) (string length interfaces : Nat) : List Field :=
  [.word length, .byte interfaces, .byte header.value, .byte string, .byte header.attributes,
    .byte header.maxPower]

/-- The payload of an interface descriptor with a number of endpoints. -/
def InterfaceHeader.counted (header : InterfaceHeader) (string endpoints : Nat) : List Field :=
  [.byte header.number, .byte header.alternateSetting, .byte endpoints, .byte header.classCode,
    .byte header.subClass, .byte header.protocol, .byte string]

theorem StringPool.lookup_eq_ok_iff {pool : StringPool} {source : StringSource} {index : Nat} :
    pool.lookup source = .ok index ↔ pool.index? source = some index := by
  unfold lookup
  cases pool.index? source with
  | none => exact ⟨nofun, nofun⟩
  | some found =>
    constructor
    · intro h
      cases h
      rfl
    · intro h
      cases h
      rfl

/-- The fields of a configuration are those with counts of zero. -/
theorem ConfigurationHeader.fields_eq_ok_iff {header : ConfigurationHeader} {strings : StringPool}
    {fields : List Field} :
    header.fields strings = .ok fields
      ↔ ∃ string, strings.index? header.string = some string ∧ fields = header.counted string 0 0 := by
  unfold ConfigurationHeader.fields
  rw [bind_eq_ok_iff]
  constructor
  · rintro ⟨string, hstring, h⟩
    exact ⟨string, StringPool.lookup_eq_ok_iff.mp hstring, (Except.ok.inj h).symm⟩
  · rintro ⟨string, hstring, rfl⟩
    exact ⟨string, StringPool.lookup_eq_ok_iff.mpr hstring, rfl⟩

/-- The fields of an interface are those with a count of zero. -/
theorem InterfaceHeader.fields_eq_ok_iff {header : InterfaceHeader} {strings : StringPool}
    {fields : List Field} :
    header.fields strings = .ok fields
      ↔ ∃ string, strings.index? header.string = some string ∧ fields = header.counted string 0 := by
  unfold InterfaceHeader.fields
  rw [bind_eq_ok_iff]
  constructor
  · rintro ⟨string, hstring, h⟩
    exact ⟨string, StringPool.lookup_eq_ok_iff.mp hstring, (Except.ok.inj h).symm⟩
  · rintro ⟨string, hstring, rfl⟩
    exact ⟨string, StringPool.lookup_eq_ok_iff.mpr hstring, rfl⟩

/-- A descriptor of a class or a vendor as a record. -/
def ExtraDescriptor.record (extra : ExtraDescriptor) : Record := ⟨UInt8.ofNat extra.type.toNat, extra.data⟩

namespace Endpoint.Descriptor

/-- The address of an endpoint is a byte by itself. -/
theorem fits_iff {descriptor : Descriptor} :
    (∀ field ∈ descriptor.fields, field.Fits)
      ↔ (0 ≤ descriptor.attributes ∧ descriptor.attributes ≤ 255)
        ∧ (0 ≤ descriptor.interval ∧ descriptor.interval ≤ 255)
        ∧ (0 ≤ descriptor.maxPacketSize ∧ descriptor.maxPacketSize ≤ 65535) := by
  have haddress : 0 ≤ descriptor.address.value ∧ descriptor.address.value < 0x100 := by
    have hbound := descriptor.address.number_lt
    rcases descriptor.address.value_eq with ⟨hvalue, _⟩ | ⟨hvalue, _⟩
    · omega
    · omega
  simp only [fields, List.forall_mem_cons, Field.fits_byte_iff, Field.fits_word_iff]
  constructor
  · rintro ⟨_, hattributes, hsize, hinterval, _⟩
    omega
  · rintro ⟨hattributes, hinterval, hsize⟩
    exact ⟨haddress, by omega, by omega, by omega, List.forall_mem_nil _⟩

/-- An endpoint descriptor as a record. -/
def record (descriptor : Descriptor) : Record := StandardDescriptor.endpoint.record descriptor.fields

/-- The endpoint that a record tells of, if it is one of an endpoint. -/
def ofRecord? (record : Record) : Option Descriptor :=
  if record.type = 5 then
    match unpack? [.byte, .byte, .word, .byte] record.payload with
    | some [address, attributes, maxPacketSize, interval] =>
      match Address.ofValue address with
      | .ok address => some { address, attributes, maxPacketSize, interval }
      | .error _ => none
    | _ => none
  else none

/-- An endpoint whose numbers fit is read back. -/
theorem ofRecord?_record {descriptor : Descriptor} (hfits : ∀ field ∈ descriptor.fields, field.Fits) :
    ofRecord? descriptor.record = some descriptor := by
  obtain ⟨address, attributes, maxPacketSize, interval⟩ := descriptor
  have hunpack := unpack?_of_pack (pack_eq_ok_iff.mpr ⟨hfits, rfl⟩)
  simp only [fields, List.map_cons, List.map_nil] at hunpack
  simp only [fields, List.forall_mem_cons, Field.Fits] at hfits
  obtain ⟨⟨haddress, _⟩, ⟨hattributes, _⟩, ⟨hsize, _⟩, ⟨hinterval, _⟩, _⟩ := hfits
  have htype : (record ⟨address, attributes, maxPacketSize, interval⟩).type = 5 := rfl
  unfold ofRecord?
  rw [if_pos htype, record, StandardDescriptor.record]
  simp only [fields]
  rw [hunpack]
  simp only [Int.toNat_of_nonneg haddress, Int.toNat_of_nonneg hattributes, Int.toNat_of_nonneg hsize,
    Int.toNat_of_nonneg hinterval, Address.ofValue_value]

theorem type_of_ofRecord? {record : Record} {descriptor : Descriptor} (h : ofRecord? record = some descriptor) :
    record.type = 5 := by
  unfold ofRecord? at h
  split at h
  · assumption
  · cases h

end Endpoint.Descriptor

/-! ## Records of an interface -/

/-- The records that are written for an interface. -/
structure InterfaceRecords where
  header : Record
  extras : List Record
  endpoints : List Record
deriving DecidableEq

namespace InterfaceRecords

/-- All records in the order in which they are written. -/
def all (records : InterfaceRecords) : List Record := records.header :: (records.extras ++ records.endpoints)

/-- **The records of an interface.** The header decodes to its properties, with the index of its string and the
    number of its endpoints. Descriptors of a class or a vendor are there as they were given, in their order,
    and so are the endpoints. -/
structure Describes (records : InterfaceRecords) (interface : Interface) (strings : StringPool) : Prop where
  header : ∃ string, strings.index? interface.header.string = some string
    ∧ records.header.Decodes .interface (interface.header.counted string interface.endpoints.length)
  extras : List.Forall₂ (fun extra record => (record.type.toNat : Int) = extra.type ∧ record.payload = extra.data)
    interface.extras records.extras
  endpoints : records.endpoints.map Endpoint.Descriptor.ofRecord? = interface.endpoints.map some

/-- If no other descriptor has the type of endpoints, the records of this type are those of the endpoints. -/
theorem Describes.filter_all {records : InterfaceRecords} {interface : Interface} {strings : StringPool}
    (h : records.Describes interface strings) (hextras : ∀ extra ∈ interface.extras, extra.type ≠ 5) :
    records.all.filter (fun record => record.type = 5) = records.endpoints := by
  have hheader : records.header.type ≠ 5 := by
    obtain ⟨_, _, hdecodes⟩ := h.header
    intro htype
    have hcode : (records.header.type.toNat : Int) = 4 := hdecodes.1
    rw [htype] at hcode
    exact absurd hcode (by decide)
  have hothers : records.extras.filter (fun record => record.type = 5) = [] := by
    rw [List.filter_eq_nil_iff]
    intro record hrecord htype
    obtain ⟨extra, hextra, hsame, _⟩ := exists_of_forall₂ h.extras.flip hrecord
    rw [of_decide_eq_true htype] at hsame
    exact hextras extra hextra hsame.symm
  -- Records that decode to endpoints have their type.
  have hendpoints : records.endpoints.filter (fun record => record.type = 5) = records.endpoints := by
    rw [List.filter_eq_self]
    intro record hrecord
    have hmem : Endpoint.Descriptor.ofRecord? record ∈ interface.endpoints.map some := by
      rw [← h.endpoints]
      exact List.mem_map_of_mem hrecord
    obtain ⟨descriptor, _, hsome⟩ := List.mem_map.mp hmem
    exact decide_eq_true (Endpoint.Descriptor.type_of_ofRecord? hsome.symm)
  rw [all, List.filter_cons_of_neg (by simpa using hheader), List.filter_append, hothers, hendpoints,
    List.nil_append]

end InterfaceRecords

namespace Interface

/-- The records of an interface, given the index of its string. -/
def records (interface : Interface) (string : Nat) : InterfaceRecords where
  header := StandardDescriptor.interface.record (interface.header.counted string interface.endpoints.length)
  extras := interface.extras.map ExtraDescriptor.record
  endpoints := interface.endpoints.map Endpoint.Descriptor.record

/-- Where all numbers fit, they are read back. -/
theorem describes_records {interface : Interface} {strings : StringPool} {string : Nat}
    (hstring : strings.index? interface.header.string = some string)
    (hheader : ∀ field ∈ interface.header.counted string interface.endpoints.length, field.Fits)
    (htypes : ∀ extra ∈ interface.extras, 0 ≤ extra.type ∧ extra.type < 0x100)
    (hendpoints : ∀ descriptor ∈ interface.endpoints, ∀ field ∈ descriptor.fields, field.Fits) :
    (interface.records string).Describes interface strings where
  header := ⟨string, hstring, StandardDescriptor.decodes_record _ hheader⟩
  extras := by
    show List.Forall₂ _ interface.extras (interface.extras.map ExtraDescriptor.record)
    rw [List.forall₂_map_right_iff, List.forall₂_same]
    intro extra hextra
    obtain ⟨hnonneg, hsmall⟩ := htypes extra hextra
    refine ⟨?_, rfl⟩
    show ((UInt8.ofNat extra.type.toNat).toNat : Int) = extra.type
    rw [UInt8.toNat_ofNat']
    omega
  endpoints := by
    show (interface.endpoints.map Endpoint.Descriptor.record).map _ = _
    rw [List.map_map]
    apply List.map_congr_left
    intro descriptor hdescriptor
    exact Endpoint.Descriptor.ofRecord?_record (hendpoints descriptor hdescriptor)

end Interface

end UsbCompiler
