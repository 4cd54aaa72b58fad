import UsbCompiler.Error

/-!
# `UsbCompiler.Wire` — descriptors as bytes

Descriptors consist of bytes and of 16-bit words with the low byte first. Every descriptor starts with its length in
bytes and its type. A string of descriptors can therefore be cut without knowing what any of them means.

## Contents
- `Bytes`, `Width` and `Field`: a number together with the width that it is written in.
- `pack` and `unpack?`: fields to bytes and back.
- `pack_eq_ok_iff` and `unpack?_of_pack`: packing succeeds exactly if every number fits, and then loses none.
- `Record`, `Record.bytes` and `Record.split?`: length, type and payload.
- `Record.split?_flatMap_bytes`: what is written one after another is cut at the same places.
-/

namespace UsbCompiler

/-! ## Fields of fixed width -/

/-- A string of bytes. -/
abbrev Bytes := List UInt8

/-- The width of a field. -/
inductive Width where
  | byte
  | word
deriving DecidableEq

/-- The number of values that a field of a width can hold. -/
def Width.bound : Width → Nat
  | byte => 0x100
  | word => 0x10000

/-- A number in the given width, low byte first. Numbers beyond the width lose their high bits. -/
def Width.encode : Width → Nat → Bytes
  | byte, n => [UInt8.ofNat n]
  | word, n => [UInt8.ofNat (n % 0x100), UInt8.ofNat (n / 0x100)]

/-- A number that is to be written in a given width. -/
structure Field where
  width : Width
  value : Int
deriving DecidableEq

namespace Field

/-- A field of one byte. -/
abbrev byte (value : Int) : Field := ⟨.byte, value⟩

/-- A field of two bytes. -/
abbrev word (value : Int) : Field := ⟨.word, value⟩

/-- A number fits in its field if it is not negative and below the bound of the width. -/
def Fits (field : Field) : Prop := 0 ≤ field.value ∧ field.value < field.width.bound

instance (field : Field) : Decidable field.Fits := inferInstanceAs (Decidable (_ ∧ _))

/-- The bytes of a field. -/
def bytes (field : Field) : Bytes := field.width.encode field.value.toNat

end Field

/-- All fields in a row, provided that every number fits. -/
def pack (fields : List Field) : Except Error Bytes :=
  if ∀ field ∈ fields, field.Fits then .ok (fields.flatMap Field.bytes) else .error .fieldRange

/-- The numbers in bytes that are cut into fields of the given widths, with nothing left over. -/
def unpack? : List Width → Bytes → Option (List Nat)
  | [], [] => some []
  | .byte :: widths, b :: rest => (unpack? widths rest).map (b.toNat :: ·)
  | .word :: widths, low :: high :: rest =>
    (unpack? widths rest).map ((low.toNat + 0x100 * high.toNat) :: ·)
  | _, _ => none

/-- Packing succeeds exactly if every number fits in its field. -/
theorem pack_eq_ok_iff {fields : List Field} {bytes : Bytes} :
    pack fields = .ok bytes ↔ (∀ field ∈ fields, field.Fits) ∧ fields.flatMap Field.bytes = bytes := by
  unfold pack
  split
  · next fits => exact ⟨fun h => ⟨fits, Except.ok.inj h⟩, fun h => congrArg Except.ok h.2⟩
  · next fits => exact ⟨nofun, fun h => absurd h.1 fits⟩

/-- Reading the bytes of one field in front of others. -/
theorem unpack?_bytes_append {field : Field} (fits : field.Fits) (widths : List Width) (rest : Bytes) :
    unpack? (field.width :: widths) (field.bytes ++ rest)
      = (unpack? widths rest).map (field.value.toNat :: ·) := by
  obtain ⟨width, value⟩ := field
  obtain ⟨nonneg, bound⟩ := fits
  cases width with
  | byte =>
    simp only [Width.bound] at bound
    have low : (UInt8.ofNat value.toNat).toNat = value.toNat := by
      rw [UInt8.toNat_ofNat']; omega
    simp only [Field.bytes, Width.encode, List.cons_append, List.nil_append, unpack?, low]
  | word =>
    simp only [Width.bound] at bound
    have low : (UInt8.ofNat (value.toNat % 0x100)).toNat + 0x100 * (UInt8.ofNat (value.toNat / 0x100)).toNat
        = value.toNat := by
      rw [UInt8.toNat_ofNat', UInt8.toNat_ofNat']; omega
    simp only [Field.bytes, Width.encode, List.cons_append, List.nil_append, unpack?, low]

/-- Packed fields are read back as they were. -/
theorem unpack?_of_pack {fields : List Field} {bytes : Bytes} (h : pack fields = .ok bytes) :
    unpack? (fields.map Field.width) bytes = some (fields.map (·.value.toNat)) := by
  obtain ⟨fits, rfl⟩ := pack_eq_ok_iff.mp h
  clear h
  induction fields with
  | nil => rfl
  | cons field rest ih =>
    have head := fits field List.mem_cons_self
    have tail := ih fun f hf => fits f (List.mem_cons_of_mem _ hf)
    rw [List.flatMap_cons, List.map_cons, unpack?_bytes_append head, tail]
    rfl

/-! ## Records -/

/-- A descriptor whose payload is not interpreted. -/
structure Record where
  type : UInt8
  payload : Bytes
deriving DecidableEq

namespace Record

/-- The size of a record with its length and type bytes. -/
def size (record : Record) : Nat := record.payload.length + 2

/-- A record on the wire. The length byte is right if the size is at most 255. -/
def bytes (record : Record) : Bytes :=
  UInt8.ofNat record.size :: record.type :: record.payload

/-- Cuts bytes into records by their length bytes, with nothing left over. -/
def split? : Bytes → Option (List Record)
  | [] => some []
  | [_] => none
  | length :: type :: rest =>
    if 2 ≤ length.toNat ∧ length.toNat - 2 ≤ rest.length then
      (split? (rest.drop (length.toNat - 2))).map (⟨type, rest.take (length.toNat - 2)⟩ :: ·)
    else none
termination_by bytes => bytes.length
decreasing_by
  simp only [List.length_drop, List.length_cons]
  omega

@[simp] theorem split?_nil : split? [] = some [] := by rw [split?]

@[simp] theorem length_bytes (record : Record) : record.bytes.length = record.size := by
  simp only [bytes, size, List.length_cons]

/-- A record in front is cut off. -/
theorem split?_bytes_append {record : Record} (small : record.size ≤ 255) (rest : Bytes) :
    split? (record.bytes ++ rest) = (split? rest).map (record :: ·) := by
  have length : (UInt8.ofNat record.size).toNat = record.size := by
    rw [UInt8.toNat_ofNat']; omega
  have payload : record.size - 2 = record.payload.length := by unfold size; omega
  have bound : 2 ≤ record.size ∧ record.size - 2 ≤ (record.payload ++ rest).length := by
    rw [payload, List.length_append]; unfold size; omega
  simp only [bytes, List.cons_append]
  rw [split?]
  simp only [length]
  rw [if_pos bound, payload, List.drop_left, List.take_left]

/-- Records written one after another are cut into the same records. -/
theorem split?_flatMap_bytes {records : List Record} (small : ∀ record ∈ records, record.size ≤ 255) :
    split? (records.flatMap bytes) = some records := by
  induction records with
  | nil => exact split?_nil
  | cons record rest ih =>
    have tail := ih fun r hr => small r (List.mem_cons_of_mem _ hr)
    rw [List.flatMap_cons, split?_bytes_append (small record List.mem_cons_self), tail]
    rfl

end Record

end UsbCompiler
