import UsbCompiler.Device.Compiled
import UsbCompiler.Proofs.Descriptor.Writing

/-!
# `UsbCompiler.Proofs.Descriptor.Standalone` — the parts of a compiled device

A device is compiled part by part. The device descriptor and each string descriptor are written to a stream of their
own, and their bytes are those of one record.

## Contents
- `Description.compile_eq_ok_iff`: the parts of a result, one by one.
- `Stream.complete_append_empty`: a stream with one record.
- `DeviceHeader.indexed` and `Description.deviceDescriptor_eq_ok_iff`: the device descriptor.
- `length_words` and `unpack?_words`: the payload of a string descriptor read back.
- `Description.compileString_eq_ok_iff`: the answer for one source of a string.
-/

namespace UsbCompiler

/-! ## The parts -/

/-- Compiling succeeds exactly if each part can be computed, and the result is made of these parts. -/
theorem Description.compile_eq_ok_iff {description : Description} {config : CompiledDevice} :
    description.compile = .ok config
      ↔ ∃ strings, description.check = .ok () ∧ description.strings = .ok strings
        ∧ description.deviceDescriptor strings = .ok config.deviceDescriptor
        ∧ description.configurationDescriptor strings = .ok config.configurationDescriptor
        ∧ compiledStrings strings = .ok config.strings
        ∧ config.endpoints = description.allEndpoints := by
  unfold compile
  constructor
  · intro h
    obtain ⟨_, hcheck, h⟩ := bind_eq_ok_iff.mp h
    obtain ⟨strings, hstrings, h⟩ := bind_eq_ok_iff.mp h
    obtain ⟨deviceDescriptor, hdevice, h⟩ := bind_eq_ok_iff.mp h
    obtain ⟨configurationDescriptor, hconfiguration, h⟩ := bind_eq_ok_iff.mp h
    obtain ⟨answers, hanswers, h⟩ := bind_eq_ok_iff.mp h
    cases h
    exact ⟨strings, hcheck, hstrings, hdevice, hconfiguration, hanswers, rfl⟩
  · rintro ⟨strings, hcheck, hstrings, hdevice, hconfiguration, hanswers, hendpoints⟩
    refine bind_eq_ok_iff.mpr ⟨(), hcheck, bind_eq_ok_iff.mpr ⟨strings, hstrings, ?_⟩⟩
    refine bind_eq_ok_iff.mpr ⟨_, hdevice, bind_eq_ok_iff.mpr ⟨_, hconfiguration, ?_⟩⟩
    refine bind_eq_ok_iff.mpr ⟨_, hanswers, ?_⟩
    rw [← hendpoints]
    rfl

/-- The bytes of a stream with one record. -/
theorem Stream.complete_append_empty (bytes : Bytes) : (Stream.empty.append bytes).complete.result = .ok bytes := rfl

/-! ## The device -/

/-- The payload of a device descriptor with the indexes of its strings. -/
def DeviceHeader.indexed (header : DeviceHeader) (configurations : Int) (manufacturer product serialNumber : Nat) :
    List Field :=
  [.word 0x0200, .byte header.classCode, .byte header.subClass, .byte header.protocol,
    .byte header.controlPacketSize, .word header.vendor, .word header.product, .word header.release,
    .byte manufacturer, .byte product, .byte serialNumber, .byte configurations]

theorem DeviceHeader.fields_eq_ok_iff {header : DeviceHeader} {configurations : Int} {strings : StringPool}
    {fields : List Field} :
    header.fields configurations strings = .ok fields
      ↔ ∃ manufacturer product serialNumber, strings.index? header.manufacturerString = some manufacturer
        ∧ strings.index? header.productString = some product
        ∧ strings.index? header.serialNumberString = some serialNumber
        ∧ fields = header.indexed configurations manufacturer product serialNumber := by
  unfold DeviceHeader.fields
  simp only [bind_eq_ok_iff, StringPool.lookup_eq_ok_iff]
  constructor
  · rintro ⟨manufacturer, hmanufacturer, product, hproduct, serialNumber, hserial, h⟩
    exact ⟨manufacturer, product, serialNumber, hmanufacturer, hproduct, hserial, (Except.ok.inj h).symm⟩
  · rintro ⟨manufacturer, product, serialNumber, hmanufacturer, hproduct, hserial, rfl⟩
    exact ⟨manufacturer, hmanufacturer, product, hproduct, serialNumber, hserial, rfl⟩

namespace Description

/-- The device descriptor is one record. -/
theorem deviceDescriptor_eq_ok_iff {description : Description} {strings : StringPool} {bytes : Bytes} :
    description.deviceDescriptor strings = .ok bytes
      ↔ ∃ manufacturer product serialNumber, strings.index? description.device.manufacturerString = some manufacturer
        ∧ strings.index? description.device.productString = some product
        ∧ strings.index? description.device.serialNumberString = some serialNumber
        ∧ (∀ field ∈ description.device.indexed 1 manufacturer product serialNumber, field.Fits)
        ∧ bytes = (StandardDescriptor.device.record
          (description.device.indexed 1 manufacturer product serialNumber)).bytes := by
  have hsmall (manufacturer product serialNumber : Nat) : (StandardDescriptor.device.record
      (description.device.indexed 1 manufacturer product serialNumber)).size ≤ 255 := by
    show 18 ≤ 255
    decide
  unfold deviceDescriptor Stream.writeDevice
  rw [Outcome.andThen_eq_ok_iff]
  constructor
  · rintro ⟨stream, hwrite, hbytes⟩
    obtain ⟨fields, hfields, hfits, _, rfl⟩ := Stream.commit_writeFields_eq_ok_iff.mp hwrite
    obtain ⟨manufacturer, product, serialNumber, hmanufacturer, hproduct, hserial, rfl⟩ :=
      DeviceHeader.fields_eq_ok_iff.mp hfields
    rw [Stream.complete_append_empty] at hbytes
    cases hbytes
    exact ⟨manufacturer, product, serialNumber, hmanufacturer, hproduct, hserial, hfits, rfl⟩
  · rintro ⟨manufacturer, product, serialNumber, hmanufacturer, hproduct, hserial, hfits, rfl⟩
    have hfields : description.device.fields 1 strings = .ok _ := DeviceHeader.fields_eq_ok_iff.mpr
      ⟨manufacturer, product, serialNumber, hmanufacturer, hproduct, hserial, rfl⟩
    exact ⟨_, Stream.commit_writeFields_eq_ok_iff.mpr ⟨_, hfields, hfits, hsmall _ _ _, rfl⟩,
      Stream.complete_append_empty _⟩

end Description

/-! ## Strings -/

theorem length_words (words : List Nat) : (words.flatMap Width.word.encode).length = 2 * words.length := by
  induction words with
  | nil => rfl
  | cons word rest ih =>
    have hword : (Width.word.encode word).length = 2 := rfl
    rw [List.flatMap_cons, List.length_append, ih, hword, List.length_cons]
    omega

/-- A row of words is read back. -/
theorem unpack?_words {words : List Nat} (hwords : ∀ word ∈ words, word < 0x10000) :
    unpack? (List.replicate words.length .word) (words.flatMap Width.word.encode) = some words := by
  let fields := words.map fun (word : Nat) => Field.word word
  have hfits : ∀ field ∈ fields, field.Fits := by
    intro field hfield
    obtain ⟨word, hword, rfl⟩ := List.mem_map.mp hfield
    have hbound := hwords word hword
    constructor
    · show (0 : Int) ≤ word
      omega
    · show (word : Int) < 0x10000
      omega
  have hpack : pack fields = .ok (words.flatMap Width.word.encode) :=
    pack_eq_ok_iff.mpr ⟨hfits, List.flatMap_map ..⟩
  have hwidths : fields.map Field.width = List.replicate words.length .word := by
    rw [List.map_map]
    exact List.map_const'
  have hvalues : fields.map (·.value.toNat) = words := by
    rw [List.map_map]
    exact List.map_id _
  have hunpack := unpack?_of_pack hpack
  rw [hwidths, hvalues] at hunpack
  exact hunpack

namespace Description

/-- A text is answered if it has code units and no more than 126 of them, and all else always. -/
theorem compileString_eq_ok_iff {source : StringSource} {answer : CompiledString} :
    compileString source = .ok answer ↔
      match source with
      | .unset | .marked _ => answer = .descriptor [4, 3, 9, 4]
      | .literal text => ∃ units, Utf16.encode? text = some units ∧ units.length ≤ 126
        ∧ answer = .descriptor (Record.bytes ⟨3, Stream.textPayload units⟩)
      | .external identifier => answer = .external identifier := by
  have hlanguages : ((Stream.empty.writeLanguages []).andThen fun stream _ => stream.complete).result
      = .ok [4, 3, 9, 4] := by rfl
  cases source with
  | unset =>
    unfold compileString
    rw [hlanguages]
    exact ⟨fun h => (Except.ok.inj h).symm, fun h => congrArg Except.ok h.symm⟩
  | marked mark =>
    unfold compileString
    rw [hlanguages]
    exact ⟨fun h => (Except.ok.inj h).symm, fun h => congrArg Except.ok h.symm⟩
  | external identifier => exact ⟨fun h => (Except.ok.inj h).symm, fun h => congrArg Except.ok h.symm⟩
  | literal text =>
    have hlength (units : List Nat) : (Stream.textPayload units).length = 2 * units.length := length_words units
    unfold compileString
    simp only
    rw [map_eq_ok_iff]
    simp only [Outcome.andThen_eq_ok_iff, Stream.commit_writeString_eq_ok_iff, hlength]
    constructor
    · rintro ⟨bytes, ⟨stream, ⟨units, hunits, hsmall, rfl⟩, hbytes⟩, rfl⟩
      rw [Stream.complete_append_empty] at hbytes
      cases hbytes
      exact ⟨units, hunits, by omega, rfl⟩
    · rintro ⟨units, hunits, hsmall, rfl⟩
      exact ⟨_, ⟨_, ⟨units, hunits, by omega, rfl⟩, Stream.complete_append_empty _⟩, rfl⟩

end Description

end UsbCompiler
