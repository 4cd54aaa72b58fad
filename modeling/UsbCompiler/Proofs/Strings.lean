import UsbCompiler.Proofs.Descriptor.Described
import UsbCompiler.Proofs.Descriptor.Standalone

/-!
# `UsbCompiler.Proofs.Strings` — every index leads back to its string

Indexes are handed out in one pass over the description, looked up in a second one while descriptors are written, and
turned into answers in a third. All three go by the same list: the sources of the description, the unset one first, each
at its first occurrence.

## Contents
- `Description.distinctSources` and `Description.strings_eq_ok_iff`: the pool of a description.
- `StringSource.AnsweredBy` and `Description.answeredBy_of_compileString`: the right answer for a source.
- `Description.compiledStrings_eq_ok_iff`, `CompiledDevice.stringAt_of_getElem?`, `stringAt_eq_missing_iff` and
  `perm_keys`: the table of answers.
- `Device.compile_resolves_strings`: from the bytes in the descriptors to the answers.
-/

namespace UsbCompiler

/-! ## The pool of a description -/

namespace Description

variable {description : Description} {strings : StringPool}

/-- The sources of a description without repetitions, behind the unset one. -/
def distinctSources (description : Description) : List StringSource :=
  (.unset :: description.stringSources).eraseDups

theorem strings_eq_ok_iff :
    description.strings = .ok strings
      ↔ description.distinctSources.length ≤ 256 ∧ strings = ⟨description.distinctSources⟩ :=
  StringPool.internAll_empty_eq_ok_iff

theorem mem_distinctSources {source : StringSource} (h : source ∈ description.stringSources) :
    source ∈ description.distinctSources := List.mem_eraseDups.mpr (List.mem_cons_of_mem _ h)

theorem getElem?_distinctSources_zero (description : Description) : description.distinctSources[0]? = some .unset := by
  rw [distinctSources, List.eraseDups_cons, List.getElem?_cons_zero]

end Description

/-! ## Answers -/

/-- **The right answer for a source.** A text is answered by a string descriptor that decodes to it, a text of the
    firmware by its identifier, and a source without text by the list of languages. -/
def StringSource.AnsweredBy (source : StringSource) (answer : CompiledString) : Prop :=
  match source with
  | .unset | .marked _ => answer = .descriptor [4, 3, 9, 4]
  | .literal text => ∃ bytes payload units, answer = .descriptor bytes ∧ Record.split? bytes = some [⟨3, payload⟩]
      ∧ unpack? (List.replicate units.length .word) payload = some units
      ∧ (Utf16.decode? units).map Text.ofCharacters = some text
  | .external identifier => answer = .external identifier

theorem Description.answeredBy_of_compileString {source : StringSource} {answer : CompiledString}
    (h : compileString source = .ok answer) : source.AnsweredBy answer := by
  have h := compileString_eq_ok_iff.mp h
  cases source with
  | unset | marked mark | external identifier => exact h
  | literal text =>
    obtain ⟨units, hunits, hsmall, rfl⟩ := h
    have hlength : (Stream.textPayload units).length = 2 * units.length := length_words units
    have hsize : Record.size ⟨3, Stream.textPayload units⟩ ≤ 255 := by
      show (Stream.textPayload units).length + 2 ≤ 255
      omega
    exact ⟨_, _, units, rfl, Record.split?_bytes hsize, unpack?_words (Utf16.lt_of_encode? hunits),
      Utf16.decode?_of_encode? hunits⟩

/-- Answers are computed one by one and stand under the places of their sources. -/
theorem Description.compiledStrings_eq_ok_iff {strings : StringPool} {table : List (Int × CompiledString)} :
    compiledStrings strings = .ok table
      ↔ ∃ answers, List.Forall₂ (fun source answer => compileString source = .ok answer) strings.sources answers
        ∧ table = answers.zipIdx.map fun answer => ((answer.2 : Int), answer.1) :=
  mapM_zipIdx_eq_ok_iff

namespace CompiledDevice

variable {config : CompiledDevice} {answers : List CompiledString}

/-- An answer is found under its place. -/
theorem stringAt_of_getElem? (h : config.strings = answers.zipIdx.map fun answer => ((answer.2 : Int), answer.1))
    {i : Nat} {answer : CompiledString} (hanswer : answers[i]? = some answer) : config.stringAt i = .ok answer := by
  have hlookup := lookup_zipIdx answers 0 i
  rw [if_pos (by omega), Int.natCast_zero, Int.sub_zero, Int.toNat_natCast, hanswer] at hlookup
  rw [stringAt, h, hlookup]

/-- There is no answer anywhere else. -/
theorem stringAt_eq_missing_iff (h : config.strings = answers.zipIdx.map fun answer => ((answer.2 : Int), answer.1))
    {i : Int} : config.stringAt i = .error (.missing i) ↔ ¬(0 ≤ i ∧ i < answers.length) := by
  by_cases hrange : 0 ≤ i ∧ i < answers.length
  · obtain ⟨n, rfl⟩ := Int.eq_ofNat_of_zero_le hrange.1
    have hn : n < answers.length := by omega
    rw [stringAt_of_getElem? h (List.getElem?_eq_getElem hn)]
    exact ⟨nofun, fun hnot => absurd hrange hnot⟩
  · have hlookup := lookup_zipIdx answers 0 i
    have hnone : (if ((0 : Nat) : Int) ≤ i then answers[(i - (0 : Nat)).toNat]? else none) = none := by
      split
      · exact List.getElem?_eq_none (by omega)
      · rfl
    rw [hnone] at hlookup
    rw [stringAt, h, hlookup]
    exact ⟨fun _ => hrange, fun _ => rfl⟩

/-- **Keys.** The finished descriptors and the texts of the firmware share out the indexes of the table. -/
theorem perm_keys (config : CompiledDevice) :
    (config.staticStrings.map Prod.fst ++ config.externalStrings.map Prod.fst).Perm (config.strings.map Prod.fst) := by
  unfold staticStrings externalStrings
  induction config.strings with
  | nil => exact .nil
  | cons entry rest ih =>
    obtain ⟨index, answer⟩ := entry
    cases answer with
    | descriptor bytes => exact ih.cons index
    | external identifier => exact List.perm_middle.trans (ih.cons index)

end CompiledDevice

/-! ## From the bytes to the answers -/

theorem Field.toNat_of_fits {n : Nat} (h : (Field.byte n).Fits) : (UInt8.ofNat n).toNat = n := by
  have hbound : (n : Int) < 0x100 := h.2
  rw [UInt8.toNat_ofNat']
  omega

theorem ConfigurationHeader.string_mem_counted (header : ConfigurationHeader) (string length interfaces : Nat) :
    Field.byte string ∈ header.counted string length interfaces := by
  simp [counted]

theorem InterfaceHeader.string_mem_counted (header : InterfaceHeader) (string endpoints : Nat) :
    Field.byte string ∈ header.counted string endpoints := by
  simp [counted]

/-- The index bytes of a device descriptor. -/
theorem Description.index_deviceDescriptor {description : Description} {strings : StringPool} {bytes : Bytes}
    (hknown : ∀ source ∈ description.stringSources, source ∈ strings.sources)
    (h : description.deviceDescriptor strings = .ok bytes) :
    bytes[14]?.map UInt8.toNat = some (strings.sources.idxOf description.device.manufacturerString)
      ∧ bytes[15]?.map UInt8.toNat = some (strings.sources.idxOf description.device.productString)
      ∧ bytes[16]?.map UInt8.toNat = some (strings.sources.idxOf description.device.serialNumberString) := by
  obtain ⟨manufacturer, product, serialNumber, hmanufacturer, hproduct, hserial, hfits, rfl⟩ :=
    deviceDescriptor_eq_ok_iff.mp h
  rw [StringPool.index?_of_mem (hknown _ (by simp [stringSources]))] at hmanufacturer hproduct hserial
  cases hmanufacturer
  cases hproduct
  cases hserial
  refine ⟨congrArg some (Field.toNat_of_fits (hfits _ ?_)), congrArg some (Field.toNat_of_fits (hfits _ ?_)),
    congrArg some (Field.toNat_of_fits (hfits _ ?_))⟩
  · simp [DeviceHeader.indexed]
  · simp [DeviceHeader.indexed]
  · simp [DeviceHeader.indexed]

/-- **Every string index resolves to what was set.** The index bytes of the device, of the configuration and of each
    interface are the places of their sources among all distinct ones. The indexes of finished descriptors and of
    texts of the firmware are just these places, each once. There is an answer for a number exactly if it is one of
    them, and it is the right one for the source in this place. -/
theorem Device.compile_resolves_strings {device : Device} {store : Interface.Store} {config : CompiledDevice}
    (hcompile : device.compile store = .ok config) :
    let sources := (device.describe store).distinctSources
    config.deviceDescriptor[14]?.map UInt8.toNat = some (sources.idxOf device.header.manufacturerString)
      ∧ config.deviceDescriptor[15]?.map UInt8.toNat = some (sources.idxOf device.header.productString)
      ∧ config.deviceDescriptor[16]?.map UInt8.toNat = some (sources.idxOf device.header.serialNumberString)
      ∧ config.configurationDescriptor[6]?.map UInt8.toNat = some (sources.idxOf device.configurationString)
      ∧ (∃ head blocks,
        Record.split? config.configurationDescriptor = some (head :: blocks.flatMap InterfaceRecords.all)
          ∧ List.Forall₂ (fun interface records => records.Describes interface ⟨sources⟩
            ∧ records.header.bytes[8]?.map UInt8.toNat = some (sources.idxOf interface.header.string))
            (device.interfaces.map store.get) blocks)
      ∧ (config.staticStrings.map Prod.fst ++ config.externalStrings.map Prod.fst).Perm
        ((List.range sources.length).map Int.ofNat)
      ∧ (∀ i : Int, config.stringAt i = .error (.missing i) ↔ ¬(0 ≤ i ∧ i < sources.length))
      ∧ (∀ (i : Nat) (source : StringSource), sources[i]? = some source →
        ∃ answer, config.stringAt i = .ok answer ∧ source.AnsweredBy answer)
      ∧ sources[0]? = some .unset := by
  intro sources
  obtain ⟨strings, _, hstrings, hdevice, hconfiguration, hanswers, _⟩ := Description.compile_eq_ok_iff.mp hcompile
  obtain ⟨_, rfl⟩ := Description.strings_eq_ok_iff.mp hstrings
  have hknown : ∀ source ∈ (device.describe store).stringSources, source ∈ (⟨sources⟩ : StringPool).sources :=
    fun _ => Description.mem_distinctSources
  obtain ⟨hmanufacturer, hproduct, hserial⟩ := Description.index_deviceDescriptor hknown hdevice
  obtain ⟨hfits, hwritable, _, _, hbytes⟩ := (Description.configurationDescriptor_eq_ok_iff hknown).mp hconfiguration
  obtain ⟨answers, hall, htable⟩ := Description.compiledStrings_eq_ok_iff.mp hanswers
  have hlength : sources.length = answers.length := hall.length_eq
  refine ⟨hmanufacturer, hproduct, hserial, ?_, ?_, ?_, fun i => ?_, fun i source hsource => ?_,
    Description.getElem?_distinctSources_zero _⟩
  · rw [hbytes]
    exact congrArg some (Field.toNat_of_fits (hfits _ (ConfigurationHeader.string_mem_counted _ _ 0 0)))
  · refine ⟨(device.describe store).head ⟨sources⟩, (device.describe store).blocks ⟨sources⟩,
      hbytes ▸ Description.split?_records hwritable, ?_⟩
    show List.Forall₂ _ (device.describe store).interfaces _
    rw [Description.blocks, List.forall₂_map_right_iff, List.forall₂_same]
    intro interface hinterface
    have hinterfaceWritable := hwritable interface hinterface
    have hstring : interface.header.string ∈ (⟨sources⟩ : StringPool).sources :=
      hknown _ (List.mem_append_right _ (List.mem_map_of_mem hinterface))
    refine ⟨hinterfaceWritable.describes (StringPool.index?_of_mem hstring), ?_⟩
    exact congrArg some (Field.toNat_of_fits (hinterfaceWritable.header _ (InterfaceHeader.string_mem_counted _ _ 0)))
  · have hkeys : config.strings.map Prod.fst = (List.range sources.length).map Int.ofNat := by
      rw [htable, hlength, List.map_map, List.range_eq_range', ← List.zipIdx_map_snd 0 answers, List.map_map]
      rfl
    exact hkeys ▸ config.perm_keys
  · rw [hlength]
    exact CompiledDevice.stringAt_eq_missing_iff htable
  · obtain ⟨hi, rfl⟩ := List.getElem?_eq_some_iff.mp hsource
    have hanswer := hall.get hi (hlength ▸ hi)
    exact ⟨answers[i], CompiledDevice.stringAt_of_getElem? htable (List.getElem?_eq_getElem (hlength ▸ hi)),
      Description.answeredBy_of_compileString hanswer⟩

/-- A serial number that repeats the manufacturer, an interface with the text of the product, and one that is marked. -/
theorem Device.compile_resolves_strings_shared :
    let endpoint : Endpoint.Descriptor := ⟨⟨1, .toHost, by decide⟩, 2, 64, 0⟩
    let device : Device :=
      { header := { manufacturerString := .literal "Hi", productString := .external 7, serialNumberString := .literal "Hi" }
        interfaces := [⟨0⟩, ⟨1⟩] }
    let store : Interface.Store :=
      ⟨[{ header := { string := .external 7 }, endpoints := [endpoint] },
        { header := { number := 1, string := .marked (.number 1) }, endpoints := [endpoint] }]⟩
    ∃ config, device.compile store = .ok config
      ∧ config.deviceDescriptor[14]?.map UInt8.toNat = some 1
      ∧ config.deviceDescriptor[15]?.map UInt8.toNat = some 2
      ∧ config.deviceDescriptor[16]?.map UInt8.toNat = some 1
      ∧ config.configurationDescriptor[6]?.map UInt8.toNat = some 0
      ∧ (∃ answer, config.stringAt 1 = .ok answer ∧ (StringSource.literal "Hi").AnsweredBy answer)
      ∧ (∃ answer, config.stringAt 2 = .ok answer ∧ (StringSource.external 7).AnsweredBy answer)
      ∧ (∃ answer, config.stringAt 3 = .ok answer ∧ (StringSource.marked (.number 1)).AnsweredBy answer)
      ∧ config.stringAt 4 = .error (.missing 4) := by
  intro endpoint device store
  let config : CompiledDevice :=
    { deviceDescriptor := [18, 1, 0, 2, 0, 0, 0, 8, 0, 0, 0, 0, 0, 0, 1, 2, 1, 1]
      configurationDescriptor := [9, 2, 41, 0, 2, 1, 0, 128, 50, 9, 4, 0, 0, 1, 0, 0, 0, 2, 7, 5, 129, 2, 64, 0, 0,
        9, 4, 1, 0, 1, 0, 0, 0, 3, 7, 5, 129, 2, 64, 0, 0]
      strings := [(0, .descriptor [4, 3, 9, 4]), (1, .descriptor [6, 3, 72, 0, 105, 0]), (2, .external 7),
        (3, .descriptor [4, 3, 9, 4])]
      endpoints := [.control .toDevice 8, .control .toHost 8, endpoint, endpoint] }
  have hcompile : device.compile store = .ok config := by cbv
  have hsources : (device.describe store).distinctSources
      = [.unset, .literal "Hi", .external 7, .marked (.number 1)] := by cbv
  obtain ⟨hmanufacturer, hproduct, hserial, hconfiguration, _, _, hmissing, hanswers, _⟩ :=
    Device.compile_resolves_strings hcompile
  rw [hsources] at hmanufacturer hproduct hserial hconfiguration hmissing hanswers
  exact ⟨config, hcompile, hmanufacturer, hproduct, hserial, hconfiguration, hanswers 1 _ rfl, hanswers 2 _ rfl,
    hanswers 3 _ rfl, (hmissing 4).mpr (by decide)⟩

end UsbCompiler
