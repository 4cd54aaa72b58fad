import UsbCompiler.Proofs.Descriptor.Consistent
import UsbCompiler.Proofs.Strings
import UsbCompiler.Proofs.Workshop.Checked

/-!
# `UsbCompiler.Proofs.Workshop.Compilable` — exactly when a device compiles

A device that was described by settings can only fail to compile for what settings do not check: numbers of endpoints,
the sizes of other descriptors, texts that are too long or hold a surrogate, and how many there are of each. Each of
these is one condition, and no other failure can come up.

## Contents
- `Description.Compilable`: the conditions.
- `Description.check_eq_ok_iff`, `length_distinctSources_le_iff`, `exists_compiledStrings_iff`: the parts that need no
  settings.
- `Interface.Checked.writable_iff`, `Workshop.Checked.exists_deviceDescriptor`, `exists_beginConfiguration`: what
  remains of the other parts when settings have done their checks.
- `Workshop.Checked.compilable_iff`: the parts together.
- `Workshop.Reachable.exists_compile_iff`: a device compiles exactly if its description is compilable.
-/

namespace UsbCompiler

/-! ## Conditions -/

/-- **Descriptions that can be compiled.** The counts and lengths have to fit into their fields together with what the
    writer adds: two bytes in front of each payload, and one index for the unset string. A text has to have code units
    in the first place, so none can hold a surrogate. -/
structure Description.Compilable (description : Description) : Prop where
  interfaces : 1 ≤ description.interfaces.length ∧ description.interfaces.length ≤ 255
  endpoints : ∀ interface ∈ description.interfaces, 1 ≤ interface.endpoints.length ∧ interface.endpoints.length ≤ 255
  extras : ∀ interface ∈ description.interfaces, ∀ extra ∈ interface.extras, extra.data.length ≤ 253
  numbers : ∀ interface ∈ description.interfaces, ∀ endpoint ∈ interface.endpoints,
    (0 ≤ endpoint.attributes ∧ endpoint.attributes ≤ 255) ∧ (0 ≤ endpoint.interval ∧ endpoint.interval ≤ 255)
      ∧ (0 ≤ endpoint.maxPacketSize ∧ endpoint.maxPacketSize ≤ 65535)
  sources : (description.stringSources.filter (· ≠ .unset)).eraseDups.length ≤ 255
  texts : ∀ text, .literal text ∈ description.stringSources →
    ∃ units, Utf16.encode? text = some units ∧ units.length ≤ 126
  size : 9 + (description.interfaces.map fun interface => 9 + (interface.extras.map (2 + ·.data.length)).sum
    + 7 * interface.endpoints.length).sum ≤ 65535

/-! ## Parts -/

namespace Description

variable {description : Description}

theorem check_eq_ok_iff :
    description.check = .ok ()
      ↔ description.interfaces ≠ [] ∧ ∀ interface ∈ description.interfaces, interface.endpoints ≠ [] := by
  unfold check
  by_cases hempty : description.interfaces = []
  · rw [if_pos (List.isEmpty_iff.mpr hempty)]
    exact ⟨nofun, fun h => absurd hempty h.1⟩
  · rw [if_neg fun h => hempty (List.isEmpty_iff.mp h)]
    cases hfind : description.interfaces.find? (·.endpoints.isEmpty) with
    | some interface =>
      refine ⟨nofun, fun h => ?_⟩
      have hnone := List.find?_some hfind
      exact absurd (List.isEmpty_iff.mp hnone) (h.2 interface (List.mem_of_find?_eq_some hfind))
    | none =>
      refine ⟨fun _ => ⟨hempty, fun interface hinterface hnil => ?_⟩, fun _ => rfl⟩
      exact absurd (List.isEmpty_iff.mpr hnil) (List.find?_eq_none.mp hfind interface hinterface)

/-- The unset source has an index whether it is used or not. -/
theorem length_distinctSources (description : Description) :
    description.distinctSources.length = (description.stringSources.filter (· ≠ .unset)).eraseDups.length + 1 := by
  have hfilter : description.stringSources.filter (fun source => !(source == .unset))
      = description.stringSources.filter (· ≠ .unset) := by
    apply List.filter_congr
    intro source _
    by_cases hsource : source = .unset
    · simp [hsource]
    · simp [hsource, beq_eq_false_iff_ne.mpr hsource]
  rw [distinctSources, List.eraseDups_cons, List.length_cons, hfilter]

/-- So 255 others fill all indexes. -/
theorem length_distinctSources_le_iff :
    description.distinctSources.length ≤ 256
      ↔ (description.stringSources.filter (· ≠ .unset)).eraseDups.length ≤ 255 := by
  rw [length_distinctSources]
  exact Nat.succ_le_succ_iff

/-- All sources are answered exactly if each text has code units and not too many of them. -/
theorem exists_compiledStrings_iff :
    (∃ table, compiledStrings ⟨description.distinctSources⟩ = .ok table)
      ↔ ∀ text, .literal text ∈ description.stringSources →
        ∃ units, Utf16.encode? text = some units ∧ units.length ≤ 126 := by
  simp only [compiledStrings_eq_ok_iff]
  constructor
  · rintro ⟨_, answers, hanswers, _⟩ text htext
    obtain ⟨_, _, hanswer⟩ := exists_of_forall₂ hanswers (mem_distinctSources htext)
    obtain ⟨units, hunits, hshort, _⟩ := compileString_eq_ok_iff.mp hanswer
    exact ⟨units, hunits, hshort⟩
  · intro h
    have hall : ∀ source ∈ description.distinctSources, ∃ answer, compileString source = .ok answer := by
      intro source hsource
      cases source with
      | unset => exact ⟨_, compileString_eq_ok_iff.mpr rfl⟩
      | marked mark => exact ⟨_, compileString_eq_ok_iff.mpr rfl⟩
      | external identifier => exact ⟨_, compileString_eq_ok_iff.mpr rfl⟩
      | literal text =>
        have htext : StringSource.literal text ∈ description.stringSources := by
          rcases List.mem_cons.mp (List.mem_eraseDups.mp hsource) with hunset | htext
          · cases hunset
          · exact htext
        obtain ⟨units, hunits, hshort⟩ := h text htext
        exact ⟨_, compileString_eq_ok_iff.mpr ⟨units, hunits, hshort, rfl⟩⟩
    obtain ⟨answers, hanswers⟩ := exists_forall₂ hall
    exact ⟨_, answers, hanswers, rfl⟩

/-- Every index is a byte. -/
theorem idxOf_lt (h : description.distinctSources.length ≤ 256) {source : StringSource}
    (hsource : source ∈ description.stringSources) : description.distinctSources.idxOf source < 256 :=
  Nat.lt_of_lt_of_le (List.idxOf_lt_length_iff.mpr (mem_distinctSources hsource)) h

end Description

/-- Of an interface in a place that is a byte, only what settings do not check can be too large. -/
theorem Interface.Checked.writable_iff {interface : Interface} (h : interface.Checked)
    (hnumber : 0 ≤ interface.number ∧ interface.number < 0x100) {string : Nat} (hstring : string < 256) :
    interface.Writable string
      ↔ (∀ extra ∈ interface.extras, extra.data.length ≤ 253)
        ∧ (∀ descriptor ∈ interface.endpoints, ∀ field ∈ descriptor.fields, field.Fits)
        ∧ interface.endpoints.length ≤ 255 := by
  constructor
  · intro hwritable
    exact ⟨fun extra hextra => (hwritable.extras extra hextra).1, hwritable.endpoints, hwritable.length⟩
  · rintro ⟨hextras, hendpoints, hlength⟩
    refine ⟨?_, fun extra hextra => ⟨hextras extra hextra, h.extras extra hextra⟩, hendpoints, hlength⟩
    simp only [InterfaceHeader.counted, List.forall_mem_cons, Field.fits_byte_iff]
    exact ⟨hnumber, h.alternateSetting, by decide, h.classCode, h.subClass, h.protocol, by omega, List.forall_mem_nil _⟩

namespace Workshop

variable {workshop : Workshop} {strings : StringPool}

/-- The fields of the device always fit. -/
theorem Checked.fits_device (h : workshop.Checked) {manufacturer product serialNumber : Nat}
    (hmanufacturer : manufacturer < 256) (hproduct : product < 256) (hserial : serialNumber < 256) :
    ∀ field ∈ workshop.device.header.indexed 1 manufacturer product serialNumber, field.Fits := by
  have hsize : 0 ≤ workshop.device.header.controlPacketSize ∧ workshop.device.header.controlPacketSize < 0x100 := by
    have hsize := h.device.controlPacketSize
    simp only [Layout.controlSizes, List.mem_cons, List.not_mem_nil, or_false] at hsize
    omega
  simp only [DeviceHeader.indexed, List.forall_mem_cons, Field.fits_byte_iff, Field.fits_word_iff]
  exact ⟨by decide, h.device.classCode, h.device.subClass, h.device.protocol, hsize, h.device.vendor, h.device.product,
    h.device.release, by omega, by omega, by omega, by decide, List.forall_mem_nil _⟩

/-- The fields of the configuration always fit. -/
theorem Checked.fits_configuration (h : workshop.Checked) {string : Nat} (hstring : string < 256) :
    ∀ field ∈ workshop.device.configuration.counted string 0 0, field.Fits := by
  have hattributes : 0 ≤ workshop.device.attributes ∧ workshop.device.attributes < 0x100 := by
    unfold Device.attributes
    split <;> split <;> decide
  have hpower := h.device.maxPower
  simp only [ConfigurationHeader.counted, List.forall_mem_cons, Field.fits_byte_iff, Field.fits_word_iff]
  refine ⟨by decide, by decide, ?_, by omega, hattributes, ?_, List.forall_mem_nil _⟩
  · show (0 : Int) ≤ 1 ∧ (1 : Int) < 0x100
    decide
  · show 0 ≤ workshop.device.maxPower ∧ workshop.device.maxPower < 0x100
    omega

/-- **The device descriptor** can always be written. -/
theorem Checked.exists_deviceDescriptor (h : workshop.Checked)
    (hstrings : (workshop.device.describe workshop.store).strings = .ok strings) :
    ∃ bytes, (workshop.device.describe workshop.store).deviceDescriptor strings = .ok bytes := by
  obtain ⟨hlength, rfl⟩ := Description.strings_eq_ok_iff.mp hstrings
  have hindex {source : StringSource} (hsource : source ∈ (workshop.device.describe workshop.store).stringSources) :=
    (⟨StringPool.index?_of_mem (Description.mem_distinctSources hsource), Description.idxOf_lt hlength hsource⟩ :
      StringPool.index? ⟨(workshop.device.describe workshop.store).distinctSources⟩ source
        = some ((workshop.device.describe workshop.store).distinctSources.idxOf source)
        ∧ (workshop.device.describe workshop.store).distinctSources.idxOf source < 256)
  obtain ⟨hmanufacturer, hmanufacturerLt⟩ := @hindex workshop.device.header.manufacturerString
    (by simp [Description.stringSources, Device.describe])
  obtain ⟨hproduct, hproductLt⟩ := @hindex workshop.device.header.productString
    (by simp [Description.stringSources, Device.describe])
  obtain ⟨hserial, hserialLt⟩ := @hindex workshop.device.header.serialNumberString
    (by simp [Description.stringSources, Device.describe])
  exact ⟨_, Description.deviceDescriptor_eq_ok_iff.mpr ⟨_, _, _, hmanufacturer, hproduct, hserial,
    h.fits_device hmanufacturerLt hproductLt hserialLt, rfl⟩⟩

/-- **The configuration** can always be begun. -/
theorem Checked.exists_beginConfiguration (h : workshop.Checked)
    (hstrings : (workshop.device.describe workshop.store).strings = .ok strings) :
    ∃ stream, (Stream.empty.beginConfiguration workshop.device.configuration strings).commit = .ok stream := by
  obtain ⟨hlength, rfl⟩ := Description.strings_eq_ok_iff.mp hstrings
  have hsource : workshop.device.configurationString ∈ (workshop.device.describe workshop.store).stringSources := by
    simp [Description.stringSources, Device.describe, Device.configuration]
  refine ⟨_, (@Stream.beginConfiguration_ofPieces_eq_ok_iff _ [] 0 _ _).mpr
    ⟨_, StringPool.index?_of_mem (Description.mem_distinctSources hsource),
      h.fits_configuration (Description.idxOf_lt hlength hsource), ?_, rfl⟩⟩
  exact ⟨fun _ => by decide, fun _ hless => absurd hless (by simp [Piece.rank])⟩

/-- An interface of the device is checked and has its place as number. -/
theorem Checked.interface (h : workshop.Checked) {interface : Interface}
    (hinterface : interface ∈ (workshop.device.describe workshop.store).interfaces) :
    interface.Checked ∧ 0 ≤ interface.number
      ∧ interface.number < (workshop.device.describe workshop.store).interfaces.length := by
  obtain ⟨handle, hhandle, rfl⟩ := List.mem_map.mp hinterface
  obtain ⟨i, hi, rfl⟩ := List.getElem_of_mem hhandle
  have hnumber := (h.numbered i _ (List.getElem?_eq_getElem hi)).2
  have hlength : (workshop.device.describe workshop.store).interfaces.length = workshop.device.interfaces.length :=
    List.length_map _
  exact ⟨Interface.Store.checked_get h.interfaces _, by omega, by omega⟩

/-- The conditions are enough and needed for a checked workshop. -/
theorem Checked.compilable_iff (h : workshop.Checked) :
    (∃ config, workshop.device.compile workshop.store = .ok config)
      ↔ (workshop.device.describe workshop.store).Compilable := by
  let description := workshop.device.describe workshop.store
  have hknown : ∀ source ∈ description.stringSources, source ∈ (⟨description.distinctSources⟩ : StringPool).sources :=
    fun _ => Description.mem_distinctSources
  have hwritable (hlength : description.interfaces.length ≤ 255) (hindexes : description.distinctSources.length ≤ 256)
      {interface : Interface} (hinterface : interface ∈ description.interfaces) :=
    have hplace : 0 ≤ interface.number ∧ interface.number < description.interfaces.length :=
      (h.interface hinterface).2
    (h.interface hinterface).1.writable_iff (by omega)
      (Description.idxOf_lt hindexes (List.mem_append_right _ (List.mem_map_of_mem hinterface)))
  constructor
  · rintro ⟨config, hcompile⟩
    obtain ⟨strings, hcheck, hstrings, _, hconfiguration, hanswers, _⟩ := Description.compile_eq_ok_iff.mp hcompile
    obtain ⟨hindexes, rfl⟩ := Description.strings_eq_ok_iff.mp hstrings
    obtain ⟨hinterfaces, hendpoints⟩ := Description.check_eq_ok_iff.mp hcheck
    obtain ⟨_, hall, hlength, hsize, _⟩ := (Description.configurationDescriptor_eq_ok_iff hknown).mp hconfiguration
    have hparts (interface : Interface) (hinterface : interface ∈ description.interfaces) :=
      (hwritable hlength hindexes hinterface).mp (hall interface hinterface)
    exact {
      interfaces := ⟨List.length_pos_iff.mpr hinterfaces, hlength⟩
      endpoints := fun interface hinterface =>
        ⟨List.length_pos_iff.mpr (hendpoints interface hinterface), (hparts interface hinterface).2.2⟩
      extras := fun interface hinterface => (hparts interface hinterface).1
      numbers := fun interface hinterface endpoint hendpoint =>
        Endpoint.Descriptor.fits_iff.mp ((hparts interface hinterface).2.1 endpoint hendpoint)
      sources := Description.length_distinctSources_le_iff.mp hindexes
      texts := Description.exists_compiledStrings_iff.mp ⟨_, hanswers⟩
      size := Nat.le_of_lt_succ hsize }
  · intro hcompilable
    have hindexes : description.distinctSources.length ≤ 256 :=
      Description.length_distinctSources_le_iff.mpr hcompilable.sources
    have hstrings : description.strings = .ok ⟨description.distinctSources⟩ :=
      Description.strings_eq_ok_iff.mpr ⟨hindexes, rfl⟩
    have hcheck : description.check = .ok () := Description.check_eq_ok_iff.mpr
      ⟨List.length_pos_iff.mp hcompilable.interfaces.1,
        fun interface hinterface => List.length_pos_iff.mp (hcompilable.endpoints interface hinterface).1⟩
    have hall (interface : Interface) (hinterface : interface ∈ description.interfaces) :=
      (hwritable hcompilable.interfaces.2 hindexes hinterface).mpr
        ⟨hcompilable.extras interface hinterface,
          fun endpoint hendpoint =>
            Endpoint.Descriptor.fits_iff.mpr (hcompilable.numbers interface hinterface endpoint hendpoint),
          (hcompilable.endpoints interface hinterface).2⟩
    have hsource : workshop.device.configurationString ∈ description.stringSources := by
      simp [description, Description.stringSources, Device.describe, Device.configuration]
    obtain ⟨device, hdevice⟩ := h.exists_deviceDescriptor hstrings
    have hconfiguration := (Description.configurationDescriptor_eq_ok_iff hknown).mpr
      ⟨h.fits_configuration (Description.idxOf_lt hindexes hsource), hall, hcompilable.interfaces.2,
        Nat.lt_succ_of_le hcompilable.size, rfl⟩
    obtain ⟨table, htable⟩ := Description.exists_compiledStrings_iff.mpr hcompilable.texts
    exact ⟨⟨device, _, table, description.allEndpoints⟩,
      Description.compile_eq_ok_iff.mpr ⟨_, hcheck, hstrings, hdevice, hconfiguration, htable, rfl⟩⟩

/-- **When a device can be compiled.** Of a device that was described by settings, the description decides alone, and
    a refusal is never the fault of the writer, of the device descriptor or of the header of the configuration. -/
theorem Reachable.exists_compile_iff (h : Reachable workshop) :
    ((∃ config, workshop.device.compile workshop.store = .ok config)
        ↔ (workshop.device.describe workshop.store).Compilable)
      ∧ (∀ e, workshop.device.compile workshop.store = .error e → e.kind ≠ .inconsistent)
      ∧ ∀ strings, (workshop.device.describe workshop.store).strings = .ok strings →
        (∃ bytes, (workshop.device.describe workshop.store).deviceDescriptor strings = .ok bytes)
          ∧ ∃ stream, (Stream.empty.beginConfiguration workshop.device.configuration strings).commit = .ok stream :=
  ⟨h.checked.compilable_iff, fun _ => Description.kind_of_compile,
    fun _ hstrings => ⟨h.checked.exists_deviceDescriptor hstrings, h.checked.exists_beginConfiguration hstrings⟩⟩

/-- An interface that gets its text when it has been adopted, and then an endpoint whose interval is too long, or a
    device whose manufacturer is a lone surrogate. -/
theorem exists_compile_iff_late :
    let device : Device := { header := { vendor := 0x1234, product := 0x5678, release := 0x0010 }, interfaces := [⟨1⟩] }
    let endpoint : Endpoint.Descriptor := ⟨⟨1, .toHost, by decide⟩, 2, 64, 0⟩
    let slow : Endpoint.Descriptor := ⟨⟨2, .toHost, by decide⟩, 3, 8, 256⟩
    let saved : Workshop :=
      ⟨device, ⟨[.new 0, { header := { number := 0, string := .literal "Hi" }, endpoints := [endpoint] }]⟩⟩
    let changed : Workshop :=
      ⟨device, ⟨[.new 0, { header := { number := 0, string := .literal "Hi" }, endpoints := [endpoint, slow] }]⟩⟩
    let alone : Text := ⟨[.surrogate 0]⟩
    let named : Workshop :=
      ⟨{ device with header := { device.header with manufacturerString := .literal alone } }, saved.store⟩
    Reachable saved ∧ Reachable changed ∧ Reachable named ∧ (∃ config, saved.device.compile saved.store = .ok config)
      ∧ (∃ e, changed.device.compile changed.store = .error e ∧ e.kind ≠ .inconsistent)
      ∧ ∃ e, named.device.compile named.store = .error e ∧ e.kind ≠ .inconsistent := by
  intro device endpoint slow saved changed alone named
  have hstart : Reachable ⟨{ device with interfaces := [] }, .empty⟩ := .start (by rfl : Device.new 0x1234 0x5678 = _)
  have hinterface : Reachable ⟨{ device with interfaces := [⟨0⟩] }, ⟨[.new 0, .new 0]⟩⟩ :=
    hstart.step (.newInterface rfl)
  have hendpoint : Reachable
      ⟨{ device with interfaces := [⟨0⟩] }, ⟨[.new 0, { header := { number := 0 }, endpoints := [endpoint] }]⟩⟩ :=
    hinterface.step (@Step.addEndpoint _ ⟨1⟩ (.descriptor endpoint) _ (show 1 < 2 by decide) rfl)
  have hsave : Reachable ⟨device, ⟨[.new 0, { header := { number := 0 }, endpoints := [endpoint] }]⟩⟩ :=
    hendpoint.step (@Step.save _ ⟨1⟩ _ (show 1 < 2 by decide) rfl)
  have hsaved : Reachable saved :=
    hsave.step (@Step.setInterface _ ⟨1⟩ (.string (.literal "Hi")) _ (show 1 < 2 by decide) rfl)
  have hchanged : Reachable changed :=
    hsaved.step (@Step.addEndpoint _ ⟨1⟩ (.descriptor slow) _ (show 1 < 2 by decide) rfl)
  have hnamed : Reachable named := hsaved.step (@Step.setDevice _ (.manufacturer (.literal alone)) _ rfl)
  have hrefused {workshop : Workshop} (h : Reachable workshop)
      (hnot : ¬(workshop.device.describe workshop.store).Compilable) :
      ∃ e, workshop.device.compile workshop.store = .error e ∧ e.kind ≠ .inconsistent := by
    obtain ⟨hcompilable, hkind, _⟩ := h.exists_compile_iff
    cases hcompile : workshop.device.compile workshop.store with
    | ok config => exact absurd (hcompilable.mp ⟨config, hcompile⟩) hnot
    | error e => exact ⟨e, rfl, hkind e hcompile⟩
  refine ⟨hsaved, hchanged, hnamed, hsaved.exists_compile_iff.1.mpr ?_, ?_, ?_⟩
  · refine ⟨by decide, by decide, by decide, by decide, by decide +kernel, ?_, by decide⟩
    intro text hliteral
    have hsources : (saved.device.describe saved.store).stringSources
        = [.unset, .unset, .unset, .unset, .literal "Hi"] := rfl
    obtain rfl : text = "Hi" := by simpa [hsources] using hliteral
    exact ⟨Utf16.encode "Hi".toList, Utf16.encode?_ofCharacters _, by decide +kernel⟩
  · refine hrefused hchanged fun hcompilable => ?_
    have hslow := hcompilable.numbers _ (List.mem_singleton_self _) slow (by decide)
    exact absurd hslow (by decide)
  · refine hrefused hnamed fun hcompilable => ?_
    obtain ⟨_, hunits, _⟩ := hcompilable.texts alone List.mem_cons_self
    cases hunits

end Workshop

end UsbCompiler
