import UsbCompiler.Proofs.Session.Numbered
import UsbCompiler.Proofs.Strings

/-!
# `UsbCompiler.Proofs.Descriptor.Blocks` — the interfaces in a configuration descriptor

What the host reads of a compiled device is one block of records for each of its interfaces. The first record of a block
is the interface itself, with its number and its alternate setting in fixed places.

## Contents
- `Device.ReadsAs` and `Device.exists_readsAs`: a compiled device, block by block.
- `InterfaceRecords.number?` and `InterfaceRecords.alternateSetting?`, as `Describes.number?_eq` and
  `Describes.alternateSetting?_eq` find them.
- `InterfaceRecords.Describes.extras_eq` and `Description.index?_unset`: other descriptors, and interfaces without text.
- `Device.ReadsAs.numbers` and `Device.compile_unfinished`: the numbers in a compiled device, and a device that does not
  compile.
-/

namespace UsbCompiler

/-! ## Compiled devices -/

/-- **What the host reads.** The configuration descriptor falls apart into the record of the configuration and a block
    of records for each interface of the device, which tells of its contents. -/
def Device.ReadsAs (device : Device) (store : Interface.Store) (config : CompiledDevice) (head : Record)
    (blocks : List InterfaceRecords) : Prop :=
  Record.split? config.configurationDescriptor = some (head :: blocks.flatMap InterfaceRecords.all)
    ∧ List.Forall₂ (fun interface records => records.Describes interface ⟨(device.describe store).distinctSources⟩)
      (device.interfaces.map store.get) blocks

/-- Whatever device compiles can be read. -/
theorem Device.exists_readsAs {device : Device} {store : Interface.Store} {config : CompiledDevice}
    (hcompile : device.compile store = .ok config) : ∃ head blocks, device.ReadsAs store config head blocks := by
  let strings : StringPool := ⟨(device.describe store).distinctSources⟩
  obtain ⟨_, _, hstrings, _, hconfiguration, _, _⟩ := Description.compile_eq_ok_iff.mp hcompile
  obtain ⟨_, rfl⟩ := Description.strings_eq_ok_iff.mp hstrings
  have hknown : ∀ source ∈ (device.describe store).stringSources, source ∈ strings.sources :=
    fun _ => Description.mem_distinctSources
  obtain ⟨_, hwritable, _, _, hbytes⟩ := (Description.configurationDescriptor_eq_ok_iff hknown).mp hconfiguration
  refine ⟨(device.describe store).head strings, (device.describe store).blocks strings,
    hbytes ▸ Description.split?_records hwritable, ?_⟩
  show List.Forall₂ _ (device.describe store).interfaces _
  rw [Description.blocks, List.forall₂_map_right_iff, List.forall₂_same]
  intro interface hinterface
  have hstring : interface.header.string ∈ strings.sources :=
    hknown _ (List.mem_append_right _ (List.mem_map_of_mem hinterface))
  exact (hwritable interface hinterface).describes (StringPool.index?_of_mem hstring)

/-! ## Single fields -/

/-- A payload that starts with a byte. -/
theorem exists_of_unpack?_byte {widths : List Width} {bytes : Bytes} {value : Int} {values : List Int}
    (h : (unpack? (.byte :: widths) bytes).map (List.map Int.ofNat) = some (value :: values)) :
    ∃ byte rest, bytes = byte :: rest ∧ (byte.toNat : Int) = value
      ∧ (unpack? widths rest).map (List.map Int.ofNat) = some values := by
  cases bytes with
  | nil => simp [unpack?] at h
  | cons byte rest =>
    rw [unpack?, Option.map_map] at h
    obtain ⟨numbers, hnumbers, hmap⟩ := Option.map_eq_some_iff.mp h
    obtain ⟨hvalue, hvalues⟩ := List.cons.inj hmap
    exact ⟨byte, rest, rfl, hvalue, Option.map_eq_some_iff.mpr ⟨numbers, hnumbers, hvalues⟩⟩

namespace InterfaceRecords

variable {records : InterfaceRecords} {interface : Interface} {strings : StringPool}

/-- The number in the descriptor of an interface. -/
def number? (records : InterfaceRecords) : Option Int := records.header.bytes[2]?.map fun byte => (byte.toNat : Int)

/-- The alternate setting in the descriptor of an interface. -/
def alternateSetting? (records : InterfaceRecords) : Option Int :=
  records.header.bytes[3]?.map fun byte => (byte.toNat : Int)

/-- The record of an interface begins with its number and its alternate setting. -/
theorem Describes.exists_payload (h : records.Describes interface strings) :
    records.header.type = 4 ∧ ∃ number alternateSetting rest,
      records.header.payload = number :: alternateSetting :: rest
        ∧ (number.toNat : Int) = interface.number
        ∧ (alternateSetting.toNat : Int) = interface.header.alternateSetting := by
  obtain ⟨_, _, htype, hpayload⟩ := h.header
  have hcode : (records.header.type.toNat : Int) = 4 := htype
  refine ⟨UInt8.toNat_inj.mp (Int.ofNat_inj.mp hcode), ?_⟩
  obtain ⟨number, rest, hrest, hnumber, hpayload⟩ := exists_of_unpack?_byte hpayload
  obtain ⟨alternateSetting, last, rfl, halternate, _⟩ := exists_of_unpack?_byte hpayload
  exact ⟨number, alternateSetting, last, hrest, hnumber, halternate⟩

theorem Describes.number?_eq (h : records.Describes interface strings) : records.number? = some interface.number := by
  obtain ⟨_, number, alternateSetting, rest, hpayload, hnumber, _⟩ := h.exists_payload
  rw [InterfaceRecords.number?, Record.bytes, hpayload, ← hnumber]
  rfl

theorem Describes.alternateSetting?_eq (h : records.Describes interface strings) :
    records.alternateSetting? = some interface.header.alternateSetting := by
  obtain ⟨_, number, alternateSetting, rest, hpayload, _, halternate⟩ := h.exists_payload
  rw [InterfaceRecords.alternateSetting?, Record.bytes, hpayload, ← halternate]
  rfl

/-- Other descriptors are written as they are. -/
theorem Describes.extras_eq (h : records.Describes interface strings) :
    records.extras = interface.extras.map ExtraDescriptor.record := by
  refine (List.map_id _).symm.trans (map_eq_of_forall₂ h.extras.flip ?_)
  rintro ⟨type, payload⟩ extra ⟨htype, hpayload⟩
  rw [ExtraDescriptor.record, ← htype, ← hpayload, Int.toNat_natCast, UInt8.ofNat_toNat]
  rfl

end InterfaceRecords

/-- Index 0 stands for no text. -/
theorem Description.index?_unset (description : Description) :
    StringPool.index? ⟨description.distinctSources⟩ .unset = some 0 := by
  let strings : StringPool := ⟨description.distinctSources⟩
  have hmem : .unset ∈ strings.sources := List.mem_eraseDups.mpr List.mem_cons_self
  have hfirst : strings.sources.idxOf .unset = 0 := by
    show description.distinctSources.idxOf .unset = 0
    rw [distinctSources, List.eraseDups_cons, List.idxOf_cons_self]
  rw [StringPool.index?_of_mem hmem, hfirst]

/-! ## Numbers and endpoints -/

/-- The interfaces of a compiled device are numbered from 0, if each stands in the place of its number. -/
theorem Device.ReadsAs.numbers {device : Device} {store : Interface.Store} {config : CompiledDevice} {head : Record}
    {blocks : List InterfaceRecords} (hreads : device.ReadsAs store config head blocks)
    (hnumbered : store.Numbered device.interfaces) :
    (∀ records ∈ blocks, records.header.type = 4)
      ∧ blocks.map InterfaceRecords.number?
        = (List.range device.interfaces.length).map fun (k : Nat) => some (k : Int) := by
  obtain ⟨_, hblocks⟩ := hreads
  constructor
  · intro records hrecords
    obtain ⟨interface, _, hdescribes⟩ := exists_of_forall₂ hblocks.flip hrecords
    exact hdescribes.exists_payload.1
  · have hnumbers : (device.interfaces.map store.get).map (fun interface => some interface.number)
        = blocks.map InterfaceRecords.number? :=
      map_eq_of_forall₂ hblocks fun _ _ hdescribes => hdescribes.number?_eq.symm
    rw [← hnumbers, List.map_map]
    refine List.ext_getElem (by rw [List.length_map, List.length_map, List.length_range]) fun k hk _ => ?_
    rw [List.length_map] at hk
    rw [List.getElem_map, List.getElem_map, List.getElem_range]
    exact congrArg some (hnumbered k _ (List.getElem?_eq_getElem hk)).2

/-- A device does not compile while it refers to an interface that has no endpoints. -/
theorem Device.compile_unfinished {device : Device} {store : Interface.Store} {k : Nat} {handle : Interface.Handle}
    (hplace : device.interfaces[k]? = some handle) (hnone : (store.get handle).endpoints = []) :
    ∃ number, device.compile store = .error (.interfaceWithoutEndpoints number) := by
  have hmem : store.get handle ∈ (device.describe store).interfaces :=
    List.mem_map_of_mem (List.mem_of_getElem? hplace)
  have hcheck : ∃ number, (device.describe store).check = .error (.interfaceWithoutEndpoints number) := by
    unfold Description.check
    rw [if_neg fun hempty => List.ne_nil_of_mem hmem (List.isEmpty_iff.mp hempty)]
    cases hfind : (device.describe store).interfaces.find? (·.endpoints.isEmpty) with
    | some interface => exact ⟨interface.number, rfl⟩
    | none => exact absurd (List.isEmpty_iff.mpr hnone) (List.find?_eq_none.mp hfind _ hmem)
  obtain ⟨number, hcheck⟩ := hcheck
  refine ⟨number, ?_⟩
  unfold Device.compile Description.compile
  rw [hcheck]
  rfl

end UsbCompiler
