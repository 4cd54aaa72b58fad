import Mathlib
import UsbCompiler.Proofs.Descriptor.Standalone

/-!
# `UsbCompiler.Proofs.Descriptor.Configuration` — the configuration descriptor

A configuration descriptor is written in two nested loops, and while they run its counts are those of what has
been written so far. The invariants say just that: the stream is the record of the configuration with the
number of interfaces that have been begun, then the records of the finished interfaces, then the record of the
interface that is open with the number of endpoints so far, and what has been written behind it. Each step of a
loop takes one such state to the next, and the end state is what the host reads.

## Contents
- `Stream.Open`: between two interfaces.
- `Stream.Inside`: within an interface, with `writeExtra`, `writeEndpoint` and their loops.
- `Stream.Open.writeInterface` and `Stream.Open.writeInterfaces`: the outer loop.
- `Device.configurationDescriptor_records`: the finished descriptor, cut into records.
-/

namespace UsbCompiler

namespace Stream

variable {stream next : Stream} {header : ConfigurationHeader} {string count : Nat} {done inner : List Record}
  {strings : StringPool}

/-! ## States of the stream -/

/-- The bytes of a configuration that is open: its record, with the number of interfaces so far and a length of
    zero, and the records that follow. -/
def written (header : ConfigurationHeader) (string count : Nat) (body : List Record) : Bytes :=
  (StandardDescriptor.configuration.record (header.counted string 0 count)).bytes ++ body.flatMap Record.bytes

/-- **A configuration that is open**, with the records that have been written for it. -/
structure Open (stream : Stream) (header : ConfigurationHeader) (string count : Nat) (body : List Record) :
    Prop where
  configuration : stream.configuration = some 0
  bytes : stream.bytes = written header string count body
  count_le : count ≤ 255
  small : ∀ record ∈ body, record.size ≤ 255

/-- **An interface that is open.** Its record stands behind those of the interfaces before it, with the number of
    endpoints so far, and the stream knows the place of this number. -/
structure Inside (stream : Stream) (header : ConfigurationHeader) (string count : Nat) (done : List Record)
    (interface : InterfaceHeader) (index endpoints : Nat) (inner : List Record) : Prop where
  isOpen : stream.Open header string count
    (done ++ StandardDescriptor.interface.record (interface.counted index endpoints) :: inner)
  place : stream.endpointCount = some ((written header string count done).length + 4)
  endpoints_le : endpoints ≤ 255

theorem written_append (header : ConfigurationHeader) (string count : Nat) (body rest : List Record) :
    written header string count (body ++ rest) = written header string count body ++ rest.flatMap Record.bytes := by
  unfold written
  rw [List.flatMap_append, List.append_assoc]

/-! ## Single steps -/

/-- A record at the end of a configuration that is open. -/
theorem Open.append {body : List Record} {record : Record} (h : stream.Open header string count body)
    (hsmall : record.size ≤ 255) : (stream.append record.bytes).Open header string count (body ++ [record]) where
  configuration := h.configuration
  bytes := by
    rw [written_append, List.flatMap_singleton, ← h.bytes]
    rfl
  count_le := h.count_le
  small := forall_mem_concat h.small hsmall

theorem open_of_beginConfiguration (h : (Stream.empty.beginConfiguration header strings).commit = .ok stream) :
    ∃ string, strings.index? header.string = some string ∧ (∀ field ∈ header.counted string 0 0, field.Fits)
      ∧ stream.Open header string 0 [] := by
  obtain ⟨fields, hfields, hfits, _, rfl⟩ := commit_writeFields_eq_ok_iff.mp h
  obtain ⟨string, hstring, rfl⟩ := ConfigurationHeader.fields_eq_ok_iff.mp hfields
  refine ⟨string, hstring, hfits, rfl, ?_, by decide, fun _ hrecord => absurd hrecord List.not_mem_nil⟩
  exact (List.append_nil _).symm

/-- An interface is counted and begun. -/
theorem Open.beginInterface (h : stream.Open header string count done) {interface : InterfaceHeader}
    (hbegin : (stream.beginInterface interface strings).commit = .ok next) :
    ∃ index, strings.index? interface.string = some index ∧ (∀ field ∈ interface.counted index 0, field.Fits)
      ∧ next.Inside header string (count + 1) done interface index 0 [] := by
  obtain ⟨start, counted, index, hstart, hincrement, hindex, hfits, rfl⟩ := commit_beginInterface_eq_ok_iff.mp hbegin
  rw [h.configuration] at hstart
  cases hstart
  -- The interface is counted before its record is written.
  obtain ⟨hcount, rfl⟩ := increment_configuration h.count_le h.bytes hincrement
  have hsmall : (StandardDescriptor.interface.record (interface.counted index 0)).size ≤ 255 := by
    show 9 ≤ 255
    decide
  refine ⟨index, hindex, hfits, ?_, rfl, by decide⟩
  refine Open.append ?_ hsmall
  exact ⟨h.configuration, rfl, hcount, h.small⟩

namespace Inside

variable {interface : InterfaceHeader} {index endpoints : Nat}

/-- A record at the end of an interface that is open. -/
theorem append {record : Record}
    (h : stream.Inside header string count done interface index endpoints inner) (hsmall : record.size ≤ 255) :
    (stream.append record.bytes).Inside header string count done interface index endpoints (inner ++ [record]) := by
  have happended := h.isOpen.append hsmall
  rw [List.append_assoc] at happended
  exact ⟨happended, h.place, h.endpoints_le⟩

/-- The number of endpoints goes up, and no other byte changes. -/
theorem increment (h : stream.Inside header string count done interface index endpoints inner)
    (hincrement : stream.increment ((written header string count done).length + 4) = .ok next) :
    next.Inside header string count done interface index (endpoints + 1) inner := by
  have hsplit (n : Nat) : written header string count
        (done ++ StandardDescriptor.interface.record (interface.counted index n) :: inner)
      = written header string count done
        ++ ((StandardDescriptor.interface.record (interface.counted index n)).bytes
          ++ inner.flatMap Record.bytes) := by
    rw [written_append, List.flatMap_cons]
  obtain ⟨hendpoints, rfl⟩ :=
    increment_interface h.endpoints_le (h.isOpen.bytes.trans (hsplit endpoints)) hincrement
  refine ⟨⟨h.isOpen.configuration, (hsplit (endpoints + 1)).symm, h.isOpen.count_le, ?_⟩, h.place, hendpoints⟩
  -- The record keeps its size.
  obtain ⟨hdone, hrest⟩ := List.forall_mem_append.mp h.isOpen.small
  obtain ⟨hrecord, hinner⟩ := List.forall_mem_cons.mp hrest
  exact List.forall_mem_append.mpr ⟨hdone, List.forall_mem_cons.mpr ⟨hrecord, hinner⟩⟩

/-- Another descriptor is written behind the interface. -/
theorem writeExtra {extra : ExtraDescriptor}
    (h : stream.Inside header string count done interface index endpoints inner)
    (hwrite : (stream.writeExtra extra).commit = .ok next) :
    (0 ≤ extra.type ∧ extra.type < 0x100)
      ∧ next.Inside header string count done interface index endpoints (inner ++ [extra.record]) := by
  obtain ⟨hsmall, htype, rfl⟩ := commit_writeRecord_eq_ok_iff.mp hwrite
  have hsize : extra.record.size ≤ 255 := by
    show extra.data.length + 2 ≤ 255
    omega
  exact ⟨htype, h.append hsize⟩

/-- An endpoint is counted and written. -/
theorem writeEndpoint {endpoint : Endpoint.Descriptor}
    (h : stream.Inside header string count done interface index endpoints inner)
    (hwrite : (stream.writeEndpoint endpoint).commit = .ok next) :
    (∀ field ∈ endpoint.fields, field.Fits)
      ∧ next.Inside header string count done interface index (endpoints + 1) (inner ++ [endpoint.record]) := by
  obtain ⟨place, counted, hplace, hincrement, hfits, rfl⟩ := commit_writeEndpoint_eq_ok_iff.mp hwrite
  rw [h.place] at hplace
  cases hplace
  have hsmall : endpoint.record.size ≤ 255 := by
    show 7 ≤ 255
    decide
  exact ⟨hfits, (h.increment hincrement).append hsmall⟩

/-! ## Loops -/

/-- All other descriptors of an interface are written, one after another. -/
theorem writeExtras {extras : List ExtraDescriptor}
    (h : stream.Inside header string count done interface index endpoints inner)
    (hfold : extras.foldlM (fun stream extra => (stream.writeExtra extra).commit) stream = .ok next) :
    (∀ extra ∈ extras, 0 ≤ extra.type ∧ extra.type < 0x100)
      ∧ next.Inside header string count done interface index endpoints
        (inner ++ extras.map ExtraDescriptor.record) := by
  induction extras generalizing stream inner with
  | nil =>
    cases hfold
    rw [List.map_nil, List.append_nil]
    exact ⟨fun _ hextra => absurd hextra List.not_mem_nil, h⟩
  | cons extra rest ih =>
    rw [List.foldlM_cons] at hfold
    obtain ⟨middle, hwrite, hfold⟩ := bind_eq_ok_iff.mp hfold
    obtain ⟨htype, hmiddle⟩ := h.writeExtra hwrite
    obtain ⟨htypes, hnext⟩ := ih hmiddle hfold
    rw [List.append_assoc] at hnext
    exact ⟨List.forall_mem_cons.mpr ⟨htype, htypes⟩, hnext⟩

/-- All endpoints of an interface are counted and written, one after another. -/
theorem writeEndpoints {descriptors : List Endpoint.Descriptor}
    (h : stream.Inside header string count done interface index endpoints inner)
    (hfold : descriptors.foldlM (fun stream endpoint => (stream.writeEndpoint endpoint).commit) stream
      = .ok next) :
    (∀ descriptor ∈ descriptors, ∀ field ∈ descriptor.fields, field.Fits)
      ∧ next.Inside header string count done interface index (endpoints + descriptors.length)
        (inner ++ descriptors.map Endpoint.Descriptor.record) := by
  induction descriptors generalizing stream inner endpoints with
  | nil =>
    cases hfold
    rw [List.map_nil, List.append_nil]
    exact ⟨fun _ hdescriptor => absurd hdescriptor List.not_mem_nil, h⟩
  | cons descriptor rest ih =>
    rw [List.foldlM_cons] at hfold
    obtain ⟨middle, hwrite, hfold⟩ := bind_eq_ok_iff.mp hfold
    obtain ⟨hfits, hmiddle⟩ := h.writeEndpoint hwrite
    obtain ⟨hall, hnext⟩ := ih hmiddle hfold
    rw [List.append_assoc, Nat.add_assoc, Nat.add_comm 1] at hnext
    exact ⟨List.forall_mem_cons.mpr ⟨hfits, hall⟩, hnext⟩

end Inside

/-- **An interface is written.** Its records follow those that were there before. -/
theorem Open.writeInterface (h : stream.Open header string count done) {interface : Interface}
    (hwrite : Description.writeInterface strings stream interface = .ok next) :
    ∃ records : InterfaceRecords, records.Describes interface strings
      ∧ next.Open header string (count + 1) (done ++ records.all) := by
  unfold Description.writeInterface at hwrite
  obtain ⟨begun, hbegin, hwrite⟩ := bind_eq_ok_iff.mp hwrite
  obtain ⟨extended, hextras, hendpoints⟩ := bind_eq_ok_iff.mp hwrite
  obtain ⟨index, hindex, hfits, hbegun⟩ := h.beginInterface hbegin
  obtain ⟨htypes, hextended⟩ := hbegun.writeExtras hextras
  obtain ⟨hdescriptors, hfinished⟩ := hextended.writeEndpoints hendpoints
  rw [Nat.zero_add, List.nil_append] at hfinished
  -- The fields were checked when the count was zero, and it stayed within a byte.
  have hcounted := InterfaceHeader.fits_counted hfits (by simpa using hfinished.endpoints_le)
  exact ⟨interface.records index, interface.describes_records hindex hcounted htypes hdescriptors, hfinished.isOpen⟩

/-- All interfaces are written, one after another. -/
theorem Open.writeInterfaces {interfaces : List Interface} (h : stream.Open header string count done)
    (hfold : interfaces.foldlM (Description.writeInterface strings) stream = .ok next) :
    ∃ blocks : List InterfaceRecords,
      List.Forall₂ (fun interface records => records.Describes interface strings) interfaces blocks
        ∧ next.Open header string (count + interfaces.length) (done ++ blocks.flatMap InterfaceRecords.all) := by
  induction interfaces generalizing stream count done with
  | nil =>
    cases hfold
    refine ⟨[], .nil, ?_⟩
    rw [List.flatMap_nil, List.append_nil]
    exact h
  | cons interface rest ih =>
    rw [List.foldlM_cons] at hfold
    obtain ⟨middle, hwrite, hfold⟩ := bind_eq_ok_iff.mp hfold
    obtain ⟨records, hrecords, hmiddle⟩ := h.writeInterface hwrite
    obtain ⟨blocks, hblocks, hnext⟩ := ih hmiddle hfold
    rw [List.append_assoc, Nat.add_assoc, Nat.add_comm 1] at hnext
    exact ⟨records :: blocks, .cons hrecords hblocks, hnext⟩

/-- The length is filled in, and the stream is cut where its records begin. -/
theorem Open.complete {body : List Record} {bytes : Bytes} (h : stream.Open header string count body)
    (hfits : ∀ field ∈ header.counted string 0 0, field.Fits) (hcomplete : stream.complete.result = .ok bytes) :
    (StandardDescriptor.configuration.record (header.counted string bytes.length count)).Decodes .configuration
        (header.counted string bytes.length count)
      ∧ Record.split? bytes
        = some (StandardDescriptor.configuration.record (header.counted string bytes.length count) :: body) := by
  unfold Stream.complete at hcomplete
  cases hclose : stream.closeConfiguration with
  | error e =>
    rw [hclose] at hcomplete
    cases hcomplete
  | ok closed =>
    rw [hclose] at hcomplete
    cases hcomplete
    obtain ⟨hlength, hbytes⟩ := close_record h.configuration h.bytes hclose
    have hsize : closed.bytes.length = stream.size := size_closeConfiguration hclose
    rw [hsize]
    -- The record keeps its place, and closing only changes its length.
    refine ⟨StandardDescriptor.decodes_record _ (ConfigurationHeader.fits_counted hfits hlength h.count_le), ?_⟩
    have hhead : (StandardDescriptor.configuration.record (header.counted string stream.size count)).size ≤ 255 := by
      show 9 ≤ 255
      decide
    rw [hbytes, ← List.flatMap_cons]
    exact Record.split?_flatMap_bytes (List.forall_mem_cons.mpr ⟨hhead, h.small⟩)

end Stream

/-- **The configuration descriptor as it is read.** A compiled configuration descriptor is cut into the record of
    the configuration and the records of the interfaces, with nothing left over. The record of the configuration
    decodes to the length of all of it, the number of interfaces and the properties of the device. The records
    of the endpoints decode to the compiled endpoints behind those of endpoint 0, and are easy to find if no
    other descriptor has their type. -/
theorem Device.configurationDescriptor_records {device : Device} {store : Interface.Store} {config : CompiledDevice}
    (hcompile : device.compile store = .ok config) :
    let interfaces := device.interfaces.map store.get
    ∃ (strings : StringPool) (string : Nat) (head : Record) (blocks : List InterfaceRecords),
      (device.describe store).strings = .ok strings
        ∧ strings.index? device.configurationString = some string
        ∧ Record.split? config.configurationDescriptor = some (head :: blocks.flatMap InterfaceRecords.all)
        ∧ head.Decodes .configuration [.word config.configurationDescriptor.length, .byte interfaces.length,
          .byte 1, .byte string, .byte device.attributes, .byte device.maxPower]
        ∧ List.Forall₂ (fun interface records => records.Describes interface strings) interfaces blocks
        ∧ config.endpoints = .control .toDevice device.header.controlPacketSize
          :: .control .toHost device.header.controlPacketSize :: interfaces.flatMap Interface.endpoints
        ∧ (blocks.flatMap InterfaceRecords.endpoints).map Endpoint.Descriptor.ofRecord?
          = (config.endpoints.drop 2).map some
        ∧ ((∀ interface ∈ interfaces, ∀ extra ∈ interface.extras, extra.type ≠ 5) →
          (head :: blocks.flatMap InterfaceRecords.all).filter (fun record => record.type = 5)
            = blocks.flatMap InterfaceRecords.endpoints) := by
  intro interfaces
  obtain ⟨strings, _, hstrings, _, hconfiguration, _, hendpoints⟩ := Description.compile_eq_ok_iff.mp hcompile
  unfold Description.configurationDescriptor at hconfiguration
  obtain ⟨begun, hbegin, hconfiguration⟩ := bind_eq_ok_iff.mp hconfiguration
  obtain ⟨written, hfold, hcomplete⟩ := bind_eq_ok_iff.mp hconfiguration
  obtain ⟨string, hstring, hfits, hopen⟩ := Stream.open_of_beginConfiguration hbegin
  obtain ⟨blocks, hblocks, hwritten⟩ := hopen.writeInterfaces hfold
  rw [Nat.zero_add, List.nil_append] at hwritten
  obtain ⟨hhead, hsplit⟩ := hwritten.complete hfits hcomplete
  refine ⟨strings, string, _, blocks, hstrings, hstring, hsplit, hhead, hblocks, hendpoints, ?_, ?_⟩
  · have hdrop : config.endpoints.drop 2 = interfaces.flatMap Interface.endpoints := by
      rw [hendpoints]
      rfl
    rw [hdrop, List.map_flatMap, List.map_flatMap]
    exact (flatMap_eq_of_forall₂ hblocks fun _ _ hdescribes => hdescribes.endpoints.symm).symm
  · -- The configuration is no endpoint, and in an interface only its endpoints are.
    intro hextras
    rw [List.filter_cons_of_neg (by show ¬decide ((2 : UInt8) = 5) = true; decide), List.filter_flatMap]
    apply List.flatMap_congr
    intro records hrecords
    obtain ⟨interface, hinterface, hdescribes⟩ := exists_of_forall₂ hblocks.flip hrecords
    exact hdescribes.filter_all (hextras interface hinterface)

/-- A device with one interface, which has a descriptor of its class and one endpoint. -/
theorem Device.configurationDescriptor_records_bulk :
    let endpoint : Endpoint.Descriptor := ⟨⟨1, .toHost, by decide⟩, 2, 64, 0⟩
    let device : Device := { header := {}, interfaces := [⟨0⟩] }
    let store : Interface.Store := ⟨[{ header := {}, extras := [⟨0x24, [0, 0x10, 1]⟩], endpoints := [endpoint] }]⟩
    let config : CompiledDevice :=
      { deviceDescriptor := [18, 1, 0, 2, 0, 0, 0, 8, 0, 0, 0, 0, 0, 0, 0, 0, 0, 1]
        configurationDescriptor := [9, 2, 30, 0, 1, 1, 0, 128, 50, 9, 4, 0, 0, 1, 0, 0, 0, 0,
          5, 36, 0, 16, 1, 7, 5, 129, 2, 64, 0, 0]
        strings := [(0, .descriptor [4, 3, 9, 4])]
        endpoints := [.control .toDevice 8, .control .toHost 8, endpoint] }
    device.compile store = .ok config
      ∧ ∃ (head : Record) (blocks : List InterfaceRecords),
        Record.split? config.configurationDescriptor = some (head :: blocks.flatMap InterfaceRecords.all)
          ∧ head.Decodes .configuration [.word 30, .byte 1, .byte 1, .byte 0, .byte 0x80, .byte 50]
          ∧ (blocks.flatMap InterfaceRecords.endpoints).map Endpoint.Descriptor.ofRecord? = [some endpoint]
          ∧ (head :: blocks.flatMap InterfaceRecords.all).filter (fun record => record.type = 5)
            = blocks.flatMap InterfaceRecords.endpoints := by
  intro endpoint device store config
  have hcompile : device.compile store = .ok config := by cbv
  obtain ⟨strings, string, head, blocks, hstrings, hstring, hsplit, hhead, _, _, hendpoints, hfilter⟩ :=
    Device.configurationDescriptor_records hcompile
  cases hstrings
  cases hstring
  exact ⟨hcompile, head, blocks, hsplit, hhead, hendpoints, hfilter (by decide)⟩

end UsbCompiler
