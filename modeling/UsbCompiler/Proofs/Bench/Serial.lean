import UsbCompiler.Proofs.Bench.Job
import UsbCompiler.Proofs.Descriptor.Blocks

/-!
# `UsbCompiler.Proofs.Bench.Serial` — serial functions name their own interfaces

A serial function writes the numbers of its two interfaces into raw bytes long before the device is compiled. They are
right because nothing can come between: the interfaces stand in the places of their numbers, nobody has them in hand,
and a compiled device shows them there, one after the other. A serial function that stops half-way leaves places behind
that have no endpoints, and no device compiles with those.

## Contents
- `SerialFunction.Appears`: a serial function among the records of a device.
- `describes_notifications`, `describes_line` and `Device.ReadsAs.appears`: from its interfaces to its records.
- `Bench.serial_cases`: the ends of a serial function, as pinned places.
- `Bench.run_serial`: serial functions in any run of jobs.
-/

namespace UsbCompiler

/-! ## Records of a serial function -/

namespace SerialFunction

/-- **A serial function on the wire.** Its records are those of interfaces `n` and `n + 1`: the interface for
    notifications, the functional descriptors with both numbers, the endpoint for notifications, then the interface for
    data, the endpoint that is written to and the one that is read from. -/
def Appears (blocks : List InterfaceRecords) (n : Nat) (notify read write : Endpoint.Descriptor) : Prop :=
  ∃ communication notification data first second : Record,
    ((blocks.drop n).take 2).flatMap InterfaceRecords.all
        = [communication, ⟨0x24, [0x00, 0x10, 0x01]⟩, ⟨0x24, [0x01, 0x00, .ofNat (n + 1)]⟩, ⟨0x24, [0x02, 0x00]⟩,
          ⟨0x24, [0x06, .ofNat n, .ofNat (n + 1)]⟩, notification, data, first, second]
      ∧ communication.Decodes .interface [.byte n, .byte 0, .byte 1, .byte 0x02, .byte 0x02, .byte 0x01, .byte 0]
      ∧ Endpoint.Descriptor.ofRecord? notification = some notify
      ∧ data.Decodes .interface [.byte (n + 1), .byte 0, .byte 2, .byte 0x0A, .byte 0, .byte 0, .byte 0]
      ∧ Endpoint.Descriptor.ofRecord? first = some write
      ∧ Endpoint.Descriptor.ofRecord? second = some read

variable {records : InterfaceRecords} {strings : StringPool} {n : Nat} {notify read write : Endpoint.Descriptor}

/-- The record of an interface without text. -/
theorem decodes_header {interface : Interface} (h : records.Describes interface strings)
    (hunset : interface.header.string = .unset) (hzero : strings.index? .unset = some 0) :
    records.header.Decodes .interface (interface.header.counted 0 interface.endpoints.length) := by
  obtain ⟨string, hstring, hdecodes⟩ := h.header
  rw [hunset, hzero] at hstring
  cases hstring
  exact hdecodes

theorem describes_notifications (h : records.Describes (notifications n notify) strings)
    (hzero : strings.index? .unset = some 0) :
    ∃ header endpoint, records.all
        = [header, ⟨0x24, [0x00, 0x10, 0x01]⟩, ⟨0x24, [0x01, 0x00, .ofNat (n + 1)]⟩, ⟨0x24, [0x02, 0x00]⟩,
          ⟨0x24, [0x06, .ofNat n, .ofNat (n + 1)]⟩, endpoint]
      ∧ header.Decodes .interface [.byte n, .byte 0, .byte 1, .byte 0x02, .byte 0x02, .byte 0x01, .byte 0]
      ∧ Endpoint.Descriptor.ofRecord? endpoint = some notify := by
  obtain ⟨endpoint, hendpoint, hnotify⟩ := List.map_eq_singleton_iff.mp h.endpoints
  refine ⟨records.header, endpoint, ?_, decodes_header h rfl hzero, hnotify⟩
  rw [InterfaceRecords.all, h.extras_eq, hendpoint]
  rfl

theorem describes_line (h : records.Describes (line n read write) strings) (hzero : strings.index? .unset = some 0) :
    ∃ header first second, records.all = [header, first, second]
      ∧ header.Decodes .interface [.byte n, .byte 0, .byte 2, .byte 0x0A, .byte 0, .byte 0, .byte 0]
      ∧ Endpoint.Descriptor.ofRecord? first = some write ∧ Endpoint.Descriptor.ofRecord? second = some read := by
  obtain ⟨first, rest, hfirst, hwrite, hrest⟩ := List.map_eq_cons_iff.mp h.endpoints
  obtain ⟨second, rfl, hread⟩ := List.map_eq_singleton_iff.mp hrest
  refine ⟨records.header, first, second, ?_, decodes_header h rfl hzero, hwrite, hread⟩
  rw [InterfaceRecords.all, h.extras_eq, hfirst]
  rfl

end SerialFunction

open SerialFunction in
/-- A device with the two interfaces of a serial function in the places of their numbers shows them one after the
    other. -/
theorem Device.ReadsAs.appears {device : Device} {store : Interface.Store} {config : CompiledDevice} {head : Record}
    {blocks : List InterfaceRecords} (hreads : device.ReadsAs store config head blocks) {n : Nat}
    {notify read write : Endpoint.Descriptor} {one two : Interface.Handle}
    (hone : device.interfaces[n]? = some one) (htwo : device.interfaces[n + 1]? = some two)
    (hnotifications : store.get one = notifications n notify) (hline : store.get two = line (n + 1) read write) :
    Appears blocks n notify read write := by
  have hzero := Description.index?_unset (device.describe store)
  have hplace {k : Nat} {handle : Interface.Handle} (hk : device.interfaces[k]? = some handle) :
      ∃ records, blocks[k]? = some records
        ∧ records.Describes (store.get handle) ⟨(device.describe store).distinctSources⟩ := by
    apply getElem?_of_forall₂ hreads.2
    rw [List.getElem?_map, hk, Option.map_some]
  obtain ⟨first, hfirst, hdescribes⟩ := hplace hone
  obtain ⟨second, hsecond, hdescribes'⟩ := hplace htwo
  rw [hnotifications] at hdescribes
  rw [hline] at hdescribes'
  obtain ⟨communication, notification, hall, hheader, hnotify⟩ := describes_notifications hdescribes hzero
  obtain ⟨data, writer, reader, hall', hheader', hwrite, hread⟩ := describes_line hdescribes' hzero
  refine ⟨communication, notification, data, writer, reader, ?_, hheader, hnotify, hheader', hwrite, hread⟩
  have hboth : (blocks.drop n).take 2 = [first, second] := by
    obtain ⟨hn, rfl⟩ := List.getElem?_eq_some_iff.mp hfirst
    obtain ⟨hnext, rfl⟩ := List.getElem?_eq_some_iff.mp hsecond
    rw [List.drop_eq_getElem_cons hn, List.drop_eq_getElem_cons hnext]
    rfl
  rw [hboth, List.flatMap_cons, List.flatMap_singleton, hall, hall']
  rfl

namespace Bench

/-! ## Serial functions on a bench -/

variable {bench : Bench} {d : Nat} {device : Device}

/-- The interfaces of a serial function never come into anybody's hands. -/
theorem pinned_of_adds (htidy : bench.Tidy) (hdevice : bench.devices[d]? = some device)
    {state : SerialFunction.State} {first second : Interface}
    (hadds : SerialFunction.Adds (device, bench.store) state first second) :
    (bench.withState d state).Pinned d device.interfaces.length first
      ∧ (bench.withState d state).Pinned d (device.interfaces.length + 1) second := by
  obtain ⟨one, two, hstate, hone, htwo⟩ := hadds.places
  have hlt : d < bench.devices.length := (List.getElem?_eq_some_iff.mp hdevice).1
  have hfound : (bench.withState d state).devices[d]? = some state.1 := List.getElem?_set_self hlt
  have hplaces : state.1.interfaces = device.interfaces ++ [one, two] := by rw [hstate]
  constructor
  · refine ⟨state.1, one, hfound, ?_, fun hheld => hone.unknown (htidy.held one hheld), hone.get⟩
    rw [hplaces, List.getElem?_append_right (Nat.le_refl _), Nat.sub_self, List.getElem?_cons_zero]
  · refine ⟨state.1, two, hfound, ?_, fun hheld => htwo.unknown (htidy.held two hheld), htwo.get⟩
    rw [hplaces, List.getElem?_append_right (Nat.le_add_right _ 1), Nat.add_sub_cancel_left, List.getElem?_cons_succ,
      List.getElem?_cons_zero]

/-- **The ends of a serial function.** It fails and leaves both of its places empty, or fails and leaves only the second
    one empty, or both of its interfaces are there. -/
theorem serial_cases (htidy : bench.Tidy) (hdevice : bench.devices[d]? = some device)
    (notify read write : Endpoint.Source) :
    let n := device.interfaces.length
    let outcome := bench.performJob (.serial d notify read write)
    (∃ e, outcome.result = .error e ∧ outcome.state.Pinned d n (.new n)
        ∧ outcome.state.Pinned d (n + 1) (.new (n + 1)))
      ∨ (∃ e notifier, outcome.result = .error e ∧ n ≤ 254 ∧ notify.describe = .ok notifier
        ∧ outcome.state.Pinned d (n + 1) (.new (n + 1)))
      ∨ ∃ notifier reader writer, outcome.result = .ok (some ((n : Int), (n : Int) + 1))
        ∧ notify.describe = .ok notifier ∧ read.describe = .ok reader ∧ write.describe = .ok writer
        ∧ outcome.state.Pinned d n (SerialFunction.notifications n notifier)
        ∧ outcome.state.Pinned d (n + 1) (SerialFunction.line (n + 1) reader writer) := by
  intro n outcome
  have houtcome : outcome = _ := performJob_serial hdevice notify read write
  have hcases := SerialFunction.install_cases (device, bench.store) notify read write
  rw [houtcome]
  generalize SerialFunction.install (device, bench.store) notify read write = installed at hcases
  rcases hcases with ⟨e, _, hresult, hadds⟩ | ⟨first, e, hfirst, _, hresult, hadds⟩
    | ⟨first, second, hfirst, hsecond, hresult, hadds⟩
  · obtain ⟨hone, htwo⟩ := pinned_of_adds htidy hdevice hadds
    exact .inl ⟨e, congrArg (Except.map some) hresult, hone, htwo⟩
  · obtain ⟨hsmall, notifier, hnotifier, rfl⟩ := SerialFunction.communication_eq_ok_iff.mp hfirst
    obtain ⟨_, htwo⟩ := pinned_of_adds htidy hdevice hadds
    exact .inr (.inl ⟨e, notifier, congrArg (Except.map some) hresult, hsmall, hnotifier, htwo⟩)
  · obtain ⟨hsmall, notifier, hnotifier, rfl⟩ := SerialFunction.communication_eq_ok_iff.mp hfirst
    obtain ⟨reader, writer, hreader, hwriter, rfl⟩ := SerialFunction.data_eq_ok_iff.mp hsecond
    obtain ⟨hone, htwo⟩ := pinned_of_adds htidy hdevice hadds
    exact .inr (.inr ⟨notifier, reader, writer, congrArg (Except.map some) hresult, hnotifier, hreader, hwriter, hone,
      htwo⟩)

/-- A pinned place is one of the device as it is later on. -/
theorem Pinned.of_device {k : Nat} {interface : Interface} (h : bench.Pinned d k interface)
    (hdevice : bench.devices[d]? = some device) :
    ∃ handle, device.interfaces[k]? = some handle ∧ bench.store.get handle = interface := by
  obtain ⟨found, handle, hfound, hplace, _, hget⟩ := h
  rw [hdevice] at hfound
  cases hfound
  exact ⟨handle, hplace, hget⟩

/-- A device does not compile as long as an interface without endpoints is pinned to one of its places. -/
theorem Pinned.compile_unfinished {k : Nat} {number : Int} (h : bench.Pinned d k (.new number))
    (hdevice : bench.devices[d]? = some device) :
    ∃ e, device.compile bench.store = .error e ∧ e.kind = .configuration := by
  obtain ⟨handle, hplace, hget⟩ := h.of_device hdevice
  obtain ⟨_, hcompile⟩ := Device.compile_unfinished hplace (congrArg Interface.endpoints hget)
  exact ⟨_, hcompile, rfl⟩

/-- **Serial functions.** After any run of jobs, a serial function comes about exactly if its two numbers are bytes and
    its endpoints can be described. It answers with its numbers, adds two interfaces and leaves the others alone, even
    if it fails. From then on, and until something else is saved under its numbers, it is shown by whatever compiles;
    and if it failed, nothing compiles until something is saved under all numbers that it left empty. -/
theorem run_serial (before : List Job) (d : Nat) (device : Device) (notify read write : Endpoint.Source)
    (hdevice : (empty.runJobs before).devices[d]? = some device) :
    let bench := empty.runJobs before
    let n := device.interfaces.length
    let outcome := bench.performJob (.serial d notify read write)
    ((∃ answer, outcome.result = .ok answer)
        ↔ n ≤ 254 ∧ (∃ notifier, notify.describe = .ok notifier) ∧ (∃ reader, read.describe = .ok reader)
          ∧ ∃ writer, write.describe = .ok writer)
      ∧ (∀ answer, outcome.result = .ok answer → answer = some ((n : Int), (n : Int) + 1))
      ∧ (∃ one two, outcome.state = { bench with
          devices := bench.devices.set d { device with interfaces := device.interfaces ++ [one, two] }
          store := outcome.state.store })
      ∧ (∀ handle ∈ device.interfaces, outcome.state.store.get handle = bench.store.get handle)
      ∧ ∀ (after : List Job) (later : Device),
        let final := empty.runJobs (before ++ .serial d notify read write :: after)
        final.devices[d]? = some later →
        (∀ answer notifier reader writer, outcome.result = .ok answer → notify.describe = .ok notifier →
            read.describe = .ok reader → write.describe = .ok writer →
            outcome.state.Spares after d n → outcome.state.Spares after d (n + 1) →
            ∀ config, later.compile final.store = .ok config → ∃ head blocks,
              later.ReadsAs final.store config head blocks
                ∧ SerialFunction.Appears blocks n notifier reader writer)
          ∧ ∀ e, outcome.result = .error e →
            ∀ k, k = n + 1 ∨ k = n ∧ (254 < n ∨ ∃ e, notify.describe = .error e) → outcome.state.Spares after d k →
            ∃ e, later.compile final.store = .error e ∧ e.kind = .configuration := by
  intro bench n outcome
  have htidy : bench.Tidy := tidy_empty.runJobs before
  have hcases := serial_cases htidy hdevice notify read write
  obtain ⟨first, second, hadds⟩ := SerialFunction.exists_adds_install (device, bench.store) notify read write
  have hiff := SerialFunction.exists_install_iff (device, bench.store) notify read write
  have houtcome : outcome = _ := performJob_serial hdevice notify read write
  generalize SerialFunction.install (device, bench.store) notify read write = installed at hadds hiff houtcome
  refine ⟨?_, ?_, ?_, ?_, ?_⟩
  · rw [← hiff, houtcome]
    constructor
    · rintro ⟨answer, hanswer⟩
      obtain ⟨numbers, hnumbers, _⟩ := map_eq_ok_iff.mp hanswer
      exact ⟨numbers, hnumbers⟩
    · rintro ⟨numbers, hnumbers⟩
      exact ⟨some numbers, congrArg (Except.map some) hnumbers⟩
  · intro answer hanswer
    rcases hcases with ⟨e, herror, _⟩ | ⟨e, _, herror, _⟩ | ⟨_, _, _, hok, _⟩
    · exact absurd (herror.symm.trans hanswer) nofun
    · exact absurd (herror.symm.trans hanswer) nofun
    · exact Except.ok.inj (hanswer.symm.trans hok)
  · obtain ⟨one, two, hstate, _⟩ := hadds.places
    refine ⟨one, two, ?_⟩
    rw [houtcome, withState, hstate]
  · intro handle hhandle
    obtain ⟨k, hk, rfl⟩ := List.getElem_of_mem hhandle
    have hknown := (htidy.numbered device (List.mem_of_getElem? hdevice) k _ (List.getElem?_eq_getElem hk)).1
    rw [houtcome]
    exact (hadds.kept _ hknown).2
  · intro after later final hlater
    have hafter : outcome.state.Tidy := (does_performJob bench _).tidy htidy
    have hfinal : final = outcome.state.runJobs after := by
      rw [← runJobs_cons, ← runJobs_append]
    rw [hfinal] at hlater ⊢
    constructor
    · intro answer notifier reader writer hanswer hnotifier hreader hwriter hspares hspares' config hcompile
      rcases hcases with ⟨e, herror, _⟩ | ⟨e, _, herror, _⟩
        | ⟨notifier', reader', writer', _, hnotifier', hreader', hwriter', hone, htwo⟩
      · exact absurd (herror.symm.trans hanswer) nofun
      · exact absurd (herror.symm.trans hanswer) nofun
      · obtain rfl := Except.ok.inj (hnotifier.symm.trans hnotifier')
        obtain rfl := Except.ok.inj (hreader.symm.trans hreader')
        obtain rfl := Except.ok.inj (hwriter.symm.trans hwriter')
        obtain ⟨one, hplace, hget⟩ := (hafter.pinned_runJobs hone after hspares).of_device hlater
        obtain ⟨two, hplace', hget'⟩ := (hafter.pinned_runJobs htwo after hspares').of_device hlater
        obtain ⟨head, blocks, hreads⟩ := Device.exists_readsAs hcompile
        exact ⟨head, blocks, hreads, hreads.appears hplace hplace' hget hget'⟩
    · intro e herror k hk hspares
      rcases hcases with ⟨_, _, hone, htwo⟩ | ⟨_, notifier, _, hsmall, hnotifier, htwo⟩ | ⟨_, _, _, hok, _⟩
      · rcases hk with rfl | ⟨rfl, _⟩
        · exact (hafter.pinned_runJobs htwo after hspares).compile_unfinished hlater
        · exact (hafter.pinned_runJobs hone after hspares).compile_unfinished hlater
      · rcases hk with rfl | ⟨_, hlarge | ⟨_, hrefused⟩⟩
        · exact (hafter.pinned_runJobs htwo after hspares).compile_unfinished hlater
        · exact absurd hsmall (Nat.not_le_of_lt hlarge)
        · exact absurd (hrefused.symm.trans hnotifier) nofun
      · exact absurd (herror.symm.trans hok) nofun

/-- A serial function between two other interfaces, the second of which is begun and saved after it. -/
theorem run_serial_between :
    let notifier : Endpoint.Descriptor := ⟨⟨1, .toHost, by decide⟩, 3, 8, 10⟩
    let reader : Endpoint.Descriptor := ⟨⟨2, .toDevice, by decide⟩, 2, 64, 0⟩
    let writer : Endpoint.Descriptor := ⟨⟨2, .toHost, by decide⟩, 2, 64, 0⟩
    let other : Endpoint.Descriptor := ⟨⟨3, .toHost, by decide⟩, 2, 64, 0⟩
    let before : List Job := [.call (.newDevice 0x1234 0x5678), .call (.newInterface 0),
      .call (.change ⟨1⟩ (.endpoint (.descriptor other))), .call (.save ⟨1⟩ 0)]
    let serial : Job := .serial 0 (.descriptor notifier) (.descriptor reader) (.descriptor writer)
    let after : List Job := [.call (.newInterface 0), .call (.change ⟨7⟩ (.endpoint (.descriptor other))),
      .call (.save ⟨7⟩ 0)]
    let final := empty.runJobs (before ++ serial :: after)
    ((empty.runJobs before).performJob serial).result = .ok (some (1, 2))
      ∧ ∃ later config, final.devices[0]? = some later ∧ later.interfaces = [⟨1⟩, ⟨4⟩, ⟨5⟩, ⟨7⟩]
        ∧ later.compile final.store = .ok config
        ∧ ∃ head blocks, later.ReadsAs final.store config head blocks
          ∧ SerialFunction.Appears blocks 1 notifier reader writer := by
  intro notifier reader writer other before serial after final
  let device : Device :=
    { header := { vendor := 0x1234, product := 0x5678, release := 0x0010 }, interfaces := [⟨1⟩] }
  let later : Device := { device with interfaces := [⟨1⟩, ⟨4⟩, ⟨5⟩, ⟨7⟩] }
  have hdevice : (empty.runJobs before).devices[0]? = some device := by decide +kernel
  have hlater : final.devices[0]? = some later := by decide +kernel
  obtain ⟨config, hcompile⟩ : ∃ config, later.compile final.store = .ok config :=
    exists_ok_of_isOk (by decide +kernel)
  obtain ⟨hiff, hanswer, _, _, hafter⟩ :=
    run_serial before 0 device (.descriptor notifier) (.descriptor reader) (.descriptor writer) hdevice
  obtain ⟨answer, hresult⟩ := hiff.mpr ⟨by decide, ⟨notifier, rfl⟩, ⟨reader, rfl⟩, writer, rfl⟩
  have hspares (k : Nat) (hk : k ≠ 3) : ((empty.runJobs before).performJob serial).state.Spares after 0 k := by
    intro handle hmem
    have haccepted : ((empty.runJobs before).performJob serial).state.acceptedJobs after = after := by
      decide +kernel
    have hnumber : ((((empty.runJobs before).performJob serial).state.runJobs after).store.get ⟨7⟩).number = 3 := by
      decide +kernel
    rw [haccepted] at hmem
    obtain rfl : handle = ⟨7⟩ := by simpa [after] using hmem
    rw [hnumber]
    omega
  obtain ⟨hshown, _⟩ := hafter after later hlater
  exact ⟨hanswer answer hresult ▸ hresult, later, config, hlater, rfl, hcompile,
    hshown answer notifier reader writer hresult rfl rfl rfl (hspares 1 (by decide)) (hspares 2 (by decide)) config
      hcompile⟩

end Bench

end UsbCompiler
