import UsbCompiler.Proofs.Bench.Call
import UsbCompiler.Proofs.Strings

/-!
# `UsbCompiler.Proofs.Bench.Headers` — headers after any run

The device descriptor is one record of 18 bytes, and the configuration descriptor begins with the record of the
configuration. Between them they show every property of the device once, next to numbers that do not come from
settings: the indexes of strings, and what is counted while the configuration is written.

Settings of a device come between calls that begin devices and interfaces, change interfaces and save them, settings
of other devices, and calls that are refused. None of these touches the properties of the device: apart from its
interfaces, a device is what its own accepted settings make of a new one. So what it shows when it is compiled is the
last accepted value of each property.

## Contents
- `CompiledDevice.Shows` and `Device.shows_of_compile`: both headers as the host decodes them show the device.
- `Bench.begun` and `Bench.settings`: the calls of a run that matter to one device.
- `Bench.Told`, `Accepts.told` and `run_told`: the devices on a bench as their settings made them.
- `run_made` and `run_accepted_eq`: one device after a run, and a run without its refused calls.
- `run_headers`: what is compiled.
-/

namespace UsbCompiler

/-! ## Both headers -/

/-- **Headers.** The device descriptor is one record of 18 bytes, and the configuration descriptor begins with the
    record of the configuration. They decode to the given properties, with the power supply and the remote wakeup as
    bits 6 and 5 of the attributes, of which bit 7 is always set and no other bit ever. -/
structure CompiledDevice.Shows (config : CompiledDevice) (vendor product : Int)
    (shown : (property : Device.Property) → property.Value) : Prop where
  device : config.deviceDescriptor.length = 18
    ∧ ∃ (record : Record) (manufacturerString productString serialNumberString : Nat),
      Record.split? config.deviceDescriptor = some [record]
        ∧ record.Decodes .device [.word 0x0200, .byte (shown .classCode), .byte (shown .subClass),
          .byte (shown .protocol), .byte (shown .controlPacketSize), .word vendor, .word product,
          .word (shown .release), .byte manufacturerString, .byte productString, .byte serialNumberString, .byte 1]
  configuration : ∃ (head : Record) (rest : List Record) (length interfaces string : Nat),
    Record.split? config.configurationDescriptor = some (head :: rest)
      ∧ head.Decodes .configuration [.word length, .byte interfaces, .byte 1, .byte string,
        .byte (0x80 + (if (shown .selfPowered : Bool) = true then 0x40 else 0)
          + (if (shown .remoteWakeup : Bool) = true then 0x20 else 0)), .byte (shown .maxPower)]

/-- What was compiled shows the device. -/
theorem Device.shows_of_compile {device : Device} {store : Interface.Store} {config : CompiledDevice}
    (hcompile : device.compile store = .ok config) :
    config.Shows device.header.vendor device.header.product device.value := by
  let strings : StringPool := ⟨(device.describe store).distinctSources⟩
  obtain ⟨_, _, hstrings, hdevice, hconfiguration, _, _⟩ := Description.compile_eq_ok_iff.mp hcompile
  obtain ⟨_, rfl⟩ := Description.strings_eq_ok_iff.mp hstrings
  constructor
  · obtain ⟨manufacturer, product, serialNumber, _, _, _, hfits, hbytes⟩ :=
      Description.deviceDescriptor_eq_ok_iff.mp hdevice
    let record := StandardDescriptor.device.record
      ((device.describe store).device.indexed 1 manufacturer product serialNumber)
    have hsize : record.size = 18 := rfl
    refine ⟨?_, record, manufacturer, product, serialNumber, ?_, StandardDescriptor.device.decodes_record hfits⟩
    · rw [hbytes, Record.length_bytes]
      exact hsize
    · rw [hbytes]
      exact Record.split?_bytes (show record.size ≤ 255 by omega)
  · have hknown : ∀ source ∈ (device.describe store).stringSources, source ∈ strings.sources :=
      fun _ => Description.mem_distinctSources
    obtain ⟨hfits, hwritable, hcount, hsize, hbytes⟩ :=
      (Description.configurationDescriptor_eq_ok_iff hknown).mp hconfiguration
    exact ⟨(device.describe store).head strings, _, (device.describe store).size, _, _,
      hbytes ▸ Description.split?_records hwritable,
      StandardDescriptor.configuration.decodes_record (ConfigurationHeader.fits_counted hfits hsize hcount)⟩

namespace Bench

variable {past : List Call} {bench next : Bench} {call : Call} {d : Nat}

/-! ## The calls about one device -/

/-- The identifiers with which a call begins a device. -/
def Call.begins? : Call → Option (Int × Int)
  | .newDevice vendor product => some (vendor, product)
  | _ => none

/-- The setting that a call makes on a device. -/
def Call.setting? (d : Nat) : Call → Option Device.Setting
  | .setDevice e setting => if e = d then some setting else none
  | _ => none

/-- The identifiers of all devices that were begun, in order. -/
def begun (calls : List Call) : List (Int × Int) := calls.filterMap Call.begins?

/-- The settings of one device, in order. -/
def settings (calls : List Call) (d : Nat) : List Device.Setting := calls.filterMap (Call.setting? d)

theorem begun_concat (past : List Call) (call : Call) : begun (past ++ [call]) = begun past ++ call.begins?.toList :=
  filterMap_concat _ past call

theorem settings_concat (past : List Call) (call : Call) (d : Nat) :
    settings (past ++ [call]) d = settings past d ++ (call.setting? d).toList := filterMap_concat _ past call

/-! ## Devices as their settings made them -/

/-- **Told devices.** Each device was begun by a call, and its settings one after another make it out of a new one. No
    setting is about a device that has not been begun. -/
structure Told (past : List Call) (devices : List Device) : Prop where
  length : devices.length = (begun past).length
  fresh : ∀ d, devices.length ≤ d → settings past d = []
  made : ∀ d device, devices[d]? = some device → ∃ vendor product start, (begun past)[d]? = some (vendor, product)
    ∧ Device.new vendor product = .ok start ∧ (settings past d).foldlM Device.set start = .ok device

/-- A call that begins no device and sets no property changes nothing about this. -/
theorem Told.quiet {devices : List Device} (h : Told past devices) (hbegins : call.begins? = none)
    (hsetting : ∀ d, call.setting? d = none) : Told (past ++ [call]) devices := by
  have hbegun : begun (past ++ [call]) = begun past := by
    rw [begun_concat, hbegins, Option.toList_none, List.append_nil]
  have hsettings (d : Nat) : settings (past ++ [call]) d = settings past d := by
    rw [settings_concat, hsetting, Option.toList_none, List.append_nil]
  refine ⟨by rw [hbegun]; exact h.length, fun d hd => by rw [hsettings]; exact h.fresh d hd, fun d device hdevice => ?_⟩
  rw [hbegun, hsettings]
  exact h.made d device hdevice

/-- A device that is begun has no settings yet. -/
theorem Told.newDevice {devices : List Device} {vendor product : Int} {device : Device} (h : Told past devices)
    (hnew : Device.new vendor product = .ok device) :
    Told (past ++ [.newDevice vendor product]) (devices ++ [device]) := by
  have hbegun : begun (past ++ [.newDevice vendor product]) = begun past ++ [(vendor, product)] := begun_concat ..
  have hsettings (d : Nat) : settings (past ++ [.newDevice vendor product]) d = settings past d := by
    rw [settings_concat]
    exact List.append_nil _
  refine ⟨?_, fun d hd => ?_, fun d other hother => ?_⟩
  · rw [hbegun, List.length_append, List.length_append, h.length]
    rfl
  · rw [hsettings]
    rw [List.length_append] at hd
    exact h.fresh d (by omega)
  · rw [hbegun, hsettings]
    rcases getElem?_concat_cases hother with hold | ⟨rfl, rfl⟩
    · obtain ⟨vendor', product', start, hfound, hstart⟩ := h.made d other hold
      refine ⟨vendor', product', start, ?_, hstart⟩
      rw [List.getElem?_append_left (List.getElem?_eq_some_iff.mp hfound).1]
      exact hfound
    · refine ⟨vendor, product, other, ?_, hnew, ?_⟩
      · rw [h.length, List.getElem?_concat_length]
      · rw [h.fresh _ (Nat.le_refl _)]
        rfl

/-- A setting comes after those that the device had before. -/
theorem Told.setDevice {devices : List Device} {setting : Device.Setting} {device after : Device}
    (h : Told past devices) (hdevice : devices[d]? = some device) (hset : device.set setting = .ok after) :
    Told (past ++ [.setDevice d setting]) (devices.set d after) := by
  have hbegun : begun (past ++ [.setDevice d setting]) = begun past := by
    rw [begun_concat]
    exact List.append_nil _
  have hself : settings (past ++ [.setDevice d setting]) d = settings past d ++ [setting] := by
    rw [settings_concat, Call.setting?, if_pos rfl]
    rfl
  have hother (e : Nat) (hne : d ≠ e) : settings (past ++ [.setDevice d setting]) e = settings past e := by
    rw [settings_concat, Call.setting?, if_neg hne]
    exact List.append_nil _
  have hlt : d < devices.length := (List.getElem?_eq_some_iff.mp hdevice).1
  refine ⟨?_, fun e he => ?_, fun e other hfound => ?_⟩
  · rw [hbegun, List.length_set]
    exact h.length
  · rw [List.length_set] at he
    rw [hother e (by omega)]
    exact h.fresh e he
  · rw [hbegun]
    rcases getElem?_set_cases hfound with ⟨hne, hold⟩ | ⟨rfl, rfl⟩
    · rw [hother e hne.symm]
      exact h.made e other hold
    · obtain ⟨vendor, product, start, hfirst, hnew, hmade⟩ := h.made e device hdevice
      refine ⟨vendor, product, start, hfirst, hnew, ?_⟩
      rw [hself, List.foldlM_append]
      exact bind_eq_ok_iff.mpr ⟨device, hmade, bind_eq_ok_iff.mpr ⟨other, hset, rfl⟩⟩

/-- **One call.** What is said of the devices leaves out their interfaces, which other calls change. -/
theorem Accepts.told (h : Accepts bench call next) (htold : Told past (bench.devices.map Device.bare)) :
    Told (past ++ [call]) (next.devices.map Device.bare) := by
  have hinterfaces {d : Nat} {device : Device} (hdevice : bench.devices[d]? = some device)
      (interfaces : List Interface.Handle) :
      (bench.devices.set d { device with interfaces }).map Device.bare = bench.devices.map Device.bare := by
    obtain ⟨hd, rfl⟩ := List.getElem?_eq_some_iff.mp hdevice
    exact map_set_of_eq hd rfl
  cases h with
  | newDevice hnew =>
    rw [List.map_append]
    have hbare := (Device.frame_of_new hnew).2
    exact htold.newDevice (hbare.symm ▸ hnew)
  | setDevice hdevice hset =>
    rw [List.map_set]
    refine htold.setDevice ?_ (Device.set_bare hset)
    rw [List.getElem?_map, hdevice]
    rfl
  | newInterface hdevice =>
    rw [hinterfaces hdevice]
    exact htold.quiet rfl fun _ => rfl
  | save hheld hdevice hrange halternate hendpoints =>
    rw [hinterfaces hdevice]
    exact htold.quiet rfl fun _ => rfl
  | makeInterface number | change hheld hchange => exact htold.quiet rfl fun _ => rfl

theorem told_empty : Told [] [] where
  length := rfl
  fresh _ _ := rfl
  made _ _ hnone := by cases hnone

/-- **All runs.** -/
theorem run_told (calls : List Call) : Told (accepted calls) ((run calls).devices.map Device.bare) :=
  @accepted_keeps (fun past bench => Told past (bench.devices.map Device.bare)) told_empty
    (fun _ _ _ _ htold haccepts => haccepts.told htold) calls

/-- A device after a run is what its own settings make of a new one, apart from its interfaces. -/
theorem run_made {calls : List Call} {device : Device} (hdevice : (run calls).devices[d]? = some device) :
    ∃ vendor product start, (begun (accepted calls))[d]? = some (vendor, product)
      ∧ Device.new vendor product = .ok start
      ∧ (settings (accepted calls) d).foldlM Device.set start = .ok device.bare := by
  refine (run_told calls).made d device.bare ?_
  rw [List.getElem?_map, hdevice]
  rfl

/-- The calls that were accepted lead to the same bench alone. -/
theorem run_accepted_eq (calls : List Call) : run (accepted calls) = run calls := by
  unfold accepted run
  rw [perform_eq]
  exact Outcome.run_accepted_whole empty calls

/-! ## Compiled devices -/

/-- **Headers.** A compiled device shows the identifiers with which it was begun, and of each property the value of the
    last call that was accepted for it, or the default. Setting and clearing the flags one after another gives the same
    byte of attributes. Calls that were refused have no effect at all. -/
theorem run_headers (calls : List Call) (d : Nat) (device : Device) (config : CompiledDevice)
    (hdevice : (run calls).devices[d]? = some device) (hcompile : device.compile (run calls).store = .ok config) :
    let given := Device.lastGiven (settings (accepted calls) d)
    (∃ vendor product, (begun (accepted calls))[d]? = some (vendor, product)
        ∧ config.Shows vendor product fun property => property.kept (given property))
      ∧ ((Device.masked (settings (accepted calls) d)).toNat : Int)
        = 0x80 + (if (given .selfPowered : Bool) = true then 0x40 else 0)
          + (if (given .remoteWakeup : Bool) = true then 0x20 else 0)
      ∧ run (accepted calls) = run calls := by
  intro given
  obtain ⟨vendor, product, start, hbegun, hnew, hmade⟩ := run_made hdevice
  obtain ⟨hidentifiers, _⟩ := Device.frame_of_new hnew
  have hvalue (property : Device.Property) : device.value property = property.kept (given property) :=
    (device.value_bare property).symm.trans (Device.value_of_settings hnew hmade property)
  refine ⟨⟨vendor, product, hbegun, ?_⟩, ?_, run_accepted_eq calls⟩
  · have hsame : (device.header.vendor, device.header.product) = (vendor, product) :=
      (Device.identifiers_of_foldlM hmade).trans hidentifiers
    obtain ⟨rfl, rfl⟩ := Prod.mk.inj hsame
    have hshows := Device.shows_of_compile hcompile
    rw [funext hvalue] at hshows
    exact hshows
  · have hselfPowered : device.selfPowered = given .selfPowered := hvalue .selfPowered
    have hremoteWakeup : device.remoteWakeup = given .remoteWakeup := hvalue .remoteWakeup
    rw [← Device.flags_of_settings hnew hmade, Device.toNat_flags, ← hselfPowered, ← hremoteWakeup]
    rfl

/-- A device whose settings are repeated, taken back and refused, with other calls between them. -/
theorem run_headers_mixed :
    let calls : List Call := [.newDevice 0x10000 0, .newDevice 0x1234 0x5678, .setDevice 0 (.selfPowered true),
      .setDevice 0 (.remoteWakeup true), .newDevice 1 2, .setDevice 1 (.classCode 9), .setDevice 0 (.classCode 0xFF),
      .setDevice 0 (.classCode 0x100), .newInterface 0, .setDevice 0 (.selfPowered false),
      .change ⟨1⟩ (.endpoint (.descriptor ⟨⟨1, .toHost, by decide⟩, 2, 64, 0⟩)), .save ⟨1⟩ 0,
      .setDevice 0 (.maxPower 251), .setDevice 0 (.maxPower 501), .setDevice 0 (.releaseText "v2.3.4rc1"),
      .setDevice 0 (.releaseText "2.10"), .setDevice 0 (.controlPacketSize 64), .setDevice 0 (.controlPacketSize 63)]
    let device : Device :=
      { header := {
          classCode := 0xFF, controlPacketSize := 64, vendor := 0x1234, product := 0x5678, release := 0x0234 },
        remoteWakeup := true, maxPower := 125, interfaces := [⟨1⟩] }
    (run calls).devices[0]? = some device
      ∧ ∃ config, device.compile (run calls).store = .ok config
        ∧ ∃ shown : (property : Device.Property) → property.Value, config.Shows 0x1234 0x5678 shown
          ∧ shown .classCode = (0xFF : Int) ∧ shown .subClass = (0 : Int) ∧ shown .release = (0x0234 : Int)
          ∧ shown .controlPacketSize = (64 : Int) ∧ shown .selfPowered = false ∧ shown .remoteWakeup = true
          ∧ shown .maxPower = (125 : Int) := by
  intro calls device
  have hdevice : (run calls).devices[0]? = some device := by decide +kernel
  obtain ⟨config, hcompile⟩ : ∃ config, device.compile (run calls).store = .ok config :=
    exists_ok_of_isOk (by decide +kernel)
  obtain ⟨⟨vendor, product, hbegun, hshows⟩, _, _⟩ := run_headers calls 0 device config hdevice hcompile
  have hfirst : (begun (accepted calls))[0]? = some (0x1234, 0x5678) := by decide +kernel
  rw [hfirst] at hbegun
  cases hbegun
  refine ⟨hdevice, config, hcompile, _, hshows, ?_⟩
  decide +kernel

end Bench

end UsbCompiler
