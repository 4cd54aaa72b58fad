import UsbCompiler.Proofs.Bench.Places

/-!
# `UsbCompiler.Proofs.Bench.Alternate` — alternate settings that slip through

An interface with an alternate setting cannot be saved. But an interface that has been saved is still in the hands of
the caller, and nothing is checked again when the device is compiled: what the host reads is the alternate setting that
the interface was given last, before the save or after it.

## Contents
- `Bench.Call.alternateSetting?` and `Bench.lastAlternate`: the alternate settings in a run.
- `Accepts.alternateSetting` and `run_lastAlternate`: interfaces have the last one.
- `Bench.Settled` and `run_settled`: runs in which saved interfaces get no other one.
- `run_alternateSettings`: what is compiled.
-/

namespace UsbCompiler.Bench

variable {past : List Call} {bench next : Bench} {call : Call} {handle : Interface.Handle} {d : Nat}

/-! ## The last alternate setting -/

/-- The alternate setting that a call gives to an interface. -/
def Call.alternateSetting? (handle : Interface.Handle) : Call → Option Int
  | .change other (.setting (.alternateSetting value)) => if other = handle then some value else none
  | _ => none

theorem Call.alternateSetting?_eq_some_iff {value : Int} :
    call.alternateSetting? handle = some value ↔ call = .change handle (.setting (.alternateSetting value)) := by
  constructor
  · intro h
    unfold alternateSetting? at h
    split at h
    · split at h
      · next hsame =>
        cases h
        rw [hsame]
      · cases h
    · cases h
  · rintro rfl
    exact if_pos rfl

/-- The alternate setting that an interface was given last. It begins with none, which is number 0. -/
def lastAlternate (calls : List Call) (handle : Interface.Handle) : Int :=
  (calls.filterMap (Call.alternateSetting? handle)).getLastD 0

theorem lastAlternate_concat (past : List Call) (call : Call) (handle : Interface.Handle) :
    lastAlternate (past ++ [call]) handle = (call.alternateSetting? handle).getD (lastAlternate past handle) := by
  rw [lastAlternate, filterMap_concat]
  cases call.alternateSetting? handle with
  | none => rw [Option.toList_none, List.append_nil, Option.getD_none, lastAlternate]
  | some value => rw [Option.toList_some, List.getLastD_concat, Option.getD_some]

/-- A change to an interface gives it the alternate setting that it names, if it names one. -/
theorem alternateSetting_of_change {interface after : Interface} {change : Interface.Change}
    (h : interface.change change = .ok after) (handle : Interface.Handle) :
    after.header.alternateSetting
      = ((Call.change handle change).alternateSetting? handle).getD interface.header.alternateSetting := by
  cases change with
  | setting setting =>
    cases setting with
    | alternateSetting value =>
      obtain ⟨_, hcheck, rfl⟩ := map_eq_ok_iff.mp h
      obtain ⟨_, rfl⟩ := ByteSetting.check_eq_ok_iff.mp hcheck
      rw [Call.alternateSetting?_eq_some_iff.mpr rfl, Option.getD_some]
    | classCode value | subClass value | protocol value =>
      obtain ⟨_, _, rfl⟩ := map_eq_ok_iff.mp h
      rfl
    | string source =>
      cases h
      rfl
  | extra type data =>
    obtain ⟨_, rfl⟩ := Interface.addExtra_eq_ok_iff.mp h
    rfl
  | endpoint source =>
    obtain ⟨_, _, rfl⟩ := Interface.addEndpoint_eq_ok_iff.mp h
    rfl

/-- **One call.** New interfaces have the alternate setting that unknown ones stand for. -/
theorem Accepts.alternateSetting (h : Accepts bench call next) (htidy : bench.Tidy) (handle : Interface.Handle) :
    (next.store.get handle).header.alternateSetting
      = (call.alternateSetting? handle).getD (bench.store.get handle).header.alternateSetting := by
  have hnone (hother : ∀ change, call ≠ .change handle change) : call.alternateSetting? handle = none :=
    Option.eq_none_iff_forall_ne_some.mpr fun _ hsome => hother _ (Call.alternateSetting?_eq_some_iff.mp hsome)
  rcases h.get_cases htidy handle with ⟨hother, hsame⟩ | ⟨hother, hunknown, number, hnew⟩ | ⟨change, rfl, _, hchange⟩
  · rw [hnone hother, hsame, Option.getD_none]
  · rw [hnone hother, hnew, Interface.Store.get_of_not_knows hunknown]
    rfl
  · exact alternateSetting_of_change hchange handle

/-- **All runs.** -/
theorem run_lastAlternate (calls : List Call) (handle : Interface.Handle) :
    ((run calls).store.get handle).header.alternateSetting = lastAlternate (accepted calls) handle := by
  refine (@accepted_keeps (fun past bench => bench.Tidy
    ∧ ∀ handle, (bench.store.get handle).header.alternateSetting = lastAlternate past handle)
    ⟨tidy_empty, fun _ => rfl⟩ ?_ calls).2 handle
  rintro past bench call next ⟨htidy, halternate⟩ haccepts
  refine ⟨haccepts.tidy htidy, fun handle => ?_⟩
  rw [haccepts.alternateSetting htidy, lastAlternate_concat, halternate]

/-! ## Settled runs -/

/-- **Settled runs.** Once an interface has been saved into a device, it gets no alternate setting but 0. -/
def Settled (calls : List Call) (d : Nat) : Prop :=
  ∀ (earlier later : List Call) (handle : Interface.Handle) (value : Int), calls = earlier ++ later →
    .save handle d ∈ earlier → .change handle (.setting (.alternateSetting value)) ∈ later → value = 0

theorem Settled.of_concat (h : Settled (past ++ [call]) d) : Settled past d := by
  intro earlier later handle value hsplit hsaved hchanged
  refine h earlier (later ++ [call]) handle value ?_ hsaved (List.mem_append_left _ hchanged)
  rw [hsplit, List.append_assoc]

/-- What has been saved in a settled run still has no alternate setting at its end. -/
theorem run_settled {calls : List Call} (hsettled : Settled (accepted calls) d)
    (hsaved : .save handle d ∈ accepted calls) : ((run calls).store.get handle).header.alternateSetting = 0 := by
  refine (@accepted_keeps (fun past bench => bench.Tidy ∧ (Settled past d → ∀ handle, .save handle d ∈ past →
    (bench.store.get handle).header.alternateSetting = 0)) ⟨tidy_empty, nofun⟩ ?_ calls).2 hsettled handle hsaved
  rintro past bench call next ⟨htidy, hzero⟩ haccepts
  refine ⟨haccepts.tidy htidy, fun hsettled handle hmem => ?_⟩
  rcases List.mem_append.mp hmem with hpast | hcall
  · rw [haccepts.alternateSetting htidy, hzero hsettled.of_concat handle hpast]
    cases hgiven : call.alternateSetting? handle with
    | none => rfl
    | some value =>
      have hchange := Call.alternateSetting?_eq_some_iff.mp hgiven
      exact hsettled past [call] handle value rfl hpast (List.mem_singleton.mpr hchange.symm)
  · obtain rfl := List.mem_singleton.mp hcall
    cases haccepts with
    | save hheld hdevice hrange halternate hendpoints => exact halternate

/-! ## Compiled devices -/

/-- **Alternate settings on the wire.** A compiled device shows the alternate settings that its interfaces were given
    last. All of them are 0 exactly if each last one is, and they are whenever no interface got another one after it had
    been saved into the device. -/
theorem run_alternateSettings (calls : List Call) (d : Nat) (device : Device) (config : CompiledDevice)
    (hdevice : (run calls).devices[d]? = some device) (hcompile : device.compile (run calls).store = .ok config) :
    ∃ head blocks, device.ReadsAs (run calls).store config head blocks
      ∧ blocks.map InterfaceRecords.alternateSetting?
        = device.interfaces.map (fun handle => some (lastAlternate (accepted calls) handle))
      ∧ ((∀ records ∈ blocks, records.alternateSetting? = some 0)
        ↔ ∀ handle ∈ device.interfaces, lastAlternate (accepted calls) handle = 0)
      ∧ (Settled (accepted calls) d → ∀ records ∈ blocks, records.alternateSetting? = some 0) := by
  obtain ⟨head, blocks, hreads⟩ := Device.exists_readsAs hcompile
  have hlast : blocks.map InterfaceRecords.alternateSetting?
      = device.interfaces.map (fun handle => some (lastAlternate (accepted calls) handle)) := by
    have hblocks : (device.interfaces.map (run calls).store.get).map (fun interface =>
        some interface.header.alternateSetting) = blocks.map InterfaceRecords.alternateSetting? :=
      map_eq_of_forall₂ hreads.2 fun _ _ hdescribes => hdescribes.alternateSetting?_eq.symm
    rw [← hblocks, List.map_map]
    exact List.map_congr_left fun handle _ => congrArg some (run_lastAlternate calls handle)
  have hzero : (∀ records ∈ blocks, records.alternateSetting? = some 0)
      ↔ ∀ handle ∈ device.interfaces, lastAlternate (accepted calls) handle = 0 := by
    rw [← List.forall_mem_map (P := fun setting => setting = some (0 : Int)), hlast, List.forall_mem_map]
    simp only [Option.some.injEq]
  refine ⟨head, blocks, hreads, hlast, hzero, fun hsettled => hzero.mpr fun handle hhandle => ?_⟩
  obtain ⟨k, hk, rfl⟩ := List.getElem_of_mem hhandle
  rw [← run_lastAlternate]
  rcases (run_traced calls).places d device k _ hdevice (List.getElem?_eq_getElem hk) with hsaved | ⟨hnot, _⟩
  · exact run_settled hsettled hsaved
  · obtain ⟨number, hget⟩ := (run_traced calls).untouched _ hnot
    rw [hget]
    rfl

/-- An alternate setting that is taken back after a refused save, and a change to another property after the save. -/
theorem run_alternateSettings_back :
    let calls : List Call := [.newDevice 0x1234 0x5678, .newInterface 0,
      .change ⟨1⟩ (.endpoint (.descriptor ⟨⟨1, .toHost, by decide⟩, 2, 64, 0⟩)),
      .change ⟨1⟩ (.setting (.alternateSetting 1)), .save ⟨1⟩ 0, .change ⟨1⟩ (.setting (.alternateSetting 0)),
      .save ⟨1⟩ 0, .change ⟨1⟩ (.setting (.classCode 3))]
    let device : Device :=
      { header := { vendor := 0x1234, product := 0x5678, release := 0x0010 }, interfaces := [⟨1⟩] }
    (run calls).devices[0]? = some device
      ∧ ∃ config, device.compile (run calls).store = .ok config
        ∧ ∃ head blocks, device.ReadsAs (run calls).store config head blocks
          ∧ ∀ records ∈ blocks, records.alternateSetting? = some 0 := by
  intro calls device
  have hdevice : (run calls).devices[0]? = some device := by decide +kernel
  obtain ⟨config, hcompile⟩ : ∃ config, device.compile (run calls).store = .ok config :=
    exists_ok_of_isOk (by decide +kernel)
  obtain ⟨head, blocks, hreads, _, hzero, _⟩ := run_alternateSettings calls 0 device config hdevice hcompile
  exact ⟨hdevice, config, hcompile, head, blocks, hreads, hzero.mpr (by decide +kernel)⟩

/-- An alternate setting that comes after the save reaches the host. -/
theorem run_alternateSettings_late :
    let calls : List Call := [.newDevice 0x1234 0x5678, .newInterface 0,
      .change ⟨1⟩ (.endpoint (.descriptor ⟨⟨1, .toHost, by decide⟩, 2, 64, 0⟩)), .save ⟨1⟩ 0,
      .change ⟨1⟩ (.setting (.alternateSetting 1))]
    let device : Device :=
      { header := { vendor := 0x1234, product := 0x5678, release := 0x0010 }, interfaces := [⟨1⟩] }
    accepted calls = calls ∧ (run calls).devices[0]? = some device
      ∧ ∃ config, device.compile (run calls).store = .ok config
        ∧ ∃ head blocks, device.ReadsAs (run calls).store config head blocks
          ∧ ∃ records ∈ blocks, records.alternateSetting? = some 1 := by
  intro calls device
  refine ⟨by decide +kernel, by decide +kernel, ?_⟩
  obtain ⟨config, hcompile⟩ : ∃ config, device.compile (run calls).store = .ok config :=
    exists_ok_of_isOk (by decide +kernel)
  obtain ⟨head, blocks, hreads⟩ := Device.exists_readsAs hcompile
  obtain ⟨records, hrecords, hdescribes⟩ := exists_of_forall₂ hreads.2 List.mem_cons_self
  refine ⟨config, hcompile, head, blocks, hreads, records, hrecords, ?_⟩
  rw [hdescribes.alternateSetting?_eq]
  exact congrArg some (by decide +kernel : ((run calls).store.get ⟨1⟩).header.alternateSetting = 1)

end UsbCompiler.Bench
