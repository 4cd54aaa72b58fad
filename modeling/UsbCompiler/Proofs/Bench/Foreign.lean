import UsbCompiler.Proofs.Bench.Tidy

/-!
# `UsbCompiler.Proofs.Bench.Foreign` — interfaces of other devices

An interface knows its number, but not the device that gave the number out. So a device that is asked to take in an
interface of another device can only look at the number: it refuses numbers that it has not given out itself, and takes
the interface for one of its own otherwise.

## Contents
- `Bench.Owned`, `Accepts.owned` and `run_owned`: each interface in hand has one owner, which has given out its number.
- `Device.kind_of_adopt` and `kind_of_refused_save`: refused interfaces.
- `Bench.run_foreign`: what becomes of an interface that is saved into another device.
-/

namespace UsbCompiler

/-- A device refuses an interface for the way in which it was configured. -/
theorem Device.kind_of_adopt {device : Device} {store : Interface.Store} {handle : Interface.Handle} {e : Error}
    (h : device.adopt store handle = .error e) : e.kind = .configuration := by
  unfold adopt at h
  simp only at h
  split at h
  · cases h
    rfl
  · split at h
    · cases h
      rfl
    · split at h
      · cases h
        rfl
      · cases h

namespace Bench

variable {bench next : Bench} {call : Call} {handle : Interface.Handle} {d : Nat} {device : Device}

/-! ## Owners -/

/-- **Owners.** No interface comes into hand twice, and the number of one that a device has given out is in the range of
    the numbers of this device. -/
structure Owned (bench : Bench) : Prop where
  tidy : bench.Tidy
  distinct : (bench.held.map Holding.handle).Nodup
  owned : ∀ (handle : Interface.Handle) (a : Nat), ⟨handle, some a⟩ ∈ bench.held → bench.Allotted handle a

theorem Owned.holds {handle : Interface.Handle} {owner : Option Nat} (hheld : ⟨handle, owner⟩ ∈ bench.held) :
    bench.Holds handle := List.mem_map_of_mem hheld

/-- An interface in hand has one owner. -/
theorem Owned.owner_eq (h : Owned bench) {handle : Interface.Handle} {one other : Option Nat}
    (hone : ⟨handle, one⟩ ∈ bench.held) (hother : ⟨handle, other⟩ ∈ bench.held) : one = other :=
  congrArg Holding.owner (List.inj_on_of_nodup_map h.distinct hone hother rfl)

/-- One more interface, which nobody had in hand. -/
theorem Owned.distinct_concat (h : Owned bench) {holding : Holding} (hnew : ¬bench.Holds holding.handle) :
    ((bench.held ++ [holding]).map Holding.handle).Nodup := by
  rw [List.map_append, List.map_singleton]
  exact List.concat_eq_append ▸ h.distinct.concat hnew

/-- **One call.** -/
theorem Accepts.owned (h : Accepts bench call next) (howned : Owned bench) : Owned next := by
  -- What had an owner before has it still.
  have hkept (handle : Interface.Handle) (a : Nat) (hheld : ⟨handle, some a⟩ ∈ bench.held) : next.Allotted handle a :=
    h.allotted howned.tidy (Owned.holds hheld) (howned.owned handle a hheld)
  have htidy := h.tidy howned.tidy
  cases h with
  | newDevice hnew => exact ⟨htidy, howned.distinct, hkept⟩
  | setDevice hdevice hset => exact ⟨htidy, howned.distinct, hkept⟩
  | change hheld hchange => exact ⟨htidy, howned.distinct, hkept⟩
  | save hheld hdevice hrange halternate hendpoints => exact ⟨htidy, howned.distinct, hkept⟩
  | makeInterface number =>
    refine ⟨htidy, howned.distinct_concat fun hheld => ?_, fun handle a hmem => ?_⟩
    · exact Interface.Store.not_knows_next _ (howned.tidy.held _ hheld)
    · rcases List.mem_append.mp hmem with hbefore | hnew
      · exact hkept handle a hbefore
      · cases List.mem_singleton.mp hnew
  | @newInterface d device hdevice =>
    let added := bench.store.add (.new device.interfaces.length)
    refine ⟨htidy, howned.distinct_concat fun hheld => ?_, fun handle a hmem => ?_⟩
    · have hknown : added.Knows added.next :=
        Interface.Store.knows_add_iff.mpr (.inl (howned.tidy.held _ hheld))
      exact Interface.Store.not_knows_next _ hknown
    · rcases List.mem_append.mp hmem with hbefore | hnew
      · exact hkept handle a hbefore
      · -- The number of the new interface is the last one that the device has given out.
        cases List.mem_singleton.mp hnew
        have hlt : d < bench.devices.length := (List.getElem?_eq_some_iff.mp hdevice).1
        refine ⟨_, List.getElem?_set_self hlt, ?_⟩
        show 0 ≤ ((added.add (.new device.interfaces.length)).get added.next).number
          ∧ ((added.add (.new device.interfaces.length)).get added.next).number
            < (device.interfaces ++ [bench.store.next]).length
        rw [Interface.Store.get_add_next, List.length_append, List.length_singleton]
        show 0 ≤ (device.interfaces.length : Int)
          ∧ (device.interfaces.length : Int) < (device.interfaces.length + 1 : Nat)
        omega

theorem owned_empty : Owned empty where
  tidy := tidy_empty
  distinct := List.nodup_nil
  owned := fun _ _ hmem => absurd hmem List.not_mem_nil

/-- **All runs.** -/
theorem run_owned (calls : List Call) : Owned (run calls) :=
  @accepted_keeps (fun _ bench => Owned bench) owned_empty (fun _ _ _ _ howned haccepts => haccepts.owned howned) calls

/-! ## Saving into another device -/

/-- What a device refuses to take is refused for the way in which it was configured. -/
theorem kind_of_refused_save (hheld : bench.Holds handle) (hdevice : bench.devices[d]? = some device) {e : Error}
    (h : (bench.perform (.save handle d)).result = .error e) : e.kind = .configuration := by
  have hattempt := attempt_save hheld hdevice
  cases hadopt : device.adopt bench.store handle with
  | ok after =>
    rw [hadopt] at hattempt
    rw [perform_of_ok hattempt] at h
    cases h
  | error found =>
    rw [hadopt] at hattempt
    rw [perform_of_error hattempt] at h
    cases h
    exact Device.kind_of_adopt hadopt

/-- **Foreign interfaces.** A device refuses an interface that another device has given out exactly if the number is not
    one of its own, if the interface has an alternate setting, or if it has no endpoints; nothing changes then.
    Otherwise it takes the interface, which it has not given out, in the place of its own one. -/
theorem run_foreign (calls : List Call) {handle : Interface.Handle} {a b : Nat} {device : Device}
    (hheld : ⟨handle, some a⟩ ∈ (run calls).held) (hforeign : b ≠ a)
    (hdevice : (run calls).devices[b]? = some device) :
    let bench := run calls
    let interface := bench.store.get handle
    let outcome := bench.perform (.save handle b)
    let fits := interface.number < device.interfaces.length ∧ interface.header.alternateSetting = 0
      ∧ interface.endpoints ≠ []
    ((∃ e, outcome.result = .error e ∧ e.kind = .configuration ∧ outcome.state = bench) ↔ ¬fits)
      ∧ (fits → outcome.result = .ok () ∧ ⟨handle, some b⟩ ∉ bench.held
        ∧ ∃ k < device.interfaces.length, interface.number = (k : Int)
          ∧ outcome.state = { bench with
            devices := bench.devices.set b { device with interfaces := device.interfaces.set k handle } }) := by
  intro bench interface outcome fits
  obtain ⟨_, _, hnonneg, _⟩ := (run_owned calls).owned handle a hheld
  have hok : outcome.result = .ok () ↔ fits := by
    rw [save_eq_ok_iff]
    constructor
    · rintro ⟨_, ⟨found, hfound, _, hlt⟩, halternate, hendpoints⟩
      rw [hdevice] at hfound
      cases hfound
      exact ⟨hlt, halternate, hendpoints⟩
    · rintro ⟨hlt, halternate, hendpoints⟩
      exact ⟨Owned.holds hheld, ⟨device, hdevice, hnonneg, hlt⟩, halternate, hendpoints⟩
  constructor
  · constructor
    · rintro ⟨e, herror, _⟩ hfits
      exact absurd (herror.symm.trans (hok.mpr hfits)) nofun
    · intro hunfit
      cases hresult : outcome.result with
      | ok a => exact absurd (hok.mp hresult) hunfit
      | error e => exact ⟨e, rfl, kind_of_refused_save (Owned.holds hheld) hdevice hresult, state_of_refused hresult⟩
  · intro hfits
    refine ⟨hok.mpr hfits, ?_, ?_⟩
    · intro hsecond
      exact hforeign (Option.some.inj ((run_owned calls).owner_eq hsecond hheld))
    · obtain ⟨found, k, hfound, hk, hnumber, hstate⟩ := state_of_saved (hok.mpr hfits)
      rw [hdevice] at hfound
      cases hfound
      exact ⟨k, hk, hnumber, hstate⟩

/-- A device with one interface is asked to take the second one of another device. -/
theorem run_foreign_second :
    let calls : List Call := [.newDevice 0x1234 0x5678, .newDevice 0x1234 0x5679, .newInterface 0, .newInterface 0,
      .newInterface 1, .change ⟨3⟩ (.endpoint (.descriptor ⟨⟨1, .toHost, by decide⟩, 2, 64, 0⟩))]
    let device : Device :=
      { header := { vendor := 0x1234, product := 0x5679, release := 0x0010 }, interfaces := [⟨4⟩] }
    ⟨⟨3⟩, some 0⟩ ∈ (run calls).held ∧ (run calls).devices[1]? = some device
      ∧ ∃ e, ((run calls).perform (.save ⟨3⟩ 1)).result = .error e ∧ e.kind = .configuration
        ∧ ((run calls).perform (.save ⟨3⟩ 1)).state = run calls := by
  intro calls device
  have hheld : ⟨⟨3⟩, some 0⟩ ∈ (run calls).held := by decide +kernel
  have hdevice : (run calls).devices[1]? = some device := by decide +kernel
  exact ⟨hheld, hdevice, (run_foreign calls hheld (by decide) hdevice).1.mpr (by decide +kernel)⟩

/-- Asked for the first one, it gives up its own. -/
theorem run_foreign_first :
    let calls : List Call := [.newDevice 0x1234 0x5678, .newDevice 0x1234 0x5679, .newInterface 0, .newInterface 1,
      .change ⟨1⟩ (.endpoint (.descriptor ⟨⟨1, .toHost, by decide⟩, 2, 64, 0⟩))]
    let device : Device :=
      { header := { vendor := 0x1234, product := 0x5679, release := 0x0010 }, interfaces := [⟨2⟩] }
    ⟨⟨1⟩, some 0⟩ ∈ (run calls).held ∧ (run calls).devices[1]? = some device
      ∧ ((run calls).perform (.save ⟨1⟩ 1)).result = .ok ()
      ∧ ((run calls).perform (.save ⟨1⟩ 1)).state.devices[1]? = some { device with interfaces := [⟨1⟩] } := by
  intro calls device
  have hattempt : (run calls).attempt (.save ⟨1⟩ 1)
      = .ok { run calls with devices := (run calls).devices.set 1 { device with interfaces := [⟨1⟩] } } := by rfl
  rw [perform_of_ok hattempt]
  exact ⟨by decide +kernel, by decide +kernel, rfl, by decide +kernel⟩

end Bench

end UsbCompiler
