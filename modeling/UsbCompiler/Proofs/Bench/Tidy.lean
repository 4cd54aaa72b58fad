import UsbCompiler.Proofs.Bench.Call
import UsbCompiler.Proofs.Lists
import UsbCompiler.Proofs.Session.Numbered

/-!
# `UsbCompiler.Proofs.Bench.Tidy` — what calls on a bench leave alone

Interfaces are shared: a device refers to an interface that the caller can go on changing, and several devices can
refer to the same one. What no call can touch is the number of an interface, all of an interface that is in nobody's
hands, and the places of a device other than the one that an interface is saved in.

## Contents
- `Bench.Accepts.holds`, `knows`, `holds_iff`, `get_cases`, `get_of_not_holds`, `number`, `number_of_holds`:
  interfaces.
- `Bench.Allotted`, `Accepts.saved` and `allotted`: numbers that have been given out.
- `Accepts.interfaces_cases`, `length_le`, `not_holds_next`, `place_kept` and `place_cases`: the places of devices,
  looking ahead and looking back.
- `Bench.Tidy`, `Accepts.tidy` and `run_tidy`: interfaces in the places of their numbers, after every run.
- `Bench.save_eq_ok_iff` and `state_of_saved`: what can be saved, and what that changes.
-/

namespace UsbCompiler.Bench

variable {bench next : Bench} {call : Call} {handle : Interface.Handle} {holding : Holding} {d k : Nat}
  {device after : Device}

/-! ## Interfaces -/

/-- **Tidy benches.** The caller knows all that it has in its hands, and each interface of a device is in the place of
    its number. -/
structure Tidy (bench : Bench) : Prop where
  held : ∀ handle, bench.Holds handle → bench.store.Knows handle
  numbered : ∀ device ∈ bench.devices, bench.store.Numbered device.interfaces

/-- The number of an interface is among those that a device has given out. -/
def Allotted (bench : Bench) (handle : Interface.Handle) (d : Nat) : Prop :=
  ∃ device, bench.devices[d]? = some device
    ∧ 0 ≤ (bench.store.get handle).number ∧ (bench.store.get handle).number < device.interfaces.length

theorem holds_concat_iff (hheld : next.held = bench.held ++ [holding]) :
    next.Holds handle ↔ bench.Holds handle ∨ handle = holding.handle := by
  simp only [Holds, hheld, List.map_append, List.map_cons, List.map_nil, List.mem_append, List.mem_singleton]

namespace Accepts

/-- What the caller has in its hands, it keeps. -/
theorem holds (h : Accepts bench call next) (hheld : bench.Holds handle) : next.Holds handle := by
  cases h with
  | newInterface hdevice => exact (holds_concat_iff rfl).mpr (.inl hheld)
  | makeInterface number => exact (holds_concat_iff rfl).mpr (.inl hheld)
  | newDevice hnew => exact hheld
  | setDevice hdevice hset => exact hheld
  | change hheld' hchange => exact hheld
  | save hheld' hdevice hrange halternate hendpoints => exact hheld

theorem knows (h : Accepts bench call next) (hknown : bench.store.Knows handle) : next.store.Knows handle := by
  cases h with
  | newInterface hdevice =>
    exact Interface.Store.knows_add_iff.mpr (.inl (Interface.Store.knows_add_iff.mpr (.inl hknown)))
  | makeInterface number => exact Interface.Store.knows_add_iff.mpr (.inl hknown)
  | change hheld hchange => exact Interface.Store.knows_put_iff.mpr hknown
  | newDevice hnew => exact hknown
  | setDevice hdevice hset => exact hknown
  | save hheld hdevice hrange halternate hendpoints => exact hknown

/-- The caller never gets hold of an interface that was around before. -/
theorem holds_iff (h : Accepts bench call next) (hknown : bench.store.Knows handle) :
    next.Holds handle ↔ bench.Holds handle := by
  refine ⟨fun hnext => ?_, h.holds⟩
  cases h with
  | @newInterface d device hdevice =>
    rcases (holds_concat_iff rfl).mp hnext with hheld | rfl
    · exact hheld
    · have hlater : (bench.store.add (.new device.interfaces.length)).Knows _ :=
        Interface.Store.knows_add_iff.mpr (.inl hknown)
      exact absurd hlater (Interface.Store.not_knows_next _)
  | makeInterface number =>
    rcases (holds_concat_iff rfl).mp hnext with hheld | rfl
    · exact hheld
    · exact absurd hknown (Interface.Store.not_knows_next _)
  | newDevice hnew => exact hnext
  | setDevice hdevice hset => exact hnext
  | change hheld hchange => exact hnext
  | save hheld hdevice hrange halternate hendpoints => exact hnext

/-- **The contents of an interface.** They stay as they are, or the interface is new, or this is the one that was just
    changed. -/
theorem get_cases (h : Accepts bench call next) (htidy : bench.Tidy) (handle : Interface.Handle) :
    ((∀ change, call ≠ .change handle change) ∧ next.store.get handle = bench.store.get handle)
      ∨ ((∀ change, call ≠ .change handle change) ∧ ¬bench.store.Knows handle
        ∧ ∃ number, next.store.get handle = .new number)
      ∨ ∃ change, call = .change handle change ∧ bench.Holds handle
        ∧ (bench.store.get handle).change change = .ok (next.store.get handle) := by
  cases h with
  | newDevice hnew => exact .inl ⟨nofun, rfl⟩
  | setDevice hdevice hset => exact .inl ⟨nofun, rfl⟩
  | save hheld hdevice hrange halternate hendpoints => exact .inl ⟨nofun, rfl⟩
  | makeInterface number =>
    by_cases hnext : handle = bench.store.next
    · subst hnext
      exact .inr (.inl ⟨nofun, Interface.Store.not_knows_next _, number, Interface.Store.get_add_next _ _⟩)
    · exact .inl ⟨nofun, Interface.Store.get_add_of_ne hnext _⟩
  | @newInterface d device hdevice =>
    -- The one that the device keeps comes first, the one for the caller is put on top of it.
    let added := bench.store.add (.new device.interfaces.length)
    by_cases hsecond : handle = added.next
    · subst hsecond
      have hunknown : ¬bench.store.Knows added.next := fun hknown =>
        Interface.Store.not_knows_next added (Interface.Store.knows_add_iff.mpr (.inl hknown))
      exact .inr (.inl ⟨nofun, hunknown, _, Interface.Store.get_add_next _ _⟩)
    · by_cases hfirst : handle = bench.store.next
      · subst hfirst
        have hget := Interface.Store.get_add_next bench.store (.new device.interfaces.length)
        exact .inr (.inl ⟨nofun, Interface.Store.not_knows_next _, _,
          (Interface.Store.get_add_of_ne hsecond _).trans hget⟩)
      · exact .inl ⟨nofun,
          (Interface.Store.get_add_of_ne hsecond _).trans (Interface.Store.get_add_of_ne hfirst _)⟩
  | @change other change interface hheld hchange =>
    by_cases hsame : handle = other
    · subst hsame
      refine .inr (.inr ⟨change, rfl, hheld, ?_⟩)
      rw [Interface.Store.get_put_self (htidy.held _ hheld)]
      exact hchange
    · refine .inl ⟨?_, Interface.Store.get_put_of_ne hsame _⟩
      rintro _ hcall
      cases hcall
      exact hsame rfl

/-- An interface in nobody's hands stays as it is. -/
theorem get_of_not_holds (h : Accepts bench call next) (htidy : bench.Tidy) (hknown : bench.store.Knows handle)
    (hnot : ¬bench.Holds handle) : next.store.get handle = bench.store.get handle := by
  rcases h.get_cases htidy handle with ⟨_, hsame⟩ | ⟨_, hunknown, _⟩ | ⟨_, _, hheld, _⟩
  · exact hsame
  · exact absurd hknown hunknown
  · exact absurd hheld hnot

/-- No interface ever changes its number. -/
theorem number (h : Accepts bench call next) (htidy : bench.Tidy) (hknown : bench.store.Knows handle) :
    (next.store.get handle).number = (bench.store.get handle).number := by
  rcases h.get_cases htidy handle with ⟨_, hsame⟩ | ⟨_, hunknown, _⟩ | ⟨_, _, _, hchange⟩
  · rw [hsame]
  · exact absurd hknown hunknown
  · exact Interface.number_of_change hchange

theorem number_of_holds (h : Accepts bench call next) (htidy : bench.Tidy) (hheld : bench.Holds handle) :
    (next.store.get handle).number = (bench.store.get handle).number := h.number htidy (htidy.held _ hheld)

/-! ## Places -/

/-- Only what is in hand can be saved, and only under a number that was given out. -/
theorem saved (h : Accepts bench (.save handle d) next) : bench.Holds handle ∧ bench.Allotted handle d := by
  cases h with
  | save hheld hdevice hrange halternate hendpoints => exact ⟨hheld, _, hdevice, hrange⟩

/-- **The interfaces of a device.** They stay as they are, or there is one more of them, or one was just saved under its
    number. -/
theorem interfaces_cases (h : Accepts bench call next) (hdevice : bench.devices[d]? = some device) :
    ∃ after, next.devices[d]? = some after
      ∧ ((after.interfaces = device.interfaces ∧ ∀ other, call ≠ .save other d)
        ∨ (call = .newInterface d ∧ after.interfaces = device.interfaces ++ [bench.store.next])
        ∨ ∃ other, call = .save other d
          ∧ (0 ≤ (bench.store.get other).number ∧ (bench.store.get other).number < device.interfaces.length)
          ∧ after.interfaces = device.interfaces.set (bench.store.get other).number.toNat other) := by
  have hlt : d < bench.devices.length := (List.getElem?_eq_some_iff.mp hdevice).1
  cases h with
  | newDevice hnew => exact ⟨device, (List.getElem?_append_left hlt).trans hdevice, .inl ⟨rfl, nofun⟩⟩
  | makeInterface number => exact ⟨device, hdevice, .inl ⟨rfl, nofun⟩⟩
  | change hheld hchange => exact ⟨device, hdevice, .inl ⟨rfl, nofun⟩⟩
  | @setDevice e setting found changed hfound hset =>
    by_cases hsame : e = d
    · subst hsame
      rw [hdevice] at hfound
      cases hfound
      exact ⟨changed, List.getElem?_set_self hlt, .inl ⟨(Device.frame_of_set hset).1, nofun⟩⟩
    · exact ⟨device, (List.getElem?_set_ne hsame).trans hdevice, .inl ⟨rfl, nofun⟩⟩
  | @newInterface e found hfound =>
    by_cases hsame : e = d
    · subst hsame
      rw [hdevice] at hfound
      cases hfound
      exact ⟨_, List.getElem?_set_self hlt, .inr (.inl ⟨rfl, rfl⟩)⟩
    · exact ⟨device, (List.getElem?_set_ne hsame).trans hdevice, .inl ⟨rfl, nofun⟩⟩
  | @save other e found hheld hfound hrange halternate hendpoints =>
    by_cases hsame : e = d
    · subst hsame
      rw [hdevice] at hfound
      cases hfound
      exact ⟨_, List.getElem?_set_self hlt, .inr (.inr ⟨other, rfl, hrange, rfl⟩)⟩
    · refine ⟨device, (List.getElem?_set_ne hsame).trans hdevice, .inl ⟨rfl, ?_⟩⟩
      rintro _ hcall
      cases hcall
      exact hsame rfl

/-- No device loses a place. -/
theorem length_le (h : Accepts bench call next) (hdevice : bench.devices[d]? = some device) :
    ∃ after, next.devices[d]? = some after ∧ device.interfaces.length ≤ after.interfaces.length := by
  obtain ⟨after, hafter, hcases⟩ := h.interfaces_cases hdevice
  refine ⟨after, hafter, ?_⟩
  rcases hcases with ⟨hsame, _⟩ | ⟨_, hgrown⟩ | ⟨_, _, _, hset⟩
  · exact Nat.le_of_eq (congrArg List.length hsame.symm)
  · rw [hgrown, List.length_append]
    exact Nat.le_add_right _ _
  · exact Nat.le_of_eq (by rw [hset, List.length_set])

/-- A number that has been given out stays so. -/
theorem allotted (h : Accepts bench call next) (htidy : bench.Tidy) (hheld : bench.Holds handle)
    (hallotted : bench.Allotted handle d) : next.Allotted handle d := by
  obtain ⟨device, hdevice, hnonneg, hlt⟩ := hallotted
  obtain ⟨after, hafter, hlength⟩ := h.length_le hdevice
  refine ⟨after, hafter, ?_⟩
  rw [h.number_of_holds htidy hheld]
  omega

/-- The interface by which a device holds a new number does not come into anybody's hands. -/
theorem not_holds_next (h : Accepts bench (.newInterface d) next) (htidy : bench.Tidy) :
    ¬next.Holds bench.store.next := by
  cases h with
  | @newInterface _ device hdevice =>
    intro hheld
    rcases (holds_concat_iff rfl).mp hheld with hheld | hsame
    · exact Interface.Store.not_knows_next _ (htidy.held _ hheld)
    · have hknown : (bench.store.add (.new device.interfaces.length)).Knows bench.store.next :=
        Interface.Store.knows_add_iff.mpr (.inr rfl)
      rw [hsame] at hknown
      exact Interface.Store.not_knows_next _ hknown

/-- **A place of a device** keeps its interface, unless another one with its number is saved. -/
theorem place_kept (h : Accepts bench call next) (hdevice : bench.devices[d]? = some device)
    (hplace : device.interfaces[k]? = some handle)
    (hspared : ∀ other, call = .save other d → (bench.store.get other).number ≠ (k : Int)) :
    ∃ after, next.devices[d]? = some after ∧ after.interfaces[k]? = some handle := by
  obtain ⟨after, hafter, hcases⟩ := h.interfaces_cases hdevice
  refine ⟨after, hafter, ?_⟩
  rcases hcases with ⟨hsame, _⟩ | ⟨_, hgrown⟩ | ⟨other, hcall, hrange, hset⟩
  · rw [hsame, hplace]
  · rw [hgrown, List.getElem?_append_left (List.getElem?_eq_some_iff.mp hplace).1, hplace]
  · have hnumber := hspared other hcall
    rw [hset, List.getElem?_set_ne (by omega), hplace]

/-- **Where an interface of a device comes from.** It was in its place before and stays there, or the place is new and
    the interface as well, or it was just saved. -/
theorem place_cases (h : Accepts bench call next) (hafter : next.devices[d]? = some after)
    (hplace : after.interfaces[k]? = some handle) :
    (∃ device, bench.devices[d]? = some device ∧ device.interfaces[k]? = some handle
        ∧ ∀ other, call = .save other d → (bench.store.get other).number ≠ (k : Int))
      ∨ (∃ device, bench.devices[d]? = some device ∧ k = device.interfaces.length ∧ handle = bench.store.next
        ∧ call = .newInterface d)
      ∨ call = .save handle d ∧ (bench.store.get handle).number = (k : Int) := by
  cases hdevice : bench.devices[d]? with
  | none =>
    -- Only a new device was not there before, and it has no places.
    cases h with
    | newDevice hnew =>
      rcases getElem?_concat_cases hafter with hfound | ⟨_, rfl⟩
      · rw [hdevice] at hfound
        cases hfound
      · rw [Device.interfaces_of_new hnew] at hplace
        cases hplace
    | makeInterface number | change hheld hchange =>
      rw [hdevice] at hafter
      cases hafter
    | setDevice hfound hset | newInterface hfound | save hheld hfound hrange halternate hendpoints =>
      rcases getElem?_set_cases hafter with ⟨_, hsome⟩ | ⟨rfl, _⟩
      · rw [hdevice] at hsome
        cases hsome
      · rw [hdevice] at hfound
        cases hfound
  | some device =>
    obtain ⟨found, hfound, hcases⟩ := h.interfaces_cases hdevice
    rw [hafter] at hfound
    cases hfound
    rcases hcases with ⟨hsame, hother⟩ | ⟨hcall, hgrown⟩ | ⟨other, hcall, hrange, hset⟩
    · rw [hsame] at hplace
      exact .inl ⟨device, rfl, hplace, fun other hcall => absurd hcall (hother other)⟩
    · rw [hgrown] at hplace
      rcases getElem?_concat_cases hplace with hplace | ⟨hk, rfl⟩
      · subst hcall
        exact .inl ⟨device, rfl, hplace, nofun⟩
      · exact .inr (.inl ⟨device, rfl, hk, rfl, hcall⟩)
    · rw [hset] at hplace
      subst hcall
      rcases getElem?_set_cases hplace with ⟨hne, hplace⟩ | ⟨hk, rfl⟩
      · refine .inl ⟨device, rfl, hplace, ?_⟩
        rintro _ hcall
        cases hcall
        omega
      · exact .inr (.inr ⟨rfl, by omega⟩)

/-! ## Tidy benches -/

/-- **One call** leaves a tidy bench tidy. -/
theorem tidy (h : Accepts bench call next) (htidy : bench.Tidy) : next.Tidy where
  held := by
    intro handle hheld
    cases h with
    | newInterface hdevice =>
      rcases (holds_concat_iff rfl).mp hheld with hheld | rfl
      · exact Interface.Store.knows_add_iff.mpr (.inl (Interface.Store.knows_add_iff.mpr (.inl (htidy.held _ hheld))))
      · exact Interface.Store.knows_add_iff.mpr (.inr rfl)
    | makeInterface number =>
      rcases (holds_concat_iff rfl).mp hheld with hheld | rfl
      · exact Interface.Store.knows_add_iff.mpr (.inl (htidy.held _ hheld))
      · exact Interface.Store.knows_add_iff.mpr (.inr rfl)
    | change hheld' hchange => exact Interface.Store.knows_put_iff.mpr (htidy.held _ hheld)
    | newDevice hnew => exact htidy.held _ hheld
    | setDevice hdevice hset => exact htidy.held _ hheld
    | save hheld' hdevice hrange halternate hendpoints => exact htidy.held _ hheld
  numbered := by
    intro after hafter k handle hplace
    obtain ⟨d, hd⟩ := List.mem_iff_getElem?.mp hafter
    rcases h.place_cases hd hplace with ⟨device, hdevice, hplace, _⟩ | ⟨device, hdevice, rfl, rfl, rfl⟩ | ⟨rfl, hnumber⟩
    · obtain ⟨hknown, hnumber⟩ := htidy.numbered device (List.mem_of_getElem? hdevice) k handle hplace
      exact ⟨h.knows hknown, (h.number htidy hknown).trans hnumber⟩
    · cases h with
      | @newInterface _ found hfound =>
        rw [hdevice] at hfound
        cases hfound
        have hknown : (bench.store.add (.new device.interfaces.length)).Knows bench.store.next :=
          Interface.Store.knows_add_iff.mpr (.inr rfl)
        refine ⟨Interface.Store.knows_add_iff.mpr (.inl hknown), ?_⟩
        rw [Interface.Store.get_add hknown, Interface.Store.get_add_next]
        rfl
    · cases h with
      | save hheld hfound hrange halternate hendpoints => exact ⟨htidy.held _ hheld, hnumber⟩

end Accepts

/-! ## Saving -/

/-- What somebody has in hand can be saved under a number that the device has given out, if it has no alternate setting
    and an endpoint. -/
theorem save_eq_ok_iff :
    (bench.perform (.save handle d)).result = .ok ()
      ↔ bench.Holds handle ∧ bench.Allotted handle d ∧ (bench.store.get handle).header.alternateSetting = 0
        ∧ (bench.store.get handle).endpoints ≠ [] := by
  constructor
  · intro h
    have haccepts := accepts_of_perform h
    generalize (bench.perform (.save handle d)).state = next at haccepts
    cases haccepts with
    | save hheld hdevice hrange halternate hendpoints => exact ⟨hheld, ⟨_, hdevice, hrange⟩, halternate, hendpoints⟩
  · rintro ⟨hheld, ⟨device, hdevice, hrange⟩, halternate, hendpoints⟩
    have hattempt := attempt_save hheld hdevice
    rw [Device.adopt_eq_ok_iff.mpr ⟨hrange, halternate, hendpoints, rfl⟩] at hattempt
    rw [perform_of_ok hattempt]
    rfl

/-- A save changes one place of one device. -/
theorem state_of_saved (h : (bench.perform (.save handle d)).result = .ok ()) :
    ∃ (device : Device) (k : Nat), bench.devices[d]? = some device ∧ k < device.interfaces.length
      ∧ (bench.store.get handle).number = (k : Int)
      ∧ (bench.perform (.save handle d)).state = { bench with
        devices := bench.devices.set d { device with interfaces := device.interfaces.set k handle } } := by
  have haccepts := accepts_of_perform h
  generalize (bench.perform (.save handle d)).state = next at haccepts
  cases haccepts with
  | save hheld hdevice hrange halternate hendpoints => exact ⟨_, _, hdevice, by omega, by omega, rfl⟩

/-! ## Runs -/

theorem tidy_empty : empty.Tidy where
  held := fun _ hheld => absurd hheld List.not_mem_nil
  numbered := List.forall_mem_nil _

/-- **All runs** leave the bench tidy. -/
theorem run_tidy (calls : List Call) : (run calls).Tidy :=
  @accepted_keeps (fun _ bench => bench.Tidy) tidy_empty (fun _ _ _ _ htidy haccepts => haccepts.tidy htidy) calls

end UsbCompiler.Bench
