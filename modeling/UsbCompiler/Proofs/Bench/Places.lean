import UsbCompiler.Proofs.Bench.Tidy
import UsbCompiler.Proofs.Descriptor.Blocks

/-!
# `UsbCompiler.Proofs.Bench.Places` — dense numbers in any order

Interfaces come into a device late, repeatedly and in any order, and can still be changed afterwards. What stands in the
place of a number is all the same the last one that was saved under it, or the empty interface that has held the number
since it was given out. A compiled device shows only what its interfaces contain, so that the order in which they were
saved leaves no trace.

## Contents
- `Bench.Traced`, `Accepts.traced` and `run_traced`: where the interfaces of a device come from.
- `Bench.Saved`, `get_place_cases` and `interfaces_eq`: what was saved decides what the interfaces are.
- `Bench.run_places`: all runs.
-/

namespace UsbCompiler.Bench

variable {past : List Call} {bench next : Bench} {call : Call} {handle : Interface.Handle} {d k : Nat}
  {device : Device}

/-! ## Where interfaces come from -/

/-- **Traced benches.** What was saved under a number that was given out fills the place of its number. Until then an
    empty interface holds it, which the caller never gets hold of. -/
structure Traced (past : List Call) (bench : Bench) : Prop where
  tidy : bench.Tidy
  untouched : ∀ handle, ¬bench.Holds handle → ∃ number, bench.store.get handle = .new number
  saved : ∀ (handle : Interface.Handle) (d : Nat), .save handle d ∈ past →
    bench.Holds handle ∧ bench.Allotted handle d
  places : ∀ (d : Nat) (device : Device) (k : Nat) (handle : Interface.Handle), bench.devices[d]? = some device →
    device.interfaces[k]? = some handle → .save handle d ∈ past
      ∨ ¬bench.Holds handle ∧ ∀ other, .save other d ∈ past → (bench.store.get other).number ≠ (k : Int)

/-- **One call.** -/
theorem Accepts.traced (h : Accepts bench call next) (htraced : Traced past bench) : Traced (past ++ [call]) next := by
  -- All that has been saved by now was in hand and in range before the call.
  have hsaved (handle : Interface.Handle) (d : Nat) (hmem : .save handle d ∈ past ++ [call]) :
      bench.Holds handle ∧ bench.Allotted handle d := by
    rcases List.mem_append.mp hmem with hpast | hcall
    · exact htraced.saved handle d hpast
    · obtain rfl := List.mem_singleton.mp hcall
      exact h.saved
  refine ⟨h.tidy htraced.tidy, ?_, ?_, ?_⟩
  · intro handle hnot
    have hbefore : ¬bench.Holds handle := fun hheld => hnot (h.holds hheld)
    rcases h.get_cases htraced.tidy handle with ⟨_, hsame⟩ | ⟨_, _, hnew⟩ | ⟨_, _, hheld, _⟩
    · rw [hsame]
      exact htraced.untouched handle hbefore
    · exact hnew
    · exact absurd hheld hbefore
  · intro handle d hmem
    obtain ⟨hheld, hallotted⟩ := hsaved handle d hmem
    exact ⟨h.holds hheld, h.allotted htraced.tidy hheld hallotted⟩
  · intro d after k handle hafter hplace
    rcases h.place_cases hafter hplace with ⟨device, hdevice, hplace, hspared⟩ | ⟨device, hdevice, hk, hnew, hcall⟩
      | ⟨rfl, _⟩
    · rcases htraced.places d device k handle hdevice hplace with hpast | ⟨hnot, hothers⟩
      · exact .inl (List.mem_append_left _ hpast)
      · have hknown := (htraced.tidy.numbered device (List.mem_of_getElem? hdevice) k handle hplace).1
        refine .inr ⟨fun hheld => hnot ((h.holds_iff hknown).mp hheld), fun other hmem => ?_⟩
        rw [h.number_of_holds htraced.tidy (hsaved other d hmem).1]
        rcases List.mem_append.mp hmem with hpast | hcall
        · exact hothers other hpast
        · exact hspared other (List.mem_singleton.mp hcall).symm
    · subst hk hnew hcall
      refine .inr ⟨h.not_holds_next htraced.tidy, fun other hmem => ?_⟩
      -- The number is new, and what was saved had a number that was given out.
      obtain ⟨hheld, found, hfound, _, hlt⟩ := hsaved other d hmem
      rw [hdevice] at hfound
      cases hfound
      rw [h.number_of_holds htraced.tidy hheld]
      omega
    · exact .inl (List.mem_append_right _ (List.mem_singleton_self _))

theorem traced_empty : Traced [] empty where
  tidy := tidy_empty
  untouched := fun _ _ => ⟨0, rfl⟩
  saved := fun _ _ hmem => absurd hmem List.not_mem_nil
  places := by
    intro d device k handle hdevice
    exact absurd (List.mem_of_getElem? hdevice) List.not_mem_nil

/-- **All runs.** -/
theorem run_traced (calls : List Call) : Traced (accepted calls) (run calls) :=
  accepted_keeps traced_empty (fun _ _ _ _ htraced haccepts => haccepts.traced htraced) calls

/-! ## What was saved -/

/-- The contents, at the end of a run, of an interface that was saved into a device. -/
def Saved (calls : List Call) (d : Nat) (interface : Interface) : Prop :=
  ∃ handle, .save handle d ∈ accepted calls ∧ (run calls).store.get handle = interface

/-- In each place stands what was saved under its number, or the empty interface with its number if nothing was. -/
theorem get_place_cases {calls : List Call} (hdevice : (run calls).devices[d]? = some device)
    (hplace : device.interfaces[k]? = some handle) :
    (Saved calls d ((run calls).store.get handle) ∧ ((run calls).store.get handle).number = (k : Int))
      ∨ (run calls).store.get handle = .new k
        ∧ ∀ interface, Saved calls d interface → interface.number ≠ (k : Int) := by
  have htraced := run_traced calls
  have hnumber := (htraced.tidy.numbered device (List.mem_of_getElem? hdevice) k handle hplace).2
  rcases htraced.places d device k handle hdevice hplace with hsaved | ⟨hnot, hothers⟩
  · exact .inl ⟨⟨handle, hsaved, rfl⟩, hnumber⟩
  · obtain ⟨number, hget⟩ := htraced.untouched handle hnot
    rw [hget] at hnumber
    obtain rfl : number = (k : Int) := hnumber
    refine .inr ⟨hget, ?_⟩
    rintro _ ⟨other, hother, rfl⟩
    exact hothers other hother

/-- **Order.** If the same was saved into two devices in any two runs, with no number given twice, and both have given
    out as many numbers, then their interfaces are the same. -/
theorem interfaces_eq {calls others : List Call} {d e : Nat} {device twin : Device}
    (hdevice : (run calls).devices[d]? = some device) (htwin : (run others).devices[e]? = some twin)
    (hlength : twin.interfaces.length = device.interfaces.length)
    (hsame : ∀ interface, Saved others e interface ↔ Saved calls d interface)
    (hdistinct : ∀ one other, Saved calls d one → Saved calls d other → one.number = other.number → one = other) :
    twin.interfaces.map (run others).store.get = device.interfaces.map (run calls).store.get := by
  refine List.ext_getElem (by rw [List.length_map, List.length_map, hlength]) fun k hk _ => ?_
  rw [List.length_map] at hk
  rw [List.getElem_map, List.getElem_map]
  rcases get_place_cases htwin (List.getElem?_eq_getElem hk) with ⟨hsaved, hnumber⟩ | ⟨hget, hnone⟩
  · rcases get_place_cases hdevice (List.getElem?_eq_getElem (hlength ▸ hk)) with ⟨hother, hk'⟩ | ⟨_, hnone⟩
    · exact hdistinct _ _ ((hsame _).mp hsaved) hother (hnumber.trans hk'.symm)
    · exact absurd hnumber (hnone _ ((hsame _).mp hsaved))
  · rcases get_place_cases hdevice (List.getElem?_eq_getElem (hlength ▸ hk)) with ⟨hother, hk'⟩ | ⟨hget', _⟩
    · exact absurd hk' (hnone _ ((hsame _).mpr hother))
    · exact hget.trans hget'.symm

/-- **Dense numbers.** After any run of calls, each interface of a device stands in the place of its number; a compiled
    device numbers its interfaces from 0 and does not come about while nothing has been saved under one of its numbers.
    A save that is refused changes nothing, another one changes one place of one device. And if the same interfaces
    were saved in another run, in whatever order and with no number given twice, then the same device comes out. -/
theorem run_places (calls : List Call) :
    let bench := run calls
    (∀ (d : Nat) (device : Device), bench.devices[d]? = some device →
        (∀ (k : Nat) (handle : Interface.Handle), device.interfaces[k]? = some handle →
          (bench.store.get handle).number = (k : Int))
        ∧ (∀ config, device.compile bench.store = .ok config →
          ∃ head blocks, device.ReadsAs bench.store config head blocks
            ∧ (∀ records ∈ blocks, records.header.type = 4)
            ∧ blocks.map InterfaceRecords.number?
              = (List.range device.interfaces.length).map fun (k : Nat) => some (k : Int))
        ∧ (∀ k < device.interfaces.length, (∀ interface, Saved calls d interface → interface.number ≠ (k : Int)) →
          ∃ e, device.compile bench.store = .error e ∧ e.kind = .configuration)
        ∧ ∀ (others : List Call) (e : Nat) (twin : Device), (run others).devices[e]? = some twin →
          { twin with interfaces := device.interfaces } = device →
          twin.interfaces.length = device.interfaces.length →
          (∀ interface, Saved others e interface ↔ Saved calls d interface) →
          (∀ one other, Saved calls d one → Saved calls d other → one.number = other.number → one = other) →
          twin.compile (run others).store = device.compile bench.store)
      ∧ ∀ (handle : Interface.Handle) (d : Nat),
        let outcome := bench.perform (.save handle d)
        (∀ e, outcome.result = .error e → outcome.state = bench)
          ∧ (outcome.result = .ok () ↔ bench.Holds handle ∧ bench.Allotted handle d
            ∧ (bench.store.get handle).header.alternateSetting = 0 ∧ (bench.store.get handle).endpoints ≠ [])
          ∧ (outcome.result = .ok () →
            ∃ (device : Device) (k : Nat), bench.devices[d]? = some device ∧ k < device.interfaces.length
              ∧ (bench.store.get handle).number = (k : Int)
              ∧ outcome.state = { bench with
                devices := bench.devices.set d { device with interfaces := device.interfaces.set k handle } }) := by
  intro bench
  refine ⟨fun d device hdevice => ⟨?_, ?_, ?_, ?_⟩,
    fun handle d => ⟨fun e => state_of_refused, save_eq_ok_iff, state_of_saved⟩⟩
  · intro k handle hplace
    exact ((run_tidy calls).numbered device (List.mem_of_getElem? hdevice) k handle hplace).2
  · intro config hcompile
    obtain ⟨head, blocks, hreads⟩ := Device.exists_readsAs hcompile
    exact ⟨head, blocks, hreads, hreads.numbers ((run_tidy calls).numbered device (List.mem_of_getElem? hdevice))⟩
  · intro k hk hnone
    have hplace := List.getElem?_eq_getElem hk
    rcases get_place_cases hdevice hplace with ⟨hsaved, hnumber⟩ | ⟨hget, _⟩
    · exact absurd hnumber (hnone _ hsaved)
    · obtain ⟨number, hcompile⟩ := Device.compile_unfinished hplace (congrArg Interface.endpoints hget)
      exact ⟨_, hcompile, rfl⟩
  · intro others e twin htwin hheader hlength hsame hdistinct
    have hinterfaces := interfaces_eq hdevice htwin hlength hsame hdistinct
    have hdescribe : twin.describe (run others).store = device.describe bench.store := by
      rw [← hheader]
      exact congrArg (Description.mk _ _) hinterfaces
    exact congrArg Description.compile hdescribe

/-- Two interfaces, saved in the order of their numbers; and in the other order, one of them early and in vain, with
    handles that another interface has pushed on. -/
theorem run_places_swapped :
    let bulk : Endpoint.Descriptor := ⟨⟨1, .toHost, by decide⟩, 2, 64, 0⟩
    let interrupt : Endpoint.Descriptor := ⟨⟨2, .toHost, by decide⟩, 3, 8, 10⟩
    let calls : List Call := [.newDevice 0x1234 0x5678, .newInterface 0, .newInterface 0,
      .change ⟨1⟩ (.endpoint (.descriptor bulk)), .change ⟨3⟩ (.endpoint (.descriptor interrupt)), .save ⟨1⟩ 0,
      .save ⟨3⟩ 0]
    let others : List Call := [.makeInterface 7, .newDevice 0x1234 0x5678, .newInterface 0, .newInterface 0,
      .save ⟨4⟩ 0, .change ⟨4⟩ (.endpoint (.descriptor interrupt)), .save ⟨4⟩ 0,
      .change ⟨2⟩ (.endpoint (.descriptor bulk)), .save ⟨2⟩ 0]
    let device : Device :=
      { header := { vendor := 0x1234, product := 0x5678, release := 0x0010 }, interfaces := [⟨1⟩, ⟨3⟩] }
    let twin : Device := { device with interfaces := [⟨2⟩, ⟨4⟩] }
    (run calls).devices[0]? = some device ∧ (run others).devices[0]? = some twin
      ∧ (device.compile (run calls).store).isOk = true
      ∧ twin.compile (run others).store = device.compile (run calls).store := by
  intro bulk interrupt calls others device twin
  have hdevice : (run calls).devices[0]? = some device := by decide +kernel
  have htwin : (run others).devices[0]? = some twin := by decide +kernel
  let first : Interface := { header := { number := 0 }, endpoints := [bulk] }
  let second : Interface := { header := { number := 1 }, endpoints := [interrupt] }
  have hcalls (interface : Interface) : Saved calls 0 interface ↔ interface = first ∨ interface = second := by
    have haccepted : accepted calls = calls := by decide +kernel
    have hfirst : (run calls).store.get ⟨1⟩ = first := by decide +kernel
    have hsecond : (run calls).store.get ⟨3⟩ = second := by decide +kernel
    simp [Saved, haccepted, calls, ← hfirst, ← hsecond, or_and_right, exists_or, eq_comm]
  have hothers (interface : Interface) : Saved others 0 interface ↔ interface = first ∨ interface = second := by
    have haccepted : accepted others = others.eraseIdx 4 := by decide +kernel
    have hfirst : (run others).store.get ⟨2⟩ = first := by decide +kernel
    have hsecond : (run others).store.get ⟨4⟩ = second := by decide +kernel
    simp [Saved, haccepted, others, ← hfirst, ← hsecond, or_and_right, exists_or, eq_comm, or_comm]
  refine ⟨hdevice, htwin, by decide +kernel, ?_⟩
  refine ((run_places calls).1 0 device hdevice).2.2.2 others 0 twin htwin rfl rfl ?_ ?_
  · exact fun interface => (hothers interface).trans (hcalls interface).symm
  · intro one other hone hother hnumber
    rcases (hcalls one).mp hone with rfl | rfl <;> rcases (hcalls other).mp hother with rfl | rfl
    · rfl
    · exact absurd hnumber (by decide)
    · exact absurd hnumber (by decide)
    · rfl

end UsbCompiler.Bench
