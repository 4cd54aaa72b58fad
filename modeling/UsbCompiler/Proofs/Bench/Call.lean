import UsbCompiler.Device.Compiled
import UsbCompiler.Proofs.Runs
import UsbCompiler.Proofs.Session.Frame

/-!
# `UsbCompiler.Proofs.Bench.Call` — devices and interfaces side by side

A bench has any number of devices in the making, and the contents of all interfaces around. What the caller can change
is what it has in its hands: interfaces that were begun for a device, and interfaces that it made up under any number.
The empty interfaces by which devices hold numbers that they have given out are in nobody's hands.

Each call does all of its work or is refused, and a run goes on after a refused call.

## Contents
- `Interface.Change` and `Interface.change`: what can be done to an interface.
- `Bench`, `Bench.Call`, `Bench.attempt` and `Bench.perform`.
- `attempt_save`, `attempt_setDevice`, `Bench.Accepts` and `accepts_of_attempt`: all that an accepted call can do.
- `perform_of_ok`, `perform_of_error`, `perform_eq`, `state_of_refused` and `accepts_of_perform`: the same for outcomes.
- `Bench.run`, `Bench.accepted` and `accepted_keeps`: runs from an empty bench, and induction over them.
-/

namespace UsbCompiler

/-! ## Changes to an interface -/

namespace Interface

/-- A change to an interface that is being described. -/
inductive Change where
  /-- One of its properties. -/
  | setting (setting : Setting)
  /-- Another descriptor of a class or a vendor. -/
  | extra (type : Int) (data : Bytes)
  /-- Another endpoint. -/
  | endpoint (source : Endpoint.Source)
deriving DecidableEq

/-- Makes a change after checking it. -/
def change (interface : Interface) : Change → Except Error Interface
  | .setting setting => interface.set setting
  | .extra type data => interface.addExtra type data
  | .endpoint source => interface.addEndpoint source

/-- No change touches the number. -/
theorem number_of_change {interface next : Interface} {change : Change} (h : interface.change change = .ok next) :
    next.number = interface.number := by
  cases change with
  | setting setting => exact number_of_set h
  | extra type data =>
    obtain ⟨_, rfl⟩ := addExtra_eq_ok_iff.mp h
    rfl
  | endpoint source =>
    obtain ⟨_, _, rfl⟩ := addEndpoint_eq_ok_iff.mp h
    rfl

end Interface

/-! ## Calls -/

/-- An interface in the hands of the caller. -/
structure Bench.Holding where
  handle : Interface.Handle
  /-- The device under whose number the interface was begun, unless its number was made up. No call asks for it. -/
  owner : Option Nat
deriving DecidableEq

/-- Devices in the making, the contents of all interfaces around, and the interfaces in the hands of the caller. -/
structure Bench where
  devices : List Device := []
  store : Interface.Store := .empty
  held : List Bench.Holding := []
deriving DecidableEq

namespace Bench

/-- A bench with nothing on it. -/
def empty : Bench := {}

/-- Whether the caller has an interface in its hands. -/
def Holds (bench : Bench) (handle : Interface.Handle) : Prop := handle ∈ bench.held.map Holding.handle

instance (bench : Bench) (handle : Interface.Handle) : Decidable (bench.Holds handle) :=
  inferInstanceAs (Decidable (handle ∈ _))

/-- A call on a bench. Devices go by the order in which they were begun. -/
inductive Call where
  /-- Begins a device. -/
  | newDevice (vendor product : Int)
  /-- A property of a device. -/
  | setDevice (device : Nat) (setting : Device.Setting)
  /-- Begins an interface under the next number of a device. -/
  | newInterface (device : Nat)
  /-- Begins an interface under any number. -/
  | makeInterface (number : Int)
  /-- A change to an interface. -/
  | change (handle : Interface.Handle) (change : Interface.Change)
  /-- Saves an interface into a device. -/
  | save (handle : Interface.Handle) (device : Nat)
deriving DecidableEq

/-- Puts what an operation makes of a device in the place of the device. -/
def onDevice (bench : Bench) (d : Nat) (operation : Device → Except Error Device) : Except Error Bench :=
  match bench.devices[d]? with
  | none => .error (.missing d)
  | some device => (operation device).map fun next => { bench with devices := bench.devices.set d next }

/-- The bench after a call, unless the call is refused. -/
def attempt (bench : Bench) : Call → Except Error Bench
  | .newDevice vendor product =>
    (Device.new vendor product).map fun device => { bench with devices := bench.devices ++ [device] }
  | .setDevice d setting => bench.onDevice d fun device => device.set setting
  | .newInterface d =>
    match bench.devices[d]? with
    | none => .error (.missing d)
    | some device =>
      let (handle, next, store) := device.newInterface bench.store
      .ok { devices := bench.devices.set d next, store, held := bench.held ++ [⟨handle, some d⟩] }
  | .makeInterface number =>
    .ok { bench with
      store := bench.store.add (.new number)
      held := bench.held ++ [⟨bench.store.next, none⟩] }
  | .change handle change =>
    if bench.Holds handle then
      ((bench.store.get handle).change change).map fun interface =>
        { bench with store := bench.store.put handle interface }
    else .error (.missing handle.index)
  | .save handle d =>
    if bench.Holds handle then bench.onDevice d fun device => device.adopt bench.store handle
    else .error (.missing handle.index)

/-- The outcome of a call. -/
def perform (bench : Bench) (call : Call) : Outcome Bench Unit :=
  match bench.attempt call with
  | .ok next => .ok next ()
  | .error e => .fail bench e

variable {bench next : Bench} {call : Call} {d : Nat}

theorem onDevice_eq_ok_iff {operation : Device → Except Error Device} :
    bench.onDevice d operation = .ok next
      ↔ ∃ device after, bench.devices[d]? = some device ∧ operation device = .ok after
        ∧ next = { bench with devices := bench.devices.set d after } := by
  unfold onDevice
  cases bench.devices[d]? with
  | none => exact ⟨nofun, fun ⟨_, _, hnone, _⟩ => by cases hnone⟩
  | some device =>
    rw [map_eq_ok_iff]
    constructor
    · rintro ⟨after, hafter, rfl⟩
      exact ⟨device, after, rfl, hafter, rfl⟩
    · rintro ⟨_, after, hdevice, hafter, rfl⟩
      cases hdevice
      exact ⟨after, hafter, rfl⟩

/-- A device decides for itself about an interface that somebody has in hand. -/
theorem attempt_save {handle : Interface.Handle} {device : Device} (hheld : bench.Holds handle)
    (hdevice : bench.devices[d]? = some device) :
    bench.attempt (.save handle d) = (device.adopt bench.store handle).map fun after =>
      { bench with devices := bench.devices.set d after } := by
  rw [attempt, if_pos hheld, onDevice, hdevice]

/-- A device decides for itself about its properties. -/
theorem attempt_setDevice {device : Device} (hdevice : bench.devices[d]? = some device) (setting : Device.Setting) :
    bench.attempt (.setDevice d setting) = (device.set setting).map fun after =>
      { bench with devices := bench.devices.set d after } := by
  rw [attempt, onDevice, hdevice]

/-- **Accepted calls.** All that a call can do when it is not refused. -/
inductive Accepts (bench : Bench) : Call → Bench → Prop where
  | newDevice {vendor product : Int} {device : Device} (hnew : Device.new vendor product = .ok device) :
      Accepts bench (.newDevice vendor product) { bench with devices := bench.devices ++ [device] }
  | setDevice {d : Nat} {setting : Device.Setting} {device after : Device} (hdevice : bench.devices[d]? = some device)
      (hset : device.set setting = .ok after) :
      Accepts bench (.setDevice d setting) { bench with devices := bench.devices.set d after }
  /-- The device keeps one new interface, and the caller gets another one with the same number. -/
  | newInterface {d : Nat} {device : Device} (hdevice : bench.devices[d]? = some device) :
      Accepts bench (.newInterface d)
        { devices := bench.devices.set d { device with interfaces := device.interfaces ++ [bench.store.next] }
          store := (bench.store.add (.new device.interfaces.length)).add (.new device.interfaces.length)
          held := bench.held ++ [⟨(bench.store.add (.new device.interfaces.length)).next, some d⟩] }
  | makeInterface (number : Int) :
      Accepts bench (.makeInterface number) { bench with
        store := bench.store.add (.new number)
        held := bench.held ++ [⟨bench.store.next, none⟩] }
  | change {handle : Interface.Handle} {change : Interface.Change} {interface : Interface}
      (hheld : bench.Holds handle) (hchange : (bench.store.get handle).change change = .ok interface) :
      Accepts bench (.change handle change) { bench with store := bench.store.put handle interface }
  | save {handle : Interface.Handle} {d : Nat} {device : Device} (hheld : bench.Holds handle)
      (hdevice : bench.devices[d]? = some device)
      (hrange : 0 ≤ (bench.store.get handle).number ∧ (bench.store.get handle).number < device.interfaces.length)
      (halternate : (bench.store.get handle).header.alternateSetting = 0)
      (hendpoints : (bench.store.get handle).endpoints ≠ []) :
      Accepts bench (.save handle d) { bench with
        devices := bench.devices.set d { device with
          interfaces := device.interfaces.set (bench.store.get handle).number.toNat handle } }

theorem accepts_of_attempt (h : bench.attempt call = .ok next) : Accepts bench call next := by
  cases call with
  | newDevice vendor product =>
    obtain ⟨device, hnew, rfl⟩ := map_eq_ok_iff.mp h
    exact .newDevice hnew
  | setDevice d setting =>
    obtain ⟨device, after, hdevice, hset, rfl⟩ := onDevice_eq_ok_iff.mp h
    exact .setDevice hdevice hset
  | newInterface d =>
    simp only [attempt] at h
    split at h
    · cases h
    · next device hdevice =>
      cases h
      exact .newInterface hdevice
  | makeInterface number =>
    cases h
    exact .makeInterface number
  | change handle change =>
    simp only [attempt] at h
    split at h
    · next hheld =>
      obtain ⟨interface, hchange, rfl⟩ := map_eq_ok_iff.mp h
      exact .change hheld hchange
    · cases h
  | save handle d =>
    simp only [attempt] at h
    split at h
    · next hheld =>
      obtain ⟨device, after, hdevice, hadopt, rfl⟩ := onDevice_eq_ok_iff.mp h
      obtain ⟨hrange, halternate, hendpoints, rfl⟩ := Device.adopt_eq_ok_iff.mp hadopt
      exact .save hheld hdevice hrange halternate hendpoints
    · cases h

theorem perform_of_ok (h : bench.attempt call = .ok next) : bench.perform call = .ok next () := by
  rw [perform, h]

theorem perform_of_error {e : Error} (h : bench.attempt call = .error e) : bench.perform call = .fail bench e := by
  rw [perform, h]

theorem perform_eq : perform = fun bench call => Outcome.ofExcept bench (bench.attempt call) := by
  funext bench call
  cases hattempt : bench.attempt call with
  | ok next => rw [perform_of_ok hattempt, Outcome.ofExcept]
  | error e => rw [perform_of_error hattempt, Outcome.ofExcept]

/-- A refused call leaves everything as it was. -/
theorem state_of_refused {e : Error} (h : (bench.perform call).result = .error e) :
    (bench.perform call).state = bench := by
  rw [perform_eq] at h ⊢
  exact Outcome.state_ofExcept_of_error h

theorem accepts_of_perform {a : Unit} (h : (bench.perform call).result = .ok a) :
    Accepts bench call (bench.perform call).state := by
  rw [perform_eq] at h ⊢
  exact accepts_of_attempt (Outcome.eq_ok_of_ofExcept h)

/-! ## Runs -/

/-- The bench after a run of calls from an empty one. -/
def run (calls : List Call) : Bench := Outcome.run perform empty calls

/-- The calls of a run from an empty bench that were accepted. -/
def accepted (calls : List Call) : List Call := Outcome.accepted perform empty calls

/-- **Induction over runs.** What holds of an empty bench, and is kept by each accepted call together with the accepted
    calls before it, holds after every run. -/
theorem accepted_keeps {Inv : List Call → Bench → Prop} (hempty : Inv [] empty)
    (hstep : ∀ past bench call next, Inv past bench → Accepts bench call next → Inv (past ++ [call]) next)
    (calls : List Call) : Inv (accepted calls) (run calls) := by
  unfold accepted run
  rw [perform_eq]
  refine Outcome.whole_induction hempty ?_ calls
  intro past bench call next hinv hattempt
  exact hstep past bench call next hinv (accepts_of_attempt hattempt)

end Bench

end UsbCompiler
