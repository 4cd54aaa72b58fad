import UsbCompiler.Proofs.Session.Frame
import UsbCompiler.Proofs.Session.Numbered
import UsbCompiler.SerialFunction

/-!
# `UsbCompiler.Proofs.SerialFunction` — two interfaces at a time

Both numbers of a serial function are given out before anything else is looked at. From then on the device has two more
interfaces, and all that can still happen is that the first one is finished, or both are.

## Contents
- `notifications` and `line`: the two finished interfaces, with `communication_eq_ok_iff` and `data_eq_ok_iff`.
- `Interface.Store.Extends` and `Interface.Store.Fresh`: what is still found in a store that grows, and what is new.
- `Adds`: two more interfaces; `adds_reserved`, `Adds.finishFirst` and `Adds.finishSecond`.
- `install_cases` and `exists_adds_install`: what becomes of a serial function, and `exists_install_iff`: when it comes
  about.
-/

namespace UsbCompiler

namespace SerialFunction

/-! ## The two interfaces -/

theorem singleByte_eq_ok_iff {n : Int} {byte : UInt8} :
    singleByte n = .ok byte ↔ (0 ≤ n ∧ n < 0x100) ∧ byte = UInt8.ofNat n.toNat := by
  unfold singleByte
  split
  · next hrange => exact ⟨fun h => ⟨hrange, (Except.ok.inj h).symm⟩, fun h => congrArg Except.ok h.2.symm⟩
  · next hrange => exact ⟨nofun, fun h => absurd h.1 hrange⟩

/-- The interface for notifications, which names itself and the next one. -/
def notifications (n : Nat) (notify : Endpoint.Descriptor) : Interface where
  header := { number := n, classCode := 0x02, subClass := 0x02, protocol := 0x01 }
  extras := functionalDescriptors (.ofNat n) (.ofNat (n + 1))
  endpoints := [notify]

/-- The interface for data. -/
def line (n : Nat) (read write : Endpoint.Descriptor) : Interface where
  header := { number := n, classCode := 0x0A }
  endpoints := [write, read]

variable {n : Nat} {interface : Interface}

theorem communication_eq_ok_iff {notify : Endpoint.Source} :
    communication n notify = .ok interface
      ↔ n ≤ 254 ∧ ∃ descriptor, notify.describe = .ok descriptor ∧ interface = notifications n descriptor := by
  have hnext : ((n : Int) + 1).toNat = n + 1 := by omega
  unfold communication
  constructor
  · intro h
    obtain ⟨_, hdata, h⟩ := bind_eq_ok_iff.mp h
    obtain ⟨_, hcommunication, h⟩ := bind_eq_ok_iff.mp h
    obtain ⟨descriptor, hdescribe, h⟩ := bind_eq_ok_iff.mp h
    obtain ⟨hrange, rfl⟩ := singleByte_eq_ok_iff.mp hdata
    obtain ⟨_, rfl⟩ := singleByte_eq_ok_iff.mp hcommunication
    refine ⟨by omega, descriptor, hdescribe, ?_⟩
    rw [hnext, Int.toNat_natCast] at h
    exact (Except.ok.inj h).symm
  · rintro ⟨hsmall, descriptor, hdescribe, rfl⟩
    refine bind_eq_ok_iff.mpr ⟨_, singleByte_eq_ok_iff.mpr ⟨by omega, rfl⟩, ?_⟩
    refine bind_eq_ok_iff.mpr ⟨_, singleByte_eq_ok_iff.mpr ⟨by omega, rfl⟩, ?_⟩
    refine bind_eq_ok_iff.mpr ⟨descriptor, hdescribe, ?_⟩
    rw [hnext, Int.toNat_natCast]
    rfl

theorem data_eq_ok_iff {read write : Endpoint.Source} :
    data n read write = .ok interface
      ↔ ∃ reader writer, read.describe = .ok reader ∧ write.describe = .ok writer
        ∧ interface = line n reader writer := by
  unfold data
  constructor
  · intro h
    obtain ⟨writer, hwriter, h⟩ := bind_eq_ok_iff.mp h
    obtain ⟨reader, hreader, h⟩ := bind_eq_ok_iff.mp h
    exact ⟨reader, writer, hreader, hwriter, (Except.ok.inj h).symm⟩
  · rintro ⟨reader, writer, hreader, hwriter, rfl⟩
    exact bind_eq_ok_iff.mpr ⟨writer, hwriter, bind_eq_ok_iff.mpr ⟨reader, hreader, rfl⟩⟩

end SerialFunction

/-! ## Growing stores -/

namespace Interface.Store

variable {store next : Store} {handle : Handle} {interface : Interface}

/-- A store in which everything that another one knows is found again. -/
def Extends (next store : Store) : Prop :=
  ∀ handle, store.Knows handle → next.Knows handle ∧ next.get handle = store.get handle

/-- What a store knows that another one does not. -/
structure Fresh (store next : Store) (handle : Handle) (interface : Interface) : Prop where
  unknown : ¬store.Knows handle
  known : next.Knows handle
  get : next.get handle = interface

theorem Extends.add (h : next.Extends store) (interface : Interface) : (next.add interface).Extends store := by
  intro handle hknown
  obtain ⟨hnext, hget⟩ := h handle hknown
  exact ⟨knows_add_iff.mpr (.inl hnext), (get_add hnext _).trans hget⟩

theorem Extends.fresh (h : next.Extends store) (interface : Interface) :
    Fresh store (next.add interface) next.next interface where
  unknown := fun hknown => not_knows_next next (h _ hknown).1
  known := knows_add_iff.mpr (.inr rfl)
  get := get_add_next next interface

theorem Fresh.add (h : Fresh store next handle interface) (other : Interface) :
    Fresh store (next.add other) handle interface where
  unknown := h.unknown
  known := knows_add_iff.mpr (.inl h.known)
  get := (get_add h.known other).trans h.get

end Interface.Store

namespace SerialFunction

variable {state next : State} {first second interface : Interface}

/-! ## Two more interfaces -/

/-- **Two more interfaces.** They stand behind those that the device has, under handles that nobody knew, and all other
    interfaces are as they were. -/
structure Adds (state next : State) (first second : Interface) : Prop where
  places : ∃ one two, next.1 = { state.1 with interfaces := state.1.interfaces ++ [one, two] }
    ∧ state.2.Fresh next.2 one first ∧ state.2.Fresh next.2 two second
  kept : next.2.Extends state.2

/-- A device after two numbers have been given out. -/
def reserved (state : State) : State :=
  let (_, device, store) := state.1.reserveInterface state.2
  let (_, device, store) := device.reserveInterface store
  (device, store)

theorem reserved_eq (device : Device) (store : Interface.Store) :
    let n := device.interfaces.length
    let added := store.add (.new n)
    reserved (device, store) = ({ device with interfaces := device.interfaces ++ [store.next, added.next] },
      added.add (.new (n + 1))) := by
  intro n added
  have hlength : ((device.interfaces ++ [store.next]).length : Int) = n + 1 := by
    rw [List.length_append, List.length_singleton]
    omega
  show ({ device with interfaces := device.interfaces ++ [store.next] ++ [added.next] },
    added.add (.new (device.interfaces ++ [store.next]).length)) = _
  rw [hlength, List.append_assoc]
  rfl

theorem adds_reserved (state : State) :
    Adds state (reserved state) (.new state.1.interfaces.length) (.new (state.1.interfaces.length + 1)) := by
  obtain ⟨device, store⟩ := state
  have hstart : store.Extends store := fun _ hknown => ⟨hknown, rfl⟩
  have hadded := hstart.add (.new device.interfaces.length)
  rw [reserved_eq]
  exact ⟨⟨_, _, rfl, (hstart.fresh _).add _, hadded.fresh _⟩, hadded.add _⟩

/-- A finished interface under the first number. -/
theorem Adds.finishFirst (h : Adds state next first second) (interface : Interface) :
    Adds state ({ next.1 with interfaces := next.1.interfaces.set state.1.interfaces.length next.2.next },
      next.2.add interface) interface second := by
  obtain ⟨⟨one, two, hdevice, hone, htwo⟩, hkept⟩ := h
  refine ⟨⟨_, _, ?_, hkept.fresh interface, htwo.add interface⟩, hkept.add interface⟩
  simp only [hdevice, List.set_append_right, Nat.le_refl, Nat.sub_self, List.set_cons_zero]

/-- A finished interface under the second number. -/
theorem Adds.finishSecond (h : Adds state next first second) (interface : Interface) :
    Adds state ({ next.1 with interfaces := next.1.interfaces.set (state.1.interfaces.length + 1) next.2.next },
      next.2.add interface) first interface := by
  obtain ⟨⟨one, two, hdevice, hone, htwo⟩, hkept⟩ := h
  refine ⟨⟨_, _, ?_, hone.add interface, hkept.fresh interface⟩, hkept.add interface⟩
  simp only [hdevice, List.set_append_right, Nat.le_succ, Nat.add_sub_cancel_left, List.set_cons_succ,
    List.set_cons_zero]

/-- A finished interface joins the device if its number has been given out. -/
theorem adoptNew_eq {k : Nat} (hnumber : interface.number = (k : Int)) (hk : k < state.1.interfaces.length)
    (halternate : interface.header.alternateSetting = 0) (hendpoints : interface.endpoints ≠ []) :
    adoptNew state interface = .ok ({ state.1 with interfaces := state.1.interfaces.set k state.2.next },
      state.2.add interface) () := by
  have hget := Interface.Store.get_add_next state.2 interface
  have hadopt := (@Device.adopt_eq_ok_iff state.1 _ (state.2.add interface) state.2.next).mpr
    ⟨by rw [hget]; omega, by rw [hget]; exact halternate, by rw [hget]; exact hendpoints, rfl⟩
  rw [hget, hnumber, Int.toNat_natCast] at hadopt
  simp only [adoptNew, hadopt]

theorem Adds.length (h : Adds state next first second) :
    next.1.interfaces.length = state.1.interfaces.length + 2 := by
  obtain ⟨one, two, hdevice, _⟩ := h.places
  rw [hdevice, List.length_append]
  rfl

/-! ## Serial functions -/

theorem install_eq (state : State) (notify read write : Endpoint.Source) :
    let n := state.1.interfaces.length
    install state notify read write = (adoptResult (reserved state) (communication n notify)).andThen fun next _ =>
      (adoptResult next (data (n + 1 : Nat) read write)).andThen fun last _ => .ok last ((n : Int), (n : Int) + 1) := by
  intro n
  have hlength : ((state.1.interfaces ++ [state.2.next]).length : Int) = (n + 1 : Nat) := by
    rw [List.length_append, List.length_singleton]
  show (adoptResult (reserved state) (communication n notify)).andThen (fun next _ =>
    (adoptResult next (data (state.1.interfaces ++ [state.2.next]).length read write)).andThen fun last _ =>
      .ok last ((n : Int), ((state.1.interfaces ++ [state.2.next]).length : Int))) = _
  rw [hlength]
  rfl

/-- **The ends of a serial function.** It fails with nothing but its numbers, or with its first interface only, or comes
    about with both. -/
theorem install_cases (state : State) (notify read write : Endpoint.Source) :
    let n := state.1.interfaces.length
    let outcome := install state notify read write
    (∃ e, communication n notify = .error e ∧ outcome.result = .error e
        ∧ Adds state outcome.state (.new n) (.new (n + 1)))
      ∨ (∃ first e, communication n notify = .ok first ∧ data (n + 1 : Nat) read write = .error e
        ∧ outcome.result = .error e ∧ Adds state outcome.state first (.new (n + 1)))
      ∨ ∃ first second, communication n notify = .ok first ∧ data (n + 1 : Nat) read write = .ok second
        ∧ outcome.result = .ok ((n : Int), (n : Int) + 1) ∧ Adds state outcome.state first second := by
  intro n outcome
  have houtcome : outcome = _ := install_eq state notify read write
  have hreserved := adds_reserved state
  have hroom := hreserved.length
  cases hfirst : communication n notify with
  | error e =>
    rw [hfirst] at houtcome
    rw [houtcome]
    exact .inl ⟨e, rfl, rfl, hreserved⟩
  | ok first =>
    obtain ⟨_, notifier, _, rfl⟩ := communication_eq_ok_iff.mp hfirst
    -- The state in which only the first interface is finished.
    let midway : State :=
      ({ (reserved state).1 with interfaces := (reserved state).1.interfaces.set n (reserved state).2.next },
        (reserved state).2.add (notifications n notifier))
    have hmidway : Adds state midway (notifications n notifier) (.new (n + 1)) := hreserved.finishFirst _
    have hadopted : adoptNew (reserved state) (notifications n notifier) = .ok midway () :=
      adoptNew_eq rfl (by omega) rfl (List.cons_ne_nil _ _)
    rw [hfirst, adoptResult, hadopted, Outcome.ok_andThen] at houtcome
    cases hsecond : data (n + 1 : Nat) read write with
    | error e =>
      rw [hsecond] at houtcome
      rw [houtcome]
      exact .inr (.inl ⟨_, e, rfl, rfl, rfl, hmidway⟩)
    | ok second =>
      obtain ⟨reader, writer, _, _, rfl⟩ := data_eq_ok_iff.mp hsecond
      have hplaces := hmidway.length
      have hadopted : adoptNew midway (line (n + 1) reader writer) = .ok _ () :=
        adoptNew_eq rfl (by omega) rfl (List.cons_ne_nil _ _)
      rw [hsecond, adoptResult, hadopted, Outcome.ok_andThen] at houtcome
      rw [houtcome]
      exact .inr (.inr ⟨_, _, rfl, rfl, rfl, hmidway.finishSecond _⟩)

/-- Whatever becomes of it, it adds two interfaces. -/
theorem exists_adds_install (state : State) (notify read write : Endpoint.Source) :
    ∃ first second, Adds state (install state notify read write).state first second := by
  rcases install_cases state notify read write with ⟨_, _, _, hadds⟩ | ⟨_, _, _, _, _, hadds⟩ | ⟨_, _, _, _, _, hadds⟩
  · exact ⟨_, _, hadds⟩
  · exact ⟨_, _, hadds⟩
  · exact ⟨_, _, hadds⟩

/-- **Usable endpoints.** A serial function comes about if its numbers are bytes and its endpoints can be described. -/
theorem exists_install_iff (state : State) (notify read write : Endpoint.Source) :
    (∃ answer, (install state notify read write).result = .ok answer)
      ↔ state.1.interfaces.length ≤ 254 ∧ (∃ notifier, notify.describe = .ok notifier)
        ∧ (∃ reader, read.describe = .ok reader) ∧ ∃ writer, write.describe = .ok writer := by
  constructor
  · rintro ⟨answer, hanswer⟩
    rcases install_cases state notify read write with ⟨e, _, herror, _⟩ | ⟨_, e, _, _, herror, _⟩
      | ⟨first, second, hfirst, hsecond, _⟩
    · rw [herror] at hanswer
      cases hanswer
    · rw [herror] at hanswer
      cases hanswer
    · obtain ⟨hsmall, notifier, hnotifier, _⟩ := communication_eq_ok_iff.mp hfirst
      obtain ⟨reader, writer, hreader, hwriter, _⟩ := data_eq_ok_iff.mp hsecond
      exact ⟨hsmall, ⟨notifier, hnotifier⟩, ⟨reader, hreader⟩, writer, hwriter⟩
  · rintro ⟨hsmall, ⟨notifier, hnotifier⟩, ⟨reader, hreader⟩, writer, hwriter⟩
    have hfirst := communication_eq_ok_iff.mpr ⟨hsmall, notifier, hnotifier, rfl⟩
    have hsecond := (@data_eq_ok_iff (state.1.interfaces.length + 1) _ _ _).mpr ⟨reader, writer, hreader, hwriter, rfl⟩
    rcases install_cases state notify read write with ⟨e, herror, _⟩ | ⟨_, e, _, herror, _⟩ | ⟨_, _, _, _, hok, _⟩
    · rw [hfirst] at herror
      cases herror
    · rw [hsecond] at herror
      cases herror
    · exact ⟨_, hok⟩

end SerialFunction

end UsbCompiler
