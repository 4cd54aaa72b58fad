import UsbCompiler.Proofs.Lists
import UsbCompiler.Proofs.Session.Frame
import UsbCompiler.Proofs.Session.Numbered

/-!
# `UsbCompiler.Proofs.Workshop.Checked` — what settings have checked

A workshop holds a device and all interfaces around, those of the device and others. Both are described by settings that
check what they store, while descriptors of endpoints are taken as they come. Interfaces can still be changed when the
device has adopted them, and an interface can come from anywhere and have any number. Refused operations change nothing,
so they are no steps of a workshop.

Every setting of a device or an interface checks the value that it stores, and the defaults would pass as well. So in
all workshops that can be reached, the values that settings store are in their ranges, and each interface of the device
has the number of its place. The numbers of endpoints and the lengths of other descriptors are checked by nobody.

## Contents
- `Workshop`, `Workshop.Step` and `Workshop.Reachable`.
- `Device.Checked` with `checked_new` and `Checked.set`.
- `Interface.Checked` with `checked_new`, `Checked.set`, `Checked.addExtra` and `Checked.addEndpoint`.
- `Workshop.Checked`, kept by all steps, and `Workshop.Reachable.checked`.
-/

namespace UsbCompiler

/-! ## Workshops -/

/-- A device in the making, and the contents of all interfaces around. -/
structure Workshop where
  device : Device
  store : Interface.Store := .empty

namespace Workshop

/-- **The steps of a workshop.** -/
inductive Step : Workshop → Workshop → Prop where
  /-- A property of the device. -/
  | setDevice {workshop : Workshop} {setting : Device.Setting} {device : Device}
      (hset : workshop.device.set setting = .ok device) : Step workshop { workshop with device }
  /-- An interface is begun under the next number of the device. -/
  | newInterface {workshop : Workshop} {handle : Interface.Handle} {device : Device} {store : Interface.Store}
      (hnew : workshop.device.newInterface workshop.store = (handle, device, store)) : Step workshop { device, store }
  /-- An interface is begun under a number from elsewhere. -/
  | makeInterface {workshop : Workshop} (number : Int) :
      Step workshop { workshop with store := workshop.store.add (.new number) }
  /-- A property of an interface. -/
  | setInterface {workshop : Workshop} {handle : Interface.Handle} {setting : Interface.Setting} {interface : Interface}
      (hknown : workshop.store.Knows handle) (hset : (workshop.store.get handle).set setting = .ok interface) :
      Step workshop { workshop with store := workshop.store.put handle interface }
  /-- A descriptor of a class or a vendor. -/
  | addExtra {workshop : Workshop} {handle : Interface.Handle} {type : Int} {data : Bytes} {interface : Interface}
      (hknown : workshop.store.Knows handle) (hadd : (workshop.store.get handle).addExtra type data = .ok interface) :
      Step workshop { workshop with store := workshop.store.put handle interface }
  /-- An endpoint, from a finished descriptor with any numbers or from a request. -/
  | addEndpoint {workshop : Workshop} {handle : Interface.Handle} {source : Endpoint.Source} {interface : Interface}
      (hknown : workshop.store.Knows handle) (hadd : (workshop.store.get handle).addEndpoint source = .ok interface) :
      Step workshop { workshop with store := workshop.store.put handle interface }
  /-- The device adopts an interface. -/
  | save {workshop : Workshop} {handle : Interface.Handle} {device : Device} (hknown : workshop.store.Knows handle)
      (hadopt : workshop.device.adopt workshop.store handle = .ok device) : Step workshop { workshop with device }

/-- The workshops that steps lead to from a new device. -/
inductive Reachable : Workshop → Prop where
  | start {vendor product : Int} {device : Device} (hnew : Device.new vendor product = .ok device) :
      Reachable { device }
  | step {workshop next : Workshop} : Reachable workshop → Step workshop next → Reachable next

end Workshop

/-! ## Devices -/

/-- Release codes that come from a text have 16 bits. -/
theorem Release.inRange_of_ofText {text : Text} {code : Int} (h : ofText text = .ok code) :
    0 ≤ code ∧ code < 0x10000 := by
  unfold ofText at h
  split at h
  · cases h
  · simp only at h
    split at h
    · cases h
      unfold encode
      omega
    · cases h

namespace Device

variable {device next : Device}

/-- **Checked devices.** -/
structure Checked (device : Device) : Prop where
  classCode : 0 ≤ device.header.classCode ∧ device.header.classCode < 0x100
  subClass : 0 ≤ device.header.subClass ∧ device.header.subClass < 0x100
  protocol : 0 ≤ device.header.protocol ∧ device.header.protocol < 0x100
  controlPacketSize : device.header.controlPacketSize ∈ Layout.controlSizes
  vendor : 0 ≤ device.header.vendor ∧ device.header.vendor < 0x10000
  product : 0 ≤ device.header.product ∧ device.header.product < 0x10000
  release : 0 ≤ device.header.release ∧ device.header.release < 0x10000
  maxPower : 0 ≤ device.maxPower ∧ device.maxPower ≤ 250

theorem checked_new {vendor product : Int} (h : Device.new vendor product = .ok device) : device.Checked := by
  obtain ⟨hrange, rfl⟩ := new_eq_ok_iff.mp h
  have hzero : (0 : Int) ≤ 0 ∧ (0 : Int) < 0x100 := by decide
  have hsize : (8 : Int) ∈ Layout.controlSizes := by decide
  have hrelease : (0 : Int) ≤ 0x0010 ∧ (0x0010 : Int) < 0x10000 := by decide
  have hpower : (0 : Int) ≤ 50 ∧ (50 : Int) ≤ 250 := by decide
  exact ⟨hzero, hzero, hzero, hsize, hrange.1, hrange.2, hrelease, hpower⟩

theorem Checked.set {setting : Setting} (h : device.Checked) (hset : device.set setting = .ok next) :
    next.Checked := by
  cases set_eq_ok_iff.mp hset with
  | classCode hrange => exact { h with classCode := hrange }
  | subClass hrange => exact { h with subClass := hrange }
  | protocol hrange => exact { h with protocol := hrange }
  | releaseCode hrange => exact { h with release := hrange }
  | releaseText htext => exact { h with release := Release.inRange_of_ofText htext }
  | controlPacketSize hsize => exact { h with controlPacketSize := hsize }
  | maxPower hrange => exact { h with maxPower := by simp only; omega }
  | selfPowered _ | remoteWakeup _ | manufacturer _ | product _ | serialNumber _ | configuration _ => exact { h with }

end Device

/-! ## Interfaces -/

namespace Interface

variable {interface next : Interface}

/-- **Checked interfaces.** -/
structure Checked (interface : Interface) : Prop where
  alternateSetting : 0 ≤ interface.header.alternateSetting ∧ interface.header.alternateSetting < 0x100
  classCode : 0 ≤ interface.header.classCode ∧ interface.header.classCode < 0x100
  subClass : 0 ≤ interface.header.subClass ∧ interface.header.subClass < 0x100
  protocol : 0 ≤ interface.header.protocol ∧ interface.header.protocol < 0x100
  extras : ∀ extra ∈ interface.extras, 0 ≤ extra.type ∧ extra.type < 0x100

theorem checked_new (number : Int) : (Interface.new number).Checked := by
  have hzero : (0 : Int) ≤ 0 ∧ (0 : Int) < 0x100 := by decide
  exact ⟨hzero, hzero, hzero, hzero, List.forall_mem_nil _⟩

theorem Checked.set {setting : Setting} (h : interface.Checked) (hset : interface.set setting = .ok next) :
    next.Checked := by
  cases setting with
  | alternateSetting value =>
    obtain ⟨_, hcheck, rfl⟩ := map_eq_ok_iff.mp hset
    obtain ⟨hrange, rfl⟩ := ByteSetting.check_eq_ok_iff.mp hcheck
    exact { h with alternateSetting := hrange }
  | classCode value =>
    obtain ⟨_, hcheck, rfl⟩ := map_eq_ok_iff.mp hset
    obtain ⟨hrange, rfl⟩ := ByteSetting.check_eq_ok_iff.mp hcheck
    exact { h with classCode := hrange }
  | subClass value =>
    obtain ⟨_, hcheck, rfl⟩ := map_eq_ok_iff.mp hset
    obtain ⟨hrange, rfl⟩ := ByteSetting.check_eq_ok_iff.mp hcheck
    exact { h with subClass := hrange }
  | protocol value =>
    obtain ⟨_, hcheck, rfl⟩ := map_eq_ok_iff.mp hset
    obtain ⟨hrange, rfl⟩ := ByteSetting.check_eq_ok_iff.mp hcheck
    exact { h with protocol := hrange }
  | string source =>
    cases hset
    exact { h with }

theorem Checked.addExtra {type : Int} {data : Bytes} (h : interface.Checked)
    (hadd : interface.addExtra type data = .ok next) : next.Checked := by
  obtain ⟨hrange, rfl⟩ := addExtra_eq_ok_iff.mp hadd
  exact { h with extras := forall_mem_concat h.extras hrange }

theorem Checked.addEndpoint {source : Endpoint.Source} (h : interface.Checked)
    (hadd : interface.addEndpoint source = .ok next) : next.Checked := by
  obtain ⟨_, _, rfl⟩ := addEndpoint_eq_ok_iff.mp hadd
  exact { h with }

theorem number_of_addExtra {type : Int} {data : Bytes} (hadd : interface.addExtra type data = .ok next) :
    next.number = interface.number := by
  obtain ⟨_, rfl⟩ := addExtra_eq_ok_iff.mp hadd
  rfl

theorem number_of_addEndpoint {source : Endpoint.Source} (hadd : interface.addEndpoint source = .ok next) :
    next.number = interface.number := by
  obtain ⟨_, _, rfl⟩ := addEndpoint_eq_ok_iff.mp hadd
  rfl

/-- A handle leads to a checked interface, even if it was never given out. -/
theorem Store.checked_get {store : Store} (h : ∀ interface ∈ store.contents, interface.Checked) (handle : Handle) :
    (store.get handle).Checked := by
  unfold get
  rw [List.getD_eq_getElem?_getD]
  cases hfound : store.contents[handle.index]? with
  | none => exact checked_new 0
  | some interface => exact h interface (List.mem_of_getElem? hfound)

end Interface

/-! ## Workshops -/

namespace Workshop

variable {workshop next : Workshop}

/-- **Checked workshops.** The device and all interfaces are checked, and each interface of the device is in the place
    of its number. -/
structure Checked (workshop : Workshop) : Prop where
  device : workshop.device.Checked
  interfaces : ∀ interface ∈ workshop.store.contents, interface.Checked
  numbered : workshop.store.Numbered workshop.device.interfaces

/-- A change to an interface that keeps its number. -/
theorem Checked.put (h : workshop.Checked) {handle : Interface.Handle} {interface : Interface}
    (hknown : workshop.store.Knows handle) (hinterface : interface.Checked)
    (hnumber : interface.number = (workshop.store.get handle).number) :
    Checked { workshop with store := workshop.store.put handle interface } where
  device := h.device
  interfaces := forall_mem_set h.interfaces hinterface
  numbered := h.numbered.put hknown hnumber

/-- **One step.** -/
theorem checked_of_step (h : workshop.Checked) (hstep : Step workshop next) : next.Checked := by
  cases hstep with
  | setDevice hset =>
    refine ⟨h.device.set hset, h.interfaces, ?_⟩
    rw [(Device.frame_of_set hset).1]
    exact h.numbered
  | newInterface hnew =>
    -- The device gets a placeholder, and its caller another interface with the same number.
    cases hnew
    have hnumber : ((workshop.store.add (.new workshop.device.interfaces.length)).get workshop.store.next).number
        = workshop.device.interfaces.length := by
      rw [Interface.Store.get_add_next]
      rfl
    have hreserved := (h.numbered.grow (.new workshop.device.interfaces.length)).reserve
      (Interface.Store.knows_add_iff.mpr (.inr rfl)) hnumber
    have hchecked := Interface.checked_new workshop.device.interfaces.length
    exact ⟨{ h.device with }, forall_mem_concat (forall_mem_concat h.interfaces hchecked) hchecked, hreserved.grow _⟩
  | makeInterface number =>
    exact ⟨h.device, forall_mem_concat h.interfaces (Interface.checked_new number), h.numbered.grow _⟩
  | setInterface hknown hset =>
    exact h.put hknown ((Interface.Store.checked_get h.interfaces _).set hset) (Interface.number_of_set hset)
  | addExtra hknown hadd =>
    exact h.put hknown ((Interface.Store.checked_get h.interfaces _).addExtra hadd) (Interface.number_of_addExtra hadd)
  | addEndpoint hknown hadd =>
    exact h.put hknown ((Interface.Store.checked_get h.interfaces _).addEndpoint hadd)
      (Interface.number_of_addEndpoint hadd)
  | save hknown hadopt =>
    obtain ⟨⟨hnonneg, _⟩, _, _, rfl⟩ := Device.adopt_eq_ok_iff.mp hadopt
    exact ⟨{ h.device with }, h.interfaces, h.numbered.adopt hknown hnonneg⟩

/-- **All steps.** -/
theorem Reachable.checked (h : Reachable workshop) : workshop.Checked := by
  induction h with
  | start hnew =>
    refine ⟨Device.checked_new hnew, List.forall_mem_nil _, ?_⟩
    rw [Device.interfaces_of_new hnew]
    exact nofun
  | step _ hstep ih => exact checked_of_step ih hstep

end Workshop

end UsbCompiler
