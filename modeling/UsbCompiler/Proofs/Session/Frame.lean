import UsbCompiler.Proofs.Device.Settings

/-!
# `UsbCompiler.Proofs.Session.Frame` — what changes leave alone

A setting changes the property that it is for. What matters about all the others is that they stay as they are:
no setting of a device touches its interfaces, and no setting of an interface its endpoints.

## Contents
- `Device.frame_of_set`, `Device.interfaces_of_new`, `Device.adopt_eq_ok_iff`: devices.
- `Interface.endpoints_of_set`, `Interface.addExtra_eq_ok_iff`, `Interface.addEndpoint_eq_ok_iff`: interfaces.
-/

namespace UsbCompiler

namespace Device

variable {device next : Device}

/-- No setting changes the interfaces, and only its own setting the packet size of endpoint 0. -/
theorem frame_of_set {setting : Setting} (h : device.set setting = .ok next) :
    next.interfaces = device.interfaces
      ∧ ((∀ size, setting ≠ .controlPacketSize size) →
        next.header.controlPacketSize = device.header.controlPacketSize) := by
  cases set_eq_ok_iff.mp h with
  | controlPacketSize hsize => exact ⟨rfl, fun hother => absurd rfl (hother _)⟩
  | classCode _ | subClass _ | protocol _ | releaseCode _ | releaseText _ | selfPowered _ | remoteWakeup _ | maxPower _
  | manufacturer _ | product _ | serialNumber _ | configuration _ => exact ⟨rfl, fun _ => rfl⟩

/-- A device has no interfaces when it is begun. -/
theorem interfaces_of_new {vendor product : Int} (h : Device.new vendor product = .ok device) :
    device.interfaces = [] := by
  obtain ⟨_, rfl⟩ := new_eq_ok_iff.mp h
  rfl

/-- An interface is adopted under its number, if the number was given out, the interface has an endpoint and no
    alternate setting. -/
theorem adopt_eq_ok_iff {store : Interface.Store} {handle : Interface.Handle} :
    device.adopt store handle = .ok next
      ↔ (0 ≤ (store.get handle).number ∧ (store.get handle).number < device.interfaces.length)
        ∧ (store.get handle).header.alternateSetting = 0 ∧ (store.get handle).endpoints ≠ []
        ∧ next = { device with
          interfaces := device.interfaces.set (store.get handle).number.toNat handle } := by
  unfold adopt
  simp only
  split
  · next hout => exact ⟨nofun, fun h => absurd h.1 hout⟩
  · next hrange =>
    have hrange := Classical.not_not.mp hrange
    split
    · next halternate => exact ⟨nofun, fun h => absurd h.2.1 halternate⟩
    · next halternate =>
      have halternate := Classical.not_not.mp halternate
      split
      · next hempty => exact ⟨nofun, fun h => absurd (List.isEmpty_iff.mp hempty) h.2.2.1⟩
      · next hendpoints =>
        constructor
        · intro h
          exact ⟨hrange, halternate, fun hnil => hendpoints (List.isEmpty_iff.mpr hnil), (Except.ok.inj h).symm⟩
        · intro h
          exact congrArg Except.ok h.2.2.2.symm

end Device

namespace Interface

variable {interface next : Interface}

theorem endpoints_of_set {setting : Setting} (h : interface.set setting = .ok next) :
    next.endpoints = interface.endpoints := by
  cases setting with
  | alternateSetting value | classCode value | subClass value | protocol value =>
    obtain ⟨_, _, rfl⟩ := map_eq_ok_iff.mp h
    rfl
  | string source =>
    cases h
    rfl

theorem addExtra_eq_ok_iff {type : Int} {data : Bytes} :
    interface.addExtra type data = .ok next
      ↔ (0 ≤ type ∧ type < 0x100) ∧ next = { interface with extras := interface.extras ++ [⟨type, data⟩] } := by
  unfold addExtra
  rw [map_eq_ok_iff]
  constructor
  · rintro ⟨value, hcheck, rfl⟩
    obtain ⟨hrange, rfl⟩ := ByteSetting.check_eq_ok_iff.mp hcheck
    exact ⟨hrange, rfl⟩
  · rintro ⟨hrange, rfl⟩
    exact ⟨type, ByteSetting.check_eq_ok_iff.mpr ⟨hrange, rfl⟩, rfl⟩

theorem addEndpoint_eq_ok_iff {source : Endpoint.Source} :
    interface.addEndpoint source = .ok next
      ↔ ∃ descriptor, source.describe = .ok descriptor
        ∧ next = { interface with endpoints := interface.endpoints ++ [descriptor] } := by
  unfold addEndpoint
  rw [map_eq_ok_iff]
  constructor
  · rintro ⟨descriptor, hdescribe, rfl⟩
    exact ⟨descriptor, hdescribe, rfl⟩
  · rintro ⟨descriptor, hdescribe, rfl⟩
    exact ⟨descriptor, hdescribe, rfl⟩

end Interface

end UsbCompiler
