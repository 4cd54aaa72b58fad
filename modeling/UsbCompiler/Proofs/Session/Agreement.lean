import UsbCompiler.Proofs.Descriptor.Standalone
import UsbCompiler.Proofs.Peripheral
import UsbCompiler.Proofs.Session.Linked

/-!
# `UsbCompiler.Proofs.Session.Agreement` — the host and the hardware are told the same

A session ends with two results that are computed independently: the descriptors for the host and the setup for
the driver. Both go back to the calls that placed the endpoints. Descriptors have the profiles of the grants
because the interfaces hold what was placed, and halves in use are the grants because nothing else is placed;
so the endpoints on the two sides correspond one to one.

## Contents
- `Session.Reachable.profiles`: the endpoints of the device have the profiles of the grants.
- `Session.Reachable.agreement`: descriptors and setup, endpoint by endpoint.
-/

namespace UsbCompiler

open Layout (Call Grant Receipt)

namespace Session

variable {session : Session} {config : CompiledDevice}

/-- What is compiled are endpoint 0 and the endpoints that were placed. -/
theorem Reachable.endpoints_perm (h : Reachable session) (hsettled : session.Settled)
    (hcompile : session.device.compile session.store = .ok config) {calls : List Call}
    (hplaced : Placed session.device.header.controlPacketSize session.layout session.control session.drafts calls) :
    config.endpoints.Perm
      (controlDescriptors session.control ++ session.drafts.flatMap Draft.descriptors) := by
  obtain ⟨hcontrol, hdrafts⟩ := hsettled
  obtain ⟨_, _, _, _, _, _, hendpoints⟩ := Description.compile_eq_ok_iff.mp hcompile
  obtain ⟨size, hsize⟩ := Option.ne_none_iff_exists'.mp hcontrol
  rw [hendpoints, hsize, ← hplaced.size_eq size hsize]
  exact ((h.linked.endpoints_perm hdrafts).cons _).cons _

/-- **Descriptors are grants.** The endpoints of a settled session have the profiles that were granted. -/
theorem Reachable.profiles (h : Reachable session) (hsettled : session.Settled)
    (hcompile : session.device.compile session.store = .ok config) :
    ∃ calls, (∀ call ∈ calls, call.Checked ∧ call.PlacesEndpoint) ∧ (∀ call ∈ calls, call.Single)
      ∧ session.layout = Layout.empty.run calls
      ∧ (((Layout.empty.receipts calls).flatMap Receipt.grants).map Grant.profile).Perm
        (config.endpoints.map Endpoint.Descriptor.profile) := by
  obtain ⟨calls, hplaced⟩ := h.placed
  have hendpoints := h.endpoints_perm hsettled hcompile hplaced
  exact ⟨calls, hplaced.allowed, hplaced.single, hplaced.layout_eq,
    hplaced.profiles.trans (hendpoints.map _).symm⟩

end Session

/-! ## Two sides of one run -/

/-- **Agreement.** Every endpoint that the host is told about is served by the hardware: its number is set up
    with its type, the half of its direction is in use, and the buffer of this half holds its packets. And the
    host is told about every half in use, once. -/
structure Peripheral.Agrees (peripheral : Peripheral) (descriptors : List Endpoint.Descriptor) : Prop where
  distinct : (descriptors.map Endpoint.Descriptor.address).Nodup
  served : ∀ e ∈ descriptors, ∃ hardware buffer, peripheral.find e.address.number = .ok hardware
    ∧ hardware.type = e.type ∧ hardware.enabled e.address.direction = true
    ∧ hardware.buffer e.address.direction = some buffer ∧ e.maxPacketSize ≤ 2 * buffer.size
  described : ∀ hardware ∈ peripheral.endpoints, ∀ d, hardware.enabled d = true →
    descriptors.countP (fun e => e.address.number = hardware.number ∧ e.address.direction = d) = 1

namespace Layout

variable {layout : Layout} {past : List Receipt} {peripheral : Peripheral}
  {descriptors : List Endpoint.Descriptor}

/-- Descriptors with the profiles of grants have addresses of their own. -/
theorem Granted.nodup_descriptors (h : Granted layout past)
    (hprofiles : ((past.flatMap Receipt.grants).map Grant.profile).Perm
      (descriptors.map Endpoint.Descriptor.profile)) :
    (descriptors.map fun e => ((e.address.number : Int), e.address.direction)).Nodup := by
  have hkeys := hprofiles.map fun profile => (profile.number, profile.direction)
  rw [List.map_map, List.map_map] at hkeys
  exact hkeys.nodup_iff.mp h.nodup_grants

/-- A half in use serves every grant for its direction. -/
theorem Granted.served (h : Granted layout past)
    (hdescribes : peripheral.Describes layout (past.flatMap Receipt.grants)) {grant : Grant}
    (hgrant : grant ∈ past.flatMap Receipt.grants) :
    ∃ hardware buffer, peripheral.find grant.number = .ok hardware ∧ hardware.type = grant.type
      ∧ hardware.enabled grant.direction = true ∧ hardware.buffer grant.direction = some buffer
      ∧ grant.packetSize ≤ 2 * buffer.size := by
  obtain ⟨slot, hslot, hholding⟩ := h.exists_slot hgrant
  obtain ⟨hnumber, htype, henabled⟩ := Slot.eq_of_mem_holdings hholding
  obtain ⟨hardware, hfind, hhardware⟩ := hdescribes.slots slot hslot
  rw [← hhardware.enabled] at henabled
  obtain ⟨buffer, hbuffer, _, other, hother, hsame, hfits⟩ := hhardware.used grant.direction henabled
  -- The grant of the half is this one, since no direction is granted twice.
  have hkey : (other.number, other.direction) = (grant.number, grant.direction) := by
    rw [hsame, hnumber]
  have heq := List.inj_on_of_nodup_map h.nodup_grants hother hgrant hkey
  subst heq
  refine ⟨hardware, buffer, ?_, hhardware.type.trans htype.symm, henabled, hbuffer, hfits⟩
  rw [show other.number = slot.number from hnumber]
  exact hfind

/-- Descriptors with the profiles of grants agree with the setup that describes the grants. -/
theorem Granted.agrees (h : Granted layout past)
    (hdescribes : peripheral.Describes layout (past.flatMap Receipt.grants))
    (hprofiles : ((past.flatMap Receipt.grants).map Grant.profile).Perm
      (descriptors.map Endpoint.Descriptor.profile)) :
    peripheral.Agrees descriptors where
  distinct := by
    have hkeys := h.nodup_descriptors hprofiles
    refine List.Nodup.of_map (fun address => ((address.number : Int), address.direction)) ?_
    rw [List.map_map]
    exact hkeys
  served := by
    intro e he
    obtain ⟨grant, hgrant, hprofile⟩ :=
      List.mem_map.mp (hprofiles.mem_iff.mpr (List.mem_map_of_mem he))
    obtain ⟨hnumber, hdirection, htype, hsize⟩ := Endpoint.Profile.mk.inj hprofile
    have hserved := h.served hdescribes hgrant
    rw [hnumber, hdirection, htype, hsize] at hserved
    exact hserved
  described := by
    intro hardware hmem d henabled
    obtain ⟨slot, hslot, hfind⟩ := hdescribes.endpoints hardware hmem
    obtain ⟨other, hother, hhardware⟩ := hdescribes.slots slot hslot
    rw [hfind] at hother
    cases hother
    obtain ⟨_, _, _, grant, hgrant, hholding, _⟩ := hhardware.used d henabled
    obtain ⟨e, he, hprofile⟩ :=
      List.mem_map.mp (hprofiles.mem_iff.mp (List.mem_map_of_mem hgrant))
    obtain ⟨hnumber, hdirection, _, _⟩ := Endpoint.Profile.mk.inj hprofile
    -- The half goes back to a grant, and the grant to a descriptor; its key occurs once.
    have hone := countP_of_nodup_map (h.nodup_descriptors hprofiles) he
    rw [← hone]
    apply List.countP_congr
    intro x _
    rw [hnumber, hdirection, hhardware.number, show grant.number = slot.number from congrArg Holding.number hholding,
      show grant.direction = d from congrArg Holding.direction hholding]
    simp only [decide_eq_true_eq, Prod.mk.injEq]

end Layout

namespace Session

variable {session : Session} {config : CompiledDevice}

/-- **The host and the hardware are told the same.** However a session went, if it is settled and its device can
    be compiled, then its layout has a setup, and the setup agrees with the descriptors. -/
theorem Reachable.agreement (h : Reachable session) (hsettled : session.Settled)
    (hcompile : session.device.compile session.store = .ok config) :
    ∃ peripheral, session.layout.toPeripheral = .ok peripheral ∧ peripheral.Agrees config.endpoints := by
  obtain ⟨calls, hallowed, hsingle, hlayout, hprofiles⟩ := h.profiles hsettled hcompile
  rw [hlayout]
  cases hresult : (Layout.empty.run calls).toPeripheral with
  | error e =>
    -- There is no double-buffered slot that could have led to the error.
    obtain ⟨slot, hslot, hdouble, _⟩ :=
      Layout.double_of_toPeripheral_eq_error (fun slot hslot => Layout.ready_of_run hallowed hslot) hresult
    rw [Layout.run_single hsingle slot hslot] at hdouble
    cases hdouble
  | ok peripheral =>
    have hgranted := Layout.run_granted fun call hcall => (hallowed call hcall).2
    exact ⟨peripheral, rfl, hgranted.agrees (Layout.describes_of_run hallowed hresult) hprofiles⟩

/-- A device with one interface and one bulk endpoint. -/
theorem agreement_bulk :
    ∃ (session : Session) (config : CompiledDevice) (peripheral : Peripheral), Reachable session
      ∧ session.Settled ∧ session.device.compile session.store = .ok config
      ∧ config.endpoints = [.control .toDevice 8, .control .toHost 8, ⟨⟨1, .toHost, by decide⟩, 2, 64, 0⟩]
      ∧ session.layout.toPeripheral = .ok peripheral ∧ peripheral.Agrees config.endpoints := by
  have hstart : Reachable { device := { header := { vendor := 0x1234, product := 0x5678, release := 0x0010 } } } :=
    .start (by rfl : Device.new 0x1234 0x5678 = _)
  have hcontrol := hstart.step (.placeControl rfl rfl)
  have hinterface := hcontrol.step (.newInterface rfl)
  have hdraft := hinterface.step .newDraft
  have hdirection := hdraft.step (@Step.setDraft _ (.direction 128) _ ⟨0, by decide⟩ rfl rfl)
  have htype := hdirection.step (@Step.setDraft _ (.type 2) _ ⟨0, by decide⟩ rfl rfl)
  have hsize := htype.step (@Step.setDraft _ (.maxPacketSize 64) _ ⟨0, by decide⟩ rfl rfl)
  have hplace := hsize.step (.place ⟨0, by decide⟩ rfl rfl)
  have hadd := hplace.step (@Step.addEndpoint _ ⟨1⟩ _ ⟨0, by decide⟩ rfl (by decide) rfl)
  have hsave := hadd.step (@Step.save _ ⟨1⟩ _ (by decide) rfl)
  obtain ⟨peripheral, hsetup, hagrees⟩ := hsave.agreement (by decide) rfl
  exact ⟨_, _, peripheral, hsave, by decide, rfl, rfl, hsetup, hagrees⟩

end Session

end UsbCompiler
