import UsbCompiler.Proofs.Endpoint.Settings
import UsbCompiler.Proofs.Layout.Grants
import UsbCompiler.Proofs.Session.Frame
import UsbCompiler.Proofs.Session.Step

/-!
# `UsbCompiler.Proofs.Session.Placed` — descriptors and grants of a session

All that packet memory and the host have in common about an endpoint is its profile. Placing an endpoint writes
its number back into the request, and from then on the request has a descriptor with the profile of the grant.
So the layout of a session is the result of a run whose grants have the profiles of the placed endpoints.

## Contents
- `Endpoint.Profile`: what a descriptor and a grant both tell of an endpoint.
- `Layout.profile_of_allocate`: an accepted request.
- `Session.Placed` and its preservation by each step that touches packet memory or an endpoint.
-/

namespace UsbCompiler

open Layout (Call Grant Receipt)

/-! ## Profiles -/

namespace Endpoint

/-- What a descriptor and a grant both tell of an endpoint. -/
structure Profile where
  number : Int
  direction : Direction
  type : TransferType
  packetSize : Int
deriving DecidableEq

/-- The profile of a descriptor. -/
def Descriptor.profile (descriptor : Descriptor) : Profile :=
  ⟨descriptor.address.number, descriptor.address.direction, descriptor.type, descriptor.maxPacketSize⟩

end Endpoint

/-- The profile of a grant. -/
def Layout.Grant.profile (grant : Grant) : Endpoint.Profile :=
  ⟨grant.number, grant.direction, grant.type, grant.packetSize⟩

/-- A complete request with the codes of a direction and a type has a descriptor. -/
theorem Endpoint.Request.exists_describe {n size : Int} {d : Direction} {t : TransferType} {request : Request}
    (hrange : 0 ≤ n ∧ n < 16) (hnumber : request.number = some n) (hdirection : request.direction = some d.code)
    (htype : request.type = some t.code) (hsize : request.maxPacketSize = some size) :
    ∃ descriptor, request.describe = .ok descriptor ∧ descriptor.profile = ⟨n, d, t, size⟩ := by
  obtain ⟨hnonneg, hbound⟩ := hrange
  refine ⟨⟨⟨n.toNat, d, by omega⟩, t.code, size, request.interval⟩, describe_eq_ok_iff.mpr ?_, ?_⟩
  · rw [Descriptor.toRequest, Int.toNat_of_nonneg hnonneg, ← hnumber, ← hdirection, ← htype, ← hsize]
  · simp only [Descriptor.profile, Descriptor.type, TransferType.ofBits_code, Int.toNat_of_nonneg hnonneg]

namespace Layout

variable {layout after : Layout}

/-- **Accepted requests.** The answer has a descriptor, and the grant has the profile of this descriptor. -/
theorem profile_of_allocate {request answered : Endpoint.Request} {doubled : Bool}
    (hchecked : request.Checked) (hok : layout.allocate request doubled = .ok after answered) :
    answered.Checked ∧ ∃ descriptor grant, answered.describe = .ok descriptor
      ∧ (layout.receipt (.allocate request doubled)).grants = [grant] ∧ grant.profile = descriptor.profile := by
  rcases allocate_cases layout request doubled with ⟨e, hcase⟩ | ⟨demand, slot, next, hdemand, hplaces, hcase⟩
  · rw [hcase] at hok
    cases hok
  · have hresult : (layout.allocate request doubled).result = .ok answered := by rw [hok]; rfl
    have hmeets := Demand.ofRequest_eq_ok_iff.mp hdemand
    obtain ⟨size, hsize, _⟩ := hmeets.size
    -- The answer is the request with the number of the slot, which it had or was given.
    have hanswer : answered.Checked
        ∧ ∃ n, (0 ≤ n ∧ n < 16) ∧ answered = { request with number := some n } := by
      rw [hcase] at hresult
      cases hn : request.number with
      | some n =>
        rw [hn] at hresult
        cases hresult
        refine ⟨hchecked, n, hchecked.inRange.number n hn, ?_⟩
        rw [← hn]
      | none =>
        rw [hn] at hresult
        have hset : request.set (.number slot.number) = .ok answered := hresult
        obtain ⟨hrange, hanswered⟩ := Endpoint.Request.set_number_eq_ok_iff.mp hset
        exact ⟨.set hchecked hset, slot.number, hrange, hanswered⟩
    obtain ⟨hanswered, n, hrange, rfl⟩ := hanswer
    obtain ⟨descriptor, hdescribe, hprofile⟩ :
        ∃ descriptor, Endpoint.Request.describe { request with number := some n } = .ok descriptor
          ∧ descriptor.profile = ⟨n, demand.direction, demand.type, size⟩ :=
      Endpoint.Request.exists_describe hrange rfl hmeets.direction hmeets.type hsize
    let buffers := if doubled then slot.buffers else (slot.half demand.direction).buffer.toList
    refine ⟨hanswered, descriptor, ⟨⟨n, slot.type, demand.direction, doubled, buffers⟩, size⟩, hdescribe, ?_, ?_⟩
    · simp only [receipt, requestReceipt, hdemand, place_eq_ok_iff.mpr hplaces, hresult, hsize,
        buffers]
    · rw [hprofile]
      simp only [Grant.profile, hplaces.type_eq]

end Layout

namespace Session

/-! ## Placed endpoints -/

/-- The descriptor of an endpoint that has been placed. -/
def Draft.descriptors (draft : Draft) : List Endpoint.Descriptor :=
  if draft.stage = .described then [] else draft.request.describe.toOption.toList

theorem Draft.descriptors_of_described {draft : Draft} (h : draft.stage = .described) : draft.descriptors = [] :=
  if_pos h

theorem Draft.descriptors_of_ne {draft : Draft} (h : draft.stage ≠ .described) :
    draft.descriptors = draft.request.describe.toOption.toList :=
  if_neg h

/-- The descriptors of endpoint 0, if it has been placed. -/
def controlDescriptors : Option Int → List Endpoint.Descriptor
  | none => []
  | some size => [.control .toDevice size, .control .toHost size]

/-- **Placed endpoints.** The layout is what some calls made of an empty one, and what they were granted are the
    profiles of the endpoints that have been placed. -/
structure Placed (size : Int) (layout : Layout) (control : Option Int) (drafts : List Draft)
    (calls : List Call) : Prop where
  checked : ∀ draft ∈ drafts, draft.request.Checked
  complete : ∀ draft ∈ drafts, draft.stage ≠ .described → ∃ descriptor, draft.request.describe = .ok descriptor
  size_eq : ∀ placed, control = some placed → size = placed
  allowed : ∀ call ∈ calls, call.Checked ∧ call.PlacesEndpoint
  single : ∀ call ∈ calls, call.Single
  layout_eq : layout = Layout.empty.run calls
  profiles : (((Layout.empty.receipts calls).flatMap Receipt.grants).map Grant.profile).Perm
    ((controlDescriptors control ++ drafts.flatMap Draft.descriptors).map Endpoint.Descriptor.profile)

theorem placed_start (size : Int) : Placed size .empty none [] [] where
  checked := fun _ hdraft => absurd hdraft List.not_mem_nil
  complete := fun _ hdraft => absurd hdraft List.not_mem_nil
  size_eq := nofun
  allowed := fun _ hcall => absurd hcall List.not_mem_nil
  single := fun _ hcall => absurd hcall List.not_mem_nil
  layout_eq := rfl
  profiles := .nil

section Steps

variable {size : Int} {layout : Layout} {control : Option Int} {drafts : List Draft} {calls : List Call}

/-- Another packet size of endpoint 0, before endpoint 0 is placed. -/
theorem Placed.resize (h : Placed size layout control drafts calls) {next : Int}
    (hkeep : control ≠ none → next = size) : Placed next layout control drafts calls := by
  refine { h with size_eq := ?_ }
  intro placed hplaced
  rw [hkeep (by rw [hplaced]; exact nofun), h.size_eq placed hplaced]

/-- One more endpoint. -/
theorem Placed.concat (h : Placed size layout control drafts calls) :
    Placed size layout control (drafts ++ [⟨{}, .described⟩]) calls := by
  refine { h with checked := ?_, complete := ?_, profiles := ?_ }
  · exact forall_mem_concat h.checked .new
  · exact forall_mem_concat h.complete fun hstage => absurd rfl hstage
  · rw [List.flatMap_append, List.flatMap_singleton]
    show List.Perm _ ((controlDescriptors control ++ (drafts.flatMap Draft.descriptors ++ [])).map _)
    rw [List.append_nil]
    exact h.profiles

/-- A changed endpoint whose descriptor stays as it is. -/
theorem Placed.set (h : Placed size layout control drafts calls) (position : Fin drafts.length) {draft : Draft}
    (hchecked : draft.request.Checked)
    (hcomplete : draft.stage ≠ .described → ∃ descriptor, draft.request.describe = .ok descriptor)
    (hsame : draft.descriptors = (drafts.get position).descriptors) :
    Placed size layout control (drafts.set position draft) calls := by
  refine { h with checked := ?_, complete := ?_, profiles := ?_ }
  · exact forall_mem_set h.checked hchecked
  · exact forall_mem_set h.complete hcomplete
  · rw [flatMap_set_of_eq position.isLt hsame]
    exact h.profiles

/-- A call that is granted the profiles of some descriptors. -/
theorem Placed.profiles_append (h : Placed size layout control drafts calls) {call : Call}
    {descriptors : List Endpoint.Descriptor}
    (hgrants : (layout.receipt call).grants.map Grant.profile = descriptors.map Endpoint.Descriptor.profile) :
    (((Layout.empty.receipts (calls ++ [call])).flatMap Receipt.grants).map Grant.profile).Perm
      ((controlDescriptors control ++ drafts.flatMap Draft.descriptors ++ descriptors).map
        Endpoint.Descriptor.profile) := by
  rw [Layout.receipts_concat, List.flatMap_append, List.flatMap_singleton, List.map_append, List.map_append,
    ← h.layout_eq, hgrants]
  exact h.profiles.append_right _

/-- Endpoint 0 is placed. -/
theorem Placed.placeControl (h : Placed size layout none drafts calls) {slot : Slot} {after : Layout}
    (hplace : layout.allocateControl size = .ok (slot, after)) :
    Placed size after (some size) drafts (calls ++ [.allocateControl size]) where
  checked := h.checked
  complete := h.complete
  size_eq := fun _ hplaced => Option.some.inj hplaced
  allowed := forall_mem_concat h.allowed ⟨trivial, trivial⟩
  single := forall_mem_concat h.single trivial
  layout_eq := by
    rw [Layout.run_concat, ← h.layout_eq]
    simp only [Layout.perform, hplace]
    rfl
  profiles := by
    obtain ⟨_, _, _, _, rfl, rfl⟩ := Layout.allocateControl_eq_ok_iff.mp hplace
    have hgrants : (layout.receipt (.allocateControl size)).grants.map Grant.profile
        = [Endpoint.Descriptor.control .toHost size, .control .toDevice size].map
          Endpoint.Descriptor.profile := by
      simp only [Layout.receipt, hplace]
      rfl
    refine (h.profiles_append hgrants).trans (List.Perm.map _ ?_)
    -- The order of the two halves is no matter here.
    refine List.perm_append_comm.trans (.trans (.append_right _ (.swap _ _ [])) ?_)
    exact .refl _

/-- An endpoint is placed. -/
theorem Placed.place (h : Placed size layout control drafts calls) (position : Fin drafts.length)
    (hstage : (drafts.get position).stage = .described) {after : Layout} {request : Endpoint.Request}
    (hplace : layout.allocate (drafts.get position).request false = .ok after request) :
    Placed size after control (drafts.set position ⟨request, .placed⟩)
      (calls ++ [.allocate (drafts.get position).request false]) := by
  have hmem : drafts.get position ∈ drafts := List.getElem_mem position.isLt
  have hchecked := h.checked _ hmem
  obtain ⟨hanswered, descriptor, grant, hdescribe, hgrants, hprofile⟩ :=
    Layout.profile_of_allocate hchecked hplace
  refine ⟨?_, ?_, h.size_eq, ?_, ?_, ?_, ?_⟩
  · exact forall_mem_set h.checked hanswered
  · exact forall_mem_set h.complete fun _ => ⟨descriptor, hdescribe⟩
  · exact forall_mem_concat h.allowed ⟨hchecked, trivial⟩
  · exact forall_mem_concat h.single rfl
  · rw [Layout.run_concat, ← h.layout_eq]
    simp only [Layout.perform]
    rw [hplace]
    rfl
  · have hprofiles : (layout.receipt (.allocate (drafts.get position).request false)).grants.map Grant.profile
        = [descriptor].map Endpoint.Descriptor.profile := by
      rw [hgrants]
      exact congrArg (fun profile => [profile]) hprofile
    refine (h.profiles_append hprofiles).trans (List.Perm.map _ ?_)
    rw [List.append_assoc]
    refine List.Perm.append_left _ (List.Perm.symm (perm_flatMap_set position.isLt ?_))
    have hbefore : drafts[(position : Nat)].descriptors = [] := Draft.descriptors_of_described hstage
    have hafter : Draft.descriptors ⟨request, .placed⟩ = [descriptor] := by
      rw [Draft.descriptors_of_ne Stage.placed_ne_described, hdescribe]
      rfl
    rw [hafter, hbefore]
    exact .refl _

/-- An attempt to place an endpoint fails. -/
theorem Placed.refuse (h : Placed size layout control drafts calls) {request : Endpoint.Request} {doubled : Bool}
    {after : Layout} {e : Error} (hplace : layout.allocate request doubled = .fail after e) :
    Placed size after control drafts calls := by
  have hgranted := Layout.run_granted fun call hcall => (h.allowed call hcall).2
  rw [← h.layout_eq] at hgranted
  rw [hgranted.state_of_fail hplace]
  exact h

end Steps

/-- **Every step keeps layout and descriptors in step.** -/
theorem placed_of_step {session next : Session}
    (h : ∃ calls, Placed session.device.header.controlPacketSize session.layout session.control session.drafts calls)
    (hstep : Step session next) :
    ∃ calls, Placed next.device.header.controlPacketSize next.layout next.control next.drafts calls := by
  obtain ⟨calls, h⟩ := h
  cases hstep with
  | setDevice hset hkeep =>
    exact ⟨calls, h.resize fun hplaced => (Device.frame_of_set hset).2 (hkeep hplaced)⟩
  | placeControl hfirst hplace =>
    obtain ⟨⟨slot, after⟩, hallocate, rfl⟩ := map_eq_ok_iff.mp hplace
    rw [hfirst] at h
    exact ⟨_, h.placeControl hallocate⟩
  | newInterface hnew =>
    cases hnew
    exact ⟨calls, h⟩
  | makeInterface number => exact ⟨calls, h⟩
  | setInterface hhandle hset => exact ⟨calls, h⟩
  | addExtra hhandle hadd => exact ⟨calls, h⟩
  | save hhandle hadopt =>
    obtain ⟨_, _, _, rfl⟩ := Device.adopt_eq_ok_iff.mp hadopt
    exact ⟨calls, h⟩
  | newDraft => exact ⟨calls, h.concat⟩
  | setDraft position hstage hset =>
    have hchecked := h.checked _ (List.getElem_mem position.isLt)
    refine ⟨calls, h.set position (.set hchecked hset) (fun hne => absurd rfl hne) ?_⟩
    rw [Draft.descriptors_of_described hstage, Draft.descriptors_of_described rfl]
  | place position hstage hplace => exact ⟨_, h.place position hstage hplace⟩
  | refuse position hstage hplace => exact ⟨calls, h.refuse hplace⟩
  | addEndpoint position hstage hhandle hadd =>
    have hmem : session.drafts.get position ∈ session.drafts := List.getElem_mem position.isLt
    have hchecked := h.checked _ hmem
    have hne : (session.drafts.get position).stage ≠ .described := by
      rw [hstage]
      exact Stage.placed_ne_described
    refine ⟨calls, h.set position hchecked (fun _ => h.complete (session.drafts.get position) hmem hne) ?_⟩
    rw [Draft.descriptors_of_ne hne, Draft.descriptors_of_ne (Stage.added_ne_described _)]

theorem Reachable.placed {session : Session} (h : Reachable session) :
    ∃ calls, Placed session.device.header.controlPacketSize session.layout session.control session.drafts
      calls := by
  induction h with
  | start hnew => exact ⟨[], placed_start _⟩
  | step _ hstep ih => exact placed_of_step ih hstep

end Session

end UsbCompiler
