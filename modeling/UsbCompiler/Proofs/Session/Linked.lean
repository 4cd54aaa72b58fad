import Mathlib.Data.List.Nodup
import UsbCompiler.Proofs.Session.Numbered
import UsbCompiler.Proofs.Session.Placed

/-!
# `UsbCompiler.Proofs.Session.Linked` — interfaces and the endpoints that were added to them

A device refers to its interfaces by handles, and an interface keeps copies of the descriptors of its endpoints.
What links the two sides of a session is that every interface holds the descriptors of just those endpoints that
were added to it, and that the device has each interface once, in the place of its number.

## Contents
- `Session.Linked` and its preservation by each step that touches an interface or an endpoint.
- `Session.Linked.endpoints_perm`: the interfaces of a settled session hold all endpoints that were placed.
-/

namespace UsbCompiler

namespace Session

open Interface (Handle Store)

/-- The descriptor of an endpoint that was added to an interface. -/
def Draft.addedTo (handle : Handle) (draft : Draft) : List Endpoint.Descriptor :=
  if draft.stage = .added handle then draft.descriptors else []

theorem Draft.addedTo_of_eq {draft : Draft} {handle : Handle} (h : draft.stage = .added handle) :
    draft.addedTo handle = draft.descriptors :=
  if_pos h

theorem Draft.addedTo_of_ne {draft : Draft} {handle : Handle} (h : draft.stage ≠ .added handle) :
    draft.addedTo handle = [] :=
  if_neg h

/-- **Linked interfaces.** The device has interfaces that are known, each in the place of its number, and an
    interface holds the descriptors of the endpoints that were added to it. -/
structure Linked (store : Store) (interfaces handles : List Handle) (drafts : List Draft) : Prop where
  known : ∀ handle ∈ handles, store.Knows handle
  added : ∀ draft ∈ drafts, ∀ handle, draft.stage = .added handle → store.Knows handle
  numbered : ∀ (i : Nat) handle, interfaces[i]? = some handle →
    store.Knows handle ∧ (store.get handle).number = (i : Int)
  contents : ∀ handle, store.Knows handle →
    ((store.get handle).endpoints).Perm (drafts.flatMap (Draft.addedTo handle))

theorem linked_start : Linked .empty [] [] [] where
  known := fun _ hhandle => absurd hhandle List.not_mem_nil
  added := fun _ hdraft => absurd hdraft List.not_mem_nil
  numbered := nofun
  contents := fun _ hknown => absurd hknown (Nat.not_lt_zero _)

namespace Linked

variable {store : Store} {interfaces handles : List Handle} {drafts : List Draft} {handle : Handle}
  {interface : Interface}

/-- Nothing was added to an interface that is not known. -/
theorem addedTo_eq_nil (h : Linked store interfaces handles drafts) (hunknown : ¬store.Knows handle) :
    drafts.flatMap (Draft.addedTo handle) = [] := by
  rw [List.flatMap_eq_nil_iff]
  intro draft hdraft
  apply Draft.addedTo_of_ne
  intro hadded
  exact hunknown (h.added draft hdraft handle hadded)

/-! ## Steps -/

/-- A new interface without endpoints. -/
theorem grow (h : Linked store interfaces handles drafts) (hempty : interface.endpoints = []) :
    Linked (store.add interface) interfaces handles drafts where
  known := fun handle hhandle => Store.knows_add_iff.mpr (.inl (h.known handle hhandle))
  added := fun draft hdraft handle hadded => Store.knows_add_iff.mpr (.inl (h.added draft hdraft handle hadded))
  numbered := Store.Numbered.grow h.numbered interface
  contents := by
    intro handle hhandle
    rcases Store.knows_add_iff.mp hhandle with hknown | rfl
    · rw [Store.get_add hknown]
      exact h.contents handle hknown
    · rw [Store.get_add_next, hempty, h.addedTo_eq_nil store.not_knows_next]

/-- The caller gets to know an interface. -/
theorem give (h : Linked store interfaces handles drafts) (hknown : store.Knows handle) :
    Linked store interfaces (handles ++ [handle]) drafts where
  known := forall_mem_concat h.known hknown
  added := h.added
  numbered := h.numbered
  contents := h.contents

/-- The device gets an interface with the next number. -/
theorem reserve (h : Linked store interfaces handles drafts) (hknown : store.Knows handle)
    (hnumber : (store.get handle).number = interfaces.length) :
    Linked store (interfaces ++ [handle]) handles drafts where
  known := h.known
  added := h.added
  numbered := Store.Numbered.reserve h.numbered hknown hnumber
  contents := h.contents

/-- The device adopts an interface under its number. -/
theorem adopt (h : Linked store interfaces handles drafts) (hknown : store.Knows handle)
    (hnonneg : 0 ≤ (store.get handle).number) :
    Linked store (interfaces.set (store.get handle).number.toNat handle) handles drafts where
  known := h.known
  added := h.added
  numbered := Store.Numbered.adopt h.numbered hknown hnonneg
  contents := h.contents

/-- An interface changes in something other than its number and its endpoints. -/
theorem put (h : Linked store interfaces handles drafts) (hknown : store.Knows handle)
    (hnumber : interface.number = (store.get handle).number)
    (hendpoints : interface.endpoints = (store.get handle).endpoints) :
    Linked (store.put handle interface) interfaces handles drafts where
  known := fun other hother => Store.knows_put_iff.mpr (h.known other hother)
  added := fun draft hdraft other hadded => Store.knows_put_iff.mpr (h.added draft hdraft other hadded)
  numbered := Store.Numbered.put h.numbered hknown hnumber
  contents := by
    intro other hother
    have hothers := Store.knows_put_iff.mp hother
    by_cases hsame : other = handle
    · subst hsame
      rw [Store.get_put_self hknown, hendpoints]
      exact h.contents other hknown
    · rw [Store.get_put_of_ne hsame]
      exact h.contents other hothers

/-- One more endpoint. -/
theorem concat (h : Linked store interfaces handles drafts) :
    Linked store interfaces handles (drafts ++ [⟨{}, .described⟩]) where
  known := h.known
  added := forall_mem_concat h.added fun handle hadded => absurd hadded (Stage.described_ne_added handle)
  numbered := h.numbered
  contents := by
    intro handle hknown
    rw [List.flatMap_append, List.flatMap_singleton]
    show List.Perm _ (_ ++ [])
    rw [List.append_nil]
    exact h.contents handle hknown

/-- A change to an endpoint that is in no interface. -/
theorem setDraft (h : Linked store interfaces handles drafts) (position : Fin drafts.length) {draft : Draft}
    (hbefore : ∀ handle, (drafts.get position).stage ≠ .added handle) (hafter : ∀ handle, draft.stage ≠ .added handle) :
    Linked store interfaces handles (drafts.set position draft) where
  known := h.known
  added := forall_mem_set h.added fun handle hadded => absurd hadded (hafter handle)
  numbered := h.numbered
  contents := by
    intro handle hknown
    have hsame : draft.addedTo handle = (drafts.get position).addedTo handle := by
      rw [Draft.addedTo_of_ne (hafter handle), Draft.addedTo_of_ne (hbefore handle)]
    rw [flatMap_set_of_eq position.isLt hsame]
    exact h.contents handle hknown

/-- An endpoint that has been placed is added to an interface. -/
theorem addEndpoint (h : Linked store interfaces handles drafts) (position : Fin drafts.length)
    (hstage : (drafts.get position).stage = .placed) (hknown : store.Knows handle) {descriptor : Endpoint.Descriptor}
    (hdescribe : (drafts.get position).request.describe = .ok descriptor) :
    Linked
      (store.put handle { store.get handle with endpoints := (store.get handle).endpoints ++ [descriptor] })
      interfaces handles (drafts.set position ⟨(drafts.get position).request, .added handle⟩) where
  known := fun other hother => Store.knows_put_iff.mpr (h.known other hother)
  added := by
    intro draft hdraft other hadded
    rcases List.mem_or_eq_of_mem_set hdraft with hdraft | rfl
    · exact Store.knows_put_iff.mpr (h.added draft hdraft other hadded)
    · cases hadded
      exact Store.knows_put_iff.mpr hknown
  numbered := Store.Numbered.put h.numbered hknown rfl
  contents := by
    intro other hother
    have hothers := Store.knows_put_iff.mp hother
    have hbefore : drafts[(position : Nat)].addedTo other = [] := by
      apply Draft.addedTo_of_ne
      show (drafts.get position).stage ≠ .added other
      rw [hstage]
      exact Stage.placed_ne_added other
    by_cases hsame : other = handle
    · subst hsame
      have hafter : Draft.addedTo other ⟨(drafts.get position).request, .added other⟩ = [descriptor] := by
        rw [Draft.addedTo_of_eq rfl, Draft.descriptors_of_ne (Stage.added_ne_described other), hdescribe]
        rfl
      rw [Store.get_put_self hknown]
      refine ((h.contents other hknown).append_right [descriptor]).trans (List.Perm.symm ?_)
      apply perm_flatMap_set position.isLt
      rw [hbefore, hafter]
      exact .refl _
    · have hafter : Draft.addedTo other ⟨(drafts.get position).request, .added handle⟩ = [] := by
        apply Draft.addedTo_of_ne
        intro hadded
        exact hsame (Stage.added.inj hadded).symm
      rw [Store.get_put_of_ne hsame, flatMap_set_of_eq position.isLt (hafter.trans hbefore.symm)]
      exact h.contents other hothers

/-! ## Settled sessions -/

/-- The device has no interface twice. -/
theorem nodup (h : Linked store interfaces handles drafts) : interfaces.Nodup := by
  -- An interface has one number, and it can only stand in the place of this number.
  rw [List.nodup_iff_getElem?_ne_getElem?]
  intro i j hij hj hsame
  have hhandle : interfaces[j]? = some interfaces[j] := List.getElem?_eq_getElem hj
  have hi := (h.numbered i _ (hsame.trans hhandle)).2
  have hj := (h.numbered j _ hhandle).2
  omega

/-- **All endpoints arrive.** If every placed endpoint was added to an interface that the device has, then the
    interfaces of the device hold the descriptors of all placed endpoints. -/
theorem endpoints_perm (h : Linked store interfaces handles drafts)
    (hsettled : ∀ draft ∈ drafts, draft.Settled interfaces) :
    ((interfaces.map store.get).flatMap Interface.endpoints).Perm (drafts.flatMap Draft.descriptors) := by
  rw [List.flatMap_map]
  have hcontents : (interfaces.flatMap fun handle => (store.get handle).endpoints).Perm
      (interfaces.flatMap fun handle => drafts.flatMap (Draft.addedTo handle)) := by
    apply List.Perm.flatMap_left
    intro handle hhandle
    obtain ⟨i, hi⟩ := List.mem_iff_getElem?.mp hhandle
    exact h.contents handle (h.numbered i handle hi).1
  -- Counted endpoint by endpoint instead of interface by interface.
  refine (hcontents.trans (flatMap_flatMap_perm interfaces drafts Draft.addedTo)).trans ?_
  apply List.Perm.flatMap_left
  intro draft hdraft
  have harrived := hsettled draft hdraft
  -- What an endpoint holds, it holds in the one interface that it was added to.
  cases hstage : draft.stage with
  | described =>
    rw [Draft.descriptors_of_described hstage, List.flatMap_eq_nil_iff.mpr]
    intro handle _
    apply Draft.addedTo_of_ne
    rw [hstage]
    exact Stage.described_ne_added handle
  | placed =>
    rw [Draft.Settled, hstage] at harrived
    exact harrived.elim
  | added handle =>
    have hall : (interfaces.flatMap fun other => draft.addedTo other)
        = interfaces.flatMap fun other => if handle = other then draft.descriptors else [] := by
      simp only [Draft.addedTo, hstage, Stage.added.injEq]
    rw [Draft.Settled, hstage] at harrived
    rw [hall, flatMap_ite_of_nodup h.nodup harrived]

end Linked

/-- **Every step keeps interfaces linked.** -/
theorem linked_of_step {session next : Session}
    (h : Linked session.store session.device.interfaces session.handles session.drafts)
    (hstep : Step session next) : Linked next.store next.device.interfaces next.handles next.drafts := by
  cases hstep with
  | setDevice hset hkeep =>
    rw [← (Device.frame_of_set hset).1] at h
    exact h
  | placeControl hfirst hplace => exact h
  | newInterface hnew =>
    cases hnew
    -- The device gets an empty interface, the caller another one of the same number.
    have hgrown : Linked (session.store.add (.new session.device.interfaces.length)) session.device.interfaces
        session.handles session.drafts := h.grow rfl
    have hreserved := hgrown.reserve (Store.knows_add_iff.mpr (.inr rfl)) (by rw [Store.get_add_next]; rfl)
    exact (hreserved.grow rfl).give (Store.knows_add_iff.mpr (.inr rfl))
  | makeInterface number => exact (h.grow rfl).give (Store.knows_add_iff.mpr (.inr rfl))
  | setInterface hhandle hset =>
    exact h.put (h.known _ hhandle) (Interface.number_of_set hset) (Interface.endpoints_of_set hset)
  | addExtra hhandle hadd =>
    obtain ⟨_, rfl⟩ := Interface.addExtra_eq_ok_iff.mp hadd
    exact h.put (h.known _ hhandle) rfl rfl
  | save hhandle hadopt =>
    obtain ⟨hrange, _, _, rfl⟩ := Device.adopt_eq_ok_iff.mp hadopt
    exact h.adopt (h.known _ hhandle) hrange.1
  | newDraft => exact h.concat
  | setDraft position hstage hset =>
    refine h.setDraft position ?_ Stage.described_ne_added
    rw [hstage]
    exact Stage.described_ne_added
  | place position hstage hplace =>
    refine h.setDraft position ?_ Stage.placed_ne_added
    rw [hstage]
    exact Stage.described_ne_added
  | refuse position hstage hplace => exact h
  | addEndpoint position hstage hhandle hadd =>
    obtain ⟨descriptor, hdescribe, rfl⟩ := Interface.addEndpoint_eq_ok_iff.mp hadd
    exact h.addEndpoint position hstage (h.known _ hhandle) hdescribe

theorem Reachable.linked {session : Session} (h : Reachable session) :
    Linked session.store session.device.interfaces session.handles session.drafts := by
  induction h with
  | start hnew =>
    rw [Device.interfaces_of_new hnew]
    exact linked_start
  | step _ hstep ih => exact linked_of_step ih hstep

end Session

end UsbCompiler
