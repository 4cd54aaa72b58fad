import Mathlib.Data.List.Nodup
import UsbCompiler.Proofs.Layout.Accepted
import UsbCompiler.Proofs.Layout.Ownership

/-!
# `UsbCompiler.Proofs.Layout.Grants` — slots are what was granted

A slot forgets the requests that it came from: it keeps numbers, flags and regions, but no packet sizes. The
receipts of a run remember them. As long as all calls place endpoints, the halves in use and the grants of a
run are the same collection, each half once, and every buffer has the size that the packet size of its grant
asks for.

## Contents
- `Slot.holdings`: the halves of a slot that are in use.
- `Layout.Granted` and `Layout.granted_of_effect`: halves in use and grants.
- `Layout.run_single`: runs without double-buffered requests.
- `Layout.Granted.state_of_fail`: refused requests.
- `Layout.Granted.exists_grant`, `exists_slot` and `nodup_grants`: from a half to its grant and back.
-/

namespace UsbCompiler

/-! ## Halves in use -/

namespace Slot

variable {slot : Slot}

/-- What a slot holds for a direction, if that half is in use. -/
def holdingFor (slot : Slot) (d : Direction) : List Layout.Holding :=
  if (slot.half d).enabled then
    [⟨slot.number, slot.type, d, slot.doubleBuffered,
      if slot.doubleBuffered then slot.buffers else (slot.half d).buffer.toList⟩]
  else []

/-- All that a slot holds. -/
def holdings (slot : Slot) : List Layout.Holding := slot.holdingFor .toHost ++ slot.holdingFor .toDevice

theorem mem_holdings_iff {holding : Layout.Holding} :
    holding ∈ slot.holdings ↔ holding ∈ slot.holdingFor holding.direction := by
  unfold holdings
  rw [List.mem_append]
  constructor
  · intro h
    -- Whatever is held for a direction says so itself.
    have hdirection (d : Direction) (hd : holding ∈ slot.holdingFor d) : holding.direction = d := by
      unfold holdingFor at hd
      split at hd
      · rw [List.mem_singleton.mp hd]
      · cases hd
    rcases h with h | h
    · rw [hdirection _ h]
      exact h
    · rw [hdirection _ h]
      exact h
  · intro h
    cases hd : holding.direction with
    | toHost =>
      rw [hd] at h
      exact .inl h
    | toDevice =>
      rw [hd] at h
      exact .inr h

/-- What a slot holds has its number and its type, and the half for it is in use. -/
theorem eq_of_mem_holdings {holding : Layout.Holding} (h : holding ∈ slot.holdings) :
    holding.number = slot.number ∧ holding.type = slot.type
      ∧ (slot.half holding.direction).enabled = true := by
  rw [mem_holdings_iff, holdingFor] at h
  split at h
  · next henabled =>
    refine ⟨?_, ?_, henabled⟩
    · rw [List.mem_singleton.mp h]
    · rw [List.mem_singleton.mp h]
  · cases h

theorem holdingFor_of_enabled {d : Direction} (hsingle : slot.doubleBuffered = false)
    (henabled : (slot.half d).enabled = true) :
    slot.holdingFor d = [⟨slot.number, slot.type, d, false, (slot.half d).buffer.toList⟩] := by
  unfold holdingFor
  rw [if_pos henabled, hsingle, if_neg Bool.false_ne_true]

/-- What is held for one direction does not depend on the half of the other one. -/
theorem holdingFor_setHalf_of_ne {d e : Direction} (hsingle : slot.doubleBuffered = false) (half : Half)
    (hne : d ≠ e) : (slot.setHalf d half).holdingFor e = slot.holdingFor e := by
  have hdouble := (slot.doubleBuffered_setHalf d half).trans hsingle
  unfold holdingFor
  rw [half_setHalf_of_ne _ hne, hdouble, hsingle, if_neg Bool.false_ne_true]
  cases d with
  | toHost => rfl
  | toDevice => rfl

/-- A half that comes into use with a buffer is held on top of what the slot held before. -/
theorem holdings_setHalf {d : Direction} (hsingle : slot.doubleBuffered = false)
    (hdisabled : (slot.half d).enabled = false) (buffer : Region) :
    ((slot.setHalf d ⟨true, some buffer⟩).holdings).Perm
      (slot.holdings ++ [⟨slot.number, slot.type, d, false, [buffer]⟩]) := by
  have hnone : slot.holdingFor d = [] := if_neg (by rw [hdisabled]; exact Bool.false_ne_true)
  have hnew : (slot.setHalf d ⟨true, some buffer⟩).holdingFor d
      = [⟨slot.number, slot.type, d, false, [buffer]⟩] := by
    have hdouble := (slot.doubleBuffered_setHalf d ⟨true, some buffer⟩).trans hsingle
    rw [holdingFor_of_enabled hdouble (by rw [half_setHalf_self]), half_setHalf_self]
    cases d with
    | toHost => rfl
    | toDevice => rfl
  unfold holdings
  cases d with
  | toHost =>
    have hne : Direction.toHost ≠ .toDevice := nofun
    rw [hnew, hnone, holdingFor_setHalf_of_ne hsingle _ hne, List.nil_append]
    exact List.perm_append_comm
  | toDevice =>
    have hne : Direction.toDevice ≠ .toHost := nofun
    rw [hnew, hnone, holdingFor_setHalf_of_ne hsingle _ hne, List.append_nil]

/-- No direction is held twice. -/
theorem nodup_holdings (slot : Slot) :
    (slot.holdings.map fun holding => (holding.number, holding.direction)).Nodup := by
  unfold holdings holdingFor
  cases (slot.half .toHost).enabled <;> cases (slot.half .toDevice).enabled <;> simp

end Slot

namespace Demand

variable {demand : Demand} {slot : Slot} {memory : PacketMemory}

/-- What a demand holds in a slot that it is placed in. -/
def holding (demand : Demand) (slot : Slot) (memory : PacketMemory) : Layout.Holding :=
  ⟨slot.number, slot.type, demand.direction, demand.doubled, demand.reserved memory⟩

theorem grants_eq (packetSize : Int) (hrange : 0 ≤ slot.number ∧ slot.number < 16) :
    demand.grants packetSize slot (demand.reserved memory) = [⟨demand.holding slot memory, packetSize⟩] :=
  if_pos hrange

/-- An endpoint that moves into a slot is held on top of what the slot held before. -/
theorem holdings_occupied_of_joins (hjoins : Layout.Joins demand slot) :
    ((demand.occupied slot memory).holdings).Perm (slot.holdings ++ [demand.holding slot memory]) := by
  rw [occupied_of_single hjoins.single, holding, reserved_of_single hjoins.single, hjoins.single]
  exact Slot.holdings_setHalf hjoins.notDouble hjoins.disabled _

/-- A slot of an endpoint's own holds the endpoint and nothing else. -/
theorem holdings_occupied_bareSlot (layout : Layout) (number : Int) (memory : PacketMemory) :
    (demand.occupied (layout.bareSlot demand.type number) memory).holdings
      = [demand.holding (layout.bareSlot demand.type number) memory] := by
  by_cases hd : demand.doubled = true
  · simp only [holding, occupied, reserved, hd, if_true]
    cases demand.direction with
    | toHost => rfl
    | toDevice => rfl
  · have hd : demand.doubled = false := by simpa using hd
    rw [occupied_of_single hd, holding, reserved_of_single hd, hd]
    cases demand.direction with
    | toHost => rfl
    | toDevice => rfl

/-- The buffers of a demand have the size that its packet size asks for. -/
theorem bufferSize_of_mem_reserved {request : Endpoint.Request} {doubled : Bool} {packetSize : Int}
    (hmeets : Meets request doubled demand) (hsize : request.maxPacketSize = some packetSize)
    {buffer : Region} (hbuffer : buffer ∈ demand.reserved memory) :
    UsbCompiler.bufferSize demand.direction packetSize = .ok buffer.size := by
  obtain ⟨size, hsome, hok⟩ := hmeets.size
  rw [hsize] at hsome
  cases hsome
  have heven : evenCeil demand.bufferSize = demand.bufferSize := evenCeil_of_even (bufferSize_spec hok).2
  have hall : buffer.size = evenCeil demand.bufferSize := by
    unfold reserved at hbuffer
    split at hbuffer
    · rcases List.mem_cons.mp hbuffer with rfl | hbuffer
      · rfl
      · rw [List.mem_singleton.mp hbuffer]
        rfl
    · rw [List.mem_singleton.mp hbuffer]
      rfl
  rw [hall, heven]
  exact hok

end Demand

namespace Layout

variable {layout after : Layout} {call : Call} {receipt : Receipt} {past : List Receipt}

theorem holdings_controlSlot (memory : PacketMemory) (size : Int) :
    (controlSlot memory size).holdings
      = (controlReceipt (controlSlot memory size) size).grants.map Grant.toHolding := rfl

/-! ## Grants -/

/-- **Granted slots.** Numbers are in range and distinct, the halves in use are what was granted, each once, and
    buffers have the sizes that were asked for. -/
structure Granted (layout : Layout) (past : List Receipt) : Prop where
  numbers : ∀ slot ∈ layout.slots, 0 ≤ slot.number ∧ slot.number < 16
  distinct : (layout.slots.map Slot.number).Nodup
  holdings : ((past.flatMap Receipt.grants).map Grant.toHolding).Perm (layout.slots.flatMap Slot.holdings)
  sizes : ∀ grant ∈ past.flatMap Receipt.grants, ∀ buffer ∈ grant.buffers,
    bufferSize grant.direction grant.packetSize = .ok buffer.size

theorem granted_empty : Granted .empty [] where
  numbers := fun _ hslot => absurd hslot List.not_mem_nil
  distinct := .nil
  holdings := .nil
  sizes := fun _ hgrant => absurd hgrant List.not_mem_nil

/-- The sizes of one more receipt. -/
theorem Granted.sizes_append (h : Granted layout past)
    (hreceipt : ∀ grant ∈ receipt.grants, ∀ buffer ∈ grant.buffers,
      bufferSize grant.direction grant.packetSize = .ok buffer.size) :
    ∀ grant ∈ (past ++ [receipt]).flatMap Receipt.grants, ∀ buffer ∈ grant.buffers,
      bufferSize grant.direction grant.packetSize = .ok buffer.size := by
  intro grant hgrant
  rw [List.flatMap_append, List.flatMap_singleton] at hgrant
  rcases List.mem_append.mp hgrant with hgrant | hgrant
  · exact h.sizes grant hgrant
  · exact hreceipt grant hgrant

/-- A slot with a number of its own, all that it holds having been granted. -/
theorem Granted.append {slot : Slot} {memory : PacketMemory} (h : Granted layout past)
    (hrange : 0 ≤ slot.number ∧ slot.number < 16) (hfresh : ∀ other ∈ layout.slots, other.number ≠ slot.number)
    (hholdings : slot.holdings = receipt.grants.map Grant.toHolding)
    (hsizes : ∀ grant ∈ receipt.grants, ∀ buffer ∈ grant.buffers,
      bufferSize grant.direction grant.packetSize = .ok buffer.size) :
    Granted ⟨memory, layout.slots ++ [slot]⟩ (past ++ [receipt]) where
  numbers := forall_mem_concat h.numbers hrange
  distinct := by
    rw [List.map_append, List.nodup_append]
    refine ⟨h.distinct, List.nodup_singleton _, ?_⟩
    intro number hnumber other hother
    obtain ⟨before, hbefore, rfl⟩ := List.mem_map.mp hnumber
    rw [List.mem_singleton.mp hother]
    exact hfresh before hbefore
  holdings := by
    rw [List.flatMap_append, List.flatMap_singleton, List.map_append, List.flatMap_append,
      List.flatMap_singleton, hholdings]
    exact h.holdings.append_right _
  sizes := h.sizes_append hsizes

/-- A slot that an endpoint moves into, as the endpoint is granted. -/
theorem Granted.share {demand : Demand} {memory : PacketMemory} {packetSize : Int} {request : Endpoint.Request}
    {doubled : Bool} (h : Granted layout past) (hmeets : Demand.Meets request doubled demand)
    (hsize : request.maxPacketSize = some packetSize) (position : Fin layout.slots.length)
    (hjoins : Joins demand (layout.slots.get position)) :
    Granted ⟨memory, layout.slots.set position (demand.occupied (layout.slots.get position) layout.memory)⟩
      (past ++ [{ buffers := demand.reserved layout.memory
                  grants := demand.grants packetSize (layout.slots.get position) (demand.reserved layout.memory) }]) := by
  have hmem : layout.slots.get position ∈ layout.slots := List.getElem_mem position.isLt
  have hrange := h.numbers _ hmem
  rw [Demand.grants_eq packetSize hrange]
  refine ⟨?_, ?_, ?_, ?_⟩
  · apply forall_mem_set h.numbers
    rw [Demand.number_occupied]
    exact hrange
  · have hsame : (layout.slots.set position (demand.occupied (layout.slots.get position) layout.memory)).map Slot.number
        = layout.slots.map Slot.number := map_set_of_eq position.isLt (Demand.number_occupied _ _)
    rw [hsame]
    exact h.distinct
  · rw [List.flatMap_append, List.flatMap_singleton, List.map_append]
    refine (h.holdings.append_right _).trans (List.Perm.symm ?_)
    exact perm_flatMap_set position.isLt (Demand.holdings_occupied_of_joins hjoins)
  · apply h.sizes_append
    intro grant hgrant buffer hbuffer
    cases List.mem_singleton.mp hgrant
    exact Demand.bufferSize_of_mem_reserved hmeets hsize hbuffer

/-- **Calls that place endpoints keep slots and grants in step.** -/
theorem granted_of_effect (hplaces : call.PlacesEndpoint) (h : Granted layout past)
    (heffect : Effect layout call after receipt) : Granted after (past ++ [receipt]) := by
  cases heffect with
  | refuse =>
    refine ⟨h.numbers, h.distinct, ?_, h.sizes_append (fun _ hgrant => absurd hgrant List.not_mem_nil)⟩
    rw [List.flatMap_append, List.flatMap_singleton, List.append_nil]
    exact h.holdings
  | share position hmeets hsize hjoins hfits => exact h.share hmeets hsize position hjoins
  | @extend request doubled demand packetSize number hmeets hsize hunused hfew hentry hfits =>
    have hrange : 0 ≤ number ∧ number < 16 := ⟨Int.le_of_lt hunused.positive, hunused.small⟩
    rw [Demand.grants_eq packetSize hrange]
    refine h.append ?_ ?_ (Demand.holdings_occupied_bareSlot layout number _) ?_
    · rw [Demand.number_occupied]
      exact hrange
    · rw [Demand.number_occupied]
      exact hunused.fresh
    · intro grant hgrant buffer hbuffer
      cases List.mem_singleton.mp hgrant
      exact Demand.bufferSize_of_mem_reserved hmeets hsize hbuffer
  | @control packetSize hsize habsent haligned hroom =>
    refine h.append (by decide : (0 : Int) ≤ 0 ∧ (0 : Int) < 16) habsent (holdings_controlSlot _ _) ?_
    have heven := evenCeil_of_mem_controlSizes hsize
    intro grant hgrant buffer hbuffer
    -- Both halves have the one size, which is a buffer size for either direction.
    have hbuffer : buffer.size = evenCeil packetSize := by
      rcases List.mem_cons.mp hgrant with rfl | hgrant
      · cases List.mem_singleton.mp hbuffer
        rfl
      · cases List.mem_singleton.mp hgrant
        cases List.mem_singleton.mp hbuffer
        rfl
    have hpacket : grant.packetSize = packetSize := by
      rcases List.mem_cons.mp hgrant with rfl | hgrant
      · rfl
      · cases List.mem_singleton.mp hgrant
        rfl
    rw [hbuffer, heven, hpacket]
    exact bufferSize_of_mem_controlSizes hsize grant.direction
  | bare hnumber hfew hentry => exact absurd hplaces id
  | entry hentry => exact absurd hplaces id
  | buffer hroom => exact absurd hplaces id

theorem run_granted {calls : List Call} (hcalls : ∀ call ∈ calls, call.PlacesEndpoint) :
    Granted (empty.run calls) (empty.receipts calls) :=
  run_induction Granted Call.PlacesEndpoint
    (fun layout _ call hcall h => granted_of_effect hcall h (effect_perform layout call))
    hcalls [] granted_empty

/-- Without double-buffered requests, no slot is double-buffered. -/
theorem run_single {calls : List Call} (hcalls : ∀ call ∈ calls, call.Single) :
    ∀ slot ∈ (empty.run calls).slots, slot.doubleBuffered = false := by
  refine run_induction (fun layout _ => ∀ slot ∈ layout.slots, slot.doubleBuffered = false) Call.Single ?_
    hcalls [] (fun _ hslot => absurd hslot List.not_mem_nil)
  intro layout past call hcall h
  -- The case analysis is over effects, so what the call leaves must be variables.
  have heffect := effect_perform layout call
  generalize (layout.perform call).state = after at heffect ⊢
  generalize layout.receipt call = receipt at heffect
  cases heffect with
  | refuse | entry _ | buffer _ => exact h
  | share position hmeets hsize hjoins hfits =>
    apply forall_mem_set h
    rw [Demand.occupied_of_single hjoins.single, Slot.doubleBuffered_setHalf]
    exact hjoins.notDouble
  | extend hmeets hsize hunused hfew hentry hfits =>
    have hsingle := hmeets.doubled.trans hcall
    apply forall_mem_concat h
    rw [Demand.occupied_of_single hsingle, Slot.doubleBuffered_setHalf]
    rfl
  | control hsize habsent haligned hroom => exact forall_mem_concat h rfl
  | bare hnumber hfew hentry => exact forall_mem_concat h rfl

/-! ## Accepted and refused requests -/

/-- A request that is refused leaves the layout as it is, since the number that it would have been given is one
    that it can take. -/
theorem Granted.state_of_fail (h : Granted layout past) {request : Endpoint.Request} {doubled : Bool} {e : Error}
    (hfail : layout.allocate request doubled = .fail after e) : after = layout := by
  have hstate := @state_of_refused layout h.numbers request doubled e (by rw [hfail]; rfl)
  rw [hfail] at hstate
  exact hstate

/-! ## From halves to grants and back -/

/-- A half in use was granted. -/
theorem Granted.exists_grant (h : Granted layout past) {slot : Slot} (hslot : slot ∈ layout.slots)
    {holding : Holding} (hholding : holding ∈ slot.holdings) :
    ∃ grant ∈ past.flatMap Receipt.grants, grant.toHolding = holding :=
  List.mem_map.mp (h.holdings.mem_iff.mpr (List.mem_flatMap.mpr ⟨slot, hslot, hholding⟩))

/-- What was granted is in use. -/
theorem Granted.exists_slot (h : Granted layout past) {grant : Grant}
    (hgrant : grant ∈ past.flatMap Receipt.grants) :
    ∃ slot ∈ layout.slots, grant.toHolding ∈ slot.holdings :=
  List.mem_flatMap.mp (h.holdings.mem_iff.mp (List.mem_map.mpr ⟨grant, hgrant, rfl⟩))

/-- No direction of a number is granted twice. -/
theorem Granted.nodup_grants (h : Granted layout past) :
    ((past.flatMap Receipt.grants).map fun grant => (grant.number, grant.direction)).Nodup := by
  have hkeys : ((past.flatMap Receipt.grants).map fun grant => (grant.number, grant.direction))
      = ((past.flatMap Receipt.grants).map Grant.toHolding).map
        fun holding => (holding.number, holding.direction) := by
    rw [List.map_map]
    rfl
  rw [hkeys, (h.holdings.map _).nodup_iff, List.map_flatMap, List.nodup_flatMap]
  -- Within a slot the directions differ, between slots the numbers do.
  refine ⟨fun slot _ => slot.nodup_holdings, ?_⟩
  apply (List.pairwise_map.mp h.distinct).imp
  intro a b hne key ha hb
  obtain ⟨x, hx, rfl⟩ := List.mem_map.mp ha
  obtain ⟨y, hy, hkey⟩ := List.mem_map.mp hb
  rw [Prod.mk.injEq, (Slot.eq_of_mem_holdings hx).1, (Slot.eq_of_mem_holdings hy).1] at hkey
  exact hne hkey.1.symm

end Layout

end UsbCompiler
