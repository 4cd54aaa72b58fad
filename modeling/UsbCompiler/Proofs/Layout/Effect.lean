import UsbCompiler.Proofs.Layout.Placement
import UsbCompiler.Proofs.Layout.Run

/-!
# `UsbCompiler.Proofs.Layout.Effect` — all that a call can do

A call either is refused and hands out nothing, or it does one of six things. Each of them is described by the
layout that it leaves and the receipt that it gives, in terms of reservations as values. An invariant of runs
is a case analysis over these descriptions.

## Contents
- `Demand.reserved` and `Demand.grants`: the receipt of a demand that was placed in a slot.
- `Layout.Effect`: a refused call and the six kinds of accepted ones.
- `Layout.effect_of_places` and `Layout.effect_perform`: no call does anything else.
- `Layout.run_aligned`: the descriptor table stays aligned.
-/

namespace UsbCompiler

namespace Demand

variable {demand : Demand}

/-- The buffers that a demand takes from memory. -/
def reserved (demand : Demand) (memory : PacketMemory) : List Region :=
  if demand.doubled then
    [memory.nextBuffer demand.bufferSize, (memory.afterBuffer demand.bufferSize).nextBuffer demand.bufferSize]
  else [memory.nextBuffer demand.bufferSize]

theorem reserved_of_single (hd : demand.doubled = false) (memory : PacketMemory) :
    demand.reserved memory = [memory.nextBuffer demand.bufferSize] := by
  simp only [reserved, hd, Bool.false_eq_true, if_false]

/-- What a demand is granted in a slot. A slot whose number is out of range grants nothing. -/
def grants (demand : Demand) (packetSize : Int) (slot : Slot) (buffers : List Region) : List Layout.Grant :=
  if 0 ≤ slot.number ∧ slot.number < 16 then
    [⟨⟨slot.number, slot.type, demand.direction, demand.doubled, buffers⟩, packetSize⟩]
  else []

/-- The buffers of a demand are those that its slot holds for it afterwards. -/
theorem buffers_occupied (demand : Demand) (slot : Slot) (memory : PacketMemory) :
    (if demand.doubled then (demand.occupied slot memory).buffers
      else ((demand.occupied slot memory).half demand.direction).buffer.toList) = demand.reserved memory := by
  by_cases hd : demand.doubled = true
  · simp only [hd, if_true, reserved, occupied, Slot.buffers, Option.toList_some, List.cons_append,
      List.nil_append]
  · have hd : demand.doubled = false := by simpa using hd
    rw [hd, if_neg Bool.false_ne_true, occupied_of_single hd, reserved_of_single hd, Slot.half_setHalf_self]
    rfl

end Demand

namespace Layout

variable {layout : Layout}

/-! ## Kinds of calls -/

/-- **All that a call can do.** -/
inductive Effect (layout : Layout) : Call → Layout → Receipt → Prop where
  /-- The call is refused. -/
  | refuse {call : Call} : Effect layout call layout {}
  /-- An endpoint moves into a slot that is there. -/
  | share {request : Endpoint.Request} {doubled : Bool} {demand : Demand} {packetSize : Int}
      (position : Fin layout.slots.length)
      (hmeets : Demand.Meets request doubled demand)
      (hsize : request.maxPacketSize = some packetSize)
      (hjoins : Joins demand (layout.slots.get position))
      (hfits : demand.Fits layout.memory) :
      Effect layout (.allocate request doubled)
        ⟨demand.remaining layout.memory,
          layout.slots.set position (demand.occupied (layout.slots.get position) layout.memory)⟩
        { buffers := demand.reserved layout.memory
          grants := demand.grants packetSize (layout.slots.get position) (demand.reserved layout.memory) }
  /-- An endpoint gets a slot of its own. -/
  | extend {request : Endpoint.Request} {doubled : Bool} {demand : Demand} {packetSize number : Int}
      (hmeets : Demand.Meets request doubled demand)
      (hsize : request.maxPacketSize = some packetSize)
      (hunused : layout.Unused number)
      (hfew : layout.slots.length < 8)
      (hentry : layout.memory.HasEntry)
      (hfits : demand.Fits layout.memory.afterEntry) :
      Effect layout (.allocate request doubled)
        ⟨demand.remaining layout.memory.afterEntry, layout.slots
          ++ [demand.occupied (layout.bareSlot demand.type number) layout.memory.afterEntry]⟩
        { entries := [layout.memory.nextEntry]
          buffers := demand.reserved layout.memory.afterEntry
          grants := demand.grants packetSize (layout.bareSlot demand.type number)
            (demand.reserved layout.memory.afterEntry) }
  /-- Endpoint 0 is added. -/
  | control {packetSize : Int}
      (hsize : packetSize ∈ controlSizes)
      (habsent : ∀ slot ∈ layout.slots, slot.number ≠ 0)
      (haligned : layout.memory.tableEnd % 8 = 0)
      (hroom : 8 + packetSize + packetSize ≤ layout.free) :
      Effect layout (.allocateControl packetSize)
        ⟨controlRemaining layout.memory packetSize,
          layout.slots ++ [controlSlot layout.memory packetSize]⟩
        (controlReceipt (controlSlot layout.memory packetSize) packetSize)
  /-- A slot without buffers is added. -/
  | bare {type : TransferType} {wanted : Option Int} {number : Int}
      (hnumber : layout.numberOf wanted = .ok number)
      (hfew : layout.slots.length < 8)
      (hentry : layout.memory.HasEntry) :
      Effect layout (.addSlot type wanted)
        ⟨layout.memory.afterEntry, layout.slots ++ [layout.bareSlot type number]⟩
        { entries := [layout.memory.nextEntry] }
  /-- A table entry is reserved. -/
  | entry (hentry : layout.memory.HasEntry) :
      Effect layout .takeEntry ⟨layout.memory.afterEntry, layout.slots⟩
        { entries := [layout.memory.nextEntry] }
  /-- A buffer is reserved. -/
  | buffer {size : Int} (hroom : evenCeil size ≤ layout.free) :
      Effect layout (.takeBuffer size) ⟨layout.memory.afterBuffer size, layout.slots⟩
        { buffers := [layout.memory.nextBuffer size] }

/-! ## Receipts of requests -/

/-- A request that has been placed in a slot is granted exactly if it takes the number of the slot. -/
theorem requestReceipt_of_places {request : Endpoint.Request} {doubled : Bool} {demand : Demand}
    {packetSize : Int} {slot : Slot} {after : Layout}
    (hmeets : Demand.Meets request doubled demand) (hsize : request.maxPacketSize = some packetSize)
    (hplaces : Places layout demand slot after)
    (hnumber : ∀ n, request.number = some n → slot.number = n ∧ 0 ≤ n ∧ n < 16) :
    layout.requestReceipt request doubled
      = let buffers := if doubled then slot.buffers else (slot.half demand.direction).buffer.toList
        { entries := if layout.slots.length < after.slots.length then [slot.entry] else []
          buffers
          grants := demand.grants packetSize slot buffers } := by
  have hdemand := Demand.ofRequest_eq_ok_iff.mpr hmeets
  have hplace := place_eq_ok_iff.mpr hplaces
  have hdoubled := hmeets.doubled
  subst hdoubled
  have hresult : (layout.allocate request demand.doubled).result
      = if request.number.isSome then .ok request else request.set (.number slot.number) := by
    rw [allocate_of_places hdemand hplaces]
  simp only [requestReceipt, hdemand, hplace, hresult, Demand.grants, Receipt.mk.injEq, true_and]
  cases hn : request.number with
  | some n =>
    -- The request keeps its number, which is the one of the slot and in range.
    obtain ⟨hsame, hrange⟩ := hnumber n hn
    simp only [Option.isSome_some, if_true, hn, hsize, hsame, hrange, and_self]
  | none =>
    -- The request is set to the number of the slot, which is refused if it is out of range.
    simp only [Option.isSome_none, Bool.false_eq_true, if_false, Endpoint.Request.set]
    by_cases hrange : 0 ≤ slot.number ∧ slot.number < 16
    · simp only [if_pos hrange, hsize]
    · simp only [if_neg hrange]

/-- The receipt of a request that was placed, in terms of the slot in front of it. -/
theorem requestReceipt_occupied {request : Endpoint.Request} {demand : Demand} {packetSize : Int}
    {slot : Slot} {memory : PacketMemory} {after : Layout}
    (hmeets : Demand.Meets request demand.doubled demand) (hsize : request.maxPacketSize = some packetSize)
    (hplaces : Places layout demand (demand.occupied slot memory) after)
    (hnumber : ∀ n, request.number = some n → slot.number = n ∧ 0 ≤ n ∧ n < 16) :
    layout.requestReceipt request demand.doubled
      = { entries := if layout.slots.length < after.slots.length then [slot.entry] else []
          buffers := demand.reserved memory
          grants := demand.grants packetSize slot (demand.reserved memory) } := by
  rw [requestReceipt_of_places hmeets hsize hplaces (by simpa using hnumber)]
  simp only [Demand.buffers_occupied, Demand.entry_occupied, Demand.grants, Demand.number_occupied,
    Demand.type_occupied]

/-! ## No other effects -/

/-- A placement has the effect of its kind. The number that a caller chose is the one of the slot. -/
theorem effect_of_places {request : Endpoint.Request} {demand : Demand} {slot : Slot} {after : Layout}
    (hmeets : Demand.Meets request demand.doubled demand) (hplaces : Places layout demand slot after) :
    Effect layout (.allocate request demand.doubled) after (layout.requestReceipt request demand.doubled) := by
  obtain ⟨packetSize, hsize, _⟩ := hmeets.size
  cases hplaces with
  | share position hchoose hroom hfits =>
    have hjoins := joins_of_choose hchoose
    have hnumber : ∀ n, request.number = some n → (layout.slots.get position).number = n ∧ 0 ≤ n ∧ n < 16 := by
      intro n hn
      rw [hmeets.number] at hn
      have hrange := range_of_choose hchoose hn
      exact ⟨hjoins.number n hn, by omega, hrange.2⟩
    rw [requestReceipt_occupied hmeets hsize (.share position hchoose hroom hfits) hnumber]
    simp only [List.length_set, Nat.lt_irrefl, if_false]
    exact .share position hmeets hsize hjoins hfits
  | extend number hchoose hroom hfew hentry hwanted hfits =>
    have hunused := unused_of_choose hchoose hwanted
    have hnumber : ∀ n, request.number = some n
        → (layout.bareSlot demand.type number).number = n ∧ 0 ≤ n ∧ n < 16 := by
      intro n hn
      rw [hmeets.number] at hn
      rw [hn] at hwanted
      cases hwanted
      have hrange := range_of_choose hchoose hn
      exact ⟨rfl, by omega, hrange.2⟩
    rw [requestReceipt_occupied hmeets hsize (.extend number hchoose hroom hfew hentry hwanted hfits) hnumber]
    simp only [List.length_append, List.length_singleton, Nat.lt_succ_self, if_true]
    exact .extend hmeets hsize hunused hfew hentry hfits

theorem effect_allocate (layout : Layout) (request : Endpoint.Request) (doubled : Bool) :
    Effect layout (.allocate request doubled) (layout.allocate request doubled).state
      (layout.requestReceipt request doubled) := by
  cases hdemand : Demand.ofRequest request doubled with
  | error e =>
    have hreceipt : layout.requestReceipt request doubled = {} := by
      simp only [requestReceipt, hdemand]
    rw [allocate_of_error (by rw [hdemand]; rfl), hreceipt]
    exact .refuse
  | ok demand =>
    have hmeets := Demand.ofRequest_eq_ok_iff.mp hdemand
    have hdoubled := hmeets.doubled
    subst hdoubled
    cases hplace : layout.place demand with
    | error e =>
      have hreceipt : layout.requestReceipt request demand.doubled = {} := by
        simp only [requestReceipt, hdemand, hplace]
      have hrefused : (Demand.ofRequest request demand.doubled >>= layout.place) = .error e := by
        rw [hdemand]
        exact hplace
      rw [allocate_of_error hrefused, hreceipt]
      exact .refuse
    | ok placed =>
      obtain ⟨slot, after⟩ := placed
      have hplaces := place_eq_ok_iff.mp hplace
      rw [allocate_of_places hdemand hplaces]
      exact effect_of_places hmeets hplaces

/-- **Every call has one of these effects.** -/
theorem effect_perform (layout : Layout) (call : Call) :
    Effect layout call (layout.perform call).state (layout.receipt call) := by
  cases call with
  | allocate request doubled => exact effect_allocate layout request doubled
  | allocateControl packetSize =>
    simp only [perform, receipt]
    cases h : layout.allocateControl packetSize with
    | error e => exact .refuse
    | ok placed =>
      obtain ⟨slot, after⟩ := placed
      obtain ⟨hsize, habsent, haligned, hroom, rfl, rfl⟩ := allocateControl_eq_ok_iff.mp h
      exact .control hsize habsent haligned hroom
  | addSlot type wanted =>
    simp only [perform, receipt]
    cases h : layout.addSlot type wanted with
    | error e => exact .refuse
    | ok added =>
      obtain ⟨slot, after⟩ := added
      obtain ⟨hfew, hentry, ⟨number, hnumber, rfl⟩, rfl⟩ := addSlot_eq_ok_iff.mp h
      exact .bare hnumber hfew hentry
  | takeEntry =>
    simp only [perform, receipt]
    cases h : layout.takeEntry with
    | error e => exact .refuse
    | ok taken =>
      obtain ⟨region, after⟩ := taken
      obtain ⟨⟨taken, memory⟩, htake, hpair⟩ := map_eq_ok_iff.mp h
      obtain ⟨hentry, rfl, rfl⟩ := PacketMemory.takeEntry_eq_ok_iff.mp htake
      cases hpair
      exact .entry hentry
  | takeBuffer size =>
    simp only [perform, receipt]
    cases h : layout.takeBuffer size with
    | error e => exact .refuse
    | ok taken =>
      obtain ⟨region, after⟩ := taken
      obtain ⟨⟨taken, memory⟩, htake, hpair⟩ := map_eq_ok_iff.mp h
      obtain ⟨hroom, rfl, rfl⟩ := PacketMemory.takeBuffer_eq_ok_iff.mp htake
      cases hpair
      exact .buffer hroom

/-! ## The table -/

/-- Calls keep the table aligned: they take whole entries or none. -/
theorem aligned_of_effect {call : Call} {after : Layout} {receipt : Receipt}
    (heffect : Effect layout call after receipt) (haligned : layout.memory.tableEnd % 8 = 0) :
    after.memory.tableEnd % 8 = 0 := by
  cases heffect with
  | refuse | buffer hroom => exact haligned
  | share position hmeets hsize hjoins hfits =>
    rw [Demand.tableEnd_remaining]
    exact haligned
  | extend hmeets hsize hunused hfew hentry hfits =>
    rw [Demand.tableEnd_remaining, PacketMemory.aligned_afterEntry]
    exact haligned
  | control hsize habsent _ hroom => exact (PacketMemory.aligned_afterEntry layout.memory).trans haligned
  | bare hnumber hfew hentry => exact (PacketMemory.aligned_afterEntry layout.memory).trans haligned
  | entry hentry => exact (PacketMemory.aligned_afterEntry layout.memory).trans haligned

/-- The table of a run that began with an aligned one is aligned. -/
theorem run_aligned (haligned : layout.memory.tableEnd % 8 = 0) (calls : List Call) :
    (layout.run calls).memory.tableEnd % 8 = 0 :=
  run_induction (fun after _ => after.memory.tableEnd % 8 = 0) (fun _ => True)
    (fun before _ call _ h => aligned_of_effect (effect_perform before call) h)
    (fun _ _ => trivial) [] haligned

end Layout

end UsbCompiler
