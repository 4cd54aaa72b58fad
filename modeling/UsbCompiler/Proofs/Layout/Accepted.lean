import Mathlib.Data.List.Perm.Subperm
import UsbCompiler.Proofs.Endpoint.Checked
import UsbCompiler.Proofs.Layout.Placement
import UsbCompiler.Proofs.Layout.Run

/-!
# `UsbCompiler.Proofs.Layout.Accepted` — which requests are accepted

Once a slot is chosen, two numbers decide about a request: the free space, and the number of slots if a new
one is needed. None of the reservations that follow can fail, and neither can the search for a number. As long
as all slots have numbers of endpoints, a request takes the number of its slot, so it is accepted exactly if it
is placed, and leaves no trace if it is not.

## Contents
- `Demand.fits_of_needed`: buffers fit where their bytes do.
- `Layout.exists_lowestFreeNumber`: with fewer than fifteen slots some number is free.
- `Layout.exists_share_iff` and `Layout.exists_extend_iff`: when an endpoint is placed in its slot.
- `Layout.Numbered`, `Layout.allocate_eq_ok_iff` and `Layout.state_of_refused`: accepted and refused requests;
  `perform_of_places` and `isOk_allocate_iff`: the same for calls.
-/

namespace UsbCompiler

namespace Demand

variable {demand : Demand} {memory : PacketMemory}

theorem Meets.bufferSize_emod_two {request : Endpoint.Request} {doubled : Bool} (h : Meets request doubled demand) :
    demand.bufferSize % 2 = 0 := by
  obtain ⟨packetSize, _, hbuffer⟩ := h.size
  exact (bufferSize_spec hbuffer).2

/-- Where memory has the bytes that a demand needs, its buffers fit one after another. Buffers of a negative
    size need no room, but the first one must not find memory overdrawn. -/
theorem fits_of_needed (heven : demand.bufferSize % 2 = 0) (hroom : demand.needed ≤ memory.free)
    (hfree : demand.doubled = true → 0 ≤ memory.free) : demand.Fits memory := by
  unfold needed at hroom
  unfold Fits
  rw [evenCeil_of_even heven]
  by_cases hd : demand.doubled = true
  · have hfree := hfree hd
    rw [if_pos hd] at hroom
    exact ⟨by omega, fun _ => hroom⟩
  · rw [if_neg hd] at hroom
    exact ⟨hroom, fun h => absurd h hd⟩

/-- The buffers of a demand take the bytes that it needs from the end of memory. -/
theorem remaining_eq (heven : demand.bufferSize % 2 = 0) (memory : PacketMemory) :
    demand.remaining memory = ⟨memory.tableEnd, memory.bufferStart - demand.needed⟩ := by
  unfold remaining needed PacketMemory.afterBuffer
  rw [evenCeil_of_even heven]
  by_cases hd : demand.doubled = true
  · rw [if_pos hd, if_pos hd, PacketMemory.mk.injEq]
    refine ⟨rfl, ?_⟩
    simp only
    omega
  · rw [if_neg hd, if_neg hd]

end Demand

namespace Layout

variable {layout after : Layout} {demand : Demand}

/-! ## Numbers for new slots -/

/-- Fewer slots than numbers leave a number free. -/
theorem exists_lowestFreeNumber (hfew : layout.slots.length < 15) :
    ∃ number, layout.lowestFreeNumber = .ok number := by
  unfold lowestFreeNumber
  cases hfind : numbers.find? fun (number : Nat) => (layout.find? number).isNone with
  | some number => exact ⟨number, rfl⟩
  | none =>
    -- Every number would be the one of a slot, and there are fifteen of them.
    have htaken : numbers.map Int.ofNat ⊆ layout.slots.map Slot.number := by
      intro n hn
      obtain ⟨number, hnumber, rfl⟩ := List.mem_map.mp hn
      have hsome := List.find?_eq_none.mp hfind number hnumber
      rw [Bool.not_eq_true, Option.isNone_eq_false_iff] at hsome
      obtain ⟨slot, hslot⟩ := Option.isSome_iff_exists.mp hsome
      rw [Layout.find?] at hslot
      have hsame := List.find?_some hslot
      rw [decide_eq_true_eq] at hsame
      exact List.mem_map.mpr ⟨slot, List.mem_of_find?_eq_some hslot, hsame⟩
    have hdistinct : (numbers.map Int.ofNat).Nodup := by decide
    have hcount := (List.subperm_of_subset hdistinct htaken).length_le
    have hfifteen : (numbers.map Int.ofNat).length = 15 := rfl
    rw [hfifteen, List.length_map] at hcount
    omega

/-- A new slot has a number as long as there are fewer slots than numbers. -/
theorem exists_numberOf (hfew : layout.slots.length < 15) (wanted : Option Int) :
    ∃ number, layout.numberOf wanted = .ok number := by
  cases wanted with
  | some number => exact ⟨number, rfl⟩
  | none => exact exists_lowestFreeNumber hfew

/-! ## Placed endpoints -/

/-- An endpoint moves into the slot that was chosen for it exactly if its buffers fit. -/
theorem exists_share_iff {position : Fin layout.slots.length} (heven : demand.bufferSize % 2 = 0)
    (hchoose : layout.choose demand = .ok (some position)) :
    (∃ slot after, Places layout demand slot after) ↔ demand.needed ≤ layout.free := by
  constructor
  · rintro ⟨slot, after, hplaces⟩
    cases hplaces with
    | share other hother hroom hfits => exact hroom
    | extend number hnone hroom hfew hentry hnumber hfits =>
      rw [hchoose] at hnone
      cases hnone
  · intro hroom
    have hsingle := (joins_of_choose hchoose).single
    refine ⟨_, _, .share position hchoose hroom (Demand.fits_of_needed heven hroom ?_)⟩
    intro hd
    rw [hsingle] at hd
    cases hd

/-- An endpoint gets a slot of its own exactly if there are fewer than eight, its entry is to be had and its buffers fit
    next to it. -/
theorem exists_extend_iff (heven : demand.bufferSize % 2 = 0) (hchoose : layout.choose demand = .ok none) :
    (∃ slot after, Places layout demand slot after)
      ↔ layout.slots.length < 8 ∧ layout.memory.HasEntry ∧ demand.needed + 8 ≤ layout.free := by
  constructor
  · rintro ⟨slot, after, hplaces⟩
    cases hplaces with
    | share other hother hroom hfits =>
      rw [hchoose] at hother
      cases hother
    | extend number hnone hroom hfew hentry hnumber hfits => exact ⟨hfew, hentry, hroom⟩
  · rintro ⟨hfew, hentry, hroom⟩
    have hsome : ∃ number, layout.numberOf demand.number = .ok number := exists_numberOf (by omega) _
    obtain ⟨number, hnumber⟩ := hsome
    have hleft : 8 ≤ layout.free := hentry.room
    have hrest : layout.memory.afterEntry.free = layout.free - 8 := PacketMemory.free_afterEntry layout.memory
    refine ⟨_, _, .extend number hchoose hroom hfew hentry hnumber ?_⟩
    exact Demand.fits_of_needed heven (by omega) (fun _ => by omega)

/-! ## Accepted requests -/

/-- All slots have numbers of endpoints. -/
def Numbered (layout : Layout) : Prop := ∀ slot ∈ layout.slots, 0 ≤ slot.number ∧ slot.number < 16

instance (layout : Layout) : Decidable layout.Numbered :=
  inferInstanceAs (Decidable (∀ slot ∈ layout.slots, _))

/-- The slot of a placed endpoint has the number that the request asked for. -/
theorem Places.number_eq {slot : Slot} (h : Places layout demand slot after) {n : Int}
    (hn : demand.number = some n) : slot.number = n := by
  cases h with
  | share position hchoose hroom hfits =>
    rw [Demand.number_occupied]
    exact (joins_of_choose hchoose).number n hn
  | extend number hchoose hroom hfew hentry hnumber hfits =>
    rw [hn] at hnumber
    cases hnumber
    rw [Demand.number_occupied, bareSlot]

/-- **Accepted requests.** A request is accepted exactly if its demand is placed, and it then has the number of
    its slot. -/
theorem allocate_eq_ok_iff (hnumbers : layout.Numbered) {request answered : Endpoint.Request} {doubled : Bool} :
    layout.allocate request doubled = .ok after answered
      ↔ ∃ demand slot, Demand.ofRequest request doubled = .ok demand ∧ Places layout demand slot after
        ∧ answered = { request with number := some slot.number } := by
  have hanswer {demand : Demand} {slot : Slot} {next : Layout}
      (hdemand : Demand.ofRequest request doubled = .ok demand) (hplaces : Places layout demand slot next) :
      layout.allocate request doubled = .ok next { request with number := some slot.number } := by
    rw [allocate_of_places hdemand hplaces, Outcome.ok, Outcome.mk.injEq]
    refine ⟨rfl, ?_⟩
    cases hn : request.number with
    | some n =>
      have hsame := hplaces.number_eq ((Demand.ofRequest_eq_ok_iff.mp hdemand).number.symm.trans hn)
      rw [Option.isSome_some, if_pos rfl, hsame, ← hn]
    | none =>
      rw [Option.isSome_none, if_neg Bool.false_ne_true]
      exact Endpoint.Request.set_number_eq_ok_iff.mpr ⟨hplaces.number_range hnumbers, rfl⟩
  constructor
  · intro h
    rcases allocate_cases layout request doubled with ⟨e, hrefused⟩ | ⟨demand, slot, next, hdemand, hplaces, _⟩
    · rw [hrefused] at h
      cases h
    · rw [hanswer hdemand hplaces] at h
      cases h
      exact ⟨demand, slot, hdemand, hplaces, rfl⟩
  · rintro ⟨demand, slot, hdemand, hplaces, rfl⟩
    exact hanswer hdemand hplaces

/-- A call for an endpoint that is placed is accepted. -/
theorem perform_of_places (hnumbers : layout.Numbered) {request : Endpoint.Request} {doubled : Bool} {slot : Slot}
    (hmeets : Demand.Meets request doubled demand) (hplaces : Places layout demand slot after) :
    layout.perform (.allocate request doubled) = .ok after (.request { request with number := some slot.number }) := by
  have hdemand := Demand.ofRequest_eq_ok_iff.mpr hmeets
  simp only [perform, (allocate_eq_ok_iff hnumbers).mpr ⟨demand, slot, hdemand, hplaces, rfl⟩]
  rfl

/-- No other call for an endpoint is accepted. -/
theorem isOk_allocate_iff (hnumbers : layout.Numbered) {request : Endpoint.Request} {doubled : Bool} :
    (layout.perform (.allocate request doubled)).result.isOk = true
      ↔ ∃ demand slot after, Demand.Meets request doubled demand ∧ Places layout demand slot after := by
  constructor
  · intro hok
    rcases allocate_cases layout request doubled with ⟨e, hrefused⟩ | ⟨demand, slot, after, hdemand, hplaces, _⟩
    · simp only [perform, hrefused] at hok
      cases hok
    · exact ⟨demand, slot, after, Demand.ofRequest_eq_ok_iff.mp hdemand, hplaces⟩
  · rintro ⟨demand, slot, after, hmeets, hplaces⟩
    rw [perform_of_places hnumbers hmeets hplaces]
    rfl

/-- **Refused requests leave no trace.** -/
theorem state_of_refused (hnumbers : layout.Numbered) {request : Endpoint.Request} {doubled : Bool} {e : Error}
    (h : (layout.allocate request doubled).result = .error e) : (layout.allocate request doubled).state = layout := by
  rcases allocate_cases layout request doubled with ⟨e', hrefused⟩ | ⟨demand, slot, next, hdemand, hplaces, _⟩
  · rw [hrefused]
    rfl
  · have hok := (allocate_eq_ok_iff hnumbers).mpr ⟨demand, slot, hdemand, hplaces, rfl⟩
    rw [hok] at h
    cases h

end Layout

end UsbCompiler
