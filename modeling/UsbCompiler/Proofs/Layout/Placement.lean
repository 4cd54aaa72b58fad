import Mathlib.Order.Bounds.Basic
import UsbCompiler.PacketMemory.Layout
import UsbCompiler.Proofs.Layout.Demand

/-!
# `UsbCompiler.Proofs.Layout.Placement` — all that placing an endpoint can do

Placing an endpoint goes through a choice of slot, a check of the free space and up to three reservations, any
of which can refuse. This module says once what a placement that succeeds has done. Every invariant of layouts
is read off these descriptions, and none of them looks at the code of a placement again.

## Contents
- `Layout.Joins` and `Layout.joins_of_choose`: when an endpoint moves into a slot that is there.
- `Layout.Unused`, `Layout.lowestFreeNumber_eq_error_iff`, `lowestFreeNumber_eq_ok_iff` and `unused_of_choose`: the
  number of a new slot.
- `Layout.Places` and `Layout.place_eq_ok_iff`: the two ways to place an endpoint; `Places.type_eq` and
  `Places.number_range`: the slot that it gets.
- `Layout.allocate_of_error`, `allocate_of_places` and `allocate_cases`: requests.
- `Layout.addSlot_eq_ok_iff` and `Layout.allocateControl_eq_ok_iff`: slots that come about without a demand.
-/

namespace UsbCompiler

namespace Layout

variable {layout after : Layout} {demand : Demand} {slot : Slot}

/-! ## The choice of a slot -/

/-- Whether the endpoint of a demand can move into a slot: both are of one type, neither is double-buffered and
    the half is not in use. -/
structure Joins (demand : Demand) (slot : Slot) : Prop where
  single : demand.doubled = false
  type : slot.type = demand.type
  notDouble : slot.doubleBuffered = false
  disabled : (slot.half demand.direction).enabled = false
  number : ∀ n, demand.number = some n → slot.number = n

/-- A number for a new slot: one of 1 to 15 that no slot has. -/
structure Unused (layout : Layout) (number : Int) : Prop where
  positive : 0 < number
  small : number < 16
  fresh : ∀ slot ∈ layout.slots, slot.number ≠ number

theorem find?_eq_none_iff {number : Int} :
    layout.find? number = none ↔ ∀ slot ∈ layout.slots, slot.number ≠ number := by
  unfold find?
  rw [List.find?_eq_none]
  simp only [decide_eq_true_eq, ne_eq]

/-- A number that a caller chose leads to no slot, or to one that has the number and the half to spare. -/
theorem chooseNumbered_of_ok {number : Int} {chosen : Option (Fin layout.slots.length)}
    (h : layout.chooseNumbered demand number = .ok chosen) :
    0 < number ∧ number < 16
      ∧ (chosen = none ∧ (∀ slot ∈ layout.slots, slot.number ≠ number)
        ∨ ∃ position, chosen = some position ∧ (layout.slots.get position).number = number
          ∧ (demand.doubled = false ∧ (layout.slots.get position).doubleBuffered = false
            ∧ ((layout.slots.get position).half demand.direction).enabled = false)
          ∧ (layout.slots.get position).type = demand.type) := by
  unfold chooseNumbered at h
  split at h
  · cases h
  · split at h
    · cases h
    · next hrange =>
      have hrange := Classical.not_not.mp hrange
      refine ⟨hrange.1, hrange.2, ?_⟩
      split at h
      · next hfind =>
        refine .inl ⟨(Except.ok.inj h).symm, fun slot hslot hsame => ?_⟩
        exact List.findFinIdx?_eq_none_iff.mp hfind slot hslot (decide_eq_true hsame)
      · -- Some slot has the number: the endpoint passes the checks of this slot or is refused.
        next position hfind =>
        have hnumber := of_decide_eq_true (List.findFinIdx?_eq_some_iff.mp hfind).1
        simp only at h
        split at h
        · cases h
        · next hfree =>
          split at h
          · cases h
          · next htype =>
            simp only [not_or, Bool.not_eq_true] at hfree
            exact .inr ⟨position, (Except.ok.inj h).symm, hnumber, hfree, Classical.not_not.mp htype⟩

/-- A number that a caller chose is one of 1 to 15, or there is no choice. -/
theorem range_of_choose {chosen : Option (Fin layout.slots.length)} (h : layout.choose demand = .ok chosen)
    {n : Int} (hn : demand.number = some n) : 0 < n ∧ n < 16 := by
  unfold choose at h
  rw [hn] at h
  obtain ⟨hpositive, hsmall, _⟩ := chooseNumbered_of_ok h
  exact ⟨hpositive, hsmall⟩

/-- A slot that is chosen is one that the endpoint can move into. -/
theorem joins_of_choose {position : Fin layout.slots.length}
    (h : layout.choose demand = .ok (some position)) : Joins demand (layout.slots.get position) := by
  unfold choose at h
  split at h
  · -- The caller chose the number.
    next number hn =>
    obtain ⟨_, _, ⟨hnone, _⟩ | ⟨other, hsome, hnumber, hfree, htype⟩⟩ := chooseNumbered_of_ok h
    · cases hnone
    · cases hsome
      refine ⟨hfree.1, htype, hfree.2.1, hfree.2.2, ?_⟩
      intro m hm
      rw [hn] at hm
      cases hm
      exact hnumber
  · -- The slot is the first one that admits the endpoint.
    next hn =>
    unfold chooseShared at h
    split at h
    · cases h
    · next hd =>
      obtain ⟨hadmits, _⟩ := List.findFinIdx?_eq_some_iff.mp (Except.ok.inj h)
      obtain ⟨htype, hdouble, hdisabled⟩ := Slot.admits_iff.mp hadmits
      refine ⟨by simpa using hd, htype, hdouble, hdisabled, ?_⟩
      intro m hm
      rw [hn] at hm
      cases hm

theorem Unused.mem_numbers {number : Int} (h : layout.Unused number) :
    ∃ n ∈ numbers, number = (n : Int) ∧ (layout.find? n).isNone = true := by
  have hpositive := h.positive
  have hsmall := h.small
  have hnumber : number = (number.toNat : Int) := by omega
  refine ⟨number.toNat, ?_, hnumber, ?_⟩
  · rw [numbers, List.mem_range'_1]
    omega
  · rw [Option.isNone_iff_eq_none, ← hnumber]
    exact find?_eq_none_iff.mpr h.fresh

theorem unused_of_mem_numbers {n : Nat} (hmem : n ∈ numbers) (hnone : (layout.find? n).isNone = true) :
    layout.Unused n := by
  rw [numbers, List.mem_range'_1] at hmem
  exact ⟨by omega, by omega, find?_eq_none_iff.mp (Option.isNone_iff_eq_none.mp hnone)⟩

/-- The search for a number fails only if there is none to be found. -/
theorem lowestFreeNumber_eq_error_iff {e : Error} :
    layout.lowestFreeNumber = .error e ↔ e = .numbersInUse ∧ ∀ number, ¬layout.Unused number := by
  unfold lowestFreeNumber
  split
  · next n hfind =>
    refine ⟨nofun, fun h => ?_⟩
    have hfree := List.find?_some hfind
    exact absurd (unused_of_mem_numbers (List.mem_of_find?_eq_some hfind) hfree) (h.2 n)
  · next hnone =>
    constructor
    · intro h
      refine ⟨(Except.error.inj h).symm, fun number hunused => ?_⟩
      -- A search without a result has passed by every unused number.
      obtain ⟨m, hm, rfl, hfree⟩ := hunused.mem_numbers
      exact List.find?_eq_none.mp hnone m hm hfree
    · rintro ⟨rfl, _⟩
      rfl

/-- The lowest free number is the least of the unused ones. -/
theorem lowestFreeNumber_eq_ok_iff {number : Int} :
    layout.lowestFreeNumber = .ok number ↔ IsLeast {n | layout.Unused n} number := by
  have hleast {number : Int} (h : layout.lowestFreeNumber = .ok number) : IsLeast {n | layout.Unused n} number := by
    unfold lowestFreeNumber at h
    split at h
    · next n hfind =>
      cases h
      obtain ⟨hnone, hmem, hfirst⟩ := List.find?_range'_eq_some.mp hfind
      refine ⟨unused_of_mem_numbers hmem hnone, ?_⟩
      intro other hother
      obtain ⟨m, hm, rfl, hfree⟩ := hother.mem_numbers
      rw [numbers, List.mem_range'_1] at hm
      by_contra hlt
      have htaken := hfirst m hm.1 (by omega)
      rw [hfree] at htaken
      cases htaken
    · cases h
  refine ⟨hleast, fun h => ?_⟩
  cases hfound : layout.lowestFreeNumber with
  | ok found => rw [(hleast hfound).unique h]
  | error e => exact absurd h.1 ((lowestFreeNumber_eq_error_iff.mp hfound).2 number)

/-- An endpoint that gets a slot of its own gets an unused number with it. -/
theorem unused_of_choose {number : Int} (h : layout.choose demand = .ok none)
    (hnumber : layout.numberOf demand.number = .ok number) : layout.Unused number := by
  unfold choose at h
  split at h
  · next n hn =>
    rw [hn] at hnumber
    cases hnumber
    obtain ⟨hpositive, hsmall, ⟨_, hfresh⟩ | ⟨_, hsome, _⟩⟩ := chooseNumbered_of_ok h
    · exact ⟨hpositive, hsmall, hfresh⟩
    · cases hsome
  · next hn =>
    rw [hn] at hnumber
    exact (lowestFreeNumber_eq_ok_iff.mp hnumber).1

/-! ## Placements -/

/-- A slot without buffers, as it comes about in front of its endpoint. -/
def bareSlot (layout : Layout) (type : TransferType) (number : Int) : Slot :=
  { number, type, entry := layout.memory.nextEntry }

/-- **The two ways to place an endpoint.** It moves into a slot that is there, or it gets a slot of its own
    behind the others. -/
inductive Places (layout : Layout) (demand : Demand) : Slot → Layout → Prop where
  | share (position : Fin layout.slots.length)
      (hchoose : layout.choose demand = .ok (some position))
      (hroom : demand.needed ≤ layout.free)
      (hfits : demand.Fits layout.memory) :
      Places layout demand (demand.occupied (layout.slots.get position) layout.memory)
        ⟨demand.remaining layout.memory,
          layout.slots.set position (demand.occupied (layout.slots.get position) layout.memory)⟩
  | extend (number : Int)
      (hchoose : layout.choose demand = .ok none)
      (hroom : demand.needed + 8 ≤ layout.free)
      (hfew : layout.slots.length < 8)
      (hentry : layout.memory.HasEntry)
      (hnumber : layout.numberOf demand.number = .ok number)
      (hfits : demand.Fits layout.memory.afterEntry) :
      Places layout demand (demand.occupied (layout.bareSlot demand.type number) layout.memory.afterEntry)
        ⟨demand.remaining layout.memory.afterEntry, layout.slots
          ++ [demand.occupied (layout.bareSlot demand.type number) layout.memory.afterEntry]⟩

theorem newSlot_eq_ok_iff {type : TransferType} {wanted : Option Int} {memory : PacketMemory} :
    layout.newSlot type wanted = .ok (slot, memory)
      ↔ layout.slots.length < 8 ∧ layout.memory.HasEntry
        ∧ (∃ number, layout.numberOf wanted = .ok number ∧ slot = layout.bareSlot type number)
        ∧ memory = layout.memory.afterEntry := by
  unfold newSlot
  split
  · next hmany => exact ⟨nofun, fun h => absurd h.1 (by omega)⟩
  · next hfew =>
    constructor
    · intro h
      obtain ⟨number, hnumber, h⟩ := bind_eq_ok_iff.mp h
      obtain ⟨⟨entry, rest⟩, hentry, h⟩ := bind_eq_ok_iff.mp h
      obtain ⟨hthere, rfl, rfl⟩ := PacketMemory.takeEntry_eq_ok_iff.mp hentry
      cases h
      exact ⟨by omega, hthere, ⟨number, hnumber, rfl⟩, rfl⟩
    · rintro ⟨_, hthere, ⟨number, hnumber, rfl⟩, rfl⟩
      refine bind_eq_ok_iff.mpr ⟨number, hnumber, bind_eq_ok_iff.mpr
        ⟨(layout.memory.nextEntry, layout.memory.afterEntry), ?_, rfl⟩⟩
      exact PacketMemory.takeEntry_of_hasEntry hthere

/-- Placing succeeds in these two ways and no other. -/
theorem place_eq_ok_iff : layout.place demand = .ok (slot, after) ↔ Places layout demand slot after := by
  unfold place
  constructor
  · -- Every step succeeded, and its value went into the next one.
    intro h
    obtain ⟨chosen, hchoose, h⟩ := bind_eq_ok_iff.mp h
    cases chosen with
    | some position =>
      obtain ⟨_, hroom, h⟩ := bind_eq_ok_iff.mp h
      obtain ⟨⟨filled, memory⟩, hfill, h⟩ := bind_eq_ok_iff.mp h
      obtain ⟨hfits, rfl, rfl⟩ := Demand.fill_eq_ok_iff.mp hfill
      cases h
      exact .share position hchoose (PacketMemory.require_eq_ok_iff.mp hroom) hfits
    | none =>
      obtain ⟨_, hroom, h⟩ := bind_eq_ok_iff.mp h
      obtain ⟨⟨bare, memory⟩, hnew, h⟩ := bind_eq_ok_iff.mp h
      obtain ⟨⟨filled, rest⟩, hfill, h⟩ := bind_eq_ok_iff.mp h
      obtain ⟨hfew, hentry, ⟨number, hnumber, rfl⟩, rfl⟩ := newSlot_eq_ok_iff.mp hnew
      obtain ⟨hfits, rfl, rfl⟩ := Demand.fill_eq_ok_iff.mp hfill
      cases h
      exact .extend number hchoose (PacketMemory.require_eq_ok_iff.mp hroom) hfew hentry hnumber hfits
  · intro h
    cases h with
    | share position hchoose hroom hfits =>
      refine bind_eq_ok_iff.mpr ⟨_, hchoose, ?_⟩
      refine bind_eq_ok_iff.mpr ⟨(), PacketMemory.require_eq_ok_iff.mpr hroom, ?_⟩
      exact bind_eq_ok_iff.mpr ⟨_, Demand.fill_eq_ok_iff.mpr ⟨hfits, rfl, rfl⟩, rfl⟩
    | extend number hchoose hroom hfew hentry hnumber hfits =>
      refine bind_eq_ok_iff.mpr ⟨_, hchoose, ?_⟩
      refine bind_eq_ok_iff.mpr ⟨(), PacketMemory.require_eq_ok_iff.mpr hroom, ?_⟩
      refine bind_eq_ok_iff.mpr ⟨_, newSlot_eq_ok_iff.mpr ⟨hfew, hentry, ⟨number, hnumber, rfl⟩, rfl⟩, ?_⟩
      exact bind_eq_ok_iff.mpr ⟨_, Demand.fill_eq_ok_iff.mpr ⟨hfits, rfl, rfl⟩, rfl⟩

/-- A placed endpoint is in a slot of its type. -/
theorem Places.type_eq (h : Places layout demand slot after) : slot.type = demand.type := by
  cases h with
  | share position hchoose hroom hfits =>
    rw [Demand.type_occupied]
    exact (joins_of_choose hchoose).type
  | extend number hchoose hroom hfew hentry hnumber hfits => rw [Demand.type_occupied, bareSlot]

/-- As long as all slots have numbers of endpoints, so has the one of a placed endpoint. -/
theorem Places.number_range (hnumbers : ∀ slot ∈ layout.slots, 0 ≤ slot.number ∧ slot.number < 16)
    (h : Places layout demand slot after) : 0 ≤ slot.number ∧ slot.number < 16 := by
  cases h with
  | share position hchoose hroom hfits =>
    rw [Demand.number_occupied]
    exact hnumbers _ (List.getElem_mem position.isLt)
  | extend number hchoose hroom hfew hentry hnumber hfits =>
    rw [Demand.number_occupied]
    have hunused := unused_of_choose hchoose hnumber
    exact ⟨Int.le_of_lt hunused.positive, hunused.small⟩

/-! ## Requests -/

section Requests

variable {request : Endpoint.Request} {doubled : Bool}

theorem allocate_of_error {e : Error} (h : (Demand.ofRequest request doubled >>= layout.place) = .error e) :
    layout.allocate request doubled = .fail layout e := by
  unfold allocate
  rw [h]

theorem allocate_of_places (hdemand : Demand.ofRequest request doubled = .ok demand)
    (hplaces : Places layout demand slot after) :
    layout.allocate request doubled
      = ⟨after, if request.number.isSome then .ok request else request.set (.number slot.number)⟩ := by
  have hplace : (Demand.ofRequest request doubled >>= layout.place) = .ok (slot, after) :=
    bind_eq_ok_iff.mpr ⟨demand, hdemand, place_eq_ok_iff.mpr hplaces⟩
  unfold allocate
  rw [hplace]
  cases request.number with
  | none => rfl
  | some n => rfl

/-- What a refused request leaves and what an accepted one does. A request that is placed and then refuses its
    number keeps its place. -/
theorem allocate_cases (layout : Layout) (request : Endpoint.Request) (doubled : Bool) :
    (∃ e, layout.allocate request doubled = .fail layout e)
      ∨ ∃ demand slot after, Demand.ofRequest request doubled = .ok demand ∧ Places layout demand slot after
        ∧ layout.allocate request doubled
          = ⟨after, if request.number.isSome then .ok request else request.set (.number slot.number)⟩ := by
  cases hplace : Demand.ofRequest request doubled >>= layout.place with
  | error e => exact .inl ⟨e, allocate_of_error hplace⟩
  | ok placed =>
    obtain ⟨slot, after⟩ := placed
    obtain ⟨demand, hdemand, hplace⟩ := bind_eq_ok_iff.mp hplace
    have hplaces := place_eq_ok_iff.mp hplace
    exact .inr ⟨demand, slot, after, hdemand, hplaces, allocate_of_places hdemand hplaces⟩

end Requests

/-! ## Slots without a demand -/

theorem addSlot_eq_ok_iff {type : TransferType} {wanted : Option Int} :
    layout.addSlot type wanted = .ok (slot, after)
      ↔ layout.slots.length < 8 ∧ layout.memory.HasEntry
        ∧ (∃ number, layout.numberOf wanted = .ok number ∧ slot = layout.bareSlot type number)
        ∧ after = ⟨layout.memory.afterEntry, layout.slots ++ [slot]⟩ := by
  unfold addSlot
  rw [map_eq_ok_iff]
  constructor
  · rintro ⟨⟨bare, memory⟩, hnew, hpair⟩
    cases hpair
    obtain ⟨hfew, hentry, hnumber, rfl⟩ := newSlot_eq_ok_iff.mp hnew
    exact ⟨hfew, hentry, hnumber, rfl⟩
  · rintro ⟨hfew, hentry, hnumber, rfl⟩
    exact ⟨(slot, layout.memory.afterEntry), newSlot_eq_ok_iff.mpr ⟨hfew, hentry, hnumber, rfl⟩, rfl⟩

/-- The slot of endpoint 0 with buffers of one size. -/
def controlSlot (memory : PacketMemory) (size : Int) : Slot where
  number := 0
  type := .control
  entry := memory.nextEntry
  transmit := ⟨true, some (memory.afterEntry.nextBuffer size)⟩
  receive := ⟨true, some ((memory.afterEntry.afterBuffer size).nextBuffer size)⟩

/-- Memory without what endpoint 0 takes. -/
def controlRemaining (memory : PacketMemory) (size : Int) : PacketMemory :=
  (memory.afterEntry.afterBuffer size).afterBuffer size

/-- Each packet size of endpoint 0 is a buffer size for both directions. -/
theorem bufferSize_of_mem_controlSizes {size : Int} (h : size ∈ controlSizes) (direction : Direction) :
    bufferSize direction size = .ok size := by
  simp only [controlSizes, List.mem_cons, List.not_mem_nil, or_false] at h
  rcases h with rfl | rfl | rfl | rfl <;> cases direction <;> decide

theorem evenCeil_of_mem_controlSizes {size : Int} (h : size ∈ controlSizes) : evenCeil size = size :=
  Except.ok.inj (bufferSize_of_mem_controlSizes h .toHost)

/-- Where the whole of endpoint 0 fits, its entry and its buffers fit one after another. -/
theorem control_fits {memory : PacketMemory} {size : Int} (h : size ∈ controlSizes)
    (haligned : memory.tableEnd % 8 = 0) (hroom : 8 + size + size ≤ memory.free) :
    0 ≤ size ∧ memory.HasEntry ∧ evenCeil size ≤ memory.afterEntry.free
      ∧ evenCeil size ≤ (memory.afterEntry.afterBuffer size).free := by
  have heven := evenCeil_of_mem_controlSizes h
  have hpositive : 0 ≤ size := by
    simp only [controlSizes, List.mem_cons, List.not_mem_nil, or_false] at h
    omega
  rw [PacketMemory.free_afterBuffer, PacketMemory.free_afterEntry, heven]
  exact ⟨hpositive, ⟨haligned, by omega⟩, by omega, by omega⟩

theorem newControlSlot_eq_ok_iff {memory rest : PacketMemory} {size : Int} (h : size ∈ controlSizes) :
    newControlSlot memory size = .ok (slot, rest)
      ↔ memory.tableEnd % 8 = 0 ∧ 8 + size + size ≤ memory.free ∧ slot = controlSlot memory size
        ∧ rest = controlRemaining memory size := by
  unfold newControlSlot
  simp only [bufferSize_of_mem_controlSizes h, bind, Except.bind]
  by_cases hroom : 8 + size + size ≤ memory.free
  · rw [PacketMemory.require_eq_ok_iff.mpr (by exact hroom)]
    by_cases haligned : memory.tableEnd % 8 = 0
    · obtain ⟨_, hentry, hfirst, hsecond⟩ := control_fits h haligned hroom
      simp only [PacketMemory.takeEntry_of_hasEntry hentry, PacketMemory.takeBuffer_of_le hfirst,
        PacketMemory.takeBuffer_of_le hsecond]
      constructor
      · intro hok
        cases hok
        exact ⟨haligned, hroom, rfl, rfl⟩
      · rintro ⟨_, _, rfl, rfl⟩
        rfl
    · simp only [PacketMemory.takeEntry_of_unaligned haligned]
      exact ⟨nofun, fun hok => absurd hok.1 haligned⟩
  · have hshort : memory.require (PacketMemory.entrySize + size + size)
        = .error (.noRoomForEndpoint (PacketMemory.entrySize + size + size) memory.free) :=
      if_pos (by unfold PacketMemory.entrySize; omega)
    rw [hshort]
    exact ⟨nofun, fun hok => absurd hok.2.1 hroom⟩

/-- Endpoint 0 is added exactly if its size is allowed, it is not there yet, the table is aligned, and its entry and
    buffers fit. -/
theorem allocateControl_eq_ok_iff {size : Int} :
    layout.allocateControl size = .ok (slot, after)
      ↔ size ∈ controlSizes ∧ (∀ other ∈ layout.slots, other.number ≠ 0) ∧ layout.memory.tableEnd % 8 = 0
        ∧ 8 + size + size ≤ layout.free
        ∧ slot = controlSlot layout.memory size
        ∧ after = ⟨controlRemaining layout.memory size, layout.slots ++ [slot]⟩ := by
  unfold allocateControl
  split
  · next hsize => exact ⟨nofun, fun h => absurd h.1 hsize⟩
  · next hsize =>
    have hsize := Classical.not_not.mp hsize
    split
    · next hthere =>
      refine ⟨nofun, fun h => ?_⟩
      rw [find?_eq_none_iff.mpr h.2.1] at hthere
      cases hthere
    · next habsent =>
      have habsent := find?_eq_none_iff.mp (Option.not_isSome_iff_eq_none.mp habsent)
      rw [map_eq_ok_iff]
      constructor
      · rintro ⟨⟨control, memory⟩, hnew, hpair⟩
        cases hpair
        obtain ⟨haligned, hroom, rfl, rfl⟩ := (newControlSlot_eq_ok_iff hsize).mp hnew
        exact ⟨hsize, habsent, haligned, hroom, rfl, rfl⟩
      · rintro ⟨_, _, haligned, hroom, rfl, rfl⟩
        exact ⟨_, (newControlSlot_eq_ok_iff hsize).mpr ⟨haligned, hroom, rfl, rfl⟩, rfl⟩

end Layout

end UsbCompiler
