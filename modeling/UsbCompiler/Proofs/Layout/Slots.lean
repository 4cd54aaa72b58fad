import Mathlib.Data.List.Nodup
import UsbCompiler.Proofs.Layout.Accepted
import UsbCompiler.Proofs.Layout.Ownership

/-!
# `UsbCompiler.Proofs.Layout.Slots` — the slots that calls leave behind

Slots come about in one place, are filled in another, and the slot of endpoint 0 is added past the limit for all
others. Whatever the order of the calls, what is left is a set of slots as the hardware has them: one for each
number, number 0 for the control endpoint alone, and in each slot as many buffers as its halves and its
buffering ask for.

## Contents
- `Slot.Regular`: a single slot; `Demand.regular_occupied_of_joins`, `regular_occupied_bareSlot` and
  `Layout.regular_controlSlot`: the three ways to come by one.
- `Layout.Regular`: all slots together, with `Regular.share` and `Regular.append`.
- `Layout.regular_of_effect`, `Layout.run_regular`: what a call keeps and what a run keeps.
- `Layout.run_slots`: the slots after any run, and a run that fills nine of them.
-/

namespace UsbCompiler

/-! ## Single slots -/

/-- **A slot as the hardware has it.** -/
structure Slot.Regular (slot : Slot) : Prop where
  number : 0 ≤ slot.number ∧ slot.number < 16
  /-- Number 0 is the control endpoint. -/
  control : slot.number = 0 ↔ slot.type = .control
  /-- The control endpoint has both halves in use, with a buffer each. -/
  whole : slot.type = .control → slot.doubleBuffered = false
    ∧ ∀ d, (slot.half d).enabled = true ∧ (slot.half d).buffer.isSome = true
  used : ∃ d, (slot.half d).enabled = true
  /-- Without double buffering, a half has a buffer exactly if it is in use. -/
  paired : slot.Paired
  /-- A double-buffered slot has one half in use and two buffers of one size. -/
  doubled : slot.doubleBuffered = true → slot.transmit.enabled ≠ slot.receive.enabled
    ∧ ∃ first second, slot.transmit.buffer = some first ∧ slot.receive.buffer = some second
      ∧ first.size = second.size

namespace Demand

variable {demand : Demand} {slot : Slot} {memory : PacketMemory}

/-- The half that an endpoint moves into is in use, and the other one stays as it was. -/
theorem enabled_occupied_of_single (hd : demand.doubled = false) (d : Direction) :
    ((demand.occupied slot memory).half d).enabled
      = if d = demand.direction then true else (slot.half d).enabled := by
  rw [occupied_of_single hd]
  split
  · next hsame =>
    subst hsame
    rw [Slot.half_setHalf_self]
  · next hother => rw [Slot.half_setHalf_of_ne _ (Ne.symm hother)]

/-- A slot with two buffers for one endpoint. -/
theorem doubled_occupied (hd : demand.doubled = true) :
    (demand.occupied slot memory).transmit.enabled ≠ (demand.occupied slot memory).receive.enabled
      ∧ ∃ first second, (demand.occupied slot memory).transmit.buffer = some first
        ∧ (demand.occupied slot memory).receive.buffer = some second ∧ first.size = second.size := by
  simp only [occupied, hd, if_true]
  refine ⟨?_, _, _, rfl, rfl, rfl⟩
  cases demand.direction with
  | toHost => decide
  | toDevice => decide

theorem used_occupied : ((demand.occupied slot memory).half demand.direction).enabled = true := by
  by_cases hd : demand.doubled = true
  · simp only [occupied, hd, if_true]
    cases demand.direction with
    | toHost => rfl
    | toDevice => rfl
  · rw [enabled_occupied_of_single (by simpa using hd), if_pos rfl]

/-- An endpoint that moves in keeps a slot regular: the slot is not the one of the control endpoint, and none of
    the two is double-buffered. -/
theorem regular_occupied_of_joins (h : slot.Regular) (hcontrol : demand.type ≠ .control)
    (hjoins : Layout.Joins demand slot) : (demand.occupied slot memory).Regular where
  number := by
    rw [number_occupied]
    exact h.number
  control := by
    rw [number_occupied, type_occupied]
    exact h.control
  whole := by
    intro htype
    rw [type_occupied, hjoins.type] at htype
    exact absurd htype hcontrol
  used := ⟨demand.direction, used_occupied⟩
  paired := paired_occupied h.paired
  doubled := by
    intro hdouble
    rw [occupied_of_single hjoins.single, Slot.doubleBuffered_setHalf, hjoins.notDouble] at hdouble
    cases hdouble

/-- A slot of an endpoint's own is regular. -/
theorem regular_occupied_bareSlot {layout : Layout} {number : Int} (hcontrol : demand.type ≠ .control)
    (hunused : layout.Unused number) :
    (demand.occupied (layout.bareSlot demand.type number) memory).Regular where
  number := by
    rw [number_occupied]
    exact ⟨Int.le_of_lt hunused.positive, hunused.small⟩
  control := by
    rw [number_occupied, type_occupied]
    have hpositive := hunused.positive
    refine ⟨fun hzero => ?_, fun htype => absurd htype hcontrol⟩
    have hzero : number = 0 := hzero
    omega
  whole := by
    intro htype
    rw [type_occupied] at htype
    exact absurd htype hcontrol
  used := ⟨demand.direction, used_occupied⟩
  paired := paired_occupied (Layout.paired_bareSlot layout demand.type number)
  doubled := by
    intro hdouble
    apply doubled_occupied
    by_contra hd
    have hd : demand.doubled = false := by simpa using hd
    rw [occupied_of_single hd, Slot.doubleBuffered_setHalf] at hdouble
    cases hdouble

end Demand

namespace Layout

variable {layout after : Layout} {call : Call} {receipt : Receipt} {memory : PacketMemory}

theorem regular_controlSlot (memory : PacketMemory) (size : Int) : (controlSlot memory size).Regular where
  number := ⟨Int.le_refl 0, by show (0 : Int) < 16; decide⟩
  control := ⟨fun _ => rfl, fun _ => rfl⟩
  whole := fun _ => ⟨rfl, fun d => by cases d <;> exact ⟨rfl, rfl⟩⟩
  used := ⟨.toHost, rfl⟩
  paired := paired_controlSlot memory size
  doubled := nofun

/-! ## All slots -/

/-- **The slots of a layout.** No number occurs twice, all but the control endpoint keep to the eight slots of the
    hardware, and only the control endpoint can come ninth. -/
structure Regular (layout : Layout) : Prop where
  slots : ∀ slot ∈ layout.slots, slot.Regular
  distinct : (layout.slots.map Slot.number).Nodup
  others : (layout.slots.map Slot.number).countP (· ≠ 0) ≤ 8
  ninth : 9 ≤ layout.slots.length → (layout.slots.map Slot.number).getLast? = some 0

theorem regular_empty : Regular empty :=
  ⟨fun _ hslot => absurd hslot List.not_mem_nil, List.nodup_nil, by decide, by decide⟩

theorem Regular.numbered (h : Regular layout) : layout.Numbered := fun slot hslot => (h.slots slot hslot).number

/-- There are as many slots as numbers other than 0, and one more if the control endpoint is there. -/
theorem Regular.length_le (h : Regular layout) : layout.slots.length ≤ 9 := by
  have hzero : (layout.slots.map Slot.number).count 0 ≤ 1 := List.nodup_iff_count_le_one.mp h.distinct 0
  have hothers := h.others
  have hsplit := List.length_eq_countP_add_countP (fun n : Int => decide (n ≠ 0))
    (l := layout.slots.map Slot.number)
  have hcount : (layout.slots.map Slot.number).countP (fun n => decide ¬decide (n ≠ 0) = true)
      = (layout.slots.map Slot.number).count 0 := by
    rw [List.count_eq_countP]
    apply List.countP_congr
    intro n _
    simp
  rw [List.length_map, hcount] at hsplit
  omega

/-- An endpoint moves into a slot. -/
theorem Regular.share {demand : Demand} (h : Regular layout) (hcontrol : demand.type ≠ .control)
    (position : Fin layout.slots.length) (hjoins : Joins demand (layout.slots.get position)) :
    Regular ⟨memory, layout.slots.set position (demand.occupied (layout.slots.get position) layout.memory)⟩ := by
  -- No number changes.
  have hnumbers : (layout.slots.set position (demand.occupied (layout.slots.get position) layout.memory)).map
      Slot.number = layout.slots.map Slot.number :=
    map_set_of_eq position.isLt (Demand.number_occupied _ _)
  refine ⟨?_, ?_, ?_, ?_⟩
  · have hslot := h.slots _ (List.getElem_mem position.isLt)
    exact forall_mem_set h.slots (Demand.regular_occupied_of_joins hslot hcontrol hjoins)
  · rw [hnumbers]
    exact h.distinct
  · rw [hnumbers]
    exact h.others
  · rw [hnumbers, List.length_set]
    exact h.ninth

/-- A slot whose number is not there yet is added. -/
theorem Regular.append {slot : Slot} (h : Regular layout) (hslot : slot.Regular)
    (hfresh : ∀ other ∈ layout.slots, other.number ≠ slot.number)
    (hroom : slot.number = 0 ∨ layout.slots.length < 8) : Regular ⟨memory, layout.slots ++ [slot]⟩ := by
  have hothers := h.others
  refine ⟨forall_mem_concat h.slots hslot, ?_, ?_, ?_⟩
  · rw [List.map_append, List.map_singleton, ← List.concat_eq_append]
    refine List.Nodup.concat ?_ h.distinct
    intro hmem
    obtain ⟨other, hother, hsame⟩ := List.mem_map.mp hmem
    exact hfresh other hother hsame
  · rw [List.map_append, List.countP_append, List.map_singleton, List.countP_singleton]
    rcases hroom with hzero | hfew
    · rw [hzero]
      simpa using hothers
    · have hle := List.countP_le_length (p := fun n : Int => decide (n ≠ 0)) (l := layout.slots.map Slot.number)
      rw [List.length_map] at hle
      split
      · omega
      · omega
  · intro hfull
    rw [List.length_append, List.length_singleton] at hfull
    rcases hroom with hzero | hfew
    · rw [List.map_append, List.map_singleton, List.getLast?_concat, hzero]
    · omega

/-! ## Runs -/

/-- **Calls keep slots regular**, as long as they place endpoints. -/
theorem regular_of_effect (hplaces : call.PlacesEndpoint) (h : Regular layout)
    (heffect : Effect layout call after receipt) : Regular after := by
  cases heffect with
  | refuse => exact h
  | share position hmeets hsize hjoins hfits => exact h.share hmeets.notControl position hjoins
  | @extend request doubled demand packetSize number hmeets hsize hunused hfew hentry hfits =>
    refine h.append (Demand.regular_occupied_bareSlot hmeets.notControl hunused) ?_ (.inr hfew)
    rw [Demand.number_occupied]
    exact hunused.fresh
  | control hsize habsent haligned hroom => exact h.append (regular_controlSlot layout.memory _) habsent (.inl rfl)
  | bare hnumber hfew hentry => exact absurd hplaces id
  | entry hentry => exact absurd hplaces id
  | buffer hroom => exact absurd hplaces id

theorem run_regular {calls : List Call} (hcalls : ∀ call ∈ calls, call.PlacesEndpoint) :
    Regular (empty.run calls) :=
  run_induction (fun layout _ => Regular layout) Call.PlacesEndpoint
    (fun layout _ call hcall h => regular_of_effect hcall h (effect_perform layout call))
    hcalls [] regular_empty

/-- **The slots after any run.** Each of them is regular, their numbers are distinct, and there are at most eight
    of them and the control endpoint, which can be the ninth if it comes last. -/
theorem run_slots {calls : List Call} (hcalls : ∀ call ∈ calls, call.PlacesEndpoint) :
    let slots := (empty.run calls).slots
    (slots.map Slot.number).Nodup
      ∧ (∀ slot ∈ slots, slot.Regular)
      ∧ slots.countP (·.number ≠ 0) ≤ 8
      ∧ slots.length ≤ 9
      ∧ (slots.length = 9 → ∃ slot, slots.getLast? = some slot ∧ slot.number = 0) := by
  intro slots
  have hregular : Regular (empty.run calls) := run_regular hcalls
  refine ⟨hregular.distinct, hregular.slots, ?_, hregular.length_le, ?_⟩
  · have hothers := hregular.others
    rw [List.countP_map] at hothers
    exact hothers
  · intro hnine
    have hlast := hregular.ninth (Nat.le_of_eq hnine.symm)
    rw [List.getLast?_map] at hlast
    exact Option.map_eq_some_iff.mp hlast

/-- Seven bulk endpoints to the host and a double-buffered one take all slots, another one shares a slot, and the
    control endpoint still comes behind them. -/
theorem run_slots_nine :
    let toHost : Endpoint.Request := { direction := some 128, type := some 2, maxPacketSize := some 8 }
    let toDevice : Endpoint.Request := { direction := some 0, type := some 2, maxPacketSize := some 8 }
    let calls := List.replicate 7 (.allocate toHost false)
      ++ [.allocate toHost true, .allocate toDevice false, .allocate toHost false, .allocateControl 8]
    let slots := (empty.run calls).slots
    slots.map Slot.number = [1, 2, 3, 4, 5, 6, 7, 8, 0]
      ∧ (slots.map Slot.number).Nodup
      ∧ (∀ slot ∈ slots, slot.Regular)
      ∧ slots.countP (·.number ≠ 0) ≤ 8
      ∧ ∃ slot, slots.getLast? = some slot ∧ slot.number = 0 := by
  intro toHost toDevice calls slots
  have hcalls : ∀ call ∈ calls, call.PlacesEndpoint := by
    intro call hcall
    simp only [calls, List.mem_append, List.mem_replicate, List.mem_cons, List.not_mem_nil, or_false] at hcall
    rcases hcall with ⟨_, rfl⟩ | rfl | rfl | rfl | rfl
    all_goals exact trivial
  have hnumbers : slots.map Slot.number = [1, 2, 3, 4, 5, 6, 7, 8, 0] := by decide
  have hlength : slots.length = 9 := by
    rw [← List.length_map Slot.number, hnumbers]
    rfl
  obtain ⟨hdistinct, hregular, hothers, _, hninth⟩ := run_slots hcalls
  exact ⟨hnumbers, hdistinct, hregular, hothers, hninth hlength⟩

end Layout

end UsbCompiler
