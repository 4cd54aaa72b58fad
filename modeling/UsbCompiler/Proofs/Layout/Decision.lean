import Mathlib.Order.Bounds.Basic
import UsbCompiler.Proofs.Layout.InPlace
import UsbCompiler.Proofs.Layout.Pinned

/-!
# `UsbCompiler.Proofs.Layout.Decision` — what becomes of a request

Number, type, direction and double buffering of a request, the slots that are there and the free space all have a
say in whether an endpoint is placed and where. The checks are spread over the choice of a slot, the search for a
number and the reservations. Taken together they come down to a short list: a request moves into one slot, gets a
slot of its own under one number, or contradicts what is there; and the first two need nothing but room.

None of the later steps can refuse a request that passed the check of the free space, because the slots of a run
leave numbers free, its table stays aligned and buffers are never larger than what was checked.

## Contents
- `Layout.Refuses`, `Layout.MovesIn` and `Layout.Opens`: the three things that can become of a request.
- `Layout.Decides`: the whole list.
- `Layout.chooseShared_of_first`, `chooseShared_of_none` and `exists_chooseNumbered_error`: the choice of a slot.
- `Layout.movesIn_of_choose` and `Layout.opens_of_choose`: room decides about the rest.
- `Layout.run_decides`: every request after every run.
-/

namespace UsbCompiler.Layout

variable {layout : Layout} {request : Endpoint.Request} {demand : Demand}

/-! ## What can become of a request -/

/-- The request is refused with an error of a kind, and nothing changes. -/
def Refuses (layout : Layout) (request : Endpoint.Request) (doubled : Bool) (kind : Error.Kind) : Prop :=
  ∃ e, e.kind = kind ∧ layout.allocate request doubled = .fail layout e

/-- The endpoint moves into a slot and takes its number, if there is room for its buffer. -/
def MovesIn (layout : Layout) (request : Endpoint.Request) (demand : Demand) (position : Fin layout.slots.length) :
    Prop :=
  let filled := demand.occupied (layout.slots.get position) layout.memory
  if demand.bufferSize ≤ layout.free then
    layout.allocate request demand.doubled
      = .ok ⟨demand.remaining layout.memory, layout.slots.set position filled⟩
          { request with number := some (layout.slots.get position).number }
  else layout.Refuses request demand.doubled .exhausted

/-- The endpoint gets a slot of its own with a number, if one of the eight slots is left and there is room for a
    table entry and its buffers. -/
def Opens (layout : Layout) (request : Endpoint.Request) (demand : Demand) (number : Int) : Prop :=
  let filled := demand.occupied (layout.bareSlot demand.type number) layout.memory.afterEntry
  if layout.slots.length < 8 ∧ demand.needed + 8 ≤ layout.free then
    layout.allocate request demand.doubled
      = .ok ⟨demand.remaining layout.memory.afterEntry, layout.slots ++ [filled]⟩
          { request with number := some number }
  else layout.Refuses request demand.doubled .exhausted

/-- **The decision about a request** with a demand. The cases cover every request. -/
structure Decides (layout : Layout) (request : Endpoint.Request) (demand : Demand) : Prop where
  /-- Without a number, the endpoint moves into the first slot that admits it. -/
  shares : demand.number = none → demand.doubled = false → ∀ position : Fin layout.slots.length,
    (layout.slots.get position).admits demand.type demand.direction = true →
    (∀ earlier < position, (layout.slots.get earlier).admits demand.type demand.direction = false) →
    layout.MovesIn request demand position
  /-- If there is none, or the endpoint is double-buffered, it gets a new slot under the least unused number. -/
  opens : demand.number = none →
    (demand.doubled = true ∨ ∀ slot ∈ layout.slots, slot.admits demand.type demand.direction = false) →
    ∃ number, IsLeast {n | layout.Unused n} number ∧ layout.Opens request demand number
  /-- Number 0 is kept for the control endpoint. -/
  reserved : demand.number = some 0 → layout.Refuses request demand.doubled .configuration
  /-- With the number of a slot that admits it, the endpoint moves into this slot. -/
  joins : ∀ position : Fin layout.slots.length, demand.number = some (layout.slots.get position).number →
    demand.doubled = false → (layout.slots.get position).admits demand.type demand.direction = true →
    layout.MovesIn request demand position
  /-- With the number of any other slot, it is refused. -/
  conflicts : ∀ slot ∈ layout.slots, demand.number = some slot.number →
    (demand.doubled = true ∨ slot.admits demand.type demand.direction = false) →
    layout.Refuses request demand.doubled .configuration
  /-- With a number that no slot has, it gets a new slot under this number. -/
  opensNumbered : ∀ number, demand.number = some number → number ≠ 0 →
    (∀ slot ∈ layout.slots, slot.number ≠ number) → layout.Opens request demand number

/-! ## The choice of a slot -/

theorem chooseShared_of_first (hsingle : demand.doubled = false) {position : Fin layout.slots.length}
    (hadmits : (layout.slots.get position).admits demand.type demand.direction = true)
    (hfirst : ∀ earlier < position, (layout.slots.get earlier).admits demand.type demand.direction = false) :
    layout.chooseShared demand = some position := by
  unfold chooseShared
  rw [if_neg (by rw [hsingle]; exact Bool.false_ne_true), List.findFinIdx?_eq_some_iff]
  refine ⟨hadmits, fun earlier hearlier hother => ?_⟩
  exact Bool.false_ne_true ((hfirst earlier hearlier).symm.trans hother)

theorem chooseShared_of_none
    (h : demand.doubled = true ∨ ∀ slot ∈ layout.slots, slot.admits demand.type demand.direction = false) :
    layout.chooseShared demand = none := by
  unfold chooseShared
  split
  · rfl
  · next hsingle =>
    rw [List.findFinIdx?_eq_none_iff]
    intro slot hslot hadmits
    rw [h.resolve_left hsingle slot hslot] at hadmits
    cases hadmits

/-- The number of a slot that the endpoint cannot move into contradicts this slot. -/
theorem exists_chooseNumbered_error (hdistinct : (layout.slots.map Slot.number).Nodup) {slot : Slot}
    (hslot : slot ∈ layout.slots)
    (hconflict : demand.doubled = true ∨ slot.admits demand.type demand.direction = false) :
    ∃ e, e.kind = .configuration ∧ layout.chooseNumbered demand slot.number = .error e := by
  obtain ⟨position, rfl⟩ := List.mem_iff_get.mp hslot
  unfold chooseNumbered
  split
  · exact ⟨_, rfl, rfl⟩
  · split
    · exact ⟨_, rfl, rfl⟩
    · rw [findFinIdx?_of_nodup_map hdistinct position]
      simp only
      split
      · exact ⟨_, rfl, rfl⟩
      · next hfree =>
        split
        · exact ⟨_, rfl, rfl⟩
        · next htype =>
          -- A slot that passes all checks would admit the endpoint.
          simp only [not_or, Bool.not_eq_true] at hfree
          obtain ⟨hsingle, hnotDouble, hdisabled⟩ := hfree
          have hadmits : (layout.slots.get position).admits demand.type demand.direction = true :=
            Slot.admits_iff.mpr ⟨Classical.not_not.mp htype, hnotDouble, hdisabled⟩
          rcases hconflict with hdoubled | hnot
          · rw [hsingle] at hdoubled
            cases hdoubled
          · rw [hadmits] at hnot
            cases hnot

/-! ## Room -/

/-- What cannot be placed is refused. -/
theorem refuses_of_place (hmeets : Demand.Meets request demand.doubled demand) {e : Error}
    (h : layout.place demand = .error e) : layout.Refuses request demand.doubled e.kind := by
  refine ⟨e, rfl, allocate_of_error ?_⟩
  rw [Demand.ofRequest_eq_ok_iff.mpr hmeets]
  exact h

theorem refuses_of_choose (hmeets : Demand.Meets request demand.doubled demand) {e : Error}
    (h : layout.choose demand = .error e) : layout.Refuses request demand.doubled e.kind := by
  refine refuses_of_place hmeets ?_
  rw [place, h]
  rfl

/-- An endpoint that has been assigned a slot needs room for its buffer and nothing else. -/
theorem movesIn_of_choose (hnumbers : layout.Numbered) (hmeets : Demand.Meets request demand.doubled demand)
    {position : Fin layout.slots.length} (hchoose : layout.choose demand = .ok (some position)) :
    layout.MovesIn request demand position := by
  have hsingle := (joins_of_choose hchoose).single
  have hneeded : demand.needed = demand.bufferSize := by
    rw [Demand.needed, hsingle]
    rfl
  unfold MovesIn
  split
  · next hroom =>
    rw [← hneeded] at hroom
    have hfits : demand.Fits layout.memory :=
      Demand.fits_of_needed hmeets.bufferSize_emod_two hroom (fun hd => by rw [hsingle] at hd; cases hd)
    have hplaces := Places.share position hchoose hroom hfits
    refine (allocate_eq_ok_iff hnumbers).mpr ⟨demand, _, Demand.ofRequest_eq_ok_iff.mpr hmeets, hplaces, ?_⟩
    rw [Demand.number_occupied]
  · next hroom =>
    rw [← hneeded] at hroom
    exact refuses_of_place hmeets (place_of_some_of_lt hchoose (Int.not_le.mp hroom))

/-- An endpoint that needs a slot of its own gets it if there is one and room for all that it needs. -/
theorem opens_of_choose (hnumbers : layout.Numbered) (haligned : layout.memory.tableEnd % 8 = 0)
    (hmeets : Demand.Meets request demand.doubled demand) (hpositive : 0 ≤ demand.needed) {number : Int}
    (hchoose : layout.choose demand = .ok none) (hnumber : layout.numberOf demand.number = .ok number) :
    layout.Opens request demand number := by
  unfold Opens
  split
  · next hroom =>
    obtain ⟨hfew, hroom⟩ := hroom
    have hrest : layout.memory.afterEntry.free = layout.free - 8 := PacketMemory.free_afterEntry layout.memory
    have hfits : demand.Fits layout.memory.afterEntry :=
      Demand.fits_of_needed hmeets.bufferSize_emod_two (by omega) (fun _ => by omega)
    have hentry : 8 ≤ layout.free := by omega
    have hplaces := Places.extend number hchoose hroom hfew ⟨haligned, hentry⟩ hnumber hfits
    refine (allocate_eq_ok_iff hnumbers).mpr ⟨demand, _, Demand.ofRequest_eq_ok_iff.mpr hmeets, hplaces, ?_⟩
    rw [Demand.number_occupied, bareSlot]
  · next hrefused =>
    by_cases hroom : demand.needed + 8 ≤ layout.free
    · -- There is room, so all slots are taken.
      have henough : layout.memory.require (demand.needed + 8) = .ok () := PacketMemory.require_eq_ok_iff.mpr hroom
      have hmany : 8 ≤ layout.slots.length := by omega
      have hplace : layout.place demand = .error .slotsInUse := by
        simp only [place, hchoose, bind, Except.bind, extend, PacketMemory.entrySize, henough, newSlot, if_pos hmany]
      exact refuses_of_place hmeets hplace
    · exact refuses_of_place hmeets (place_of_none_of_lt hchoose (Int.not_le.mp hroom))

/-! ## The decision -/

/-- **In front of regular slots** and an aligned table, a request is decided as listed. -/
theorem Regular.decides (h : layout.Regular) (haligned : layout.memory.tableEnd % 8 = 0)
    (hmeets : Demand.Meets request demand.doubled demand)
    (hnumber : ∀ n, demand.number = some n → 0 ≤ n ∧ n < 16) (hpositive : 0 ≤ demand.needed) :
    layout.Decides request demand := by
  have hnew {number : Int} (hwanted : demand.number = some number) (hzero : number ≠ 0)
      (hfresh : ∀ slot ∈ layout.slots, slot.number ≠ number) : layout.Unused number := by
    have hrange := hnumber number hwanted
    exact ⟨by omega, hrange.2, hfresh⟩
  refine ⟨?shares, ?opens, ?reserved, ?joins, ?conflicts, ?opensNumbered⟩
  case shares =>
    intro hnone hsingle position hadmits hfirst
    refine movesIn_of_choose h.numbered hmeets ?_
    rw [choose, hnone]
    exact congrArg Except.ok (chooseShared_of_first hsingle hadmits hfirst)
  case opens =>
    intro hnone hnobody
    have hnine := h.length_le
    obtain ⟨number, hlowest⟩ : ∃ number, layout.lowestFreeNumber = .ok number := exists_lowestFreeNumber (by omega)
    refine ⟨number, lowestFreeNumber_eq_ok_iff.mp hlowest, opens_of_choose h.numbered haligned hmeets hpositive ?_ ?_⟩
    · rw [choose, hnone]
      exact congrArg Except.ok (chooseShared_of_none hnobody)
    · rw [hnone]
      exact hlowest
  case reserved =>
    intro hzero
    have hchoose : layout.choose demand = .error .controlNumberRequested := by
      rw [choose, hzero]
      rfl
    exact refuses_of_choose hmeets hchoose
  case joins =>
    intro position hwanted hsingle hadmits
    obtain ⟨htype, hnotDouble, hdisabled⟩ := Slot.admits_iff.mp hadmits
    have hjoins : Joins demand (layout.slots.get position) := by
      refine ⟨hsingle, htype, hnotDouble, hdisabled, fun n hn => ?_⟩
      rw [hwanted] at hn
      exact Option.some.inj hn
    refine movesIn_of_choose h.numbered hmeets ?_
    rw [choose, hwanted]
    exact chooseNumbered_of_joins h hmeets.notControl position hjoins
  case conflicts =>
    intro slot hslot hwanted hconflict
    obtain ⟨e, hkind, herror⟩ := exists_chooseNumbered_error h.distinct hslot hconflict
    have hchoose : layout.choose demand = .error e := by
      rw [choose, hwanted]
      exact herror
    rw [← hkind]
    exact refuses_of_choose hmeets hchoose
  case opensNumbered =>
    intro number hwanted hzero hfresh
    refine opens_of_choose h.numbered haligned hmeets hpositive ?_ ?_
    · rw [choose, hwanted]
      exact chooseNumbered_of_unused (hnew hwanted hzero hfresh)
    · rw [hwanted]
      rfl

/-- **Every request after every run.** A request that was described setting by setting, with all that it needs, has a
    buffer size, and is decided as listed. -/
theorem run_decides {calls : List Call} (hcalls : ∀ call ∈ calls, call.PlacesEndpoint) {request : Endpoint.Request}
    (hchecked : request.Checked) {t : TransferType} {d : Direction} {packetSize : Int}
    (htype : request.type = some t.code) (hcontrol : t ≠ .control) (hdirection : request.direction = some d.code)
    (hsize : request.maxPacketSize = some packetSize) (doubled : Bool) :
    ∃ size, bufferSize d packetSize = .ok size
      ∧ (empty.run calls).Decides request
        { number := request.number, type := t, direction := d, bufferSize := size, doubled } := by
  have hrange := hchecked.inRange.maxPacketSize packetSize hsize
  obtain ⟨size, hbuffer⟩ := exists_bufferSize d hrange
  refine ⟨size, hbuffer, (run_regular hcalls).decides (run_aligned rfl calls) ?_ hchecked.inRange.number ?_⟩
  · exact ⟨rfl, htype, hdirection, ⟨packetSize, hsize, hbuffer⟩, hcontrol, rfl⟩
  · have hle := (bufferSize_spec hbuffer).1
    unfold Demand.needed
    split <;> simp only <;> omega

/-- Endpoint 0 and a bulk endpoint to the host are there. A bulk endpoint to the device moves in with the second one;
    double-buffered, it would have a slot of its own. -/
theorem run_decides_bulk :
    let toDevice : Endpoint.Request := { direction := some 0, type := some 2, maxPacketSize := some 63 }
    let calls := [.allocateControl 8,
      .allocate { direction := some 128, type := some 2, maxPacketSize := some 64 } false]
    let layout := empty.run calls
    (layout.allocate toDevice false).result = .ok { toDevice with number := some 1 }
      ∧ ∃ number, IsLeast {n | layout.Unused n} number
        ∧ layout.Opens toDevice ⟨none, .bulk, .toDevice, 64, true⟩ number := by
  intro toDevice calls layout
  have hcalls : ∀ call ∈ calls, call.PlacesEndpoint := by
    simp only [calls, List.forall_mem_cons]
    exact ⟨trivial, trivial, List.forall_mem_nil _⟩
  have hchecked : toDevice.Checked := Endpoint.Request.checked_open .toDevice .bulk (by decide)
  have hdecides (doubled : Bool) : layout.Decides toDevice ⟨none, .bulk, .toDevice, 64, doubled⟩ := by
    obtain ⟨size, hsize, hdecides⟩ :=
      @run_decides calls hcalls toDevice hchecked .bulk .toDevice 63 rfl (by decide) rfl rfl doubled
    cases hsize
    exact hdecides
  constructor
  · have hmoves := (hdecides false).shares rfl rfl ⟨1, by decide⟩ (by decide) (by decide)
    unfold MovesIn at hmoves
    rw [if_pos (by decide)] at hmoves
    rw [hmoves]
    rfl
  · exact (hdecides true).opens rfl (.inl rfl)

end UsbCompiler.Layout
