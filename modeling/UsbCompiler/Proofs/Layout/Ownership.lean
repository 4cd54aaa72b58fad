import Mathlib.Algebra.BigOperators.Group.List.Basic
import UsbCompiler.Proofs.Layout.Tiling
import UsbCompiler.Proofs.Lists

/-!
# `UsbCompiler.Proofs.Layout.Ownership` — every region has one owner

What a run hands out to endpoints ends up in the fields of slots, each region in one field. An endpoint only
moves into a half that is not in use, and a half that is not in use has no buffer that could be lost; that is
the invariant which carries ownership through shared slots. Together with the tiling of memory it gives the
whole picture of packet memory after any run of calls.

## Contents
- `Slot.Paired`: a half has a buffer exactly if it is in use.
- `Layout.Owned` and `Layout.owned_of_effect`: regions and the fields that hold them.
- `Layout.Tiled`, `Layout.run_tiles_memory` and a run that fills two slots.
-/

namespace UsbCompiler

/-! ## Halves and buffers -/

namespace Slot

variable {slot : Slot}

/-- A half is in use exactly if it has a buffer, unless the slot is double-buffered. -/
def Paired (slot : Slot) : Prop :=
  slot.doubleBuffered = false → ∀ d : Direction, (slot.half d).enabled = (slot.half d).buffer.isSome

theorem Paired.buffer_eq_none (h : slot.Paired) (hdouble : slot.doubleBuffered = false) {d : Direction}
    (hdisabled : (slot.half d).enabled = false) : (slot.half d).buffer = none := by
  have hsame := h hdouble d
  rw [hdisabled] at hsame
  exact Option.isNone_iff_eq_none.mp (Option.isSome_eq_false_iff.mp hsame.symm)

theorem doubleBuffered_setHalf (slot : Slot) (d : Direction) (half : Half) :
    (slot.setHalf d half).doubleBuffered = slot.doubleBuffered := by
  cases d <;> rfl

/-- A half that comes into use together with a buffer keeps a slot paired. -/
theorem Paired.setHalf (h : slot.Paired) (d : Direction) (buffer : Region) :
    (slot.setHalf d ⟨true, some buffer⟩).Paired := by
  intro hdouble e
  rw [doubleBuffered_setHalf] at hdouble
  by_cases hd : d = e
  · subst hd
    rw [half_setHalf_self]
    rfl
  · rw [half_setHalf_of_ne _ hd]
    exact h hdouble e

/-- A half without a buffer that gets one adds it to the buffers of the slot. -/
theorem buffers_setHalf {d : Direction} (hnone : (slot.half d).buffer = none) (buffer : Region) :
    ((slot.setHalf d ⟨true, some buffer⟩).buffers).Perm (slot.buffers ++ [buffer]) := by
  cases d with
  | toHost =>
    have hnone : slot.transmit.buffer = none := hnone
    simp only [buffers, Slot.setHalf, hnone, Option.toList_some, Option.toList_none, List.nil_append]
    -- The transmit buffer of a slot comes first, also if it is the newer one.
    exact List.perm_append_comm
  | toDevice =>
    have hnone : slot.receive.buffer = none := hnone
    simp only [buffers, Slot.setHalf, hnone, Option.toList_some, Option.toList_none, List.append_nil]
    exact List.Perm.refl _

end Slot

/-! ## Slots that an endpoint moves into -/

namespace Demand

variable {demand : Demand} {slot : Slot} {memory : PacketMemory}

theorem paired_occupied (h : slot.Paired) : (demand.occupied slot memory).Paired := by
  by_cases hd : demand.doubled = true
  · intro hdouble
    simp only [occupied, hd, if_true, Bool.true_eq_false] at hdouble
  · rw [occupied_of_single (by simpa using hd)]
    exact h.setHalf demand.direction _

/-- An endpoint that moves into a slot adds its buffers to those of the slot. -/
theorem buffers_occupied_of_joins (h : slot.Paired) (hjoins : Layout.Joins demand slot) :
    ((demand.occupied slot memory).buffers).Perm (slot.buffers ++ demand.reserved memory) := by
  rw [occupied_of_single hjoins.single, reserved_of_single hjoins.single]
  exact Slot.buffers_setHalf (h.buffer_eq_none hjoins.notDouble hjoins.disabled) _

/-- A slot of an endpoint's own has the buffers of the endpoint and no others. -/
theorem buffers_occupied_bareSlot (layout : Layout) (number : Int) (memory : PacketMemory) :
    (demand.occupied (layout.bareSlot demand.type number) memory).buffers = demand.reserved memory := by
  by_cases hd : demand.doubled = true
  · simp only [occupied, reserved, hd, if_true, Slot.buffers, Option.toList_some, List.singleton_append]
  · have hd : demand.doubled = false := by simpa using hd
    rw [occupied_of_single hd, reserved_of_single hd]
    cases demand.direction with
    | toHost => rfl
    | toDevice => rfl

end Demand

namespace Layout

variable {layout after : Layout} {call : Call} {receipt : Receipt} {past : List Receipt}

theorem paired_bareSlot (layout : Layout) (type : TransferType) (number : Int) :
    (layout.bareSlot type number).Paired := by
  intro _ d
  cases d <;> rfl

theorem paired_controlSlot (memory : PacketMemory) (size : Int) : (controlSlot memory size).Paired := by
  intro _ d
  cases d <;> rfl

/-! ## Ownership -/

/-- **Ownership.** The table entries that were handed out are those of the slots, in order, and each buffer that
    was handed out is held by one half of one slot. -/
structure Owned (layout : Layout) (past : List Receipt) : Prop where
  paired : ∀ slot ∈ layout.slots, slot.Paired
  entries : past.flatMap Receipt.entries = layout.slots.map Slot.entry
  buffers : (past.flatMap Receipt.buffers).Perm (layout.slots.flatMap Slot.buffers)

theorem owned_empty : Owned .empty [] :=
  ⟨fun _ hslot => absurd hslot List.not_mem_nil, rfl, .nil⟩

/-- A slot that is added brings its entry and its buffers along. -/
theorem Owned.append {slot : Slot} {memory : PacketMemory} (h : Owned layout past) (hpaired : slot.Paired)
    (hentries : receipt.entries = [slot.entry]) (hbuffers : receipt.buffers = slot.buffers) :
    Owned ⟨memory, layout.slots ++ [slot]⟩ (past ++ [receipt]) where
  paired := forall_mem_concat h.paired hpaired
  entries := by
    rw [List.flatMap_append, List.flatMap_singleton, h.entries, hentries, List.map_append]
    rfl
  buffers := by
    rw [List.flatMap_append, List.flatMap_singleton, List.flatMap_append, List.flatMap_singleton, hbuffers]
    exact h.buffers.append_right slot.buffers

/-- A slot that an endpoint moves into keeps its entry and gets the buffers of the endpoint. -/
theorem Owned.share {demand : Demand} {memory : PacketMemory} {grants : List Grant} (h : Owned layout past)
    (position : Fin layout.slots.length) (hjoins : Joins demand (layout.slots.get position)) :
    Owned ⟨memory, layout.slots.set position (demand.occupied (layout.slots.get position) layout.memory)⟩
      (past ++ [{ buffers := demand.reserved layout.memory, grants }]) where
  paired := forall_mem_set h.paired (Demand.paired_occupied (h.paired _ (List.getElem_mem position.isLt)))
  entries := by
    rw [List.flatMap_append, List.flatMap_singleton, List.append_nil, h.entries]
    exact (map_set_of_eq position.isLt (Demand.entry_occupied _ _)).symm
  buffers := by
    have hpaired := h.paired _ (List.getElem_mem position.isLt)
    rw [List.flatMap_append, List.flatMap_singleton]
    refine (h.buffers.append_right _).trans (List.Perm.symm ?_)
    exact perm_flatMap_set position.isLt (Demand.buffers_occupied_of_joins hpaired hjoins)

/-- **Calls keep ownership**, as long as they reserve nothing beside the slots. -/
theorem owned_of_effect (hslots : ¬call.Reserves) (h : Owned layout past)
    (heffect : Effect layout call after receipt) : Owned after (past ++ [receipt]) := by
  cases heffect with
  | refuse =>
    refine ⟨h.paired, ?_, ?_⟩
    · rw [List.flatMap_append, List.flatMap_singleton, List.append_nil, h.entries]
    · rw [List.flatMap_append, List.flatMap_singleton, List.append_nil]
      exact h.buffers
  | share position hmeets hsize hjoins hfits => exact h.share position hjoins
  | extend hmeets hsize hunused hfew hentry hfits =>
    refine h.append (Demand.paired_occupied (paired_bareSlot layout _ _)) ?_ ?_
    · rw [Demand.entry_occupied]
      rfl
    · rw [Demand.buffers_occupied_bareSlot]
  | control hsize habsent haligned hroom => exact h.append (paired_controlSlot layout.memory _) rfl rfl
  | bare hnumber hfew hentry => exact h.append (paired_bareSlot layout _ _) rfl rfl
  | entry hentry => exact absurd trivial hslots
  | buffer hroom => exact absurd trivial hslots

theorem run_owned {calls : List Call} (hcalls : ∀ call ∈ calls, ¬call.Reserves) :
    Owned (empty.run calls) (empty.receipts calls) :=
  run_induction Owned (fun call => ¬call.Reserves)
    (fun layout _ call hcall h => owned_of_effect hcall h (effect_perform layout call))
    hcalls [] owned_empty

/-! ## Packet memory as a whole -/

/-- **Tiled memory.** The table entries that were handed out are the first ones of the table, in order, and end
    where free memory begins; the buffers, in order, go down from the end of memory to where free memory ends,
    each beginning where the next one ends. -/
structure Tiled (layout : Layout) (entries buffers : List Region) : Prop where
  tableEnd_nonneg : 0 ≤ layout.memory.tableEnd
  ends : layout.memory.tableEnd ≤ layout.memory.bufferStart
  bufferStart_le : layout.memory.bufferStart ≤ 512
  tableEnd_aligned : layout.memory.tableEnd % 8 = 0
  bufferStart_even : layout.memory.bufferStart % 2 = 0
  table : entries = (List.range entries.length).map fun i : Nat => ⟨8 * i, 8⟩
  table_length : layout.memory.tableEnd = 8 * entries.length
  descends : Descends 512 buffers layout.memory.bufferStart
  even : ∀ buffer ∈ buffers, buffer.address % 2 = 0 ∧ buffer.size % 2 = 0
  disjoint : (entries ++ buffers).Pairwise Region.Disjoint

/-- An advance from empty memory tiles it. -/
theorem tiled_of_advances {entries buffers : List Region}
    (h : PacketMemory.empty.Advances entries buffers layout.memory) : Tiled layout entries buffers := by
  have hclimbs : Climbs 0 entries layout.memory.tableEnd := h.climbs
  have hdescends : Descends 512 buffers layout.memory.bufferStart := h.descends
  have hfree : 0 ≤ layout.memory.bufferStart - layout.memory.tableEnd := h.room (by decide)
  obtain ⟨hlist, htable⟩ := hclimbs.eq_map
  obtain ⟨hstart, heven⟩ := hdescends.even (by decide)
  obtain ⟨hpositive, hentries⟩ := hclimbs.bounds
  obtain ⟨hsmall, hbuffers⟩ := hdescends.bounds
  rw [Int.zero_add] at htable
  simp only [Int.zero_add] at hlist
  refine ⟨hpositive, by omega, hsmall, by omega, hstart, hlist, htable, hdescends, heven, ?_⟩
  refine List.pairwise_append.mpr ⟨hclimbs.pairwise, hdescends.pairwise, ?_⟩
  -- The table lies below the end of the table, the buffers above it.
  intro entry hentry buffer hbuffer
  have hbelow := (hentries entry hentry).2
  have habove := (hbuffers buffer hbuffer).1
  exact .inl (by omega)

/-- Tiled regions lie in packet memory. -/
theorem Tiled.bounds {entries buffers : List Region} (h : Tiled layout entries buffers) :
    ∀ region ∈ entries ++ buffers, 0 ≤ region.address ∧ region.address + region.size ≤ 512 := by
  intro region hregion
  have hends := h.ends
  rcases List.mem_append.mp hregion with hentry | hbuffer
  · rw [h.table, List.mem_map] at hentry
    obtain ⟨i, hi, rfl⟩ := hentry
    have hlt := List.mem_range.mp hi
    have htable := h.table_length
    have htop := h.bufferStart_le
    simp only
    omega
  · have hpositive := h.tableEnd_nonneg
    obtain ⟨hbelow, _, habove⟩ := h.descends.bounds.2 region hbuffer
    omega

theorem run_tiled {calls : List Call} (hcalls : ∀ call ∈ calls, call.Checked) :
    Tiled (empty.run calls) ((empty.receipts calls).flatMap Receipt.entries)
      ((empty.receipts calls).flatMap Receipt.buffers) :=
  tiled_of_advances (run_advances hcalls empty)

/-- **Packet memory after any run.** The regions that were handed out tile both ends of memory. If the calls
    reserve nothing beside the slots, each region is held by one field of one slot, so the slots account for
    all that is taken from memory. -/
theorem run_tiles_memory {calls : List Call} (hcalls : ∀ call ∈ calls, call.Checked) :
    let layout := empty.run calls
    let entries := (empty.receipts calls).flatMap Receipt.entries
    let buffers := (empty.receipts calls).flatMap Receipt.buffers
    Tiled layout entries buffers
      ∧ ((∀ call ∈ calls, ¬call.Reserves) →
        entries = layout.slots.map Slot.entry
          ∧ buffers.Perm (layout.slots.flatMap Slot.buffers)
          ∧ layout.memory.tableEnd = 8 * layout.slots.length
          ∧ 512 - layout.memory.bufferStart = ((layout.slots.flatMap Slot.buffers).map Region.size).sum) := by
  intro layout entries buffers
  have htiled : Tiled layout entries buffers := run_tiled hcalls
  refine ⟨htiled, fun hslots => ?_⟩
  have howned : Owned layout (empty.receipts calls) := run_owned hslots
  refine ⟨howned.entries, howned.buffers, ?_, ?_⟩
  · rw [htiled.table_length, show entries = layout.slots.map Slot.entry from howned.entries, List.length_map]
  · -- Buffers in the order of their owners have the same sum as in the order of their reservation.
    rw [← (howned.buffers.map Region.size).sum_eq]
    exact htiled.descends.sum_size.symm

/-- Endpoint 0 and two bulk endpoints that share a slot, with a refused call in between. -/
theorem run_tiles_memory_bulk :
    let calls := [.allocateControl 64,
      .allocate { direction := some 128, type := some 2, maxPacketSize := some 63 } false,
      .allocateControl 8,
      .allocate { direction := some 0, type := some 2, maxPacketSize := some 63 } false]
    Tiled (empty.run calls) [⟨0, 8⟩, ⟨8, 8⟩] [⟨448, 64⟩, ⟨384, 64⟩, ⟨320, 64⟩, ⟨256, 64⟩]
      ∧ (empty.run calls).slots.map Slot.buffers = [[⟨448, 64⟩, ⟨384, 64⟩], [⟨320, 64⟩, ⟨256, 64⟩]]
      ∧ 512 - (empty.run calls).memory.bufferStart
        = (((empty.run calls).slots.flatMap Slot.buffers).map Region.size).sum := by
  intro calls
  have hcalls : ∀ call ∈ calls, call.Checked := by
    simp only [calls, List.forall_mem_cons]
    exact ⟨trivial, Endpoint.Request.checked_open .toHost .bulk (by decide), trivial,
      Endpoint.Request.checked_open .toDevice .bulk (by decide), nofun⟩
  have hslots : ∀ call ∈ calls, ¬call.Reserves := by
    simp only [calls, List.forall_mem_cons]
    exact ⟨id, id, id, id, nofun⟩
  obtain ⟨htiled, howned⟩ := run_tiles_memory hcalls
  exact ⟨htiled, by decide, (howned hslots).2.2.2⟩

end Layout

end UsbCompiler
