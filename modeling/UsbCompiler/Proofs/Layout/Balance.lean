import UsbCompiler.Proofs.Layout.Slots
import UsbCompiler.Proofs.Layout.Wishes

/-!
# `UsbCompiler.Proofs.Layout.Balance` — open requests in any order

An endpoint without a number moves into the first slot that admits it, and gets a new slot only if there is
none. That this is the best that can be done comes from a balance: at any time, the slots of a type that may be
shared are as many as the wishes of that type in the direction that has more of them. So a wish finds a slot
exactly if its direction has fewer wishes than the other one, and slots and bytes add up to what the list of
wishes needs, whatever its order. Nothing that is refused on the way would have fitted in the end.

## Contents
- `Slot.shared`, `Slot.serving` and `Slot.countP_admits`: slots of a type, with and without a half to spare.
- `Layout.Balanced`, with `Balanced.share` and `Balanced.extend`: the invariant and the two ways to keep it.
- `Layout.Fits` and `Balanced.fits`: what fits on top of a layout.
- `Balanced.exists_places`, `Balanced.of_places` and `Balanced.perform`: a single wish.
- `Balanced.accepts`: lists of wishes.
- `Layout.Opening`, `Layout.run_wishes` and wishes in two orders.
-/

namespace UsbCompiler

/-! ## Slots of a type -/

namespace Slot

/-- Whether endpoints of a type in opposite directions can share a slot. -/
def shared (t : TransferType) (slot : Slot) : Bool := slot.type = t && !slot.doubleBuffered

/-- Whether a slot that can be shared serves an endpoint of a type and direction. -/
def serving (t : TransferType) (d : Direction) (slot : Slot) : Bool := slot.shared t && (slot.half d).enabled

/-- The slots that admit an endpoint are those of its type that do not serve its direction yet. -/
theorem countP_admits (slots : List Slot) (t : TransferType) (d : Direction) :
    slots.countP (serving t d) + slots.countP (fun slot => slot.admits t d) = slots.countP (shared t) := by
  have hsplit := List.countP_eq_countP_filter_add slots (shared t) fun slot => (slot.half d).enabled
  rw [List.countP_filter, List.countP_filter] at hsplit
  exact hsplit.symm

end Slot

namespace Demand

variable {demand : Demand} {slot : Slot} {memory : PacketMemory}

/-- An endpoint that moves in leaves open whether its slot can be shared. -/
theorem shared_occupied_of_single (hsingle : demand.doubled = false) (t : TransferType) :
    (demand.occupied slot memory).shared t = slot.shared t := by
  unfold Slot.shared
  rw [type_occupied, occupied_of_single hsingle, Slot.doubleBuffered_setHalf]

theorem serving_occupied_of_single (hsingle : demand.doubled = false) (t : TransferType) (d : Direction) :
    (demand.occupied slot memory).serving t d
      = if d = demand.direction then slot.shared t else slot.serving t d := by
  unfold Slot.serving
  rw [shared_occupied_of_single hsingle, enabled_occupied_of_single hsingle]
  split
  · rw [Bool.and_true]
  · rfl

/-- A slot of an endpoint's own can be shared unless it is double-buffered. -/
theorem shared_occupied_bareSlot (layout : Layout) (number : Int) (t : TransferType) :
    (demand.occupied (layout.bareSlot demand.type number) memory).shared t
      = (!demand.doubled && demand.type = t) := by
  by_cases hd : demand.doubled = true
  · simp only [Slot.shared, occupied, hd, if_true, Bool.not_true, Bool.and_false, Bool.false_and]
  · have hd : demand.doubled = false := by simpa using hd
    rw [shared_occupied_of_single hd]
    simp only [Slot.shared, Layout.bareSlot, hd, Bool.not_false, Bool.and_true, Bool.true_and]
    rfl

/-- A slot of an endpoint's own serves the endpoint and no other. -/
theorem serving_occupied_bareSlot (layout : Layout) (number : Int) (t : TransferType) (d : Direction) :
    (demand.occupied (layout.bareSlot demand.type number) memory).serving t d
      = ((!demand.doubled && demand.type = t) && demand.direction = d) := by
  unfold Slot.serving
  rw [shared_occupied_bareSlot]
  by_cases hd : demand.doubled = true
  · simp only [hd, Bool.not_true, Bool.false_and]
  · have hd : demand.doubled = false := by simpa using hd
    rw [enabled_occupied_of_single hd]
    by_cases he : demand.direction = d
    · rw [if_pos he.symm, decide_eq_true he]
    · have hother : ((layout.bareSlot demand.type number).half d).enabled = false := by cases d <;> rfl
      rw [if_neg (Ne.symm he), hother, decide_eq_false he]

end Demand

namespace Layout

variable {start layout after : Layout} {past wishes : List Wish} {wish : Wish} {demand : Demand}

/-- An endpoint that moves into a slot is served on top of what the slots served before. -/
theorem countP_serving_set {memory : PacketMemory} (position : Fin layout.slots.length)
    (hjoins : Joins demand (layout.slots.get position)) (t : TransferType) (d : Direction) :
    (layout.slots.set position (demand.occupied (layout.slots.get position) memory)).countP (Slot.serving t d)
      = layout.slots.countP (Slot.serving t d)
        + if demand.doubled = false ∧ demand.type = t ∧ demand.direction = d then 1 else 0 := by
  have hnew := @Demand.serving_occupied_of_single demand (layout.slots.get position) memory hjoins.single t d
  have hshared : (layout.slots.get position).shared t = decide (demand.type = t) := by
    simp only [Slot.shared, hjoins.type, hjoins.notDouble, Bool.not_false, Bool.and_true]
  by_cases hd : d = demand.direction
  · subst hd
    have hold : (layout.slots.get position).serving t demand.direction = false := by
      rw [Slot.serving, hjoins.disabled, Bool.and_false]
    rw [if_pos rfl, hshared] at hnew
    by_cases ht : demand.type = t
    · rw [if_pos ⟨hjoins.single, ht, rfl⟩]
      exact countP_set_of_pos position.isLt hold (by rw [hnew, decide_eq_true ht])
    · rw [if_neg (fun h => ht h.2.1)]
      exact countP_set_of_eq position.isLt (hnew.trans ((decide_eq_false ht).trans hold.symm))
  · rw [if_neg hd] at hnew
    rw [if_neg (fun h => hd h.2.2.symm)]
    exact countP_set_of_eq position.isLt hnew

/-! ## Balance -/

/-- **Balanced layouts.** A layout in which a list of wishes has been placed, on top of what was there at the
    start. -/
structure Balanced (start : Layout) (wishes : List Wish) (layout : Layout) : Prop where
  regular : layout.Regular
  aligned : layout.memory.tableEnd % 8 = 0
  few : layout.slots.length ≤ 8
  room : 0 ≤ layout.free
  memory : layout.memory
    = ⟨start.memory.tableEnd + 8 * Wish.slotsNeeded wishes, start.memory.bufferStart - Wish.bytesNeeded wishes⟩
  length : layout.slots.length = start.slots.length + Wish.slotsNeeded wishes
  /-- Each wish for one buffer is served by a half of its own. -/
  serving : ∀ t d, t ≠ .control → layout.slots.countP (Slot.serving t d) = Wish.singles wishes t d
  /-- No slot could have been saved. -/
  shared : ∀ t, t ≠ .control → layout.slots.countP (Slot.shared t) = Wish.shares wishes t
  types : ∀ t, layout.slots.countP (fun slot => slot.type = t)
    = start.slots.countP (fun slot => slot.type = t) + Wish.shares wishes t + Wish.doubles wishes t

/-- Whether a list of wishes fits on top of a layout. -/
def Fits (start : Layout) (wishes : List Wish) : Prop :=
  start.slots.length + Wish.slotsNeeded wishes ≤ 8
    ∧ 8 * Wish.slotsNeeded wishes + Wish.bytesNeeded wishes ≤ start.free

/-- A part of a list fits where the list does. -/
theorem Fits.of_append {xs ys : List Wish} (hopen : ∀ wish ∈ ys, wish.request.Open) (h : Fits start (xs ++ ys)) :
    Fits start xs := by
  obtain ⟨hfew, hroom⟩ := h
  have hslots := Wish.slotsNeeded_mono xs ys
  have hbytes := Wish.bytesNeeded_nonneg hopen
  rw [Wish.bytesNeeded_append] at hroom
  exact ⟨by omega, by omega⟩

/-- Where a demand for one buffer finds no slot to share, none admits it. -/
theorem admits_of_chooseShared (h : layout.chooseShared demand = none) (hsingle : demand.doubled = false) :
    ∀ slot ∈ layout.slots, slot.admits demand.type demand.direction = false := by
  unfold chooseShared at h
  rw [hsingle, if_neg Bool.false_ne_true] at h
  intro slot hslot
  simpa using List.findFinIdx?_eq_none_iff.mp h slot hslot

namespace Balanced

theorem free_eq (h : Balanced start wishes layout) :
    layout.free = start.free - 8 * Wish.slotsNeeded wishes - Wish.bytesNeeded wishes := by
  simp only [Layout.free, PacketMemory.free, h.memory]
  omega

theorem fits (h : Balanced start wishes layout) : Fits start wishes := by
  have hfew := h.few
  have hroom := h.room
  rw [h.length] at hfew
  rw [h.free_eq] at hroom
  exact ⟨hfew, by omega⟩

/-- A slot has a half to spare exactly if its direction has fewer wishes than there are slots. -/
theorem countP_admits (h : Balanced start wishes layout) {t : TransferType} (ht : t ≠ .control) (d : Direction) :
    Wish.singles wishes t d + layout.slots.countP (fun slot => slot.admits t d) = Wish.shares wishes t := by
  rw [← h.serving t d ht, ← h.shared t ht]
  exact Slot.countP_admits layout.slots t d

/-- Where a slot admits a wish for one buffer, its direction has fewer wishes than there are slots. -/
theorem singles_lt_shares (h : Balanced start wishes layout) (hasks : wish.Asks demand)
    (position : Fin layout.slots.length) (hjoins : Joins demand (layout.slots.get position)) :
    Wish.singles wishes demand.type demand.direction < Wish.shares wishes demand.type := by
  have hcount := h.countP_admits hasks.meets.notControl demand.direction
  have hpositive : 0 < layout.slots.countP fun slot => slot.admits demand.type demand.direction :=
    List.countP_pos_iff.mpr ⟨layout.slots.get position, List.getElem_mem position.isLt,
      Slot.admits_iff.mpr ⟨hjoins.type, hjoins.notDouble, hjoins.disabled⟩⟩
  omega

/-- An endpoint that moves into a slot keeps the balance: the slot had a half to spare. -/
theorem share (h : Balanced start wishes layout) (hasks : wish.Asks demand) (position : Fin layout.slots.length)
    (hjoins : Joins demand (layout.slots.get position)) (hroom : demand.needed ≤ layout.free) :
    Balanced start (wishes ++ [wish]) ⟨demand.remaining layout.memory,
      layout.slots.set position (demand.occupied (layout.slots.get position) layout.memory)⟩ where
  regular := h.regular.share hasks.meets.notControl position hjoins
  aligned := by
    rw [Demand.tableEnd_remaining]
    exact h.aligned
  few := by
    rw [List.length_set]
    exact h.few
  room := by
    rw [Demand.remaining_eq hasks.meets.bufferSize_emod_two]
    simp only [Layout.free, PacketMemory.free] at hroom ⊢
    omega
  memory := by
    rw [Demand.remaining_eq hasks.meets.bufferSize_emod_two, Wish.bytesNeeded_concat hasks, h.memory,
      Wish.slotsNeeded_concat_of_spare hasks hjoins.single (h.singles_lt_shares hasks position hjoins),
      PacketMemory.mk.injEq]
    exact ⟨rfl, by simp only; omega⟩
  length := by
    rw [List.length_set,
      Wish.slotsNeeded_concat_of_spare hasks hjoins.single (h.singles_lt_shares hasks position hjoins)]
    exact h.length
  serving := by
    intro t d ht
    rw [Wish.singles_concat hasks, ← h.serving t d ht]
    exact countP_serving_set position hjoins t d
  shared := by
    intro t ht
    rw [Wish.shares_concat_of_spare hasks (h.singles_lt_shares hasks position hjoins), ← h.shared t ht]
    exact countP_set_of_eq position.isLt (Demand.shared_occupied_of_single hjoins.single t)
  types := by
    intro t
    rw [Wish.shares_concat_of_spare hasks (h.singles_lt_shares hasks position hjoins), Wish.doubles_concat hasks,
      hjoins.single, if_neg (fun hboth => absurd hboth.1 Bool.false_ne_true), Nat.add_zero, ← h.types t]
    exact countP_set_of_eq position.isLt (by rw [Demand.type_occupied]; rfl)

/-- Where no slot admits a wish for one buffer, its direction has as many wishes as there are slots. -/
theorem singles_eq_shares (h : Balanced start wishes layout) (hasks : wish.Asks demand)
    (hnone : ∀ slot ∈ layout.slots, slot.admits demand.type demand.direction = false) :
    Wish.singles wishes demand.type demand.direction = Wish.shares wishes demand.type := by
  have hcount := h.countP_admits hasks.meets.notControl demand.direction
  have hzero : layout.slots.countP (fun slot => slot.admits demand.type demand.direction) = 0 := by
    rw [List.countP_eq_zero]
    intro slot hslot
    rw [hnone slot hslot]
    exact Bool.false_ne_true
  rw [hzero, Nat.add_zero] at hcount
  exact hcount

/-- A wish that shares no slot needs one more, of its type. -/
theorem needs_concat (h : Balanced start wishes layout) (hasks : wish.Asks demand)
    (hnone : demand.doubled = false → ∀ slot ∈ layout.slots, slot.admits demand.type demand.direction = false) :
    Wish.slotsNeeded (wishes ++ [wish]) = Wish.slotsNeeded wishes + 1
      ∧ ∀ t, Wish.shares (wishes ++ [wish]) t
        = Wish.shares wishes t + if demand.doubled = false ∧ demand.type = t then 1 else 0 := by
  by_cases hd : demand.doubled = true
  · refine ⟨Wish.slotsNeeded_concat_of_doubled hasks hd, fun t => ?_⟩
    simp only [Wish.shares_concat_of_doubled hasks hd, hd, Bool.true_eq_false, false_and, if_false, Nat.add_zero]
  · have hd : demand.doubled = false := by simpa using hd
    have hfull := h.singles_eq_shares hasks (hnone hd)
    refine ⟨Wish.slotsNeeded_concat_of_full hasks hd hfull, fun t => ?_⟩
    simp only [Wish.shares_concat_of_full hasks hd hfull, hd, true_and]

/-- A slot of an endpoint's own keeps the balance, if there was none to share. -/
theorem extend (h : Balanced start wishes layout) (hasks : wish.Asks demand) {number : Int}
    (hunused : layout.Unused number) (hfew : layout.slots.length < 8) (hroom : demand.needed + 8 ≤ layout.free)
    (hnone : demand.doubled = false → ∀ slot ∈ layout.slots, slot.admits demand.type demand.direction = false) :
    Balanced start (wishes ++ [wish]) ⟨demand.remaining layout.memory.afterEntry, layout.slots
      ++ [demand.occupied (layout.bareSlot demand.type number) layout.memory.afterEntry]⟩ where
  regular := by
    refine h.regular.append (Demand.regular_occupied_bareSlot hasks.meets.notControl hunused) ?_ (.inr hfew)
    rw [Demand.number_occupied]
    exact hunused.fresh
  aligned := by
    rw [Demand.tableEnd_remaining, PacketMemory.aligned_afterEntry]
    exact h.aligned
  few := by
    rw [List.length_append, List.length_singleton]
    exact hfew
  room := by
    rw [Demand.remaining_eq hasks.meets.bufferSize_emod_two]
    simp only [Layout.free, PacketMemory.free, PacketMemory.afterEntry] at hroom ⊢
    omega
  memory := by
    rw [Demand.remaining_eq hasks.meets.bufferSize_emod_two, (h.needs_concat hasks hnone).1,
      Wish.bytesNeeded_concat hasks, PacketMemory.afterEntry, h.memory, PacketMemory.mk.injEq]
    exact ⟨by simp only; omega, by simp only; omega⟩
  length := by
    rw [List.length_append, List.length_singleton, (h.needs_concat hasks hnone).1, h.length]
    omega
  serving := by
    intro t d ht
    rw [Wish.singles_concat hasks, ← h.serving t d ht, List.countP_append, List.countP_singleton,
      Demand.serving_occupied_bareSlot]
    simp only [Bool.and_eq_true, Bool.not_eq_true', decide_eq_true_eq, and_assoc]
  shared := by
    intro t ht
    rw [(h.needs_concat hasks hnone).2, ← h.shared t ht, List.countP_append, List.countP_singleton,
      Demand.shared_occupied_bareSlot]
    simp only [Bool.and_eq_true, Bool.not_eq_true', decide_eq_true_eq]
  types := by
    intro t
    rw [(h.needs_concat hasks hnone).2, Wish.doubles_concat hasks, List.countP_append, List.countP_singleton,
      h.types t, Demand.type_occupied]
    -- The new slot is a shared one or one for two buffers.
    by_cases ht : demand.type = t
    · simp only [bareSlot, ht, decide_true, and_true, if_true]
      cases demand.doubled with
      | true =>
        simp only [Bool.true_eq_false, if_false, if_true]
        omega
      | false =>
        simp only [Bool.false_eq_true, if_false, if_true]
        omega
    · simp only [bareSlot, ht, decide_false, and_false, Bool.false_eq_true, if_false, Nat.add_zero]

/-! ## A single wish -/

/-- A wish looks for a slot to share. -/
theorem choose_eq (hasks : wish.Asks demand) : layout.choose demand = .ok (layout.chooseShared demand) := by
  unfold choose
  rw [hasks.number]

/-- A wish that fits on top of the others is placed. -/
theorem exists_places (h : Balanced start wishes layout) (hasks : wish.Asks demand)
    (hfits : Fits start (wishes ++ [wish])) : ∃ slot after, Places layout demand slot after := by
  have heven := hasks.meets.bufferSize_emod_two
  have hneeded := hasks.needed_nonneg
  obtain ⟨hfew, hroom⟩ := hfits
  have hfree := h.free_eq
  have hchoose : layout.choose demand = .ok (layout.chooseShared demand) := choose_eq hasks
  rw [Wish.bytesNeeded_concat hasks] at hroom
  cases hshared : layout.chooseShared demand with
  | some position =>
    rw [hshared] at hchoose
    have hmore := Wish.slotsNeeded_mono wishes [wish]
    exact (exists_share_iff heven hchoose).mpr (by omega)
  | none =>
    rw [hshared] at hchoose
    have hslots := (h.needs_concat hasks (admits_of_chooseShared hshared)).1
    have hlength := h.length
    have hentry : 8 ≤ layout.free := by omega
    exact (exists_extend_iff heven hchoose).mpr ⟨by omega, ⟨h.aligned, hentry⟩, by omega⟩

/-- A wish that was placed keeps the balance. -/
theorem of_places (h : Balanced start wishes layout) (hasks : wish.Asks demand) {slot : Slot}
    (hplaces : Places layout demand slot after) : Balanced start (wishes ++ [wish]) after := by
  cases hplaces with
  | share position hchoose hroom hfits => exact h.share hasks position (joins_of_choose hchoose) hroom
  | extend number hchoose hroom hfew hentry hnumber hfits =>
    have hunused := unused_of_choose hchoose hnumber
    have hshared : layout.chooseShared demand = none := Except.ok.inj ((choose_eq hasks).symm.trans hchoose)
    exact h.extend hasks hunused hfew hroom (admits_of_chooseShared hshared)

/-- **A single wish** is granted exactly if it fits on top of the others, and then keeps the balance. -/
theorem perform (h : Balanced start wishes layout) (hopen : wish.request.Open) :
    ((layout.perform wish.call).result.isOk = true ↔ Fits start (wishes ++ [wish]))
      ∧ ((layout.perform wish.call).result.isOk = true →
        Balanced start (wishes ++ [wish]) (layout.perform wish.call).state) := by
  obtain ⟨demand, hasks⟩ := exists_asks hopen
  have hnumbers := h.regular.numbered
  have hnext (hok : (layout.perform wish.call).result.isOk = true) :
      Balanced start (wishes ++ [wish]) (layout.perform wish.call).state := by
    obtain ⟨other, slot, after, hmeets, hplaces⟩ := (isOk_allocate_iff hnumbers).mp hok
    rw [Wish.call, perform_of_places hnumbers hmeets hplaces]
    cases hasks.unique hmeets
    exact h.of_places hasks hplaces
  refine ⟨⟨fun hok => (hnext hok).fits, fun hfits => ?_⟩, hnext⟩
  obtain ⟨slot, after, hplaces⟩ := h.exists_places hasks hfits
  exact (isOk_allocate_iff hnumbers).mpr ⟨demand, slot, after, hasks.meets, hplaces⟩

/-! ## Lists of wishes -/

/-- **A list of wishes** is granted exactly if it fits as a whole, and then keeps the balance. -/
theorem accepts (h : Balanced start past layout) (hopen : ∀ wish ∈ wishes, wish.request.Open) :
    (layout.Accepts (wishes.map Wish.call) ↔ Fits start (past ++ wishes))
      ∧ (layout.Accepts (wishes.map Wish.call) →
        Balanced start (past ++ wishes) (layout.run (wishes.map Wish.call))) := by
  induction wishes generalizing past layout with
  | nil =>
    rw [List.append_nil]
    exact ⟨iff_of_true layout.accepts_nil h.fits, fun _ => h⟩
  | cons wish rest ih =>
    obtain ⟨hfirst, hrest⟩ := List.forall_mem_cons.mp hopen
    obtain ⟨hok, hnext⟩ := h.perform hfirst
    rw [List.map_cons, accepts_cons, run]
    by_cases hfits : Fits start (past ++ [wish])
    · have haccepted := hok.mpr hfits
      have hlist := ih (hnext haccepted) hrest
      rw [List.append_assoc, List.singleton_append] at hlist
      rw [and_iff_right haccepted]
      exact hlist
    · -- What does not fit here would not fit with more behind it.
      have hnot : ¬Fits start (past ++ wish :: rest) := by
        intro hall
        rw [← List.singleton_append, ← List.append_assoc] at hall
        exact hfits (Fits.of_append hrest hall)
      have hrefused : ¬(layout.perform wish.call).result.isOk = true := fun h => hfits (hok.mp h)
      exact ⟨iff_of_false (fun h => hrefused h.1) hnot, fun h => absurd h.1 hrefused⟩

end Balanced

/-! ## From the start -/

/-- Layouts in which nothing is placed, or only the control endpoint. -/
def Opening (start : Layout) : Prop :=
  start = empty ∨ ∃ size slot, empty.allocateControl size = .ok (slot, start)

/-- Wishes start in balance. -/
theorem Opening.balanced (h : Opening start) : Balanced start [] start := by
  rcases h with rfl | ⟨size, slot, hcontrol⟩
  · exact ⟨regular_empty, rfl, by decide, by decide, rfl, rfl, fun _ _ _ => rfl, fun _ _ => rfl, fun _ => rfl⟩
  · obtain ⟨hsize, _, _, hroom, rfl, rfl⟩ := allocateControl_eq_ok_iff.mp hcontrol
    have heven := evenCeil_of_mem_controlSizes hsize
    have hapart {t : TransferType} (ht : t ≠ .control) : (controlSlot empty.memory size).shared t = false :=
      (Bool.and_true _).trans (decide_eq_false (Ne.symm ht))
    refine ⟨?_, rfl, Nat.le_of_ble_eq_true rfl, ?_, ?_, rfl, ?_, ?_, fun _ => rfl⟩
    · exact regular_empty.append (regular_controlSlot empty.memory size)
        (fun other hother => absurd hother List.not_mem_nil) (.inl rfl)
    · have hfree : (controlRemaining empty.memory size).free = empty.free - 8 - size - size := by
        rw [controlRemaining, PacketMemory.free_afterBuffer, PacketMemory.free_afterBuffer,
          PacketMemory.free_afterEntry, heven]
        rfl
      show 0 ≤ (controlRemaining empty.memory size).free
      omega
    · have hslots : Wish.slotsNeeded [] = 0 := rfl
      have hbytes : Wish.bytesNeeded [] = 0 := rfl
      rw [hslots, hbytes, Int.sub_zero]
      rfl
    · intro t d ht
      have hserving : (controlSlot empty.memory size).serving t d = false := by
        rw [Slot.serving, hapart ht, Bool.false_and]
      exact List.countP_eq_zero.mpr (List.forall_mem_singleton.mpr (by rw [hserving]; exact Bool.false_ne_true))
    · intro t ht
      exact List.countP_eq_zero.mpr (List.forall_mem_singleton.mpr (by rw [hapart ht]; exact Bool.false_ne_true))

/-- **Open requests are granted in any order.** The wishes of a list are granted exactly if there are slots and
    bytes for all of them together. They then take no more than this, and are granted as well in any other order,
    with the same memory left and the same number of slots of each type. -/
theorem run_wishes {wishes : List Wish} (hstart : Opening start) (hopen : ∀ wish ∈ wishes, wish.request.Open) :
    let slots := Wish.slotsNeeded wishes
    let bytes := Wish.bytesNeeded wishes
    let calls := wishes.map Wish.call
    (start.Accepts calls ↔ start.slots.length + slots ≤ 8 ∧ 8 * slots + bytes ≤ start.free)
      ∧ (start.Accepts calls →
        (start.run calls).slots.length = start.slots.length + slots
          ∧ (start.run calls).memory.tableEnd = start.memory.tableEnd + 8 * slots
          ∧ (start.run calls).memory.bufferStart = start.memory.bufferStart - bytes
          ∧ ∀ others : List Wish, others.Perm wishes → start.Accepts (others.map Wish.call)
            ∧ (start.run (others.map Wish.call)).memory = (start.run calls).memory
            ∧ ∀ t, (start.run (others.map Wish.call)).slots.countP (fun slot => slot.type = t)
              = (start.run calls).slots.countP (fun slot => slot.type = t)) := by
  intro slots bytes calls
  obtain ⟨hfits, hnext⟩ := hstart.balanced.accepts hopen
  rw [List.nil_append] at hfits hnext
  refine ⟨hfits, fun haccepts => ?_⟩
  have hdone := hnext haccepts
  refine ⟨hdone.length, by rw [hdone.memory], by rw [hdone.memory], fun others hperm => ?_⟩
  have hothers : ∀ wish ∈ others, wish.request.Open := fun wish hwish => hopen wish (hperm.subset hwish)
  obtain ⟨hfitsOthers, hnextOthers⟩ := hstart.balanced.accepts hothers
  rw [List.nil_append] at hfitsOthers hnextOthers
  -- Slots and bytes of a list do not depend on its order.
  have hslots := Wish.slotsNeeded_perm hperm
  have hbytes := Wish.bytesNeeded_perm hperm
  have hacceptsOthers : start.Accepts (others.map Wish.call) := by
    rw [hfitsOthers, Fits, hslots, hbytes]
    exact hfits.mp haccepts
  have hdoneOthers := hnextOthers hacceptsOthers
  refine ⟨hacceptsOthers, ?_, fun t => ?_⟩
  · rw [hdoneOthers.memory, hdone.memory, hslots, hbytes]
  · rw [hdoneOthers.types, hdone.types, Wish.shares_perm hperm, Wish.doubles_perm hperm]

/-- Next to endpoint 0, three bulk endpoints and a double-buffered interrupt endpoint need three slots, also in
    reverse order. There, the second endpoint to the host gets the slot that is shared. -/
theorem run_wishes_reversed :
    let start : Layout := ⟨⟨8, 384⟩, [controlSlot .empty 64]⟩
    let wishes : List Wish :=
      [⟨{ direction := some 128, type := some 2, maxPacketSize := some 63 }, false⟩,
        ⟨{ direction := some 128, type := some 3, maxPacketSize := some 8 }, true⟩,
        ⟨{ direction := some 128, type := some 2, maxPacketSize := some 16 }, false⟩,
        ⟨{ direction := some 0, type := some 2, maxPacketSize := some 63 }, false⟩]
    Wish.slotsNeeded wishes = 3 ∧ Wish.bytesNeeded wishes = 160
      ∧ start.Accepts (wishes.map Wish.call)
      ∧ start.Accepts (wishes.reverse.map Wish.call)
      ∧ (start.run (wishes.map Wish.call)).memory.tableEnd = 32
      ∧ (start.run (wishes.map Wish.call)).memory.bufferStart = 224
      ∧ (start.run (wishes.reverse.map Wish.call)).memory = (start.run (wishes.map Wish.call)).memory := by
  intro start wishes
  have hopen : ∀ wish ∈ wishes, wish.request.Open := by
    simp only [wishes, List.forall_mem_cons]
    exact ⟨Endpoint.Request.open_described .toHost (by decide : TransferType.bulk ≠ .control) (by decide),
      Endpoint.Request.open_described .toHost (by decide : TransferType.interrupt ≠ .control) (by decide),
      Endpoint.Request.open_described .toHost (by decide : TransferType.bulk ≠ .control) (by decide),
      Endpoint.Request.open_described .toDevice (by decide : TransferType.bulk ≠ .control) (by decide),
      List.forall_mem_nil _⟩
  have hstart : Opening start := .inr ⟨64, controlSlot .empty 64, rfl⟩
  have hslots : Wish.slotsNeeded wishes = 3 := by decide
  have hbytes : Wish.bytesNeeded wishes = 160 := by decide
  obtain ⟨hfits, hnext⟩ := run_wishes hstart hopen
  have haccepts : start.Accepts (wishes.map Wish.call) := hfits.mpr (by rw [hslots, hbytes]; decide)
  obtain ⟨_, htable, hbuffers, hothers⟩ := hnext haccepts
  obtain ⟨hreversed, hsame, _⟩ := hothers wishes.reverse (List.reverse_perm wishes)
  rw [hslots] at htable
  rw [hbytes] at hbuffers
  exact ⟨hslots, hbytes, haccepts, hreversed, htable, hbuffers, hsame⟩

end Layout

end UsbCompiler
