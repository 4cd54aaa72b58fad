import UsbCompiler.Proofs.Layout.Accepted

/-!
# `UsbCompiler.Proofs.Layout.InPlace` — reservations that are made one at a time

A layout can be changed in place: the slot is added first, then a buffer is cut from memory and put into the
slot, then the next one, and the flags of the slot come last. Every step stays done when a later one is refused,
so an endpoint that is refused half-way would leave an empty slot, or memory that nobody holds.

The main statements say that this never happens. Whatever the sizes are, negative ones included, all that can
be refused is refused in front of the first change, with one exception: the number of a slot that was made by
hand can be refused at the very end. In place or as a whole, a call has the same outcome.

## Contents
- `Layout.whole`, `Layout.reserveInto` and `Layout.moveIn`: single changes, and the chain of them that fills a slot.
- `Layout.allocateInPlace`, `Layout.allocateControlInPlace` and `Layout.addSlotInPlace`.
- `Layout.moveIn_of_fits`: where the buffers fit, the chain ends with the occupied slot.
- `Layout.opensLikePlace`: what can be refused is refused in front of the first change.
- `Layout.allocateInPlace_eq`, `Layout.allocateControlInPlace_eq` and `Layout.addSlotInPlace_eq`: the same outcomes as
  `Layout.allocate`, `Layout.allocateControl` and `Layout.addSlot`.
-/

namespace UsbCompiler

/-! ## Changes of a slot -/

namespace Slot

/-- A slot with a buffer put into the half of a direction. -/
def putBuffer (slot : Slot) (d : Direction) (buffer : Region) : Slot :=
  slot.setHalf d { slot.half d with buffer := some buffer }

/-- A slot with the half of a direction switched on or off. -/
def switch (slot : Slot) (d : Direction) (enabled : Bool) : Slot :=
  slot.setHalf d { slot.half d with enabled }

/-- The flags of a slot that is double-buffered for a direction. -/
def switchDouble (slot : Slot) (d : Direction) : Slot :=
  { (slot.switch .toHost (d = .toHost)).switch .toDevice (d = .toDevice) with doubleBuffered := true }

end Slot

namespace Layout

variable {layout : Layout} {demand : Demand}

/-! ## Changes of a layout -/

/-- The outcome of a step that is taken as a whole or not at all. -/
def whole {α : Type} (layout : Layout) : Except Error (α × Layout) → Outcome Layout α
  | .ok (value, after) => .ok after value
  | .error error => .fail layout error

/-- A layout with one of its slots changed. -/
def change (layout : Layout) (position : Nat) (f : Slot → Slot) : Layout :=
  { layout with slots := layout.slots.modify position f }

/-- Cuts a buffer from memory and puts it into a slot. -/
def reserveInto (layout : Layout) (position : Nat) (d : Direction) (size : Int) : Outcome Layout Unit :=
  (layout.whole (layout.takeBuffer size)).andThen fun layout buffer =>
    .ok (layout.change position (·.putBuffer d buffer)) ()

/-- Fills a slot, buffer by buffer, and switches its halves. -/
def moveIn (layout : Layout) (demand : Demand) (position : Nat) : Outcome Layout Unit :=
  if demand.doubled then
    (layout.reserveInto position .toHost demand.bufferSize).andThen fun layout _ =>
      (layout.reserveInto position .toDevice demand.bufferSize).andThen fun layout _ =>
        .ok (layout.change position (·.switchDouble demand.direction)) ()
  else
    (layout.reserveInto position demand.direction demand.bufferSize).andThen fun layout _ =>
      .ok (layout.change position (·.switch demand.direction true)) ()

/-- Finds the position and the number of the slot for a demand, after a check of the free space. A slot that is
    not there yet is added, without buffers. -/
def openSlot (layout : Layout) (demand : Demand) : Outcome Layout (Nat × Int) :=
  match layout.choose demand with
  | .error error => .fail layout error
  | .ok (some position) =>
    match layout.memory.require demand.needed with
    | .error error => .fail layout error
    | .ok () => .ok layout (position.val, (layout.slots.get position).number)
  | .ok none =>
    match layout.memory.require (demand.needed + PacketMemory.entrySize) with
    | .error error => .fail layout error
    | .ok () =>
      (layout.whole (layout.addSlot demand.type demand.number)).andThen fun after slot =>
        .ok after (layout.slots.length, slot.number)

/-- Finds a slot and buffers for a request, one reservation after another. -/
def allocateInPlace (layout : Layout) (request : Endpoint.Request) (doubled : Bool) :
    Outcome Layout Endpoint.Request :=
  match Demand.ofRequest request doubled with
  | .error error => .fail layout error
  | .ok demand =>
    (layout.openSlot demand).andThen fun layout opened =>
      (layout.moveIn demand opened.1).andThen fun layout _ =>
        match request.number with
        | some _ => .ok layout request
        | none => ⟨layout, request.set (.number opened.2)⟩

/-- The sizes of the buffers of endpoint 0, if there is room for them and for the entry. -/
def controlBuffers (memory : PacketMemory) (packetSize : Int) : Except Error (Int × Int) := do
  let transmitSize ← bufferSize .toHost packetSize
  let receiveSize ← bufferSize .toDevice packetSize
  memory.require (PacketMemory.entrySize + transmitSize + receiveSize)
  return (transmitSize, receiveSize)

/-- Adds endpoint 0, one reservation after another. -/
def allocateControlInPlace (layout : Layout) (packetSize : Int) : Outcome Layout Slot :=
  if packetSize ∉ controlSizes then .fail layout (.controlPacketSize packetSize)
  else if (layout.find? 0).isSome then .fail layout .controlInUse
  else
    match controlBuffers layout.memory packetSize with
    | .error error => .fail layout error
    | .ok (transmitSize, receiveSize) =>
      (layout.whole layout.takeEntry).andThen fun layout entry =>
        (layout.whole (layout.takeBuffer transmitSize)).andThen fun layout transmit =>
          (layout.whole (layout.takeBuffer receiveSize)).andThen fun layout receive =>
            let slot : Slot := {
              number := 0
              type := .control
              entry
              transmit := ⟨true, some transmit⟩
              receive := ⟨true, some receive⟩ }
            .ok { layout with slots := layout.slots ++ [slot] } slot

/-- Adds a slot without buffers, after its entry has been reserved. -/
def addSlotInPlace (layout : Layout) (type : TransferType) (number : Option Int) : Outcome Layout Slot :=
  if 8 ≤ layout.slots.length then .fail layout .slotsInUse
  else
    match layout.numberOf number with
    | .error error => .fail layout error
    | .ok number =>
      (layout.whole layout.takeEntry).andThen fun layout entry =>
        let slot : Slot := { number, type, entry }
        .ok { layout with slots := layout.slots ++ [slot] } slot

/-! ## Chains of changes -/

theorem change_change (layout : Layout) (position : Nat) (f g : Slot → Slot) :
    (layout.change position f).change position g = layout.change position fun slot => g (f slot) := by
  simp only [change, List.modify_modify_eq]
  rfl

/-- A slot that is there is changed where it stands. -/
theorem change_get (memory : PacketMemory) (position : Fin layout.slots.length) (f : Slot → Slot) :
    change ⟨memory, layout.slots⟩ position f
      = ⟨memory, layout.slots.set position (f (layout.slots.get position))⟩ := by
  simp only [change, List.modify_eq_set_getElem?, List.getElem?_eq_getElem position.isLt]
  rfl

/-- The newest slot is changed behind the others. -/
theorem change_length (memory : PacketMemory) (slots : List Slot) (slot : Slot) (f : Slot → Slot) :
    change ⟨memory, slots ++ [slot]⟩ slots.length f = ⟨memory, slots ++ [f slot]⟩ := by
  simp [change, List.modify_eq_set_getElem?]

theorem reserveInto_of_le {position : Nat} {d : Direction} {size : Int}
    (h : evenCeil size ≤ layout.memory.free) :
    layout.reserveInto position d size
      = .ok (change ⟨layout.memory.afterBuffer size, layout.slots⟩ position
          (·.putBuffer d (layout.memory.nextBuffer size))) () := by
  simp only [reserveInto, takeBuffer, PacketMemory.takeBuffer_of_le h]
  rfl

/-- **Where the buffers fit, the slot is filled.** -/
theorem moveIn_of_fits (hfits : demand.Fits layout.memory) (position : Nat) :
    layout.moveIn demand position
      = .ok (change ⟨demand.remaining layout.memory, layout.slots⟩ position
          (demand.occupied · layout.memory)) () := by
  unfold moveIn
  rw [reserveInto_of_le hfits.1, reserveInto_of_le hfits.1, Outcome.ok_andThen, Outcome.ok_andThen]
  by_cases hd : demand.doubled = true
  · have hsecond : evenCeil demand.bufferSize ≤ (layout.memory.afterBuffer demand.bufferSize).free := by
      have := hfits.2 hd
      rw [PacketMemory.free_afterBuffer]
      omega
    rw [if_pos hd, reserveInto_of_le hsecond, Outcome.ok_andThen]
    simp only [Demand.remaining, hd, if_true]
    refine congrArg₂ Outcome.ok ?_ rfl
    -- Two buffers and the flags, put into the slot one after another.
    simp only [change, List.modify_modify_eq, mk.injEq, true_and]
    congr 1
    funext slot
    simp only [Demand.occupied, hd, if_true]
    rfl
  · have hd : demand.doubled = false := by simpa using hd
    rw [if_neg (by rw [hd]; exact Bool.false_ne_true), change_change, Demand.remaining_of_single hd]
    refine congrArg₂ Outcome.ok ?_ rfl
    congr 1
    funext slot
    rw [Demand.occupied_of_single hd]
    cases demand.direction with
    | toHost => rfl
    | toDevice => rfl

/-! ## The same outcomes -/

theorem require_of_lt {memory : PacketMemory} {needed : Int} (h : memory.free < needed) :
    memory.require needed = .error (.noRoomForEndpoint needed memory.free) :=
  if_pos h

/-- A slot that is there is of no use without room for the buffers. -/
theorem place_of_some_of_lt {position : Fin layout.slots.length} (hchoose : layout.choose demand = .ok (some position))
    (h : layout.memory.free < demand.needed) :
    layout.place demand = .error (.noRoomForEndpoint demand.needed layout.memory.free) := by
  simp only [place, hchoose, bind, Except.bind, share, require_of_lt h]

/-- A slot of its own takes an entry as well. -/
theorem place_of_none_of_lt (hchoose : layout.choose demand = .ok none)
    (h : layout.memory.free < demand.needed + 8) :
    layout.place demand = .error (.noRoomForEndpoint (demand.needed + 8) layout.memory.free) := by
  simp only [place, hchoose, bind, Except.bind, extend, PacketMemory.entrySize, require_of_lt h]

/-- The two ways in which opening a slot can end: it is refused in front of the first change, with the error of the
    whole placement, or the chain of changes goes through and ends with the layout of the whole placement. -/
def OpensLikePlace (layout : Layout) (demand : Demand) : Prop :=
  (∃ e, layout.openSlot demand = .fail layout e ∧ layout.place demand = .error e)
    ∨ ∃ position slot middle after, layout.openSlot demand = .ok middle (position, slot.number)
      ∧ middle.moveIn demand position = .ok after () ∧ Places layout demand slot after

theorem opensLikePlace_of_some {position : Fin layout.slots.length} (heven : demand.bufferSize % 2 = 0)
    (hchoose : layout.choose demand = .ok (some position)) : OpensLikePlace layout demand := by
  unfold OpensLikePlace openSlot
  simp only [hchoose]
  by_cases hroom : demand.needed ≤ layout.memory.free
  · have hsingle := (joins_of_choose hchoose).single
    have hfits : demand.Fits layout.memory :=
      Demand.fits_of_needed heven hroom (fun hd => by rw [hsingle] at hd; cases hd)
    refine .inr ⟨position, _, layout, _, ?_, ?_, .share position hchoose hroom hfits⟩
    · simp only [PacketMemory.require_eq_ok_iff.mpr hroom, Demand.number_occupied]
    · rw [moveIn_of_fits hfits, change_get]
  · have hshort := Int.not_le.mp hroom
    refine .inl ⟨_, ?_, place_of_some_of_lt hchoose hshort⟩
    simp only [require_of_lt hshort]

theorem opensLikePlace_of_none (heven : demand.bufferSize % 2 = 0) (hchoose : layout.choose demand = .ok none) :
    OpensLikePlace layout demand := by
  unfold OpensLikePlace openSlot
  simp only [hchoose]
  by_cases hroom : demand.needed + 8 ≤ layout.memory.free
  · have henough : layout.memory.require (demand.needed + PacketMemory.entrySize) = .ok () :=
      PacketMemory.require_eq_ok_iff.mpr hroom
    simp only [henough]
    cases hnew : layout.addSlot demand.type demand.number with
    | error e =>
      refine .inl ⟨e, rfl, ?_⟩
      have hnew : layout.newSlot demand.type demand.number = .error e := map_eq_error_iff.mp hnew
      simp only [place, hchoose, bind, Except.bind, extend, henough, hnew]
    | ok added =>
      obtain ⟨bare, middle⟩ := added
      obtain ⟨hfew, hentry, ⟨number, hnumber, rfl⟩, rfl⟩ := addSlot_eq_ok_iff.mp hnew
      -- The entry is gone from the free space when the buffers are reserved.
      have hrest : layout.memory.afterEntry.free = layout.memory.free - 8 := PacketMemory.free_afterEntry _
      have hleft := hentry.room
      have hfits : demand.Fits layout.memory.afterEntry :=
        Demand.fits_of_needed heven (by omega) (fun _ => by omega)
      have hmove : moveIn ⟨layout.memory.afterEntry, layout.slots ++ [layout.bareSlot demand.type number]⟩ demand
          layout.slots.length = .ok _ () := moveIn_of_fits hfits layout.slots.length
      rw [change_length] at hmove
      refine .inr ⟨layout.slots.length, _, _, _, ?_, hmove, .extend number hchoose hroom hfew hentry hnumber hfits⟩
      rw [Demand.number_occupied]
      rfl
  · have hshort := Int.not_le.mp hroom
    refine .inl ⟨_, ?_, place_of_none_of_lt hchoose hshort⟩
    simp only [PacketMemory.entrySize, require_of_lt hshort]

/-- **What can be refused is refused in front of the first change.** -/
theorem opensLikePlace (heven : demand.bufferSize % 2 = 0) : OpensLikePlace layout demand := by
  cases hchoose : layout.choose demand with
  | error e =>
    refine .inl ⟨e, ?_, ?_⟩
    · simp only [openSlot, hchoose]
    · rw [place, hchoose]
      rfl
  | ok chosen =>
    cases chosen with
    | some position => exact opensLikePlace_of_some heven hchoose
    | none => exact opensLikePlace_of_none heven hchoose

/-- **Placing an endpoint in place or as a whole is the same.** -/
theorem allocateInPlace_eq (layout : Layout) (request : Endpoint.Request) (doubled : Bool) :
    layout.allocateInPlace request doubled = layout.allocate request doubled := by
  unfold allocateInPlace
  cases hdemand : Demand.ofRequest request doubled with
  | error e => rw [allocate_of_error (by rw [hdemand]; rfl)]
  | ok demand =>
    have heven := (Demand.ofRequest_eq_ok_iff.mp hdemand).bufferSize_emod_two
    rcases opensLikePlace heven with ⟨e, hopen, hplace⟩ | ⟨position, slot, middle, after, hopen, hmove, hplaces⟩
    · have hrefused : (Demand.ofRequest request doubled >>= layout.place) = .error e := by
        rw [hdemand]
        exact hplace
      rw [allocate_of_error hrefused]
      simp only [hopen, Outcome.fail_andThen]
    · rw [allocate_of_places hdemand hplaces]
      simp only [hopen, hmove, Outcome.ok_andThen]
      cases request.number with
      | some n => rfl
      | none => rfl

/-- **Adding endpoint 0 in place or as a whole is the same.** -/
theorem allocateControlInPlace_eq (layout : Layout) (packetSize : Int) :
    layout.allocateControlInPlace packetSize = layout.whole (layout.allocateControl packetSize) := by
  unfold allocateControlInPlace allocateControl
  split
  · rfl
  · next hsize =>
    have hsize := Classical.not_not.mp hsize
    split
    · rfl
    · simp only [controlBuffers, newControlSlot, bufferSize_of_mem_controlSizes hsize, bind, Except.bind]
      by_cases hroom : 8 + packetSize + packetSize ≤ layout.memory.free
      · rw [PacketMemory.require_eq_ok_iff.mpr (by exact hroom)]
        by_cases haligned : layout.memory.tableEnd % 8 = 0
        · obtain ⟨_, hentry, hfirst, hsecond⟩ := control_fits hsize haligned hroom
          simp only [pure, Except.pure, takeEntry, takeBuffer, PacketMemory.takeEntry_of_hasEntry hentry,
            PacketMemory.takeBuffer_of_le hfirst, PacketMemory.takeBuffer_of_le hsecond, Except.map, whole,
            Outcome.ok_andThen]
        · simp only [takeEntry, PacketMemory.takeEntry_of_unaligned haligned]
          rfl
      · rw [require_of_lt (by unfold PacketMemory.entrySize; omega)]
        rfl

/-- **Adding a slot in place or as a whole is the same.** -/
theorem addSlotInPlace_eq (layout : Layout) (type : TransferType) (number : Option Int) :
    layout.addSlotInPlace type number = layout.whole (layout.addSlot type number) := by
  unfold addSlotInPlace addSlot newSlot
  split
  · rfl
  · cases layout.numberOf number with
    | error e => rfl
    | ok found =>
      simp only [bind, Except.bind, takeEntry]
      cases layout.memory.takeEntry with
      | error e => rfl
      | ok reserved => rfl

end Layout

end UsbCompiler
