import UsbCompiler.Proofs.Layout.Ownership

/-!
# `UsbCompiler.Proofs.Layout.Kept` — what later calls leave alone

Slots are changed in place: a later endpoint can move into the spare half of a slot that an earlier one was given.
What the earlier endpoint relies on stays as it is, whatever calls follow and from whatever layout they start.

## Contents
- `Slot.Kept` and `Layout.Kept`: a slot, and all slots by their positions, at a later time.
- `Demand.kept_occupied`: an endpoint that moves in.
- `Layout.kept_of_effect` and `Layout.run_kept`: single calls and runs.
-/

namespace UsbCompiler

/-! ## Single slots -/

/-- **A slot at a later time.** -/
structure Slot.Kept (slot later : Slot) : Prop where
  number : later.number = slot.number
  type : later.type = slot.type
  entry : later.entry = slot.entry
  doubleBuffered : later.doubleBuffered = slot.doubleBuffered
  /-- A half in use keeps its flag and its buffer. -/
  half : ∀ d, (slot.half d).enabled = true → later.half d = slot.half d
  /-- Both buffers of a double-buffered slot are in use. -/
  whole : slot.doubleBuffered = true → later = slot

namespace Slot

theorem Kept.refl (slot : Slot) : slot.Kept slot := ⟨rfl, rfl, rfl, rfl, fun _ _ => rfl, fun _ => rfl⟩

theorem Kept.trans {slot later last : Slot} (h : slot.Kept later) (hnext : later.Kept last) : slot.Kept last where
  number := hnext.number.trans h.number
  type := hnext.type.trans h.type
  entry := hnext.entry.trans h.entry
  doubleBuffered := hnext.doubleBuffered.trans h.doubleBuffered
  half := by
    intro d henabled
    have hlater := h.half d henabled
    rw [hnext.half d (by rw [hlater]; exact henabled), hlater]
  whole := by
    intro hdouble
    have hlater := h.whole hdouble
    rw [hnext.whole (by rw [hlater]; exact hdouble), hlater]

end Slot

/-- An endpoint moves into the half that is not in use. -/
theorem Demand.kept_occupied {demand : Demand} {slot : Slot} {memory : PacketMemory}
    (hjoins : Layout.Joins demand slot) : slot.Kept (demand.occupied slot memory) where
  number := Demand.number_occupied slot memory
  type := Demand.type_occupied slot memory
  entry := Demand.entry_occupied slot memory
  doubleBuffered := by rw [Demand.occupied_of_single hjoins.single, Slot.doubleBuffered_setHalf]
  half := by
    intro d henabled
    rw [Demand.occupied_of_single hjoins.single, Slot.half_setHalf_of_ne]
    rintro rfl
    rw [hjoins.disabled] at henabled
    cases henabled
  whole := by
    intro hdouble
    rw [hjoins.notDouble] at hdouble
    cases hdouble

/-! ## All slots -/

namespace Layout

variable {layout after last : Layout} {call : Call} {receipt : Receipt}

/-- **Slots at a later time.** Each of them is where it was, and more can stand behind them. -/
def Kept (layout after : Layout) : Prop :=
  ∀ (position : Nat) (slot : Slot), layout.slots[position]? = some slot →
    ∃ later, after.slots[position]? = some later ∧ slot.Kept later

theorem kept_of_slots (h : after.slots = layout.slots) : layout.Kept after := by
  intro position slot hslot
  exact ⟨slot, h ▸ hslot, .refl slot⟩

theorem Kept.trans (h : layout.Kept after) (hnext : after.Kept last) : layout.Kept last := by
  intro position slot hslot
  obtain ⟨later, hlater, hkept⟩ := h position slot hslot
  obtain ⟨final, hfinal, hkeptNext⟩ := hnext position later hlater
  exact ⟨final, hfinal, hkept.trans hkeptNext⟩

theorem kept_append (layout : Layout) (memory : PacketMemory) (slot : Slot) :
    layout.Kept ⟨memory, layout.slots ++ [slot]⟩ := by
  intro position other hother
  have hposition := (List.getElem?_eq_some_iff.mp hother).1
  exact ⟨other, (List.getElem?_append_left hposition).trans hother, .refl other⟩

theorem kept_set {slot : Slot} (memory : PacketMemory) (position : Fin layout.slots.length)
    (hkept : (layout.slots.get position).Kept slot) : layout.Kept ⟨memory, layout.slots.set position slot⟩ := by
  intro other before hbefore
  by_cases hsame : position.val = other
  · subst hsame
    have hget : layout.slots.get position = before :=
      Option.some.inj ((List.getElem?_eq_getElem position.isLt).symm.trans hbefore)
    exact ⟨slot, List.getElem?_set_self position.isLt, hget ▸ hkept⟩
  · exact ⟨before, (List.getElem?_set_ne hsame).trans hbefore, .refl before⟩

/-- **Calls leave alone what was given out before them.** -/
theorem kept_of_effect (heffect : Effect layout call after receipt) : layout.Kept after := by
  cases heffect with
  | refuse | entry _ | buffer _ => exact kept_of_slots rfl
  | share position hmeets hsize hjoins hfits => exact kept_set _ position (Demand.kept_occupied hjoins)
  | extend hmeets hsize hunused hfew hentry hfits => exact kept_append layout _ _
  | control hsize habsent haligned hroom => exact kept_append layout _ _
  | bare hnumber hfew hentry => exact kept_append layout _ _

/-- Runs leave alone what was given out before them, from any layout and with any calls. -/
theorem run_kept (layout : Layout) (calls : List Call) : layout.Kept (layout.run calls) := by
  refine run_induction (fun after _ => layout.Kept after) (fun _ => True) ?_ (fun _ _ => trivial) []
    (kept_of_slots rfl)
  intro after past call _ h
  exact h.trans (kept_of_effect (effect_perform after call))

end Layout

end UsbCompiler
