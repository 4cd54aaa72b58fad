import UsbCompiler.Proofs.Layout.InPlace

/-!
# `UsbCompiler.Proofs.Layout.Vacancy` — the number of a slot that nobody chose

A slot that is added without a number gets the least one of 1 to 15 that no other slot has. The search for it can find
nothing, but never does where it is made: by then fewer than eight slots are known to be there, whatever their numbers
are, and so few slots cannot have all the numbers. What is left to refuse a slot is the number of slots, the place where
the table ends and the room for its entry, and all of these are looked at before anything is reserved.

## Contents
- `Layout.forall_not_unused_iff`: layouts whose slots have all the numbers.
- `Layout.addSlotInPlace_of_full`, `addSlotInPlace_of_refused` and `addSlotInPlace_of_hasEntry`: what becomes of a slot.
- `Layout.addSlot_takes_least`: the search and the new slot, in any layout.
-/

namespace UsbCompiler.Layout

variable {layout : Layout} {type : TransferType} {wanted : Option Int} {number : Int}

/-- No number is unused exactly if each of 1 to 15 is the one of a slot. -/
theorem forall_not_unused_iff :
    (∀ number, ¬layout.Unused number) ↔ ∀ n : Int, 1 ≤ n → n ≤ 15 → ∃ slot ∈ layout.slots, slot.number = n := by
  constructor
  · intro h n hlow hhigh
    by_contra hnobody
    exact h n ⟨by omega, by omega, fun slot hslot hsame => hnobody ⟨slot, hslot, hsame⟩⟩
  · intro h number hunused
    have hpositive := hunused.positive
    have hsmall := hunused.small
    obtain ⟨slot, hslot, hsame⟩ := h number (by omega) (by omega)
    exact hunused.fresh slot hslot hsame

theorem addSlotInPlace_of_full (hfull : 8 ≤ layout.slots.length) :
    layout.addSlotInPlace type wanted = .fail layout .slotsInUse :=
  if_pos hfull

theorem addSlotInPlace_of_refused (hfew : layout.slots.length < 8) (hnumber : layout.numberOf wanted = .ok number)
    {e : Error} (hentry : layout.memory.takeEntry = .error e) :
    layout.addSlotInPlace type wanted = .fail layout e := by
  have hrefused : layout.takeEntry = .error e := by
    rw [takeEntry, hentry]
    rfl
  unfold addSlotInPlace
  rw [if_neg (by omega), hnumber]
  simp only [hrefused, whole, Outcome.fail_andThen]

theorem addSlotInPlace_of_hasEntry (hfew : layout.slots.length < 8) (hnumber : layout.numberOf wanted = .ok number)
    (hentry : layout.memory.HasEntry) :
    layout.addSlotInPlace type wanted
      = .ok ⟨layout.memory.afterEntry, layout.slots ++ [layout.bareSlot type number]⟩
          (layout.bareSlot type number) := by
  have hadd : layout.addSlot type wanted
      = .ok (layout.bareSlot type number,
          ⟨layout.memory.afterEntry, layout.slots ++ [layout.bareSlot type number]⟩) :=
    addSlot_eq_ok_iff.mpr ⟨hfew, hentry, ⟨number, hnumber, rfl⟩, rfl⟩
  rw [addSlotInPlace_eq, hadd]
  rfl

/-- **A slot without a number.** In any layout, the search gives the least number of 1 to 15 that no slot has, and fails
    exactly if each of them is the one of a slot. Adding a slot never meets this failure: where the table ends at a
    multiple of eight, it is refused exactly if eight slots are there or fewer than eight bytes are left, for want of
    room, and where it ends elsewhere, always. Then nothing has changed. Otherwise one slot is added behind the others,
    under the least number that none of them has. Its entry begins where the table ended, so the table goes on to end at
    a multiple of eight. -/
theorem addSlot_takes_least (layout : Layout) (type : TransferType) :
    (∀ number, layout.lowestFreeNumber = .ok number ↔ IsLeast {n | layout.Unused n} number)
      ∧ (∀ e, layout.lowestFreeNumber = .error e ↔ (e = .numbersInUse ∧ e.kind = .exhausted)
        ∧ ∀ n : Int, 1 ≤ n → n ≤ 15 → ∃ slot ∈ layout.slots, slot.number = n)
      ∧ if 8 ≤ layout.slots.length ∨ layout.memory.tableEnd % 8 ≠ 0 ∨ layout.free < 8 then
          ∃ e, e ≠ .numbersInUse ∧ (layout.memory.tableEnd % 8 = 0 → e.kind = .exhausted)
            ∧ layout.addSlotInPlace type none = .fail layout e
        else
          ∃ number, IsLeast {n | layout.Unused n} number
            ∧ let slot : Slot := { number, type, entry := ⟨layout.memory.tableEnd, 8⟩ }
              layout.addSlotInPlace type none
                = .ok ⟨{ layout.memory with tableEnd := layout.memory.tableEnd + 8 }, layout.slots ++ [slot]⟩ slot := by
  refine ⟨fun number => lowestFreeNumber_eq_ok_iff, fun e => ?_, ?_⟩
  · rw [lowestFreeNumber_eq_error_iff, forall_not_unused_iff]
    refine and_congr_left fun _ => ⟨?_, And.left⟩
    rintro rfl
    exact ⟨rfl, rfl⟩
  · by_cases hfew : layout.slots.length < 8
    · -- So few slots leave a number, and only the entry is in question.
      obtain ⟨number, hnumber⟩ : ∃ number, layout.numberOf none = .ok number := exists_numberOf (by omega) none
      have hrefused {e : Error} (h : layout.memory.takeEntry = .error e) :
          layout.addSlotInPlace type none = .fail layout e := addSlotInPlace_of_refused hfew hnumber h
      by_cases haligned : layout.memory.tableEnd % 8 = 0
      · by_cases hroom : 8 ≤ layout.free
        · have hentry : layout.memory.HasEntry := ⟨haligned, hroom⟩
          rw [if_neg (by omega)]
          exact ⟨number, lowestFreeNumber_eq_ok_iff.mp hnumber, addSlotInPlace_of_hasEntry hfew hnumber hentry⟩
        · have hshort := PacketMemory.takeEntry_of_lt haligned (Int.not_le.mp hroom)
          rw [if_pos (by omega)]
          exact ⟨.noRoomForEntry, nofun, fun _ => rfl, hrefused hshort⟩
      · have hunaligned := PacketMemory.takeEntry_of_unaligned haligned
        rw [if_pos (.inr (.inl haligned))]
        exact ⟨.unalignedTable, nofun, fun h => absurd h haligned, hrefused hunaligned⟩
    · rw [if_pos (.inl (Nat.not_lt.mp hfew))]
      exact ⟨.slotsInUse, nofun, fun _ => rfl, addSlotInPlace_of_full (Nat.not_lt.mp hfew)⟩

/-- Numbers that occur twice, or that no endpoint can have, take nothing away from the others. -/
theorem addSlot_takes_least_repeated :
    let slots : List Slot := [1, 1, 3, -5, 40, 2].map fun number => { number, type := .bulk, entry := ⟨0, 8⟩ }
    let slot : Slot := { number := 4, type := .interrupt, entry := ⟨48, 8⟩ }
    IsLeast {n | Layout.Unused ⟨⟨48, 500⟩, slots⟩ n} 4
      ∧ addSlotInPlace ⟨⟨48, 500⟩, slots⟩ .interrupt none = .ok ⟨⟨56, 500⟩, slots ++ [slot]⟩ slot := by
  intro slots slot
  obtain ⟨hsearch, _, hadded⟩ := addSlot_takes_least ⟨⟨48, 500⟩, slots⟩ .interrupt
  have hleast := (hsearch 4).mp (by decide)
  rw [if_neg (by decide)] at hadded
  obtain ⟨number, hnumber, hadded⟩ := hadded
  obtain rfl : number = 4 := hnumber.unique hleast
  exact ⟨hleast, hadded⟩

end UsbCompiler.Layout
