import UsbCompiler.Proofs.Peripheral

/-!
# `UsbCompiler.Proofs.Peripheral.Lookup` — the setup of any layout, also of one made by hand

A layout that was made by hand can have slots in any order, several of them with one number, and slots that have
no setup. The slots are sorted before their setups are computed. Sorting keeps the slots of one number in the
order in which they were given out, so the first endpoint that is found under a number belongs to the first slot
that is found under it, and the first slot in the new order that has no setup is the one that the error is about.

## Contents
- `Layout.InOrder` and `Layout.inOrder_iff`: the one order of the slots that the setup follows.
- `Layout.find?_slotsByNumber`, `Peripheral.find_of_forall₂`: look-up in slots and in their setups.
- `Layout.toPeripheral_eq_error_iff`: the slot that an error is about.
- `Layout.toPeripheral_inOrder`: all of it for every layout.
-/

namespace UsbCompiler

namespace Layout

variable {layout : Layout} {ordered : List Slot}

/-! ## The order of the slots -/

/-- **The slots in order.** Each slot is there once, the numbers do not decrease, and the slots of one number
    stand in the order in which they were given out. -/
structure InOrder (layout : Layout) (ordered : List Slot) : Prop where
  perm : ordered.Perm layout.slots
  sorted : ordered.Pairwise fun a b => a.number ≤ b.number
  stable : ∀ n : Int, ordered.filter (fun slot => slot.number = n) = layout.slots.filter fun slot => slot.number = n

/-- Sorting keeps the slots of one number in order. -/
theorem filter_slotsByNumber (layout : Layout) (n : Int) :
    layout.slotsByNumber.filter (fun slot => slot.number = n) = layout.slots.filter fun slot => slot.number = n := by
  -- The slots of the number are in order already, so that sorting leaves them in a sublist of their own.
  have hequal : (layout.slots.filter fun slot => slot.number = n).Pairwise
      fun a b => decide (a.number ≤ b.number) := by
    refine List.pairwise_of_forall_mem_list fun a ha b hb => ?_
    simp only [List.mem_filter, decide_eq_true_eq] at ha hb ⊢
    omega
  have hsub : (layout.slots.filter fun slot => slot.number = n).Sublist layout.slotsByNumber :=
    List.sublist_mergeSort number_le_trans number_le_total hequal List.filter_sublist
  have hfilter := hsub.filter fun slot => slot.number = n
  rw [List.filter_filter] at hfilter
  simp only [Bool.and_self] at hfilter
  exact (hfilter.eq_of_length (layout.slotsByNumber_perm.filter _).length_eq.symm).symm

/-- There is one such order, and it is the one that sorting gives. -/
theorem inOrder_iff : layout.InOrder ordered ↔ ordered = layout.slotsByNumber := by
  constructor
  · intro h
    refine eq_of_sorted_of_filter_eq h.sorted layout.slotsByNumber_sorted fun n => ?_
    rw [h.stable, filter_slotsByNumber]
  · rintro rfl
    exact ⟨layout.slotsByNumber_perm, layout.slotsByNumber_sorted, layout.filter_slotsByNumber⟩

/-! ## Look-up -/

/-- Sorting does not change which slot of a number comes first. -/
theorem find?_slotsByNumber (layout : Layout) (n : Int) :
    layout.slotsByNumber.find? (fun slot => slot.number = n) = layout.find? n := by
  unfold find?
  rw [← List.head?_filter, filter_slotsByNumber, List.head?_filter]

end Layout

namespace Slot

variable {slot : Slot} {endpoint : Peripheral.Endpoint}

theorem number_of_toPeripheral (h : slot.toPeripheral = .ok endpoint) : endpoint.number = slot.number := by
  unfold toPeripheral at h
  split at h
  · cases h
  · split at h
    · cases h
    · obtain ⟨receive, _, rfl⟩ := map_eq_ok_iff.mp h
      rfl

end Slot

namespace Peripheral

/-- Look-up in the setups of slots finds the setup of the slot that look-up in the slots finds. -/
theorem find_of_forall₂ {peripheral : Peripheral} {slots : List Slot} {n : Int}
    (h : List.Forall₂ (fun slot endpoint => slot.toPeripheral = .ok endpoint) slots peripheral.endpoints) :
    peripheral.find n = match slots.find? fun slot => slot.number = n with
      | some slot => slot.toPeripheral
      | none => .error (.missing n) := by
  have hnumber (slot : Slot) (endpoint : Endpoint) (h : slot.toPeripheral = .ok endpoint) :
      decide (slot.number = n) = decide (endpoint.number = n) := by rw [Slot.number_of_toPeripheral h]
  have hfound := find?_of_forall₂ h hnumber
  unfold find
  generalize slots.find? (fun slot => decide (slot.number = n)) = slot? at hfound ⊢
  generalize peripheral.endpoints.find? (fun endpoint => decide (endpoint.number = n)) = endpoint? at hfound ⊢
  cases hfound with
  | none => rfl
  | some hok => exact hok.symm

end Peripheral

namespace Layout

variable {layout : Layout}

/-! ## The setup -/

/-- The setup fails with the error of the first slot in order that has none. -/
theorem toPeripheral_eq_error_iff {e : Error} : layout.toPeripheral = .error e
    ↔ ∃ before slot after, layout.slotsByNumber = before ++ slot :: after
      ∧ (∀ other ∈ before, ∃ endpoint, other.toPeripheral = .ok endpoint) ∧ slot.toPeripheral = .error e := by
  unfold toPeripheral
  rw [map_eq_error_iff, mapM_eq_error_iff]

/-- **The setup of any layout.** There is one way to put the slots in order. If each slot has a setup, so has the
    layout: the setups of the slots in that order, in which a number leads to the setup of the first slot that was
    given out with it. If not, the first slot in order without a setup says why. -/
theorem toPeripheral_inOrder (layout : Layout) :
    ∃ ordered, (∀ other, layout.InOrder other ↔ other = ordered)
      ∧ ((∀ slot ∈ layout.slots, ∃ endpoint, slot.toPeripheral = .ok endpoint) →
        ∃ peripheral, layout.toPeripheral = .ok peripheral
          ∧ List.Forall₂ (fun slot endpoint => slot.toPeripheral = .ok endpoint) ordered peripheral.endpoints
          ∧ peripheral.endpoints.map Peripheral.Endpoint.number = ordered.map Slot.number
          ∧ (∀ n slot, layout.find? n = some slot → peripheral.find n = slot.toPeripheral)
          ∧ ∀ n, layout.find? n = none → peripheral.find n = .error (.missing n))
      ∧ ((∃ slot ∈ layout.slots, ∃ e, slot.toPeripheral = .error e) →
        ∃ before slot after e, ordered = before ++ slot :: after
          ∧ (∀ other ∈ before, ∃ endpoint, other.toPeripheral = .ok endpoint)
          ∧ slot.toPeripheral = .error e ∧ layout.toPeripheral = .error e) := by
  refine ⟨layout.slotsByNumber, fun other => inOrder_iff, ?_, ?_⟩
  · intro hall
    have hordered : ∀ slot ∈ layout.slotsByNumber, ∃ endpoint, slot.toPeripheral = .ok endpoint :=
      fun slot hslot => hall slot (layout.slotsByNumber_perm.mem_iff.mp hslot)
    obtain ⟨endpoints, hendpoints⟩ := exists_forall₂ hordered
    have hfind (n : Int) : Peripheral.find ⟨endpoints⟩ n = match layout.find? n with
        | some slot => slot.toPeripheral
        | none => .error (.missing n) := by
      rw [← find?_slotsByNumber]
      exact Peripheral.find_of_forall₂ hendpoints
    refine ⟨⟨endpoints⟩, toPeripheral_eq_ok_iff.mpr hendpoints, hendpoints, ?_, ?_, ?_⟩
    · exact (map_eq_of_forall₂ hendpoints fun slot endpoint hok => (Slot.number_of_toPeripheral hok).symm).symm
    · intro n slot hslot
      rw [hfind, hslot]
    · intro n hnone
      rw [hfind, hnone]
  · rintro ⟨slot, hslot, e, he⟩
    -- The slot that fails may not be the first one in order.
    cases hsetup : layout.toPeripheral with
    | ok peripheral =>
      have hmem := layout.slotsByNumber_perm.mem_iff.mpr hslot
      obtain ⟨endpoint, _, hok⟩ := exists_of_forall₂ (toPeripheral_eq_ok_iff.mp hsetup) hmem
      rw [hok] at he
      cases he
    | error found =>
      obtain ⟨before, first, after, hsplit, hbefore, hfirst⟩ := toPeripheral_eq_error_iff.mp hsetup
      exact ⟨before, first, after, found, hsplit, hbefore, hfirst, rfl⟩

/-- Two slots share number 3. The one that was given out first is found, behind endpoint 1 in the setup. Of two
    slots without a setup, the one with the lower number is reported, though the other one was given out first. -/
theorem toPeripheral_inOrder_handmade :
    let early : Slot := { number := 3, type := .bulk, entry := ⟨0, 8⟩ }
    let low : Slot := { number := 1, type := .interrupt, entry := ⟨8, 8⟩ }
    let late : Slot := { number := 3, type := .interrupt, entry := ⟨16, 8⟩ }
    (∃ peripheral, toPeripheral ⟨.empty, [early, low, late]⟩ = .ok peripheral
      ∧ List.Forall₂ (fun slot endpoint => slot.toPeripheral = .ok endpoint) [low, early, late] peripheral.endpoints
      ∧ peripheral.find 3 = early.toPeripheral
      ∧ peripheral.find 2 = .error (.missing 2))
    ∧ toPeripheral ⟨.empty, [{ early with doubleBuffered := true }, { low with doubleBuffered := true }]⟩
      = .error (.doubleBuffered 1) := by
  intro early low late
  constructor
  · have hinOrder : InOrder ⟨.empty, [early, low, late]⟩ [low, early, late] := by
      refine ⟨.swap early low [late], by decide, ?_⟩
      intro n
      by_cases hthree : 3 = n
      · subst hthree
        decide
      · simp [List.filter_cons, early, late, hthree]
    obtain ⟨ordered, hordered, hsetup, _⟩ := toPeripheral_inOrder ⟨.empty, [early, low, late]⟩
    obtain rfl := (hordered _).mp hinOrder
    have hall : ∀ slot ∈ [early, low, late], ∃ endpoint, slot.toPeripheral = .ok endpoint := by
      simp only [List.forall_mem_cons]
      exact ⟨⟨_, rfl⟩, ⟨_, rfl⟩, ⟨_, rfl⟩, List.forall_mem_nil _⟩
    obtain ⟨peripheral, hok, hendpoints, _, hfound, habsent⟩ := hsetup hall
    exact ⟨peripheral, hok, hendpoints, hfound 3 early rfl, habsent 2 rfl⟩
  · let first : Slot := { low with doubleBuffered := true }
    let second : Slot := { early with doubleBuffered := true }
    have hinOrder : InOrder ⟨.empty, [second, first]⟩ [first, second] := by
      refine ⟨.swap _ _ [], by decide, ?_⟩
      intro n
      by_cases hthree : 3 = n
      · subst hthree
        decide
      · simp [List.filter_cons, second, early, hthree]
    obtain ⟨ordered, hordered, _, hrefused⟩ := toPeripheral_inOrder ⟨.empty, [second, first]⟩
    obtain rfl := (hordered _).mp hinOrder
    obtain ⟨before, slot, after, e, hsplit, hbefore, he, herror⟩ :=
      hrefused ⟨_, List.mem_cons_self, _, Slot.toPeripheral_of_doubleBuffered rfl⟩
    cases before with
    | nil =>
      cases hsplit
      cases he
      exact herror
    | cons other before =>
      -- The slot of endpoint 1 has no setup either.
      obtain ⟨rfl, _⟩ := List.cons.inj hsplit
      obtain ⟨endpoint, hok⟩ := hbefore _ List.mem_cons_self
      cases hok

end Layout

end UsbCompiler
