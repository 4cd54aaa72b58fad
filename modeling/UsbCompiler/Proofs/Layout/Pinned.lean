import UsbCompiler.Proofs.Layout.Accepted
import UsbCompiler.Proofs.Layout.Slots

/-!
# `UsbCompiler.Proofs.Layout.Pinned` — the same endpoints with pinned numbers

A caller either leaves the number of an endpoint open, and the first slot that admits the endpoint is looked
for, or pins it, and the slot of that number is looked for. The two searches have conditions of their own. They
agree where the number to pin is the one that the endpoint would get anyway: the slot found by its number is then
the slot found before, since no other has its number, and a new number belongs to no slot either way.

So a run can be written down with all of its numbers and replayed, call by call in step with the first run.

## Contents
- `Call.pinned`, `Call.HasNumber` and `Layout.pinned`: a run with the numbers that it gave out.
- `Layout.chooseNumbered_of_joins` and `Layout.chooseNumbered_of_unused`: the search by number.
- `Places.pin` and `Layout.perform_pinned`: a single call.
- `Layout.run_pinned`: runs, and a run that mixes all kinds of requests.
-/

namespace UsbCompiler

namespace Layout

variable {layout after : Layout} {demand : Demand} {slot : Slot}

/-! ## Pinned calls -/

namespace Call

/-- A call with the number pinned that its endpoint was given. -/
def pinned : Call → Except Error Answer → Call
  | allocate request doubled, .ok (.request answered) => .allocate { request with number := answered.number } doubled
  | call, _ => call

/-- Whether a call leaves no number open. -/
def HasNumber : Call → Prop
  | allocate request _ => request.number.isSome = true
  | addSlot _ number => number.isSome = true
  | allocateControl _ | takeEntry | takeBuffer _ => True

end Call

/-- The calls of a run, with the numbers pinned that their endpoints were given. -/
def pinned (layout : Layout) (calls : List Call) : List Call := calls.zipWith Call.pinned (layout.results calls)

/-! ## The search by number -/

/-- The slot that an endpoint can move into is found by its number. -/
theorem chooseNumbered_of_joins (hregular : layout.Regular) (hcontrol : demand.type ≠ .control)
    (position : Fin layout.slots.length) (hjoins : Joins demand (layout.slots.get position)) :
    layout.chooseNumbered demand (layout.slots.get position).number = .ok (some position) := by
  have hslot : (layout.slots.get position).Regular := hregular.slots _ (List.getElem_mem position.isLt)
  have hzero : (layout.slots.get position).number ≠ 0 := by
    intro hnumber
    exact hcontrol (hjoins.type.symm.trans (hslot.control.mp hnumber))
  have hrange : 0 < (layout.slots.get position).number ∧ (layout.slots.get position).number < 16 := by
    have hnumber := hslot.number
    omega
  have hfind : layout.slots.findFinIdx? (fun slot => slot.number = (layout.slots.get position).number)
      = some position := findFinIdx?_of_nodup_map hregular.distinct position
  have hfree : ¬(demand.doubled = true ∨ layout.slots[position].doubleBuffered = true
      ∨ (layout.slots[position].half demand.direction).enabled = true) := by
    simp only [not_or, Bool.not_eq_true]
    exact ⟨hjoins.single, hjoins.notDouble, hjoins.disabled⟩
  have htype : layout.slots[position].type = demand.type := hjoins.type
  unfold chooseNumbered
  rw [if_neg hzero, if_neg (not_not_intro hrange), hfind]
  simp only
  rw [if_neg hfree, if_neg (not_not_intro htype)]

/-- A number that no slot has leads to no slot. -/
theorem chooseNumbered_of_unused {number : Int} (hunused : layout.Unused number) :
    layout.chooseNumbered demand number = .ok none := by
  have hpositive := hunused.positive
  have hfind : layout.slots.findFinIdx? (fun slot => slot.number = number) = none := by
    rw [List.findFinIdx?_eq_none_iff]
    intro slot hslot hsame
    exact hunused.fresh slot hslot (of_decide_eq_true hsame)
  unfold chooseNumbered
  rw [if_neg (by omega), if_neg (not_not_intro ⟨hpositive, hunused.small⟩), hfind]

/-- **A placed endpoint is placed in the same way if its number is pinned.** -/
theorem Places.pin (h : Places layout demand slot after) (hregular : layout.Regular)
    (hcontrol : demand.type ≠ .control) : Places layout { demand with number := some slot.number } slot after := by
  cases h with
  | share position hchoose hroom hfits =>
    have hjoins := joins_of_choose hchoose
    rw [Demand.number_occupied]
    exact .share position (chooseNumbered_of_joins hregular hcontrol position hjoins) hroom hfits
  | extend number hchoose hroom hfew hentry hnumber hfits =>
    rw [Demand.number_occupied]
    have hunused := unused_of_choose hchoose hnumber
    exact .extend number (chooseNumbered_of_unused hunused) hroom hfew hentry rfl hfits

/-! ## Runs -/

/-- **A call that was accepted** does the same if its number is pinned. -/
theorem perform_pinned (hregular : layout.Regular) {call : Call} (hcall : call.PlacesEndpoint)
    (hok : (layout.perform call).result.isOk = true) :
    (call.pinned (layout.perform call).result).HasNumber
      ∧ (call.Checked → (call.pinned (layout.perform call).result).Checked)
      ∧ layout.perform (call.pinned (layout.perform call).result) = layout.perform call := by
  cases call with
  | allocate request doubled =>
    have hnumbers := hregular.numbered
    obtain ⟨demand, slot, after, hmeets, hplaces⟩ := (isOk_allocate_iff hnumbers).mp hok
    have hset : request.set (.number slot.number) = .ok { request with number := some slot.number } :=
      Endpoint.Request.set_number_eq_ok_iff.mpr ⟨hplaces.number_range hnumbers, rfl⟩
    have hpinned : Demand.Meets { request with number := some slot.number } doubled
        { demand with number := some slot.number } :=
      ⟨rfl, hmeets.type, hmeets.direction, hmeets.size, hmeets.notControl, hmeets.doubled⟩
    rw [perform_of_places hnumbers hmeets hplaces]
    exact ⟨rfl, fun hchecked => .set hchecked hset,
      perform_of_places hnumbers hpinned (hplaces.pin hregular hmeets.notControl)⟩
  | allocateControl packetSize => exact ⟨trivial, id, rfl⟩
  | addSlot _ _ | takeEntry | takeBuffer _ => exact absurd hcall id

/-- A run that was accepted has the same results and the same end if its numbers are pinned. -/
theorem results_pinned {calls : List Call} (hregular : layout.Regular)
    (hcalls : ∀ call ∈ calls, call.PlacesEndpoint) (haccepts : layout.Accepts calls) :
    (∀ call ∈ layout.pinned calls, call.HasNumber)
      ∧ ((∀ call ∈ calls, call.Checked) → ∀ call ∈ layout.pinned calls, call.Checked)
      ∧ layout.results (layout.pinned calls) = layout.results calls
      ∧ layout.run (layout.pinned calls) = layout.run calls := by
  induction calls generalizing layout with
  | nil => exact ⟨List.forall_mem_nil _, fun _ => List.forall_mem_nil _, rfl, rfl⟩
  | cons call calls ih =>
    obtain ⟨hcall, hrest⟩ := List.forall_mem_cons.mp hcalls
    obtain ⟨hok, haccepts⟩ := accepts_cons.mp haccepts
    obtain ⟨hnumber, hchecked, hperform⟩ := perform_pinned hregular hcall hok
    -- Both runs go on from one layout.
    have hnext : (layout.perform call).state.Regular := regular_of_effect hcall hregular (effect_perform layout call)
    obtain ⟨hnumbers, hallChecked, hresults, hrun⟩ := ih hnext hrest haccepts
    have hcons : layout.pinned (call :: calls)
        = call.pinned (layout.perform call).result :: (layout.perform call).state.pinned calls := rfl
    rw [hcons]
    refine ⟨List.forall_mem_cons.mpr ⟨hnumber, hnumbers⟩, ?_, ?_, ?_⟩
    · intro hall
      obtain ⟨hfirst, hall⟩ := List.forall_mem_cons.mp hall
      exact List.forall_mem_cons.mpr ⟨hchecked hfirst, hallChecked hall⟩
    · rw [results_cons, results_cons, hperform, hresults]
    · rw [run, run, hperform, hrun]

/-- **Pinned and open numbers agree.** A run from the empty layout in which every call is accepted can be replayed
    with the numbers pinned that it gave out. No number is left open then, every call is accepted with the same
    result, and the layout at the end is the same. -/
theorem run_pinned {calls : List Call} (hcalls : ∀ call ∈ calls, call.PlacesEndpoint)
    (haccepts : empty.Accepts calls) :
    let replay := empty.pinned calls
    (∀ call ∈ replay, call.HasNumber)
      ∧ ((∀ call ∈ calls, call.Checked) → ∀ call ∈ replay, call.Checked)
      ∧ empty.Accepts replay
      ∧ empty.results replay = empty.results calls
      ∧ empty.run replay = empty.run calls := by
  intro replay
  obtain ⟨hnumbers, hchecked, hresults, hrun⟩ := results_pinned regular_empty hcalls haccepts
  refine ⟨hnumbers, hchecked, ?_, hresults, hrun⟩
  rw [Accepts, hresults]
  exact haccepts

/-- Endpoint 0, two pairs of endpoints that share a slot and a double-buffered one. One number was pinned from the
    start; the replay pins the other ones. -/
theorem run_pinned_mixed :
    let toHost : Endpoint.Request := { direction := some 128, type := some 2, maxPacketSize := some 16 }
    let toDevice : Endpoint.Request := { direction := some 0, type := some 2, maxPacketSize := some 16 }
    let calls : List Call := [.allocateControl 64, .allocate toHost false, .allocate toHost true,
      .allocate toDevice false, .allocate { toDevice with number := some 5 } false, .allocate toHost false]
    let replay : List Call := [.allocateControl 64, .allocate { toHost with number := some 1 } false,
      .allocate { toHost with number := some 2 } true, .allocate { toDevice with number := some 1 } false,
      .allocate { toDevice with number := some 5 } false, .allocate { toHost with number := some 5 } false]
    empty.Accepts calls ∧ empty.pinned calls = replay ∧ empty.Accepts replay ∧ empty.run replay = empty.run calls
      ∧ (empty.run replay).slots.map Slot.number = [0, 1, 2, 5] := by
  intro toHost toDevice calls replay
  have hcalls : ∀ call ∈ calls, call.PlacesEndpoint := by
    simp only [calls, List.forall_mem_cons]
    exact ⟨trivial, trivial, trivial, trivial, trivial, trivial, List.forall_mem_nil _⟩
  have haccepts : empty.Accepts calls := by decide
  have hreplay : empty.pinned calls = replay := by decide
  obtain ⟨_, _, hreplayed, _, hrun⟩ := run_pinned hcalls haccepts
  rw [hreplay] at hreplayed hrun
  exact ⟨haccepts, hreplay, hreplayed, hrun, by decide⟩

end Layout

end UsbCompiler
