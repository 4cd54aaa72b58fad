import UsbCompiler.Proofs.Layout.Accepted
import UsbCompiler.Proofs.Layout.Kept
import UsbCompiler.Proofs.Layout.Slots

/-!
# `UsbCompiler.Proofs.Layout.Seats` — who is given which number and direction

An accepted call is told a number, and with the direction that it asked for it owns one half of a slot, or the
whole slot if it is double-buffered. Here this is read off what calls return, not off the layout: a seat is what
the caller knows. Seats of different calls never collide, whatever calls lie between them, and what a seat stands
for in the layout never changes again.

The argument carries no history along. A seat is served by a slot as soon as it is given, slots are kept, and a
new seat keeps clear of everything that some slot serves.

## Contents
- `Layout.Seat`, `Call.seats` and `Layout.seats`: what calls are given.
- `Seat.Apart` and `Slot.Serves`: seats that do not collide, and slots behind seats.
- `Layout.Gives`, with `gives_of_places` and `gives_perform`: single calls.
- `Layout.seats_apart`, `Layout.run_seats_permanent`: runs, and a run in which calls are refused.
-/

namespace UsbCompiler

/-! ## Seats -/

/-- What the caller of an accepted call knows: the endpoint number that it was told, and what it asked for. -/
structure Layout.Seat where
  number : Int
  type : TransferType
  direction : Direction
  doubled : Bool
deriving DecidableEq

/-- The seats that a call is given by its result. Endpoint 0 has both directions. -/
def Layout.Call.seats : Call → Except Error Answer → List Seat
  | allocate _ doubled, .ok (.request answered) =>
    match answered.number, answered.type.bind TransferType.ofCode?, answered.direction.bind Direction.ofCode? with
    | some number, some type, some direction => [⟨number, type, direction, doubled⟩]
    | _, _, _ => []
  | allocateControl _, .ok (.slot _) => [⟨0, .control, .toHost, false⟩, ⟨0, .control, .toDevice, false⟩]
  | _, _ => []

/-- The seats that the calls of a run are given, one list for each call, in order. -/
def Layout.seats (layout : Layout) (calls : List Layout.Call) : List (List Seat) :=
  calls.zipWith Call.seats (layout.results calls)

/-- **Seats that do not collide.** With one number, they have different directions and one type, and none of them
    is double-buffered. -/
def Layout.Seat.Apart (a b : Seat) : Prop :=
  a.number = b.number → a.direction ≠ b.direction ∧ a.type = b.type ∧ a.doubled = false ∧ b.doubled = false

/-- A slot behind a seat. -/
structure Slot.Serves (slot : Slot) (seat : Layout.Seat) : Prop where
  number : slot.number = seat.number
  type : slot.type = seat.type
  doubleBuffered : slot.doubleBuffered = seat.doubled
  enabled : (slot.half seat.direction).enabled = true
  buffer : (slot.half seat.direction).buffer.isSome = true

/-- A slot behind a seat stays behind it. -/
theorem Slot.Kept.serves {slot later : Slot} {seat : Layout.Seat} (h : slot.Kept later) (hserves : slot.Serves seat) :
    later.Serves seat := by
  have hhalf := h.half _ hserves.enabled
  refine ⟨h.number.trans hserves.number, h.type.trans hserves.type, h.doubleBuffered.trans hserves.doubleBuffered,
    ?_, ?_⟩
  · rw [hhalf]
    exact hserves.enabled
  · rw [hhalf]
    exact hserves.buffer

namespace Demand

variable {demand : Demand} {slot : Slot} {memory : PacketMemory}

theorem buffer_occupied : ((demand.occupied slot memory).half demand.direction).buffer.isSome = true := by
  by_cases hd : demand.doubled = true
  · simp only [occupied, hd, if_true]
    cases demand.direction with
    | toHost => rfl
    | toDevice => rfl
  · rw [occupied_of_single (by simpa using hd), Slot.half_setHalf_self]
    rfl

theorem doubleBuffered_occupied (hsingle : slot.doubleBuffered = false) :
    (demand.occupied slot memory).doubleBuffered = demand.doubled := by
  by_cases hd : demand.doubled = true
  · simp only [occupied, hd, if_true]
  · have hd : demand.doubled = false := by simpa using hd
    rw [occupied_of_single hd, Slot.doubleBuffered_setHalf, hsingle, hd]

/-- The seat of a demand in a slot. -/
def seat (demand : Demand) (slot : Slot) : Layout.Seat := ⟨slot.number, demand.type, demand.direction, demand.doubled⟩

theorem serves_occupied (htype : slot.type = demand.type) (hsingle : slot.doubleBuffered = false) :
    (demand.occupied slot memory).Serves (demand.seat slot) where
  number := number_occupied slot memory
  type := (type_occupied slot memory).trans htype
  doubleBuffered := doubleBuffered_occupied hsingle
  enabled := used_occupied
  buffer := buffer_occupied

end Demand

namespace Layout

variable {layout after : Layout} {call : Call} {demand : Demand} {slot : Slot} {request : Endpoint.Request}
  {doubled : Bool}

/-! ## Single calls -/

/-- **A call that gives seats away.** The seats are apart from each other and from all that were served before,
    and there are slots behind them. -/
structure Gives (layout after : Layout) (seats : List Seat) : Prop where
  apart : seats.Pairwise Seat.Apart
  served : ∀ seat ∈ seats, ∃ slot ∈ after.slots, slot.Serves seat
  fresh : ∀ slot ∈ layout.slots, ∀ seat, slot.Serves seat → ∀ other ∈ seats, seat.Apart other

theorem gives_nil (layout after : Layout) : Gives layout after [] :=
  ⟨.nil, fun _ hseat => absurd hseat List.not_mem_nil, fun _ _ _ _ _ hother => absurd hother List.not_mem_nil⟩

/-- An endpoint that is placed has a seat of its own. -/
theorem gives_of_places (hregular : layout.Regular) (hplaces : Places layout demand slot after) :
    Gives layout after [demand.seat slot] := by
  refine ⟨List.pairwise_singleton _ _, ?_, ?_⟩
  · refine List.forall_mem_singleton.mpr ?_
    cases hplaces with
    | share position hchoose hroom hfits =>
      have hjoins := joins_of_choose hchoose
      refine ⟨_, List.mem_set position.isLt _, ?_⟩
      rw [Demand.seat, Demand.number_occupied]
      exact Demand.serves_occupied hjoins.type hjoins.notDouble
    | extend number hchoose hroom hfew hentry hnumber hfits =>
      refine ⟨_, List.mem_append_right _ (List.mem_singleton_self _), ?_⟩
      rw [Demand.seat, Demand.number_occupied]
      exact Demand.serves_occupied rfl rfl
  · intro other hother seat hserves
    refine List.forall_mem_singleton.mpr ?_
    intro hsame
    rw [← hserves.number] at hsame
    cases hplaces with
    | share position hchoose hroom hfits =>
      -- No other slot has the number, so the seat is in the slot that the endpoint moved into.
      have hjoins := joins_of_choose hchoose
      have hsame : other.number = (layout.slots.get position).number :=
        hsame.trans (Demand.number_occupied _ _)
      have heq : other = layout.slots.get position :=
        List.inj_on_of_nodup_map hregular.distinct hother (List.getElem_mem position.isLt) hsame
      subst heq
      refine ⟨?_, hserves.type.symm.trans hjoins.type, hserves.doubleBuffered.symm.trans hjoins.notDouble,
        hjoins.single⟩
      intro hdirection
      have henabled := hserves.enabled
      rw [hdirection] at henabled
      exact absurd (hjoins.disabled.symm.trans henabled) Bool.false_ne_true
    | extend number hchoose hroom hfew hentry hnumber hfits =>
      have hunused := unused_of_choose hchoose hnumber
      exact absurd (hsame.trans (Demand.number_occupied _ _)) (hunused.fresh other hother)

/-- Endpoint 0 has the seats of both directions. -/
theorem gives_control {size : Int} (hcontrol : layout.allocateControl size = .ok (slot, after)) :
    Gives layout after [⟨0, .control, .toHost, false⟩, ⟨0, .control, .toDevice, false⟩] := by
  obtain ⟨_, habsent, _, _, rfl, rfl⟩ := allocateControl_eq_ok_iff.mp hcontrol
  have hmem : controlSlot layout.memory size ∈ layout.slots ++ [controlSlot layout.memory size] :=
    List.mem_append_right _ (List.mem_singleton_self _)
  refine ⟨?_, ?_, ?_⟩
  · refine List.pairwise_pair.mpr ?_
    intro _
    exact ⟨nofun, rfl, rfl, rfl⟩
  · simp only [List.forall_mem_cons]
    exact ⟨⟨_, hmem, rfl, rfl, rfl, rfl, rfl⟩, ⟨_, hmem, rfl, rfl, rfl, rfl, rfl⟩, List.forall_mem_nil _⟩
  · intro other hother seat hserves taken htaken hsame
    rw [← hserves.number] at hsame
    have hzero : taken.number = 0 := by
      rcases List.mem_cons.mp htaken with rfl | htaken
      · rfl
      · rw [List.mem_singleton.mp htaken]
    exact absurd (hsame.trans hzero) (habsent other hother)

theorem seats_allocate (hmeets : Demand.Meets request doubled demand) (slot : Slot) :
    (Call.allocate request doubled).seats (.ok (.request { request with number := some slot.number }))
      = [demand.seat slot] := by
  simp only [Call.seats, hmeets.type, hmeets.direction, Option.bind_some, TransferType.ofCode?_code,
    Direction.ofCode?_code, Demand.seat, hmeets.doubled]

/-- A call that is refused has no seat. -/
theorem seats_of_refused {result : Except Error Answer} (h : ¬result.isOk = true) : call.seats result = [] := by
  cases result with
  | ok answer => exact absurd rfl h
  | error e => cases call <;> rfl

/-- **Every call gives away seats that are free**, and at least one if it is accepted. -/
theorem gives_perform (hregular : layout.Regular) (hcall : call.PlacesEndpoint) :
    let seats := call.seats (layout.perform call).result
    ((layout.perform call).result.isOk = true → seats ≠ []) ∧ Gives layout (layout.perform call).state seats := by
  intro seats
  by_cases hok : (layout.perform call).result.isOk = true
  · cases call with
    | allocate request doubled =>
      obtain ⟨demand, slot, after, hmeets, hplaces⟩ := (isOk_allocate_iff hregular.numbered).mp hok
      have hperform := perform_of_places hregular.numbered hmeets hplaces
      have hseats : seats = [demand.seat slot] := by
        simp only [seats, hperform]
        exact seats_allocate hmeets slot
      rw [hseats, hperform]
      exact ⟨fun _ => List.cons_ne_nil _ _, gives_of_places hregular hplaces⟩
    | allocateControl size =>
      cases hcontrol : layout.allocateControl size with
      | error e =>
        simp only [perform, hcontrol] at hok
        cases hok
      | ok placed =>
        obtain ⟨slot, after⟩ := placed
        simp only [seats, perform, hcontrol]
        exact ⟨fun _ => List.cons_ne_nil _ _, gives_control hcontrol⟩
    | addSlot _ _ | takeEntry | takeBuffer _ => exact absurd hcall id
  · have hseats : seats = [] := seats_of_refused hok
    rw [hseats]
    exact ⟨fun h => absurd h hok, gives_nil _ _⟩

/-! ## Runs -/

/-- The seats of a run are apart from each other and from all that are served when it begins. -/
theorem seats_apart {calls : List Call} (hregular : layout.Regular) (hcalls : ∀ call ∈ calls, call.PlacesEndpoint) :
    (layout.seats calls).flatten.Pairwise Seat.Apart
      ∧ ∀ slot ∈ layout.slots, ∀ seat, slot.Serves seat → ∀ other ∈ (layout.seats calls).flatten,
        seat.Apart other := by
  induction calls generalizing layout with
  | nil => exact ⟨.nil, fun _ _ _ _ _ hother => absurd hother List.not_mem_nil⟩
  | cons call calls ih =>
    obtain ⟨hcall, hrest⟩ := List.forall_mem_cons.mp hcalls
    have heffect := effect_perform layout call
    obtain ⟨_, hgives⟩ := gives_perform hregular hcall
    obtain ⟨hapart, hfresh⟩ := ih (regular_of_effect hcall hregular heffect) hrest
    have hcons : layout.seats (call :: calls)
        = call.seats (layout.perform call).result :: (layout.perform call).state.seats calls := rfl
    rw [hcons, List.flatten_cons]
    refine ⟨List.pairwise_append.mpr ⟨hgives.apart, hapart, ?_⟩, ?_⟩
    · -- What the first call gives away is served when the others begin.
      intro seat hseat
      obtain ⟨slot, hslot, hserves⟩ := hgives.served seat hseat
      exact hfresh slot hslot seat hserves
    · intro slot hslot seat hserves other hother
      rcases List.mem_append.mp hother with hother | hother
      · exact hgives.fresh slot hslot seat hserves other hother
      · obtain ⟨position, hposition⟩ := List.mem_iff_getElem?.mp hslot
        obtain ⟨later, hlater, hkept⟩ := kept_of_effect heffect position slot hposition
        exact hfresh later (List.mem_of_getElem? hlater) seat (hkept.serves hserves) other hother

/-- **Seats are exclusive and permanent.** In a run from the empty layout, no two seats collide. All slots stay
    where they are, with number, type and entry, and with each half that is in use. An accepted call has a seat,
    behind which there is a slot as soon as the call returns; its half, or all of it if it is double-buffered, is
    the same in the end. -/
theorem run_seats_permanent {calls : List Call} (hcalls : ∀ call ∈ calls, call.PlacesEndpoint) :
    (empty.seats calls).flatten.Pairwise Seat.Apart
      ∧ (∀ earlier later, calls = earlier ++ later → Kept (empty.run earlier) (empty.run calls))
      ∧ ∀ earlier call later, calls = earlier ++ [call] ++ later →
        let result := ((empty.run earlier).perform call).result
        let after := empty.run (earlier ++ [call])
        (result.isOk = true → call.seats result ≠ [])
          ∧ ∀ seat ∈ call.seats result, ∃ (position : Nat) (slot last : Slot),
            after.slots[position]? = some slot ∧ slot.Serves seat
              ∧ (empty.run calls).slots[position]? = some last
              ∧ last.half seat.direction = slot.half seat.direction
              ∧ (seat.doubled = true → last = slot) := by
  have hkept (earlier later : List Call) (hsplit : calls = earlier ++ later) :
      Kept (empty.run earlier) (empty.run calls) := by
    rw [hsplit, run_append]
    exact run_kept _ later
  refine ⟨(seats_apart regular_empty hcalls).1, hkept, ?_⟩
  intro earlier call later hsplit result after
  have hboth : ∀ other ∈ earlier ++ [call], other.PlacesEndpoint :=
    fun other hother => hcalls other (hsplit ▸ List.mem_append_left _ hother)
  obtain ⟨hearlier, hcall⟩ := List.forall_mem_append.mp hboth
  obtain ⟨hsome, hgives⟩ := gives_perform (run_regular hearlier) (List.forall_mem_singleton.mp hcall)
  refine ⟨hsome, fun seat hseat => ?_⟩
  obtain ⟨slot, hslot, hserves⟩ := hgives.served seat hseat
  rw [← run_concat] at hslot
  obtain ⟨position, hposition⟩ := List.mem_iff_getElem?.mp hslot
  obtain ⟨last, hlast, hsame⟩ := hkept _ later hsplit position slot hposition
  refine ⟨position, slot, last, hposition, hserves, hlast, hsame.half _ hserves.enabled, ?_⟩
  intro hdoubled
  exact hsame.whole (hserves.doubleBuffered.trans hdoubled)

/-- Endpoint 0, a pair of bulk endpoints and a double-buffered one, with refused calls for the numbers of both. The
    half that the second call was given is still there in the end. -/
theorem run_seats_permanent_refused :
    let toHost : Endpoint.Request := { direction := some 128, type := some 2, maxPacketSize := some 16 }
    let toDevice : Endpoint.Request := { direction := some 0, type := some 2, maxPacketSize := some 16 }
    let earlier : List Call := [.allocateControl 64]
    let call : Call := .allocate toHost false
    let later : List Call := [.allocate { toDevice with number := some 1, type := some 3 } false,
      .allocate toDevice false, .allocate toHost true, .allocate { toDevice with number := some 2 } false]
    let calls := earlier ++ [call] ++ later
    empty.seats calls = [[⟨0, .control, .toHost, false⟩, ⟨0, .control, .toDevice, false⟩],
        [⟨1, .bulk, .toHost, false⟩], [], [⟨1, .bulk, .toDevice, false⟩], [⟨2, .bulk, .toHost, true⟩], []]
      ∧ (empty.seats calls).flatten.Pairwise Seat.Apart
      ∧ Kept (empty.run earlier) (empty.run calls)
      ∧ ∃ (position : Nat) (slot last : Slot), (empty.run (earlier ++ [call])).slots[position]? = some slot
        ∧ slot.Serves ⟨1, .bulk, .toHost, false⟩ ∧ (empty.run calls).slots[position]? = some last
        ∧ last.half .toHost = slot.half .toHost := by
  intro toHost toDevice earlier call later calls
  have hcalls : ∀ call ∈ calls, call.PlacesEndpoint := by
    simp only [calls, earlier, later, List.cons_append, List.nil_append, List.forall_mem_cons]
    exact ⟨trivial, trivial, trivial, trivial, trivial, trivial, List.forall_mem_nil _⟩
  obtain ⟨hapart, hkept, hgiven⟩ := run_seats_permanent hcalls
  have hseat : (⟨1, .bulk, .toHost, false⟩ : Seat) ∈ call.seats ((empty.run earlier).perform call).result := by decide
  obtain ⟨position, slot, last, hslot, hserves, hlast, hhalf, _⟩ := (hgiven earlier call later rfl).2 _ hseat
  exact ⟨by decide, hapart, hkept earlier ([call] ++ later) rfl, position, slot, last, hslot, hserves, hlast, hhalf⟩

end Layout

end UsbCompiler
