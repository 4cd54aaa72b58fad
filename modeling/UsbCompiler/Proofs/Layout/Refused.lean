import Mathlib.Logic.Function.Basic
import UsbCompiler.Proofs.Layout.InPlace
import UsbCompiler.Proofs.Layout.Run
import UsbCompiler.Proofs.Lists
import UsbCompiler.Proofs.Runs

/-!
# `UsbCompiler.Proofs.Layout.Refused` — refused calls leave no trace

Callers hold on to their requests: an accepted request is given its number, and the same request can come back
in a later call. A plan is a layout together with these requests. A call on a plan reserves in place, one step
after another, so that a refused call could leave both half-done; the main statement says that it leaves both
as they were, and that a run is therefore the run of its accepted calls.

Nothing is asked of the layout but numbers of endpoints in all slots, so slots may be made by hand, and requests
may hold any numbers and codes.

## Contents
- `Plan`, `Plan.Call` and `Plan.perform`.
- `Places.numbered` and `Plan.numbered_perform`: slots keep to numbers of endpoints.
- `Plan.state_of_error`: a single call; `Plan.refused_leave_no_trace`: any run, and one over slots made by hand.
-/

namespace UsbCompiler

/-- A layout, and the requests that callers hold on to. -/
structure Plan where
  layout : Layout
  requests : Nat → Endpoint.Request

namespace Plan

/-- A call on a plan. -/
inductive Call where
  /-- Places the endpoint of a request, with two buffers if it is to be double-buffered. -/
  | allocate (holder : Nat) (doubled : Bool)
  /-- Places endpoint 0. -/
  | allocateControl (packetSize : Int)
deriving DecidableEq

/-- The outcome of a call, made in place. An accepted request is replaced by its answer. -/
def perform (plan : Plan) : Call → Outcome Plan Layout.Answer
  | .allocate holder doubled =>
    let outcome := plan.layout.allocateInPlace (plan.requests holder) doubled
    match outcome.result with
    | .ok answered => .ok ⟨outcome.state, Function.update plan.requests holder answered⟩ (.request answered)
    | .error error => .fail ⟨outcome.state, plan.requests⟩ error
  | .allocateControl packetSize =>
    let outcome := plan.layout.allocateControlInPlace packetSize
    ⟨⟨outcome.state, plan.requests⟩, outcome.result.map .slot⟩

end Plan

/-! ## Numbers -/

namespace Layout

variable {layout after : Layout} {demand : Demand} {slot : Slot}

/-- A placed endpoint leaves numbers of endpoints in all slots. -/
theorem Places.numbered (hnumbers : layout.Numbered) (h : Places layout demand slot after) : after.Numbered := by
  have hrange := h.number_range hnumbers
  cases h with
  | share position hchoose hroom hfits => exact forall_mem_set hnumbers hrange
  | extend number hchoose hroom hfew hentry hnumber hfits => exact forall_mem_concat hnumbers hrange

theorem numbered_allocateControl {packetSize : Int} (hnumbers : layout.Numbered)
    (h : layout.allocateControl packetSize = .ok (slot, after)) : after.Numbered := by
  obtain ⟨_, _, _, _, rfl, rfl⟩ := allocateControl_eq_ok_iff.mp h
  exact forall_mem_concat hnumbers (by decide : (0 : Int) ≤ 0 ∧ (0 : Int) < 16)

end Layout

/-! ## Calls on a plan -/

namespace Plan

variable {plan : Plan}

/-- **A refused call leaves no trace**: neither in the layout nor in the requests. -/
theorem state_of_error (hnumbers : plan.layout.Numbered) {call : Call} {e : Error}
    (h : (plan.perform call).result = .error e) : (plan.perform call).state = plan := by
  cases call with
  | allocate holder doubled =>
    have hstate := @Layout.state_of_refused plan.layout hnumbers (plan.requests holder) doubled
    simp only [perform, Layout.allocateInPlace_eq] at h ⊢
    cases hresult : (plan.layout.allocate (plan.requests holder) doubled).result with
    | ok answered =>
      rw [hresult] at h
      cases h
    | error e' =>
      simp only [hstate hresult]
      rfl
  | allocateControl packetSize =>
    simp only [perform, Layout.allocateControlInPlace_eq] at h ⊢
    cases hresult : plan.layout.allocateControl packetSize with
    | ok added =>
      rw [hresult] at h
      cases h
    | error e' => rfl

/-- Calls leave numbers of endpoints in all slots. -/
theorem numbered_perform (hnumbers : plan.layout.Numbered) (call : Call) :
    (plan.perform call).state.layout.Numbered := by
  cases hresult : (plan.perform call).result with
  | error e =>
    rw [state_of_error hnumbers hresult]
    exact hnumbers
  | ok answer =>
    cases call with
    | allocate holder doubled =>
      simp only [perform, Layout.allocateInPlace_eq] at hresult ⊢
      cases hallocate : (plan.layout.allocate (plan.requests holder) doubled).result with
      | error e =>
        rw [hallocate] at hresult
        cases hresult
      | ok answered =>
        have hok : plan.layout.allocate (plan.requests holder) doubled
            = .ok (plan.layout.allocate (plan.requests holder) doubled).state answered := by
          rw [Outcome.ok, ← hallocate]
        obtain ⟨demand, slot, _, hplaces, _⟩ := (Layout.allocate_eq_ok_iff hnumbers).mp hok
        exact hplaces.numbered hnumbers
    | allocateControl packetSize =>
      simp only [perform, Layout.allocateControlInPlace_eq] at hresult ⊢
      cases hallocate : plan.layout.allocateControl packetSize with
      | error e =>
        rw [hallocate] at hresult
        cases hresult
      | ok added => exact Layout.numbered_allocateControl hnumbers hallocate

/-- **Refused calls leave no trace.** Reserving in place is as good as reserving as a whole; a refused call leaves
    layout and requests as they were; and a run without its refused calls has the same results for all others
    and the same final state. -/
theorem refused_leave_no_trace (hnumbers : plan.layout.Numbered) :
    ((∀ request doubled, plan.layout.allocateInPlace request doubled = plan.layout.allocate request doubled)
      ∧ ∀ packetSize, plan.layout.allocateControlInPlace packetSize
        = plan.layout.whole (plan.layout.allocateControl packetSize))
    ∧ (∀ call e, (plan.perform call).result = .error e → (plan.perform call).state = plan)
    ∧ ∀ calls,
      Outcome.run perform plan (Outcome.accepted perform plan calls) = Outcome.run perform plan calls
      ∧ Outcome.results perform plan (Outcome.accepted perform plan calls)
        = (Outcome.results perform plan calls).filter Except.isOk := by
  refine ⟨⟨?_, ?_⟩, ?_, ?_⟩
  · exact plan.layout.allocateInPlace_eq
  · exact plan.layout.allocateControlInPlace_eq
  · intro call e h
    exact state_of_error hnumbers h
  · exact Outcome.run_accepted (fun plan call hnumbers => numbered_perform hnumbers call)
      (fun plan call e hnumbers h => state_of_error hnumbers h) hnumbers

/-- Two slots made by hand under one number, and requests with sizes and codes from far outside. The third request
    moves into one of the slots, and comes back in vain when it has its number. -/
theorem refused_leave_no_trace_handmade :
    let slot : Slot := { number := 3, type := .bulk, entry := ⟨0, 8⟩, transmit := ⟨true, some ⟨448, 64⟩⟩ }
    let plan : Plan := {
      layout := ⟨⟨16, 400⟩, [slot, slot]⟩
      requests := fun holder =>
        if holder = 0 then { direction := some 128, type := some 3, maxPacketSize := some 1000000000000000000000 }
        else if holder = 1 then { direction := some 7, type := some 2, maxPacketSize := some (-5) }
        else { direction := some 0, type := some 2, maxPacketSize := some 64 } }
    let calls : List Call :=
      [.allocate 0 true, .allocate 1 false, .allocate 2 false, .allocate 2 false, .allocateControl 9,
        .allocateControl 64]
    (Outcome.results perform plan calls).map Except.isOk = [false, false, true, false, false, true]
      ∧ Outcome.run perform plan [.allocate 2 false, .allocateControl 64] = Outcome.run perform plan calls
      ∧ Outcome.results perform plan [.allocate 2 false, .allocateControl 64]
        = (Outcome.results perform plan calls).filter Except.isOk := by
  intro slot plan calls
  have hnumbers : plan.layout.Numbered := by decide
  have haccepted : Outcome.accepted perform plan calls = [.allocate 2 false, .allocateControl 64] := by decide
  have hruns := (refused_leave_no_trace hnumbers).2.2 calls
  rw [haccepted] at hruns
  exact ⟨by decide, hruns⟩

end Plan

end UsbCompiler
