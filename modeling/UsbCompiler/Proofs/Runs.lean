import UsbCompiler.Error

/-!
# `UsbCompiler.Proofs.Runs` — runs of calls that can be refused

A run goes on after a refused call, from whatever state the call left behind. Where refused calls leave the
state as it was, they are as good as not made: the accepted calls of a run alone have the same results and
lead to the same state. The same holds of calls inserted into a run, if no other call can tell the state after them
from the one before.

## Contents
- `Outcome.run`, `Outcome.results` and `Outcome.accepted`: a run, its results, and its calls that were accepted.
- `Outcome.map`: another value for the same state.
- `Outcome.run_append`: one run after another.
- `Outcome.accepted_induction`: what a run keeps together with its accepted calls.
- `Outcome.run_accepted`: a run without its refused calls.
- `Outcome.ofExcept`, `whole_induction` and `run_accepted_whole`: runs of calls that change nothing if they are refused.
- `Outcome.results_inserted`: a run with calls inserted that nobody notices.
-/

namespace UsbCompiler.Outcome

variable {σ κ α : Type}

variable (perform : σ → κ → Outcome σ α)

/-- The state after a run of calls, each from the state that the one before it left. -/
def run (state : σ) : List κ → σ
  | [] => state
  | call :: calls => run (perform state call).state calls

/-- The results of a run, one for each call, in order. -/
def results (state : σ) : List κ → List (Except Error α)
  | [] => []
  | call :: calls => (perform state call).result :: results (perform state call).state calls

/-- The calls of a run that were not refused, in order. -/
def accepted (state : σ) (calls : List κ) : List κ :=
  ((calls.zip (results perform state calls)).filter fun entry => entry.2.isOk).map Prod.fst

/-- An operation whose value is turned into another one. -/
def map {β : Type} (f : α → β) (outcome : Outcome σ α) : Outcome σ β := ⟨outcome.state, outcome.result.map f⟩

variable {perform} {Inv : σ → Prop} {state : σ}

theorem accepted_cons_of_ok {call : κ} {a : α} (calls : List κ) (h : (perform state call).result = .ok a) :
    accepted perform state (call :: calls) = call :: accepted perform (perform state call).state calls := by
  simp only [accepted, results, List.zip_cons_cons, h]
  rfl

theorem accepted_cons_of_error {call : κ} {e : Error} (calls : List κ)
    (h : (perform state call).result = .error e) :
    accepted perform state (call :: calls) = accepted perform (perform state call).state calls := by
  simp only [accepted, results, List.zip_cons_cons, h]
  rfl

theorem run_append (earlier later : List κ) :
    run perform state (earlier ++ later) = run perform (run perform state earlier) later := by
  induction earlier generalizing state with
  | nil => rfl
  | cons call calls ih => exact ih

/-- **Induction over runs with their accepted calls.** What each accepted call keeps, together with the accepted calls
    up to it, and each refused call as well, holds after the whole run. -/
theorem accepted_induction {Inv : List κ → σ → Prop} (hstart : Inv [] state)
    (hok : ∀ past state call a, Inv past state → (perform state call).result = .ok a →
      Inv (past ++ [call]) (perform state call).state)
    (herror : ∀ past state call e, Inv past state → (perform state call).result = .error e →
      Inv past (perform state call).state) (calls : List κ) :
    Inv (accepted perform state calls) (run perform state calls) := by
  -- The calls that were accepted before are part of what is generalised.
  suffices h : ∀ past, Inv past state → Inv (past ++ accepted perform state calls) (run perform state calls) from
    h [] hstart
  clear hstart
  induction calls generalizing state with
  | nil =>
    intro past hpast
    have hnone : accepted perform state [] = [] := rfl
    rw [hnone, List.append_nil]
    exact hpast
  | cons call calls ih =>
    intro past hpast
    cases hcall : (perform state call).result with
    | ok a =>
      rw [accepted_cons_of_ok calls hcall, List.append_cons]
      exact ih _ (hok past state call a hpast hcall)
    | error e =>
      rw [accepted_cons_of_error calls hcall]
      exact ih past (herror past state call e hpast hcall)

/-- **Refused calls that leave no trace can be left out.** The other calls have the same results, and the final
    state is the same. -/
theorem run_accepted (hkeep : ∀ state call, Inv state → Inv (perform state call).state)
    (hrefuse : ∀ state call e, Inv state → (perform state call).result = .error e →
      (perform state call).state = state) (h : Inv state) (calls : List κ) :
    run perform state (accepted perform state calls) = run perform state calls
      ∧ results perform state (accepted perform state calls)
        = (results perform state calls).filter Except.isOk := by
  induction calls generalizing state with
  | nil => exact ⟨rfl, rfl⟩
  | cons call calls ih =>
    obtain ⟨hrun, hresults⟩ := ih (hkeep state call h)
    cases hcall : (perform state call).result with
    | ok a =>
      rw [accepted_cons_of_ok calls hcall]
      refine ⟨hrun, ?_⟩
      simp only [results, hcall, hresults]
      rfl
    | error e =>
      -- The rest of the run starts from the state in front of the call.
      have hsame := hrefuse state call e h hcall
      rw [accepted_cons_of_error calls hcall]
      simp only [run, results, hcall]
      rw [hsame] at hrun hresults ⊢
      exact ⟨hrun, hresults⟩

/-! ## Calls that are refused as a whole -/

section Whole

/-- A call that leads to another state, or is refused and changes nothing. -/
def ofExcept (state : σ) : Except Error σ → Outcome σ Unit
  | .ok next => .ok next ()
  | .error e => .fail state e

variable {attempt : σ → κ → Except Error σ}

/-- Such a call changes nothing if it is refused. -/
theorem state_ofExcept_of_error {next : Except Error σ} {e : Error} (h : (ofExcept state next).result = .error e) :
    (ofExcept state next).state = state := by
  cases next with
  | ok next => cases h
  | error e => rfl

theorem eq_ok_of_ofExcept {next : Except Error σ} {a : Unit} (h : (ofExcept state next).result = .ok a) :
    next = .ok (ofExcept state next).state := by
  cases next with
  | ok next => rfl
  | error e => cases h

/-- **Induction over runs of such calls.** Only the accepted ones have to be looked at. -/
theorem whole_induction {Inv : List κ → σ → Prop} (hstart : Inv [] state)
    (hstep : ∀ past state call next, Inv past state → attempt state call = .ok next → Inv (past ++ [call]) next)
    (calls : List κ) :
    Inv (accepted (fun state call => ofExcept state (attempt state call)) state calls)
      (run (fun state call => ofExcept state (attempt state call)) state calls) := by
  refine accepted_induction hstart ?_ ?_ calls
  · intro past state call _ hinv hok
    exact hstep past state call _ hinv (eq_ok_of_ofExcept hok)
  · intro past state call e hinv herror
    rw [state_ofExcept_of_error herror]
    exact hinv

/-- The accepted calls of such a run lead to the same state alone. -/
theorem run_accepted_whole (state : σ) (calls : List κ) :
    run (fun state call => ofExcept state (attempt state call)) state
        (accepted (fun state call => ofExcept state (attempt state call)) state calls)
      = run (fun state call => ofExcept state (attempt state call)) state calls :=
  (@run_accepted _ _ _ _ (fun _ => True) state (fun _ _ _ => trivial)
    (fun _ _ _ _ herror => state_ofExcept_of_error herror) trivial calls).1

end Whole

/-! ## Inserted calls -/

section Inserted

variable {β : Type}

/-- The entries of those calls that are no inserted ones. An inserted call is marked by `none`. -/
def kept (padded : List (Option κ)) (entries : List β) : List β :=
  ((padded.zip entries).filter fun entry => entry.1.isSome).map Prod.snd

/-- **Inserted calls that nobody notices.** If the states of two runs stay related, with the same results for the same
    calls, and one more `silent` call changes nothing about it, then such calls can be inserted anywhere: the
    other calls have the same results, and the final states are related. -/
theorem results_inserted {R : σ → σ → Prop} {silent : κ}
    (hcall : ∀ s t call, R s t → (perform s call).result = (perform t call).result
      ∧ R (perform s call).state (perform t call).state)
    (hsilent : ∀ s t, R s t → R (perform s silent).state t) (padded : List (Option κ)) {s t : σ} (h : R s t) :
    kept padded (results perform s (padded.map (·.getD silent))) = results perform t (padded.filterMap id)
      ∧ R (run perform s (padded.map (·.getD silent))) (run perform t (padded.filterMap id)) := by
  induction padded generalizing s t with
  | nil => exact ⟨rfl, h⟩
  | cons entry padded ih =>
    cases entry with
    | none => exact ih (hsilent s t h)
    | some call =>
      obtain ⟨hresult, hstate⟩ := hcall s t call h
      obtain ⟨hresults, hrun⟩ := ih hstate
      exact ⟨List.cons_eq_cons.mpr ⟨hresult, hresults⟩, hrun⟩

end Inserted

end UsbCompiler.Outcome
