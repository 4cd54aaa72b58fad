import UsbCompiler.Proofs.Bench.Tidy
import UsbCompiler.Proofs.SerialFunction

/-!
# `UsbCompiler.Proofs.Bench.Job` — calls and serial functions in any order

A serial function works behind the caller's back: its interfaces never come into the caller's hands, and one that fails
leaves more places in its device than there were. Otherwise it is like any other call in that it does not touch what is
there already.

## Contents
- `Bench.Job` and `Bench.performJob`: a call or a whole serial function.
- `Bench.Does` and `does_performJob`: all that a job can do.
- `Does.holds_iff`, `number`, `get_of_not_holds`, `place_kept` and `tidy`: what it leaves alone.
- `Bench.runJobs`, `Bench.acceptedJobs`, `Tidy.runJobs` and `Tidy.number_runJobs`: runs of jobs.
- `Bench.Pinned`, `Bench.Spares` and `Tidy.pinned_runJobs`: places that outlast a run.
-/

namespace UsbCompiler

/-- A store that grows keeps its interfaces in their places. -/
theorem Interface.Store.Numbered.extend {store next : Interface.Store} {interfaces : List Interface.Handle}
    (h : store.Numbered interfaces) (hextends : next.Extends store) : next.Numbered interfaces := by
  intro i handle hplace
  obtain ⟨hknown, hnumber⟩ := h i handle hplace
  obtain ⟨hstill, hget⟩ := hextends handle hknown
  exact ⟨hstill, hget ▸ hnumber⟩

namespace Bench

/-! ## Jobs -/

/-- A call, or a whole serial function for a device. -/
inductive Job where
  | call (call : Call)
  | serial (device : Nat) (notify read write : Endpoint.Source)
deriving DecidableEq

/-- The bench with another state of a device and of all interfaces. -/
def withState (bench : Bench) (d : Nat) (state : SerialFunction.State) : Bench :=
  { bench with devices := bench.devices.set d state.1, store := state.2 }

/-- The outcome of a job. A serial function answers with the numbers of its interfaces. -/
def performJob (bench : Bench) : Job → Outcome Bench (Option (Int × Int))
  | .call call => ⟨(bench.perform call).state, (bench.perform call).result.map fun _ => none⟩
  | .serial d notify read write =>
    match bench.devices[d]? with
    | none => .fail bench (.missing d)
    | some device =>
      let outcome := SerialFunction.install (device, bench.store) notify read write
      ⟨bench.withState d outcome.state, outcome.result.map some⟩

variable {bench : Bench} {job : Job} {outcome : Outcome Bench (Option (Int × Int))} {handle : Interface.Handle}
  {d k : Nat} {device : Device} {interface : Interface}

theorem performJob_serial (hdevice : bench.devices[d]? = some device) (notify read write : Endpoint.Source) :
    let outcome := SerialFunction.install (device, bench.store) notify read write
    bench.performJob (.serial d notify read write)
      = ⟨bench.withState d outcome.state, outcome.result.map some⟩ := by
  simp only [performJob, hdevice]

/-- **Jobs.** All that a job can do: be refused and change nothing, do what a call does, or add two interfaces with the
    next numbers, whether it succeeds or not. -/
inductive Does (bench : Bench) : Job → Outcome Bench (Option (Int × Int)) → Prop where
  | refused (job : Job) (e : Error) : Does bench job (.fail bench e)
  | call {call : Call} {next : Bench} (haccepts : Accepts bench call next) : Does bench (.call call) (.ok next none)
  | serial {d : Nat} {notify read write : Endpoint.Source} {device : Device} {state : SerialFunction.State}
      {first second : Interface} (result : Except Error (Option (Int × Int)))
      (hdevice : bench.devices[d]? = some device) (hadds : SerialFunction.Adds (device, bench.store) state first second)
      (hfirst : first.number = device.interfaces.length) (hsecond : second.number = device.interfaces.length + 1) :
      Does bench (.serial d notify read write) ⟨bench.withState d state, result⟩

theorem does_performJob (bench : Bench) (job : Job) : Does bench job (bench.performJob job) := by
  cases job with
  | call call =>
    simp only [performJob, perform]
    cases hattempt : bench.attempt call with
    | ok next => exact .call (accepts_of_attempt hattempt)
    | error e => exact .refused _ e
  | serial d notify read write =>
    cases hdevice : bench.devices[d]? with
    | none =>
      simp only [performJob, hdevice]
      exact .refused _ _
    | some device =>
      rw [performJob_serial hdevice]
      rcases SerialFunction.install_cases (device, bench.store) notify read write with ⟨e, _, _, hadds⟩
        | ⟨first, e, hfirst, _, _, hadds⟩ | ⟨first, second, hfirst, hsecond, _, hadds⟩
      · exact .serial _ hdevice hadds rfl rfl
      · obtain ⟨_, notifier, _, rfl⟩ := SerialFunction.communication_eq_ok_iff.mp hfirst
        exact .serial _ hdevice hadds rfl rfl
      · obtain ⟨_, notifier, _, rfl⟩ := SerialFunction.communication_eq_ok_iff.mp hfirst
        obtain ⟨reader, writer, _, _, rfl⟩ := SerialFunction.data_eq_ok_iff.mp hsecond
        exact .serial _ hdevice hadds rfl (Int.natCast_succ _)

/-! ## What jobs leave alone -/

namespace Does

theorem holds (h : Does bench job outcome) (hheld : bench.Holds handle) : outcome.state.Holds handle := by
  cases h with
  | refused => exact hheld
  | call haccepts => exact haccepts.holds hheld
  | serial result hdevice hadds hfirst hsecond => exact hheld

theorem holds_iff (h : Does bench job outcome) (hknown : bench.store.Knows handle) :
    outcome.state.Holds handle ↔ bench.Holds handle := by
  cases h with
  | refused => exact Iff.rfl
  | call haccepts => exact haccepts.holds_iff hknown
  | serial result hdevice hadds hfirst hsecond => exact Iff.rfl

theorem number (h : Does bench job outcome) (htidy : bench.Tidy) (hknown : bench.store.Knows handle) :
    (outcome.state.store.get handle).number = (bench.store.get handle).number := by
  cases h with
  | refused => rfl
  | call haccepts => exact haccepts.number htidy hknown
  | serial result hdevice hadds hfirst hsecond => exact congrArg Interface.number (hadds.kept handle hknown).2

theorem get_of_not_holds (h : Does bench job outcome) (htidy : bench.Tidy) (hknown : bench.store.Knows handle)
    (hnot : ¬bench.Holds handle) : outcome.state.store.get handle = bench.store.get handle := by
  cases h with
  | refused => rfl
  | call haccepts => exact haccepts.get_of_not_holds htidy hknown hnot
  | serial result hdevice hadds hfirst hsecond => exact (hadds.kept handle hknown).2

/-- What was saved was in hand. -/
theorem saved (h : Does bench (.call (.save handle d)) outcome) {answer : Option (Int × Int)}
    (hok : outcome.result = .ok answer) : bench.Holds handle := by
  cases h with
  | refused _ e => cases hok
  | call haccepts => exact haccepts.saved.1

/-- A place of a device keeps its interface, unless another one with its number is saved. -/
theorem place_kept (h : Does bench job outcome) (hdevice : bench.devices[d]? = some device)
    (hplace : device.interfaces[k]? = some handle)
    (hspared : ∀ other answer, job = .call (.save other d) → outcome.result = .ok answer →
      (bench.store.get other).number ≠ (k : Int)) :
    ∃ after, outcome.state.devices[d]? = some after ∧ after.interfaces[k]? = some handle := by
  cases h with
  | refused => exact ⟨device, hdevice, hplace⟩
  | call haccepts =>
    refine haccepts.place_kept hdevice hplace ?_
    rintro other rfl
    exact hspared other none rfl rfl
  | @serial e _ _ _ found state first second result hfound hadds hfirst hsecond =>
    have hlt : d < bench.devices.length := (List.getElem?_eq_some_iff.mp hdevice).1
    by_cases hsame : e = d
    · subst hsame
      rw [hdevice] at hfound
      cases hfound
      obtain ⟨one, two, hstate, _⟩ := hadds.places
      refine ⟨state.1, List.getElem?_set_self hlt, ?_⟩
      rw [hstate, List.getElem?_append_left (List.getElem?_eq_some_iff.mp hplace).1, hplace]
    · exact ⟨device, (List.getElem?_set_ne hsame).trans hdevice, hplace⟩

/-- **One job** leaves a tidy bench tidy. -/
theorem tidy (h : Does bench job outcome) (htidy : bench.Tidy) : outcome.state.Tidy := by
  cases h with
  | refused => exact htidy
  | call haccepts => exact haccepts.tidy htidy
  | @serial d _ _ _ device state first second result hdevice hadds hfirst hsecond =>
    refine ⟨fun handle hheld => (hadds.kept handle (htidy.held handle hheld)).1, ?_⟩
    have hothers : ∀ other ∈ bench.devices, state.2.Numbered other.interfaces := fun other hother =>
      (htidy.numbered other hother).extend hadds.kept
    refine forall_mem_set hothers ?_
    obtain ⟨one, two, hstate, hone, htwo⟩ := hadds.places
    have hnumbered := hothers device (List.mem_of_getElem? hdevice)
    have hlonger := hnumbered.reserve hone.known (hone.get ▸ hfirst)
    have hlength : (second.number : Int) = (device.interfaces ++ [one]).length := by
      rw [hsecond, List.length_append, List.length_singleton, Int.natCast_succ]
    rw [hstate, List.append_cons]
    exact hlonger.reserve htwo.known (htwo.get ▸ hlength)

end Does

/-! ## Runs -/

/-- The bench after a run of jobs. -/
def runJobs (bench : Bench) (jobs : List Job) : Bench := Outcome.run performJob bench jobs

/-- The jobs of a run that were not refused. -/
def acceptedJobs (bench : Bench) (jobs : List Job) : List Job := Outcome.accepted performJob bench jobs

theorem runJobs_cons (bench : Bench) (job : Job) (jobs : List Job) :
    bench.runJobs (job :: jobs) = (bench.performJob job).state.runJobs jobs := rfl

theorem runJobs_append (bench : Bench) (earlier later : List Job) :
    bench.runJobs (earlier ++ later) = (bench.runJobs earlier).runJobs later := Outcome.run_append earlier later

theorem Tidy.runJobs (h : bench.Tidy) (jobs : List Job) : (bench.runJobs jobs).Tidy := by
  induction jobs generalizing bench with
  | nil => exact h
  | cons job jobs ih => exact ih ((does_performJob bench job).tidy h)

/-- No run of jobs changes the number of an interface that is in hand. -/
theorem Tidy.number_runJobs (h : bench.Tidy) (hheld : bench.Holds handle) (jobs : List Job) :
    ((bench.runJobs jobs).store.get handle).number = (bench.store.get handle).number := by
  induction jobs generalizing bench with
  | nil => rfl
  | cons job jobs ih =>
    have hdoes := does_performJob bench job
    exact (ih (hdoes.tidy h) (hdoes.holds hheld)).trans (hdoes.number h (h.held _ hheld))

/-! ## Pinned places -/

/-- **Pinned places.** In the place of a device stands an interface with the given contents that nobody has in hand. -/
def Pinned (bench : Bench) (d k : Nat) (interface : Interface) : Prop :=
  ∃ device handle, bench.devices[d]? = some device ∧ device.interfaces[k]? = some handle ∧ ¬bench.Holds handle
    ∧ bench.store.get handle = interface

/-- **Spared places.** In a run of jobs, nothing is saved into a device under the number of the place. -/
def Spares (bench : Bench) (jobs : List Job) (d k : Nat) : Prop :=
  ∀ handle, .call (.save handle d) ∈ bench.acceptedJobs jobs →
    ((bench.runJobs jobs).store.get handle).number ≠ (k : Int)

theorem Does.pinned (h : Does bench job outcome) (htidy : bench.Tidy) (hpinned : bench.Pinned d k interface)
    (hspared : ∀ other answer, job = .call (.save other d) → outcome.result = .ok answer →
      (bench.store.get other).number ≠ (k : Int)) : outcome.state.Pinned d k interface := by
  obtain ⟨device, handle, hdevice, hplace, hnot, hget⟩ := hpinned
  obtain ⟨after, hafter, hkept⟩ := h.place_kept hdevice hplace hspared
  have hknown := (htidy.numbered device (List.mem_of_getElem? hdevice) k handle hplace).1
  exact ⟨after, handle, hafter, hkept, fun hheld => hnot ((h.holds_iff hknown).mp hheld),
    (h.get_of_not_holds htidy hknown hnot).trans hget⟩

/-- What the rest of a run accepts, the whole run accepts. -/
theorem mem_acceptedJobs_cons {other : Job} (bench : Bench) (job : Job) (jobs : List Job)
    (h : other ∈ (bench.performJob job).state.acceptedJobs jobs) : other ∈ bench.acceptedJobs (job :: jobs) := by
  unfold acceptedJobs at h ⊢
  cases hresult : (bench.performJob job).result with
  | ok answer =>
    rw [Outcome.accepted_cons_of_ok jobs hresult]
    exact List.mem_cons_of_mem job h
  | error e =>
    rw [Outcome.accepted_cons_of_error jobs hresult]
    exact h

/-- **All runs** leave pinned places alone that they spare. -/
theorem Tidy.pinned_runJobs (htidy : bench.Tidy) (hpinned : bench.Pinned d k interface) (jobs : List Job)
    (hspares : bench.Spares jobs d k) : (bench.runJobs jobs).Pinned d k interface := by
  induction jobs generalizing bench with
  | nil => exact hpinned
  | cons job jobs ih =>
    have hdoes := does_performJob bench job
    have hrest : (bench.performJob job).state.Spares jobs d k := fun handle hmem =>
      hspares handle (mem_acceptedJobs_cons bench job jobs hmem)
    refine ih (hdoes.tidy htidy) (hdoes.pinned htidy hpinned ?_) hrest
    rintro other answer rfl hok
    -- What is saved now still has the same number at the end.
    have hmem : Job.call (.save other d) ∈ bench.acceptedJobs (.call (.save other d) :: jobs) := by
      rw [acceptedJobs, Outcome.accepted_cons_of_ok jobs hok]
      exact List.mem_cons_self
    have hnumber := htidy.number_runJobs (hdoes.saved hok) (.call (.save other d) :: jobs)
    rw [← hnumber]
    exact hspares other hmem

end Bench

end UsbCompiler
