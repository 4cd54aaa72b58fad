import Mathlib.Data.List.Forall2
import UsbCompiler.Error

/-!
# `UsbCompiler.Proofs.Results` — taking apart results that succeeded

Most operations are chains of steps that can fail. A chain that succeeded can be read backwards: each step
succeeded, and its value went into the next one. These lemmas do that once for the ways in which the library
chains steps.

## Contents
- `exists_ok_of_isOk`, `bind_eq_ok_iff`, `map_eq_ok_iff`: a value, one step after another, and a function of
  the value.
- `bind_eq_error_iff`, `map_eq_error_iff`: the step that failed.
- `mapM_eq_ok_iff`, `mapM_zipIdx_eq_ok_iff`, `mapM_eq_error_iff`, `exists_of_mapM_eq_error`: one step for each element
  of a list.
- `option_mapM_eq_ok_iff`: a step for a value that may be missing.
- `foldlM_keeps`, `exists_of_foldlM_eq_error`: one step for each element, from one state to the next.
- `Outcome.commit_eq_ok_iff`, `commit_eq_error_iff`, `andThen_eq_ok_iff` and `andThen_eq_error_iff`: an outcome that had
  to succeed, and another one after it.
-/

namespace UsbCompiler

variable {α β ε : Type}

theorem exists_ok_of_isOk {x : Except ε α} (h : x.isOk = true) : ∃ a, x = .ok a := by
  cases x with
  | ok a => exact ⟨a, rfl⟩
  | error e => cases h

theorem bind_eq_ok_iff {x : Except ε α} {f : α → Except ε β} {b : β} :
    (x >>= f) = .ok b ↔ ∃ a, x = .ok a ∧ f a = .ok b := by
  cases x with
  | error e => exact ⟨nofun, fun ⟨a, ha, _⟩ => by cases ha⟩
  | ok a =>
    constructor
    · intro h
      exact ⟨a, rfl, h⟩
    · rintro ⟨_, ha, hf⟩
      cases ha
      exact hf

theorem map_eq_ok_iff {x : Except ε α} {f : α → β} {b : β} :
    x.map f = .ok b ↔ ∃ a, x = .ok a ∧ f a = b := by
  cases x with
  | error e => exact ⟨nofun, fun ⟨a, ha, _⟩ => by cases ha⟩
  | ok a =>
    constructor
    · intro h
      exact ⟨a, rfl, Except.ok.inj h⟩
    · rintro ⟨_, ha, rfl⟩
      cases ha
      rfl

theorem bind_eq_error_iff {x : Except ε α} {f : α → Except ε β} {e : ε} :
    (x >>= f) = .error e ↔ x = .error e ∨ ∃ a, x = .ok a ∧ f a = .error e := by
  cases x with
  | error found =>
    constructor
    · intro h
      exact .inl (congrArg Except.error (Except.error.inj h))
    · rintro (h | ⟨a, ha, _⟩)
      · exact congrArg Except.error (Except.error.inj h)
      · cases ha
  | ok a =>
    constructor
    · intro h
      exact .inr ⟨a, rfl, h⟩
    · rintro (h | ⟨_, ha, hf⟩)
      · cases h
      · cases ha
        exact hf

theorem map_eq_error_iff {x : Except ε α} {f : α → β} {e : ε} : x.map f = .error e ↔ x = .error e := by
  cases x with
  | error found =>
    constructor
    · intro h
      exact congrArg Except.error (Except.error.inj h)
    · intro h
      exact congrArg Except.error (Except.error.inj h)
  | ok a => exact ⟨nofun, nofun⟩

/-- A step for each element succeeds exactly if each of them does, and gives their values in order. -/
theorem mapM_eq_ok_iff {f : α → Except ε β} {xs : List α} {ys : List β} :
    xs.mapM f = .ok ys ↔ List.Forall₂ (fun x y => f x = .ok y) xs ys := by
  induction xs generalizing ys with
  | nil =>
    rw [List.mapM_nil, List.forall₂_nil_left_iff]
    exact ⟨fun h => (Except.ok.inj h).symm, fun h => congrArg Except.ok h.symm⟩
  | cons x rest ih =>
    rw [List.mapM_cons, List.forall₂_cons_left_iff]
    constructor
    · intro h
      obtain ⟨y, hy, h⟩ := bind_eq_ok_iff.mp h
      obtain ⟨tail, htail, h⟩ := bind_eq_ok_iff.mp h
      exact ⟨y, tail, hy, ih.mp htail, (Except.ok.inj h).symm⟩
    · rintro ⟨y, tail, hy, htail, rfl⟩
      exact bind_eq_ok_iff.mpr ⟨y, hy, bind_eq_ok_iff.mpr ⟨tail, ih.mpr htail, rfl⟩⟩

/-- A step for each element that keeps its place next to its value. -/
theorem mapM_zipIdx_eq_ok_iff {ι : Type} {f : α → Except ε β} {place : Nat → ι} {xs : List α} {n : Nat}
    {table : List (ι × β)} :
    (xs.zipIdx n).mapM (fun x => (f x.1).map fun y => (place x.2, y)) = .ok table
      ↔ ∃ ys, List.Forall₂ (fun x y => f x = .ok y) xs ys
        ∧ table = (ys.zipIdx n).map fun y => (place y.2, y.1) := by
  rw [mapM_eq_ok_iff]
  induction xs generalizing n table with
  | nil =>
    rw [List.zipIdx_nil, List.forall₂_nil_left_iff]
    constructor
    · rintro rfl
      exact ⟨[], .nil, rfl⟩
    · rintro ⟨ys, hys, rfl⟩
      cases hys
      rfl
  | cons x rest ih =>
    rw [List.zipIdx_cons, List.forall₂_cons_left_iff]
    constructor
    · rintro ⟨_, tail, hfirst, htail, rfl⟩
      obtain ⟨y, hy, rfl⟩ := map_eq_ok_iff.mp hfirst
      obtain ⟨ys, hys, rfl⟩ := ih.mp htail
      exact ⟨y :: ys, .cons hy hys, rfl⟩
    · rintro ⟨_, hys, rfl⟩
      cases hys with
      | @cons _ y _ ys hy hys =>
        exact ⟨_, _, map_eq_ok_iff.mpr ⟨y, hy, rfl⟩, ih.mpr ⟨ys, hys, rfl⟩, rfl⟩

/-- A step for each element fails with the error of the first of them that fails. -/
theorem mapM_eq_error_iff {f : α → Except ε β} {xs : List α} {e : ε} :
    xs.mapM f = .error e
      ↔ ∃ before x after, xs = before ++ x :: after ∧ (∀ y ∈ before, ∃ b, f y = .ok b) ∧ f x = .error e := by
  induction xs with
  | nil =>
    constructor
    · intro h
      cases h
    · rintro ⟨before, x, after, hsplit, _⟩
      cases before <;> cases hsplit
  | cons x rest ih =>
    rw [List.mapM_cons, bind_eq_error_iff]
    constructor
    · rintro (hx | ⟨b, hb, hrest⟩)
      · exact ⟨[], x, rest, rfl, nofun, hx⟩
      · rcases bind_eq_error_iff.mp hrest with htail | ⟨_, _, hpure⟩
        · obtain ⟨before, y, after, rfl, hbefore, hy⟩ := ih.mp htail
          exact ⟨x :: before, y, after, rfl, List.forall_mem_cons.mpr ⟨⟨b, hb⟩, hbefore⟩, hy⟩
        · cases hpure
    · rintro ⟨before, y, after, hsplit, hbefore, hy⟩
      cases before with
      | nil =>
        cases hsplit
        exact .inl hy
      | cons z before =>
        cases hsplit
        obtain ⟨⟨b, hb⟩, hbefore⟩ := List.forall_mem_cons.mp hbefore
        exact .inr ⟨b, hb, bind_eq_error_iff.mpr (.inl (ih.mpr ⟨before, y, after, rfl, hbefore, hy⟩))⟩

/-- A step for each element fails only with the error of one of them. -/
theorem exists_of_mapM_eq_error {f : α → Except ε β} {xs : List α} {e : ε} (h : xs.mapM f = .error e) :
    ∃ x ∈ xs, f x = .error e := by
  obtain ⟨before, x, after, rfl, _, hx⟩ := mapM_eq_error_iff.mp h
  exact ⟨x, List.mem_append_right _ List.mem_cons_self, hx⟩

/-- A step for a value that may be missing fails only on a value. -/
theorem option_mapM_eq_ok_iff {f : α → Except ε β} {x : Option α} {y : Option β} :
    x.mapM f = .ok y ↔ Option.Rel (fun a b => f a = .ok b) x y := by
  cases x with
  | none =>
    rw [Option.mapM_none]
    constructor
    · intro h
      cases h
      exact .none
    · rintro ⟨⟩
      rfl
  | some a =>
    rw [Option.mapM_some]
    constructor
    · intro h
      obtain ⟨b, hb, rfl⟩ := map_eq_ok_iff.mp h
      exact .some hb
    · rintro ⟨hb⟩
      exact map_eq_ok_iff.mpr ⟨_, hb, rfl⟩

theorem Outcome.commit_eq_ok_iff {σ : Type} {outcome : Outcome σ α} {state : σ} :
    outcome.commit = .ok state ↔ (∃ a, outcome.result = .ok a) ∧ outcome.state = state := by
  unfold Outcome.commit
  cases outcome.result with
  | error e => exact ⟨nofun, fun h => by obtain ⟨⟨a, ha⟩, _⟩ := h; cases ha⟩
  | ok a => exact ⟨fun h => ⟨⟨a, rfl⟩, Except.ok.inj h⟩, fun h => congrArg Except.ok h.2⟩

theorem Outcome.commit_eq_error_iff {σ : Type} {outcome : Outcome σ α} {e : Error} :
    outcome.commit = .error e ↔ outcome.result = .error e := by
  unfold Outcome.commit
  cases outcome.result with
  | error found =>
    constructor
    · intro h
      exact congrArg Except.error (Except.error.inj h)
    · intro h
      exact congrArg Except.error (Except.error.inj h)
  | ok a => exact ⟨nofun, nofun⟩

theorem Outcome.andThen_eq_ok_iff {σ : Type} {first : Outcome σ α} {second : σ → Outcome σ β} {b : β} :
    (first.andThen fun state _ => second state).result = .ok b
      ↔ ∃ state, first.commit = .ok state ∧ (second state).result = .ok b := by
  unfold Outcome.andThen Outcome.commit
  cases first.result with
  | error e => exact ⟨nofun, fun ⟨_, h, _⟩ => by cases h⟩
  | ok a =>
    constructor
    · intro h
      exact ⟨first.state, rfl, h⟩
    · rintro ⟨_, hstate, h⟩
      cases hstate
      exact h

theorem Outcome.andThen_eq_error_iff {σ : Type} {first : Outcome σ α} {second : σ → Outcome σ β} {e : Error} :
    (first.andThen fun state _ => second state).result = .error e
      ↔ first.result = .error e ∨ ∃ state, first.commit = .ok state ∧ (second state).result = .error e := by
  unfold Outcome.andThen Outcome.commit
  cases first.result with
  | error found =>
    constructor
    · intro h
      exact .inl (congrArg Except.error (Except.error.inj h))
    · rintro (h | ⟨_, hstate, _⟩)
      · exact congrArg Except.error (Except.error.inj h)
      · cases hstate
  | ok a =>
    constructor
    · intro h
      exact .inr ⟨first.state, rfl, h⟩
    · rintro (h | ⟨_, hstate, h⟩)
      · cases h
      · cases hstate
        exact h

/-! ## Folds -/

section Folds

variable {σ : Type} {P : σ → Prop} {f : σ → α → Except ε σ} {s next : σ} {xs : List α} {e : ε}

/-- What every step keeps, a fold that succeeds keeps. -/
theorem foldlM_keeps (hkeep : ∀ s x next, P s → f s x = .ok next → P next) (hs : P s)
    (h : xs.foldlM f s = .ok next) : P next := by
  induction xs generalizing s with
  | nil =>
    cases h
    exact hs
  | cons x rest ih =>
    rw [List.foldlM_cons] at h
    obtain ⟨middle, hmiddle, h⟩ := bind_eq_ok_iff.mp h
    exact ih (hkeep s x middle hs hmiddle) h

/-- A fold fails with the error of one of its steps, in a state that the steps before it led to. -/
theorem exists_of_foldlM_eq_error (hkeep : ∀ s x next, P s → f s x = .ok next → P next) (hs : P s)
    (h : xs.foldlM f s = .error e) : ∃ s x, P s ∧ x ∈ xs ∧ f s x = .error e := by
  induction xs generalizing s with
  | nil => cases h
  | cons x rest ih =>
    rw [List.foldlM_cons] at h
    rcases bind_eq_error_iff.mp h with hfirst | ⟨middle, hmiddle, hrest⟩
    · exact ⟨s, x, hs, List.mem_cons_self, hfirst⟩
    · obtain ⟨s', y, hs', hy, hstep⟩ := ih (hkeep s x middle hs hmiddle) hrest
      exact ⟨s', y, hs', List.mem_cons_of_mem x hy, hstep⟩

end Folds

end UsbCompiler
