/-!
# `UsbCompiler.Text.Pattern` — regular expressions

A pattern describes a set of texts. `Matches` says which; `accepts` decides it by walking over the text once and
keeping the patterns that the rest of the text still has to match.

## Contents
- `Pattern`, with `optional` and `several` as derived forms.
- `Pattern.Matches`: the texts of a pattern.
- `Pattern.isNullable`, `Pattern.after` and `Pattern.accepts`.
- `Pattern.matches_cons_iff` and `Pattern.accepts_iff`: the walk decides `Matches`.
- `Pattern.matches_both_iff` and its companions: the texts of each form, read off.
-/

namespace UsbCompiler

/-- A regular expression. -/
inductive Pattern where
  /-- The empty text. -/
  | nothing
  /-- One character out of a list. -/
  | oneOf (chars : List Char)
  /-- One text behind another. -/
  | both (first second : Pattern)
  /-- One text or another. -/
  | either (first second : Pattern)
  /-- Any number of texts behind each other. -/
  | many (each : Pattern)
deriving DecidableEq

namespace Pattern

/-! ## The texts of a pattern -/

/-- The texts that a pattern describes. -/
inductive Matches : Pattern → List Char → Prop
  | nothing : Matches .nothing []
  | oneOf {chars : List Char} {c : Char} (h : c ∈ chars) : Matches (.oneOf chars) [c]
  | both {p q : Pattern} {s t : List Char} (hp : Matches p s) (hq : Matches q t) :
      Matches (.both p q) (s ++ t)
  | first {p q : Pattern} {s : List Char} (h : Matches p s) : Matches (.either p q) s
  | second {p q : Pattern} {s : List Char} (h : Matches q s) : Matches (.either p q) s
  | none {p : Pattern} : Matches (.many p) []
  | more {p : Pattern} {s t : List Char} (hp : Matches p s) (hrest : Matches (.many p) t) :
      Matches (.many p) (s ++ t)

/-- A text of the pattern, or nothing. -/
def optional (p : Pattern) : Pattern := .either .nothing p

/-- One or more texts of the pattern. -/
def several (p : Pattern) : Pattern := .both p (.many p)

/-- The texts of several patterns behind each other. -/
def sequence : List Pattern → Pattern
  | [] => .nothing
  | [p] => p
  | p :: rest => .both p (sequence rest)

/-- The texts of a first pattern or of any other. -/
def choice (first : Pattern) (others : List Pattern) : Pattern :=
  others.foldl .either first

/-! ## Deciding -/

/-- Whether a pattern describes the empty text. -/
def isNullable : Pattern → Bool
  | nothing => true
  | oneOf _ => false
  | both p q => p.isNullable && q.isNullable
  | either p q => p.isNullable || q.isNullable
  | many _ => true

/-- The patterns of which one has to match what follows the character `c`. -/
def after (c : Char) : Pattern → List Pattern
  | nothing => []
  | oneOf chars => if c ∈ chars then [nothing] else []
  | both p q => (p.after c).map (fun r => both r q) ++ if p.isNullable then q.after c else []
  | either p q => p.after c ++ q.after c
  | many p => (p.after c).map fun r => both r (many p)

/-- The patterns that remain after one more character, each of them once. -/
def step (patterns : List Pattern) (c : Char) : List Pattern :=
  (patterns.flatMap (after c)).eraseDups

/-- Whether a pattern describes a text. -/
def accepts (p : Pattern) (text : List Char) : Bool :=
  (text.foldl step [p]).any isNullable

/-! ## Why the decision is right -/

theorem isNullable_iff (p : Pattern) : p.isNullable = true ↔ Matches p [] := by
  constructor
  · intro h
    induction p with
    | nothing => exact .nothing
    | oneOf chars => cases h
    | both p q ihp ihq =>
      obtain ⟨hp, hq⟩ := (Bool.and_eq_true _ _).mp h
      exact Matches.both (ihp hp) (ihq hq)
    | either p q ihp ihq =>
      rcases (Bool.or_eq_true _ _).mp h with hp | hq
      · exact .first (ihp hp)
      · exact .second (ihq hq)
    | many p => exact .none
  · intro h
    generalize empty : ([] : List Char) = text at h
    induction h with
    | nothing => rfl
    | oneOf => cases empty
    | both _ _ ihp ihq =>
      obtain ⟨hs, ht⟩ := List.append_eq_nil_iff.mp empty.symm
      exact (Bool.and_eq_true _ _).mpr ⟨ihp hs.symm, ihq ht.symm⟩
    | first _ ih => exact (Bool.or_eq_true _ _).mpr (.inl (ih empty))
    | second _ ih => exact (Bool.or_eq_true _ _).mpr (.inr (ih empty))
    | none => rfl
    | more => rfl

/-- What remains after a character leads to a text with the character in front. -/
theorem Matches.cons_of_after {c : Char} {p r : Pattern} {text : List Char} (hr : r ∈ p.after c)
    (h : Matches r text) : Matches p (c :: text) := by
  induction p generalizing r text with
  | nothing => cases hr
  | oneOf chars =>
    simp only [after] at hr
    split at hr
    · next found =>
      obtain rfl := List.mem_singleton.mp hr
      cases h
      exact .oneOf found
    · cases hr
  | both p q ihp ihq =>
    rcases List.mem_append.mp hr with hr | hr
    · obtain ⟨r', hr', rfl⟩ := List.mem_map.mp hr
      cases h with
      | both hs ht => exact Matches.both (ihp hr' hs) ht
    · split at hr
      · next nullable => exact Matches.both ((isNullable_iff p).mp nullable) (ihq hr h)
      · cases hr
  | either p q ihp ihq =>
    rcases List.mem_append.mp hr with hr | hr
    · exact .first (ihp hr h)
    · exact .second (ihq hr h)
  | many p ih =>
    obtain ⟨r', hr', rfl⟩ := List.mem_map.mp hr
    cases h with
    | both hs ht => exact Matches.more (ih hr' hs) ht

/-- A text with a character in front leads to what remains after the character. -/
theorem Matches.exists_after {c : Char} {p : Pattern} {text : List Char} (h : Matches p (c :: text)) :
    ∃ r ∈ p.after c, Matches r text := by
  generalize whole : c :: text = s at h
  induction h generalizing text with
  | nothing => cases whole
  | @oneOf chars d found =>
    cases whole
    exact ⟨.nothing, by simp only [after, if_pos found, List.mem_singleton], .nothing⟩
  | @both p q s t hp hq ihp ihq =>
    cases s with
    | nil =>
      obtain ⟨r, hr, hmatch⟩ := ihq whole
      have nullable := (isNullable_iff p).mpr hp
      exact ⟨r, List.mem_append_right _ (by rw [if_pos nullable]; exact hr), hmatch⟩
    | cons d s =>
      obtain ⟨rfl, rfl⟩ := List.cons.inj whole
      obtain ⟨r, hr, hmatch⟩ := ihp rfl
      exact ⟨.both r q, List.mem_append_left _ (List.mem_map_of_mem hr), .both hmatch hq⟩
  | first _ ih =>
    obtain ⟨r, hr, hmatch⟩ := ih whole
    exact ⟨r, List.mem_append_left _ hr, hmatch⟩
  | second _ ih =>
    obtain ⟨r, hr, hmatch⟩ := ih whole
    exact ⟨r, List.mem_append_right _ hr, hmatch⟩
  | none => cases whole
  | @more p s t hp hrest ihp ihrest =>
    cases s with
    | nil => exact ihrest whole
    | cons d s =>
      obtain ⟨rfl, rfl⟩ := List.cons.inj whole
      obtain ⟨r, hr, hmatch⟩ := ihp rfl
      exact ⟨.both r (.many p), List.mem_map_of_mem hr, .both hmatch hrest⟩

/-- One character is matched by moving on to what remains after it. -/
theorem matches_cons_iff {c : Char} {p : Pattern} {text : List Char} :
    Matches p (c :: text) ↔ ∃ r ∈ p.after c, Matches r text :=
  ⟨Matches.exists_after, fun ⟨_, hr, h⟩ => h.cons_of_after hr⟩

/-- The walk over a text finds out whether one of the patterns describes it. -/
theorem any_isNullable_foldl_step (patterns : List Pattern) (text : List Char) :
    (text.foldl step patterns).any isNullable = true ↔ ∃ p ∈ patterns, Matches p text := by
  induction text generalizing patterns with
  | nil =>
    rw [List.foldl_nil, List.any_eq_true]
    exact exists_congr fun p => and_congr_right fun _ => isNullable_iff p
  | cons c rest ih =>
    rw [List.foldl_cons, ih]
    constructor
    · rintro ⟨r, hr, hmatch⟩
      obtain ⟨p, hp, hafter⟩ := List.mem_flatMap.mp (List.mem_eraseDups.mp hr)
      exact ⟨p, hp, hmatch.cons_of_after hafter⟩
    · rintro ⟨p, hp, hmatch⟩
      obtain ⟨r, hr, hrest⟩ := hmatch.exists_after
      exact ⟨r, List.mem_eraseDups.mpr (List.mem_flatMap.mpr ⟨p, hp, hr⟩), hrest⟩

/-- Acceptance is matching. -/
theorem accepts_iff {p : Pattern} {text : List Char} : p.accepts text = true ↔ Matches p text := by
  unfold accepts
  rw [any_isNullable_foldl_step]
  constructor
  · rintro ⟨q, hq, h⟩
    exact List.mem_singleton.mp hq ▸ h
  · intro h
    exact ⟨p, List.mem_singleton_self p, h⟩

/-! ## The texts of each form -/

section Forms

variable {p q : Pattern} {chars text : List Char}

theorem matches_nothing_iff : Matches .nothing text ↔ text = [] := by
  constructor
  · intro h
    cases h
    rfl
  · rintro rfl
    exact .nothing

theorem matches_oneOf_iff : Matches (.oneOf chars) text ↔ ∃ c ∈ chars, text = [c] := by
  constructor
  · intro h
    cases h with
    | oneOf found => exact ⟨_, found, rfl⟩
  · rintro ⟨c, found, rfl⟩
    exact .oneOf found

theorem matches_both_iff : Matches (.both p q) text ↔ ∃ s t, text = s ++ t ∧ Matches p s ∧ Matches q t := by
  constructor
  · intro h
    cases h with
    | both hp hq => exact ⟨_, _, rfl, hp, hq⟩
  · rintro ⟨s, t, rfl, hp, hq⟩
    exact .both hp hq

theorem matches_optional_iff : Matches p.optional text ↔ text = [] ∨ Matches p text := by
  constructor
  · intro h
    cases h with
    | first h => exact .inl (matches_nothing_iff.mp h)
    | second h => exact .inr h
  · rintro (rfl | h)
    · exact .first .nothing
    · exact .second h

/-- Any number of characters out of a list. -/
theorem matches_many_oneOf_iff : Matches (.many (.oneOf chars)) text ↔ ∀ c ∈ text, c ∈ chars := by
  constructor
  · intro h
    generalize whole : Pattern.many (.oneOf chars) = pattern at h
    induction h with
    | none => exact List.forall_mem_nil _
    | more hp _ _ ih =>
      cases whole
      obtain ⟨c, found, rfl⟩ := matches_oneOf_iff.mp hp
      exact List.forall_mem_cons.mpr ⟨found, ih rfl⟩
    | nothing | oneOf | both | first | second => cases whole
  · intro h
    induction text with
    | nil => exact .none
    | cons c rest ih =>
      obtain ⟨found, hrest⟩ := List.forall_mem_cons.mp h
      exact .more (.oneOf found) (ih hrest)

/-- One or more characters out of a list. -/
theorem matches_several_oneOf_iff :
    Matches (several (.oneOf chars)) text ↔ text ≠ [] ∧ ∀ c ∈ text, c ∈ chars := by
  rw [several, matches_both_iff]
  constructor
  · rintro ⟨s, t, rfl, hp, hrest⟩
    obtain ⟨c, found, rfl⟩ := matches_oneOf_iff.mp hp
    exact ⟨List.cons_ne_nil _ _, List.forall_mem_cons.mpr ⟨found, matches_many_oneOf_iff.mp hrest⟩⟩
  · rintro ⟨hne, h⟩
    cases text with
    | nil => exact absurd rfl hne
    | cons c rest =>
      obtain ⟨found, hrest⟩ := List.forall_mem_cons.mp h
      exact ⟨[c], rest, rfl, .oneOf found, matches_many_oneOf_iff.mpr hrest⟩

end Forms

end Pattern

end UsbCompiler
