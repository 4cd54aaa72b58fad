import Mathlib.Data.List.TakeWhile
import UsbCompiler.Proofs.Lists
import UsbCompiler.Release

/-!
# `UsbCompiler.Proofs.Release.Reading` — reading a version finds its form

A version is read from left to right, and each part is taken as far as it goes: blanks, a letter, an epoch, the
numbers. The form of a version says nothing about how far a part goes. Both agree because no part can begin with
what the part before it could have taken as well: numbers are not followed by a digit, nor by a dot and a digit, nor by
an exclamation mark.

## Contents
- `Spells.concat`, `dotted_of_readNumbers`: what is read are numbers between dots.
- `Stops` and `readNumbers_dotted`: numbers between dots are read to their end.
- `matches_lead_iff`, `stops_of_suffix`: what stands in front of the numbers and behind them.
- `exists_skipLetter`, `exists_skipEpoch`, `skipLetter_append`, `skipEpoch_append`: what is skipped.
- `numbers?_eq_some_iff`: the numbers that are found are those of the form.
-/

namespace UsbCompiler.Release.Version

variable {text front middle back past rest tail : List Char} {c : Char} {n current : Nat} {numbers : List Nat}

/-! ## Numbers between dots -/

theorem spells_singleton (hc : c ∈ digits) : Spells [c] (digitValue c) := by
  refine ⟨List.cons_ne_nil _ _, List.forall_mem_singleton.mpr hc, ?_⟩
  show 10 * 0 + digitValue c = digitValue c
  omega

theorem Spells.concat (h : Spells text n) (hc : c ∈ digits) : Spells (text ++ [c]) (10 * n + digitValue c) := by
  obtain ⟨_, hdigits, rfl⟩ := h
  refine ⟨List.append_ne_nil_of_right_ne_nil _ (List.cons_ne_nil _ _), forall_mem_concat hdigits hc, ?_⟩
  rw [List.foldl_append]
  rfl

/-- **What is read.** The digits that have been read and those that are taken from the text make numbers between dots,
    and the rest of the text is left. -/
theorem dotted_of_readNumbers (hpast : Spells past current) (h : readNumbers current text = (numbers, tail)) :
    ∃ middle, text = middle ++ tail ∧ Dotted (past ++ middle) numbers := by
  -- What has been read of the present number is generalised.
  fun_induction readNumbers current text generalizing past numbers with
  | case1 current =>
    cases h
    exact ⟨[], rfl, by rw [List.append_nil]; exact .one hpast⟩
  | case2 current c hc =>
    cases h
    exact ⟨[c], rfl, .one (hpast.concat hc)⟩
  | case3 current c hc =>
    cases h
    exact ⟨[], rfl, by rw [List.append_nil]; exact .one hpast⟩
  | case4 current c d rest hc ih =>
    obtain ⟨middle, htext, hdotted⟩ := ih (hpast.concat hc) h
    refine ⟨c :: middle, by rw [htext, List.cons_append], ?_⟩
    rw [List.append_cons]
    exact hdotted
  | case5 current c d rest hc hdot more tail' hrest ih =>
    cases h
    obtain ⟨rfl, hd⟩ := hdot
    obtain ⟨middle, rfl, hdotted⟩ := ih (spells_singleton hd) hrest
    exact ⟨'.' :: d :: middle, rfl, .more hpast hdotted⟩
  | case6 current c d rest hc hdot =>
    cases h
    exact ⟨[], rfl, by rw [List.append_nil]; exact .one hpast⟩

/-- **Where numbers end.** A text that goes on no row of numbers: it begins neither with a digit nor with a dot and a
    digit. -/
def Stops : List Char → Prop
  | [] => True
  | [c] => c ∉ digits
  | c :: d :: _ => c ∉ digits ∧ ¬(c = '.' ∧ d ∈ digits)

theorem Stops.head (h : Stops text) (hc : text.head? = some c) : c ∉ digits := by
  unfold Stops at h
  split at h
  · cases hc
  · cases hc
    exact h
  · cases hc
    exact h.1

theorem readNumbers_of_stops (h : Stops text) (current : Nat) : readNumbers current text = ([current], text) := by
  unfold Stops at h
  split at h
  · rfl
  · rw [readNumbers, if_neg h]
  · rw [readNumbers, if_neg h.1, if_neg h.2]

theorem readNumbers_cons (hc : c ∈ digits) (current : Nat) (rest : List Char) :
    readNumbers current (c :: rest) = readNumbers (10 * current + digitValue c) rest := by
  cases rest with
  | nil => exact if_pos hc
  | cons d rest => rw [readNumbers, if_pos hc]

theorem readNumbers_digits (hdigits : ∀ c ∈ text, c ∈ digits) (current : Nat) (rest : List Char) :
    readNumbers current (text ++ rest)
      = readNumbers (text.foldl (fun value c => 10 * value + digitValue c) current) rest := by
  induction text generalizing current with
  | nil => rfl
  | cons c text ih =>
    obtain ⟨hc, htext⟩ := List.forall_mem_cons.mp hdigits
    rw [List.cons_append, readNumbers_cons hc, ih htext, List.foldl_cons]

/-- The digits of a number begin with a digit, and reading goes on behind them. -/
theorem Spells.read (h : Spells text n) :
    ∃ c digitsLeft, text = c :: digitsLeft ∧ c ∈ digits
      ∧ ∀ rest, readNumbers (digitValue c) (digitsLeft ++ rest) = readNumbers n rest := by
  obtain ⟨hne, hdigits, rfl⟩ := h
  obtain ⟨c, digitsLeft, rfl⟩ := List.exists_cons_of_ne_nil hne
  obtain ⟨hc, hleft⟩ := List.forall_mem_cons.mp hdigits
  refine ⟨c, digitsLeft, rfl, hc, fun rest => ?_⟩
  have hfirst : 10 * 0 + digitValue c = digitValue c := by omega
  rw [readNumbers_digits hleft, List.foldl_cons, hfirst]

/-- **What is there is read.** Numbers between dots are read to their end, and not further if the text stops there. -/
theorem readNumbers_dotted (h : Dotted middle numbers) (hback : Stops back) :
    ∃ c rest, middle = c :: rest ∧ c ∈ digits ∧ readNumbers (digitValue c) (rest ++ back) = (numbers, back) := by
  induction h with
  | one hspells =>
    obtain ⟨c, rest, rfl, hc, hread⟩ := hspells.read
    exact ⟨c, rest, rfl, hc, (hread back).trans (readNumbers_of_stops hback _)⟩
  | more hspells _ ih =>
    obtain ⟨d, more, rfl, hd, hmore⟩ := ih
    obtain ⟨c, rest, rfl, hc, hread⟩ := hspells.read
    refine ⟨c, rest ++ '.' :: d :: more, rfl, hc, ?_⟩
    have hdot : '.' ∉ digits := by decide
    rw [List.append_assoc, hread, List.cons_append, List.cons_append, readNumbers, if_neg hdot, if_pos ⟨rfl, hd⟩, hmore]

/-! ## In front of the numbers and behind them -/

/-- The letter that a version can begin with, or none. -/
def IsLetter (text : List Char) : Prop := text = [] ∨ ∃ c, (c = 'v' ∨ c = 'V') ∧ text = [c]

/-- An epoch, or none. -/
def IsEpoch (text : List Char) : Prop :=
  text = [] ∨ ∃ number, number ≠ [] ∧ (∀ c ∈ number, c ∈ digits) ∧ text = number ++ ['!']

theorem matches_lead_iff :
    Pattern.Matches lead front ↔ ∃ spaces letter epoch, front = spaces ++ (letter ++ epoch)
      ∧ (∀ c ∈ spaces, c ∈ blanks) ∧ IsLetter letter ∧ IsEpoch epoch := by
  have hletter (letter : List Char) :
      Pattern.Matches (.optional (.oneOf ['v', 'V'])) letter ↔ IsLetter letter := by
    rw [Pattern.matches_optional_iff, Pattern.matches_oneOf_iff, IsLetter]
    simp only [List.mem_cons, List.not_mem_nil, or_false]
  have hepoch (epoch : List Char) :
      Pattern.Matches (.optional (.both number (.oneOf ['!']))) epoch ↔ IsEpoch epoch := by
    rw [Pattern.matches_optional_iff, Pattern.matches_both_iff, IsEpoch]
    simp only [number, Pattern.matches_several_oneOf_iff, Pattern.matches_oneOf_iff, List.mem_singleton]
    constructor
    · rintro (h | ⟨spelled, _, rfl, ⟨hne, hdigits⟩, _, rfl, rfl⟩)
      · exact .inl h
      · exact .inr ⟨spelled, hne, hdigits, rfl⟩
    · rintro (h | ⟨spelled, hne, hdigits, rfl⟩)
      · exact .inl h
      · exact .inr ⟨spelled, _, rfl, ⟨hne, hdigits⟩, _, rfl, rfl⟩
  simp only [lead, Pattern.sequence, Pattern.matches_both_iff, Pattern.matches_many_oneOf_iff, hletter, hepoch]
  constructor
  · rintro ⟨spaces, _, rfl, hspaces, letter, epoch, rfl, h, h'⟩
    exact ⟨spaces, letter, epoch, rfl, hspaces, h, h'⟩
  · rintro ⟨spaces, letter, epoch, rfl, hspaces, h, h'⟩
    exact ⟨spaces, _, rfl, hspaces, letter, epoch, rfl, h, h'⟩

/-- No suffix goes on the numbers or makes them an epoch. -/
theorem stops_of_suffix (h : Pattern.Matches suffix back) : Stops back ∧ back.head? ≠ some '!' := by
  -- The digits are tried one by one; a quantifier would be decided over all characters.
  have hdigits : digits.all (fun c => (suffix.after c).isEmpty) = true := by decide +kernel
  have hdots : (suffix.after '.').all (fun r => digits.all fun c => (r.after c).isEmpty) = true := by decide +kernel
  have hdigit : ∀ c ∈ digits, suffix.after c = [] := fun c hc =>
    List.isEmpty_iff.mp (List.all_eq_true.mp hdigits c hc)
  have hdot : ∀ r ∈ suffix.after '.', ∀ c ∈ digits, r.after c = [] := fun r hr c hc =>
    List.isEmpty_iff.mp (List.all_eq_true.mp (List.all_eq_true.mp hdots r hr) c hc)
  have hmark : suffix.after '!' = [] := by decide +kernel
  have hfirst {c : Char} {rest : List Char} (hnone : suffix.after c = []) : ¬Pattern.Matches suffix (c :: rest) := by
    rw [Pattern.matches_cons_iff, hnone]
    rintro ⟨r, hr, _⟩
    exact List.not_mem_nil hr
  match back, h with
  | [], _ => exact ⟨trivial, nofun⟩
  | [c], h =>
    refine ⟨fun hc => hfirst (hdigit c hc) h, fun hsame => ?_⟩
    cases hsame
    exact hfirst hmark h
  | c :: d :: rest, h =>
    refine ⟨⟨fun hc => hfirst (hdigit c hc) h, ?_⟩, fun hsame => ?_⟩
    · rintro ⟨rfl, hd⟩
      obtain ⟨r, hr, hrest⟩ := Pattern.matches_cons_iff.mp h
      obtain ⟨q, hq, _⟩ := Pattern.matches_cons_iff.mp hrest
      rw [hdot r hr d hd] at hq
      exact List.not_mem_nil hq
    · cases hsame
      exact hfirst hmark h

/-! ## What is skipped -/

theorem mem_of_mem_takeWhile {chars : List Char} (h : c ∈ text.takeWhile (· ∈ chars)) : c ∈ chars := by
  have htaken := List.mem_takeWhile_imp h
  simpa using htaken

theorem exists_skipLetter (text : List Char) : ∃ letter, text = letter ++ skipLetter text ∧ IsLetter letter := by
  unfold skipLetter
  split
  · exact ⟨[], rfl, .inl rfl⟩
  · next c rest =>
    split
    · next hc => exact ⟨[c], rfl, .inr ⟨c, hc, rfl⟩⟩
    · exact ⟨[], rfl, .inl rfl⟩

theorem exists_skipEpoch (text : List Char) : ∃ epoch, text = epoch ++ skipEpoch text ∧ IsEpoch epoch := by
  unfold skipEpoch
  split
  · exact ⟨[], rfl, .inl rfl⟩
  · next hne =>
    split
    · exact ⟨[], rfl, .inl rfl⟩
    · next c rest hdrop =>
      split
      · next hc =>
        subst hc
        refine ⟨text.takeWhile (· ∈ digits) ++ ['!'], ?_, .inr ⟨_, hne, ?_, rfl⟩⟩
        · rw [List.append_assoc, List.singleton_append, ← hdrop, List.takeWhile_append_dropWhile]
        · intro d hd
          exact mem_of_mem_takeWhile hd
      · exact ⟨[], rfl, .inl rfl⟩

/-- Only letters are skipped that are there. -/
theorem skipLetter_append {letter : List Char} (hletter : IsLetter letter) (hc : c ∈ digits) (rest : List Char) :
    skipLetter (letter ++ c :: rest) = c :: rest := by
  rcases hletter with rfl | ⟨v, hv, rfl⟩
  · have hother : ¬(c = 'v' ∨ c = 'V') := by
      rintro (rfl | rfl) <;> revert hc <;> decide
    rw [List.nil_append, skipLetter, if_neg hother]
  · rw [List.singleton_append, skipLetter, if_pos hv]

/-- Only epochs are skipped that are there: digits alone are none. -/
theorem skipEpoch_append {epoch spelled : List Char} (hepoch : IsEpoch epoch) (hne : spelled ≠ [])
    (hspelled : ∀ c ∈ spelled, c ∈ digits) (hrest : ∀ c, rest.head? = some c → c ∉ digits ∧ c ≠ '!') :
    skipEpoch (epoch ++ (spelled ++ rest)) = spelled ++ rest := by
  rcases hepoch with rfl | ⟨number, hnumber, hdigits, rfl⟩
  · obtain ⟨htake, hdrop⟩ := span_append (fun c hc => decide_eq_true (hspelled c hc))
      (fun c hc => decide_eq_false (hrest c hc).1)
    rw [List.nil_append, skipEpoch, htake, hdrop, if_neg hne]
    cases rest with
    | nil => rfl
    | cons c rest =>
      simp only
      rw [if_neg (hrest c rfl).2]
  · have hmark : '!' ∉ digits := by decide
    have hstop : ∀ c, ('!' :: (spelled ++ rest)).head? = some c → decide (c ∈ digits) = false := by
      intro c hc
      cases hc
      exact decide_eq_false hmark
    obtain ⟨htake, hdrop⟩ := span_append (fun c hc => decide_eq_true (hdigits c hc)) hstop
    rw [List.append_assoc, List.singleton_append, skipEpoch, htake, hdrop, if_neg hnumber]
    exact if_pos rfl

/-- The first number of a row is followed by a dot or by what follows the row. -/
theorem Dotted.exists_first (h : Dotted middle numbers) (hback : Stops back) (hmark : back.head? ≠ some '!') :
    ∃ spelled rest, middle ++ back = spelled ++ rest ∧ spelled ≠ [] ∧ (∀ c ∈ spelled, c ∈ digits)
      ∧ ∀ c, rest.head? = some c → c ∉ digits ∧ c ≠ '!' := by
  cases h with
  | one hspells =>
    refine ⟨middle, back, rfl, hspells.1, hspells.2.1, fun c hc => ⟨hback.head hc, ?_⟩⟩
    rintro rfl
    exact hmark hc
  | @more spelled row _ _ hspells _ =>
    refine ⟨spelled, '.' :: (row ++ back), by rw [List.append_assoc, List.cons_append], hspells.1, hspells.2.1, ?_⟩
    intro c hc
    cases hc
    decide

/-! ## The whole text -/

theorem isVersion_of_numbers? (h : numbers? text = some numbers) : IsVersion text numbers := by
  unfold numbers? at h
  split at h
  · cases h
  · next c rest hskip =>
    split at h
    · next hc =>
      obtain ⟨letter, hletter, hisLetter⟩ := exists_skipLetter (text.dropWhile (· ∈ blanks))
      obtain ⟨epoch, hepoch, hisEpoch⟩ := exists_skipEpoch (skipLetter (text.dropWhile (· ∈ blanks)))
      rw [hskip] at hepoch
      cases hread : readNumbers (digitValue c) rest with
      | mk row tail =>
        rw [hread] at h
        simp only at h
        split at h
        · next haccepts =>
          cases h
          obtain ⟨middle, rfl, hdotted⟩ := dotted_of_readNumbers (spells_singleton hc) hread
          have hlead : Pattern.Matches lead (text.takeWhile (· ∈ blanks) ++ (letter ++ epoch)) :=
            matches_lead_iff.mpr ⟨_, _, _, rfl, fun b hb => mem_of_mem_takeWhile hb,
              hisLetter, hisEpoch⟩
          refine ⟨_, _, tail, ?_, hlead, hdotted, Pattern.accepts_iff.mp haccepts⟩
          calc text = text.takeWhile (· ∈ blanks) ++ text.dropWhile (· ∈ blanks) :=
                List.takeWhile_append_dropWhile.symm
            _ = text.takeWhile (· ∈ blanks) ++ (letter ++ (epoch ++ (c :: (middle ++ tail)))) := by
                rw [← hepoch, ← hletter]
            _ = text.takeWhile (· ∈ blanks) ++ (letter ++ epoch) ++ ([c] ++ middle) ++ tail := by
                simp only [List.append_assoc, List.cons_append, List.nil_append]
        · cases h
    · cases h

theorem numbers?_of_isVersion (h : IsVersion text numbers) : numbers? text = some numbers := by
  obtain ⟨front, middle, back, rfl, hlead, hdotted, hsuffix⟩ := h
  obtain ⟨spaces, letter, epoch, rfl, hspaces, hletter, hepoch⟩ := matches_lead_iff.mp hlead
  obtain ⟨hstops, hmark⟩ := stops_of_suffix hsuffix
  obtain ⟨c, row, hmiddle, hc, hread⟩ := readNumbers_dotted hdotted hstops
  obtain ⟨spelled, rest, hsplit, hne, hspelled, hrest⟩ := hdotted.exists_first hstops hmark
  have hskipEpoch : skipEpoch (epoch ++ (middle ++ back)) = c :: (row ++ back) := by
    rw [hsplit, skipEpoch_append hepoch hne hspelled hrest, ← hsplit, hmiddle, List.cons_append]
  -- Epoch and numbers both begin with a digit, which is neither a letter nor a blank.
  obtain ⟨e, more, hstart, he⟩ : ∃ e more, epoch ++ (middle ++ back) = e :: more ∧ e ∈ digits := by
    rcases hepoch with rfl | ⟨number, hnumber, hdigits, rfl⟩
    · exact ⟨c, row ++ back, by rw [List.nil_append, hmiddle, List.cons_append], hc⟩
    · obtain ⟨e, number, rfl⟩ := List.exists_cons_of_ne_nil hnumber
      exact ⟨e, _, rfl, hdigits e List.mem_cons_self⟩
  have hskipLetter : skipLetter (letter ++ (epoch ++ (middle ++ back))) = epoch ++ (middle ++ back) := by
    rw [hstart, skipLetter_append hletter he]
  have hskipSpaces : (spaces ++ (letter ++ (epoch ++ (middle ++ back)))).dropWhile (· ∈ blanks)
      = letter ++ (epoch ++ (middle ++ back)) := by
    refine (span_append (fun b hb => decide_eq_true (hspaces b hb)) fun b hb => decide_eq_false ?_).2
    rcases hletter with rfl | ⟨v, hv, rfl⟩
    · rw [List.nil_append, hstart] at hb
      cases hb
      have hdisjoint : digits.all (fun d => decide (d ∉ blanks)) = true := by decide
      exact of_decide_eq_true (List.all_eq_true.mp hdisjoint e he)
    · cases hb
      rcases hv with rfl | rfl <;> decide
  have haccepts : suffix.accepts back = true := Pattern.accepts_iff.mpr hsuffix
  have hwhole : spaces ++ (letter ++ epoch) ++ middle ++ back = spaces ++ (letter ++ (epoch ++ (middle ++ back))) := by
    simp only [List.append_assoc]
  unfold numbers?
  rw [hwhole, hskipSpaces, hskipLetter, hskipEpoch]
  simp only
  rw [if_pos hc, hread]
  simp only
  rw [if_pos haccepts]

/-- **Reading is right.** The numbers that are found in a text are those of its form, and a text in which none are found
    has not the form of a version. -/
theorem numbers?_eq_some_iff : numbers? text = some numbers ↔ IsVersion text numbers :=
  ⟨isVersion_of_numbers?, numbers?_of_isVersion⟩

end UsbCompiler.Release.Version
