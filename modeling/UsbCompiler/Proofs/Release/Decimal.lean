import UsbCompiler.Proofs.Bench.Call
import UsbCompiler.Proofs.Release.Reading

/-!
# `UsbCompiler.Proofs.Release.Decimal` — releases that are given as texts

A text gives a device its release by the first three numbers of a version. All that can stand around these numbers, and
the ways to write them, make no difference: a release shows the numbers and nothing else.

## Contents
- `Release.Names`: the three numbers of a text.
- `Release.Shows`: the digits of a release, with `shows_encode` and `Shows.unique`.
- `Release.ofText_of_names` and `kind_of_ofText`: which texts are taken.
- `Bench.perform_releaseText`: what such a setting does.
-/

namespace UsbCompiler

namespace Release

variable {text : Text} {code other : Int} {major minor micro : Nat}

/-! ## The numbers of a text -/

/-- **The numbers of a text.** The text as a whole has the form of a version, and these are its first three numbers, or
    zero where it has none. -/
def Names (text : Text) (major minor micro : Nat) : Prop :=
  ∃ characters numbers, text = .ofCharacters characters ∧ Version.IsVersion characters numbers
    ∧ numbers.getD 0 0 = major ∧ numbers.getD 1 0 = minor ∧ numbers.getD 2 0 = micro

/-- Numbers for which a release has enough digits. -/
def Fits (major minor micro : Nat) : Prop := major ≤ 99 ∧ minor ≤ 9 ∧ micro ≤ 9

instance (major minor micro : Nat) : Decidable (Fits major minor micro) := inferInstanceAs (Decidable (_ ∧ _))

/-! ## The digits of a release -/

/-- A hexadecimal digit of a code, the lowest one in place 0. -/
def hexDigit (code : Int) : (place : Nat) → Int
  | 0 => code % 16
  | place + 1 => hexDigit (code / 16) place

/-- **Shown numbers.** A code has four hexadecimal digits, which are decimal ones as well. The first two of them are the
    first number, and the third and the fourth are the others. -/
structure Shows (code : Int) (major minor micro : Nat) : Prop where
  range : 0 ≤ code ∧ code < 0x10000
  decimal : ∀ place < 4, hexDigit code place ≤ 9
  major : 10 * hexDigit code 3 + hexDigit code 2 = major
  minor : hexDigit code 1 = minor
  micro : hexDigit code 0 = micro

theorem shows_encode (h : Fits major minor micro) : Shows (encode major minor micro) major minor micro := by
  obtain ⟨hmajor, hminor, hmicro⟩ := h
  have hcode : (encode major minor micro : Int)
      = 0x1000 * (major / 10 : Nat) + 0x100 * (major % 10 : Nat) + 0x10 * minor + micro := by
    unfold encode
    omega
  -- One digit for each place, none of which carries into the next.
  have h0 : hexDigit (encode major minor micro) 0 = micro := by
    simp only [hexDigit, hcode]
    omega
  have h1 : hexDigit (encode major minor micro) 1 = minor := by
    simp only [hexDigit, hcode]
    omega
  have h2 : hexDigit (encode major minor micro) 2 = (major % 10 : Nat) := by
    simp only [hexDigit, hcode]
    omega
  have h3 : hexDigit (encode major minor micro) 3 = (major / 10 : Nat) := by
    simp only [hexDigit, hcode]
    omega
  refine ⟨?_, ?_, ?_, h1, h0⟩
  · rw [hcode]
    omega
  · intro place hplace
    match place, hplace with
    | 0, _ => rw [h0]; omega
    | 1, _ => rw [h1]; omega
    | 2, _ => rw [h2]; omega
    | 3, _ => rw [h3]; omega
  · rw [h2, h3]
    omega

/-- The digits leave no choice. -/
theorem Shows.unique (h : Shows code major minor micro) (h' : Shows other major minor micro) : code = other := by
  obtain ⟨hrange, hdecimal, hmajor, hminor, hmicro⟩ := h
  obtain ⟨hrange', hdecimal', hmajor', hminor', hmicro'⟩ := h'
  have h2 := hdecimal 2 (by decide)
  have h2' := hdecimal' 2 (by decide)
  simp only [hexDigit] at *
  omega

/-! ## Texts that are taken -/

theorem ofText_of_names (h : Names text major minor micro) :
    ofText text
      = if Fits major minor micro then .ok (encode major minor micro : Int) else .error (.releaseTooBig text) := by
  obtain ⟨characters, numbers, rfl, hversion, rfl, rfl, rfl⟩ := h
  rw [ofText, Text.characters?_ofCharacters, Option.bind_some, Version.numbers?_eq_some_iff.mpr hversion]
  rfl

/-- A text that names no release is refused, and so is one whose numbers are too large. -/
theorem kind_of_ofText (h : ¬∃ major minor micro, Names text major minor micro ∧ Fits major minor micro) :
    ∃ e, ofText text = .error e ∧ e.kind = .configuration := by
  cases hnumbers : text.characters?.bind Version.numbers? with
  | none =>
    refine ⟨.invalidRelease text, ?_, rfl⟩
    rw [ofText, hnumbers]
  | some numbers =>
    obtain ⟨characters, hcharacters, hread⟩ := Option.bind_eq_some_iff.mp hnumbers
    have htext := Text.characters?_eq_some_iff.mp hcharacters
    have hnames : Names text (numbers.getD 0 0) (numbers.getD 1 0) (numbers.getD 2 0) :=
      ⟨characters, numbers, htext, Version.numbers?_eq_some_iff.mp hread, rfl, rfl, rfl⟩
    refine ⟨.releaseTooBig text, ?_, rfl⟩
    rw [ofText_of_names hnames, if_neg fun hfits => h ⟨_, _, _, hnames, hfits⟩]

end Release

/-! ## Devices -/

namespace Bench

/-- **A release from a text.** A device takes a text as its release exactly if the text names three numbers with at most
    two digits, one digit and one digit. Its release then shows these numbers, and nothing else changes. It is the
    same for all texts that name the same numbers. Any other text is refused, and leaves everything as it was. -/
theorem perform_releaseText {bench : Bench} {d : Nat} {device : Device} (hdevice : bench.devices[d]? = some device)
    (text : Text) :
    let outcome := bench.perform (.setDevice d (.releaseText text))
    let taken := ∃ major minor micro, Release.Names text major minor micro ∧ Release.Fits major minor micro
    (outcome.result = .ok () ↔ taken)
      ∧ (∀ major minor micro, Release.Names text major minor micro → Release.Fits major minor micro →
        ∃ code, Release.Shows code major minor micro ∧ outcome.state = { bench with
          devices := bench.devices.set d { device with header := { device.header with release := code } } })
      ∧ (∀ (other : Text) (major minor micro : Nat), Release.Names text major minor micro →
        Release.Names other major minor micro → Release.Fits major minor micro →
        bench.perform (.setDevice d (.releaseText other)) = outcome)
      ∧ (¬taken → ∃ e, outcome.result = .error e ∧ e.kind = .configuration ∧ outcome.state = bench) := by
  intro outcome taken
  have hset (given : Text) : device.set (.releaseText given) = (Release.ofText given).map fun release =>
      { device with header := { device.header with release } } := rfl
  have hok {given : Text} {major minor micro : Nat} (hnames : Release.Names given major minor micro)
      (hfits : Release.Fits major minor micro) : bench.perform (.setDevice d (.releaseText given))
        = .ok { bench with devices := bench.devices.set d { device with
          header := { device.header with release := Release.encode major minor micro } } } () := by
    refine perform_of_ok ?_
    rw [attempt_setDevice hdevice, hset, Release.ofText_of_names hnames, if_pos hfits]
    rfl
  have herror (hnot : ¬taken) : ∃ e, outcome.result = .error e ∧ e.kind = .configuration ∧ outcome.state = bench := by
    obtain ⟨e, he, hkind⟩ := Release.kind_of_ofText hnot
    have hfail : outcome = .fail bench e := by
      refine perform_of_error ?_
      rw [attempt_setDevice hdevice, hset, he]
      rfl
    rw [hfail]
    exact ⟨e, rfl, hkind, rfl⟩
  refine ⟨⟨?_, ?_⟩, ?_, ?_, herror⟩
  · intro hresult
    by_contra hnot
    obtain ⟨e, he, _⟩ := herror hnot
    rw [hresult] at he
    cases he
  · rintro ⟨major, minor, micro, hnames, hfits⟩
    show (bench.perform _).result = _
    rw [hok hnames hfits]
    rfl
  · intro major minor micro hnames hfits
    refine ⟨_, Release.shows_encode hfits, ?_⟩
    show (bench.perform _).state = _
    rw [hok hnames hfits]
    rfl
  · intro other major minor micro hnames hother hfits
    rw [hok hother hfits]
    exact (hok hnames hfits).symm

/-- All that can stand around the numbers of a version, and the plain version. -/
theorem perform_releaseText_dressed :
    let device : Device := { header := { release := 0x0010 } }
    let bench : Bench := { devices := [device] }
    let dressed : Text := "\tV01!042.7.09.3-RC_1.post2.dev3+Abc.1 "
    bench.perform (.setDevice 0 (.releaseText "42.7.9")) = bench.perform (.setDevice 0 (.releaseText dressed))
      ∧ (bench.perform (.setDevice 0 (.releaseText dressed))).state.devices
        = [{ header := { release := 0x4279 } }] := by
  intro device bench dressed
  have hnames : Release.Names dressed 42 7 9 :=
    ⟨_, [42, 7, 9, 3], rfl, Release.Version.numbers?_eq_some_iff.mp (by decide +kernel), rfl, rfl, rfl⟩
  have hplain : Release.Names "42.7.9" 42 7 9 :=
    ⟨_, [42, 7, 9], rfl, Release.Version.numbers?_eq_some_iff.mp (by decide +kernel), rfl, rfl, rfl⟩
  have hfits : Release.Fits 42 7 9 := by decide
  obtain ⟨_, hstate, hsame, _⟩ := @perform_releaseText bench 0 device rfl dressed
  obtain ⟨code, hshows, hcode⟩ := hstate 42 7 9 hnames hfits
  obtain rfl : code = 0x4279 := hshows.unique (Release.shows_encode hfits)
  exact ⟨hsame _ 42 7 9 hnames hplain hfits, by rw [hcode]; rfl⟩

end Bench

end UsbCompiler
