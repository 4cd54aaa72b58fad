/-!
# `UsbCompiler.Text` — texts and their 16-bit code units

A text is a row of code points. All of these can be compared and shown, but not all of them are characters: the
surrogates are code points that UTF-16 keeps for itself. There, a character of the basic plane is one unit, any
other one a pair of surrogates, high before low. A text that holds a surrogate of its own has no such form.

## Contents
- `CodePoint` and `Text`, with `Text.ofCharacters` and the coercion from strings.
- `Text.characters?` and `characters?_eq_some_iff`: texts of characters alone.
- `Utf16.units`, `Utf16.encode` and `Utf16.encode?`: the units of a character, of characters and of a text.
- `Utf16.decode?`: the characters that a list of units stands for.
- `Utf16.decode?_encode`, `decode?_of_encode?`: whatever has units can be read back from them.
-/

namespace UsbCompiler

/-- A code point of Unicode. -/
inductive CodePoint where
  | character (c : Char)
  /-- The code point `0xD800 + index`, which is no character. -/
  | surrogate (index : Fin 0x800)
deriving DecidableEq

/-- The character that a code point is, if it is one. -/
def CodePoint.character? : CodePoint → Option Char
  | character c => some c
  | surrogate _ => none

theorem CodePoint.character?_eq_some_iff {point : CodePoint} {c : Char} :
    point.character? = some c ↔ point = .character c := by
  cases point with
  | character d => simp only [character?, Option.some.injEq, character.injEq]
  | surrogate index => exact ⟨nofun, nofun⟩

/-- A text as a caller gives it. -/
structure Text where
  points : List CodePoint
deriving DecidableEq

namespace Text

/-- The text with some characters. -/
def ofCharacters (characters : List Char) : Text := ⟨characters.map .character⟩

instance : Coe String Text := ⟨fun string => ofCharacters string.toList⟩

/-- The characters of a text, if there is nothing else in it. -/
def characters? (text : Text) : Option (List Char) := text.points.mapM CodePoint.character?

@[simp] theorem characters?_ofCharacters (characters : List Char) :
    (ofCharacters characters).characters? = some characters := by
  rw [characters?, ofCharacters, List.mapM_map]
  exact List.mapM_pure.trans (congrArg some (List.map_id characters))

theorem points_of_mapM {points : List CodePoint} {characters : List Char}
    (h : points.mapM CodePoint.character? = some characters) : points = characters.map .character := by
  induction points generalizing characters with
  | nil =>
    cases h
    rfl
  | cons point rest ih =>
    rw [List.mapM_cons] at h
    obtain ⟨c, hpoint, h⟩ := Option.bind_eq_some_iff.mp h
    obtain ⟨others, hrest, h⟩ := Option.bind_eq_some_iff.mp h
    cases h
    rw [CodePoint.character?_eq_some_iff.mp hpoint, ih hrest, List.map_cons]

/-- A text that consists of characters is the text with these characters. -/
theorem characters?_eq_some_iff {text : Text} {characters : List Char} :
    text.characters? = some characters ↔ text = ofCharacters characters := by
  refine ⟨fun h => congrArg mk (points_of_mapM h), ?_⟩
  rintro rfl
  exact characters?_ofCharacters characters

/-- A text has other code points exactly if one of them is a surrogate. -/
theorem characters?_eq_none_iff {text : Text} :
    text.characters? = none ↔ ∃ index, .surrogate index ∈ text.points := by
  obtain ⟨points⟩ := text
  unfold characters?
  induction points with
  | nil => simp
  | cons point rest ih =>
    cases point with
    | character c =>
      simp only [List.mapM_cons, CodePoint.character?, List.mem_cons, reduceCtorEq, false_or, ← ih]
      cases rest.mapM CodePoint.character? <;> simp
    | surrogate index => exact ⟨fun _ => ⟨index, List.mem_cons_self⟩, fun _ => rfl⟩

end Text

namespace Utf16

/-! ## Writing -/

/-- The code units of one character. -/
def units (c : Char) : List Nat :=
  if c.toNat < 0x10000 then [c.toNat]
  else [0xD800 + (c.toNat - 0x10000) / 0x400, 0xDC00 + (c.toNat - 0x10000) % 0x400]

/-- The code units of characters in a row. -/
def encode (characters : List Char) : List Nat :=
  characters.flatMap units

/-- The code units of a text. A text with a surrogate has none. -/
def encode? (text : Text) : Option (List Nat) := text.characters?.map encode

/-! ## Reading -/

/-- Whether a unit opens a pair of surrogates. -/
def IsHigh (unit : Nat) : Prop := 0xD800 ≤ unit ∧ unit < 0xDC00

/-- Whether a unit closes a pair of surrogates. -/
def IsLow (unit : Nat) : Prop := 0xDC00 ≤ unit ∧ unit < 0xE000

instance (unit : Nat) : Decidable (IsHigh unit) := inferInstanceAs (Decidable (_ ∧ _))

instance (unit : Nat) : Decidable (IsLow unit) := inferInstanceAs (Decidable (_ ∧ _))

/-- The characters that units stand for, if every surrogate is part of a pair. -/
def decode? : List Nat → Option (List Char)
  | [] => some []
  | unit :: rest =>
    if IsHigh unit then
      match rest with
      | low :: rest =>
        if IsLow low then
          (decode? rest).map (Char.ofNat (0x10000 + (unit - 0xD800) * 0x400 + (low - 0xDC00)) :: ·)
        else none
      | [] => none
    else if IsLow unit ∨ 0x10000 ≤ unit then none
    else (decode? rest).map (Char.ofNat unit :: ·)

/-- A character is no surrogate. -/
theorem not_surrogate (c : Char) : ¬IsHigh c.toNat ∧ ¬IsLow c.toNat ∧ c.toNat < 0x110000 := by
  have valid : c.toNat < 0xD800 ∨ (0xDFFF < c.toNat ∧ c.toNat < 0x110000) := c.valid
  unfold IsHigh IsLow
  omega

/-- Reading the units of a character gives the character and goes on behind them. -/
theorem decode?_units_append (c : Char) (rest : List Nat) :
    decode? (units c ++ rest) = (decode? rest).map (c :: ·) := by
  obtain ⟨notHigh, notLow, bound⟩ := not_surrogate c
  unfold units
  split
  · next small =>
    simp only [List.singleton_append]
    rw [decode?.eq_def]
    have wide : ¬0x10000 ≤ c.toNat := by omega
    simp only [notHigh, notLow, wide, if_false, or_self, Char.ofNat_toNat]
  · next large =>
    have high : IsHigh (0xD800 + (c.toNat - 0x10000) / 0x400) := by unfold IsHigh; omega
    have low : IsLow (0xDC00 + (c.toNat - 0x10000) % 0x400) := by unfold IsLow; omega
    simp only [List.cons_append, List.nil_append]
    rw [decode?.eq_def]
    have value : 0x10000 + (0xD800 + (c.toNat - 0x10000) / 0x400 - 0xD800) * 0x400
        + (0xDC00 + (c.toNat - 0x10000) % 0x400 - 0xDC00) = c.toNat := by omega
    simp only [high, low, if_true, value, Char.ofNat_toNat]

/-- Characters are read back from their units. -/
theorem decode?_encode (characters : List Char) : decode? (encode characters) = some characters := by
  induction characters with
  | nil => rfl
  | cons c rest ih =>
    have split : encode (c :: rest) = units c ++ encode rest := List.flatMap_cons
    rw [split, decode?_units_append, ih]
    rfl

/-- Every unit fits in sixteen bits. -/
theorem lt_of_mem_encode {characters : List Char} {unit : Nat} (h : unit ∈ encode characters) : unit < 0x10000 := by
  obtain ⟨c, _, hc⟩ := List.mem_flatMap.mp h
  obtain ⟨_, _, bound⟩ := not_surrogate c
  unfold units at hc
  split at hc
  · simp only [List.mem_singleton] at hc
    omega
  · simp only [List.mem_cons, List.not_mem_nil, or_false] at hc
    omega

/-! ## Texts -/

section Texts

variable {text : Text} {coded : List Nat}

@[simp] theorem encode?_ofCharacters (characters : List Char) :
    encode? (.ofCharacters characters) = some (encode characters) := by
  rw [encode?, Text.characters?_ofCharacters, Option.map_some]

/-- A text that has units consists of characters, and these are its units. -/
theorem encode?_eq_some_iff :
    encode? text = some coded ↔ ∃ characters, text = .ofCharacters characters ∧ encode characters = coded := by
  simp only [encode?, Option.map_eq_some_iff, Text.characters?_eq_some_iff]

theorem encode?_eq_none_iff : encode? text = none ↔ ∃ index, .surrogate index ∈ text.points := by
  rw [encode?, Option.map_eq_none_iff, Text.characters?_eq_none_iff]

/-- A text is read back from its units. -/
theorem decode?_of_encode? (h : encode? text = some coded) : (decode? coded).map Text.ofCharacters = some text := by
  obtain ⟨characters, rfl, rfl⟩ := encode?_eq_some_iff.mp h
  rw [decode?_encode, Option.map_some]

theorem lt_of_encode? (h : encode? text = some coded) : ∀ unit ∈ coded, unit < 0x10000 := by
  obtain ⟨characters, rfl, rfl⟩ := encode?_eq_some_iff.mp h
  exact fun _ => lt_of_mem_encode

end Texts

end Utf16

end UsbCompiler
