import UsbCompiler.Proofs.Descriptor.Standalone

/-!
# `UsbCompiler.Proofs.Descriptor.Texts` — string descriptors as the host reads them

The payload of a string descriptor is a row of words with the low bytes first: the UTF-16 units of a text, or the
identifiers of the supported languages. What has room for 253 bytes has room for 126 words, so a text of characters
beyond the basic plane ends at 63 of them. Both kinds of string descriptor are written as a whole or not at all, and
the host reads back what was given. A text that holds a surrogate has no units, and is refused however short it is.

## Contents
- `Utf16.unitCount` and `Utf16.length_encode`: the number of units of a text.
- `Record.words?` and `Record.text?`: reading a payload.
- `Stream.WritesString` and `Stream.writesString_words`: a row of words is written.
- `Stream.writesString_text`, `Stream.announced` and `Stream.writesString_languages`: the two kinds of rows.
- `Stream.writeString_inj`: two texts have two descriptors.
- `Stream.writeString_of_surrogate`: texts without a descriptor.
- `Stream.writes_strings`: texts and languages, for every stream.
-/

namespace UsbCompiler

/-! ## The number of units -/

namespace Utf16

/-- The number of units of a text: one for each character, and a second one for those beyond the basic plane. -/
def unitCount (text : List Char) : Nat := text.length + text.countP fun c => 0x10000 ≤ c.toNat

theorem length_units (c : Char) : (units c).length = if 0x10000 ≤ c.toNat then 2 else 1 := by
  unfold units
  by_cases hwide : 0x10000 ≤ c.toNat
  · rw [if_neg (by omega), if_pos hwide]
    rfl
  · rw [if_pos (by omega), if_neg hwide]
    rfl

theorem length_encode (text : List Char) : (encode text).length = unitCount text := by
  induction text with
  | nil => rfl
  | cons c rest ih =>
    have hcons : encode (c :: rest) = units c ++ encode rest := List.flatMap_cons
    rw [hcons, List.length_append, length_units, ih, unitCount, unitCount, List.countP_cons, List.length_cons]
    simp only [decide_eq_true_eq]
    split <;> omega

end Utf16

/-! ## Reading a payload -/

namespace Record

/-- The words in a payload, if it consists of whole words. -/
def words? (record : Record) : Option (List Nat) :=
  unpack? (List.replicate (record.payload.length / 2) .word) record.payload

/-- The text in a payload, if its words are the units of a text. -/
def text? (record : Record) : Option String := (record.words?.bind Utf16.decode?).map String.ofList

theorem words?_flatMap_encode {type : UInt8} {words : List Nat} (hwords : ∀ word ∈ words, word < 0x10000) :
    words? ⟨type, words.flatMap Width.word.encode⟩ = some words := by
  have hlength : (words.flatMap Width.word.encode).length / 2 = words.length := by
    rw [length_words]
    omega
  rw [words?]
  show unpack? (List.replicate ((words.flatMap Width.word.encode).length / 2) .word) _ = some words
  rw [hlength, unpack?_words hwords]

/-- A text is read back from its units. -/
theorem text?_of_words? {record : Record} {text : String} (h : record.words? = some (Utf16.encode text.toList)) :
    record.text? = some text := by
  rw [text?, h, Option.bind_some, Utf16.decode?_encode, Option.map_some, String.ofList_toList]

/-- A record that can be cut off by its length is known from its bytes. -/
theorem eq_of_bytes_eq {record other : Record} (hrecord : split? record.bytes = some [record])
    (hother : split? other.bytes = some [other]) (h : record.bytes = other.bytes) : record = other := by
  rw [h, hother] at hrecord
  exact (List.singleton_inj.mp (Option.some.inj hrecord)).symm

end Record

/-! ## Writing -/

namespace Stream

variable {stream : Stream} {outcome : Outcome Stream Unit} {accepted : Prop} {shows : Record → Prop}
  {kinds : List Error.Kind}

/-- **A string descriptor or nothing.** A step that is accepted puts one string descriptor with the right content
    behind what has been written, and the host can cut it off by its length. One that is not accepted fails with an
    error of a known kind and leaves the stream as it was. -/
structure WritesString (stream : Stream) (outcome : Outcome Stream Unit) (accepted : Prop) (shows : Record → Prop)
    (kinds : List Error.Kind) : Prop where
  written : accepted → ∃ record : Record, outcome = .ok (stream.append record.bytes) () ∧ record.type = 3
    ∧ Record.split? record.bytes = some [record] ∧ shows record
  refused : ¬accepted → ∃ error : Error, outcome = .fail stream error ∧ error.kind ∈ kinds

/-- A row of words is written if there are no more than 126 of them. -/
theorem writesString_words (stream : Stream) {words : List Nat} (hwords : ∀ word ∈ words, word < 0x10000) :
    stream.WritesString (stream.writeRecord 3 (words.flatMap Width.word.encode)) (words.length ≤ 126)
      (fun record => record.size = 2 + 2 * words.length ∧ record.words? = some words) [.configuration] := by
  have hlength := length_words words
  let record : Record := ⟨3, words.flatMap Width.word.encode⟩
  have hsize : record.size = 2 + 2 * words.length := by
    show (words.flatMap Width.word.encode).length + 2 = _
    omega
  unfold writeRecord
  constructor
  · intro hshort
    rw [if_neg (by omega), if_pos (by decide)]
    exact ⟨record, rfl, rfl, Record.split?_bytes (by omega), hsize, Record.words?_flatMap_encode hwords⟩
  · intro hlong
    rw [if_pos (by omega)]
    exact ⟨_, rfl, List.mem_singleton_self _⟩

theorem writesString_text (stream : Stream) (text : String) :
    stream.WritesString (stream.writeString text) (Utf16.unitCount text.toList ≤ 126)
      (fun record => record.size = 2 + 2 * Utf16.unitCount text.toList ∧ record.text? = some text)
      [.configuration] := by
  have hunits : ∀ unit ∈ Utf16.encode text.toList, unit < 0x10000 := fun _ => Utf16.lt_of_mem_encode
  have hrow : stream.writeString text
      = stream.writeRecord 3 ((Utf16.encode text.toList).flatMap Width.word.encode) := by
    unfold writeString
    rw [Utf16.encode?_ofCharacters]
    rfl
  have h := stream.writesString_words hunits
  rw [Utf16.length_encode, ← hrow] at h
  constructor
  · intro hshort
    obtain ⟨record, houtcome, htype, hsplit, hsize, hwords⟩ := h.written hshort
    exact ⟨record, houtcome, htype, hsplit, hsize, Record.text?_of_words? hwords⟩
  · exact h.refused

/-- A text with a surrogate is refused. -/
theorem writeString_of_surrogate {text : Text} {index : Fin 0x800} (h : .surrogate index ∈ text.points) :
    stream.writeString text = .fail stream .surrogateInText := by
  unfold writeString
  rw [Utf16.encode?_eq_none_iff.mpr ⟨index, h⟩]

/-- The languages that a list announces. A list that is empty stands for the default. -/
def announced : List Int → List Int
  | [] => [0x0409]
  | languages => languages

theorem writeLanguages_eq (stream : Stream) (languages : List Int) :
    stream.writeLanguages languages = stream.writeFields .string (.ok ((announced languages).map Field.word)) := by
  cases languages <;> rfl

/-- Identifiers that are words are written as a row of words. -/
theorem writeFields_words (stream : Stream) {languages : List Int}
    (hrange : ∀ language ∈ languages, 0 ≤ language ∧ language ≤ 0xFFFF) :
    stream.WritesString (stream.writeFields .string (.ok (languages.map Field.word))) (languages.length ≤ 126)
      (fun record => record.size = 2 + 2 * languages.length ∧ record.words?.map (List.map Int.ofNat) = some languages)
      [.configuration] := by
  have hwords : ∀ word ∈ languages.map Int.toNat, word < 0x10000 := by
    rw [List.forall_mem_map]
    intro language hlanguage
    have hbounds := hrange language hlanguage
    omega
  have hfits : ∀ field ∈ languages.map Field.word, field.Fits := by
    rw [List.forall_mem_map]
    intro language hlanguage
    have hbounds := hrange language hlanguage
    exact ⟨hbounds.1, Int.lt_add_one_of_le hbounds.2⟩
  have hback : (languages.map Int.toNat).map Int.ofNat = languages := by
    rw [List.map_map]
    exact (List.map_congr_left fun language hlanguage => Int.toNat_of_nonneg (hrange language hlanguage).1).trans
      (List.map_id _)
  have hpack : (.ok (languages.map Field.word) >>= pack)
      = .ok ((languages.map Int.toNat).flatMap Width.word.encode) := by
    refine pack_eq_ok_iff.mpr ⟨hfits, ?_⟩
    rw [List.flatMap_map, List.flatMap_map]
    rfl
  have hrow : stream.writeFields .string (.ok (languages.map Field.word))
      = stream.writeRecord 3 ((languages.map Int.toNat).flatMap Width.word.encode) := by
    unfold writeFields
    rw [hpack]
    rfl
  have h := stream.writesString_words hwords
  rw [← hrow, List.length_map] at h
  constructor
  · intro hshort
    obtain ⟨record, houtcome, htype, hsplit, hsize, hread⟩ := h.written hshort
    refine ⟨record, houtcome, htype, hsplit, hsize, ?_⟩
    rw [hread, Option.map_some, hback]
  · exact h.refused

theorem writeFields_of_range {fields : List Field} (hout : ¬∀ field ∈ fields, field.Fits) :
    stream.writeFields .string (.ok fields) = .fail stream .fieldRange := by
  have hpack : (.ok fields >>= pack) = .error .fieldRange := if_neg hout
  unfold writeFields
  rw [hpack]

theorem writesString_languages (stream : Stream) (languages : List Int) :
    stream.WritesString (stream.writeLanguages languages)
      ((∀ language ∈ languages, 0 ≤ language ∧ language ≤ 0xFFFF) ∧ languages.length ≤ 126)
      (fun record => record.size = 2 + 2 * (announced languages).length
        ∧ record.words?.map (List.map Int.ofNat) = some (announced languages))
      [.configuration, .fieldRange] := by
  -- The default passes both checks, as the empty list does.
  have hrange : (∀ language ∈ announced languages, 0 ≤ language ∧ language ≤ 0xFFFF)
      ↔ ∀ language ∈ languages, 0 ≤ language ∧ language ≤ 0xFFFF := by
    cases languages with
    | nil => decide
    | cons first rest => exact Iff.rfl
  have hcount : (announced languages).length ≤ 126 ↔ languages.length ≤ 126 := by
    cases languages with
    | nil => decide
    | cons first rest => exact Iff.rfl
  rw [writeLanguages_eq, ← hrange, ← hcount]
  by_cases hwords : ∀ language ∈ announced languages, 0 ≤ language ∧ language ≤ 0xFFFF
  · have h := stream.writeFields_words hwords
    refine ⟨fun haccepted => h.written haccepted.2, fun hnot => ?_⟩
    obtain ⟨error, houtcome, hkind⟩ := h.refused fun hshort => hnot ⟨hwords, hshort⟩
    exact ⟨error, houtcome, List.mem_append_left [Error.Kind.fieldRange] hkind⟩
  · refine ⟨fun haccepted => absurd haccepted.1 hwords, fun _ => ⟨.fieldRange, writeFields_of_range ?_, ?_⟩⟩
    · rw [List.forall_mem_map]
      exact fun hfits => hwords fun language hlanguage =>
        ⟨(hfits language hlanguage).1, Int.le_of_lt_add_one (hfits language hlanguage).2⟩
    · exact List.mem_cons_of_mem _ (List.mem_singleton_self _)

/-- The bytes of a text are those of no other text. -/
theorem writeString_inj {text other : String} (hshort : Utf16.unitCount text.toList ≤ 126)
    (h : stream.writeString text = stream.writeString other) : text = other := by
  obtain ⟨record, houtcome, _, hsplit, _, htext⟩ := (stream.writesString_text text).written hshort
  by_cases hother : Utf16.unitCount other.toList ≤ 126
  · obtain ⟨record', houtcome', _, hsplit', _, htext'⟩ := (stream.writesString_text other).written hother
    have hstate : stream.append record.bytes = stream.append record'.bytes := by
      rw [houtcome, houtcome'] at h
      exact congrArg Outcome.state h
    have hbytes : record.bytes = record'.bytes := List.append_cancel_left (congrArg Stream.bytes hstate)
    rw [Record.eq_of_bytes_eq hsplit hsplit' hbytes, htext'] at htext
    exact (Option.some.inj htext).symm
  · obtain ⟨error, houtcome', _⟩ := (stream.writesString_text other).refused hother
    rw [houtcome, houtcome'] at h
    cases congrArg Outcome.result h

/-- **String descriptors round-trip.** A text is written exactly if it has no more than 126 units, and a list of
    languages exactly if it has no more than 126 entries and all of them are words. What is written is one string
    descriptor from which the same text or the same languages are read; the stream stays as it was if nothing is
    written. Two texts have two descriptors. A text that holds a surrogate has none. -/
theorem writes_strings (stream : Stream) :
    (∀ text : String, stream.WritesString (stream.writeString text) (Utf16.unitCount text.toList ≤ 126)
        (fun record => record.size = 2 + 2 * Utf16.unitCount text.toList ∧ record.text? = some text)
        [.configuration])
      ∧ (∀ text other : String, Utf16.unitCount text.toList ≤ 126 →
          stream.writeString text = stream.writeString other → text = other)
      ∧ (∀ (text : Text) (index : Fin 0x800), .surrogate index ∈ text.points →
          stream.writeString text = .fail stream .surrogateInText)
      ∧ ∀ languages : List Int, stream.WritesString (stream.writeLanguages languages)
        ((∀ language ∈ languages, 0 ≤ language ∧ language ≤ 0xFFFF) ∧ languages.length ≤ 126)
        (fun record => record.size = 2 + 2 * (announced languages).length
          ∧ record.words?.map (List.map Int.ofNat) = some (announced languages))
        [.configuration, .fieldRange] :=
  ⟨stream.writesString_text, fun _ _ => writeString_inj, fun _ _ => writeString_of_surrogate,
    stream.writesString_languages⟩

/-- Behind other bytes, a text with a character beyond the basic plane. Its unit count, and not its length, is what
    has to be small: 64 such characters are too many. -/
theorem writes_strings_wide :
    let stream : Stream := { bytes := [0xFF], configuration := some 0 }
    let wide := String.ofList (List.replicate 64 '😀')
    (∃ record : Record, stream.writeString "A😀" = .ok (stream.append record.bytes) () ∧ record.type = 3
        ∧ Record.split? record.bytes = some [record] ∧ record.size = 8 ∧ record.text? = some "A😀")
      ∧ (∃ error : Error, stream.writeString wide = .fail stream error ∧ error.kind ∈ [Error.Kind.configuration])
      ∧ ∀ other : String, stream.writeString "A😀" = stream.writeString other → "A😀" = other := by
  intro stream wide
  obtain ⟨htexts, hdistinct, _⟩ := writes_strings stream
  have hshort : Utf16.unitCount "A😀".toList ≤ 126 := by decide
  refine ⟨(htexts _).written hshort, (htexts wide).refused ?_, fun other => hdistinct _ other hshort⟩
  rw [String.toList_ofList]
  decide

end Stream

end UsbCompiler
