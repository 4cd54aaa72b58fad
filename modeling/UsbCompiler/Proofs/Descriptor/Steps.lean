import UsbCompiler.Proofs.Descriptor.Pieces
import UsbCompiler.Proofs.Descriptor.Writing

/-!
# `UsbCompiler.Proofs.Descriptor.Steps` — each write adds a piece

A stream that has been written without a failure is determined by the list of its pieces: its bytes show their
records, and its two marks are the places of the pieces that are open. Writing a descriptor adds a piece to the
list, and the patches that go with it are what makes the records of the longer list out of those of the shorter
one. Each write is characterised by the piece that it adds and by what the list has to admit.

## Contents
- `Stream.ofPieces`: the stream that shows a list of pieces.
- `Stream.closeConfiguration_ofPieces_eq_ok_iff`, `complete_ofPieces_eq_ok_iff`: closing makes all lengths right.
- `Piece.Admits`: what a piece asks of those before it, with `Sound.concat_of_admits`.
- `append_ofPieces`, `writeRecord_ofPieces_eq_ok_iff`, `writeString_ofPieces_eq_ok_iff`,
  `writeFields_ofPieces_eq_ok_iff`, `beginConfiguration_ofPieces_eq_ok_iff`, `beginInterface_ofPieces_eq_ok_iff` and
  `writeEndpoint_ofPieces_eq_ok_iff`: the writes.
-/

namespace UsbCompiler

namespace Piece

variable {piece q : Piece} {pieces inner : List Piece} {rank start : Nat}

/-- **What a piece asks of those before it.** A configuration closes the one that is open, so the length of that
    one has to fit. An interface needs a configuration and an endpoint an interface, with room in its count. -/
structure Admits (pieces : List Piece) (q : Piece) : Prop where
  length : q.rank = 3 → openSpan pieces < 0x10000
  count : 1 ≤ q.rank → q.rank < 3 → ∃ start inner, openAt (q.rank + 1) pieces = some (start, inner)
    ∧ count (q.rank + 1) inner < 255

theorem admits_of_rank_eq_zero (h : q.rank = 0) : Admits pieces q where
  length hthree := absurd (h.symm.trans hthree) (by decide)
  count hone := absurd hone (by omega)

/-- A piece of one of the counting ranks is admitted by what is open above it. -/
theorem admits_iff_of_openAt (hq : q.rank + 1 = rank) (hrank : 2 ≤ rank ∧ rank ≤ 3)
    (hopen : openAt rank pieces = some (start, inner)) : Admits pieces q ↔ Piece.count rank inner < 255 := by
  subst hq
  constructor
  · intro h
    obtain ⟨_, _, hsame, hroom⟩ := h.count (by omega) (by omega)
    rw [hopen] at hsame
    cases hsame
    exact hroom
  · intro hroom
    exact ⟨fun hthree => absurd hthree (by omega), fun _ _ => ⟨start, inner, hopen, hroom⟩⟩

theorem Sound.concat_of_admits (h : Sound pieces) (hq : Admits pieces q) : Sound (pieces ++ [q]) := by
  by_cases hthree : q.rank = 3
  · cases q with
    | configuration header string => exact h.concat_configuration (hq.length hthree) header string
    | interface header string | endpoint descriptor | other record => simp [Piece.rank] at hthree
  · have hless : q.rank < 3 := Nat.lt_of_le_of_ne q.rank_le hthree
    refine h.concat hless fun hone start inner hopen => ?_
    obtain ⟨_, _, hsame, hroom⟩ := hq.count hone hless
    rw [hopen] at hsame
    cases hsame
    exact hroom

/-- A count stands behind two bytes of payload. -/
theorem exists_record_eq (h : 2 ≤ piece.rank) (length : Nat) :
    ∃ (type a b : UInt8) (tail : Bytes), ∀ n, piece.record length n = ⟨type, a :: b :: UInt8.ofNat n :: tail⟩ := by
  cases piece with
  | configuration header string => exact ⟨_, _, _, _, fun _ => rfl⟩
  | interface header string => exact ⟨_, _, _, _, fun _ => rfl⟩
  | endpoint descriptor | other record => simp [Piece.rank] at h

theorem totalSize_append (pieces more : List Piece) :
    totalSize (pieces ++ more) = totalSize pieces + totalSize more := by
  unfold totalSize
  rw [List.map_append, List.sum_append]

/-- What is open above a new piece stays open. -/
theorem fst_openAt_concat (hq : q.rank < rank) :
    (openAt rank (pieces ++ [q])).map Prod.fst = (openAt rank pieces).map Prod.fst := by
  rw [openAt_concat_of_lt hq, Option.map_map]
  rfl

end Piece

namespace Stream

open Piece

variable {stream next : Stream} {pieces inner : List Piece} {q : Piece} {rank start stale : Nat}

/-! ## Streams that show their pieces -/

/-- The stream that shows the records of some pieces, with a given length for the configuration that is open. -/
def ofPieces (stale : Nat) (pieces : List Piece) : Stream where
  bytes := (shown stale pieces).flatMap Record.bytes
  configuration := (openAt 3 pieces).map Prod.fst
  endpointCount := (openAt 2 pieces).map (·.1 + 4)

theorem ofPieces_nil : ofPieces 0 [] = empty := rfl

@[simp] theorem size_ofPieces (stale : Nat) (pieces : List Piece) : (ofPieces stale pieces).size = totalSize pieces :=
  length_flatMap_shown stale pieces

/-- Closing a configuration fails only if it is too long for its length, and then all lengths are right. -/
theorem closeConfiguration_ofPieces_eq_ok_iff :
    (ofPieces stale pieces).closeConfiguration = .ok next
      ↔ openSpan pieces < 0x10000 ∧ next = ofPieces (openSpan pieces) pieces := by
  cases hopen : openAt 3 pieces with
  | none =>
    have hnone : (ofPieces stale pieces).configuration = none := by
      show (openAt 3 pieces).map Prod.fst = none
      rw [hopen]
      rfl
    have hspan : openSpan pieces = 0 := by rw [openSpan, hopen]
    have hsame : ofPieces 0 pieces = ofPieces stale pieces := by
      have hlow := lt_of_openAt_eq_none hopen
      unfold ofPieces
      rw [shown_of_lt hlow, shown_of_lt hlow]
    rw [closeConfiguration, hnone, hspan, hsame, Except.ok.injEq]
    exact ⟨fun h => ⟨by decide, h.symm⟩, fun h => h.2.symm⟩
  | some found =>
    obtain ⟨start, inner⟩ := found
    obtain ⟨header, string, front, rest, rfl, hshown⟩ := exists_close hopen
    have hconfiguration : (ofPieces stale pieces).configuration = some front.length := by
      show (openAt 3 pieces).map Prod.fst = some front.length
      rw [hopen]
      rfl
    have hspan : openSpan pieces = 9 + rest.length := by
      obtain ⟨before, piece, hpieces, hpiece, _, hbefore⟩ := exists_of_openAt hopen
      have hlength := congrArg List.length (hshown stale)
      have hnine : piece.size = 9 := by
        cases piece with
        | configuration header string => rfl
        | interface header string | endpoint descriptor | other record => simp [Piece.rank] at hpiece
      have hrecord : ((Piece.configuration header string).record stale (count 3 inner)).size = 9 := rfl
      rw [length_flatMap_shown, hpieces, totalSize_append, hbefore, List.length_append, List.length_append,
        Record.length_bytes, hrecord] at hlength
      have hcons : totalSize (piece :: inner) = piece.size + totalSize inner := rfl
      rw [openSpan, hopen]
      simp only
      omega
    rw [closeConfiguration_record_eq_ok_iff hconfiguration (hshown stale), hspan]
    have hbytes : (ofPieces (9 + rest.length) pieces).bytes
        = front ++ ((StandardDescriptor.configuration.record
          (header.counted string (9 + rest.length) (count 3 inner))).bytes ++ rest) := hshown _
    have hclosed : ofPieces (9 + rest.length) pieces = { ofPieces stale pieces with
        bytes := front ++ ((StandardDescriptor.configuration.record
          (header.counted string (9 + rest.length) (count 3 inner))).bytes ++ rest) } := by
      rw [← hbytes]
      rfl
    rw [hclosed]

/-- What is taken out has all lengths right. -/
theorem complete_ofPieces_eq_ok_iff {bytes : Bytes} :
    (ofPieces stale pieces).complete.result = .ok bytes
      ↔ openSpan pieces < 0x10000 ∧ bytes = (finished pieces).flatMap Record.bytes := by
  have hbytes : (ofPieces (openSpan pieces) pieces).bytes = (finished pieces).flatMap Record.bytes :=
    congrArg (·.flatMap Record.bytes) (shown_openSpan pieces)
  unfold complete
  cases hclose : (ofPieces stale pieces).closeConfiguration with
  | error error =>
    refine ⟨nofun, ?_⟩
    rintro ⟨hroom, _⟩
    have hclosed := (@closeConfiguration_ofPieces_eq_ok_iff _ pieces stale).mpr ⟨hroom, rfl⟩
    rw [hclose] at hclosed
    cases hclosed
  | ok closed =>
    obtain ⟨hroom, rfl⟩ := closeConfiguration_ofPieces_eq_ok_iff.mp hclose
    rw [← hbytes]
    constructor
    · intro h
      cases h
      exact ⟨hroom, rfl⟩
    · rintro ⟨_, rfl⟩
      rfl

/-! ## Pieces at the end -/

/-- A piece that no other counts is added as it is packed. -/
theorem append_ofPieces (hq : q.rank = 0) :
    (ofPieces stale pieces).append q.packed.bytes = ofPieces stale (pieces ++ [q]) := by
  have hshown : shown stale (pieces ++ [q]) = shown stale pieces ++ [q.packed] :=
    shown_concat_of_none (by omega) fun hone => absurd hone (by omega)
  have hmark : (openAt 2 (pieces ++ [q])).map (·.1 + 4) = (openAt 2 pieces).map (·.1 + 4) := by
    rw [openAt_concat_of_lt (by omega), Option.map_map]
    rfl
  unfold append ofPieces
  rw [hshown, fst_openAt_concat (by omega), hmark, List.flatMap_append, List.flatMap_singleton]

/-- A record without a meaning for the stream. -/
theorem append_other (stale : Nat) (pieces : List Piece) (record : Record) :
    (ofPieces stale pieces).append record.bytes = ofPieces stale (pieces ++ [.other record]) :=
  append_ofPieces (q := .other record) rfl

/-- Any descriptor without a meaning for the stream. -/
theorem writeRecord_ofPieces_eq_ok_iff {type : Int} {payload : Bytes} :
    ((ofPieces stale pieces).writeRecord type payload).commit = .ok next
      ↔ payload.length ≤ 253 ∧ (0 ≤ type ∧ type < 0x100)
        ∧ next = ofPieces stale (pieces ++ [.other ⟨UInt8.ofNat type.toNat, payload⟩]) := by
  rw [commit_writeRecord_eq_ok_iff, append_other]

theorem writeString_ofPieces_eq_ok_iff {text : Text} :
    ((ofPieces stale pieces).writeString text).commit = .ok next
      ↔ ∃ units, Utf16.encode? text = some units ∧ (textPayload units).length ≤ 253
        ∧ next = ofPieces stale (pieces ++ [.other ⟨3, textPayload units⟩]) := by
  simp only [commit_writeString_eq_ok_iff, append_other]

/-- A standard descriptor without a meaning for the stream. -/
theorem writeFields_ofPieces_eq_ok_iff {type : StandardDescriptor} {fields : Except Error (List Field)} :
    ((ofPieces stale pieces).writeFields type fields).commit = .ok next
      ↔ ∃ known, fields = .ok known ∧ (∀ field ∈ known, field.Fits) ∧ (type.record known).size ≤ 255
        ∧ next = ofPieces stale (pieces ++ [.other (type.record known)]) := by
  simp only [commit_writeFields_eq_ok_iff, append_other]

/-- **A configuration.** It closes the one before it. -/
theorem beginConfiguration_ofPieces_eq_ok_iff {header : ConfigurationHeader} {strings : StringPool} :
    ((ofPieces stale pieces).beginConfiguration header strings).commit = .ok next
      ↔ ∃ string, strings.index? header.string = some string ∧ (∀ field ∈ header.counted string 0 0, field.Fits)
        ∧ Admits pieces (.configuration header string)
        ∧ next = ofPieces 0 (pieces ++ [.configuration header string]) := by
  have hadmits (string : Nat) : Admits pieces (.configuration header string) ↔ openSpan pieces < 0x10000 :=
    ⟨fun h => h.length rfl, fun h => ⟨fun _ => h, fun _ hless => absurd hless (by simp [Piece.rank])⟩⟩
  -- The marks are moved before the record is written.
  have happend (string : Nat) : Stream.append
        { ofPieces (openSpan pieces) pieces with
          configuration := some (ofPieces (openSpan pieces) pieces).size, endpointCount := none }
        (StandardDescriptor.configuration.record (header.counted string 0 0)).bytes
      = ofPieces 0 (pieces ++ [.configuration header string]) := by
    have hself : openAt 3 (pieces ++ [.configuration header string]) = some (totalSize pieces, []) :=
      @openAt_concat_self (.configuration header string) pieces
    have hgone : openAt 2 (pieces ++ [.configuration header string]) = none :=
      openAt_concat_of_gt (show 2 < 3 by decide)
    unfold Stream.append
    rw [size_ofPieces]
    unfold ofPieces
    rw [hself, hgone, shown_concat_configuration, shown_openSpan, List.flatMap_append, List.flatMap_singleton]
    rfl
  rw [commit_beginConfiguration_eq_ok_iff]
  constructor
  · rintro ⟨closed, string, hclose, hstring, hfits, rfl⟩
    obtain ⟨hroom, rfl⟩ := closeConfiguration_ofPieces_eq_ok_iff.mp hclose
    exact ⟨string, hstring, hfits, (hadmits string).mpr hroom, happend string⟩
  · rintro ⟨string, hstring, hfits, hroom, rfl⟩
    have hclose := (@closeConfiguration_ofPieces_eq_ok_iff _ pieces stale).mpr ⟨(hadmits string).mp hroom, rfl⟩
    exact ⟨_, string, hclose, hstring, hfits, (happend string).symm⟩

/-! ## Pieces that are counted -/

/-- **Counting.** A count is raised exactly if it has room, and with the new record behind it the stream shows one
    more piece. -/
theorem exists_increment_ofPieces (hpieces : Sound pieces) (hq : q.rank + 1 = rank) (hrank : 2 ≤ rank ∧ rank ≤ 3)
    (hopen : openAt rank pieces = some (start, inner)) (stale : Nat) :
    ∃ raised : Bytes, raised.length = totalSize pieces
      ∧ raised ++ q.packed.bytes = (shown stale (pieces ++ [q])).flatMap Record.bytes
      ∧ ∀ next, (ofPieces stale pieces).increment (start + 4) = .ok next
        ↔ count rank inner < 255 ∧ next = { ofPieces stale pieces with bytes := raised } := by
  obtain ⟨piece, length, front, rest, hpiece, rfl, hbefore, hafter⟩ := exists_raise hq hrank.2 hopen stale
  obtain ⟨type, a, b, tail, hrecord⟩ := exists_record_eq (hpiece ▸ hrank.1) length
  have hraised : front ++ ((piece.record length (count rank inner + 1)).bytes ++ rest) ++ q.packed.bytes
      = (shown stale (pieces ++ [q])).flatMap Record.bytes := by
    rw [hafter, List.append_assoc, List.append_assoc]
  refine ⟨_, ?_, hraised, fun next => ?_⟩
  · have hlength := congrArg List.length hraised
    have hone : totalSize [q] = q.size := Nat.add_zero _
    have hpacked : q.packed.size = q.size := rfl
    rw [length_flatMap_shown, totalSize_append, hone, List.length_append, Record.length_bytes, hpacked] at hlength
    exact Nat.add_right_cancel hlength
  · rw [hrecord]
    exact increment_record_eq_ok_iff (hpieces.count_le hrank.1 hopen) (by rw [← hrecord]; exact hbefore)

/-- **An interface.** It is counted in the configuration that is open. -/
theorem beginInterface_ofPieces_eq_ok_iff (hpieces : Sound pieces) {header : InterfaceHeader} {strings : StringPool} :
    ((ofPieces stale pieces).beginInterface header strings).commit = .ok next
      ↔ ∃ string, strings.index? header.string = some string ∧ (∀ field ∈ header.counted string 0, field.Fits)
        ∧ Admits pieces (.interface header string)
        ∧ next = ofPieces stale (pieces ++ [.interface header string]) := by
  rw [commit_beginInterface_eq_ok_iff]
  cases hopen : openAt 3 pieces with
  | none =>
    have hnone : (ofPieces stale pieces).configuration = none := by
      show (openAt 3 pieces).map Prod.fst = none
      rw [hopen]
      rfl
    constructor
    · rintro ⟨start, _, _, hstart, _⟩
      rw [hnone] at hstart
      cases hstart
    · rintro ⟨string, _, _, hadmits, _⟩
      obtain ⟨_, _, hsome, _⟩ := hadmits.count (show 1 ≤ 2 by decide) (show 2 < 3 by decide)
      rw [show openAt 3 pieces = some _ from hsome] at hopen
      cases hopen
  | some found =>
    obtain ⟨start, inner⟩ := found
    have hconfiguration : (ofPieces stale pieces).configuration = some start := by
      show (openAt 3 pieces).map Prod.fst = some start
      rw [hopen]
      rfl
    -- Counting has room if the piece is admitted, and with the record behind it the stream shows the piece.
    have hcounts (string : Nat) : ∃ counted : Stream,
        (∀ next, (ofPieces stale pieces).increment (start + 4) = .ok next
          ↔ Admits pieces (.interface header string) ∧ next = counted)
        ∧ { counted with endpointCount := some (counted.size + 4) : Stream }.append
            (StandardDescriptor.interface.record (header.counted string 0)).bytes
          = ofPieces stale (pieces ++ [.interface header string]) := by
      have hthree : (Piece.interface header string).rank + 1 = 3 := rfl
      obtain ⟨raised, hlength, hraised, hiff⟩ :=
        exists_increment_ofPieces (q := .interface header string) hpieces hthree (by decide) hopen stale
      refine ⟨{ ofPieces stale pieces with bytes := raised }, fun next => ?_, ?_⟩
      · rw [hiff, admits_iff_of_openAt hthree (by decide) hopen]
      · have hself : openAt 2 (pieces ++ [.interface header string]) = some (totalSize pieces, []) :=
          @openAt_concat_self (.interface header string) pieces
        have hkept : (openAt 3 (pieces ++ [.interface header string])).map Prod.fst = (openAt 3 pieces).map Prod.fst :=
          fst_openAt_concat (show 2 < 3 by decide)
        unfold Stream.append ofPieces size
        rw [hself, hkept, ← hraised, hlength]
        rfl
    constructor
    · rintro ⟨place, _, string, hplace, hcounted, hstring, hfits, rfl⟩
      rw [hconfiguration] at hplace
      cases hplace
      obtain ⟨counted, hiff, happend⟩ := hcounts string
      obtain ⟨hadmits, rfl⟩ := (hiff _).mp hcounted
      exact ⟨string, hstring, hfits, hadmits, happend⟩
    · rintro ⟨string, hstring, hfits, hadmits, rfl⟩
      obtain ⟨counted, hiff, happend⟩ := hcounts string
      exact ⟨start, counted, string, hconfiguration, (hiff _).mpr ⟨hadmits, rfl⟩, hstring, hfits, happend.symm⟩

/-- **An endpoint.** It is counted in the interface that is open. -/
theorem writeEndpoint_ofPieces_eq_ok_iff (hpieces : Sound pieces) {descriptor : Endpoint.Descriptor} :
    ((ofPieces stale pieces).writeEndpoint descriptor).commit = .ok next
      ↔ (∀ field ∈ descriptor.fields, field.Fits) ∧ Admits pieces (.endpoint descriptor)
        ∧ next = ofPieces stale (pieces ++ [.endpoint descriptor]) := by
  rw [commit_writeEndpoint_eq_ok_iff]
  cases hopen : openAt 2 pieces with
  | none =>
    have hnone : (ofPieces stale pieces).endpointCount = none := by
      show (openAt 2 pieces).map (·.1 + 4) = none
      rw [hopen]
      rfl
    constructor
    · rintro ⟨place, _, hplace, _⟩
      rw [hnone] at hplace
      cases hplace
    · rintro ⟨_, hadmits, _⟩
      obtain ⟨_, _, hsome, _⟩ := hadmits.count (show 1 ≤ 1 by decide) (show 1 < 3 by decide)
      rw [show openAt 2 pieces = some _ from hsome] at hopen
      cases hopen
  | some found =>
    obtain ⟨start, inner⟩ := found
    have hplace : (ofPieces stale pieces).endpointCount = some (start + 4) := by
      show (openAt 2 pieces).map (·.1 + 4) = some (start + 4)
      rw [hopen]
      rfl
    have htwo : (Piece.endpoint descriptor).rank + 1 = 2 := rfl
    have hadmits : Admits pieces (.endpoint descriptor) ↔ count 2 inner < 255 :=
      admits_iff_of_openAt htwo (by decide) hopen
    obtain ⟨raised, _, hraised, hiff⟩ :=
      exists_increment_ofPieces (q := .endpoint descriptor) hpieces htwo (by decide) hopen stale
    have happend : Stream.append { ofPieces stale pieces with bytes := raised } descriptor.record.bytes
        = ofPieces stale (pieces ++ [.endpoint descriptor]) := by
      have hmark : (openAt 2 (pieces ++ [.endpoint descriptor])).map (·.1 + 4) = (openAt 2 pieces).map (·.1 + 4) := by
        rw [openAt_concat_of_lt (show 1 < 2 by decide), Option.map_map]
        rfl
      have hkept : (openAt 3 (pieces ++ [.endpoint descriptor])).map Prod.fst = (openAt 3 pieces).map Prod.fst :=
        fst_openAt_concat (show 1 < 3 by decide)
      unfold Stream.append ofPieces
      rw [hmark, hkept, ← hraised]
      rfl
    constructor
    · rintro ⟨place, counted, hmark, hcounted, hfits, rfl⟩
      rw [hplace] at hmark
      cases hmark
      obtain ⟨hroom, rfl⟩ := (hiff counted).mp hcounted
      exact ⟨hfits, hadmits.mpr hroom, happend⟩
    · rintro ⟨hfits, hroom, rfl⟩
      exact ⟨_, _, hplace, (hiff _).mpr ⟨hadmits.mp hroom, rfl⟩, hfits, happend.symm⟩

end Stream

end UsbCompiler
