import UsbCompiler.Proofs.Descriptor.Refusals
import UsbCompiler.Proofs.Descriptor.Steps

/-!
# `UsbCompiler.Proofs.Descriptor.Run` — any run of calls on a stream

The calls on a stream can come in any order, with any number of configurations, other descriptors in between, and
the bytes taken out more than once. As long as no call fails, the stream shows one piece for each call that
writes. When its bytes are taken out, each piece is there as it was packed, apart from the counts and the length,
and these tell what follows it. What is refused for its place is refused because of the calls before it alone.

## Contents
- `Stream.Call`, `Stream.perform` and `Stream.run`, with `run_concat_eq_ok_iff`.
- `Call.Writes`: the piece that a call writes.
- `Stream.perform_ofPieces_eq_ok_iff` and `Stream.exists_ofPieces_of_run`: one call, and all of them.
- `Piece.Reads`: pieces as the host reads them, with `Piece.reads_finished`.
- `Stream.marks_of_run`: what is open after a run.
- `Stream.run_reads`: the bytes of a run and the refusals after it.
-/

namespace UsbCompiler

namespace Stream

variable {stream next : Stream} {pieces : List Piece} {stale : Nat}

/-! ## Runs -/

/-- A call on a stream. Each call that looks strings up brings its own pool. -/
inductive Call where
  | record (type : Int) (payload : Bytes)
  | extra (descriptor : ExtraDescriptor)
  | device (header : DeviceHeader) (configurations : Int) (strings : StringPool)
  | configuration (header : ConfigurationHeader) (strings : StringPool)
  | interface (header : InterfaceHeader) (strings : StringPool)
  | endpoint (descriptor : Endpoint.Descriptor)
  | text (text : Text)
  | languages (languages : List Int)
  | complete
deriving DecidableEq

namespace Call

/-- The rank of what a call writes. Taking bytes out counts as the lowest. -/
def rank : Call → Nat
  | configuration _ _ => 3
  | interface _ _ => 2
  | endpoint _ => 1
  | record _ _ | extra _ | device _ _ _ | text _ | languages _ | complete => 0

/-- **The piece that a call writes**, if all of its numbers fit and its strings have an index. Lengths and counts are
    no part of it. -/
def Writes (call : Call) (piece : Piece) : Prop :=
  match call with
  | record type payload => payload.length ≤ 253 ∧ (0 ≤ type ∧ type < 0x100)
      ∧ piece = .other ⟨UInt8.ofNat type.toNat, payload⟩
  | extra descriptor => descriptor.data.length ≤ 253 ∧ (0 ≤ descriptor.type ∧ descriptor.type < 0x100)
      ∧ piece = .other ⟨UInt8.ofNat descriptor.type.toNat, descriptor.data⟩
  | device header configurations strings => ∃ fields, header.fields configurations strings = .ok fields
      ∧ (∀ field ∈ fields, field.Fits) ∧ (StandardDescriptor.device.record fields).size ≤ 255
      ∧ piece = .other (StandardDescriptor.device.record fields)
  | configuration header strings => ∃ string, strings.index? header.string = some string
      ∧ (∀ field ∈ header.counted string 0 0, field.Fits) ∧ piece = .configuration header string
  | interface header strings => ∃ string, strings.index? header.string = some string
      ∧ (∀ field ∈ header.counted string 0, field.Fits) ∧ piece = .interface header string
  | endpoint descriptor => (∀ field ∈ descriptor.fields, field.Fits) ∧ piece = .endpoint descriptor
  | text content => ∃ units, Utf16.encode? content = some units ∧ (textPayload units).length ≤ 253
      ∧ piece = .other ⟨3, textPayload units⟩
  | languages codes =>
    let shown := if codes.isEmpty then defaultLanguages else codes
    (∀ field ∈ shown.map Field.word, field.Fits)
      ∧ (StandardDescriptor.string.record (shown.map Field.word)).size ≤ 255
      ∧ piece = .other (StandardDescriptor.string.record (shown.map Field.word))
  | complete => False

end Call

/-- The stream after a call that succeeded. -/
def perform (stream : Stream) : Call → Except Error Stream
  | .record type payload => (stream.writeRecord type payload).commit
  | .extra descriptor => (stream.writeExtra descriptor).commit
  | .device header configurations strings => (stream.writeDevice header configurations strings).commit
  | .configuration header strings => (stream.beginConfiguration header strings).commit
  | .interface header strings => (stream.beginInterface header strings).commit
  | .endpoint descriptor => (stream.writeEndpoint descriptor).commit
  | .text text => (stream.writeString text).commit
  | .languages languages => (stream.writeLanguages languages).commit
  | .complete => stream.complete.commit

/-- The stream after calls that all succeeded, from one with nothing written. -/
def run (calls : List Call) : Except Error Stream := calls.foldlM perform empty

theorem run_concat_eq_ok_iff {calls : List Call} {call : Call} :
    run (calls ++ [call]) = .ok next ↔ ∃ stream, run calls = .ok stream ∧ stream.perform call = .ok next := by
  unfold run
  rw [List.foldlM_append, bind_eq_ok_iff]
  refine exists_congr fun stream => and_congr_right fun _ => ?_
  rw [List.foldlM_cons, bind_eq_ok_iff]
  constructor
  · rintro ⟨last, hlast, hsame⟩
    cases hsame
    exact hlast
  · intro hlast
    exact ⟨next, hlast, rfl⟩

/-! ## One call -/

theorem perform_complete_ofPieces (h : (ofPieces stale pieces).perform .complete = .ok next) :
    Piece.openSpan pieces < 0x10000 ∧ next = ofPieces (Piece.openSpan pieces) pieces := by
  unfold perform complete at h
  cases hclose : (ofPieces stale pieces).closeConfiguration with
  | error error =>
    rw [hclose] at h
    cases h
  | ok closed =>
    rw [hclose] at h
    cases h
    exact closeConfiguration_ofPieces_eq_ok_iff.mp hclose

/-- **One call.** A call that writes succeeds exactly if there is a piece for it that those before it admit, and adds
    this piece. -/
theorem perform_ofPieces_eq_ok_iff (hpieces : Piece.Sound pieces) {call : Call} (hcall : call ≠ .complete) :
    (ofPieces stale pieces).perform call = .ok next
      ↔ ∃ piece, call.Writes piece ∧ Piece.Admits pieces piece
        ∧ next = ofPieces (if piece.rank = 3 then 0 else stale) (pieces ++ [piece]) := by
  cases call with
  | record type payload | extra descriptor =>
    refine writeRecord_ofPieces_eq_ok_iff.trans ⟨?_, ?_⟩
    · rintro ⟨hsmall, htype, rfl⟩
      exact ⟨.other _, ⟨hsmall, htype, rfl⟩, Piece.admits_of_rank_eq_zero rfl, rfl⟩
    · rintro ⟨piece, ⟨hsmall, htype, rfl⟩, _, rfl⟩
      exact ⟨hsmall, htype, rfl⟩
  | device header configurations strings =>
    refine writeFields_ofPieces_eq_ok_iff.trans ⟨?_, ?_⟩
    · rintro ⟨fields, hfields, hfits, hsmall, rfl⟩
      exact ⟨.other _, ⟨fields, hfields, hfits, hsmall, rfl⟩, Piece.admits_of_rank_eq_zero rfl, rfl⟩
    · rintro ⟨piece, ⟨fields, hfields, hfits, hsmall, rfl⟩, _, rfl⟩
      exact ⟨fields, hfields, hfits, hsmall, rfl⟩
  | configuration header strings =>
    refine beginConfiguration_ofPieces_eq_ok_iff.trans ⟨?_, ?_⟩
    · rintro ⟨string, hstring, hfits, hadmits, rfl⟩
      exact ⟨_, ⟨string, hstring, hfits, rfl⟩, hadmits, rfl⟩
    · rintro ⟨piece, ⟨string, hstring, hfits, rfl⟩, hadmits, rfl⟩
      exact ⟨string, hstring, hfits, hadmits, rfl⟩
  | interface header strings =>
    refine (beginInterface_ofPieces_eq_ok_iff hpieces).trans ⟨?_, ?_⟩
    · rintro ⟨string, hstring, hfits, hadmits, rfl⟩
      exact ⟨_, ⟨string, hstring, hfits, rfl⟩, hadmits, rfl⟩
    · rintro ⟨piece, ⟨string, hstring, hfits, rfl⟩, hadmits, rfl⟩
      exact ⟨string, hstring, hfits, hadmits, rfl⟩
  | endpoint descriptor =>
    refine (writeEndpoint_ofPieces_eq_ok_iff hpieces).trans ⟨?_, ?_⟩
    · rintro ⟨hfits, hadmits, rfl⟩
      exact ⟨_, ⟨hfits, rfl⟩, hadmits, rfl⟩
    · rintro ⟨piece, ⟨hfits, rfl⟩, hadmits, rfl⟩
      exact ⟨hfits, hadmits, rfl⟩
  | text text =>
    refine writeString_ofPieces_eq_ok_iff.trans ⟨?_, ?_⟩
    · rintro ⟨units, hunits, hsmall, rfl⟩
      exact ⟨.other _, ⟨units, hunits, hsmall, rfl⟩, Piece.admits_of_rank_eq_zero rfl, rfl⟩
    · rintro ⟨piece, ⟨units, hunits, hsmall, rfl⟩, _, rfl⟩
      exact ⟨units, hunits, hsmall, rfl⟩
  | languages languages =>
    refine writeFields_ofPieces_eq_ok_iff.trans ⟨?_, ?_⟩
    · rintro ⟨fields, hfields, hfits, hsmall, rfl⟩
      cases hfields
      exact ⟨.other _, ⟨hfits, hsmall, rfl⟩, Piece.admits_of_rank_eq_zero rfl, rfl⟩
    · rintro ⟨piece, ⟨hfits, hsmall, rfl⟩, _, rfl⟩
      exact ⟨_, rfl, hfits, hsmall, rfl⟩
  | complete => exact absurd rfl hcall

/-! ## All calls -/

/-- **A run.** The stream shows one piece for each call that writes. -/
theorem exists_ofPieces_of_run {calls : List Call} (h : run calls = .ok stream) :
    ∃ stale pieces, stream = ofPieces stale pieces ∧ Piece.Sound pieces
      ∧ List.Forall₂ Call.Writes (calls.filter (· ≠ .complete)) pieces := by
  induction calls using List.reverseRecOn generalizing stream with
  | nil =>
    cases h
    exact ⟨0, [], ofPieces_nil.symm, trivial, .nil⟩
  | append_singleton calls call ih =>
    obtain ⟨before, hbefore, hcall⟩ := run_concat_eq_ok_iff.mp h
    obtain ⟨stale, pieces, rfl, hpieces, hwrites⟩ := ih hbefore
    rw [List.filter_append]
    by_cases hcomplete : call = .complete
    · subst hcomplete
      obtain ⟨_, rfl⟩ := perform_complete_ofPieces hcall
      refine ⟨_, pieces, rfl, hpieces, ?_⟩
      rw [List.filter_cons_of_neg (by simp), List.filter_nil, List.append_nil]
      exact hwrites
    · obtain ⟨piece, hpiece, hadmits, rfl⟩ := (perform_ofPieces_eq_ok_iff hpieces hcomplete).mp hcall
      refine ⟨_, pieces ++ [piece], rfl, hpieces.concat_of_admits hadmits, ?_⟩
      rw [List.filter_cons_of_pos (by simpa using hcomplete), List.filter_nil]
      exact List.rel_append hwrites (.cons hpiece .nil)

end Stream

/-! ## Reading -/

namespace Piece

variable {piece : Piece} {pieces later : List Piece}

/-- What a piece shows apart from its counts fits in its fields. -/
def Fits : Piece → Prop
  | configuration header string => ∀ field ∈ header.counted string 0 0, field.Fits
  | interface header string => ∀ field ∈ header.counted string 0, field.Fits
  | endpoint descriptor => ∀ field ∈ descriptor.fields, field.Fits
  | other record => record.size ≤ 255

/-- **What the host reads for a piece.** The record of a configuration decodes to the number of bytes up to the next
    one and to the number of its interfaces, the record of an interface to the number of its endpoints. -/
def ReadAs (piece : Piece) (later : List Piece) (record : Record) : Prop :=
  match piece with
  | configuration header string =>
    record.Decodes .configuration (header.counted string (piece.span later) (count 3 later))
  | interface header string => record.Decodes .interface (header.counted string (count 2 later))
  | endpoint descriptor => record.Decodes .endpoint descriptor.fields
  | other packed => record = packed

/-- The places in a record where lengths and counts are filled in. -/
def patched : Piece → List Nat
  | configuration _ _ => [2, 3, 4]
  | interface _ _ => [4]
  | endpoint _ | other _ => []

/-- **Records of pieces in a row.** Each has the size of its piece and is read as such, and outside of the places for
    lengths and counts it is as it was packed. -/
inductive Reads : List Piece → List Record → Prop where
  | nil : Reads [] []
  | cons {piece : Piece} {later : List Piece} {record : Record} {records : List Record} :
    record.size = piece.size → record.size ≤ 255 → piece.ReadAs later record →
    (∀ place, place ∉ piece.patched → record.bytes[place]? = piece.packed.bytes[place]?) →
    Reads later records → Reads (piece :: later) (record :: records)

/-- Only the patched places depend on lengths and counts. -/
theorem getElem?_bytes_record (length count : Nat) {place : Nat} (h : place ∉ piece.patched) :
    (piece.record length count).bytes[place]? = piece.packed.bytes[place]? := by
  cases piece with
  | configuration header string =>
    -- The record is its first five bytes in front of what never changes.
    match place with
    | 0 | 1 => rfl
    | 2 | 3 | 4 => simp [patched] at h
    | n + 5 => rfl
  | interface header string =>
    match place with
    | 0 | 1 | 2 | 3 => rfl
    | 4 => simp [patched] at h
    | n + 5 => rfl
  | endpoint descriptor | other record => rfl

/-- All spans fit if those that are closed do and the open one does. -/
theorem Sound.span_lt (h : Sound (piece :: later)) (hrank : piece.rank = 3)
    (hroom : openSpan (piece :: later) < 0x10000) : piece.span later < 0x10000 := by
  by_cases hopen : ∀ p ∈ later, p.rank < 3
  · cases piece with
    | configuration header string =>
      rw [openSpan, openAt, if_pos ⟨hrank, hopen⟩] at hroom
      have hall : ∀ p ∈ later, p.rank < (configuration header string).rank := hopen
      rw [span, inside_of_open hall]
      exact hroom
    | interface header string | endpoint descriptor | other record => simp [rank] at hrank
  · exact h.2.1 hrank hopen

/-- The open configuration is as long behind another piece. -/
theorem openSpan_of_cons (hroom : openSpan (piece :: later) < 0x10000) : openSpan later < 0x10000 := by
  unfold openSpan at hroom ⊢
  cases hopen : openAt 3 later with
  | none => decide
  | some found =>
    rw [openAt_cons_of_some hopen piece] at hroom
    exact hroom

/-- **Reading back.** The records that are taken out are read as their pieces. -/
theorem reads_finished (h : Sound pieces) (hroom : openSpan pieces < 0x10000) (hfits : ∀ p ∈ pieces, p.Fits) :
    Reads pieces (finished pieces) := by
  induction pieces with
  | nil => exact .nil
  | cons piece later ih =>
    obtain ⟨hpiece, hlater⟩ := List.forall_mem_cons.mp hfits
    have hsize := size_record (piece.span later) (count piece.rank later) piece
    refine .cons hsize ?_ ?_ (fun place hplace => getElem?_bytes_record _ _ hplace)
      (ih h.2.2 (openSpan_of_cons hroom) hlater)
    · rw [hsize]
      cases piece with
      | configuration header string | interface header string => show 9 ≤ 255; decide
      | endpoint descriptor => show 7 ≤ 255; decide
      | other record => exact hpiece
    · cases piece with
      | configuration header string =>
        have hcount : count 3 later ≤ 255 := h.1 (show 2 ≤ 3 by decide)
        exact StandardDescriptor.decodes_record _
          (ConfigurationHeader.fits_counted hpiece (h.span_lt rfl hroom) hcount)
      | interface header string =>
        have hcount : count 2 later ≤ 255 := h.1 (show 2 ≤ 2 by decide)
        exact StandardDescriptor.decodes_record _ (InterfaceHeader.fits_counted hpiece hcount)
      | endpoint descriptor => exact StandardDescriptor.decodes_record _ hpiece
      | other record => rfl

theorem Reads.size_le {records : List Record} (h : Reads pieces records) : ∀ record ∈ records, record.size ≤ 255 := by
  induction h with
  | nil => exact fun _ hrecord => absurd hrecord List.not_mem_nil
  | cons _ hsmall _ _ _ ih => exact List.forall_mem_cons.mpr ⟨hsmall, ih⟩

end Piece

namespace Stream

variable {stream next : Stream} {pieces : List Piece} {stale : Nat} {calls : List Call} {call : Call}

theorem Call.Writes.fits {piece : Piece} (h : call.Writes piece) : piece.Fits := by
  cases call with
  | record type payload | extra descriptor =>
    obtain ⟨hsmall, _, rfl⟩ := h
    exact Nat.add_le_add_right hsmall 2
  | device header configurations strings =>
    obtain ⟨_, _, _, hsmall, rfl⟩ := h
    exact hsmall
  | configuration header strings | interface header strings =>
    obtain ⟨_, _, hfits, rfl⟩ := h
    exact hfits
  | endpoint descriptor =>
    obtain ⟨hfits, rfl⟩ := h
    exact hfits
  | text text =>
    obtain ⟨_, _, hsmall, rfl⟩ := h
    exact Nat.add_le_add_right hsmall 2
  | languages languages =>
    obtain ⟨_, hsmall, rfl⟩ := h
    exact hsmall
  | complete => exact False.elim h

/-! ## What is open -/

theorem Call.Writes.rank_eq {piece : Piece} (h : call.Writes piece) : piece.rank = call.rank := by
  cases call with
  | record type payload | extra descriptor | languages languages =>
    obtain ⟨_, _, rfl⟩ := h
    rfl
  | device header configurations strings =>
    obtain ⟨_, _, _, _, rfl⟩ := h
    rfl
  | configuration header strings | interface header strings | text text =>
    obtain ⟨_, _, _, rfl⟩ := h
    rfl
  | endpoint descriptor =>
    obtain ⟨_, rfl⟩ := h
    rfl
  | complete => exact False.elim h

/-- The calls behind the last one that begins a configuration, or all of them if none does. -/
def sinceConfiguration (calls : List Call) : List Call := calls.reverse.takeWhile (·.rank < 3)

theorem sinceConfiguration_concat (calls : List Call) (call : Call) :
    sinceConfiguration (calls ++ [call]) = if call.rank < 3 then call :: sinceConfiguration calls else [] := by
  unfold sinceConfiguration
  rw [List.reverse_append, List.reverse_singleton, List.singleton_append, List.takeWhile_cons]
  simp only [decide_eq_true_eq]

/-- What a piece at the end does to the marks. -/
theorem marks_concat (stale : Nat) (pieces : List Piece) (piece : Piece) :
    ((ofPieces stale (pieces ++ [piece])).configuration = none
        ↔ piece.rank ≠ 3 ∧ (ofPieces stale pieces).configuration = none)
      ∧ ((ofPieces stale (pieces ++ [piece])).endpointCount = none
        ↔ piece.rank = 3 ∨ piece.rank ≠ 2 ∧ (ofPieces stale pieces).endpointCount = none) := by
  have hle := piece.rank_le
  unfold ofPieces
  simp only [Option.map_eq_none_iff]
  constructor
  · by_cases hthree : piece.rank = 3
    · have hself := @Piece.openAt_concat_self piece pieces
      rw [hthree] at hself
      rw [hself]
      exact ⟨nofun, fun h => absurd hthree h.1⟩
    · rw [Piece.openAt_concat_of_lt (by omega), Option.map_eq_none_iff]
      exact (and_iff_right hthree).symm
  · by_cases hthree : piece.rank = 3
    · rw [Piece.openAt_concat_of_gt (by omega)]
      exact ⟨fun _ => .inl hthree, fun _ => rfl⟩
    · by_cases htwo : piece.rank = 2
      · have hself := @Piece.openAt_concat_self piece pieces
        rw [htwo] at hself
        rw [hself]
        exact ⟨nofun, fun h => h.elim (absurd · hthree) (absurd htwo ·.1)⟩
      · rw [Piece.openAt_concat_of_lt (by omega), Option.map_eq_none_iff]
        exact ⟨fun h => .inr ⟨htwo, h⟩, fun h => h.elim (absurd · hthree) (·.2)⟩

/-- **What is open after a run.** A configuration is open once one has begun, and an interface is open if one has
    begun since then. -/
theorem marks_of_run (h : run calls = .ok stream) :
    (stream.configuration = none ↔ ∀ call ∈ calls, call.rank ≠ 3)
      ∧ (stream.endpointCount = none ↔ ∀ call ∈ sinceConfiguration calls, call.rank ≠ 2) := by
  induction calls using List.reverseRecOn generalizing stream with
  | nil =>
    cases h
    have hempty : sinceConfiguration [] = [] := rfl
    rw [hempty]
    exact ⟨iff_of_true rfl (List.forall_mem_nil _), iff_of_true rfl (List.forall_mem_nil _)⟩
  | append_singleton calls call ih =>
    obtain ⟨before, hbefore, hcall⟩ := run_concat_eq_ok_iff.mp h
    obtain ⟨hconfiguration, hinterface⟩ := ih hbefore
    obtain ⟨stale, pieces, rfl, hpieces, _⟩ := exists_ofPieces_of_run hbefore
    rw [List.forall_mem_append, List.forall_mem_singleton, sinceConfiguration_concat, ← hconfiguration]
    by_cases hcomplete : call = .complete
    · subst hcomplete
      obtain ⟨_, rfl⟩ := perform_complete_ofPieces hcall
      rw [if_pos (show Call.complete.rank < 3 by decide), List.forall_mem_cons, ← hinterface]
      exact ⟨(and_iff_left (show 0 ≠ 3 by decide)).symm, (and_iff_right (show 0 ≠ 2 by decide)).symm⟩
    · obtain ⟨piece, hpiece, _, rfl⟩ := (perform_ofPieces_eq_ok_iff hpieces hcomplete).mp hcall
      obtain ⟨hnone, hplace⟩ := marks_concat (if piece.rank = 3 then 0 else stale) pieces piece
      rw [hpiece.rank_eq] at hnone hplace
      refine ⟨hnone.trans and_comm, hplace.trans ?_⟩
      have hle : call.rank ≤ 3 := hpiece.rank_eq ▸ piece.rank_le
      by_cases hthree : call.rank = 3
      · rw [if_neg (show ¬call.rank < 3 by omega)]
        exact ⟨fun _ => List.forall_mem_nil _, fun _ => .inl hthree⟩
      · rw [if_pos (show call.rank < 3 by omega), List.forall_mem_cons, ← hinterface]
        exact or_iff_right hthree

/-- **The bytes of a run, and the refusals after it.** After calls that all succeeded, the bytes that are taken out are
    records one behind another, one for each call that writes and in their order, and they are read as what was
    written, each configuration with its length and the number of its interfaces and each interface with the number
    of its endpoints. An interface is inconsistent exactly if no configuration has begun, unless its string is
    unknown, and an endpoint exactly if no interface has begun since the last configuration. -/
theorem run_reads (hrun : run calls = .ok stream) :
    (∀ bytes, stream.complete.result = .ok bytes →
        ∃ pieces records, List.Forall₂ Call.Writes (calls.filter (· ≠ .complete)) pieces
          ∧ bytes = records.flatMap Record.bytes ∧ Record.split? bytes = some records ∧ Piece.Reads pieces records)
      ∧ (∀ header strings,
        ((stream.beginInterface header strings).result = .error .interfaceOutsideConfiguration
            ↔ ∀ call ∈ calls, call.rank ≠ 3)
          ∧ (strings.index? header.string ≠ none →
            ((∃ e, (stream.beginInterface header strings).result = .error e ∧ e.kind = .inconsistent)
              ↔ ∀ call ∈ calls, call.rank ≠ 3)))
      ∧ ∀ descriptor,
        ((stream.writeEndpoint descriptor).result = .error .endpointOutsideInterface
            ↔ ∀ call ∈ sinceConfiguration calls, call.rank ≠ 2)
          ∧ ((∃ e, (stream.writeEndpoint descriptor).result = .error e ∧ e.kind = .inconsistent)
            ↔ ∀ call ∈ sinceConfiguration calls, call.rank ≠ 2) := by
  obtain ⟨hconfiguration, hinterface⟩ := marks_of_run hrun
  refine ⟨fun bytes hbytes => ?_, fun header strings => ?_, fun descriptor => ?_⟩
  · obtain ⟨stale, pieces, rfl, hsound, hwrites⟩ := exists_ofPieces_of_run hrun
    obtain ⟨hroom, rfl⟩ := complete_ofPieces_eq_ok_iff.mp hbytes
    have hfits : ∀ piece ∈ pieces, piece.Fits := by
      intro piece hpiece
      obtain ⟨call, _, hcall⟩ := exists_of_forall₂ hwrites.flip hpiece
      exact Call.Writes.fits hcall
    have hreads := Piece.reads_finished hsound hroom hfits
    exact ⟨pieces, Piece.finished pieces, hwrites, rfl, Record.split?_flatMap_bytes hreads.size_le, hreads⟩
  · rw [← hconfiguration]
    have houtside : stream.configuration = none →
        (stream.beginInterface header strings).result = .error .interfaceOutsideConfiguration := by
      intro hnone
      unfold beginInterface
      rw [hnone]
      rfl
    refine ⟨⟨fun h => ?_, houtside⟩, fun hstring => ⟨?_, fun hnone => ⟨_, houtside hnone, rfl⟩⟩⟩
    · rcases beginInterface_eq_error h with ⟨hnone, _⟩ | ⟨_, hother⟩ | hkind
      · exact hnone
      · cases hother
      · exact absurd rfl hkind
    · rintro ⟨e, h, hkind⟩
      rcases beginInterface_eq_error h with ⟨hnone, _⟩ | ⟨hunknown, _⟩ | hother
      · exact hnone
      · exact absurd hunknown hstring
      · exact absurd hkind hother
  · rw [← hinterface]
    have houtside : stream.endpointCount = none →
        (stream.writeEndpoint descriptor).result = .error .endpointOutsideInterface := by
      intro hnone
      unfold writeEndpoint
      rw [hnone]
      rfl
    refine ⟨⟨fun h => ?_, houtside⟩, ⟨?_, fun hnone => ⟨_, houtside hnone, rfl⟩⟩⟩
    · exact (writeEndpoint_eq_error h).elim And.left (absurd rfl ·)
    · rintro ⟨e, h, hkind⟩
      exact (writeEndpoint_eq_error h).elim And.left (absurd hkind ·)

/-- Two configurations, the first with a descriptor of another kind behind its interface and with bytes taken out
    before its last endpoint. -/
theorem run_reads_two :
    let endpoint : Endpoint.Descriptor := ⟨⟨1, .toHost, by decide⟩, 2, 64, 0⟩
    let calls : List Call := [.languages [], .configuration {} .empty, .interface {} .empty, .endpoint endpoint,
      .complete, .record 0x24 [1], .endpoint endpoint, .configuration { value := 2 } .empty]
    let records : List Record := [⟨3, [9, 4]⟩, ⟨2, [35, 0, 1, 1, 0, 128, 50]⟩, ⟨4, [0, 0, 2, 0, 0, 0, 0]⟩,
      ⟨5, [129, 2, 64, 0, 0]⟩, ⟨0x24, [1]⟩, ⟨5, [129, 2, 64, 0, 0]⟩, ⟨2, [9, 0, 0, 2, 0, 128, 50]⟩]
    ∃ stream, run calls = .ok stream ∧ stream.complete.result = .ok (records.flatMap Record.bytes)
      ∧ (∃ pieces, List.Forall₂ Call.Writes (calls.filter (· ≠ .complete)) pieces ∧ Piece.Reads pieces records)
      ∧ ∀ descriptor, (stream.writeEndpoint descriptor).result = .error .endpointOutsideInterface := by
  intro endpoint calls records
  have hrun : run calls = .ok (ofPieces 0 [.other ⟨3, [9, 4]⟩, .configuration {} 0, .interface {} 0,
      .endpoint endpoint, .other ⟨0x24, [1]⟩, .endpoint endpoint, .configuration { value := 2 } 0]) := by cbv
  refine ⟨_, hrun, by cbv, ?_, fun descriptor => ?_⟩
  · obtain ⟨pieces, found, hwrites, _, hsplit, hreads⟩ := (run_reads hrun).1 (records.flatMap Record.bytes) (by cbv)
    have hfound : found = records := by
      rw [Record.split?_flatMap_bytes (by decide)] at hsplit
      exact (Option.some.inj hsplit).symm
    exact ⟨pieces, hwrites, hfound ▸ hreads⟩
  · exact ((run_reads hrun).2.2 descriptor).1.mpr (by decide)

end Stream

end UsbCompiler
