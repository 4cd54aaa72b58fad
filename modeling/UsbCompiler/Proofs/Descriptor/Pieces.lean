import Mathlib
import UsbCompiler.Proofs.Descriptor.Records

/-!
# `UsbCompiler.Proofs.Descriptor.Pieces` — descriptors with the counts of what follows them

A stream does not know what will follow a descriptor and corrects it later. Here it is the other way round: a
list of descriptors is given as a whole, and the counts of each are those of the ones behind it. Configurations
hold interfaces and interfaces hold endpoints, so a piece has a rank, and what belongs to it are the pieces up to
the next one of its own or a higher rank. One notion serves for both counts and for the length.

The length of the configuration that is still open is the one thing that a stream does not keep up to date. What
it shows in between is a parameter here.

## Contents
- `Piece` with its `rank`, `record`, `packed` and `size`.
- `Piece.inside`, `count` and `span`: what belongs to a piece, counted and measured.
- `Piece.finished` and `Piece.shown`: the records of a list, with all lengths or all but the open one.
- `Piece.openAt`: the last piece of a rank, if nothing has closed it.
- `Piece.exists_raise`, `exists_close`, `shown_concat_of_none`, `shown_concat_configuration`: the records after one
  more piece.
- `Piece.Sound`: lists whose counts fit in their fields.
-/

namespace UsbCompiler

/-- A descriptor that has been written, and all that its record shows apart from counts. -/
inductive Piece where
  | configuration (header : ConfigurationHeader) (string : Nat)
  | interface (header : InterfaceHeader) (string : Nat)
  | endpoint (descriptor : Endpoint.Descriptor)
  | other (record : Record)
deriving DecidableEq

namespace Piece

/-- Configurations stand above interfaces, interfaces above endpoints, and these above all else. -/
def rank : Piece → Nat
  | configuration _ _ => 3
  | interface _ _ => 2
  | endpoint _ => 1
  | other _ => 0

/-- The record of a piece that shows a length and a count. Interfaces have no length, and only they and
    configurations have a count. -/
def record (length count : Nat) : Piece → Record
  | configuration header string => StandardDescriptor.configuration.record (header.counted string length count)
  | interface header string => StandardDescriptor.interface.record (header.counted string count)
  | endpoint descriptor => descriptor.record
  | other record => record

/-- The record of a piece as it is packed, with zeros for what is not known yet. -/
def packed (piece : Piece) : Record := piece.record 0 0

/-- The number of bytes of a piece. -/
def size (piece : Piece) : Nat := piece.packed.size

/-- The number of bytes of several pieces. -/
def totalSize (pieces : List Piece) : Nat := (pieces.map size).sum

/-! ## What belongs to a piece -/

/-- The pieces behind one of a rank that belong to it: those before the next one of this or a higher rank. -/
def inside (rank : Nat) (later : List Piece) : List Piece := later.takeWhile (·.rank < rank)

/-- How many pieces of the next lower rank belong to a piece. -/
def count (rank : Nat) (later : List Piece) : Nat := (inside rank later).countP (·.rank + 1 = rank)

/-- The number of bytes from the start of a piece to the start of the next one of its own or a higher rank, or to
    the end. -/
def span (piece : Piece) (later : List Piece) : Nat := piece.size + totalSize (inside piece.rank later)

/-- The records of a list of pieces. -/
def finished : List Piece → List Record
  | [] => []
  | piece :: later => piece.record (piece.span later) (count piece.rank later) :: finished later

/-- The length that a stream shows for a piece: the right one if the piece is closed, and any other before. -/
def shownLength (stale : Nat) (piece : Piece) (later : List Piece) : Nat :=
  if ∀ q ∈ later, q.rank < piece.rank then stale else piece.span later

/-- The records of a list of pieces, with a given length for the configuration that is open. -/
def shown (stale : Nat) : List Piece → List Record
  | [] => []
  | piece :: later =>
    piece.record (piece.shownLength stale later) (count piece.rank later) :: shown stale later

/-- The place of the last piece of a rank and the pieces behind it, unless one of a higher rank is among them. -/
def openAt (rank : Nat) : List Piece → Option (Nat × List Piece)
  | [] => none
  | piece :: later =>
    if piece.rank = rank ∧ ∀ q ∈ later, q.rank < rank then some (0, later)
    else (openAt rank later).map fun (start, inner) => (piece.size + start, inner)

/-- The number of bytes of the configuration that is open, from its start to the end. -/
def openSpan (pieces : List Piece) : Nat :=
  match openAt 3 pieces with
  | some (_, inner) => 9 + totalSize inner
  | none => 0

variable {piece q : Piece} {pieces later inner : List Piece} {rank start stale : Nat}

@[simp] theorem size_record (length count : Nat) (piece : Piece) : (piece.record length count).size = piece.size := by
  cases piece <;> rfl

theorem rank_le (piece : Piece) : piece.rank ≤ 3 := by
  cases piece <;> simp [rank]

/-- A piece without a count does not show one. -/
theorem record_of_rank_le_one (h : piece.rank ≤ 1) (length count : Nat) :
    piece.record length count = piece.packed := by
  cases piece with
  | configuration header string | interface header string => simp [rank] at h
  | endpoint descriptor => rfl
  | other record => rfl

/-- Only a configuration shows its length. -/
theorem record_of_rank_ne_three (h : piece.rank ≠ 3) (length other count : Nat) :
    piece.record length count = piece.record other count := by
  cases piece with
  | configuration header string => exact absurd rfl h
  | interface header string | endpoint descriptor | other record => rfl

/-! ## One more piece -/

theorem inside_of_open (h : ∀ q ∈ later, q.rank < rank) : inside rank later = later := by
  unfold inside
  rw [List.takeWhile_eq_self_iff]
  intro q hq
  exact decide_eq_true (h q hq)

/-- A piece that is closed is not changed by what follows. -/
theorem inside_append_of_closed (h : ¬∀ q ∈ later, q.rank < rank) (more : List Piece) :
    inside rank (later ++ more) = inside rank later := by
  unfold inside
  rw [List.takeWhile_append, if_neg]
  intro hall
  refine h fun q hq => ?_
  have hself : later.takeWhile (·.rank < rank) = later :=
    (List.takeWhile_prefix _).eq_of_length hall
  exact of_decide_eq_true (List.takeWhile_eq_self_iff.mp hself q hq)

/-- A piece that stands as high does not belong to the ones before it. -/
theorem inside_concat_of_le (hq : rank ≤ q.rank) : inside rank (later ++ [q]) = inside rank later := by
  by_cases h : ∀ p ∈ later, p.rank < rank
  · have hstop : inside rank [q] = [] := List.takeWhile_cons_of_neg (by simpa using hq)
    have hsplit : inside rank (later ++ [q]) = later ++ inside rank [q] :=
      List.takeWhile_append_of_pos fun p hp => decide_eq_true (h p hp)
    rw [hsplit, hstop, List.append_nil, inside_of_open h]
  · exact inside_append_of_closed h [q]

theorem count_concat_of_open (h : ∀ q ∈ later, q.rank < rank) (hq : q.rank + 1 = rank) :
    count rank (later ++ [q]) = count rank later + 1 := by
  have hall : ∀ p ∈ later ++ [q], p.rank < rank := forall_mem_concat h (by omega)
  unfold count
  rw [inside_of_open hall, inside_of_open h, List.countP_append, List.countP_singleton, if_pos (by simpa using hq)]

/-- A piece that is not counted for a rank changes no count of it. -/
theorem count_concat_of_ne (hq : q.rank + 1 ≠ rank) : count rank (later ++ [q]) = count rank later := by
  by_cases h : ∀ p ∈ later, p.rank < rank
  · unfold count inside
    rw [List.takeWhile_append_of_pos (fun p hp => decide_eq_true (h p hp)), List.countP_append,
      List.takeWhile_eq_self_iff.mpr (fun p hp => decide_eq_true (h p hp))]
    have hnone : List.countP (fun p : Piece => decide (p.rank + 1 = rank)) ([q].takeWhile (·.rank < rank)) = 0 := by
      rw [List.countP_eq_zero]
      intro p hp
      have hp := List.mem_singleton.mp ((List.takeWhile_prefix _).subset hp)
      simpa [hp] using hq
    rw [hnone, Nat.add_zero]
  · unfold count
    rw [inside_append_of_closed h]

/-- The length of a configuration is not touched by pieces that belong to it. -/
theorem record_shownLength_concat (hq : q.rank < 3) (n : Nat) :
    piece.record (piece.shownLength stale (later ++ [q])) n = piece.record (piece.shownLength stale later) n := by
  by_cases hpiece : piece.rank = 3
  · unfold shownLength
    by_cases h : ∀ p ∈ later, p.rank < piece.rank
    · rw [if_pos h, if_pos (forall_mem_concat h (hpiece ▸ hq))]
    · rw [if_neg h, if_neg fun hall => h fun p hp => hall p (List.mem_append_left _ hp), span,
        inside_append_of_closed h]
      rfl
  · exact record_of_rank_ne_three hpiece _ _ n

/-! ## The piece that is open -/

theorem openAt_of_lt (h : ∀ p ∈ pieces, p.rank < rank) : openAt rank pieces = none := by
  induction pieces with
  | nil => rfl
  | cons piece later ih =>
    obtain ⟨hpiece, hlater⟩ := List.forall_mem_cons.mp h
    rw [openAt, if_neg fun hopen => absurd hopen.1 (Nat.ne_of_lt hpiece), ih hlater, Option.map_none]

theorem openAt_eq_none_of_cons (h : openAt rank (piece :: later) = none) :
    ¬(piece.rank = rank ∧ ∀ p ∈ later, p.rank < rank) ∧ openAt rank later = none := by
  rw [openAt] at h
  split at h
  · cases h
  · next hclosed => exact ⟨hclosed, Option.map_eq_none_iff.mp h⟩

/-- What is open stands behind other pieces and is followed by what belongs to it. -/
theorem exists_of_openAt (h : openAt rank pieces = some (start, inner)) :
    ∃ before piece, pieces = before ++ piece :: inner ∧ piece.rank = rank ∧ (∀ p ∈ inner, p.rank < rank)
      ∧ totalSize before = start := by
  induction pieces generalizing start with
  | nil => cases h
  | cons piece later ih =>
    rw [openAt] at h
    split at h
    · next hopen =>
      cases h
      exact ⟨[], piece, rfl, hopen.1, hopen.2, rfl⟩
    · obtain ⟨⟨next, found⟩, hlater, hpair⟩ := Option.map_eq_some_iff.mp h
      cases hpair
      obtain ⟨before, last, rfl, hrank, hinner, rfl⟩ := ih hlater
      exact ⟨piece :: before, last, rfl, hrank, hinner, rfl⟩

theorem openAt_cons_of_some (h : openAt rank later = some (start, inner)) (piece : Piece) :
    openAt rank (piece :: later) = some (piece.size + start, inner) := by
  rw [openAt, if_neg fun hopen => absurd h (by rw [openAt_of_lt hopen.2]; nofun), h]
  rfl

/-- Without an open configuration there is none at all. -/
theorem lt_of_openAt_eq_none (h : openAt 3 pieces = none) : ∀ p ∈ pieces, p.rank < 3 := by
  induction pieces with
  | nil => exact fun _ hp => absurd hp List.not_mem_nil
  | cons piece later ih =>
    obtain ⟨hnot, hnone⟩ := openAt_eq_none_of_cons h
    have hlater := ih hnone
    have hle := piece.rank_le
    exact List.forall_mem_cons.mpr ⟨by by_contra hlt; exact hnot ⟨by omega, hlater⟩, hlater⟩

/-- Behind a piece that another one of the same rank has closed, the other one is found. -/
theorem closed_of_openAt (h : openAt rank later = some (start, inner)) : ¬∀ p ∈ later, p.rank < rank := by
  intro hall
  rw [openAt_of_lt hall] at h
  cases h

theorem openAt_concat_of_lt (hq : q.rank < rank) :
    openAt rank (pieces ++ [q]) = (openAt rank pieces).map fun (start, inner) => (start, inner ++ [q]) := by
  induction pieces with
  | nil =>
    rw [List.nil_append]
    exact openAt_of_lt (List.forall_mem_singleton.mpr hq)
  | cons piece later ih =>
    rw [List.cons_append, openAt, openAt]
    by_cases hopen : piece.rank = rank ∧ ∀ p ∈ later, p.rank < rank
    · rw [if_pos hopen, if_pos ⟨hopen.1, forall_mem_concat hopen.2 hq⟩]
      rfl
    · have hnot : ¬(piece.rank = rank ∧ ∀ p ∈ later ++ [q], p.rank < rank) :=
        fun h => hopen ⟨h.1, fun p hp => h.2 p (List.mem_append_left _ hp)⟩
      rw [if_neg hopen, if_neg hnot, ih, Option.map_map, Option.map_map]
      rfl

/-- A piece of a higher rank closes all that is open below. -/
theorem openAt_concat_of_gt (hq : rank < q.rank) : openAt rank (pieces ++ [q]) = none := by
  induction pieces with
  | nil =>
    rw [List.nil_append, openAt, if_neg fun h => absurd h.1 (Nat.ne_of_gt hq)]
    rfl
  | cons piece later ih =>
    have hnot : ¬(piece.rank = rank ∧ ∀ p ∈ later ++ [q], p.rank < rank) := by
      intro h
      have := h.2 q (List.mem_append_right _ (List.mem_singleton_self q))
      omega
    rw [List.cons_append, openAt, if_neg hnot, ih, Option.map_none]

/-- A piece at the end is open. -/
theorem openAt_concat_self : openAt q.rank (pieces ++ [q]) = some (totalSize pieces, []) := by
  induction pieces with
  | nil =>
    rw [List.nil_append, openAt, if_pos ⟨rfl, fun _ hp => absurd hp List.not_mem_nil⟩]
    rfl
  | cons piece later ih =>
    have hnot : ¬(piece.rank = q.rank ∧ ∀ p ∈ later ++ [q], p.rank < q.rank) := by
      intro h
      have := h.2 q (List.mem_append_right _ (List.mem_singleton_self q))
      omega
    rw [List.cons_append, openAt, if_neg hnot, ih]
    rfl

/-! ## Records -/

@[simp] theorem length_flatMap_shown (stale : Nat) (pieces : List Piece) :
    ((shown stale pieces).flatMap Record.bytes).length = totalSize pieces := by
  induction pieces with
  | nil => rfl
  | cons piece later ih =>
    rw [shown, List.flatMap_cons, List.length_append, ih, Record.length_bytes, size_record]
    rfl

/-- Without a configuration there is no length to be wrong. -/
theorem shown_of_lt (h : ∀ p ∈ pieces, p.rank < 3) : shown stale pieces = finished pieces := by
  induction pieces with
  | nil => rfl
  | cons piece later ih =>
    obtain ⟨hpiece, hlater⟩ := List.forall_mem_cons.mp h
    rw [shown, finished, ih hlater, record_of_rank_ne_three (Nat.ne_of_lt hpiece)]

/-- A piece that raises no count is added behind the others. -/
theorem shown_concat_of_none (hq : q.rank < 3) (h : 1 ≤ q.rank → openAt (q.rank + 1) pieces = none) :
    shown stale (pieces ++ [q]) = shown stale pieces ++ [q.packed] := by
  induction pieces with
  | nil =>
    rw [List.nil_append, shown, shown, shown, List.nil_append, record_of_rank_ne_three (Nat.ne_of_lt hq) _ 0]
    rfl
  | cons piece later ih =>
    have hcount (n : Nat) : piece.record n (count piece.rank (later ++ [q]))
        = piece.record n (count piece.rank later) := by
      by_cases hlow : piece.rank ≤ 1
      · rw [record_of_rank_le_one hlow, record_of_rank_le_one hlow]
      · by_cases hbelow : q.rank + 1 = piece.rank
        · -- The piece would have counted this one if it were open.
          have hclosed := (openAt_eq_none_of_cons (h (by omega))).1
          rw [hbelow] at hclosed
          unfold count
          rw [inside_append_of_closed fun hall => hclosed ⟨rfl, hall⟩]
        · rw [count_concat_of_ne hbelow]
    have hlater : shown stale (later ++ [q]) = shown stale later ++ [q.packed] :=
      ih fun hpositive => (openAt_eq_none_of_cons (h hpositive)).2
    rw [List.cons_append, shown, shown, hlater, record_shownLength_concat hq, hcount, List.cons_append]

/-- **Counting.** A piece raises the count of the open piece above it, and no other record changes. -/
theorem exists_raise (hq : q.rank + 1 = rank) (hrank : rank ≤ 3) (hopen : openAt rank pieces = some (start, inner))
    (stale : Nat) :
    ∃ (piece : Piece) (length : Nat) (front rest : Bytes), piece.rank = rank ∧ front.length = start
      ∧ (shown stale pieces).flatMap Record.bytes
        = front ++ ((piece.record length (count rank inner)).bytes ++ rest)
      ∧ (shown stale (pieces ++ [q])).flatMap Record.bytes
        = front ++ ((piece.record length (count rank inner + 1)).bytes ++ (rest ++ q.packed.bytes)) := by
  induction pieces generalizing start with
  | nil => cases hopen
  | cons piece later ih =>
    have hless : q.rank < 3 := by omega
    rw [openAt] at hopen
    split at hopen
    · next h =>
      obtain ⟨rfl, hinner⟩ := h
      obtain ⟨rfl, rfl⟩ := Prod.mk.inj (Option.some.inj hopen)
      refine ⟨piece, piece.shownLength stale later, [], (shown stale later).flatMap Record.bytes, rfl, rfl, rfl, ?_⟩
      have hlater : shown stale (later ++ [q]) = shown stale later ++ [q.packed] := by
        refine shown_concat_of_none hless fun _ => ?_
        rw [hq]
        exact openAt_of_lt hinner
      rw [List.cons_append, shown, hlater, record_shownLength_concat hless, count_concat_of_open hinner hq,
        List.flatMap_cons, List.flatMap_append, List.flatMap_singleton]
      rfl
    · -- The piece in front is closed or of another rank, so it does not count the new one.
      obtain ⟨⟨next, found⟩, hlater, hpair⟩ := Option.map_eq_some_iff.mp hopen
      cases hpair
      obtain ⟨last, length, front, rest, hlast, hfront, hbefore, hafter⟩ := ih hlater
      have hcount : count piece.rank (later ++ [q]) = count piece.rank later := by
        by_cases hbelow : q.rank + 1 = piece.rank
        · unfold count
          rw [inside_append_of_closed]
          rw [← hbelow, hq]
          exact closed_of_openAt hlater
        · exact count_concat_of_ne hbelow
      let record := piece.record (piece.shownLength stale later) (count piece.rank later)
      refine ⟨last, length, record.bytes ++ front, rest, hlast, ?_, ?_, ?_⟩
      · rw [List.length_append, hfront, Record.length_bytes, size_record]
      · rw [shown, List.flatMap_cons, hbefore, List.append_assoc]
      · rw [List.cons_append, shown, List.flatMap_cons, hafter, hcount, record_shownLength_concat hless,
          List.append_assoc]

/-- **Closing.** The length of the open configuration stands in its record and nowhere else. -/
theorem exists_close (hopen : openAt 3 pieces = some (start, inner)) :
    ∃ (header : ConfigurationHeader) (string : Nat) (front rest : Bytes), front.length = start
      ∧ ∀ stale, (shown stale pieces).flatMap Record.bytes
        = front ++ (((configuration header string).record stale (count 3 inner)).bytes ++ rest) := by
  induction pieces generalizing start with
  | nil => cases hopen
  | cons piece later ih =>
    rw [openAt] at hopen
    split at hopen
    · next h =>
      obtain ⟨hrank, hinner⟩ := h
      obtain ⟨rfl, rfl⟩ := Prod.mk.inj (Option.some.inj hopen)
      cases piece with
      | configuration header string =>
        refine ⟨header, string, [], (finished later).flatMap Record.bytes, rfl, fun stale => ?_⟩
        have hall : ∀ q ∈ later, q.rank < (configuration header string).rank := hinner
        rw [shown, shown_of_lt hinner, shownLength, if_pos hall]
        rfl
      | interface header string | endpoint descriptor | other record => simp [rank] at hrank
    · obtain ⟨⟨next, found⟩, hlater, hpair⟩ := Option.map_eq_some_iff.mp hopen
      cases hpair
      obtain ⟨header, string, front, rest, hfront, hshown⟩ := ih hlater
      -- A configuration in front is closed, and nothing else shows a length.
      have hsame (stale : Nat) : piece.record (piece.shownLength stale later) (count piece.rank later)
          = piece.record (piece.span later) (count piece.rank later) := by
        by_cases hpiece : piece.rank = 3
        · rw [shownLength, if_neg]
          rw [hpiece]
          exact closed_of_openAt hlater
        · exact record_of_rank_ne_three hpiece _ _ _
      let record := piece.record (piece.span later) (count piece.rank later)
      refine ⟨header, string, record.bytes ++ front, rest, ?_, fun stale => ?_⟩
      · rw [List.length_append, hfront, Record.length_bytes, size_record]
      · rw [shown, List.flatMap_cons, hshown, hsame, List.append_assoc]

/-- A configuration closes the one before it, whose length has to be right by then. -/
theorem shown_concat_configuration (header : ConfigurationHeader) (string : Nat) (pieces : List Piece) :
    shown 0 (pieces ++ [configuration header string])
      = finished pieces ++ [(configuration header string).packed] := by
  induction pieces with
  | nil => rfl
  | cons piece later ih =>
    have hle : piece.rank ≤ 3 := piece.rank_le
    have hnot : ¬∀ p ∈ later ++ [configuration header string], p.rank < piece.rank := by
      intro hall
      have : 3 < piece.rank := hall _ (List.mem_append_right _ (List.mem_singleton_self _))
      omega
    have hinside : inside piece.rank (later ++ [configuration header string]) = inside piece.rank later :=
      inside_concat_of_le hle
    rw [List.cons_append, shown, finished, ih, shownLength, if_neg hnot, span, span, count, count, hinside]
    rfl

theorem shown_of_openAt (h : openAt 3 pieces = some (start, inner)) :
    shown (9 + totalSize inner) pieces = finished pieces := by
  induction pieces generalizing start with
  | nil => cases h
  | cons piece later ih =>
    rw [openAt] at h
    split at h
    · next hopen =>
      obtain ⟨hrank, hinner⟩ := hopen
      obtain ⟨rfl, rfl⟩ := Prod.mk.inj (Option.some.inj h)
      cases piece with
      | configuration header string =>
        have hall : ∀ p ∈ later, p.rank < (configuration header string).rank := hinner
        rw [shown, finished, shown_of_lt hinner, shownLength, if_pos hall, span, inside_of_open hall]
        rfl
      | interface header string | endpoint descriptor | other record => simp [rank] at hrank
    · obtain ⟨⟨next, found⟩, hlater, hpair⟩ := Option.map_eq_some_iff.mp h
      obtain ⟨rfl, rfl⟩ := Prod.mk.inj hpair
      have hsame (n : Nat) : piece.record (piece.shownLength (9 + totalSize found) later) n
          = piece.record (piece.span later) n := by
        by_cases hpiece : piece.rank = 3
        · rw [shownLength, if_neg]
          rw [hpiece]
          exact closed_of_openAt hlater
        · exact record_of_rank_ne_three hpiece _ _ _
      rw [shown, finished, ih hlater, hsame]

/-- All lengths are right if the open one is. -/
theorem shown_openSpan (pieces : List Piece) : shown (openSpan pieces) pieces = finished pieces := by
  unfold openSpan
  cases h : openAt 3 pieces with
  | none => exact shown_of_lt (lt_of_openAt_eq_none h)
  | some found => exact shown_of_openAt h

/-! ## Counts that fit -/

/-- **Lists of pieces that a stream can show.** Every count fits in its byte, and every length that is not open any
    more in its word. -/
def Sound : List Piece → Prop
  | [] => True
  | piece :: later =>
    (2 ≤ piece.rank → count piece.rank later ≤ 255)
      ∧ (piece.rank = 3 → (¬∀ p ∈ later, p.rank < 3) → piece.span later < 0x10000)
      ∧ Sound later

theorem Sound.of_append {before : List Piece} (h : Sound (before ++ later)) : Sound later := by
  induction before with
  | nil => exact h
  | cons first rest ih => exact ih h.2.2

theorem Sound.count_le (h : Sound pieces) (hrank : 2 ≤ rank) (hopen : openAt rank pieces = some (start, inner)) :
    count rank inner ≤ 255 := by
  obtain ⟨before, piece, rfl, rfl, _, _⟩ := exists_of_openAt hopen
  exact h.of_append.1 hrank

/-- A piece below a configuration is added, if its count has room for it. -/
theorem Sound.concat (h : Sound pieces) (hq : q.rank < 3)
    (hroom : 1 ≤ q.rank → ∀ start inner, openAt (q.rank + 1) pieces = some (start, inner) →
      count (q.rank + 1) inner < 255) : Sound (pieces ++ [q]) := by
  induction pieces with
  | nil => exact ⟨fun _ => Nat.zero_le _, fun hthree => absurd hthree (Nat.ne_of_lt hq), trivial⟩
  | cons piece later ih =>
    obtain ⟨hcount, hspan, hlater⟩ := h
    rw [List.cons_append]
    refine ⟨fun htwo => ?_, fun hthree hclosed => ?_, ih hlater fun hone start inner hopen => ?_⟩
    · by_cases hbelow : q.rank + 1 = piece.rank
      · by_cases hopen : ∀ p ∈ later, p.rank < piece.rank
        · have hsome : openAt (q.rank + 1) (piece :: later) = some (0, later) := by
            rw [openAt, hbelow, if_pos ⟨rfl, hopen⟩]
          have := hroom (by omega) 0 later hsome
          rw [count_concat_of_open hopen hbelow, ← hbelow]
          omega
        · unfold count
          rw [inside_append_of_closed hopen]
          exact hcount htwo
      · rw [count_concat_of_ne hbelow]
        exact hcount htwo
    · have hbefore : ¬∀ p ∈ later, p.rank < 3 := fun hall => hclosed (forall_mem_concat hall hq)
      rw [span, hthree, inside_append_of_closed hbefore, ← hthree]
      exact hspan hthree hbefore
    · exact hroom hone _ inner (openAt_cons_of_some hopen piece)

/-- A configuration is added, if the length of the one before it fits. -/
theorem Sound.concat_configuration (h : Sound pieces) (hroom : openSpan pieces < 0x10000)
    (header : ConfigurationHeader) (string : Nat) : Sound (pieces ++ [configuration header string]) := by
  induction pieces with
  | nil => exact ⟨fun _ => Nat.zero_le _, fun _ hclosed => absurd nofun hclosed, trivial⟩
  | cons piece later ih =>
    obtain ⟨hcount, hspan, hlater⟩ := h
    have hinside : inside piece.rank (later ++ [configuration header string]) = inside piece.rank later :=
      inside_concat_of_le piece.rank_le
    rw [List.cons_append]
    refine ⟨fun htwo => ?_, fun hthree _ => ?_, ih hlater ?_⟩
    · rw [count, hinside]
      exact hcount htwo
    · rw [span, hinside]
      by_cases hopen : ∀ p ∈ later, p.rank < 3
      · -- The configuration was open, so its length is the one that has room.
        rw [openSpan, openAt, if_pos ⟨hthree, hopen⟩] at hroom
        rw [inside_of_open (by rwa [hthree])]
        cases piece with
        | configuration other index => exact hroom
        | interface other index | endpoint descriptor | other record => simp [rank] at hthree
      · exact hspan hthree hopen
    · unfold openSpan at hroom ⊢
      cases hopen : openAt 3 later with
      | none => decide
      | some found =>
        rw [openAt_cons_of_some hopen piece] at hroom
        exact hroom

end Piece

end UsbCompiler
