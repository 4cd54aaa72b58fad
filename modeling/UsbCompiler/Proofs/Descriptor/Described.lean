import UsbCompiler.Device.Compiled
import UsbCompiler.Proofs.Descriptor.Steps
import UsbCompiler.Proofs.StringPool

/-!
# `UsbCompiler.Proofs.Descriptor.Described` — exactly when a configuration can be written

The configuration descriptor of a device is written in nested loops, which only ever add pieces. Each loop succeeds
exactly if its pieces can be written and are admitted, and as the pieces of a description follow a simple pattern,
what they ask of each other comes down to three bounds: on the endpoints of an interface, on the interfaces and on
the number of bytes.

## Contents
- `Interface.pieces` and `Interface.size`: what is written for an interface.
- `Interface.Writable`: what its own numbers have to satisfy, with `Writable.describes`.
- `Interface.allPieces`: what is written for several interfaces.
- `Stream.writeExtras_ofPieces_eq_ok_iff`, `writeEndpoints_ofPieces_eq_ok_iff`, `writeInterface_ofPieces_eq_ok_iff` and
  `writeInterfaces_ofPieces_eq_ok_iff`: the loops.
- `Description.size`, `head` and `blocks`, with `configurationDescriptor_eq_ok_iff` and `split?_records`: the whole.
-/

namespace UsbCompiler

/-! ## Pieces of an interface -/

namespace Piece

variable {q : Piece} {pieces more later low rest inner : List Piece} {rank start : Nat}

theorem openAt_append_of_lt (h : ∀ p ∈ more, p.rank < rank) :
    openAt rank (pieces ++ more) = (openAt rank pieces).map fun (start, inner) => (start, inner ++ more) := by
  induction more generalizing pieces with
  | nil =>
    have hsame : (fun found : Nat × List Piece => (found.1, found.2 ++ [])) = id := by
      funext found
      rw [List.append_nil]
      rfl
    rw [List.append_nil, hsame, Option.map_id, id]
  | cons q rest ih =>
    obtain ⟨hq, hrest⟩ := List.forall_mem_cons.mp h
    have hassoc (inner : List Piece) : inner ++ [q] ++ rest = inner ++ q :: rest := (List.append_cons inner q rest).symm
    rw [← hassoc, ih hrest, openAt_concat_of_lt hq, Option.map_map]
    apply Option.map_congr
    intro found _
    exact congrArg (Prod.mk found.1) (hassoc found.2)

theorem count_of_open (h : ∀ p ∈ later, p.rank < rank) : count rank later = later.countP (·.rank + 1 = rank) := by
  rw [count, inside_of_open h]

theorem count_append_of_open (hlater : ∀ p ∈ later, p.rank < rank) (hmore : ∀ p ∈ more, p.rank < rank) :
    count rank (later ++ more) = count rank later + count rank more := by
  rw [count_of_open hlater, count_of_open hmore, count_of_open (List.forall_mem_append.mpr ⟨hlater, hmore⟩),
    List.countP_append]

/-- Endpoints and other pieces are added as far as the count of the interface that is open has room. -/
theorem Sound.append_low (h : Sound pieces) (hlow : ∀ p ∈ low, p.rank ≤ 1)
    (hopen : openAt 2 pieces = some (start, inner)) (hroom : count 2 inner + count 2 low ≤ 255) :
    Sound (pieces ++ low) := by
  induction low generalizing pieces inner with
  | nil =>
    rw [List.append_nil]
    exact h
  | cons q rest ih =>
    obtain ⟨hq, hrest⟩ := List.forall_mem_cons.mp hlow
    have hqlt : q.rank < 2 := Nat.lt_succ_of_le hq
    have hrestlt : ∀ p ∈ rest, p.rank < 2 := fun p hp => Nat.lt_succ_of_le (hrest p hp)
    obtain ⟨_, _, _, _, hinner, _⟩ := exists_of_openAt hopen
    have hself : ∀ p ∈ [q], p.rank < 2 := List.forall_mem_singleton.mpr hqlt
    -- The count of the rest starts where the count with this piece ends.
    have hsplit : count 2 (q :: rest) = count 2 [q] + count 2 rest := @count_append_of_open rest [q] 2 hself hrestlt
    have hconcat : count 2 (inner ++ [q]) = count 2 inner + count 2 [q] := count_append_of_open hinner hself
    have hadmits : Admits pieces q := by
      by_cases hzero : q.rank = 0
      · exact admits_of_rank_eq_zero hzero
      · have hone : q.rank + 1 = 2 := by omega
        have hcount : count 2 [q] = 1 := by
          rw [count_of_open hself, List.countP_singleton, if_pos (decide_eq_true hone)]
        exact (admits_iff_of_openAt hone (by decide) hopen).mpr (by omega)
    have hnext : openAt 2 (pieces ++ [q]) = some (start, inner ++ [q]) := by
      rw [openAt_concat_of_lt hqlt, hopen]
      rfl
    rw [List.append_cons]
    exact ih (h.concat_of_admits hadmits) hrest hnext (by omega)

/-- Pieces without counts are there as they are packed. -/
theorem finished_append_of_le_one (h : ∀ p ∈ low, p.rank ≤ 1) :
    finished (low ++ rest) = low.map packed ++ finished rest := by
  induction low with
  | nil => rfl
  | cons p low ih =>
    obtain ⟨hp, hlow⟩ := List.forall_mem_cons.mp h
    rw [List.cons_append, finished, ih hlow, record_of_rank_le_one hp]
    rfl

end Piece

namespace Interface

variable {interface : Interface} {string : Nat}

/-- The pieces of an interface behind its own. -/
def parts (interface : Interface) : List Piece :=
  interface.extras.map (.other ·.record) ++ interface.endpoints.map .endpoint

/-- The pieces that are written for an interface, given the index of its string. -/
def pieces (interface : Interface) (string : Nat) : List Piece := .interface interface.header string :: interface.parts

/-- The number of bytes that are written for an interface. -/
def size (interface : Interface) : Nat :=
  9 + (interface.extras.map (2 + ·.data.length)).sum + 7 * interface.endpoints.length

/-- **Interfaces that can be written**: every number fits in its field, every other descriptor in its record, and the
    number of endpoints in its count. -/
structure Writable (interface : Interface) (string : Nat) : Prop where
  header : ∀ field ∈ interface.header.counted string 0, field.Fits
  extras : ∀ extra ∈ interface.extras, extra.data.length ≤ 253 ∧ 0 ≤ extra.type ∧ extra.type < 0x100
  endpoints : ∀ descriptor ∈ interface.endpoints, ∀ field ∈ descriptor.fields, field.Fits
  length : interface.endpoints.length ≤ 255

theorem rank_le_one_of_mem_parts : ∀ p ∈ interface.parts, p.rank ≤ 1 := by
  refine List.forall_mem_append.mpr ⟨?_, ?_⟩
  · rw [List.forall_mem_map]
    exact fun _ _ => Nat.zero_le 1
  · rw [List.forall_mem_map]
    exact fun _ _ => Nat.le_refl 1

theorem rank_lt_three_of_mem_pieces : ∀ p ∈ interface.pieces string, p.rank < 3 := by
  refine List.forall_mem_cons.mpr ⟨show 2 < 3 by decide, fun p hp => ?_⟩
  have := interface.rank_le_one_of_mem_parts p hp
  omega

theorem count_others (extras : List ExtraDescriptor) : Piece.count 2 (extras.map (.other ·.record)) = 0 := by
  have hlow : ∀ p ∈ extras.map (Piece.other ·.record), p.rank < 2 := by
    rw [List.forall_mem_map]
    exact fun _ _ => Nat.zero_lt_two
  rw [Piece.count_of_open hlow, List.countP_map, List.countP_eq_zero]
  intro extra _
  show ¬decide (0 + 1 = 2) = true
  decide

/-- Among the pieces of an interface, the endpoints are counted for it. -/
theorem count_parts : Piece.count 2 interface.parts = interface.endpoints.length := by
  have hlow : ∀ p ∈ interface.parts, p.rank < 2 := fun p hp =>
    Nat.lt_succ_of_le (interface.rank_le_one_of_mem_parts p hp)
  obtain ⟨hothers, hendpoints⟩ := List.forall_mem_append.mp hlow
  rw [parts, Piece.count_append_of_open hothers hendpoints, count_others, Piece.count_of_open hendpoints,
    List.countP_map, Nat.zero_add, List.countP_eq_length]
  exact fun _ _ => rfl

/-- Among the pieces of an interface, itself is counted for the configuration. -/
theorem count_pieces : Piece.count 3 (interface.pieces string) = 1 := by
  rw [Piece.count_of_open interface.rank_lt_three_of_mem_pieces, pieces, List.countP_cons_of_pos (by rfl)]
  have hnone : interface.parts.countP (fun p => decide (p.rank + 1 = 3)) = 0 := by
    rw [List.countP_eq_zero]
    intro p hp
    have := interface.rank_le_one_of_mem_parts p hp
    simp only [decide_eq_true_eq]
    omega
  rw [hnone]

theorem totalSize_pieces : Piece.totalSize (interface.pieces string) = interface.size := by
  have hextras : (interface.extras.map (Piece.size ∘ fun extra => .other extra.record)).sum
      = (interface.extras.map (2 + ·.data.length)).sum := by
    congr 1
    apply List.map_congr_left
    intro extra _
    exact Nat.add_comm extra.data.length 2
  have hendpoints : (interface.endpoints.map (Piece.size ∘ Piece.endpoint)).sum = 7 * interface.endpoints.length := by
    have hseven : Piece.size ∘ Piece.endpoint = fun _ => 7 := rfl
    rw [hseven, List.map_const', List.sum_replicate_nat, Nat.mul_comm]
  unfold Piece.totalSize pieces parts size
  rw [List.map_cons, List.map_append, List.map_map, List.map_map, List.sum_cons, List.sum_append, hextras, hendpoints]
  have hnine : Piece.size (.interface interface.header string) = 9 := rfl
  rw [hnine, Nat.add_assoc]

/-- The records of an interface that can be written describe it. -/
theorem Writable.describes {strings : StringPool} (h : interface.Writable string)
    (hstring : strings.index? interface.header.string = some string) :
    (interface.records string).Describes interface strings :=
  interface.describes_records hstring (InterfaceHeader.fits_counted h.header h.length)
    (fun extra hextra => (h.extras extra hextra).2) h.endpoints

/-- All records of an interface that can be written have room for their size. -/
theorem Writable.size_le (h : interface.Writable string) :
    ∀ record ∈ (interface.records string).all, record.size ≤ 255 := by
  refine List.forall_mem_cons.mpr ⟨show 9 ≤ 255 by decide, List.forall_mem_append.mpr ⟨?_, ?_⟩⟩
  · refine List.forall_mem_map.mpr fun extra hextra => ?_
    show extra.data.length + 2 ≤ 255
    have := (h.extras extra hextra).1
    omega
  · refine List.forall_mem_map.mpr fun descriptor _ => ?_
    show 7 ≤ 255
    decide

/-- The records of an interface, in front of another one or at the end. -/
theorem finished_pieces_append {rest : List Piece} (hrest : ∀ p ∈ rest.head?, 2 ≤ p.rank) :
    Piece.finished (interface.pieces string ++ rest) = (interface.records string).all ++ Piece.finished rest := by
  have hlow := interface.rank_le_one_of_mem_parts
  have hcount : Piece.count 2 (interface.parts ++ rest) = interface.endpoints.length := by
    have hstop : Piece.inside 2 rest = [] := by
      cases rest with
      | nil => rfl
      | cons p later =>
        have hp : ¬p.rank < 2 := Nat.not_lt.mpr (hrest p rfl)
        exact List.takeWhile_cons_of_neg fun hlt => hp (of_decide_eq_true hlt)
    have hinside : Piece.inside 2 (interface.parts ++ rest) = interface.parts ++ Piece.inside 2 rest :=
      List.takeWhile_append_of_pos fun p hp => decide_eq_true (Nat.lt_succ_of_le (hlow p hp))
    have hself : Piece.inside 2 interface.parts = interface.parts :=
      Piece.inside_of_open fun p hp => Nat.lt_succ_of_le (hlow p hp)
    rw [Piece.count, hinside, hstop, List.append_nil, ← hself]
    exact count_parts
  have hparts : interface.parts.map Piece.packed
      = (interface.records string).extras ++ (interface.records string).endpoints := by
    unfold parts
    rw [List.map_append, List.map_map, List.map_map]
    rfl
  rw [pieces, List.cons_append, Piece.finished, Piece.finished_append_of_le_one hlow, hparts]
  show Piece.record _ (Piece.count 2 (interface.parts ++ rest)) _ :: _ = _
  rw [hcount]
  rfl

/-- With its interface, all that belongs to it is admitted as far as the count of endpoints goes. -/
theorem sound_append_pieces {pieces inner : List Piece} {start : Nat} (hpieces : Piece.Sound pieces)
    (hopen : Piece.openAt 3 pieces = some (start, inner)) (hroom : Piece.count 3 inner < 255)
    (hlength : interface.endpoints.length ≤ 255) (string : Nat) : Piece.Sound (pieces ++ interface.pieces string) := by
  have hadmits : Piece.Admits pieces (.interface interface.header string) :=
    (Piece.admits_iff_of_openAt (show Piece.rank (.interface interface.header string) + 1 = 3 from rfl)
      (by decide) hopen).mpr hroom
  have hself := @Piece.openAt_concat_self (.interface interface.header string) pieces
  rw [Interface.pieces, List.append_cons]
  refine (hpieces.concat_of_admits hadmits).append_low interface.rank_le_one_of_mem_parts hself ?_
  rw [count_parts]
  exact (Nat.zero_add _).trans_le hlength

/-! ## Several interfaces -/

section Several

variable {strings : StringPool}

/-- The pieces of several interfaces, whose strings have their places in a pool as indexes. -/
def allPieces (strings : StringPool) (interfaces : List Interface) : List Piece :=
  interfaces.flatMap fun interface => interface.pieces (strings.sources.idxOf interface.header.string)

theorem allPieces_cons (strings : StringPool) (interface : Interface) (rest : List Interface) :
    allPieces strings (interface :: rest)
      = interface.pieces (strings.sources.idxOf interface.header.string) ++ allPieces strings rest := List.flatMap_cons

theorem rank_lt_three_of_mem_allPieces {interfaces : List Interface} :
    ∀ p ∈ allPieces strings interfaces, p.rank < 3 := by
  intro p hp
  obtain ⟨interface, _, hp⟩ := List.mem_flatMap.mp hp
  exact interface.rank_lt_three_of_mem_pieces p hp

theorem totalSize_allPieces (interfaces : List Interface) :
    Piece.totalSize (allPieces strings interfaces) = (interfaces.map size).sum := by
  induction interfaces with
  | nil => rfl
  | cons interface rest ih =>
    rw [allPieces_cons, Piece.totalSize_append, ih, totalSize_pieces, List.map_cons, List.sum_cons]

theorem count_allPieces (interfaces : List Interface) :
    Piece.count 3 (allPieces strings interfaces) = interfaces.length := by
  induction interfaces with
  | nil => rfl
  | cons interface rest ih =>
    rw [allPieces_cons, Piece.count_append_of_open interface.rank_lt_three_of_mem_pieces
      rank_lt_three_of_mem_allPieces, ih, count_pieces, List.length_cons, Nat.add_comm]

theorem finished_allPieces (interfaces : List Interface) :
    Piece.finished (allPieces strings interfaces)
      = interfaces.flatMap fun interface => (interface.records (strings.sources.idxOf interface.header.string)).all := by
  induction interfaces with
  | nil => rfl
  | cons interface rest ih =>
    rw [allPieces_cons, List.flatMap_cons, finished_pieces_append, ih]
    -- What follows is another interface or nothing.
    intro p hp
    cases rest with
    | nil => cases hp
    | cons next others =>
      cases hp
      exact Nat.le_refl 2

end Several

end Interface

namespace Stream

variable {stream next : Stream} {pieces inner : List Piece} {start stale string : Nat} {strings : StringPool}

/-! ## Loops -/

/-- Other descriptors are written exactly if all of them fit. -/
theorem writeExtras_ofPieces_eq_ok_iff {extras : List ExtraDescriptor} :
    extras.foldlM (fun stream extra => (stream.writeExtra extra).commit) (ofPieces stale pieces) = .ok next
      ↔ (∀ extra ∈ extras, extra.data.length ≤ 253 ∧ 0 ≤ extra.type ∧ extra.type < 0x100)
        ∧ next = ofPieces stale (pieces ++ extras.map (.other ·.record)) := by
  induction extras generalizing pieces with
  | nil =>
    rw [List.map_nil, List.append_nil]
    exact ⟨fun h => ⟨List.forall_mem_nil _, (Except.ok.inj h).symm⟩, fun h => congrArg Except.ok h.2.symm⟩
  | cons extra rest ih =>
    have hstep (middle : Stream) : ((ofPieces stale pieces).writeExtra extra).commit = .ok middle
        ↔ extra.data.length ≤ 253 ∧ (0 ≤ extra.type ∧ extra.type < 0x100)
          ∧ middle = ofPieces stale (pieces ++ [.other extra.record]) := writeRecord_ofPieces_eq_ok_iff
    rw [List.foldlM_cons, bind_eq_ok_iff, List.forall_mem_cons, List.map_cons, List.append_cons]
    constructor
    · rintro ⟨middle, hextra, hrest⟩
      obtain ⟨hsmall, htype, rfl⟩ := (hstep middle).mp hextra
      obtain ⟨hall, rfl⟩ := ih.mp hrest
      exact ⟨⟨⟨hsmall, htype⟩, hall⟩, rfl⟩
    · rintro ⟨⟨⟨hsmall, htype⟩, hall⟩, rfl⟩
      exact ⟨_, (hstep _).mpr ⟨hsmall, htype, rfl⟩, ih.mpr ⟨hall, rfl⟩⟩

/-- Endpoints are written exactly if all of them fit and their interface has room in its count. -/
theorem writeEndpoints_ofPieces_eq_ok_iff {endpoints : List Endpoint.Descriptor} (hpieces : Piece.Sound pieces)
    (hopen : Piece.openAt 2 pieces = some (start, inner)) :
    endpoints.foldlM (fun stream endpoint => (stream.writeEndpoint endpoint).commit) (ofPieces stale pieces) = .ok next
      ↔ (∀ descriptor ∈ endpoints, ∀ field ∈ descriptor.fields, field.Fits)
        ∧ Piece.count 2 inner + endpoints.length ≤ 255
        ∧ next = ofPieces stale (pieces ++ endpoints.map .endpoint) := by
  induction endpoints generalizing pieces inner with
  | nil =>
    have hcount : Piece.count 2 inner + ([] : List Endpoint.Descriptor).length ≤ 255 :=
      hpieces.count_le (Nat.le_refl 2) hopen
    rw [List.map_nil, List.append_nil]
    exact ⟨fun h => ⟨List.forall_mem_nil _, hcount, (Except.ok.inj h).symm⟩, fun h => congrArg Except.ok h.2.2.symm⟩
  | cons descriptor rest ih =>
    have hadmits : Piece.Admits pieces (.endpoint descriptor) ↔ Piece.count 2 inner < 255 :=
      Piece.admits_iff_of_openAt (show 1 + 1 = 2 from rfl) (by decide) hopen
    obtain ⟨_, _, _, _, hinner, _⟩ := Piece.exists_of_openAt hopen
    have hnext : Piece.openAt 2 (pieces ++ [.endpoint descriptor]) = some (start, inner ++ [.endpoint descriptor]) := by
      rw [Piece.openAt_concat_of_lt (show 1 < 2 by decide), hopen]
      rfl
    have hcount : Piece.count 2 (inner ++ [.endpoint descriptor]) = Piece.count 2 inner + 1 :=
      Piece.count_concat_of_open hinner rfl
    rw [List.foldlM_cons, bind_eq_ok_iff, List.forall_mem_cons, List.map_cons, List.append_cons, List.length_cons]
    constructor
    · rintro ⟨middle, hfirst, hrest⟩
      obtain ⟨hfits, hroom, rfl⟩ := (writeEndpoint_ofPieces_eq_ok_iff hpieces).mp hfirst
      obtain ⟨hall, hlength, rfl⟩ := (ih (hpieces.concat_of_admits hroom) hnext).mp hrest
      exact ⟨⟨hfits, hall⟩, by omega, rfl⟩
    · rintro ⟨⟨hfits, hall⟩, hlength, rfl⟩
      have hroom := hadmits.mpr (by omega)
      exact ⟨_, (writeEndpoint_ofPieces_eq_ok_iff hpieces).mpr ⟨hfits, hroom, rfl⟩,
        (ih (hpieces.concat_of_admits hroom) hnext).mpr ⟨hall, by omega, rfl⟩⟩

/-- **An interface is written** exactly if it can be and the configuration has room in its count. -/
theorem writeInterface_ofPieces_eq_ok_iff {interface : Interface} (hpieces : Piece.Sound pieces)
    (hopen : Piece.openAt 3 pieces = some (start, inner))
    (hstring : strings.index? interface.header.string = some string) :
    Description.writeInterface strings (ofPieces stale pieces) interface = .ok next
      ↔ interface.Writable string ∧ Piece.count 3 inner < 255
        ∧ next = ofPieces stale (pieces ++ interface.pieces string) := by
  have hadmits : Piece.Admits pieces (.interface interface.header string) ↔ Piece.count 3 inner < 255 :=
    Piece.admits_iff_of_openAt (show 2 + 1 = 3 from rfl) (by decide) hopen
  let begun := pieces ++ [.interface interface.header string]
  let extended := begun ++ interface.extras.map (.other ·.record)
  have hbegun : Piece.openAt 2 begun = some (Piece.totalSize pieces, []) :=
    @Piece.openAt_concat_self (.interface interface.header string) pieces
  have hothers : ∀ p ∈ interface.extras.map (Piece.other ·.record), p.rank < 2 := by
    rw [List.forall_mem_map]
    exact fun _ _ => Nat.zero_lt_two
  have hextended : Piece.openAt 2 extended
      = some (Piece.totalSize pieces, interface.extras.map (.other ·.record)) := by
    rw [Piece.openAt_append_of_lt hothers, hbegun]
    rfl
  have hsound (h : Piece.Admits pieces (.interface interface.header string)) :
      Piece.Sound begun ∧ Piece.Sound extended := by
    have hfirst : Piece.Sound begun := hpieces.concat_of_admits h
    refine ⟨hfirst, hfirst.append_low (fun p hp => Nat.le_of_lt_succ (hothers p hp)) hbegun ?_⟩
    rw [Interface.count_others]
    decide
  have hall : extended ++ interface.endpoints.map .endpoint = pieces ++ interface.pieces string := by
    rw [Interface.pieces, Interface.parts, List.append_cons, ← List.append_assoc]
  unfold Description.writeInterface
  rw [bind_eq_ok_iff, ← hall]
  constructor
  · rintro ⟨_, hbegin, hrest⟩
    obtain ⟨_, hextras, hendpoints⟩ := bind_eq_ok_iff.mp hrest
    obtain ⟨index, hindex, hheader, hroom, rfl⟩ := (beginInterface_ofPieces_eq_ok_iff hpieces).mp hbegin
    rw [hstring] at hindex
    cases hindex
    obtain ⟨hextra, rfl⟩ := writeExtras_ofPieces_eq_ok_iff.mp hextras
    obtain ⟨hfits, hlength, rfl⟩ := (writeEndpoints_ofPieces_eq_ok_iff (hsound hroom).2 hextended).mp hendpoints
    rw [Interface.count_others, Nat.zero_add] at hlength
    exact ⟨⟨hheader, hextra, hfits, hlength⟩, hadmits.mp hroom, rfl⟩
  · rintro ⟨hwritable, hcount, rfl⟩
    have hroom := hadmits.mpr hcount
    refine ⟨_, (beginInterface_ofPieces_eq_ok_iff hpieces).mpr ⟨string, hstring, hwritable.header, hroom, rfl⟩, ?_⟩
    refine bind_eq_ok_iff.mpr ⟨_, writeExtras_ofPieces_eq_ok_iff.mpr ⟨hwritable.extras, rfl⟩, ?_⟩
    refine (writeEndpoints_ofPieces_eq_ok_iff (hsound hroom).2 hextended).mpr ⟨hwritable.endpoints, ?_, rfl⟩
    rw [Interface.count_others, Nat.zero_add]
    exact hwritable.length

/-- **All interfaces are written** exactly if each can be and there are no more than the configuration can count. -/
theorem writeInterfaces_ofPieces_eq_ok_iff {interfaces : List Interface} (hpieces : Piece.Sound pieces)
    (hopen : Piece.openAt 3 pieces = some (start, inner))
    (hstrings : ∀ interface ∈ interfaces, interface.header.string ∈ strings.sources) :
    interfaces.foldlM (Description.writeInterface strings) (ofPieces stale pieces) = .ok next
      ↔ (∀ interface ∈ interfaces, interface.Writable (strings.sources.idxOf interface.header.string))
        ∧ Piece.count 3 inner + interfaces.length ≤ 255
        ∧ next = ofPieces stale (pieces ++ Interface.allPieces strings interfaces) := by
  induction interfaces generalizing pieces inner with
  | nil =>
    have hcount : Piece.count 3 inner + ([] : List Interface).length ≤ 255 := hpieces.count_le (by decide) hopen
    have hempty : Interface.allPieces strings [] = [] := rfl
    rw [hempty, List.append_nil]
    exact ⟨fun h => ⟨List.forall_mem_nil _, hcount, (Except.ok.inj h).symm⟩, fun h => congrArg Except.ok h.2.2.symm⟩
  | cons interface rest ih =>
    obtain ⟨hstring, hrest⟩ := List.forall_mem_cons.mp hstrings
    have hindex := StringPool.index?_of_mem hstring
    obtain ⟨_, _, _, _, hinner, _⟩ := Piece.exists_of_openAt hopen
    have hlow : ∀ p ∈ interface.pieces (strings.sources.idxOf interface.header.string), p.rank < 3 :=
      interface.rank_lt_three_of_mem_pieces
    have hnext : Piece.openAt 3 (pieces ++ interface.pieces (strings.sources.idxOf interface.header.string))
        = some (start, inner ++ interface.pieces (strings.sources.idxOf interface.header.string)) := by
      rw [Piece.openAt_append_of_lt hlow, hopen]
      rfl
    have hcount : Piece.count 3 (inner ++ interface.pieces (strings.sources.idxOf interface.header.string))
        = Piece.count 3 inner + 1 := by
      rw [Piece.count_append_of_open hinner hlow, Interface.count_pieces]
    rw [List.foldlM_cons, bind_eq_ok_iff, List.forall_mem_cons, Interface.allPieces_cons, ← List.append_assoc,
      List.length_cons]
    constructor
    · rintro ⟨middle, hfirst, hfold⟩
      obtain ⟨hwritable, hroom, rfl⟩ := (writeInterface_ofPieces_eq_ok_iff hpieces hopen hindex).mp hfirst
      have hsound := Interface.sound_append_pieces hpieces hopen hroom hwritable.length
        (strings.sources.idxOf interface.header.string)
      obtain ⟨hall, hlength, rfl⟩ := (ih hsound hnext hrest).mp hfold
      exact ⟨⟨hwritable, hall⟩, by omega, rfl⟩
    · rintro ⟨⟨hwritable, hall⟩, hlength, rfl⟩
      have hroom : Piece.count 3 inner < 255 := by omega
      have hsound := Interface.sound_append_pieces hpieces hopen hroom hwritable.length
        (strings.sources.idxOf interface.header.string)
      exact ⟨_, (writeInterface_ofPieces_eq_ok_iff hpieces hopen hindex).mpr ⟨hwritable, hroom, rfl⟩,
        (ih hsound hnext hrest).mpr ⟨hall, by omega, rfl⟩⟩

end Stream

namespace Description

variable {description : Description} {strings : StringPool}

/-! ## The whole descriptor -/

/-- The number of bytes of a configuration descriptor with all that belongs to it. -/
def size (description : Description) : Nat := 9 + (description.interfaces.map Interface.size).sum

/-- The records of the interfaces, each with all that belongs to it. -/
def blocks (description : Description) (strings : StringPool) : List InterfaceRecords :=
  description.interfaces.map fun interface => interface.records (strings.sources.idxOf interface.header.string)

/-- The record of the configuration with its length and the number of its interfaces. -/
def head (description : Description) (strings : StringPool) : Record :=
  StandardDescriptor.configuration.record (description.configuration.counted
    (strings.sources.idxOf description.configuration.string) description.size description.interfaces.length)

/-- The records of a description with the counts of what follows. -/
theorem finished_pieces (string : Nat) :
    Piece.finished
        (.configuration description.configuration string :: Interface.allPieces strings description.interfaces)
      = StandardDescriptor.configuration.record
          (description.configuration.counted string description.size description.interfaces.length)
        :: (description.blocks strings).flatMap InterfaceRecords.all := by
  have hinside : Piece.inside 3 (Interface.allPieces strings description.interfaces)
      = Interface.allPieces strings description.interfaces :=
    Piece.inside_of_open Interface.rank_lt_three_of_mem_allPieces
  have hspan : Piece.span (.configuration description.configuration string)
      (Interface.allPieces strings description.interfaces) = description.size := by
    show 9 + Piece.totalSize (Piece.inside 3 (Interface.allPieces strings description.interfaces)) = description.size
    rw [hinside, Interface.totalSize_allPieces, size]
  have hblocks : (description.blocks strings).flatMap InterfaceRecords.all
      = Piece.finished (Interface.allPieces strings description.interfaces) := by
    rw [blocks, List.flatMap_map, Interface.finished_allPieces]
  rw [Piece.finished, hspan, hblocks]
  show Piece.record description.size (Piece.count 3 (Interface.allPieces strings description.interfaces)) _ :: _ = _
  rw [Interface.count_allPieces]
  rfl

/-- **The configuration descriptor.** It can be written exactly if the configuration and each interface can be, there
    are no more interfaces than it can count and no more bytes than its length can tell. -/
theorem configurationDescriptor_eq_ok_iff (hknown : ∀ source ∈ description.stringSources, source ∈ strings.sources)
    {bytes : Bytes} :
    description.configurationDescriptor strings = .ok bytes
      ↔ (∀ field ∈ description.configuration.counted (strings.sources.idxOf description.configuration.string) 0 0,
          field.Fits)
        ∧ (∀ interface ∈ description.interfaces,
          interface.Writable (strings.sources.idxOf interface.header.string))
        ∧ description.interfaces.length ≤ 255 ∧ description.size < 0x10000
        ∧ bytes = (description.head strings :: (description.blocks strings).flatMap InterfaceRecords.all).flatMap
          Record.bytes := by
  have hstring := StringPool.index?_of_mem (hknown description.configuration.string (by simp [stringSources]))
  have hstrings : ∀ interface ∈ description.interfaces, interface.header.string ∈ strings.sources := by
    intro interface hinterface
    exact hknown _ (List.mem_append_right _ (List.mem_map_of_mem hinterface))
  let first : Piece := .configuration description.configuration
    (strings.sources.idxOf description.configuration.string)
  have hsound : Piece.Sound [first] := ⟨fun _ => Nat.zero_le _, fun _ hclosed => absurd nofun hclosed, trivial⟩
  have hopen : Piece.openAt 3 [first] = some (0, []) := @Piece.openAt_concat_self first []
  have hspan : Piece.openSpan (first :: Interface.allPieces strings description.interfaces) = description.size := by
    have hlow := @Interface.rank_lt_three_of_mem_allPieces strings description.interfaces
    rw [Piece.openSpan, Piece.openAt, if_pos ⟨rfl, hlow⟩, size, ← Interface.totalSize_allPieces]
  have hfinished : Piece.finished (first :: Interface.allPieces strings description.interfaces)
      = description.head strings :: (description.blocks strings).flatMap InterfaceRecords.all := finished_pieces _
  have hcount : Piece.count 3 ([] : List Piece) = 0 := rfl
  unfold configurationDescriptor
  rw [bind_eq_ok_iff, ← hfinished]
  constructor
  · rintro ⟨_, hbegin, hrest⟩
    obtain ⟨_, hinterfaces, hcomplete⟩ := bind_eq_ok_iff.mp hrest
    obtain ⟨index, hindex, hfits, _, rfl⟩ := (@Stream.beginConfiguration_ofPieces_eq_ok_iff _ [] 0 _ _).mp hbegin
    rw [hstring] at hindex
    cases hindex
    obtain ⟨hall, hlength, rfl⟩ := (Stream.writeInterfaces_ofPieces_eq_ok_iff hsound hopen hstrings).mp hinterfaces
    obtain ⟨hroom, rfl⟩ := Stream.complete_ofPieces_eq_ok_iff.mp hcomplete
    rw [hcount, Nat.zero_add] at hlength
    exact ⟨hfits, hall, hlength, hspan ▸ hroom, rfl⟩
  · rintro ⟨hfits, hall, hlength, hroom, rfl⟩
    refine ⟨_, (@Stream.beginConfiguration_ofPieces_eq_ok_iff _ [] 0 _ _).mpr ⟨_, hstring, hfits, ?_, rfl⟩, ?_⟩
    · exact ⟨fun _ => by decide, fun _ hless => absurd hless (by simp [Piece.rank])⟩
    · refine bind_eq_ok_iff.mpr ⟨_, (Stream.writeInterfaces_ofPieces_eq_ok_iff hsound hopen hstrings).mpr
        ⟨hall, ?_, rfl⟩, Stream.complete_ofPieces_eq_ok_iff.mpr ⟨hspan.symm ▸ hroom, rfl⟩⟩
      rw [hcount, Nat.zero_add]
      exact hlength

/-- The bytes of a configuration descriptor are cut where its records begin. -/
theorem split?_records (h : ∀ interface ∈ description.interfaces,
    interface.Writable (strings.sources.idxOf interface.header.string)) :
    Record.split? ((description.head strings :: (description.blocks strings).flatMap InterfaceRecords.all).flatMap
        Record.bytes)
      = some (description.head strings :: (description.blocks strings).flatMap InterfaceRecords.all) := by
  refine Record.split?_flatMap_bytes (List.forall_mem_cons.mpr ⟨show 9 ≤ 255 by decide, fun record hrecord => ?_⟩)
  obtain ⟨records, hrecords, hrecord⟩ := List.mem_flatMap.mp hrecord
  obtain ⟨interface, hinterface, rfl⟩ := List.mem_map.mp hrecords
  exact (h interface hinterface).size_le record hrecord

end Description

end UsbCompiler
