import Mathlib.Algebra.BigOperators.Group.List.Basic
import Mathlib.Algebra.Order.BigOperators.Group.List
import Mathlib.Algebra.Ring.Int.Defs
import UsbCompiler.Proofs.Layout.Accepted
import UsbCompiler.Proofs.Layout.Run

/-!
# `UsbCompiler.Proofs.Layout.Wishes` — what a list of open requests needs

Most callers leave the number of an endpoint open and only say which type, direction and packet size they wish
for. Such a wish can share a slot with one of the other direction. What a list of wishes needs can then be said
without looking at any layout: for each type as many slots as there are wishes in the direction that has more of
them, one slot for each wish with two buffers, and the bytes of all buffers. None of this depends on the order of
the list.

## Contents
- `Endpoint.Request.Open` and `Layout.Wish`, with `Wish.call` and `Wish.bytes`.
- `Wish.singles`, `doubles`, `shares`, `slotsNeeded` and `bytesNeeded`: what a list of wishes needs.
- `Wish.Asks` and `Layout.exists_asks`: the demand of a wish.
- `shares_concat_of_spare`, `shares_concat_of_full`, `shares_concat_of_doubled` and their companions: one more wish.
- `slotsNeeded_mono` and `bytesNeeded_nonneg`: a part of a list needs no more than the list.
- `slotsNeeded_perm`, `bytesNeeded_perm` and their companions: the order of a list does not matter.
-/

namespace UsbCompiler

/-- **Open requests.** Checked requests for endpoints that have all but a number. They are not for control
    endpoints. -/
structure Endpoint.Request.Open (request : Endpoint.Request) : Prop where
  checked : request.Checked
  number : request.number = none
  type : ∃ t : TransferType, t ≠ .control ∧ request.type = some t.code
  direction : ∃ d : Direction, request.direction = some d.code
  maxPacketSize : ∃ packetSize, request.maxPacketSize = some packetSize

theorem Endpoint.Request.open_described (d : Direction) {t : TransferType} (ht : t ≠ .control) {size : Int}
    (hsize : 0 ≤ size ∧ size ≤ 1024) :
    Open { direction := some d.code, type := some t.code, maxPacketSize := some size } :=
  ⟨checked_open d t hsize, rfl, ⟨t, ht, rfl⟩, ⟨d, rfl⟩, ⟨size, rfl⟩⟩

namespace Layout

/-- A request, and whether it is for two buffers. -/
structure Wish where
  request : Endpoint.Request
  doubled : Bool
deriving DecidableEq

namespace Wish

/-- The call that asks for a wish. -/
def call (wish : Wish) : Call := .allocate wish.request wish.doubled

/-- The bytes of the buffers of a wish, one or two of the size that its packets need in its direction. -/
def bytes (wish : Wish) : Int :=
  match wish.request.direction.bind Direction.ofCode?, wish.request.maxPacketSize with
  | some d, some packetSize =>
    match bufferSize d packetSize with
    | .ok size => if wish.doubled then 2 * size else size
    | .error _ => 0
  | _, _ => 0

/-! ## Lists of wishes -/

/-- The number of wishes of a type and direction for one buffer. -/
def singles (wishes : List Wish) (t : TransferType) (d : Direction) : Nat :=
  wishes.countP fun wish =>
    wish.doubled = false ∧ wish.request.type = some t.code ∧ wish.request.direction = some d.code

/-- The number of wishes of a type for two buffers. -/
def doubles (wishes : List Wish) (t : TransferType) : Nat :=
  wishes.countP fun wish => wish.doubled = true ∧ wish.request.type = some t.code

/-- The number of slots of a type that wishes for one buffer need: wishes of opposite directions share. -/
def shares (wishes : List Wish) (t : TransferType) : Nat := max (singles wishes t .toHost) (singles wishes t .toDevice)

/-- The number of slots that wishes need. -/
def slotsNeeded (wishes : List Wish) : Nat :=
  shares wishes .control + shares wishes .isochronous + shares wishes .bulk + shares wishes .interrupt
    + wishes.countP fun wish => wish.doubled

/-- The number of bytes that the buffers of wishes need. -/
def bytesNeeded (wishes : List Wish) : Int := (wishes.map bytes).sum

end Wish

/-! ## The demand of a wish -/

/-- The demand of a wish, in the words of the wish. -/
structure Wish.Asks (wish : Wish) (demand : Demand) : Prop where
  meets : Demand.Meets wish.request wish.doubled demand
  number : demand.number = none
  bytes : wish.bytes = demand.needed
  size : 0 ≤ demand.bufferSize

/-- An open request has a demand. -/
theorem exists_asks {wish : Wish} (h : wish.request.Open) : ∃ demand, wish.Asks demand := by
  obtain ⟨t, hcontrol, htype⟩ := h.type
  obtain ⟨d, hdirection⟩ := h.direction
  obtain ⟨packetSize, hpacket⟩ := h.maxPacketSize
  have hrange := h.checked.inRange.maxPacketSize packetSize hpacket
  obtain ⟨size, hsize⟩ := exists_bufferSize d hrange
  refine ⟨⟨none, t, d, size, wish.doubled⟩, ?_, rfl, ?_, ?_⟩
  · exact ⟨h.number, htype, hdirection, ⟨packetSize, hpacket, hsize⟩, hcontrol, rfl⟩
  · simp only [Wish.bytes, hdirection, Option.bind_some, Direction.ofCode?_code, hpacket, hsize, Demand.needed]
  · have hle := (bufferSize_spec hsize).1
    simp only
    omega

namespace Wish

variable {wish : Wish} {wishes : List Wish} {demand : Demand}

theorem Asks.ofRequest (h : wish.Asks demand) : Demand.ofRequest wish.request wish.doubled = .ok demand :=
  Demand.ofRequest_eq_ok_iff.mpr h.meets

/-- A request has no two demands. -/
theorem Asks.unique (h : wish.Asks demand) {other : Demand} (hother : Demand.Meets wish.request wish.doubled other) :
    other = demand :=
  Except.ok.inj ((Demand.ofRequest_eq_ok_iff.mpr hother).symm.trans h.ofRequest)

theorem Asks.needed_nonneg (h : wish.Asks demand) : 0 ≤ demand.needed := by
  have hsize := h.size
  unfold Demand.needed
  split
  · omega
  · exact hsize

/-! ## One more wish -/

theorem singles_concat (h : wish.Asks demand) (t : TransferType) (d : Direction) :
    singles (wishes ++ [wish]) t d
      = singles wishes t d + if demand.doubled = false ∧ demand.type = t ∧ demand.direction = d then 1 else 0 := by
  simp only [singles, List.countP_append, List.countP_singleton, ← h.meets.doubled, h.meets.type,
    h.meets.direction, Option.some.injEq, TransferType.code_inj, Direction.code_inj, decide_eq_true_eq]

theorem doubles_concat (h : wish.Asks demand) (t : TransferType) :
    doubles (wishes ++ [wish]) t
      = doubles wishes t + if demand.doubled = true ∧ demand.type = t then 1 else 0 := by
  simp only [doubles, List.countP_append, List.countP_singleton, ← h.meets.doubled, h.meets.type,
    Option.some.injEq, TransferType.code_inj, decide_eq_true_eq]

theorem bytesNeeded_concat (h : wish.Asks demand) :
    bytesNeeded (wishes ++ [wish]) = bytesNeeded wishes + demand.needed := by
  simp only [bytesNeeded, List.map_append, List.map_singleton, List.sum_append, List.sum_singleton, h.bytes]

/-- A wish for which fewer wishes are there than slots of its type shares one of them. -/
theorem shares_concat_of_spare (h : wish.Asks demand)
    (hspare : singles wishes demand.type demand.direction < shares wishes demand.type) (t : TransferType) :
    shares (wishes ++ [wish]) t = shares wishes t := by
  unfold shares at hspare ⊢
  rw [singles_concat h, singles_concat h]
  by_cases ht : demand.type = t
  · subst ht
    cases hd : demand.direction with
    | toHost =>
      rw [hd] at hspare
      simp only [reduceCtorEq, and_false, if_false]
      split <;> omega
    | toDevice =>
      rw [hd] at hspare
      simp only [reduceCtorEq, and_false, if_false]
      split <;> omega
  · simp only [ht, false_and, and_false, if_false, Nat.add_zero]

/-- A wish whose direction is taken in all slots of its type needs one more. -/
theorem shares_concat_of_full (h : wish.Asks demand) (hsingle : demand.doubled = false)
    (hfull : singles wishes demand.type demand.direction = shares wishes demand.type) (t : TransferType) :
    shares (wishes ++ [wish]) t = shares wishes t + if demand.type = t then 1 else 0 := by
  unfold shares at hfull ⊢
  rw [singles_concat h, singles_concat h]
  by_cases ht : demand.type = t
  · subst ht
    cases hd : demand.direction with
    | toHost =>
      rw [hd] at hfull
      simp only [hsingle, and_self, reduceCtorEq, and_false, if_false, if_true]
      omega
    | toDevice =>
      rw [hd] at hfull
      simp only [hsingle, and_self, reduceCtorEq, and_false, if_false, if_true]
      omega
  · simp only [ht, false_and, and_false, if_false, Nat.add_zero]

/-- A wish for two buffers shares with nobody. -/
theorem shares_concat_of_doubled (h : wish.Asks demand) (hdoubled : demand.doubled = true) (t : TransferType) :
    shares (wishes ++ [wish]) t = shares wishes t := by
  unfold shares
  rw [singles_concat h, singles_concat h]
  simp only [hdoubled, Bool.true_eq_false, false_and, if_false, Nat.add_zero]

theorem countP_doubled_concat (h : wish.Asks demand) :
    (wishes ++ [wish]).countP (fun wish => wish.doubled)
      = wishes.countP (fun wish => wish.doubled) + if demand.doubled = true then 1 else 0 := by
  simp only [List.countP_append, List.countP_singleton, h.meets.doubled]

theorem slotsNeeded_concat_of_spare (h : wish.Asks demand) (hsingle : demand.doubled = false)
    (hspare : singles wishes demand.type demand.direction < shares wishes demand.type) :
    slotsNeeded (wishes ++ [wish]) = slotsNeeded wishes := by
  unfold slotsNeeded
  rw [countP_doubled_concat h, hsingle, if_neg Bool.false_ne_true]
  simp only [shares_concat_of_spare h hspare, Nat.add_zero]

theorem slotsNeeded_concat_of_full (h : wish.Asks demand) (hsingle : demand.doubled = false)
    (hfull : singles wishes demand.type demand.direction = shares wishes demand.type) :
    slotsNeeded (wishes ++ [wish]) = slotsNeeded wishes + 1 := by
  unfold slotsNeeded
  rw [countP_doubled_concat h, hsingle, if_neg Bool.false_ne_true]
  simp only [shares_concat_of_full h hsingle hfull]
  -- Exactly one of the four types is the one of the wish.
  cases demand.type <;> simp only [reduceCtorEq, if_true, if_false] <;> omega

theorem slotsNeeded_concat_of_doubled (h : wish.Asks demand) (hdoubled : demand.doubled = true) :
    slotsNeeded (wishes ++ [wish]) = slotsNeeded wishes + 1 := by
  unfold slotsNeeded
  rw [countP_doubled_concat h, if_pos hdoubled]
  simp only [shares_concat_of_doubled h hdoubled]
  omega

/-! ## Parts and orders of lists -/

/-- A part of a list needs no more slots than the list. -/
theorem slotsNeeded_mono (xs ys : List Wish) : slotsNeeded xs ≤ slotsNeeded (xs ++ ys) := by
  have hshares (t : TransferType) : shares xs t ≤ shares (xs ++ ys) t := by
    simp only [shares, singles, List.countP_append]
    omega
  have hcontrol := hshares .control
  have hisochronous := hshares .isochronous
  have hbulk := hshares .bulk
  have hinterrupt := hshares .interrupt
  simp only [slotsNeeded, List.countP_append]
  omega

theorem bytesNeeded_nonneg (hopen : ∀ wish ∈ wishes, wish.request.Open) : 0 ≤ bytesNeeded wishes := by
  apply List.sum_nonneg
  intro bytes hbytes
  obtain ⟨wish, hwish, rfl⟩ := List.mem_map.mp hbytes
  obtain ⟨demand, hasks⟩ := exists_asks (hopen wish hwish)
  rw [hasks.bytes]
  exact hasks.needed_nonneg

theorem bytesNeeded_append (xs ys : List Wish) : bytesNeeded (xs ++ ys) = bytesNeeded xs + bytesNeeded ys := by
  simp only [bytesNeeded, List.map_append, List.sum_append]

section Perm

variable {xs ys : List Wish}

theorem shares_perm (h : xs.Perm ys) (t : TransferType) : shares xs t = shares ys t := by
  simp only [shares, singles, h.countP_eq]

theorem doubles_perm (h : xs.Perm ys) (t : TransferType) : doubles xs t = doubles ys t :=
  h.countP_eq _

theorem slotsNeeded_perm (h : xs.Perm ys) : slotsNeeded xs = slotsNeeded ys := by
  simp only [slotsNeeded, shares_perm h, h.countP_eq]

theorem bytesNeeded_perm (h : xs.Perm ys) : bytesNeeded xs = bytesNeeded ys :=
  (h.map bytes).sum_eq

end Perm

end Wish

end Layout

end UsbCompiler
