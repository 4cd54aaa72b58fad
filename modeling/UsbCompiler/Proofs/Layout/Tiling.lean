import Mathlib.Algebra.Ring.Int.Defs
import UsbCompiler.Proofs.Layout.Effect

/-!
# `UsbCompiler.Proofs.Layout.Tiling` — packet memory is handed out without gaps

Memory is taken from both ends. What a single call takes continues the table upwards and the buffers downwards,
and leaves the two ends in order; such advances compose, so a whole run is one advance from empty memory. That
regions are disjoint, aligned and complete is then read off one chain of entries and one chain of buffers.

## Contents
- `Region.Disjoint`, `Climbs` and `Descends`: chains of regions.
- `PacketMemory.Advances`, with `refl`, `trans` and one lemma for each reservation.
- `Layout.advances_of_effect` and `Layout.run_advances`: what a call and what a run does to memory.
-/

namespace UsbCompiler

/-! ## Chains of regions -/

/-- One region ends before the other begins. -/
def Region.Disjoint (a b : Region) : Prop := a.address + a.size ≤ b.address ∨ b.address + b.size ≤ a.address

theorem Region.Disjoint.symm {a b : Region} (h : a.Disjoint b) : b.Disjoint a := Or.symm h

/-- Table entries of 8 bytes in a row, from `start` up to `stop`. -/
def Climbs : Int → List Region → Int → Prop
  | start, [], stop => stop = start
  | start, entry :: rest, stop => entry = ⟨start, 8⟩ ∧ Climbs (start + 8) rest stop

/-- Buffers of even sizes, each of which ends where the one before it begins, from `top` down to `bottom`. -/
def Descends : Int → List Region → Int → Prop
  | top, [], bottom => bottom = top
  | top, buffer :: rest, bottom =>
    buffer.address + buffer.size = top ∧ 0 ≤ buffer.size ∧ buffer.size % 2 = 0
      ∧ Descends buffer.address rest bottom

theorem Climbs.append {start middle stop : Int} {xs ys : List Region}
    (hxs : Climbs start xs middle) (hys : Climbs middle ys stop) : Climbs start (xs ++ ys) stop := by
  induction xs generalizing start with
  | nil =>
    cases hxs
    exact hys
  | cons entry rest ih => exact ⟨hxs.1, ih hxs.2⟩

theorem Descends.append {top middle bottom : Int} {xs ys : List Region}
    (hxs : Descends top xs middle) (hys : Descends middle ys bottom) : Descends top (xs ++ ys) bottom := by
  induction xs generalizing top with
  | nil =>
    cases hxs
    exact hys
  | cons buffer rest ih => exact ⟨hxs.1, hxs.2.1, hxs.2.2.1, ih hxs.2.2.2⟩

/-- A chain of entries is determined by where it starts and by its length. -/
theorem Climbs.eq_map {start stop : Int} {entries : List Region} (h : Climbs start entries stop) :
    entries = (List.range entries.length).map (fun i : Nat => ⟨start + 8 * i, 8⟩)
      ∧ stop = start + 8 * entries.length := by
  induction entries generalizing start with
  | nil =>
    cases h
    exact ⟨rfl, by simp⟩
  | cons entry rest ih =>
    obtain ⟨rfl, hrest⟩ := h
    obtain ⟨hlist, hstop⟩ := ih hrest
    constructor
    · rw [List.length_cons, List.range_succ_eq_map, List.map_cons, List.map_map]
      refine congrArg₂ List.cons (by simp) ?_
      -- The rest of the table starts one entry further up.
      conv => lhs; rw [hlist]
      apply List.map_congr_left
      intro i _
      simp only [Function.comp_apply, Region.mk.injEq, and_true]
      omega
    · rw [hstop, List.length_cons]
      omega

theorem Climbs.bounds {start stop : Int} {entries : List Region} (h : Climbs start entries stop) :
    start ≤ stop ∧ ∀ entry ∈ entries, start ≤ entry.address ∧ entry.address + entry.size ≤ stop := by
  induction entries generalizing start with
  | nil =>
    cases h
    exact ⟨Int.le_refl _, nofun⟩
  | cons entry rest ih =>
    obtain ⟨rfl, hrest⟩ := h
    obtain ⟨hle, hall⟩ := ih hrest
    refine ⟨by omega, fun e he => ?_⟩
    rcases List.mem_cons.mp he with rfl | he
    · exact ⟨Int.le_refl _, hle⟩
    · have := hall e he
      exact ⟨by omega, this.2⟩

theorem Descends.bounds {top bottom : Int} {buffers : List Region} (h : Descends top buffers bottom) :
    bottom ≤ top ∧ ∀ buffer ∈ buffers, bottom ≤ buffer.address ∧ 0 ≤ buffer.size
      ∧ buffer.address + buffer.size ≤ top := by
  induction buffers generalizing top with
  | nil =>
    cases h
    exact ⟨Int.le_refl _, nofun⟩
  | cons buffer rest ih =>
    obtain ⟨hend, hsize, _, hrest⟩ := h
    obtain ⟨hle, hall⟩ := ih hrest
    refine ⟨by omega, fun b hb => ?_⟩
    rcases List.mem_cons.mp hb with rfl | hb
    · exact ⟨hle, hsize, by omega⟩
    · have := hall b hb
      exact ⟨this.1, this.2.1, by omega⟩

/-- From an even top, the whole chain is even. -/
theorem Descends.even {top bottom : Int} {buffers : List Region} (h : Descends top buffers bottom)
    (htop : top % 2 = 0) :
    bottom % 2 = 0 ∧ ∀ buffer ∈ buffers, buffer.address % 2 = 0 ∧ buffer.size % 2 = 0 := by
  induction buffers generalizing top with
  | nil =>
    cases h
    exact ⟨htop, nofun⟩
  | cons buffer rest ih =>
    obtain ⟨hend, _, hsize, hrest⟩ := h
    have haddress : buffer.address % 2 = 0 := by omega
    obtain ⟨hbottom, hall⟩ := ih hrest haddress
    exact ⟨hbottom, List.forall_mem_cons.mpr ⟨⟨haddress, hsize⟩, hall⟩⟩

theorem Climbs.pairwise {start stop : Int} {entries : List Region} (h : Climbs start entries stop) :
    entries.Pairwise Region.Disjoint := by
  induction entries generalizing start with
  | nil => exact .nil
  | cons entry rest ih =>
    obtain ⟨rfl, hrest⟩ := h
    exact .cons (fun e he => .inl (hrest.bounds.2 e he).1) (ih hrest)

theorem Descends.pairwise {top bottom : Int} {buffers : List Region} (h : Descends top buffers bottom) :
    buffers.Pairwise Region.Disjoint := by
  induction buffers generalizing top with
  | nil => exact .nil
  | cons buffer rest ih =>
    obtain ⟨_, _, _, hrest⟩ := h
    exact .cons (fun b hb => .inr (hrest.bounds.2 b hb).2.2) (ih hrest)

/-- The sizes of a chain of buffers add up to what lies between its ends. -/
theorem Descends.sum_size {top bottom : Int} {buffers : List Region} (h : Descends top buffers bottom) :
    (buffers.map Region.size).sum = top - bottom := by
  induction buffers generalizing top with
  | nil =>
    cases h
    simp
  | cons buffer rest ih =>
    obtain ⟨hend, _, _, hrest⟩ := h
    rw [List.map_cons, List.sum_cons, ih hrest]
    omega

/-! ## Advances of memory -/

namespace PacketMemory

variable {memory middle rest : PacketMemory} {size : Int}

/-- Memory from which entries and buffers have been taken in a row, with the two ends still in order. -/
structure Advances (memory : PacketMemory) (entries buffers : List Region) (rest : PacketMemory) : Prop where
  climbs : Climbs memory.tableEnd entries rest.tableEnd
  descends : Descends memory.bufferStart buffers rest.bufferStart
  room : 0 ≤ memory.free → 0 ≤ rest.free

namespace Advances

theorem refl (memory : PacketMemory) : memory.Advances [] [] memory :=
  ⟨rfl, rfl, id⟩

theorem trans {entries buffers moreEntries moreBuffers : List Region}
    (h : memory.Advances entries buffers middle) (h' : middle.Advances moreEntries moreBuffers rest) :
    memory.Advances (entries ++ moreEntries) (buffers ++ moreBuffers) rest :=
  ⟨h.climbs.append h'.climbs, h.descends.append h'.descends, fun hfree => h'.room (h.room hfree)⟩

theorem entry (h : memory.HasEntry) : memory.Advances [memory.nextEntry] [] memory.afterEntry where
  climbs := ⟨rfl, rfl⟩
  descends := rfl
  room := fun _ => by
    have hroom := h.room
    rw [free_afterEntry]
    omega

theorem buffer (hsize : 0 ≤ size) (h : evenCeil size ≤ memory.free) :
    memory.Advances [] [memory.nextBuffer size] (memory.afterBuffer size) where
  climbs := rfl
  descends := by
    refine ⟨?_, ?_, evenCeil_emod_two size, rfl⟩
    · simp only [nextBuffer]
      omega
    · have := (le_evenCeil size).1
      simp only [nextBuffer]
      omega
  room := fun _ => by rw [free_afterBuffer]; omega

end Advances

end PacketMemory

/-- The buffers of a demand, one or two, are taken in a row. -/
theorem Demand.advances_reserved {demand : Demand} {memory : PacketMemory} (hsize : 0 ≤ demand.bufferSize)
    (hfits : demand.Fits memory) :
    memory.Advances [] (demand.reserved memory) (demand.remaining memory) := by
  have hfirst := PacketMemory.Advances.buffer hsize hfits.1
  by_cases hd : demand.doubled = true
  · have hroom : evenCeil demand.bufferSize ≤ (memory.afterBuffer demand.bufferSize).free := by
      have := hfits.2 hd
      rw [PacketMemory.free_afterBuffer]
      omega
    simp only [reserved, remaining, hd, if_true]
    exact hfirst.trans (PacketMemory.Advances.buffer hsize hroom)
  · have hd : demand.doubled = false := by simpa using hd
    rw [reserved_of_single hd, remaining_of_single hd]
    exact hfirst

namespace Layout

variable {layout after : Layout} {call : Call} {receipt : Receipt}

/-- Buffers of a checked request have no negative size. -/
theorem bufferSize_nonneg {request : Endpoint.Request} {doubled : Bool} {demand : Demand}
    (hchecked : request.Checked) (hmeets : Demand.Meets request doubled demand) : 0 ≤ demand.bufferSize := by
  obtain ⟨packetSize, hsize, hbuffer⟩ := hmeets.size
  have hpositive := (hchecked.inRange.maxPacketSize packetSize hsize).1
  have := (bufferSize_spec hbuffer).1
  omega

/-- **What a call does to memory.** It takes the entries and buffers on its receipt and nothing else. -/
theorem advances_of_effect (hchecked : call.Checked) (h : Effect layout call after receipt) :
    layout.memory.Advances receipt.entries receipt.buffers after.memory := by
  cases h with
  | refuse => exact .refl layout.memory
  | share position hmeets hsize hjoins hfits =>
    exact Demand.advances_reserved (bufferSize_nonneg hchecked hmeets) hfits
  | extend hmeets hsize hunused hfew hentry hfits =>
    have hbuffers := Demand.advances_reserved (bufferSize_nonneg hchecked hmeets) hfits
    exact (PacketMemory.Advances.entry hentry).trans hbuffers
  | control hsize habsent haligned hroom =>
    -- One check covers the entry and both buffers, which are then taken one by one.
    obtain ⟨hpositive, hentry, hfirst, hsecond⟩ := control_fits hsize haligned hroom
    have hbuffers := (PacketMemory.Advances.buffer hpositive hfirst).trans
      (PacketMemory.Advances.buffer hpositive hsecond)
    exact (PacketMemory.Advances.entry hentry).trans hbuffers
  | bare hnumber hfew hentry => exact .entry hentry
  | entry hentry => exact .entry hentry
  | buffer hroom => exact .buffer hchecked hroom

/-- A run of checked calls takes, all in all, what its receipts say. -/
theorem run_advances {calls : List Call} (hcalls : ∀ call ∈ calls, call.Checked) (layout : Layout) :
    layout.memory.Advances ((layout.receipts calls).flatMap Receipt.entries)
      ((layout.receipts calls).flatMap Receipt.buffers) (layout.run calls).memory := by
  refine run_induction
    (fun after past => layout.memory.Advances (past.flatMap Receipt.entries)
      (past.flatMap Receipt.buffers) after.memory)
    Call.Checked ?_ hcalls [] (.refl layout.memory)
  intro middle past call hcall hpast
  rw [List.flatMap_append, List.flatMap_append, List.flatMap_singleton, List.flatMap_singleton]
  exact hpast.trans (advances_of_effect hcall (effect_perform middle call))

end Layout

end UsbCompiler
