import UsbCompiler.Proofs.Lists
import UsbCompiler.Proofs.Results
import UsbCompiler.StringPool

/-!
# `UsbCompiler.Proofs.StringPool` — pools are lists of first occurrences

A pool only ever grows by a source that it does not have. The sources of a pool are therefore all that were
asked for, each at its first occurrence, and the index of a source is its place among them.

## Contents
- `StringPool.index?_of_mem`: the index of a source of the pool.
- `StringPool.intern_of_mem`, `intern_of_room`, `intern_of_full`: the three ways in which interning can end.
- `StringPool.intern_eq_ok_iff`, `internAll_eq_ok_iff`: first occurrences, as long as they fit.
- `StringPool.internAll_empty_eq_ok_iff`: a pool from its start.
-/

namespace UsbCompiler.StringPool

variable {pool next : StringPool} {source : StringSource} {past sources : List StringSource}

/-- A source of the pool has its place as index. -/
theorem index?_of_mem (h : source ∈ pool.sources) : pool.index? source = some (pool.sources.idxOf source) := by
  have hsome : pool.index? source ≠ none := fun hnone => index?_eq_none_iff.mp hnone h
  obtain ⟨index, hindex⟩ := Option.ne_none_iff_exists'.mp hsome
  rw [List.idxOf_eq_getD_idxOf?]
  unfold index? at hindex ⊢
  rw [hindex, Option.getD_some]

/-! ## Interning -/

theorem intern_of_mem (h : source ∈ pool.sources) : pool.intern source = .ok (pool.sources.idxOf source, pool) := by
  unfold intern
  rw [index?_of_mem h]

theorem intern_of_room (h : source ∉ pool.sources) (hroom : pool.size < 256) :
    pool.intern source = .ok (pool.size, ⟨pool.sources ++ [source]⟩) := by
  unfold intern
  rw [index?_eq_none_iff.mpr h]
  exact if_pos (Nat.le_of_lt_succ hroom)

theorem intern_of_full (h : source ∉ pool.sources) (hfull : 256 ≤ pool.size) :
    pool.intern source = .error .tooManyStrings := by
  unfold intern
  rw [index?_eq_none_iff.mpr h]
  exact if_neg (by omega)

/-- The next index is the place of a source that is added at the end. -/
theorem idxOf_concat_of_notMem (h : source ∉ pool.sources) :
    (pool.sources ++ [source]).idxOf source = pool.size := by
  rw [List.idxOf_append_of_notMem h, List.idxOf_cons_self, Nat.add_zero, size]

/-- A source is interned exactly if it is there or fits, and then it is at its first occurrence. -/
theorem intern_eq_ok_iff {index : Nat} (hpool : pool.sources = past.eraseDups)
    (hsmall : past.eraseDups.length ≤ 256) :
    pool.intern source = .ok (index, next)
      ↔ (past ++ [source]).eraseDups.length ≤ 256
        ∧ next = ⟨(past ++ [source]).eraseDups⟩ ∧ index = next.sources.idxOf source := by
  have hmem : source ∈ pool.sources ↔ source ∈ past := by rw [hpool, List.mem_eraseDups]
  rw [eraseDups_concat]
  by_cases hthere : source ∈ past
  · rw [intern_of_mem (hmem.mpr hthere), if_pos hthere, ← hpool]
    simp only [Except.ok.injEq, Prod.mk.injEq]
    constructor
    · rintro ⟨rfl, rfl⟩
      exact ⟨hpool ▸ hsmall, rfl, rfl⟩
    · rintro ⟨_, rfl, rfl⟩
      exact ⟨rfl, rfl⟩
  · have habsent : source ∉ pool.sources := fun h => hthere (hmem.mp h)
    rw [if_neg hthere, ← hpool, List.length_append, List.length_singleton]
    by_cases hroom : pool.size < 256
    · rw [intern_of_room habsent hroom, Except.ok.injEq, Prod.mk.injEq]
      constructor
      · rintro ⟨rfl, rfl⟩
        exact ⟨hroom, rfl, (idxOf_concat_of_notMem habsent).symm⟩
      · rintro ⟨_, rfl, rfl⟩
        exact ⟨(idxOf_concat_of_notMem habsent).symm, rfl⟩
    · rw [intern_of_full habsent (Nat.not_lt.mp hroom)]
      exact ⟨nofun, fun h => absurd h.1 hroom⟩

theorem eq_of_intern_eq_error {e : Error} (h : pool.intern source = .error e) : e = .tooManyStrings := by
  unfold intern at h
  split at h
  · cases h
  · split at h
    · cases h
    · exact (Except.error.inj h).symm

/-- Sources are interned exactly if all first occurrences fit. -/
theorem internAll_eq_ok_iff (hpool : pool.sources = past.eraseDups) (hsmall : past.eraseDups.length ≤ 256) :
    pool.internAll sources = .ok next
      ↔ (past ++ sources).eraseDups.length ≤ 256 ∧ next = ⟨(past ++ sources).eraseDups⟩ := by
  induction sources generalizing pool past with
  | nil =>
    rw [List.append_nil, ← hpool]
    constructor
    · intro h
      cases h
      exact ⟨hpool ▸ hsmall, rfl⟩
    · rintro ⟨_, rfl⟩
      rfl
  | cons source rest ih =>
    have hassoc : past ++ source :: rest = (past ++ [source]) ++ rest := List.append_cons past source rest
    unfold internAll at ih ⊢
    rw [List.foldlM_cons, bind_eq_ok_iff, hassoc]
    constructor
    · rintro ⟨middle, hmiddle, hrest⟩
      obtain ⟨⟨index, interned⟩, hintern, rfl⟩ := map_eq_ok_iff.mp hmiddle
      obtain ⟨hfits, rfl, _⟩ := (intern_eq_ok_iff hpool hsmall).mp hintern
      exact (ih rfl hfits).mp hrest
    · rintro ⟨hfits, rfl⟩
      have hfirst := Nat.le_trans (length_eraseDups_le (past ++ [source]) rest) hfits
      refine ⟨⟨(past ++ [source]).eraseDups⟩, ?_, (ih rfl hfirst).mpr ⟨hfits, rfl⟩⟩
      exact map_eq_ok_iff.mpr ⟨_, (intern_eq_ok_iff hpool hsmall).mpr ⟨hfirst, rfl, rfl⟩, rfl⟩

/-- A pool from its start has the unset source and behind it all that were asked for. -/
theorem internAll_empty_eq_ok_iff :
    empty.internAll sources = .ok next
      ↔ (.unset :: sources).eraseDups.length ≤ 256 ∧ next = ⟨(.unset :: sources).eraseDups⟩ :=
  @internAll_eq_ok_iff empty next [.unset] sources (by decide) (by decide)

end UsbCompiler.StringPool
