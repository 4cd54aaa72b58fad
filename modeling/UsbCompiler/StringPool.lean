import UsbCompiler.Error

/-!
# `UsbCompiler.StringPool` — string indexes in the order of first use

String indexes are bytes. A pool hands them out to sources in the order in which they are first asked for;
equal sources share an index, and index 0 belongs to the unset source, where the host finds the list of
languages.

## Contents
- `atSigned?`: the element of a list at a position that is counted from either end.
- `StringPool` with `empty`, `index?`, `intern` and `get`.
- `StringPool.getElem?_of_index?`: an index leads back to its source.
-/

namespace UsbCompiler

/-- The element at a position counted from the front or, if negative, from the back. -/
def atSigned? {α : Type} (xs : List α) (index : Int) : Option α :=
  if 0 ≤ index then xs[index.toNat]?
  else if 0 ≤ index + xs.length then xs[(index + xs.length).toNat]?
  else none

@[simp] theorem atSigned?_ofNat {α : Type} (xs : List α) (i : Nat) : atSigned? xs i = xs[i]? := by
  unfold atSigned?
  rw [if_pos (Int.natCast_nonneg i), Int.toNat_natCast]

/-- The sources that have an index, in the order of their indexes. -/
structure StringPool where
  sources : List StringSource
deriving DecidableEq

namespace StringPool

/-- A pool in which only the unset source has an index. -/
def empty : StringPool := ⟨[.unset]⟩

/-- The number of indexes in use. -/
def size (pool : StringPool) : Nat := pool.sources.length

/-- The index of a source, if it has one. -/
def index? (pool : StringPool) (source : StringSource) : Option Nat := pool.sources.idxOf? source

/-- The index of a source, which gets the next one if it has none. Fails if the next one is no byte. -/
def intern (pool : StringPool) (source : StringSource) : Except Error (Nat × StringPool) :=
  match pool.index? source with
  | some index => .ok (index, pool)
  | none =>
    if pool.size ≤ 0xFF then .ok (pool.size, ⟨pool.sources ++ [source]⟩) else .error .tooManyStrings

/-- The pool after giving indexes to several sources in a row. -/
def internAll (pool : StringPool) (sources : List StringSource) : Except Error StringPool :=
  sources.foldlM (fun pool source => (pool.intern source).map Prod.snd) pool

/-- The index of a source that a descriptor is about to show. -/
def lookup (pool : StringPool) (source : StringSource) : Except Error Nat :=
  match pool.index? source with
  | some index => .ok index
  | none => .error (.unknownString source)

/-- The source at an index, which counts from the back if it is negative. -/
def get (pool : StringPool) (index : Int) : Except Error StringSource :=
  match atSigned? pool.sources index with
  | some source => .ok source
  | none => .error .indexRange

/-- An index leads back to its source. -/
theorem getElem?_of_index? {pool : StringPool} {source : StringSource} {index : Nat}
    (h : pool.index? source = some index) : pool.sources[index]? = some source := by
  obtain ⟨bound, found, _⟩ := List.findIdx?_eq_some_iff_getElem.mp h
  rw [List.getElem?_eq_getElem bound, eq_of_beq found]

/-- A source without an index is not in the pool. -/
theorem index?_eq_none_iff {pool : StringPool} {source : StringSource} :
    pool.index? source = none ↔ source ∉ pool.sources := by
  unfold index? List.idxOf?
  rw [List.findIdx?_eq_none_iff]
  constructor
  · intro h mem
    exact absurd (h source mem) (by simp)
  · intro notMem other mem
    exact beq_eq_false_iff_ne.mpr fun same => notMem (same ▸ mem)

end StringPool

end UsbCompiler
