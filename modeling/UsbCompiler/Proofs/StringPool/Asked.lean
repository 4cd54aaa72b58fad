import UsbCompiler.Proofs.Runs
import UsbCompiler.Proofs.StringPool

/-!
# `UsbCompiler.Proofs.StringPool.Asked` — pools that are asked again and again

Whoever writes descriptors asks a pool for one index after another, and goes on after a refusal. Sources that are
new, sources that came before and sources that found no room can follow each other in any order. All of it comes
down to one list: the first occurrences of what was asked for, cut off after 256. The list only grows at its end,
so an index that was given out once stands for its source ever after.

## Contents
- `StringPool.ask` and `StringPool.asked`: a request for an index, and the pool after several of them.
- `StringPool.ask_cases`: a request is answered from the pool, adds its source, or is refused.
- `StringPool.asked_eq`: the sources of the pool.
- `StringPool.Answers` and `StringPool.asked_answers`: what each request got and what it stands for later.
-/

namespace UsbCompiler.StringPool

variable {pool earlier : StringPool} {source : StringSource}

/-- Asks for the index of a source. A pool that refuses stays as it is. -/
def ask (pool : StringPool) (source : StringSource) : Outcome StringPool Nat :=
  match pool.intern source with
  | .ok (index, next) => .ok next index
  | .error error => .fail pool error

/-- The pool after requests for several sources, refused ones included. -/
def asked (sources : List StringSource) : StringPool := Outcome.run ask empty sources

/-! ## One request -/

theorem ask_of_mem (h : source ∈ pool.sources) : pool.ask source = .ok pool (pool.sources.idxOf source) := by
  rw [ask, intern_of_mem h]

theorem ask_of_room (h : source ∉ pool.sources) (hroom : pool.size < 256) :
    pool.ask source = .ok ⟨pool.sources ++ [source]⟩ pool.size := by
  rw [ask, intern_of_room h hroom]

theorem ask_of_full (h : source ∉ pool.sources) (hfull : 256 ≤ pool.size) :
    pool.ask source = .fail pool .tooManyStrings := by
  rw [ask, intern_of_full h hfull]

/-- The three ways in which a request can end. -/
theorem ask_cases (pool : StringPool) (source : StringSource) :
    source ∈ pool.sources ∧ pool.ask source = .ok pool (pool.sources.idxOf source)
      ∨ (source ∉ pool.sources ∧ pool.size < 256) ∧ pool.ask source = .ok ⟨pool.sources ++ [source]⟩ pool.size
      ∨ (source ∉ pool.sources ∧ 256 ≤ pool.size) ∧ pool.ask source = .fail pool .tooManyStrings := by
  by_cases hmem : source ∈ pool.sources
  · exact .inl ⟨hmem, ask_of_mem hmem⟩
  · by_cases hroom : pool.size < 256
    · exact .inr (.inl ⟨⟨hmem, hroom⟩, ask_of_room hmem hroom⟩)
    · exact .inr (.inr ⟨⟨hmem, Nat.not_lt.mp hroom⟩, ask_of_full hmem (Nat.not_lt.mp hroom)⟩)

/-- Look-up finds an index exactly if a request for it would be answered from the pool. -/
theorem index?_eq_some_iff {index : Nat} : pool.index? source = some index ↔ pool.ask source = .ok pool index := by
  rcases ask_cases pool source with ⟨hmem, hask⟩ | ⟨⟨hmem, _⟩, hask⟩ | ⟨⟨hmem, _⟩, hask⟩
  · rw [index?_of_mem hmem, hask]
    simp only [Option.some.injEq, Outcome.ok, Outcome.mk.injEq, true_and, Except.ok.injEq]
  · rw [index?_eq_none_iff.mpr hmem, hask]
    refine ⟨nofun, fun h => ?_⟩
    -- The pool has grown by a source that it did not have.
    have hsame : (⟨pool.sources ++ [source]⟩ : StringPool) = pool := congrArg Outcome.state h
    have hthere : source ∈ pool.sources := by
      rw [← hsame]
      exact List.mem_append_right _ List.mem_cons_self
    exact absurd hthere hmem
  · rw [index?_eq_none_iff.mpr hmem, hask]
    exact ⟨nofun, nofun⟩

/-- A source that got an index is in the pool after the request, at this index. -/
theorem idxOf_of_ask_eq_ok {index : Nat} (h : (pool.ask source).result = .ok index) :
    source ∈ (pool.ask source).state.sources ∧ (pool.ask source).state.sources.idxOf source = index := by
  rcases ask_cases pool source with ⟨hmem, hask⟩ | ⟨⟨hmem, _⟩, hask⟩ | ⟨_, hask⟩
  · rw [hask] at h ⊢
    cases h
    exact ⟨hmem, rfl⟩
  · rw [hask] at h ⊢
    cases h
    exact ⟨List.mem_append_right _ List.mem_cons_self, idxOf_concat_of_notMem hmem⟩
  · rw [hask] at h
    cases h

/-- A pool is refused a source exactly if it is full and does not have it. -/
theorem ask_eq_error_iff : (∃ e, (pool.ask source).result = .error e) ↔ source ∉ pool.sources ∧ 256 ≤ pool.size := by
  rcases ask_cases pool source with ⟨hmem, hask⟩ | ⟨⟨hmem, hroom⟩, hask⟩ | ⟨hrefused, hask⟩
  · rw [hask]
    exact ⟨fun ⟨_, h⟩ => (by cases h), fun h => absurd hmem h.1⟩
  · rw [hask]
    exact ⟨fun ⟨_, h⟩ => (by cases h), fun h => absurd hroom (Nat.not_lt.mpr h.2)⟩
  · rw [hask]
    exact ⟨fun _ => hrefused, fun _ => ⟨_, rfl⟩⟩

/-! ## Many requests -/

/-- One more request, seen from all that were made before. -/
theorem state_ask (past : List StringSource) (source : StringSource) :
    (ask ⟨past.eraseDups.take 256⟩ source).state = ⟨(past ++ [source]).eraseDups.take 256⟩ := by
  rw [take_eraseDups_concat]
  rcases ask_cases ⟨past.eraseDups.take 256⟩ source with ⟨hmem, hask⟩ | ⟨⟨hmem, hroom⟩, hask⟩ | ⟨⟨_, hfull⟩, hask⟩
  · rw [hask, if_pos (.inl hmem)]
    rfl
  · rw [hask, if_neg]
    · rfl
    · rintro (hthere | hfull)
      · exact hmem hthere
      · exact absurd hroom (Nat.not_lt.mpr hfull)
  · rw [hask, if_pos (.inr hfull)]
    rfl

theorem run_ask (past sources : List StringSource) :
    Outcome.run ask ⟨past.eraseDups.take 256⟩ sources = ⟨(past ++ sources).eraseDups.take 256⟩ := by
  induction sources generalizing past with
  | nil => rw [List.append_nil, Outcome.run]
  | cons source rest ih => rw [Outcome.run, state_ask, ih, ← List.append_cons]

/-- **The sources of a pool** are the first occurrences of what was asked for, as far as there is room for them. -/
theorem asked_eq (sources : List StringSource) : asked sources = ⟨(.unset :: sources).eraseDups.take 256⟩ :=
  run_ask [.unset] sources

/-- More requests add sources at the end and nowhere else. -/
theorem asked_append (before after : List StringSource) :
    (asked before).sources <+: (asked (before ++ after)).sources := by
  rw [asked_eq, asked_eq, ← List.cons_append, List.eraseDups_append, List.take_append]
  exact List.prefix_append _ _

theorem nodup_asked (sources : List StringSource) : (asked sources).sources.Nodup := by
  rw [asked_eq]
  exact (nodup_eraseDups _).sublist (List.take_sublist _ _)

theorem size_asked (sources : List StringSource) : (asked sources).size ≤ 256 := by
  rw [asked_eq]
  exact List.length_take_le _ _

theorem asked_concat (before : List StringSource) (source : StringSource) :
    asked (before ++ [source]) = ((asked before).ask source).state :=
  Outcome.run_append before [source]

/-! ## What the indexes stand for -/

/-- **A request and its answer**, seen from a `later` pool. It was refused exactly if the pool was full and did not
    have the source, and then nothing happened. The index that it got otherwise is the place of the source in the
    later pool, where look-up and a new request find it. -/
structure Answers (pool : StringPool) (source : StringSource) (later : StringPool) : Prop where
  refused : (∃ e, (pool.ask source).result = .error e) ↔ source ∉ pool.sources ∧ pool.size = 256
  unchanged : ∀ e, (pool.ask source).result = .error e → e.kind = .configuration ∧ (pool.ask source).state = pool
  place : ∀ index, (pool.ask source).result = .ok index → later.sources.idxOf source = index
  holds : ∀ index : Nat, (pool.ask source).result = .ok index → later.get index = .ok source
  again : ∀ index, (pool.ask source).result = .ok index →
    later.index? source = some index ∧ later.ask source = .ok later index

/-- A pool that has grown at its end still answers a request as it did before. -/
theorem answers_of_prefix {later : StringPool} (hsize : pool.size ≤ 256)
    (hlater : (pool.ask source).state.sources <+: later.sources) : pool.Answers source later := by
  have hfound {index : Nat} (h : (pool.ask source).result = .ok index) :
      later.sources.idxOf source = index ∧ later.index? source = some index := by
    obtain ⟨hmem, hplace⟩ := idxOf_of_ask_eq_ok h
    rw [hlater.idxOf_eq_of_mem hmem] at hplace
    refine ⟨hplace, ?_⟩
    rw [index?_of_mem (hlater.subset hmem), hplace]
  refine ⟨?_, ?_, fun index h => (hfound h).1, ?_, fun index h => ⟨(hfound h).2, index?_eq_some_iff.mp (hfound h).2⟩⟩
  · rw [ask_eq_error_iff]
    exact and_congr_right fun _ => ⟨fun hfull => Nat.le_antisymm hsize hfull, fun hfull => Nat.le_of_eq hfull.symm⟩
  · intro e he
    have hask := ask_of_full (ask_eq_error_iff.mp ⟨e, he⟩).1 (ask_eq_error_iff.mp ⟨e, he⟩).2
    rw [hask] at he ⊢
    cases he
    exact ⟨rfl, rfl⟩
  · intro index h
    rw [get, atSigned?_ofNat, getElem?_of_index? (hfound h).2]

/-- **Whatever is asked for, in whatever order.** The sources of the pool are the first 256 of the unset source and
    the sources that were asked for, without later duplicates. Index 0 is unset, look-up agrees with requests,
    and each request on the way has been answered for good. -/
theorem asked_answers (sources : List StringSource) :
    let pool := asked sources
    pool.sources = (.unset :: sources).eraseDups.take 256
      ∧ pool.sources.Nodup
      ∧ pool.get 0 = .ok .unset
      ∧ (∀ source index, pool.index? source = some index ↔ pool.ask source = .ok pool index)
      ∧ ∀ before source after, sources = before ++ source :: after → (asked before).Answers source pool := by
  intro pool
  refine ⟨congrArg StringPool.sources (asked_eq sources), nodup_asked sources, ?_, fun _ _ => index?_eq_some_iff, ?_⟩
  · have hpool : pool.sources = (.unset :: sources).eraseDups.take 256 := congrArg StringPool.sources (asked_eq sources)
    rw [List.eraseDups_cons, List.take_succ_cons] at hpool
    show pool.get (0 : Nat) = .ok .unset
    rw [get, atSigned?_ofNat, hpool, List.getElem?_cons_zero]
  · intro before source after hsplit
    have hlater := asked_append (before ++ [source]) after
    rw [asked_concat, ← List.append_cons, ← hsplit] at hlater
    exact answers_of_prefix (size_asked before) hlater

/-- After 255 external strings the pool is full: a literal one is refused, and a request for the first external string
    is answered with index 1 as before. -/
theorem asked_answers_full :
    let filled := .external 0 :: (List.range 254).map fun n : Nat => .external (n + 1)
    let pool := asked (filled ++ [.literal "late", .external 0])
    (∃ e, ((asked filled).ask (.literal "late")).result = .error e)
      ∧ pool.index? (.external 0) = some 1 ∧ pool.ask (.external 0) = .ok pool 1 ∧ pool.get 1 = .ok (.external 0) := by
  intro filled pool
  obtain ⟨_, _, _, _, hanswers⟩ := asked_answers (filled ++ [.literal "late", .external 0])
  have hlate : (asked filled).Answers (.literal "late") pool := hanswers filled (.literal "late") [.external 0] rfl
  have hfirst : (asked []).Answers (.external 0) pool := hanswers [] (.external 0) _ rfl
  -- The external strings are distinct, so all of them are there.
  have hdistinct : (.unset :: filled).Nodup := by
    simp only [filled, List.nodup_cons, List.mem_cons, List.mem_map, reduceCtorEq, and_false, exists_false, or_self,
      not_false_eq_true, true_and, StringSource.external.injEq]
    refine ⟨fun ⟨n, _, hn⟩ => by omega, List.nodup_range.map fun n m h => ?_⟩
    have hsame := StringSource.external.inj h
    omega
  have hlength : (.unset :: filled).length = 256 := by
    simp only [filled, List.length_cons, List.length_map, List.length_range]
  have hsources : asked filled = ⟨.unset :: filled⟩ := by
    rw [asked_eq, eraseDups_of_nodup hdistinct, List.take_of_length_le (Nat.le_of_eq hlength)]
  have hfull : .literal "late" ∉ (asked filled).sources ∧ (asked filled).size = 256 := by
    rw [hsources]
    refine ⟨?_, hlength⟩
    simp only [filled, List.mem_cons, List.mem_map, reduceCtorEq, and_false, exists_false, or_self, not_false_eq_true]
  exact ⟨hlate.refused.mpr hfull, (hfirst.again 1 rfl).1, (hfirst.again 1 rfl).2, hfirst.holds 1 rfl⟩

end UsbCompiler.StringPool
