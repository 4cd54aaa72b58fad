import Mathlib.Data.List.Forall2
import Mathlib.Data.List.Induction
import Mathlib.Data.List.Nodup
import Mathlib.Data.List.Perm.Basic

/-!
# `UsbCompiler.Proofs.Lists` — counting what the elements of a list hold

Slots and interfaces are changed in place, by something that they did not hold before. What all of them hold
together then grows by just that.

## Contents
- `forall_mem_concat`, `forall_mem_set`: what holds of all elements, after one more or another one.
- `getElem?_concat_cases`, `getElem?_set_cases`: what stands in a place, after one more or another one.
- `map_set_of_eq`, `flatMap_set_of_eq`, `countP_set_of_eq`, `countP_set_of_pos`, `perm_flatMap_set`: replacing an
  element by one that has the same, or that holds more.
- `filterMap_concat`: the values of elements that have one, after one more element.
- `span_append`: elements taken from the front as long as they have a property.
- `flatMap_flatMap_perm`, `flatMap_ite_of_nodup`: counting by rows and columns.
- `find?_of_nodup_map`, `findFinIdx?_of_nodup_map`, `countP_of_nodup_map`: look-up by a key that no two elements
  share.
- `map_eq_of_forall₂`, `flatMap_eq_of_forall₂`, `getElem?_of_forall₂`, `exists_of_forall₂`, `find?_of_forall₂`,
  `exists_forall₂`: lists that go in step.
- `eq_of_sorted_of_filter_eq`: lists in the order of a key.
- `lookup_zipIdx`: look-up by place.
- `eraseDups_concat`, `take_eraseDups_concat`, `nodup_eraseDups`, `eraseDups_of_nodup`, `length_eraseDups_le`: lists
  without later duplicates.
-/

namespace UsbCompiler

variable {α β γ : Type}

/-! ## Adding and replacing elements -/

theorem forall_mem_concat {p : α → Prop} {xs : List α} {y : α} (h : ∀ x ∈ xs, p x) (hy : p y) :
    ∀ x ∈ xs ++ [y], p x :=
  List.forall_mem_append.mpr ⟨h, List.forall_mem_singleton.mpr hy⟩

theorem forall_mem_set {p : α → Prop} {xs : List α} {i : Nat} {y : α} (h : ∀ x ∈ xs, p x) (hy : p y) :
    ∀ x ∈ xs.set i y, p x := by
  intro x hx
  rcases List.mem_or_eq_of_mem_set hx with hx | rfl
  · exact h x hx
  · exact hy

theorem getElem?_concat_cases {xs : List α} {y x : α} {i : Nat} (h : (xs ++ [y])[i]? = some x) :
    xs[i]? = some x ∨ i = xs.length ∧ x = y := by
  rw [List.getElem?_append] at h
  split at h
  · exact .inl h
  · next hge =>
    obtain ⟨hi, rfl⟩ := List.getElem?_eq_some_iff.mp h
    rw [List.length_singleton] at hi
    exact .inr ⟨by omega, List.getElem_singleton _⟩

theorem getElem?_set_cases {xs : List α} {y x : α} {i j : Nat} (h : (xs.set i y)[j]? = some x) :
    j ≠ i ∧ xs[j]? = some x ∨ j = i ∧ x = y := by
  rw [List.getElem?_set] at h
  split at h
  · next hsame =>
    split at h
    · cases h
      exact .inr ⟨hsame.symm, rfl⟩
    · cases h
  · next hne => exact .inl ⟨fun hsame => hne hsame.symm, h⟩

/-- An element that is replaced by one with the same value leaves all values as they are. -/
theorem map_set_of_eq {f : α → β} {y : α} {xs : List α} {i : Nat} (hi : i < xs.length) (h : f y = f xs[i]) :
    (xs.set i y).map f = xs.map f := by
  have hlt : i < (xs.map f).length := by rwa [List.length_map]
  have hsame : f xs[i] = (xs.map f)[i] := (List.getElem_map f).symm
  rw [List.map_set, h, hsame, List.set_getElem_self]

theorem flatMap_set_of_eq {f : α → List β} {y : α} {xs : List α} {i : Nat} (hi : i < xs.length)
    (h : f y = f xs[i]) : (xs.set i y).flatMap f = xs.flatMap f := by
  rw [List.flatMap_def, List.flatMap_def, map_set_of_eq hi h]

theorem countP_set_of_eq {p : α → Bool} {y : α} {xs : List α} {i : Nat} (hi : i < xs.length) (h : p y = p xs[i]) :
    (xs.set i y).countP p = xs.countP p := by
  have hcount (zs : List α) : zs.countP p = (zs.map p).countP id := by rw [List.countP_map, Function.id_comp]
  rw [hcount, hcount, map_set_of_eq hi h]

/-- An element that is replaced by one that counts, though it did not itself, counts once more. -/
theorem countP_set_of_pos {p : α → Bool} {y : α} {xs : List α} {i : Nat} (hi : i < xs.length)
    (hold : p xs[i] = false) (hnew : p y = true) : (xs.set i y).countP p = xs.countP p + 1 := by
  rw [List.countP_set hi, hold, hnew]
  rfl

/-- An element that is replaced by one that holds `extra` on top adds `extra` to what the list holds. -/
theorem perm_flatMap_set {f : α → List β} {y : α} {extra : List β} {xs : List α} {i : Nat}
    (hi : i < xs.length) (h : (f y).Perm (f xs[i] ++ extra)) :
    ((xs.set i y).flatMap f).Perm (xs.flatMap f ++ extra) := by
  induction xs generalizing i with
  | nil => exact absurd hi (Nat.not_lt_zero i)
  | cons x rest ih =>
    cases i with
    | zero =>
      rw [List.set_cons_zero, List.flatMap_cons, List.flatMap_cons, List.append_assoc]
      -- What is new stands behind its element and has to go past the other elements.
      have hswap : (extra ++ rest.flatMap f).Perm (rest.flatMap f ++ extra) := List.perm_append_comm
      refine (h.append_right (rest.flatMap f)).trans ?_
      rw [List.append_assoc]
      exact hswap.append_left (f x)
    | succ j =>
      rw [List.set_cons_succ, List.flatMap_cons, List.flatMap_cons, List.append_assoc]
      exact (ih (Nat.lt_of_succ_lt_succ hi) h).append_left (f x)

/-- One more element adds its value, if it has one. -/
theorem filterMap_concat (f : α → Option β) (xs : List α) (y : α) :
    (xs ++ [y]).filterMap f = xs.filterMap f ++ (f y).toList := by
  rw [List.filterMap_append, List.filterMap_cons, List.filterMap_nil]
  cases f y <;> rfl

/-! ## The longest beginning with a property -/

/-- Elements with a property are taken from the front up to the first one without it. -/
theorem span_append {p : α → Bool} {xs ys : List α} (hxs : ∀ x ∈ xs, p x = true)
    (hys : ∀ y, ys.head? = some y → p y = false) :
    (xs ++ ys).takeWhile p = xs ∧ (xs ++ ys).dropWhile p = ys := by
  rw [List.takeWhile_append_of_pos hxs, List.dropWhile_append_of_pos hxs]
  cases ys with
  | nil => exact ⟨List.append_nil xs, rfl⟩
  | cons y ys =>
    have hy : ¬p y = true := Bool.eq_false_iff.mp (hys y rfl)
    rw [List.takeWhile_cons_of_neg hy, List.dropWhile_cons_of_neg hy, List.append_nil]
    exact ⟨rfl, rfl⟩

/-! ## Counting -/

/-- What two lists of elements hold together can be counted row by row or column by column. -/
theorem flatMap_flatMap_perm (xs : List α) (ys : List β) (f : α → β → List γ) :
    (xs.flatMap fun x => ys.flatMap (f x)).Perm (ys.flatMap fun y => xs.flatMap fun x => f x y) := by
  induction ys with
  | nil =>
    simp only [List.flatMap_nil]
    rw [List.flatMap_eq_nil_iff.mpr (fun _ _ => rfl)]
  | cons y rest ih =>
    simp only [List.flatMap_cons]
    exact (List.flatMap_append_perm xs _ _).symm.trans (ih.append_left _)

/-- Among distinct elements, one that alone holds something holds all that there is. -/
theorem flatMap_ite_of_nodup [DecidableEq α] {held : List β} {xs : List α} (h : xs.Nodup) {x : α} (hx : x ∈ xs) :
    (xs.flatMap fun y => if x = y then held else []) = held := by
  induction xs with
  | nil => cases hx
  | cons y rest ih =>
    obtain ⟨hnot, hrest⟩ := List.nodup_cons.mp h
    rw [List.flatMap_cons]
    rcases List.mem_cons.mp hx with rfl | hx
    · have hothers : (rest.flatMap fun z => if x = z then held else []) = [] := by
        rw [List.flatMap_eq_nil_iff]
        intro z hz
        exact if_neg (ne_of_mem_of_not_mem hz hnot).symm
      rw [if_pos rfl, hothers, List.append_nil]
    · rw [if_neg (ne_of_mem_of_not_mem hx hnot), ih hrest hx, List.nil_append]

/-- Where keys are distinct, looking for the key of an element finds the element. -/
theorem find?_of_nodup_map {κ : Type} [DecidableEq κ] {key : α → κ} {xs : List α} (h : (xs.map key).Nodup)
    {x : α} (hx : x ∈ xs) : xs.find? (fun y => key y = key x) = some x := by
  induction xs with
  | nil => cases hx
  | cons y rest ih =>
    rw [List.map_cons, List.nodup_cons] at h
    rcases List.mem_cons.mp hx with rfl | hx
    · exact List.find?_cons_of_pos (decide_eq_true rfl)
    · -- Another element with this key in front of it would be a second one.
      have hne : key y ≠ key x := fun hsame => h.1 (hsame ▸ List.mem_map_of_mem hx)
      rw [List.find?_cons_of_neg (by simpa using hne)]
      exact ih h.2 hx

theorem findFinIdx?_of_nodup_map {κ : Type} [DecidableEq κ] {key : α → κ} {xs : List α} (h : (xs.map key).Nodup)
    (i : Fin xs.length) : xs.findFinIdx? (fun y => key y = key (xs.get i)) = some i := by
  rw [List.findFinIdx?_eq_some_iff]
  refine ⟨decide_eq_true rfl, fun j hj => ?_⟩
  have hdistinct := List.pairwise_iff_getElem.mp (List.pairwise_map.mp h) j i j.isLt i.isLt hj
  rw [decide_eq_true_eq]
  exact hdistinct

/-- Where keys are distinct, the key of an element occurs once. -/
theorem countP_of_nodup_map {κ : Type} [DecidableEq κ] {key : α → κ} {xs : List α} (h : (xs.map key).Nodup)
    {x : α} (hx : x ∈ xs) : xs.countP (fun y => key y = key x) = 1 := by
  have hone : (xs.map key).count (key x) = 1 := List.count_eq_one_of_mem h (List.mem_map_of_mem hx)
  rw [List.count_eq_countP, List.countP_map] at hone
  rw [← hone]
  apply List.countP_congr
  intro y _
  simp only [decide_eq_true_eq, Function.comp_apply, beq_iff_eq]

/-! ## Lists that go in step -/

theorem map_eq_of_forall₂ {R : α → β → Prop} {f : α → γ} {g : β → γ} {xs : List α} {ys : List β}
    (h : List.Forall₂ R xs ys) (hfg : ∀ x y, R x y → f x = g y) : xs.map f = ys.map g := by
  have hvalues : List.Forall₂ Eq (xs.map f) (ys.map g) := List.rel_map hfg h
  rwa [List.forall₂_eq_eq_eq] at hvalues

theorem flatMap_eq_of_forall₂ {R : α → β → Prop} {f : α → List γ} {g : β → List γ} {xs : List α} {ys : List β}
    (h : List.Forall₂ R xs ys) (hfg : ∀ x y, R x y → f x = g y) : xs.flatMap f = ys.flatMap g := by
  rw [List.flatMap_def, List.flatMap_def, map_eq_of_forall₂ h hfg]

theorem getElem?_of_forall₂ {R : α → β → Prop} {xs : List α} {ys : List β} (h : List.Forall₂ R xs ys) {i : Nat} {x : α}
    (hx : xs[i]? = some x) : ∃ y, ys[i]? = some y ∧ R x y := by
  obtain ⟨hi, rfl⟩ := List.getElem?_eq_some_iff.mp hx
  have hother : i < ys.length := h.length_eq ▸ hi
  exact ⟨ys[i], List.getElem?_eq_getElem hother, h.get hi hother⟩

theorem exists_of_forall₂ {R : α → β → Prop} {xs : List α} {ys : List β} (h : List.Forall₂ R xs ys)
    {x : α} (hx : x ∈ xs) : ∃ y ∈ ys, R x y := by
  obtain ⟨i, hi⟩ := List.mem_iff_getElem?.mp hx
  obtain ⟨y, hy, hr⟩ := getElem?_of_forall₂ h hi
  exact ⟨y, List.mem_of_getElem? hy, hr⟩

/-- In lists that go in step, the first elements with a property that goes in step as well are partners. -/
theorem find?_of_forall₂ {R : α → β → Prop} {p : α → Bool} {q : β → Bool} {xs : List α} {ys : List β}
    (h : List.Forall₂ R xs ys) (hpq : ∀ x y, R x y → p x = q y) : Option.Rel R (xs.find? p) (ys.find? q) := by
  induction h with
  | nil => exact .none
  | cons hxy _ ih =>
    rw [List.find?_cons, List.find?_cons, ← hpq _ _ hxy]
    split
    · exact .some hxy
    · exact ih

theorem exists_forall₂ {R : α → β → Prop} {xs : List α} (h : ∀ x ∈ xs, ∃ y, R x y) : ∃ ys, List.Forall₂ R xs ys := by
  induction xs with
  | nil => exact ⟨[], .nil⟩
  | cons x rest ih =>
    obtain ⟨⟨y, hy⟩, hrest⟩ := List.forall_mem_cons.mp h
    obtain ⟨ys, hys⟩ := ih hrest
    exact ⟨y :: ys, .cons hy hys⟩

/-- In a table by place, an element is found under its place and nothing anywhere else. -/
theorem lookup_zipIdx (xs : List α) (n : Nat) (i : Int) :
    ((xs.zipIdx n).map fun x => ((x.2 : Int), x.1)).lookup i = if (n : Int) ≤ i then xs[(i - n).toNat]? else none := by
  induction xs generalizing n with
  | nil =>
    rw [List.zipIdx_nil, List.getElem?_nil, ite_self]
    rfl
  | cons x rest ih =>
    rw [List.zipIdx_cons, List.map_cons, List.lookup_cons]
    by_cases hi : i = (n : Int)
    · subst hi
      rw [if_pos (Int.le_refl _), Int.sub_self, beq_self_eq_true]
      rfl
    · rw [beq_eq_false_iff_ne.mpr hi, ih]
      by_cases hle : (n : Int) ≤ i
      · have hnext : (i - n).toNat = (i - (n + 1 : Nat)).toNat + 1 := by omega
        rw [if_pos hle, if_pos (by omega), hnext, List.getElem?_cons_succ]
      · rw [if_neg hle, if_neg (by omega)]

/-! ## Lists in order -/

section InOrder

variable {key : α → Int} {x y : α} {xs ys : List α}

/-- A list in order starts with the least key that occurs in it. -/
theorem key_le_of_filter_eq (hys : (y :: ys).Pairwise fun a b => key a ≤ key b)
    (h : ∀ n, (x :: xs).filter (fun a => key a = n) = (y :: ys).filter (fun a => key a = n)) : key y ≤ key x := by
  have hx : x ∈ (x :: xs).filter fun a => key a = key x := by
    rw [List.mem_filter]
    exact ⟨List.mem_cons_self, decide_eq_true rfl⟩
  rw [h, List.mem_filter] at hx
  rcases List.mem_cons.mp hx.1 with rfl | htail
  · exact Int.le_refl _
  · exact (List.pairwise_cons.mp hys).1 x htail

/-- Two lists in the order of a key are the same if they agree on the elements of each key. -/
theorem eq_of_sorted_of_filter_eq (hxs : xs.Pairwise fun a b => key a ≤ key b)
    (hys : ys.Pairwise fun a b => key a ≤ key b)
    (h : ∀ n, xs.filter (fun a => key a = n) = ys.filter (fun a => key a = n)) : xs = ys := by
  induction xs generalizing ys with
  | nil =>
    cases ys with
    | nil => rfl
    | cons y ys => exact absurd (h (key y)).symm (by simp)
  | cons x xs ih =>
    cases ys with
    | nil => exact absurd (h (key x)) (by simp)
    | cons y ys =>
      have hkey : key x = key y :=
        Int.le_antisymm (key_le_of_filter_eq hxs fun n => (h n).symm) (key_le_of_filter_eq hys h)
      -- Both elements come first among those of their key.
      have hfirst := h (key x)
      rw [List.filter_cons, List.filter_cons, if_pos (decide_eq_true rfl), if_pos (decide_eq_true hkey.symm)] at hfirst
      obtain ⟨rfl, _⟩ := List.cons.inj hfirst
      have htails (n : Int) : xs.filter (fun a => key a = n) = ys.filter (fun a => key a = n) := by
        have hn := h n
        rw [List.filter_cons, List.filter_cons] at hn
        split at hn
        · exact (List.cons.inj hn).2
        · exact hn
      rw [ih (List.pairwise_cons.mp hxs).2 (List.pairwise_cons.mp hys).2 htails]

end InOrder

/-! ## First occurrences -/

section FirstOccurrences

variable [DecidableEq α]

/-- An element at the end stays if it has not been there before. -/
theorem eraseDups_concat (xs : List α) (y : α) :
    (xs ++ [y]).eraseDups = if y ∈ xs then xs.eraseDups else xs.eraseDups ++ [y] := by
  rw [List.eraseDups_append]
  by_cases hy : y ∈ xs
  · simp [List.removeAll, hy]
  · simp [List.removeAll, hy, List.eraseDups_cons]

/-- With room for `n` first occurrences, an element at the end stays if it is not there and there is room. -/
theorem take_eraseDups_concat (xs : List α) (y : α) (n : Nat) :
    (xs ++ [y]).eraseDups.take n
      = if y ∈ xs.eraseDups.take n ∨ n ≤ (xs.eraseDups.take n).length then xs.eraseDups.take n
        else xs.eraseDups.take n ++ [y] := by
  rw [eraseDups_concat]
  by_cases hfull : n ≤ xs.eraseDups.length
  · have hlength : (xs.eraseDups.take n).length = n := List.length_take_of_le hfull
    have hcut : y ∈ xs.eraseDups.take n ∨ n ≤ (xs.eraseDups.take n).length := .inr (Nat.le_of_eq hlength.symm)
    rw [if_pos hcut]
    split
    · rfl
    · exact List.take_append_of_le_length hfull
  · -- Nothing is cut off.
    have hall : xs.eraseDups.take n = xs.eraseDups := List.take_of_length_le (by omega)
    simp only [hall, List.mem_eraseDups, hfull, or_false]
    split
    · exact hall
    · exact List.take_of_length_le (by rw [List.length_append, List.length_singleton]; omega)

theorem nodup_eraseDups (xs : List α) : xs.eraseDups.Nodup := by
  induction xs using List.reverseRecOn with
  | nil => exact List.nodup_nil
  | append_singleton xs y ih =>
    rw [eraseDups_concat]
    split
    · exact ih
    · next hy =>
      rw [← List.concat_eq_append]
      exact ih.concat fun hmem => hy (List.mem_eraseDups.mp hmem)

theorem eraseDups_of_nodup {xs : List α} (h : xs.Nodup) : xs.eraseDups = xs := by
  induction xs using List.reverseRecOn with
  | nil => rfl
  | append_singleton xs y ih =>
    obtain ⟨hxs, _, hy⟩ := List.nodup_append.mp h
    rw [eraseDups_concat, if_neg fun hmem => hy y hmem y List.mem_cons_self rfl, ih hxs]

/-- More elements leave the first occurrences where they are. -/
theorem length_eraseDups_le (xs ys : List α) : xs.eraseDups.length ≤ (xs ++ ys).eraseDups.length := by
  rw [List.eraseDups_append, List.length_append]
  exact Nat.le_add_right _ _

end FirstOccurrences

end UsbCompiler
