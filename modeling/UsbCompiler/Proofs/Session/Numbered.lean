import UsbCompiler.Interface

/-!
# `UsbCompiler.Proofs.Session.Numbered` — interfaces in the places of their numbers

A device refers to its interfaces by handles, in the order of their numbers. Interfaces can be changed later on, but
never their numbers, and so each of them stays in its place.

## Contents
- `Interface.Store.knows_add_iff`, `knows_put_iff`, `get_of_not_knows`, `get_add_of_ne`, `number_get_put`: handles that
  have been given out, and others.
- `Interface.Store.Numbered`, kept by new interfaces (`grow`), new places (`reserve`), adoptions (`adopt`) and changes
  (`put`).
-/

namespace UsbCompiler.Interface.Store

variable {store : Store} {handle other : Handle} {interface : Interface} {interfaces : List Handle}

/-! ## Handles -/

theorem knows_add_iff : (store.add interface).Knows handle ↔ store.Knows handle ∨ handle = store.next := by
  obtain ⟨index⟩ := handle
  simp only [Knows, add, next, List.length_append, List.length_singleton, Handle.mk.injEq]
  omega

theorem not_knows_next (store : Store) : ¬store.Knows store.next := Nat.lt_irrefl _

theorem knows_put_iff : (store.put handle interface).Knows other ↔ store.Knows other := by
  unfold Knows put
  rw [List.length_set]

theorem get_of_not_knows (h : ¬store.Knows handle) : store.get handle = .new 0 := by
  rw [get, List.getD_eq_getElem?_getD, List.getElem?_eq_none (Nat.le_of_not_lt h), Option.getD_none]

/-- A new interface changes nothing under any other handle, whether that has been given out or not. -/
theorem get_add_of_ne (hne : handle ≠ store.next) (interface : Interface) :
    (store.add interface).get handle = store.get handle := by
  by_cases hknown : store.Knows handle
  · exact get_add hknown interface
  · have hstill : ¬(store.add interface).Knows handle := fun hadded =>
      (knows_add_iff.mp hadded).elim hknown hne
    rw [get_of_not_knows hknown, get_of_not_knows hstill]

/-- An interface that is stored under its number leaves all numbers as they are. -/
theorem number_get_put (hknown : store.Knows handle) (hnumber : interface.number = (store.get handle).number)
    (other : Handle) : ((store.put handle interface).get other).number = (store.get other).number := by
  by_cases hsame : other = handle
  · subst hsame
    rw [get_put_self hknown, hnumber]
  · rw [get_put_of_ne hsame]

/-! ## Places -/

/-- **Interfaces in their places.** Each is known and has its place as number. -/
def Numbered (store : Store) (interfaces : List Handle) : Prop :=
  ∀ (i : Nat) (handle : Handle), interfaces[i]? = some handle →
    store.Knows handle ∧ (store.get handle).number = (i : Int)

namespace Numbered

/-- A new interface. -/
theorem grow (h : Numbered store interfaces) (interface : Interface) : Numbered (store.add interface) interfaces := by
  intro i handle hhandle
  obtain ⟨hknown, hnumber⟩ := h i handle hhandle
  refine ⟨knows_add_iff.mpr (.inl hknown), ?_⟩
  rw [get_add hknown]
  exact hnumber

/-- A new place for an interface with the next number. -/
theorem reserve (h : Numbered store interfaces) (hknown : store.Knows handle)
    (hnumber : (store.get handle).number = interfaces.length) : Numbered store (interfaces ++ [handle]) := by
  intro i other hother
  rw [List.getElem?_append] at hother
  split at hother
  · exact h i other hother
  · next hge =>
    obtain ⟨hi, rfl⟩ := List.getElem?_eq_some_iff.mp hother
    rw [List.length_singleton] at hi
    have hlast : i = interfaces.length := by omega
    rw [List.getElem_singleton]
    refine ⟨hknown, ?_⟩
    rw [hlast]
    exact hnumber

/-- Another interface in the place of its number. -/
theorem adopt (h : Numbered store interfaces) (hknown : store.Knows handle) (hnonneg : 0 ≤ (store.get handle).number) :
    Numbered store (interfaces.set (store.get handle).number.toNat handle) := by
  intro i other hother
  rw [List.getElem?_set] at hother
  split at hother
  · next hi =>
    split at hother
    · cases hother
      exact ⟨hknown, by omega⟩
    · cases hother
  · exact h i other hother

/-- A change to something other than the number. -/
theorem put (h : Numbered store interfaces) (hknown : store.Knows handle)
    (hnumber : interface.number = (store.get handle).number) : Numbered (store.put handle interface) interfaces := by
  intro i other hother
  obtain ⟨hothers, hat⟩ := h i other hother
  refine ⟨knows_put_iff.mpr hothers, ?_⟩
  rw [number_get_put hknown hnumber]
  exact hat

end Numbered

end UsbCompiler.Interface.Store
