import Bibliography.Collation
import Mathlib.Data.List.Basic
import Mathlib.Data.List.Perm.Basic

/-!
# Sorting by a comparison

What sorting by a comparison gives, whatever is sorted. The comparison has to be transitive and
oriented, which comparisons inherit from the levels that they are made of: the place of a text in a
list, and the collation order.

Main statements: a sorted list is in order (`pairwise_mergeSort_isLE`), sorting it again does
nothing (`mergeSort_mergeSort_isLE`), and of what ties, nothing changes places
(`filter_mergeSort_isLE`).
-/

namespace Bibliography

/-! ## §1 Comparisons -/

section Comparisons

variable {α β : Type} (cmp : β → β → Ordering) [Std.TransCmp cmp]

/-- What is compared by one of its parts is compared as well as the part is. -/
theorem transCmp_comap (f : α → β) : Std.TransCmp fun a b => cmp (f a) (f b) where
  eq_swap := Std.OrientedCmp.eq_swap
  isLE_trans := Std.TransCmp.isLE_trans

/-- A comparison may be turned around. -/
theorem transCmp_swap : Std.TransCmp fun a b => (cmp a b).swap where
  eq_swap {a b} := by rw [@Std.OrientedCmp.eq_swap _ cmp _ a b]
  isLE_trans {a b c} hab hbc := by
    rw [← Std.OrientedCmp.eq_swap] at hab hbc ⊢
    exact Std.TransCmp.isLE_trans hbc hab

theorem transCmp_then {cmp' : β → β → Ordering} [Std.TransCmp cmp'] :
    Std.TransCmp fun a b => (cmp a b).then (cmp' a b) :=
  inferInstanceAs (Std.TransCmp (compareLex cmp cmp'))

end Comparisons

instance : Std.TransCmp collate where
  eq_swap {a b} := (collate_swap b a).symm
  isLE_trans := collate_trans

/-- The place of a text in a list, if it is listed. -/
theorem idxOf?_eq_ite (order : List String) (a : String) :
    order.idxOf? a = if a ∈ order then some (order.idxOf a) else none := by
  split
  · next h =>
    obtain ⟨i, hi⟩ := Option.isSome_iff_exists.1 (List.isSome_idxOf?.2 h)
    rw [hi, List.idxOf_eq_getD_idxOf?, hi]
    rfl
  · next h => exact List.idxOf?_eq_none_iff.2 h

/-- Listed texts first, in the order of their places: a text that is not listed is treated as if it
stood behind the end of the list. -/
theorem comparePlaces_eq (order : List String) {a b : String} {unlisted : Ordering}
    (h : a = b → unlisted = .eq) :
    (match order.idxOf? a, order.idxOf? b with
      | some i, some j => compare i j
      | some _, none => .lt
      | none, some _ => .gt
      | none, none => unlisted) =
    (compare (order.idxOf a) (order.idxOf b)).then unlisted := by
  rw [idxOf?_eq_ite, idxOf?_eq_ite]
  by_cases ha : a ∈ order <;> by_cases hb : b ∈ order <;> simp only [ha, hb, if_true, if_false]
  · -- texts at the same place are equal
    cases hc : compare (order.idxOf a) (order.idxOf b) with
    | eq => rw [h ((List.idxOf_inj ha).1 (Nat.compare_eq_eq.1 hc))]; rfl
    | lt => rfl
    | gt => rfl
  · have hlt := List.idxOf_lt_length_of_mem ha
    rw [List.idxOf_eq_length hb, Nat.compare_eq_lt.2 hlt]
    rfl
  · have hlt := List.idxOf_lt_length_of_mem hb
    rw [List.idxOf_eq_length ha, Nat.compare_eq_gt.2 hlt]
    rfl
  · rw [List.idxOf_eq_length ha, List.idxOf_eq_length hb, Nat.compare_eq_eq.2 rfl]
    rfl

/-! ## §2 Sorted lists -/

section Sorted

variable {α : Type} (cmp : α → α → Ordering) [Std.TransCmp cmp]

theorem isLE_or_isLE (a b : α) : ((cmp a b).isLE || (cmp b a).isLE) = true := by
  rw [@Std.OrientedCmp.eq_swap _ cmp _ b a]
  cases cmp a b <;> rfl

theorem pairwise_mergeSort_isLE (l : List α) :
    (l.mergeSort fun a b => (cmp a b).isLE).Pairwise fun a b => (cmp a b).isLE = true :=
  List.pairwise_mergeSort (fun _ _ _ => Std.TransCmp.isLE_trans) (isLE_or_isLE cmp) l

theorem mergeSort_mergeSort_isLE (l : List α) :
    ((l.mergeSort fun a b => (cmp a b).isLE).mergeSort fun a b => (cmp a b).isLE) =
      l.mergeSort fun a b => (cmp a b).isLE :=
  List.mergeSort_of_pairwise (pairwise_mergeSort_isLE cmp l)

/-- What ties is in the sorted list as it was before. -/
theorem filter_mergeSort_isLE {p : α → Bool} (hp : ∀ a b, p a = true → p b = true → cmp a b = .eq)
    (l : List α) : (l.mergeSort fun a b => (cmp a b).isLE).filter p = l.filter p := by
  -- what ties is in order already, so the sorted list holds it as a sublist
  have hties : (l.filter p).Pairwise fun a b => (cmp a b).isLE = true := by
    rw [List.pairwise_filter]
    refine List.pairwise_of_forall fun a b ha hb => ?_
    rw [hp a b ha hb]
    rfl
  have hsub : (l.filter p).Sublist (l.mergeSort fun a b => (cmp a b).isLE) :=
    List.sublist_mergeSort (fun _ _ _ => Std.TransCmp.isLE_trans) (isLE_or_isLE cmp) hties
      List.filter_sublist
  -- a sublist that is as long as the whole is the whole
  have hlen := ((List.mergeSort_perm l fun a b => (cmp a b).isLE).filter p).length_eq
  have hfilter := hsub.filter p
  simp only [List.filter_filter, Bool.and_self] at hfilter
  exact (hfilter.eq_of_length hlen.symm).symm

/-- The first of what ties is the first as it was before. -/
theorem find?_mergeSort_isLE {p : α → Bool} (hp : ∀ a b, p a = true → p b = true → cmp a b = .eq)
    (l : List α) : (l.mergeSort fun a b => (cmp a b).isLE).find? p = l.find? p := by
  rw [← List.head?_filter, ← List.head?_filter, filter_mergeSort_isLE cmp hp]

end Sorted

end Bibliography
