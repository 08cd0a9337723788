import Bibliography.Order.Sort
import Bibliography.Proofs.TieClasses

/-!
# Sorting items and finding duplicates

The comparison of items is put together from comparisons by place, by collation and by key, some of
them turned around; it is transitive because they are. Sorting by it is exact and stable, and the
runs that are reported as duplicates are the classes of entries that tie: none is split, by a block
that is kept or otherwise, and none is missed.

Main statement: `Sorted.isExact_ofList`.
-/

namespace Bibliography

/-! ## §1 Comparing items -/

theorem comparePins_eq (first : List String) (a b : Item) :
    comparePins first a b = compare (first.idxOf a.type) (first.idxOf b.type) := by
  have h := @comparePlaces_eq first a.type b.type .eq fun _ => rfl
  rw [Ordering.then_eq] at h
  exact h

instance (first : List String) : Std.TransCmp (comparePins first) := by
  have h : comparePins first =
      fun a b => compare (first.idxOf a.type) (first.idxOf b.type) := by
    funext a b
    exact comparePins_eq first a b
  rw [h]
  exact transCmp_comap compare fun i : Item => first.idxOf i.type

/-- Items are compared by their keys, and items without a key come first. -/
instance : Std.TransCmp compareKeys where
  eq_swap {a b} := by
    unfold compareKeys
    cases a.citationKey? with
    | none => cases b.citationKey? <;> rfl
    | some x =>
      cases b.citationKey? with
      | none => rfl
      | some y => exact (collate_swap y x).symm
  isLE_trans {a b c} hab hbc := by
    unfold compareKeys at hab hbc ⊢
    -- an item without a key is at most any other, and no item with a key is at most it
    cases ha : a.citationKey? with
    | none => cases c.citationKey? <;> rfl
    | some x =>
      cases hb : b.citationKey? with
      | none =>
        rw [ha, hb] at hab
        cases hab
      | some y =>
        cases hc : c.citationKey? with
        | none =>
          rw [hb, hc] at hbc
          cases hbc
        | some z =>
          rw [ha, hb] at hab
          rw [hb, hc] at hbc
          exact collate_trans hab hbc

instance (d : Delimiters) (key : SortKey) : Std.TransCmp (key.compare d) := by
  have hfield (name : String) : Std.TransCmp (compareFieldTexts d name) :=
    transCmp_comap collate (Item.fieldText d name)
  cases key with
  | citationKey => exact inferInstanceAs (Std.TransCmp compareKeys)
  | latestYear => exact transCmp_swap (compareFieldTexts d "year")
  | type => exact transCmp_comap collate Item.type
  | field name => exact hfield name

instance (d : Delimiters) (names : List String) : Std.TransCmp (compareSortKeys d names) := by
  induction names with
  | nil => exact { eq_swap := rfl, isLE_trans := fun _ _ => rfl }
  | cons name names ih => exact transCmp_then ((SortKey.ofName name).compare d)

instance (o : Arrangement) (d : Delimiters) : Std.TransCmp (o.compare d) :=
  transCmp_then (comparePins o.firstEntries)

/-! ## §2 Exact sorting -/

/-- The occurrences of entries in a list. -/
def entriesOf (items : List Occurrence) : List Occurrence :=
  items.filter fun x => x.item.entry?.isSome

/-- The occurrences in a list that tie with an item. -/
def Arrangement.tiesWith (o : Arrangement) (d : Delimiters) (i : Item) (items : List Occurrence) :
    List Occurrence :=
  items.filter fun x => o.ties d i x.item

/-- What a sorted list with its duplicates has to be. -/
structure Sorted.IsExact (o : Arrangement) (d : Delimiters) (items : List Occurrence) (s : Sorted) :
    Prop where
  /-- Nothing is lost or added. -/
  perm : s.items.Perm items
  /-- No item comes before a lesser one. -/
  ordered : s.items.Pairwise fun x y => (o.compare d x.item y.item).isLE = true
  /-- Items that tie keep their order. -/
  stable : ∀ i, o.tiesWith d i s.items = o.tiesWith d i items
  /-- A group has two members at least, and consists of all entries that tie with any of them, in
  the order of the list. -/
  whole : ∀ g ∈ s.groups, 2 ≤ g.length ∧ ∀ x ∈ g, g = o.tiesWith d x.item (entriesOf s.items)
  /-- Entries that tie with another entry are in a group. -/
  complete : ∀ x ∈ entriesOf s.items, 2 ≤ (o.tiesWith d x.item (entriesOf s.items)).length →
    o.tiesWith d x.item (entriesOf s.items) ∈ s.groups
  /-- Groups are in the order of the list. -/
  groupsOrdered : s.groups.Pairwise fun g h => ∀ x ∈ g, ∀ y ∈ h, o.compare d x.item y.item = .lt

section Sorting

variable (o : Arrangement) (d : Delimiters)

/-- Occurrences are compared by their items. -/
instance : Std.TransCmp fun x y : Occurrence => o.compare d x.item y.item :=
  transCmp_comap (o.compare d) Occurrence.item

theorem pairwise_sort (items : List Occurrence) :
    (o.sort d items).Pairwise fun x y => (o.compare d x.item y.item).isLE = true :=
  pairwise_mergeSort_isLE (fun x y : Occurrence => o.compare d x.item y.item) items

theorem sort_sort (items : List Occurrence) : o.sort d (o.sort d items) = o.sort d items :=
  mergeSort_mergeSort_isLE (fun x y : Occurrence => o.compare d x.item y.item) items

theorem tiesWith_sort (i : Item) (items : List Occurrence) :
    o.tiesWith d i (o.sort d items) = o.tiesWith d i items := by
  refine filter_mergeSort_isLE (fun x y : Occurrence => o.compare d x.item y.item) ?_ items
  -- two occurrences that tie with `i` tie with each other
  intro x y hx hy
  have hix : o.compare d i x.item = .eq := beq_iff_eq.1 hx
  have hiy : o.compare d i y.item = .eq := beq_iff_eq.1 hy
  rw [← Std.TransCmp.congr_left hix]
  exact hiy

theorem pairwise_entriesOf_sort (items : List Occurrence) :
    (entriesOf (o.sort d items)).Pairwise
      fun x y => (o.compare d x.item y.item).isLE = true :=
  (pairwise_sort o d items).filter _

/-- The groups of a sorted list are the classes of entries that tie, as far as they have two members
at least. -/
theorem groups_ofList (items : List Occurrence) : (Sorted.ofList o d items).groups =
    (tieClasses (fun x y : Occurrence => o.compare d x.item y.item)
      (entriesOf (o.sort d items))).filter fun g => 1 < g.length := by
  rw [← splitBy_eq_tieClasses _ (pairwise_entriesOf_sort o d items)]
  rfl

theorem isExact_ofList (items : List Occurrence) :
    (Sorted.ofList o d items).IsExact o d items where
  perm := o.sort_perm d items
  ordered := pairwise_sort o d items
  stable i := tiesWith_sort o d i items
  whole g hg := by
    rw [groups_ofList] at hg
    -- the groups are the tie classes of two members or more
    obtain ⟨hclass, hlen⟩ := List.mem_filter.1 hg
    exact ⟨of_decide_eq_true hlen, fun x hx => (eq_tiesOf_of_mem _ hclass hx).2⟩
  complete x hx hlen := by
    rw [groups_ofList]
    exact List.mem_filter.2 ⟨tiesOf_mem_tieClasses _ hx, decide_eq_true hlen⟩
  groupsOrdered := by
    rw [groups_ofList]
    -- sorted items have their classes in order, and leaving some out keeps it
    exact (pairwise_tieClasses _ (pairwise_entriesOf_sort o d items)).filter _

/-- The groups do not depend on the order in which the items are given. -/
theorem groups_perm {items items' : List Occurrence} (h : items'.Perm items) :
    List.Forall₂ List.Perm (Sorted.ofList o d items').groups (Sorted.ofList o d items).groups := by
  have hsorted : (entriesOf (o.sort d items')).Perm (entriesOf (o.sort d items)) :=
    (((o.sort_perm d items').trans h).trans (o.sort_perm d items).symm).filter _
  rw [groups_ofList, groups_ofList]
  have hclasses := forall₂_tieClasses _ hsorted (pairwise_entriesOf_sort o d items')
    (pairwise_entriesOf_sort o d items)
  refine List.rel_filter (fun g g' hg => ?_) hclasses
  simp only [decide_eq_true_eq]
  rw [hg.length_eq]

/-- Sorting is exact and stable, with the classes of entries that tie as groups; these do not depend
on the order in which the items are given, and sorting again changes nothing. -/
theorem sorted_ofList (items : List Occurrence) :
    (Sorted.ofList o d items).IsExact o d items ∧
      (∀ items' : List Occurrence, items'.Perm items →
        List.Forall₂ List.Perm (Sorted.ofList o d items').groups
          (Sorted.ofList o d items).groups) ∧
      Sorted.ofList o d (Sorted.ofList o d items).items = Sorted.ofList o d items := by
  refine ⟨isExact_ofList o d items, fun items' h => groups_perm o d h, ?_⟩
  have hsort : (Sorted.ofList o d items).items = o.sort d items := rfl
  rw [hsort, Sorted.ofList, sort_sort]
  rfl

end Sorting

end Bibliography
