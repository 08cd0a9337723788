import Bibliography.Proofs.ItemOrder

/-!
# Marks and duplicates

A sort compares occurrences that stand at different places of its list, and each comparison that
finds a tie marks its first argument. Which comparisons are made depends on how the sort is carried
out, and so does what they mark. What is reported in the end does not: every mark is that of an
entry that ties with another one, and all of these are members of groups.

Main statement: `reportsTies`.
-/

namespace Bibliography

/-! ## §1 Comparisons of a sort -/

/-- Two different places of a list, of which the occurrences are compared. -/
structure Pairing (items : List Occurrence) where
  left : Fin items.length
  right : Fin items.length
  distinct : left ≠ right

/-- The occurrences that are compared. -/
def Pairing.occurrences {items : List Occurrence} (p : Pairing items) : Occurrence × Occurrence :=
  (items[p.left], items[p.right])

section Comparisons

variable (o : Arrangement) (d : Delimiters)

/-- What has been marked does not show in what comparisons return. -/
theorem compareAllMarking_fst (marked : List Nat) (pairs : List (Occurrence × Occurrence)) :
    (o.compareAllMarking d marked pairs).1 =
      pairs.map fun p => o.compare d p.1.item p.2.item := by
  induction pairs generalizing marked with
  | nil => rfl
  | cons p pairs ih =>
    rw [List.map_cons, ← ih (o.compareMarking d marked p.1 p.2).2]
    rfl

/-- A comparison marks nothing but an entry that ties. -/
theorem mem_compareMarking_iff {marked : List Nat} {a b : Occurrence} {id : Nat} :
    id ∈ (o.compareMarking d marked a b).2 ↔
      id ∈ marked ∨ a.id = id ∧ o.compare d a.item b.item = .eq ∧ a.item.entry?.isSome = true := by
  simp only [Arrangement.compareMarking]
  split
  · next h =>
    rw [List.mem_cons]
    constructor
    · rintro (rfl | hid)
      · exact .inr ⟨rfl, h.1, h.2.1⟩
      · exact .inl hid
    · rintro (hid | ⟨rfl, -⟩)
      · exact .inr hid
      · exact .inl rfl
  · next h =>
    refine ⟨.inl, ?_⟩
    rintro (hid | ⟨rfl, htie, hentry⟩)
    · exact hid
    · -- an entry that ties is not marked again
      by_contra hnot
      exact h ⟨htie, hentry, hnot⟩

theorem mem_compareAllMarking_iff {marked : List Nat} {pairs : List (Occurrence × Occurrence)}
    {id : Nat} : id ∈ (o.compareAllMarking d marked pairs).2 ↔ id ∈ marked ∨
      ∃ p ∈ pairs, p.1.id = id ∧ o.compare d p.1.item p.2.item = .eq ∧
        p.1.item.entry?.isSome = true := by
  induction pairs generalizing marked with
  | nil => simp [Arrangement.compareAllMarking]
  | cons p pairs ih =>
    have hstep : (o.compareAllMarking d marked (p :: pairs)).2 =
        (o.compareAllMarking d (o.compareMarking d marked p.1 p.2).2 pairs).2 := rfl
    rw [hstep, ih, mem_compareMarking_iff, List.exists_mem_cons_iff, or_assoc]

theorem Sorted.mem_reported_iff {s : Sorted} {marked : List Nat} {id : Nat} :
    id ∈ s.reported marked ↔ id ∈ s.duplicates ∨ id ∈ marked :=
  List.mem_union_iff

/-! ## §2 Places that tie -/

/-- Of the elements with a property, there is one beside that at a place exactly when there are two
at least. -/
theorem two_le_length_filter_iff {α : Type} {l : List α} {p : α → Bool} {i : Nat}
    (hi : i < l.length) (hp : p l[i] = true) :
    2 ≤ (l.filter p).length ↔ ∃ j, ∃ hj : j < l.length, j ≠ i ∧ p l[j] = true := by
  -- taken out and put in front, the element leaves the others to be counted
  have hperm : (l[i] :: (l.eraseIdx i).filter p).Perm (l.filter p) := by
    rw [← List.filter_cons_of_pos hp]
    exact (List.getElem_cons_eraseIdx_perm hi).filter p
  rw [← hperm.length_eq, List.length_cons, Nat.succ_le_succ_iff, Nat.succ_le_iff,
    List.length_pos_iff_exists_mem]
  constructor
  · rintro ⟨y, hy⟩
    obtain ⟨hmem, hy⟩ := List.mem_filter.1 hy
    obtain ⟨j, hj, hne, rfl⟩ := List.mem_eraseIdx_iff_getElem.1 hmem
    exact ⟨j, hj, hne, hy⟩
  · rintro ⟨j, hj, hne, hy⟩
    exact ⟨l[j], List.mem_filter.2 ⟨List.mem_eraseIdx_iff_getElem.2 ⟨j, hj, hne, rfl⟩, hy⟩⟩

/-- An identity that stands at a place of a list that ties with another place. -/
def TiesElsewhere (items : List Occurrence) (id : Nat) : Prop :=
  ∃ i j : Fin items.length, i ≠ j ∧ items[i].id = id ∧ o.compare d items[i].item items[j].item = .eq

instance (items : List Occurrence) (id : Nat) : Decidable (TiesElsewhere o d items id) :=
  inferInstanceAs (Decidable (∃ i j : Fin items.length,
    i ≠ j ∧ items[i].id = id ∧ o.compare d items[i].item items[j].item = .eq))

variable {o d} {items : List Occurrence}

/-- Of the entries in a list, those that tie with another one have a duplicate. -/
theorem mem_duplicates_ofList_iff (hentries : ∀ x ∈ items, x.item.entry?.isSome = true) {id : Nat} :
    id ∈ (Sorted.ofList o d items).duplicates ↔ TiesElsewhere o d items id := by
  -- the sorted list has the entries that tie with an item of the list, in another order
  have hexact := isExact_ofList o d items
  have hall : entriesOf (o.sort d items) = o.sort d items :=
    List.filter_eq_self.2 fun x hx => hentries x ((o.sort_perm d items).mem_iff.1 hx)
  have hlength (i : Item) : (o.tiesWith d i (entriesOf (o.sort d items))).length =
      (o.tiesWith d i items).length := by
    rw [hall, tiesWith_sort]
  have hself (x : Occurrence) : o.ties d x.item x.item = true := tied_self (o.compare d) x.item
  constructor
  · intro hid
    obtain ⟨x, hx, rfl⟩ := List.mem_map.1 hid
    obtain ⟨g, hg, hxg⟩ := List.mem_flatten.1 hx
    obtain ⟨hlen, hclass⟩ := hexact.whole g hg
    rw [hclass x hxg] at hlen hxg
    have hmem : x ∈ items :=
      (o.sort_perm d items).mem_iff.1 (List.mem_filter.1 (List.mem_filter.1 hxg).1).1
    obtain ⟨i, hi, rfl⟩ := List.getElem_of_mem hmem
    obtain ⟨j, hj, hne, htie⟩ := (two_le_length_filter_iff hi (hself items[i])).1
      ((hlength items[i].item).symm ▸ hlen)
    exact ⟨⟨i, hi⟩, ⟨j, hj⟩, fun h => hne (congrArg Fin.val h).symm, rfl, beq_iff_eq.1 htie⟩
  · rintro ⟨i, j, hne, rfl, htie⟩
    have htie : o.ties d items[i].item items[j].item = true := beq_iff_eq.2 htie
    have hlen : 2 ≤ (o.tiesWith d items[i].item items).length :=
      (two_le_length_filter_iff i.isLt (hself items[i])).2
        ⟨j, j.isLt, fun h => hne (Fin.ext h).symm, htie⟩
    have hmem : items[i] ∈ entriesOf (o.sort d items) := by
      rw [hall]
      exact (o.sort_perm d items).mem_iff.2 (List.getElem_mem i.isLt)
    have hgroup := hexact.complete _ hmem ((hlength items[i].item).symm ▸ hlen)
    exact List.mem_map_of_mem
      (List.mem_flatten.2 ⟨_, hgroup, List.mem_filter.2 ⟨hmem, hself items[i]⟩⟩)

/-! ## §3 What is reported -/

/-- What is marked is the identity of an occurrence that ties with one at another place. -/
theorem tiesElsewhere_of_mem_compareAllMarking (pairings : List (Pairing items)) {id : Nat}
    (hid : id ∈ (o.compareAllMarking d [] (pairings.map Pairing.occurrences)).2) :
    TiesElsewhere o d items id := by
  rcases (mem_compareAllMarking_iff o d).1 hid with hid | ⟨q, hq, hid, htie, -⟩
  · cases hid
  · obtain ⟨p, -, rfl⟩ := List.mem_map.1 hq
    exact ⟨p.left, p.right, p.distinct, hid, htie⟩

variable (o d items) in
/-- What a sort of a list has to report that makes some comparisons. -/
structure Sorted.ReportsTies (pairings : List (Pairing items)) (s : Sorted) : Prop where
  /-- Every comparison returns the comparison of its items, whatever has been marked before. -/
  results (marked : List Nat) :
    (o.compareAllMarking d marked (pairings.map Pairing.occurrences)).1 =
      pairings.map fun p => o.compare d items[p.left].item items[p.right].item
  /-- What is reported stands at a place that ties with another place, and all that does is. -/
  exact (id : Nat) :
    id ∈ s.reported (o.compareAllMarking d [] (pairings.map Pairing.occurrences)).2 ↔
      TiesElsewhere o d items id
  /-- What is reported is in a group, and all that is in a group is reported. -/
  union (id : Nat) :
    id ∈ s.reported (o.compareAllMarking d [] (pairings.map Pairing.occurrences)).2 ↔
      ∃ g ∈ s.groups, ∃ x ∈ g, x.id = id
  /-- The marks add nothing. -/
  marks : ∀ id ∈ (o.compareAllMarking d [] (pairings.map Pairing.occurrences)).2,
    ∃ g ∈ s.groups, ∃ x ∈ g, x.id = id

end Comparisons

/-- Whatever comparisons a sort of entries makes, it reports the entries that tie with another one,
which are the members of its groups. -/
theorem reportsTies (o : Arrangement) (d : Delimiters) {items : List Occurrence}
    (hentries : ∀ x ∈ items, x.item.entry?.isSome = true) (pairings : List (Pairing items)) :
    (Sorted.ofList o d items).ReportsTies o d items pairings := by
  have hunion (id : Nat) : id ∈ (Sorted.ofList o d items).duplicates ↔
      ∃ g ∈ (Sorted.ofList o d items).groups, ∃ x ∈ g, x.id = id := by
    simp only [Sorted.duplicates, List.mem_map, List.mem_flatten]
    constructor
    · rintro ⟨x, ⟨g, hg, hx⟩, hid⟩
      exact ⟨g, hg, x, hx, hid⟩
    · rintro ⟨g, hg, x, hx, hid⟩
      exact ⟨x, ⟨g, hg, hx⟩, hid⟩
  have hduplicates (id : Nat) := @mem_duplicates_ofList_iff o d items hentries id
  have hmarks (id : Nat)
      (hid : id ∈ (o.compareAllMarking d [] (pairings.map Pairing.occurrences)).2) :
      id ∈ (Sorted.ofList o d items).duplicates :=
    (hduplicates id).2 (tiesElsewhere_of_mem_compareAllMarking pairings hid)
  -- as the marks add nothing, what is reported is what has a duplicate
  have hreported (id : Nat) : id ∈ (Sorted.ofList o d items).reported
        (o.compareAllMarking d [] (pairings.map Pairing.occurrences)).2 ↔
      id ∈ (Sorted.ofList o d items).duplicates := by
    rw [Sorted.mem_reported_iff]
    exact ⟨fun h => h.elim (fun h => h) (hmarks _), .inl⟩
  refine ⟨fun marked => ?_, fun id => ?_, fun id => ?_, fun id hid => ?_⟩
  · rw [compareAllMarking_fst, List.map_map]
    rfl
  · rw [hreported, hduplicates]
  · rw [hreported, hunion]
  · exact (hunion id).1 (hmarks id hid)

/-- A book that stands in a list twice, and another reference. -/
def bookTwice : List Occurrence :=
  [⟨0, .entry ⟨"book", some "a", []⟩⟩, ⟨1, .entry ⟨"misc", some "b", []⟩⟩,
    ⟨0, .entry ⟨"book", some "a", []⟩⟩]

/-- The first two places are compared, and the last with the first. -/
def bookPairings : List (Pairing bookTwice) :=
  [⟨⟨0, by decide⟩, ⟨1, by decide⟩, by decide⟩, ⟨⟨2, by decide⟩, ⟨0, by decide⟩, by decide⟩]

/-- The book is a duplicate of itself, of which one comparison leaves a mark. -/
theorem reportsTies_bookTwice :
    (∀ x ∈ bookTwice, x.item.entry?.isSome = true) ∧
      (Sorted.ofList ⟨["key"], []⟩ .braces bookTwice).ReportsTies ⟨["key"], []⟩ .braces bookTwice
        bookPairings ∧
      TiesElsewhere ⟨["key"], []⟩ .braces bookTwice 0 ∧
      ¬TiesElsewhere ⟨["key"], []⟩ .braces bookTwice 1 := by
  have hentries : ∀ x ∈ bookTwice, x.item.entry?.isSome = true := by decide
  refine ⟨hentries, reportsTies ⟨["key"], []⟩ .braces hentries bookPairings, ?_, ?_⟩
  · decide +kernel
  · decide +kernel

end Bibliography
