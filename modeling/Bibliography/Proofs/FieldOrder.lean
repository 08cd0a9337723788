import Bibliography.Layout.Render
import Bibliography.Proofs.TieClasses

/-!
# The order of fields in an entry

Field names are ordered by their place in a list and then by collation. Only equal names tie, so of
the fields of one name nothing changes places, and the sorted list is the only one that is in order
and keeps them so. Sorting the fields of an entry looks at nothing but their names, so it may be
done before or after their values change, and once is as good as twice. The width that names are
brought to does not depend on the order.

Main statements: `comparesNames_and_eq_sortFields_iff`, `sortFields_sortFields`, `sortFields_map`
and `nameWidth_eq_of_perm`.
-/

namespace Bibliography

/-! ## §1 Comparing names -/

theorem compareNames_eq (order : List String) (a b : String) : compareNames order a b =
    (compare (order.idxOf a) (order.idxOf b)).then (collate a b) :=
  comparePlaces_eq order collate_eq_iff.2

instance (order : List String) : Std.TransCmp (compareNames order) := by
  have hplace : Std.TransCmp fun a b : String => compare (order.idxOf a) (order.idxOf b) :=
    transCmp_comap compare _
  have hthen : Std.TransCmp fun a b =>
      (compare (order.idxOf a) (order.idxOf b)).then (collate a b) := transCmp_then _
  have heq : compareNames order =
      fun a b => (compare (order.idxOf a) (order.idxOf b)).then (collate a b) := by
    funext a b
    exact compareNames_eq order a b
  rwa [heq]

/-- Only equal names are at the same place. -/
theorem compareNames_eq_iff {order : List String} {a b : String} :
    compareNames order a b = .eq ↔ a = b := by
  rw [compareNames_eq, Ordering.then_eq_eq]
  constructor
  · exact fun h => collate_eq_iff.1 h.2
  · rintro rfl
    exact ⟨Nat.compare_eq_eq.2 rfl, collate_eq_iff.2 rfl⟩

/-- Listed names come first, in the order of their first places, and the others behind them in
collation order. -/
theorem isLE_compareNames_iff (order : List String) (a b : String) :
    (compareNames order a b).isLE = true ↔ (b ∈ order → a ∈ order) ∧
      (a ∈ order → b ∈ order → order.idxOf a ≤ order.idxOf b) ∧
      (a ∉ order → b ∉ order → (collate a b).isLE = true) := by
  unfold compareNames
  rw [idxOf?_eq_ite, idxOf?_eq_ite]
  by_cases ha : a ∈ order <;> by_cases hb : b ∈ order
  · simp [ha, hb, Nat.isLE_compare]
  · simp [ha, hb]
  · simp [ha, hb]
  · simp [ha, hb]

/-- Fields are compared by their names. -/
theorem transCmp_names (order : List String) :
    Std.TransCmp fun a b : Field => compareNames order a.name b.name :=
  transCmp_comap (compareNames order) Field.name

/-- What a comparison of fields has to be that looks at their names. -/
structure ComparesNames (order : List String) : Prop where
  /-- Fields tie exactly when they have the same name. -/
  eq_iff (f g : Field) : compareNames order f.name g.name = .eq ↔ f.name = g.name
  /-- Exchanging the fields turns the comparison around. -/
  antisymmetric (f g : Field) :
    compareNames order g.name f.name = (compareNames order f.name g.name).swap
  transitive (f g h : Field) : (compareNames order f.name g.name).isLE = true →
    (compareNames order g.name h.name).isLE = true → (compareNames order f.name h.name).isLE = true
  total (f g : Field) : (compareNames order f.name g.name).isLE = true ∨
    (compareNames order g.name f.name).isLE = true

theorem comparesNames (order : List String) : ComparesNames order where
  eq_iff _ _ := compareNames_eq_iff
  antisymmetric f g := @Std.OrientedCmp.eq_swap _ (compareNames order) _ g.name f.name
  transitive f g h := @Std.TransCmp.isLE_trans _ (compareNames order) _ f.name g.name h.name
  total f g := Bool.or_eq_true_iff.1 (isLE_or_isLE (compareNames order) f.name g.name)

/-! ## §2 Sorting fields -/

/-- What a list of fields has to be once it is sorted. -/
structure SortsFields (order : List String) (fields sorted : List Field) : Prop where
  /-- Nothing is lost or added. -/
  perm : sorted.Perm fields
  /-- No field whose name is listed comes behind one whose name is not. -/
  listedFirst : sorted.Pairwise fun f g => g.name ∈ order → f.name ∈ order
  /-- Fields whose names are listed follow the first places of their names. -/
  listed : sorted.Pairwise fun f g => f.name ∈ order → g.name ∈ order →
    order.idxOf f.name ≤ order.idxOf g.name
  /-- Fields whose names are not listed follow the collation order of their names. -/
  unlisted : sorted.Pairwise fun f g => f.name ∉ order → g.name ∉ order →
    (collate f.name g.name).isLE = true
  /-- Fields of one name keep their order. -/
  stable : ∀ name, sorted.filter (·.name == name) = fields.filter (·.name == name)

/-- The fields that tie with a field are those of its name. -/
theorem tiesOf_names (order : List String) (f : Field) (fields : List Field) :
    tiesOf (fun a b : Field => compareNames order a.name b.name) f fields =
      fields.filter (·.name == f.name) := by
  refine List.filter_congr fun g _ => ?_
  rw [Bool.eq_iff_iff, tied_iff, compareNames_eq_iff, beq_iff_eq, eq_comm]

theorem filter_name_sortFields (order : List String) (fields : List Field) (name : String) :
    (sortFields order fields).filter (·.name == name) = fields.filter (·.name == name) := by
  have := transCmp_names order
  refine filter_mergeSort_isLE (fun a b : Field => compareNames order a.name b.name) ?_ fields
  intro f g hf hg
  exact compareNames_eq_iff.2 ((beq_iff_eq.1 hf).trans (beq_iff_eq.1 hg).symm)

theorem pairwise_sortFields (order : List String) (fields : List Field) :
    (sortFields order fields).Pairwise
      fun f g => (compareNames order f.name g.name).isLE = true := by
  have := transCmp_names order
  exact pairwise_mergeSort_isLE (fun a b : Field => compareNames order a.name b.name) fields

theorem sortsFields_sortFields (order : List String) (fields : List Field) :
    SortsFields order fields (sortFields order fields) where
  perm := sortFields_perm order fields
  listedFirst := (pairwise_sortFields order fields).imp fun h =>
    ((isLE_compareNames_iff order _ _).1 h).1
  listed := (pairwise_sortFields order fields).imp fun h =>
    ((isLE_compareNames_iff order _ _).1 h).2.1
  unlisted := (pairwise_sortFields order fields).imp fun h =>
    ((isLE_compareNames_iff order _ _).1 h).2.2
  stable := filter_name_sortFields order fields

theorem SortsFields.pairwise {order : List String} {fields sorted : List Field}
    (h : SortsFields order fields sorted) :
    sorted.Pairwise fun f g => (compareNames order f.name g.name).isLE = true :=
  (h.listedFirst.and (h.listed.and h.unlisted)).imp fun h =>
    (isLE_compareNames_iff order _ _).2 h

/-- Comparing fields by a list of names is a total preorder in which only equal names tie. Sorting
by it puts listed names first, by their first places, and the others behind them in collation order,
with the fields of one name as they were; no other list of fields is sorted so. -/
theorem comparesNames_and_eq_sortFields_iff (order : List String) :
    ComparesNames order ∧ ∀ fields sorted : List Field,
      sorted = sortFields order fields ↔ SortsFields order fields sorted := by
  refine ⟨comparesNames order, fun fields sorted => ?_⟩
  constructor
  · rintro rfl
    exact sortsFields_sortFields order fields
  · intro h
    have := transCmp_names order
    -- the names decide the order up to ties, and stability decides the rest
    refine eq_of_tiesOf_eq (fun a b : Field => compareNames order a.name b.name) h.pairwise
      (pairwise_sortFields order fields) fun f => ?_
    rw [tiesOf_names, tiesOf_names, h.stable, filter_name_sortFields]

theorem sortFields_sortFields (order : List String) (fields : List Field) :
    sortFields order (sortFields order fields) = sortFields order fields := by
  have := transCmp_names order
  exact mergeSort_mergeSort_isLE (fun a b : Field => compareNames order a.name b.name) fields

/-- What leaves the names of fields as they are may be done after sorting as well as before. -/
theorem sortFields_map (order : List String) {g : Field → Field} (hg : ∀ f, (g f).name = f.name)
    (fields : List Field) : sortFields order (fields.map g) = (sortFields order fields).map g := by
  symm
  refine List.map_mergeSort fun a _ b _ => ?_
  rw [hg, hg]

/-- An entry is arranged once for all, also when the values of its fields change afterwards. -/
theorem arrange_map_fields (l : Layout) {g : Field → Field} (hg : ∀ f, (g f).name = f.name)
    (e : Entry) : (l.arrange { e with fields := (l.arrange e).fields.map g }).fields =
      (l.arrange e).fields.map g := by
  unfold Layout.arrange
  cases l.sortFields with
  | false => rfl
  | true =>
    simp only [if_true]
    rw [sortFields_map l.fieldsOrder hg, sortFields_sortFields]

/-! ## §3 Widths -/

theorem nameWidth_eq_of_perm (l : Layout) {fs gs : List Field}
    (h : (fs.map (·.name)).Perm (gs.map (·.name))) : l.nameWidth fs = l.nameWidth gs := by
  unfold Layout.nameWidth
  split
  · have hlen := h.map String.length
    rw [List.map_map, List.map_map] at hlen
    exact hlen.foldl_eq' (fun x _ y _ z => by omega) 0
  · rfl

end Bibliography
