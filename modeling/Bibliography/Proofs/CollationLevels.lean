import Bibliography.Proofs.TieClasses

/-!
# The levels of collation

Texts are collated by four levels: their base letters, their folded form, their form with the cases
exchanged, and the texts themselves. What base letters, folding and the exchange of cases are is a
matter of tables, on which nothing here depends: none of the first three levels has to tell texts
apart, and no two of them have to fit together. That only equal texts tie is due to the last level
alone, and the order is total because each level is compared by code points.

Equal texts tie without a look at their levels (`LevelMaps.collate`). This makes no exception to the
comparison of levels, since equal texts have equal levels (`LevelMaps.collate_eq_compare`).

Main statement: `forall_collates_and_collate_unicode`.
-/

namespace Bibliography

open Text

/-! ## §1 Code points -/

/-- The code points of a text. -/
def codePoints (s : String) : List Nat := s.toList.map Char.toNat

/-- Compares two texts by code points: the first difference decides, and a text comes before its
continuations. -/
def compareCodePoints (s t : String) : Ordering :=
  List.compareLex compare (codePoints s) (codePoints t)

/-- Comparisons are equal if they put the same things before one another. -/
theorem cmp_eq_of_lt_iff {α : Type} {cmp cmp' : α → α → Ordering} [Std.OrientedCmp cmp]
    [Std.OrientedCmp cmp'] (h : ∀ a b, cmp a b = .lt ↔ cmp' a b = .lt) : cmp = cmp' := by
  funext a b
  have hlt := h a b
  -- the greater results are the smaller ones of the exchanged pair
  have hgt : cmp a b = .gt ↔ cmp' a b = .gt := by
    rw [Std.OrientedCmp.gt_iff_lt, Std.OrientedCmp.gt_iff_lt]
    exact h b a
  cases hab : cmp a b with
  | lt => exact (hlt.1 hab).symm
  | gt => exact (hgt.1 hab).symm
  | eq =>
    -- neither smaller nor greater for the one is neither for the other
    cases hab' : cmp' a b with
    | eq => rfl
    | lt => rw [← hab, hlt.2 hab']
    | gt => rw [← hab, hgt.2 hab']

/-- Helper: characters come before one another as their code points do. -/
private theorem compareLex_toNat_eq_lt_iff (s t : List Char) :
    List.compareLex compare (s.map Char.toNat) (t.map Char.toNat) = .lt ↔ s < t := by
  induction s generalizing t with
  | nil => cases t <;> simp [List.compareLex]
  | cons c s ih =>
    cases t with
    | nil => simp [List.compareLex]
    | cons d t =>
      have hlt : c < d ↔ c.toNat < d.toNat := Iff.rfl
      rw [List.map_cons, List.map_cons, List.compareLex_cons_cons, Ordering.then_eq_lt,
        List.cons_lt_cons_iff, ih, Nat.compare_eq_lt, Nat.compare_eq_eq, Char.toNat_inj, hlt]

instance : Std.TransCmp compareCodePoints :=
  transCmp_comap (List.compareLex compare) codePoints

/-- The order of texts is that of their code points. -/
theorem compareCodePoints_eq_compare : compareCodePoints = compare := by
  apply cmp_eq_of_lt_iff
  intro s t
  have hcompare : compare s t = .lt ↔ s.toList < t.toList := compareOfLessAndEq_eq_lt
  rw [hcompare]
  exact compareLex_toNat_eq_lt_iff s.toList t.toList

/-! ## §2 Levels -/

/-- The mappings of texts that levels are made with. -/
structure LevelMaps where
  /-- The text without its accents. -/
  strip : String → String
  /-- The text without its cases. -/
  fold : String → String
  /-- The text with its cases exchanged. -/
  swap : String → String

namespace LevelMaps

variable (m : LevelMaps)

/-- What is left of a text without its cases and accents. -/
def base (s : String) : String := m.strip (m.fold s)

/-- The key of a text. -/
def key (s : String) : CollationKey := ⟨m.base s, m.fold s, m.swap s, s⟩

/-- The levels of a text, the first one that is compared in front. -/
def levels (s : String) : List String := [m.base s, m.fold s, m.swap s, s]

/-- Compares the levels of two texts: the first that differs decides, by its code points. -/
def compareLevels (s t : String) : Ordering :=
  List.compareLex compareCodePoints (m.levels s) (m.levels t)

/-- Collates two texts. If they are equal, no level is made. -/
def collate (s t : String) : Ordering :=
  if s = t then .eq else (m.key s).compare (m.key t)

/-- The mappings of Unicode. -/
def unicode : LevelMaps where
  strip s := String.ofList (stripAccents s.toList)
  fold s := String.ofList (caseFold s.toList)
  swap s := String.ofList (swapCase s.toList)

theorem key_unicode : unicode.key = collationKey := by
  funext s
  simp only [key, base, unicode, collationKey, String.toList_ofList]

/-- The levels of equal texts are equal, so looking at them first would make no difference. -/
theorem collate_eq_compare (s t : String) : m.collate s t = (m.key s).compare (m.key t) := by
  unfold collate
  split
  · next h =>
    rw [h]
    exact (@Std.ReflCmp.compare_self _ CollationKey.compare _ _).symm
  · rfl

theorem collate_eq_then (s t : String) : m.collate s t =
    (compareCodePoints (m.base s) (m.base t)).then
      ((compareCodePoints (m.fold s) (m.fold t)).then
        ((compareCodePoints (m.swap s) (m.swap t)).then (compareCodePoints s t))) := by
  rw [collate_eq_compare, compareCodePoints_eq_compare]
  rfl

theorem collate_unicode : unicode.collate = Bibliography.collate := by
  funext s t
  rw [collate_eq_compare, key_unicode]
  rfl

/-- Texts are collated by comparing their levels. -/
theorem collate_eq_compareLevels : m.collate = m.compareLevels := by
  funext s t
  rw [collate_eq_then, compareLevels, levels, levels]
  simp only [List.compareLex_cons_cons, List.compareLex_nil_nil, Ordering.then_eq]

instance : Std.TransCmp m.compareLevels :=
  transCmp_comap (List.compareLex compareCodePoints) m.levels

/-- The last level tells different texts apart. -/
theorem collate_eq_iff_eq {s t : String} : m.collate s t = .eq ↔ s = t := by
  constructor
  · intro h
    rw [collate_eq_then] at h
    simp only [Ordering.then_eq_eq] at h
    rw [compareCodePoints_eq_compare] at h
    exact Std.LawfulEqOrd.eq_of_compare h.2.2.2
  · exact fun h => if_pos h

/-- Helper: a level decides if the levels before it tie and it does not. -/
private theorem then_of_ne {s t : String} (h : s ≠ t) (rest : Ordering) :
    (compareCodePoints s t).then rest = compareCodePoints s t := by
  have hne : compareCodePoints s t ≠ .eq := by
    rw [compareCodePoints_eq_compare]
    exact fun heq => h (Std.LawfulEqOrd.eq_of_compare heq)
  cases hc : compareCodePoints s t with
  | lt => rfl
  | eq => exact absurd hc hne
  | gt => rfl

/-- Helper: a level that ties leaves the decision to the levels behind it. -/
private theorem then_of_eq {s t : String} (h : s = t) (rest : Ordering) :
    (compareCodePoints s t).then rest = rest := by
  have heq : compareCodePoints s t = .eq := h ▸ Std.ReflCmp.compare_self
  rw [heq]
  rfl

end LevelMaps

/-! ## §3 Sorting -/

/-- A list that has been sorted by a comparison, with what ties as it was. -/
structure IsStableSort {α : Type} (cmp : α → α → Ordering) (l sorted : List α) : Prop where
  /-- Nothing is lost or added. -/
  perm : sorted.Perm l
  inOrder : sorted.Pairwise fun x y => (cmp x y).isLE = true
  /-- What ties keeps its order. -/
  stable : ∀ x, tiesOf cmp x sorted = tiesOf cmp x l

/-- There is one stable sort by a comparison. -/
theorem isStableSort_iff {α : Type} (cmp : α → α → Ordering) [Std.TransCmp cmp]
    (l sorted : List α) :
    IsStableSort cmp l sorted ↔ sorted = l.mergeSort fun x y => (cmp x y).isLE := by
  -- merge sort keeps the members of a tie class in their order
  have hties (x : α) : tiesOf cmp x (l.mergeSort fun x y => (cmp x y).isLE) = tiesOf cmp x l := by
    refine filter_mergeSort_isLE cmp (fun a b ha hb => ?_) l
    rwa [tied_congr cmp ha, tied_iff] at hb
  constructor
  · intro h
    -- two lists in order with the same tie classes are the same
    refine eq_of_tiesOf_eq cmp h.inOrder (pairwise_mergeSort_isLE cmp l) fun x => ?_
    rw [h.stable, hties]
  · rintro rfl
    exact ⟨List.mergeSort_perm _ _, pairwise_mergeSort_isLE cmp l, hties⟩

/-! ## §4 Collation -/

/-- What a comparison of texts has to be that goes by the levels that mappings give. -/
structure LevelMaps.Collates (m : LevelMaps) (cmp : String → String → Ordering) : Prop where
  /-- The first level that differs decides, by the first code point that differs. -/
  byLevels (s t : String) : cmp s t = m.compareLevels s t
  /-- Only equal texts tie. -/
  eq_iff (s t : String) : cmp s t = .eq ↔ s = t
  /-- Exchanging the texts turns the comparison around. -/
  antisymmetric (s t : String) : cmp t s = (cmp s t).swap
  transitive (s t u : String) :
    (cmp s t).isLE = true → (cmp t u).isLE = true → (cmp s u).isLE = true
  /-- Where the base letters differ, they alone decide. -/
  base (s t : String) : m.base s ≠ m.base t → cmp s t = compareCodePoints (m.base s) (m.base t)
  /-- Where only the base letters are the same, the folded forms decide. -/
  fold (s t : String) : m.base s = m.base t → m.fold s ≠ m.fold t →
    cmp s t = compareCodePoints (m.fold s) (m.fold t)
  /-- Where the folded forms are the same as well, the forms with the cases exchanged decide. -/
  swap (s t : String) : m.fold s = m.fold t → m.swap s ≠ m.swap t →
    cmp s t = compareCodePoints (m.swap s) (m.swap t)
  /-- Whatever is listed under a name, there is one stable sort by the levels of the names, and this
  is also the one by the comparison. -/
  sorts {α : Type} (name : α → String) (l sorted : List α) :
    (IsStableSort (fun x y => m.compareLevels (name x) (name y)) l sorted ↔
      sorted = l.mergeSort fun x y => (cmp (name x) (name y)).isLE) ∧
    (IsStableSort (fun x y => cmp (name x) (name y)) l sorted ↔
      sorted = l.mergeSort fun x y => (cmp (name x) (name y)).isLE)

theorem LevelMaps.collates_collate (m : LevelMaps) : m.Collates m.collate where
  byLevels := by
    rw [collate_eq_compareLevels]
    exact fun _ _ => rfl
  eq_iff _ _ := m.collate_eq_iff_eq
  antisymmetric s t := by
    rw [collate_eq_compareLevels]
    exact @Std.OrientedCmp.eq_swap _ m.compareLevels _ t s
  transitive s t u := by
    rw [collate_eq_compareLevels]
    exact Std.TransCmp.isLE_trans
  base s t h := by
    rw [collate_eq_then, then_of_ne h]
  fold s t hbase h := by
    rw [collate_eq_then, then_of_eq hbase, then_of_ne h]
  swap s t hfold h := by
    -- texts with the same folded form have the same base letters
    have hbase : m.base s = m.base t := congrArg m.strip hfold
    rw [collate_eq_then, then_of_eq hbase, then_of_eq hfold, then_of_ne h]
  sorts name l sorted := by
    have := transCmp_comap m.compareLevels name
    rw [collate_eq_compareLevels, isStableSort_iff]
    exact ⟨Iff.rfl, Iff.rfl⟩

/-- Whatever the mappings are that levels are made with, texts are collated by their levels. With
the mappings of Unicode this is the collation order. -/
theorem forall_collates_and_collate_unicode : (∀ m : LevelMaps, m.Collates m.collate) ∧
    LevelMaps.unicode.key = collationKey ∧ LevelMaps.unicode.collate = collate :=
  ⟨LevelMaps.collates_collate, LevelMaps.key_unicode, LevelMaps.collate_unicode⟩

end Bibliography
