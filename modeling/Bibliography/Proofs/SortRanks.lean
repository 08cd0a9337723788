import Bibliography.Proofs.ItemOrder

/-!
# The ranks of an item

What an arrangement compares of an item, as one list: the place of its type among the pins, and for
each sort key the text that the key stands for. Of two items the first difference of these lists
decides, so the comparison of items is a lexicographic order. It is a total preorder, in which items
tie exactly when their lists are the same.

Main statement: `comparesByRanks`.
-/

namespace Bibliography

/-! ## §1 Ranks -/

/-- What is compared of an item on one level. -/
inductive Rank where
  /-- A place, the first of which comes first. -/
  | place (n : Nat)
  /-- A text in collation order; what has no text comes before all texts. -/
  | text (s : Option String)
  /-- A text in reversed collation order. -/
  | latest (s : String)
  deriving DecidableEq, Repr

/-- Compares texts that may be missing in collation order, a missing text first. -/
def collateOptional : Option String → Option String → Ordering
  | none, none => .eq
  | none, some _ => .lt
  | some _, none => .gt
  | some s, some t => collate s t

theorem collateOptional_eq_iff {s t : Option String} : collateOptional s t = .eq ↔ s = t := by
  cases s with
  | none => cases t <;> simp [collateOptional]
  | some s => cases t <;> simp [collateOptional, collate_eq_iff]

namespace Rank

/-- Compares two ranks. The ranks of one level are of one kind, so the last three lines are never
used; they put the kinds in order. -/
def compare : Rank → Rank → Ordering
  | .place m, .place n => Ord.compare m n
  | .text s, .text t => collateOptional s t
  | .latest s, .latest t => collate t s
  | .place _, _ => .lt
  | .text _, .latest _ => .lt
  | _, _ => .gt

/-- No two ranks are at the same place. -/
instance : Std.LawfulEqCmp Rank.compare where
  compare_self {r} := by
    cases r with
    | place n => exact Nat.compare_eq_eq.2 rfl
    | text s => exact collateOptional_eq_iff.2 rfl
    | latest s => exact collate_eq_iff.2 rfl
  eq_of_compare {r s} h := by
    -- ranks of different kinds do not tie
    cases r with
    | place m =>
      cases s with
      | place n => exact congrArg Rank.place (Nat.compare_eq_eq.1 h)
      | text | latest => cases h
    | text x =>
      cases s with
      | text y => exact congrArg Rank.text (collateOptional_eq_iff.1 h)
      | place | latest => cases h
    | latest x =>
      cases s with
      | latest y => exact congrArg Rank.latest (collate_eq_iff.1 h).symm
      | place | text => cases h

end Rank

/-! ## §2 The ranks of an item -/

/-- The first field of an item with a name, as it is written without braces; empty for an item that
has no such field. -/
def Item.plainText (d : Delimiters) (name : String) (i : Item) : String :=
  let field? := i.entry?.bind fun e => e.fields.find? fun f => f.name == name
  String.ofList ((field?.elim [] fun f => f.value.render d []).filter (· ∉ ['{', '}']))

/-- What a sort key compares of an item. -/
def Item.rank (d : Delimiters) (name : String) (i : Item) : Rank :=
  if name = "key" then .text i.citationKey?
  else if name = "type" then .text (some i.type)
  else if name = "year-desc" then .latest (i.plainText d "year")
  else .text (some (i.plainText d name))

/-- What an arrangement compares of an item, the most significant first. A type that is not pinned
has its place behind all that are. -/
def Arrangement.ranks (o : Arrangement) (d : Delimiters) (i : Item) : List Rank :=
  .place (o.firstEntries.idxOf i.type) :: o.sortBy.map fun name => i.rank d name

theorem fieldText_eq_plainText (d : Delimiters) (name : String) (i : Item) :
    i.fieldText d name = i.plainText d name := by
  have hbraces : (fun c : Char => c != '{' && c != '}') = fun c => decide (c ∉ ['{', '}']) := by
    funext c
    simp [bne, beq_eq_decide]
  cases i with
  | verbatim v => rfl
  | entry e =>
    simp only [Item.fieldText, Item.plainText, Item.entry?, Entry.find?, Option.bind_some, hbraces]
    cases e.fields.find? fun f => f.name == name <;> rfl

/-- A sort key compares the ranks that it gives. -/
theorem compare_ofName (d : Delimiters) (name : String) (a b : Item) :
    (SortKey.ofName name).compare d a b = (a.rank d name).compare (b.rank d name) := by
  unfold SortKey.ofName Item.rank
  by_cases hkey : name = "key"
  · rw [if_pos hkey, if_pos hkey, if_pos hkey, SortKey.compare, compareKeys]
    cases a.citationKey? <;> cases b.citationKey? <;> rfl
  rw [if_neg hkey, if_neg hkey, if_neg hkey]
  by_cases htype : name = "type"
  · subst htype
    rfl
  rw [if_neg htype, if_neg htype, if_neg htype]
  by_cases hyear : name = "year-desc"
  · -- turning the comparison around exchanges the items
    rw [if_pos hyear, if_pos hyear, if_pos hyear, SortKey.compare, compareFieldTexts, collate_swap,
      fieldText_eq_plainText, fieldText_eq_plainText]
    rfl
  · rw [if_neg hyear, if_neg hyear, if_neg hyear, SortKey.compare, compareFieldTexts,
      fieldText_eq_plainText, fieldText_eq_plainText]
    rfl

theorem compareSortKeys_eq_compareLex (d : Delimiters) (names : List String) (a b : Item) :
    compareSortKeys d names a b = List.compareLex Rank.compare
      (names.map fun name => a.rank d name) (names.map fun name => b.rank d name) := by
  induction names with
  | nil => rfl
  | cons name names ih =>
    rw [compareSortKeys, compare_ofName, ih, List.map_cons, List.map_cons,
      List.compareLex_cons_cons]

/-- Of the ranks of two items the first difference decides. -/
theorem compare_eq_compareLex (o : Arrangement) (d : Delimiters) (a b : Item) :
    o.compare d a b = List.compareLex Rank.compare (o.ranks d a) (o.ranks d b) := by
  rw [Arrangement.compare, comparePins_eq, compareSortKeys_eq_compareLex, Arrangement.ranks,
    Arrangement.ranks, List.compareLex_cons_cons]
  rfl

theorem compare_eq_iff_ranks_eq (o : Arrangement) (d : Delimiters) (a b : Item) :
    o.compare d a b = .eq ↔ o.ranks d a = o.ranks d b := by
  rw [compare_eq_compareLex]
  exact Std.LawfulEqCmp.compare_eq_iff_eq

/-! ## §3 The order of items -/

/-- What a comparison of items by their ranks has to be. -/
structure Arrangement.ComparesByRanks (o : Arrangement) (d : Delimiters) : Prop where
  /-- The first difference of the ranks decides. -/
  lexicographic (a b : Item) :
    o.compare d a b = List.compareLex Rank.compare (o.ranks d a) (o.ranks d b)
  /-- Items tie exactly when their ranks are the same. -/
  ties_iff (a b : Item) : o.compare d a b = .eq ↔ o.ranks d a = o.ranks d b
  /-- Exchanging the items turns the comparison around. -/
  antisymmetric (a b : Item) : o.compare d b a = (o.compare d a b).swap
  transitive (a b c : Item) : (o.compare d a b).isLE = true → (o.compare d b c).isLE = true →
    (o.compare d a c).isLE = true
  equivalence : Equivalence fun a b => o.compare d a b = .eq
  /-- Items that tie are compared alike with any other, from either side. -/
  respects (a b c : Item) : o.compare d a b = .eq →
    o.compare d a c = o.compare d b c ∧ o.compare d c a = o.compare d c b

/-- Items are compared by their ranks. -/
theorem comparesByRanks (o : Arrangement) (d : Delimiters) : o.ComparesByRanks d where
  lexicographic := compare_eq_compareLex o d
  ties_iff := compare_eq_iff_ranks_eq o d
  antisymmetric a b := @Std.OrientedCmp.eq_swap _ (o.compare d) _ b a
  transitive a b c := @Std.TransCmp.isLE_trans _ (o.compare d) _ a b c
  equivalence := by
    -- ties are equalities of ranks
    have hties : (fun a b => o.compare d a b = .eq) = fun a b => o.ranks d a = o.ranks d b := by
      funext a b
      exact propext (compare_eq_iff_ranks_eq o d a b)
    rw [hties]
    exact (@eq_equivalence (List Rank)).comap (o.ranks d)
  respects a b c hab := by
    constructor
    · exact @Std.TransCmp.congr_left _ (o.compare d) _ a b c hab
    · exact @Std.TransCmp.congr_right _ (o.compare d) _ c a b hab

/-- A missing key, an empty one and a block that is kept have the same rank. -/
example (d : Delimiters) (fields : List Field) :
    (Item.entry ⟨"book", none, fields⟩).rank d "key" = .text none ∧
      (Item.entry ⟨"book", some "", fields⟩).rank d "key" = .text none ∧
      (Item.verbatim ⟨"string", "x"⟩).rank d "key" = .text none :=
  ⟨rfl, rfl, rfl⟩

end Bibliography
