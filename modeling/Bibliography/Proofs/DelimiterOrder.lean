import Bibliography.Proofs.QuotedTexts
import Bibliography.Proofs.SortedTexts

/-!
# What the layout does to the order

Items are compared by the texts of fields as they are written. Of the layout only the delimiters
show in such a text, and of these the braces are removed again, so quotation marks are compared like
any other character of a text. They come before letters: a text in quotation marks is less than any
bare word, and what is written behind a shorter text is compared with its closing mark.

Settings of one arrangement therefore order items alike if they have the same delimiters or sort by
no field, and otherwise they do not; but lists whose fields that are sorted by hold no text are in
any case sorted alike.

Main statement: `sortsAlike_iff`.
-/

namespace Bibliography

open Text

/-! ## §1 Values without texts -/

mutual

/-- Whether a value holds no text between delimiters. -/
def Value.isBare : Value → Bool
  | .text _ => false
  | .number _ => true
  | .abbreviation _ => true
  | .concat parts => Value.areBare parts

/-- Whether none of the parts of a value holds a text. -/
def Value.areBare : List Value → Bool
  | [] => true
  | v :: vs => v.isBare && Value.areBare vs

end

mutual

/-- The delimiters do not show in a value that holds no text. -/
theorem Value.render_of_isBare (d d' : Delimiters) (p : List Char) :
    ∀ v : Value, v.isBare = true → v.render d p = v.render d' p
  | .text _, h => by cases h
  | .number _, _ => rfl
  | .abbreviation _, _ => rfl
  | .concat parts, h => by
    rw [Value.render, Value.render, Value.renderParts_of_areBare d d' p parts h]

theorem Value.renderParts_of_areBare (d d' : Delimiters) (p : List Char) :
    ∀ vs : List Value, Value.areBare vs = true →
      Value.renderParts d p vs = Value.renderParts d' p vs
  | [], _ => rfl
  | v :: vs, h => by
    obtain ⟨hv, hvs⟩ := Bool.and_eq_true_iff.1 h
    rw [Value.renderParts, Value.renderParts, Value.render_of_isBare d d' p v hv,
      Value.renderParts_of_areBare d d' p vs hvs]

end

/-- An item whose fields that are sorted by hold no text. -/
def Item.SortsBare (o : Arrangement) (i : Item) : Prop :=
  ∀ key ∈ o.sortBy, ∀ name ∈ (SortKey.ofName key).field?, ∀ e ∈ i.entry?, ∀ f ∈ e.find? name,
    f.value.isBare = true

theorem Item.fieldText_of_isBare (d d' : Delimiters) {i : Item} {name : String}
    (h : ∀ e ∈ i.entry?, ∀ f ∈ e.find? name, f.value.isBare = true) :
    i.fieldText d name = i.fieldText d' name := by
  unfold Item.fieldText
  cases hentry : i.entry? with
  | none => rfl
  | some e =>
    cases hfind : e.find? name with
    | none => simp only [hfind]
    | some f => simp only [hfind, Value.render_of_isBare d d' [] f.value (h e hentry f hfind)]

theorem compare_of_sortsBare {o : Arrangement} (d d' : Delimiters) {a b : Item}
    (ha : a.SortsBare o) (hb : b.SortsBare o) : o.compare d a b = o.compare d' a b :=
  Arrangement.compare_congr ⟨rfl, rfl⟩ ⟨rfl, rfl⟩ fun key hkey name hname =>
    ⟨Item.fieldText_of_isBare d d' (ha key hkey name hname),
      Item.fieldText_of_isBare d d' (hb key hkey name hname)⟩

/-! ## §2 Comparisons that agree -/

section Congruence

variable {α : Type} {cmp cmp' : α → α → Ordering} {l : List α}
  (h : ∀ a ∈ l, ∀ b ∈ l, cmp a b = cmp' a b)

include h

/-- Sorting looks at the comparison of elements of the list only. -/
theorem mergeSort_isLE_congr :
    (l.mergeSort fun a b => (cmp a b).isLE) = l.mergeSort fun a b => (cmp' a b).isLE := by
  have hmap : (l.mergeSort fun a b => (cmp a b).isLE).map id =
      (l.map id).mergeSort fun a b => (cmp' a b).isLE :=
    List.map_mergeSort fun a ha b hb => congrArg Ordering.isLE (h a ha b hb)
  rwa [List.map_id, List.map_id] at hmap

theorem tieClasses_congr : tieClasses cmp l = tieClasses cmp' l := by
  fun_induction tieClasses cmp l with
  | case1 => rw [tieClasses]
  | case2 x l ih =>
    -- the comparisons agree on the list, so the same elements are tied with its first one
    have htied : ∀ y ∈ l, tied cmp x y = tied cmp' x y := fun y hy => by
      rw [tied, tied, h x List.mem_cons_self y (List.mem_cons_of_mem _ hy)]
    have hothers : othersThan cmp x l = othersThan cmp' x l :=
      List.filter_congr fun y hy => by rw [htied y hy]
    -- the others are members too, which gives the induction hypothesis its assumption
    have hmem {y : α} (hy : y ∈ othersThan cmp x l) : y ∈ x :: l :=
      List.mem_cons_of_mem _ (List.mem_filter.1 hy).1
    rw [tieClasses, ← hothers, ih fun a ha b hb => h a (hmem ha) b (hmem hb),
      tiesOf, tiesOf, List.filter_congr htied]

end Congruence

/-- Items that are compared alike are sorted alike, with the same groups. -/
theorem sorted_ofList_congr {o : Arrangement} {d d' : Delimiters} {xs : List Occurrence}
    (h : ∀ x ∈ xs, ∀ y ∈ xs, o.compare d x.item y.item = o.compare d' x.item y.item) :
    Sorted.ofList o d xs = Sorted.ofList o d' xs := by
  have hsort : o.sort d xs = o.sort d' xs := mergeSort_isLE_congr h
  have hmem {x : Occurrence} (hx : x ∈ entriesOf (o.sort d' xs)) : x ∈ xs :=
    (o.sort_perm d' xs).mem_iff.1 (List.mem_filter.1 hx).1
  have hgroups : (Sorted.ofList o d xs).groups = (Sorted.ofList o d' xs).groups := by
    rw [groups_ofList, groups_ofList, hsort]
    exact congrArg _ (tieClasses_congr fun x hx y hy => h x (hmem hx) y (hmem hy))
  exact congrArg₂ Sorted.mk hsort hgroups

/-- Two occurrences are sorted by whether the first is at most the second. -/
theorem sort_pair (o : Arrangement) (d : Delimiters) (x y : Occurrence) :
    o.sort d [x, y] = if (o.compare d x.item y.item).isLE then [x, y] else [y, x] := by
  simp [Arrangement.sort, List.mergeSort, List.MergeSort.Internal.splitInTwo, List.merge]

/-- Lists are sorted alike exactly when items are compared alike: two comparisons that differ put
two items in a different order. -/
theorem sorted_ofList_eq_iff (o : Arrangement) (d d' : Delimiters) :
    (∀ xs, Sorted.ofList o d xs = Sorted.ofList o d' xs) ↔
      ∀ a b, o.compare d a b = o.compare d' a b := by
  refine ⟨fun h a b => ?_, fun h xs => sorted_ofList_congr fun x _ y _ => h x.item y.item⟩
  have hle (a b : Item) : (o.compare d a b).isLE = (o.compare d' a b).isLE := by
    have hpair := congrArg Sorted.items (h [⟨0, a⟩, ⟨1, b⟩])
    have hids := congrArg (List.map Occurrence.id) hpair
    simp only [Sorted.ofList, sort_pair, apply_ite (List.map Occurrence.id), List.map_cons,
      List.map_nil] at hids
    revert hids
    cases (o.compare d a b).isLE <;> cases (o.compare d' a b).isLE <;> decide
  -- a comparison is known from whether either item is at most the other
  have hswap (d : Delimiters) : o.compare d b a = (o.compare d a b).swap :=
    Std.OrientedCmp.eq_swap
  have hab := hle a b
  have hba := hle b a
  rw [hswap, hswap] at hba
  revert hab hba
  cases o.compare d a b <;> cases o.compare d' a b <;> decide

/-! ## §3 A comparison that the delimiters decide -/

/-- An item that has one field and nothing else. -/
def itemWith (name : String) (v : Value) : Item := .entry ⟨"misc", none, [⟨name, v⟩]⟩

theorem fieldText_itemWith (d : Delimiters) (name : String) (v : Value) :
    (itemWith name v).fieldText d name =
      String.ofList ((v.render d []).filter fun c => c != '{' && c != '}') := by
  simp [Item.fieldText, itemWith, Item.entry?, Entry.find?]

/-- A bare letter comes before a text in braces that begins with the next one, and behind any text
in quotation marks. -/
theorem compareFieldTexts_itemWith (name : String) :
    compareFieldTexts .braces name (itemWith name (.abbreviation "a"))
        (itemWith name (.text "b")) = .lt ∧
      compareFieldTexts .quotes name (itemWith name (.abbreviation "a"))
        (itemWith name (.text "b")) = .gt := by
  simp only [compareFieldTexts, fieldText_itemWith]
  decide +kernel

/-- A sort key of a field compares the two the one way with braces and the other way with quotation
marks. -/
theorem compare_itemWith {key : SortKey} {name : String} (hname : key.field? = some name) :
    ∃ c : Ordering, c ≠ .eq ∧
      key.compare .braces (itemWith name (.abbreviation "a")) (itemWith name (.text "b")) = c ∧
      key.compare .quotes (itemWith name (.abbreviation "a")) (itemWith name (.text "b")) =
        c.swap := by
  obtain ⟨hbraces, hquotes⟩ := compareFieldTexts_itemWith name
  -- the keys without a field are excluded by the name
  cases key with
  | citationKey => cases hname
  | type => cases hname
  -- the years are compared from the latest on, so both results are turned round
  | latestYear =>
    obtain rfl : "year" = name := Option.some.inj hname
    exact ⟨.gt, by decide, congrArg Ordering.swap hbraces, congrArg Ordering.swap hquotes⟩
  | field name' =>
    obtain rfl : name' = name := Option.some.inj hname
    exact ⟨.lt, by decide, hbraces, hquotes⟩

/-- Items of one field tie on a sort key that is not that of a field. -/
theorem compare_itemWith_of_field?_eq_none {key : SortKey} (hkey : key.field? = none)
    (d : Delimiters) (name : String) (v w : Value) :
    key.compare d (itemWith name v) (itemWith name w) = .eq := by
  cases key with
  | citationKey => rfl
  | type =>
    rw [SortKey.compare, compareTypes]
    exact collate_eq_iff.2 rfl
  | latestYear => cases hkey
  | field name => cases hkey

/-- Whether none of the sort keys is that of a field. -/
def Arrangement.SortsByNoField (o : Arrangement) : Prop :=
  ∀ key ∈ o.sortBy, (SortKey.ofName key).field? = none

/-- The first sort key of a field decides. -/
theorem exists_compareSortKeys_ne {names : List String}
    (h : ¬∀ key ∈ names, (SortKey.ofName key).field? = none) :
    ∃ name, compareSortKeys .braces names (itemWith name (.abbreviation "a"))
        (itemWith name (.text "b")) ≠
      compareSortKeys .quotes names (itemWith name (.abbreviation "a"))
        (itemWith name (.text "b")) := by
  induction names with
  | nil => exact absurd (fun key hkey => by cases hkey) h
  | cons key names ih =>
    cases hkey : (SortKey.ofName key).field? with
    -- this key reads a field; it tells the two items apart, once one way and once the other
    | some name =>
      obtain ⟨c, hc, hbraces, hquotes⟩ := compare_itemWith hkey
      refine ⟨name, ?_⟩
      rw [compareSortKeys, compareSortKeys, hbraces, hquotes]
      cases c with
      | eq => exact absurd rfl hc
      | lt => simp
      | gt => simp
    -- this key reads none and ties them, so the rest of the list decides
    | none =>
      have hrest : ¬∀ key ∈ names, (SortKey.ofName key).field? = none :=
        fun hnames => h (List.forall_mem_cons.2 ⟨hkey, hnames⟩)
      obtain ⟨name, hne⟩ := ih hrest
      refine ⟨name, ?_⟩
      rwa [compareSortKeys, compareSortKeys, compare_itemWith_of_field?_eq_none hkey,
        compare_itemWith_of_field?_eq_none hkey, Ordering.eq_then, Ordering.eq_then]

/-- All items are compared alike with two choices of delimiters exactly when the choices are the
same or no field is sorted by. -/
theorem compare_eq_iff (o : Arrangement) (d d' : Delimiters) :
    (∀ a b, o.compare d a b = o.compare d' a b) ↔ d = d' ∨ o.SortsByNoField := by
  constructor
  · intro h
    -- if the delimiters differ and a field is read, two items compare differently
    by_contra hnot
    obtain ⟨hd, hfield⟩ := not_or.1 hnot
    obtain ⟨name, hne⟩ := exists_compareSortKeys_ne hfield
    -- both are entries of one type, so the pinned types do not tell them apart
    have hpins (v w : Value) :
        comparePins o.firstEntries (itemWith name v) (itemWith name w) = .eq := by
      rw [comparePins_eq]
      exact Nat.compare_eq_eq.2 rfl
    have hcompare := h (itemWith name (.abbreviation "a")) (itemWith name (.text "b"))
    rw [Arrangement.compare, Arrangement.compare, hpins, Ordering.eq_then,
      Ordering.eq_then] at hcompare
    -- only the two pairs of different delimiters are left
    cases d <;> cases d'
    · exact hd rfl
    · exact hne hcompare
    · exact hne hcompare.symm
    · exact hd rfl
  · rintro (rfl | hfield) a b
    · rfl
    · -- without a field no key looks at the delimiters
      refine Arrangement.compare_congr ⟨rfl, rfl⟩ ⟨rfl, rfl⟩ fun key hkey name hname => ?_
      rw [hfield key hkey] at hname
      cases hname

/-! ## §4 Settings of one arrangement -/

/-- Settings that compare every two items alike. -/
def ComparesAlike (s s' : Settings) : Prop :=
  ∀ a b, s.arrangement.compare s.layout.delimiters a b =
    s'.arrangement.compare s'.layout.delimiters a b

/-- Settings that sort every list alike, with the same groups of duplicates. -/
def SortsAlike (s s' : Settings) : Prop :=
  ∀ xs, Sorted.ofList s.arrangement s.layout.delimiters xs =
    Sorted.ofList s'.arrangement s'.layout.delimiters xs

/-- Settings of one arrangement compare all items alike, and sort all lists alike, exactly when they
have the same delimiters or sort by no field, whatever else is different in their layout. Lists
whose fields that are sorted by hold no text are sorted alike in any case. -/
theorem sortsAlike_iff {s s' : Settings} (h : s.arrangement = s'.arrangement) :
    (ComparesAlike s s' ↔
      s.layout.delimiters = s'.layout.delimiters ∨ s.arrangement.SortsByNoField) ∧
    (SortsAlike s s' ↔
      s.layout.delimiters = s'.layout.delimiters ∨ s.arrangement.SortsByNoField) ∧
    ∀ xs : List Occurrence, (∀ x ∈ xs, x.item.SortsBare s.arrangement) →
      Sorted.ofList s.arrangement s.layout.delimiters xs =
        Sorted.ofList s'.arrangement s'.layout.delimiters xs := by
  have hcompare := compare_eq_iff s.arrangement s.layout.delimiters s'.layout.delimiters
  have hsorted := sorted_ofList_eq_iff s.arrangement s.layout.delimiters s'.layout.delimiters
  -- the arrangement is shared, so each of the two properties is one about the delimiters alone
  rw [ComparesAlike, SortsAlike, ← h]
  refine ⟨hcompare, hsorted.trans hcompare, fun xs hxs => ?_⟩
  exact sorted_ofList_congr fun x hx y hy => compare_of_sortsBare _ _ (hxs x hx) (hxs y hy)

theorem sortsAlike_quotesTexts : Settings.default.arrangement = quotesTexts.arrangement ∧
    ComparesAlike Settings.default quotesTexts ∧ SortsAlike Settings.default quotesTexts := by
  have hfields : Settings.default.arrangement.SortsByNoField := by
    intro key hkey
    rw [List.mem_singleton.1 hkey]
    decide
  have hiff := @sortsAlike_iff Settings.default quotesTexts rfl
  exact ⟨rfl, hiff.1.2 (.inr hfields), hiff.2.1.2 (.inr hfields)⟩

/-- Formatting that sorts by titles, with the delimiters of choice. -/
def sortsByTitle (d : Delimiters) : Settings where
  layout := { Layout.default with delimiters := d }
  arrangement := ⟨["title"], []⟩
  sortEntries := true
  duplicates := .highlight

/-- Two books, the title of the first being the first word of the title of the second. -/
def booksOfTitles : List Occurrence :=
  [⟨0, .entry ⟨"book", some "a", [⟨"title", .text "Foo"⟩]⟩⟩,
    ⟨1, .entry ⟨"book", some "b", [⟨"title", .text "Foo Bar"⟩]⟩⟩]

/-- The longer title comes second in braces, and first in quotation marks: a blank comes before the
closing mark. -/
theorem not_sortsAlike_sortsByTitle :
    (sortsByTitle .braces).arrangement = (sortsByTitle .quotes).arrangement ∧
      ¬ComparesAlike (sortsByTitle .braces) (sortsByTitle .quotes) ∧
      (Sorted.ofList ⟨["title"], []⟩ .braces booksOfTitles).items.map (·.id) = [0, 1] ∧
      (Sorted.ofList ⟨["title"], []⟩ .quotes booksOfTitles).items.map (·.id) = [1, 0] := by
  -- in marks the closing mark behind Foo is compared with the blank of Foo Bar; bare, Foo just ends
  have hbraces : (⟨["title"], []⟩ : Arrangement).compare .braces
      (.entry ⟨"book", some "a", [⟨"title", .text "Foo"⟩]⟩)
      (.entry ⟨"book", some "b", [⟨"title", .text "Foo Bar"⟩]⟩) = .lt := by decide +kernel
  have hquotes : (⟨["title"], []⟩ : Arrangement).compare .quotes
      (.entry ⟨"book", some "a", [⟨"title", .text "Foo"⟩]⟩)
      (.entry ⟨"book", some "b", [⟨"title", .text "Foo Bar"⟩]⟩) = .gt := by decide +kernel
  refine ⟨rfl, fun h => ?_, ?_, ?_⟩
  · have hsame := (hbraces.symm.trans (h _ _)).trans hquotes
    cases hsame
  · rw [Sorted.ofList, booksOfTitles, sort_pair, hbraces]
    rfl
  · rw [Sorted.ofList, booksOfTitles, sort_pair, hquotes]
    rfl

end Bibliography
