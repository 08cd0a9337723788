import Bibliography.Proofs.EntryTexts

/-!
# Formatting what has been sorted

Sorting compares the texts of fields as they were read; writing moves their lines. A second
formatting therefore sorts by other texts than the first, and changes the bibliography exactly when
the entries, in the order of the first, are out of order once they are settled. Types, keys and
texts of one line are the same before and after, so that nothing changes where the sort keys name
no text of several lines.

Main statements: `reformat_reformat_iff_of_sorts`, and for fields of one line
`reformat_reformat_of_sortsByLines`.
-/

namespace Bibliography

open Text

/-! ## §1 The second formatting -/

/-- Whether entries stand in order. -/
def Arrangement.InOrder (o : Arrangement) (d : Delimiters) (es : List Entry) : Prop :=
  es.Pairwise fun a b => (o.compare d (.entry a) (.entry b)).isLE = true

instance (o : Arrangement) (d : Delimiters) (es : List Entry) : Decidable (o.InOrder d es) :=
  inferInstanceAs (Decidable (List.Pairwise _ _))

theorem inOrder_sortEntries (o : Arrangement) (d : Delimiters) (es : List Entry) :
    o.InOrder d (o.sortEntries d es) :=
  pairwise_mergeSort_isLE (fun a b : Entry => o.compare d (.entry a) (.entry b)) es

/-- Sorting leaves entries as they are when they stand in order. -/
theorem sortEntries_eq_self_iff (o : Arrangement) (d : Delimiters) (es : List Entry) :
    o.sortEntries d es = es ↔ o.InOrder d es := by
  constructor
  · intro h
    rw [← h]
    exact inOrder_sortEntries o d es
  · exact fun h => List.mergeSort_of_pairwise h

/-- What is sorted by its settled form is settled in this order. -/
theorem exists_sortEntries_map_settled (o : Arrangement) (l : Layout) (es : List Entry) :
    ∃ es' : List Entry, es'.Perm es ∧
      o.sortEntries l.delimiters (es.map l.settled) = es'.map l.settled := by
  refine ⟨es.mergeSort fun a b =>
    (o.compare l.delimiters (.entry (l.settled a)) (.entry (l.settled b))).isLE,
    List.mergeSort_perm es _, ?_⟩
  symm
  exact List.map_mergeSort fun _ _ _ _ => rfl

section Sorted

variable {s : Settings} (hsort : s.sortEntries = true) (hdup : s.duplicates ≠ .comment)

include hsort hdup

theorem reformat_of_holdsEntries {t : List Char} {es : List Entry} (ht : HoldsEntries t es) :
    reformat Check.run s t = Document.joinBlocks
      ((s.arrangement.sortEntries s.layout.delimiters es).map s.layout.renderEntry) := by
  rw [reformat_of_sorts Check.run hsort hdup,
    show Reading.ofCharsUsing Check.run t = _ from ht.reading, sortItems_map_entry, List.map_map]
  rfl

/-- Entries that are written in some order are formatted by sorting them as they are settled. -/
theorem reformat_joinBlocks_renderEntry (hl : s.layout.KeepsNames) {es : List Entry}
    (hes : ∀ e ∈ es, e.Restorable s.layout) :
    reformat Check.run s (Document.joinBlocks (es.map s.layout.renderEntry)) =
      Document.joinBlocks ((s.arrangement.sortEntries s.layout.delimiters
        (es.map s.layout.settled)).map s.layout.renderEntry) := by
  rw [reformat_of_sorts Check.run hsort hdup]
  rw [show Reading.ofCharsUsing Check.run _ = _ from ofChars_joinBlocks_renderEntry hl hes,
    sortItems_map_entry, List.map_map]
  rfl

/-- Restorable entries that have been written are formatted as they stand exactly when they are in
order once they are settled. -/
theorem reformat_joinBlocks_eq_self_iff (hl : s.layout.KeepsNames) {es : List Entry}
    (hes : ∀ e ∈ es, e.Restorable s.layout) :
    reformat Check.run s (Document.joinBlocks (es.map s.layout.renderEntry)) =
        Document.joinBlocks (es.map s.layout.renderEntry) ↔
      s.arrangement.InOrder s.layout.delimiters (es.map s.layout.settled) := by
  rw [reformat_joinBlocks_renderEntry hsort hdup hl hes, ← sortEntries_eq_self_iff]
  obtain ⟨es', hperm, hsorted⟩ := exists_sortEntries_map_settled s.arrangement s.layout es
  have hrender (xs : List Entry) : (xs.map s.layout.settled).map s.layout.renderEntry =
      xs.map s.layout.renderEntry := by
    rw [List.map_map]
    exact List.map_congr_left fun e _ => Layout.renderEntry_settled hl e
  rw [hsorted, hrender]
  constructor
  · -- the same text is read as the same entries
    intro htext
    have hread := ofChars_joinBlocks_renderEntry hl fun e he => hes e (hperm.mem_iff.1 he)
    rw [htext, ofChars_joinBlocks_renderEntry hl hes] at hread
    have hitems := congrArg Reading.items hread
    exact (List.map_injective_iff.2 (fun _ _ => Item.entry.inj) hitems).symm
  · intro heq
    rw [← hrender es', heq, hrender]

/-- Formatting with sorting leads to a text that formatting does not change, exactly when the
entries are still in order once they are settled. -/
theorem reformat_reformat_iff_of_sorts (hl : s.layout.ReadsBack) {t : List Char}
    {es : List Entry} (ht : HoldsEntries t es) (hkeys : ∀ e ∈ es, e.KeyStands s.layout) :
    reformat Check.run s (reformat Check.run s t) = reformat Check.run s t ↔
      s.arrangement.InOrder s.layout.delimiters
        ((s.arrangement.sortEntries s.layout.delimiters es).map s.layout.settled) := by
  have hes := ht.restorable_of_readsBack hl hkeys
  rw [reformat_of_holdsEntries hsort hdup ht]
  refine reformat_joinBlocks_eq_self_iff hsort hdup hl.keepsNames fun e he => hes e ?_
  exact (s.arrangement.sortEntries_perm s.layout.delimiters es).mem_iff.1 he

end Sorted

/-- Formatting that sorts by notes. -/
def sortsByNote : Settings := { Settings.default with
  sortEntries := true
  arrangement := ⟨["note"], []⟩ }

/-- Two references whose notes are on one line. -/
def shortNotes : List Char :=
  "@misc\x7ba, note = \x7bx c\x7d\x7d\n@misc\x7bb, note = \x7bxb\x7d\x7d".toList

/-- The references with these notes. -/
def shortReferences : List Entry :=
  [⟨"misc", some "a", [⟨"note", .text "x c"⟩]⟩, ⟨"misc", some "b", [⟨"note", .text "xb"⟩]⟩]

theorem holdsEntries_shortNotes : HoldsEntries shortNotes shortReferences where
  reading := by with_unfolding_all rfl
  braces := by decide +kernel

theorem reformat_reformat_shortNotes : HoldsEntries shortNotes shortReferences ∧
    reformat Check.run sortsByNote (reformat Check.run sortsByNote shortNotes) =
      reformat Check.run sortsByNote shortNotes := by
  have hkeys : ∀ e ∈ shortReferences, e.KeyStands sortsByNote.layout :=
    Entry.keyStands_of_braceFree (by decide)
  have hsorted : sortsByNote.arrangement.sortEntries .braces shortReferences = shortReferences :=
    (sortEntries_eq_self_iff _ _ _).2 (by decide +kernel)
  refine ⟨holdsEntries_shortNotes, (reformat_reformat_iff_of_sorts rfl (by decide)
    Layout.readsBack_default holdsEntries_shortNotes hkeys).2 ?_⟩
  rw [show sortsByNote.layout.delimiters = .braces from rfl, hsorted]
  decide +kernel

/-- Two references with notes of two lines, the second indented in one of them only. -/
def indentedNotes : List Char :=
  "@misc\x7ba, note = \x7bx\n c\x7d\x7d\n@misc\x7bb, note = \x7bx\nb\x7d\x7d".toList

/-- The references with these notes. -/
def indentedReferences : List Entry :=
  [⟨"misc", some "a", [⟨"note", .text "x\n c"⟩]⟩, ⟨"misc", some "b", [⟨"note", .text "x\nb"⟩]⟩]

theorem holdsEntries_indentedNotes : HoldsEntries indentedNotes indentedReferences where
  reading := by with_unfolding_all rfl
  braces := by decide +kernel

/-- Sorted by their notes, the two references change places when they are formatted again: a blank
comes before a letter, but the indentation of both notes is the same once they are written. -/
theorem reformat_reformat_ne_indentedNotes :
    HoldsEntries indentedNotes indentedReferences ∧
      reformat Check.run sortsByNote (reformat Check.run sortsByNote indentedNotes) ≠
        reformat Check.run sortsByNote indentedNotes := by
  have hkeys : ∀ e ∈ indentedReferences, e.KeyStands sortsByNote.layout :=
    Entry.keyStands_of_braceFree (by decide)
  have hl : sortsByNote.layout.ReadsBack := Layout.readsBack_default
  have hes := holdsEntries_indentedNotes.restorable_of_readsBack hl hkeys
  have hsorted : sortsByNote.arrangement.sortEntries sortsByNote.layout.delimiters
      indentedReferences = indentedReferences :=
    (sortEntries_eq_self_iff _ _ _).2 (by decide +kernel)
  refine ⟨holdsEntries_indentedNotes, ?_⟩
  -- the first formatting keeps the references in place, and settles them out of order
  rw [reformat_of_holdsEntries rfl (by decide) holdsEntries_indentedNotes, hsorted, ne_eq,
    reformat_joinBlocks_eq_self_iff rfl (by decide) hl.keepsNames hes]
  decide +kernel

/-! ## §2 Fields of one line -/

/-- The field whose text a sort key compares, if it compares one. -/
def SortKey.field? : SortKey → Option String
  | .citationKey => none
  | .latestYear => some "year"
  | .type => none
  | .field name => some name

/-- An entry whose fields that are sorted by have texts of one line. -/
def Entry.SortsByLines (o : Arrangement) (e : Entry) : Prop :=
  ∀ key ∈ o.sortBy, ∀ name ∈ (SortKey.ofName key).field?, ∀ f ∈ e.find? name,
    ∀ s ∈ f.value.texts, IsLine s

theorem reindent_of_isLine (p : List Char) {s : List Char} (h : IsLine s) : reindent p s = s := by
  have hlines : breakLines s = [s] := by
    rw [breakLines, unifyBreaks_of_not_mem h.2, splitOn_of_not_mem h.1]
  rw [reindent_eq_of_breakLines hlines]
  rfl

/-- A value whose texts are on one line is not moved. -/
theorem Value.Writable.reindented_of_isLine {v : Value} (hv : v.Writable) (p : List Char)
    (h : ∀ s ∈ v.texts, IsLine s) : v.reindented p = v := by
  -- a text on one line has nothing to move, and the other plain values have no text
  have hplain {u : Value} (hu : u.Plain) (hline : ∀ s ∈ u.text?, IsLine s) :
      u.reindented p = u := by
    cases hu with
    | @text content =>
      rw [Value.reindented, reindent_of_isLine p (hline _ rfl), String.ofList_toList]
    | number => rfl
    | abbreviation => rfl
  -- the texts of a part are among those of the value
  have hline {u : Value} (hu : u ∈ v.parts) : ∀ s ∈ u.text?, IsLine s := fun s hs =>
    h s (List.mem_filterMap.2 ⟨u, hu, hs⟩)
  cases hv with
  | plain hv => exact hplain hv (hline (by rw [hv.parts_eq]; exact List.mem_singleton_self v))
  | @concat parts _ hparts =>
    rw [Value.reindented, Value.reindentedParts_eq_map]
    have hparts' : parts.map (Value.reindented p) = parts.map id :=
      List.map_congr_left fun u hu => hplain (hparts u hu) (hline hu)
    rw [hparts', List.map_id]

/-- The first field with a name is the same after the fields have been put in order. -/
theorem find?_arrange (l : Layout) (e : Entry) (name : String) :
    (l.arrange e).find? name = e.find? name := by
  unfold Layout.arrange
  split
  · rw [Entry.find?, Entry.find?, ← List.head?_filter, ← List.head?_filter, filter_name_sortFields]
  · rfl

theorem find?_settled (l : Layout) (e : Entry) (name : String) :
    (l.settled e).find? name = (e.find? name).map (l.settledField (l.nameWidth e.fields)) := by
  rw [← find?_arrange l e, Entry.find?, Entry.find?, Layout.settled, List.find?_map]
  rfl

/-- A field of one line is compared alike before and after it is settled. -/
theorem fieldText_settled (l : Layout) {e : Entry} (he : e.Writable) {name : String}
    (h : ∀ f ∈ e.find? name, ∀ s ∈ f.value.texts, IsLine s) (d : Delimiters) :
    (Item.entry (l.settled e)).fieldText d name = (Item.entry e).fieldText d name := by
  unfold Item.fieldText
  simp only [Item.entry?, find?_settled]
  cases hfind : e.find? name with
  | none => rfl
  | some f =>
    have hf : f ∈ e.fields := List.mem_of_find?_eq_some hfind
    simp only [Option.map_some, Layout.settledField]
    rw [(he.fields f hf).value.reindented_of_isLine _ (h f hfind)]

/-- A sort key compares items of the same type and key by the text of its field alone. -/
theorem SortKey.compare_congr {key : SortKey} {d d' : Delimiters} {a b a' b' : Item}
    (htype : a'.type = a.type ∧ b'.type = b.type)
    (hcite : a'.citationKey? = a.citationKey? ∧ b'.citationKey? = b.citationKey?)
    (htext : ∀ name ∈ key.field?, a'.fieldText d' name = a.fieldText d name ∧
      b'.fieldText d' name = b.fieldText d name) : key.compare d' a' b' = key.compare d a b := by
  cases key with
  | citationKey => simp only [SortKey.compare, compareKeys, hcite]
  | latestYear => simp only [SortKey.compare, compareFieldTexts, htext "year" rfl]
  | type => simp only [SortKey.compare, compareTypes, htype]
  | field name => simp only [SortKey.compare, compareFieldTexts, htext name rfl]

theorem compareSortKeys_congr {names : List String} {d d' : Delimiters} {a b a' b' : Item}
    (h : ∀ key ∈ names,
      (SortKey.ofName key).compare d' a' b' = (SortKey.ofName key).compare d a b) :
    compareSortKeys d' names a' b' = compareSortKeys d names a b := by
  induction names with
  | nil => rfl
  | cons name names ih =>
    rw [compareSortKeys, compareSortKeys, h name List.mem_cons_self,
      ih fun key hk => h key (List.mem_cons_of_mem _ hk)]

/-- Items of the same type and key are compared by the texts of the fields that are sorted by. -/
theorem Arrangement.compare_congr {o : Arrangement} {d d' : Delimiters} {a b a' b' : Item}
    (htype : a'.type = a.type ∧ b'.type = b.type)
    (hcite : a'.citationKey? = a.citationKey? ∧ b'.citationKey? = b.citationKey?)
    (htext : ∀ key ∈ o.sortBy, ∀ name ∈ (SortKey.ofName key).field?,
      a'.fieldText d' name = a.fieldText d name ∧ b'.fieldText d' name = b.fieldText d name) :
    o.compare d' a' b' = o.compare d a b := by
  have hkeys : compareSortKeys d' o.sortBy a' b' = compareSortKeys d o.sortBy a b :=
    compareSortKeys_congr fun key hkey => SortKey.compare_congr htype hcite (htext key hkey)
  rw [Arrangement.compare, Arrangement.compare, hkeys, comparePins, comparePins, htype.1, htype.2]

/-- Entries that are sorted by lines are compared alike before and after they are settled. -/
theorem compare_settled (o : Arrangement) (l : Layout) (d : Delimiters) {a b : Entry}
    (ha : a.Writable ∧ a.SortsByLines o) (hb : b.Writable ∧ b.SortsByLines o) :
    o.compare d (.entry (l.settled a)) (.entry (l.settled b)) =
      o.compare d (.entry a) (.entry b) := by
  -- settling leaves the type and the key alone, which leaves the texts of fields
  refine Arrangement.compare_congr ⟨rfl, rfl⟩ ⟨rfl, rfl⟩ fun key hkey name hname => ?_
  exact ⟨fieldText_settled l ha.1 (ha.2 key hkey name hname) d,
    fieldText_settled l hb.1 (hb.2 key hkey name hname) d⟩

/-- Entries that are sorted by lines stay in order when they are settled. -/
theorem inOrder_map_settled {o : Arrangement} {l : Layout} {d : Delimiters} {es : List Entry}
    (hes : ∀ e ∈ es, e.Writable ∧ e.SortsByLines o) (h : o.InOrder d es) :
    o.InOrder d (es.map l.settled) := by
  rw [Arrangement.InOrder, List.pairwise_map]
  refine List.Pairwise.imp_of_mem (fun ha hb hle => ?_) h
  rw [compare_settled o l d (hes _ ha) (hes _ hb)]
  exact hle

/-- Where the sort keys name no text of several lines, formatting with sorting leads to a text that
formatting does not change. -/
theorem reformat_reformat_of_sortsByLines {s : Settings} (hsort : s.sortEntries = true)
    (hdup : s.duplicates ≠ .comment) (hl : s.layout.ReadsBack) {t : List Char} {es : List Entry}
    (ht : HoldsEntries t es) (hkeys : ∀ e ∈ es, e.KeyStands s.layout)
    (hlines : ∀ e ∈ es, e.SortsByLines s.arrangement) :
    reformat Check.run s (reformat Check.run s t) = reformat Check.run s t := by
  have hes := ht.restorable_of_readsBack hl hkeys
  have hperm := s.arrangement.sortEntries_perm s.layout.delimiters es
  -- what is written stays when its entries are in order, each read again as it was settled
  rw [reformat_of_holdsEntries hsort hdup ht]
  refine (reformat_joinBlocks_eq_self_iff hsort hdup hl.keepsNames
    fun e he => hes e (hperm.mem_iff.1 he)).2 ?_
  refine inOrder_map_settled (fun e he => ?_) (inOrder_sortEntries s.arrangement _ es)
  have hmem := hperm.mem_iff.1 he
  -- sorting brings in no entry
  exact ⟨(hes e hmem).writable, hlines e hmem⟩

end Bibliography
