import Bibliography.Proofs.CommentedTexts
import Bibliography.Proofs.WrittenEntries
import Mathlib.Data.List.Nodup

/-!
# Documents as they are written

What a formatted bibliography has to be for the list of items that it was made from, whatever the
settings: its items in their order, a block for each of them, the duplicates among them, and what
was reported. A duplicate is an entry that comes behind another one with which it ties; in a sorted
list these are the members of the runs of ties except the first, so the first of every class of ties
stays as it is.

Entries are compared by the first field of a name, and putting the fields of an entry in order does
not change which one that is. Ties are therefore the same before and after an entry is written.

Main statement: `Document.isAccount_ofItems`.
-/

namespace Bibliography

open Text

/-! ## §1 Commented lines -/

/-- Every line of a text that is commented out begins with the comment mark. -/
theorem commentMark_prefix_of_mem_commentOut {s line : List Char}
    (h : line ∈ splitOn '\n' (commentOut s)) : commentMark <+: line := by
  have hmark : '\n' ∉ commentMark := by decide
  -- the marks bring in no line feed, so the lines are the old ones, marked
  have hlines : splitOn '\n' (commentOut s) = (splitOn '\n' s).map (commentMark ++ ·) := by
    refine splitOn_joinWith (by simpa using splitOn_ne_nil '\n' s) (List.forall_mem_map.2 ?_)
    intro line hline hfeed
    rcases List.mem_append.1 hfeed with hfeed | hfeed
    · exact hmark hfeed
    · exact not_mem_of_mem_splitOn line hline hfeed
  rw [hlines] at h
  obtain ⟨line, -, rfl⟩ := List.mem_map.1 h
  exact List.prefix_append _ _

/-- An entry is written from its at sign on, so its first line is no comment. -/
theorem exists_line_renderEntry (l : Layout) (e : Entry) :
    ∃ line ∈ splitOn '\n' (l.renderEntry e), ¬commentMark <+: line := by
  have hat : ∃ rest, l.renderEntry e = '@' :: rest := ⟨_, rfl⟩
  obtain ⟨rest, hrest⟩ := hat
  obtain ⟨line, lines, hlines⟩ := List.exists_cons_of_ne_nil (splitOn_ne_nil '\n' rest)
  refine ⟨'@' :: line, ?_, fun hprefix => ?_⟩
  · rw [hrest, splitOn, if_neg (by decide), hlines]
    exact List.mem_cons_self
  · exact absurd (List.cons_prefix_cons.1 hprefix).1 (by decide)

/-! ## §2 Ties of written entries -/

/-- Items are compared alike before and after they have been written. -/
theorem compare_arrange (o : Arrangement) (d : Delimiters) (l : Layout) (a b : Item) :
    o.compare d (a.arrange l) (b.arrange l) = o.compare d a b := by
  have harrange (i j : Item) : o.compare d (i.arrange l) j = o.compare d i j ∧
      o.compare d j (i.arrange l) = o.compare d j i := by
    cases i with
    | entry e => exact ((Entry.KeepsLookups.refl e).write l).compare_eq o d j
    | verbatim v => exact ⟨rfl, rfl⟩
  rw [(harrange a _).1, (harrange b _).2]

/-! ## §3 What a document has to be -/

namespace Document

/-- An item that is written as a comment: a duplicate, where duplicates are commented out. -/
def Comments (d : Document) (s : Settings) (x : Occurrence) : Prop :=
  s.duplicates = .comment ∧ x ∈ d.duplicates

/-- What the block of an item in a document has to be. -/
structure Writes (d : Document) (s : Settings) (x : Occurrence) (block : List Char) : Prop where
  live : ¬d.Comments s x → block = s.layout.renderItem x.item
  commented : d.Comments s x → block = commentOut (s.layout.renderItem x.item)
  /-- The lines of an entry are comments exactly when the entry is written as a comment. -/
  marked : x.item.entry?.isSome →
    ((∀ line ∈ splitOn '\n' block, commentMark <+: line) ↔ d.Comments s x)

/-- What a document has to be that is made from a list of items. -/
structure IsAccount (s : Settings) (xs : List Occurrence) (d : Document) : Prop where
  /-- Items are sorted if the settings ask for it, and otherwise in the order of the list. -/
  order : d.items =
    if s.sortEntries then (Sorted.ofList s.arrangement s.layout.delimiters xs).items else xs
  /-- Each item is written once. -/
  perm : d.items.Perm xs
  /-- The text has a block for each item, and nothing else. -/
  text : ∃ blocks, d.text = joinBlocks blocks ∧ List.Forall₂ (d.Writes s) d.items blocks
  /-- Duplicates are looked for in sorted items only, and not if they are to be ignored. -/
  unflagged : s.sortEntries = false ∨ s.duplicates = .ignore → d.duplicates = []
  /-- The duplicates are in the order of the text. -/
  sublist : d.duplicates.Sublist d.items
  /-- A duplicate is an entry that ties with an earlier one. -/
  flagged : s.sortEntries = true → s.duplicates ≠ .ignore →
    ∀ before x after, d.items = before ++ x :: after →
      (x ∈ d.duplicates ↔ x.item.entry?.isSome ∧
        ∃ y ∈ entriesOf before, s.arrangement.ties s.layout.delimiters y.item x.item = true)
  /-- The first of the entries that tie with an entry stays as it is. -/
  first : ∀ x ∈ entriesOf d.items, ∃ y rest,
    s.arrangement.tiesWith s.layout.delimiters x.item (entriesOf d.items) = y :: rest ∧
      ¬d.Comments s y
  /-- Whether entries tie can as well be seen after they have been written. -/
  arranged : ∀ x ∈ d.items, ∀ y ∈ d.items,
    s.arrangement.ties s.layout.delimiters (x.item.arrange s.layout) (y.item.arrange s.layout) =
      s.arrangement.ties s.layout.delimiters x.item y.item
  /-- There is one warning for each duplicate. -/
  warnings : Notice.warnings d.notices = d.duplicates.map (duplicateWarning s.duplicates)
  /-- There is one event if the items have been sorted, and otherwise none. -/
  events : Notice.events d.notices =
    if s.sortEntries then [.entriesSorted d.items.length s.arrangement.sortBy] else []
  errors : Notice.errors d.notices = []

section Items

variable (s : Settings) (xs : List Occurrence)

/-! ## §4 Items and notices -/

theorem items_ofItems : (ofItems s xs).items =
    if s.sortEntries then (Sorted.ofList s.arrangement s.layout.delimiters xs).items else xs := by
  simp only [ofItems, arrangeItems]
  split <;> rfl

theorem perm_items_ofItems : (ofItems s xs).items.Perm xs := by
  rw [items_ofItems]
  split
  · exact s.arrangement.sort_perm s.layout.delimiters xs
  · exact List.Perm.refl _

theorem notices_ofItems : (ofItems s xs).notices =
    (if s.sortEntries then
      [.event (.entriesSorted (ofItems s xs).items.length s.arrangement.sortBy)] else []) ++
      (ofItems s xs).duplicates.map fun x => .warning (duplicateWarning s.duplicates x) [] := by
  simp only [ofItems, arrangeItems]
  split <;> rfl

end Items

/-! ## §5 Duplicates -/

section Duplicates

variable {s : Settings} {xs : List Occurrence}

theorem duplicates_of_not_sorts (h : s.sortEntries = false ∨ s.duplicates = .ignore) :
    (ofItems s xs).duplicates = [] := by
  simp only [ofItems, arrangeItems]
  rcases h with h | h
  · rw [h]
    rfl
  · rw [h]
    split <;> rfl

/-- The duplicates are the entries that are not the first of their class of ties. -/
theorem duplicates_eq_laterTies (hsort : s.sortEntries = true) (hdup : s.duplicates ≠ .ignore) :
    (ofItems s xs).duplicates = laterTies
      (fun x y : Occurrence => s.arrangement.compare s.layout.delimiters x.item y.item)
      (entriesOf (ofItems s xs).items) := by
  have hgroups : (ofItems s xs).duplicates =
      (Sorted.ofList s.arrangement s.layout.delimiters xs).groups.flatMap List.tail := by
    simp [ofItems, arrangeItems, hsort, hdup]
  have hitems : (ofItems s xs).items = s.arrangement.sort s.layout.delimiters xs :=
    items_of_sorts hsort xs
  -- a class of one member, which is no group, has no later member
  have hsingle (gs : List (List Occurrence)) :
      (gs.filter fun g => 1 < g.length).flatMap List.tail = gs.flatMap List.tail := by
    induction gs with
    | nil => rfl
    | cons g gs ih =>
      rw [List.filter_cons, List.flatMap_cons]
      split
      · rw [List.flatMap_cons, ih]
      · next hlen =>
        have htail : g.tail = [] := List.eq_nil_of_length_eq_zero (by
          rw [List.length_tail]
          simp only [decide_eq_true_eq] at hlen
          omega)
        rw [ih, htail, List.nil_append]
  rw [hgroups, groups_ofList, hsingle, hitems]
  rfl

theorem sublist_duplicates : (ofItems s xs).duplicates.Sublist (ofItems s xs).items := by
  by_cases hnone : s.sortEntries = false ∨ s.duplicates = .ignore
  · rw [duplicates_of_not_sorts hnone]
    exact List.nil_sublist _
  · obtain ⟨hsort, hdup⟩ := not_or.1 hnone
    have hsort : s.sortEntries = true := by simpa using hsort
    rw [duplicates_eq_laterTies hsort hdup, items_of_sorts hsort]
    exact (laterTies_sublist _ (pairwise_entriesOf_sort _ _ xs)).trans List.filter_sublist

theorem mem_duplicates_iff (hnodup : xs.Nodup) (hsort : s.sortEntries = true)
    (hdup : s.duplicates ≠ .ignore) {before after : List Occurrence} {x : Occurrence}
    (hitems : (ofItems s xs).items = before ++ x :: after) :
    x ∈ (ofItems s xs).duplicates ↔ x.item.entry?.isSome ∧
      ∃ y ∈ entriesOf before, s.arrangement.ties s.layout.delimiters y.item x.item = true := by
  have hnodup : (before ++ x :: after).Nodup := by
    rw [← hitems]
    exact (perm_items_ofItems s xs).nodup_iff.2 hnodup
  rw [duplicates_eq_laterTies hsort hdup, hitems]
  cases hentry : x.item.entry?.isSome with
  | false =>
    -- what is kept as it is written is no member of a class
    refine iff_of_false (fun h => ?_) (by simp)
    obtain ⟨g, hg, hmem⟩ := List.mem_flatMap.1 h
    have hx := (List.mem_filter.1 (eq_tiesOf_of_mem _ hg (List.mem_of_mem_tail hmem)).1).2
    rw [hentry] at hx
    cases hx
  | true =>
    have hentries : entriesOf (before ++ x :: after) =
        entriesOf before ++ x :: entriesOf after := by
      rw [entriesOf, List.filter_append]
      exact congrArg (entriesOf before ++ ·) (List.filter_cons_of_pos hentry)
    have hnodup' : (entriesOf before ++ x :: entriesOf after).Nodup := by
      rw [← hentries]
      exact hnodup.filter _
    rw [hentries, mem_laterTies_iff _ hnodup']
    exact (and_iff_right rfl).symm

/-- The first entry that ties with an entry is no duplicate. -/
theorem exists_first_of_ties (hnodup : xs.Nodup) {x : Occurrence}
    (hx : x ∈ entriesOf (ofItems s xs).items) : ∃ y rest,
    s.arrangement.tiesWith s.layout.delimiters x.item (entriesOf (ofItems s xs).items) =
      y :: rest ∧ y ∉ (ofItems s xs).duplicates := by
  have hself : x ∈ s.arrangement.tiesWith s.layout.delimiters x.item
      (entriesOf (ofItems s xs).items) :=
    List.mem_filter.2 ⟨hx, tied_self (s.arrangement.compare s.layout.delimiters) x.item⟩
  obtain ⟨y, rest, hfirst⟩ := List.exists_cons_of_ne_nil (List.ne_nil_of_mem hself)
  refine ⟨y, rest, hfirst, ?_⟩
  by_cases hnone : s.sortEntries = false ∨ s.duplicates = .ignore
  · rw [duplicates_of_not_sorts hnone]
    exact List.not_mem_nil
  obtain ⟨hsort, hdup⟩ := not_or.1 hnone
  have hsort : s.sortEntries = true := by simpa using hsort
  -- nothing in front of `y` is an entry that ties with `x`, so nothing ties with `y`
  have hfilter := hfirst
  rw [Arrangement.tiesWith, entriesOf, List.filter_filter, List.filter_eq_cons_iff] at hfilter
  obtain ⟨before, after, hitems, hbefore, hy, -⟩ := hfilter
  rw [mem_duplicates_iff hnodup hsort hdup hitems]
  rintro ⟨-, z, hz, hzy⟩
  obtain ⟨hz, hentry⟩ := List.mem_filter.1 hz
  refine hbefore z hz (Bool.and_eq_true_iff.2 ⟨?_, hentry⟩)
  -- `x` ties with `y` and `y` with `z`
  have hxy := (Bool.and_eq_true_iff.1 hy).1
  have hyz := (tied_comm (s.arrangement.compare s.layout.delimiters) z.item y.item).symm.trans hzy
  exact (tied_congr (s.arrangement.compare s.layout.delimiters) hxy z.item).trans hyz

end Duplicates

/-! ## §6 Blocks -/

section Blocks

variable {s : Settings} {xs : List Occurrence} (hids : (xs.map (·.id)).Nodup)

include hids

/-- An item is commented out by its identity exactly when it is a duplicate itself. -/
theorem mem_ids_duplicates_iff {x : Occurrence} (hx : x ∈ (ofItems s xs).items) :
    x.id ∈ (if s.duplicates = .comment then (ofItems s xs).duplicates.map (·.id) else []) ↔
      (ofItems s xs).Comments s x := by
  unfold Comments
  by_cases hdup : s.duplicates = .comment
  · rw [if_pos hdup, and_iff_right hdup, List.mem_map]
    constructor
    · -- an identity belongs to one occurrence only, and the duplicates are among the items
      rintro ⟨y, hy, hid⟩
      have hy' := (perm_items_ofItems s xs).mem_iff.1 (sublist_duplicates.subset hy)
      rwa [← List.inj_on_of_nodup_map hids hy' ((perm_items_ofItems s xs).mem_iff.1 hx) hid]
    · exact fun h => ⟨x, h, rfl⟩
  · rw [if_neg hdup]
    exact iff_of_false List.not_mem_nil fun h => hdup h.1

theorem writes_block {x : Occurrence} (hx : x ∈ (ofItems s xs).items) :
    (ofItems s xs).Writes s x (block s.layout
      (if s.duplicates = .comment then (ofItems s xs).duplicates.map (·.id) else []) x) := by
  have hiff := mem_ids_duplicates_iff hids hx
  have hlive : ¬(ofItems s xs).Comments s x → block s.layout
      (if s.duplicates = .comment then (ofItems s xs).duplicates.map (·.id) else []) x =
        s.layout.renderItem x.item := fun h => if_neg (mt hiff.1 h)
  have hcommented : (ofItems s xs).Comments s x → block s.layout
      (if s.duplicates = .comment then (ofItems s xs).duplicates.map (·.id) else []) x =
        commentOut (s.layout.renderItem x.item) := fun h => if_pos (hiff.2 h)
  refine ⟨hlive, hcommented, fun hentry => ⟨fun hlines => ?_, fun h line hline => ?_⟩⟩
  · -- a live entry has its first line without a mark
    by_contra hnot
    obtain ⟨e, he⟩ : ∃ e, x.item = .entry e := by
      cases hitem : x.item with
      | entry e => exact ⟨e, rfl⟩
      | verbatim v =>
        rw [hitem] at hentry
        cases hentry
    obtain ⟨line, hline, hmark⟩ := exists_line_renderEntry s.layout e
    refine hmark (hlines line ?_)
    rwa [hlive hnot, he]
  · rw [hcommented h] at hline
    exact commentMark_prefix_of_mem_commentOut hline

/-- A formatted bibliography accounts for its items, whatever the settings. -/
theorem isAccount_ofItems : IsAccount s xs (ofItems s xs) where
  order := items_ofItems s xs
  perm := perm_items_ofItems s xs
  text := by
    refine ⟨_, text_eq s xs, ?_⟩
    -- with distinct identities every block is written for the occurrence in its place
    rw [List.forall₂_map_right_iff, List.forall₂_same]
    exact fun x hx => writes_block hids hx
  unflagged := duplicates_of_not_sorts
  sublist := sublist_duplicates
  flagged hsort hdup _ _ _ := mem_duplicates_iff (.of_map _ hids) hsort hdup
  first x hx := by
    -- the first of a tie class is the live one, and the others come behind it
    obtain ⟨y, rest, hfirst, hy⟩ := exists_first_of_ties (.of_map _ hids) hx
    exact ⟨y, rest, hfirst, fun h => hy h.2⟩
  arranged x _ y _ := by
    rw [Arrangement.ties, Arrangement.ties, compare_arrange]
  warnings := by
    rw [notices_ofItems, Notice.warnings, List.filterMap_append, List.filterMap_map]
    split <;> exact congrFun List.filterMap_eq_map _
  events := by
    rw [notices_ofItems, Notice.events, List.filterMap_append, List.filterMap_map]
    split <;> simp
  errors := by
    rw [notices_ofItems, Notice.errors, List.filterMap_append, List.filterMap_map]
    split <;> simp

end Blocks

/-- Of two books with the same key, one is a duplicate. -/
theorem isAccount_entriesAlike :
    ((Occurrence.number (entriesAlike.map .entry)).map (·.id)).Nodup ∧
      IsAccount commentsDuplicates (Occurrence.number (entriesAlike.map .entry))
        (ofItems commentsDuplicates (Occurrence.number (entriesAlike.map .entry))) ∧
      (ofItems commentsDuplicates (Occurrence.number (entriesAlike.map .entry))).duplicates ≠
        [] := by
  refine ⟨by decide, isAccount_ofItems (by decide), fun hnil => ?_⟩
  have hties := (duplicates_eq_nil_iff rfl rfl entriesAlike).1 hnil
  revert hties
  decide +kernel

end Document

end Bibliography
