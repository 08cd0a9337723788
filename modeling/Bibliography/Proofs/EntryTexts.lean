import Bibliography.Proofs.CheckVerdict
import Bibliography.Proofs.ItemOrder
import Bibliography.Proofs.ReadBack
import Bibliography.Proofs.Reformatting

/-!
# Texts of entries

Texts that are read without an issue as entries and nothing else, and what their entries are written
as. Such entries can be written, and what is written is accepted again by the check: the check has
accepted the entry once, and it sees neither layout nor delimiters. The one thing that can stand in
the way is a key with braces in it, where the check and the scanner for blocks disagree about its
end; a key stands when it has none, or is balanced and written in a form that the check accepts.

Main statements: entries with standing keys are restored from their written form
(`ofChars_joinBlocks_renderEntry`), and what a bibliography is written as when its items are sorted
(`reformat_of_sorts`).
-/

namespace Bibliography

open Text

/-! ## §1 Blocks of a text -/

theorem wellFormed_of_mem_segment {s : List Char} {x : List Char × Block}
    (h : x ∈ (segment s).blocks) : x.2.WellFormed := by
  induction s using segment.induct with
  | case1 s hnone =>
    rw [segment_of_gap hnone] at h
    cases h
  | case2 s gap block rest hnext ih =>
    rw [segment_of_nextBlock? hnext] at h
    rcases List.mem_cons.1 h with rfl | h
    · exact (wellFormed_of_nextBlock? hnext).1
    · exact ih h

theorem wellFormed_of_mem_locateBlocks {t : List Char} {x : Located} (hx : x ∈ locateBlocks t) :
    x.block.WellFormed := by
  have hmem := List.mem_map_of_mem (f := (·.block)) hx
  rw [locateBlocks, map_block_locateFrom] at hmem
  obtain ⟨y, hy, hblock⟩ := List.mem_map.1 hmem
  exact hblock ▸ wellFormed_of_mem_segment hy

theorem exists_mem_locateBlocks {s : List Char} {x : List Char × Block}
    (h : x ∈ (segment s).blocks) : ∃ y ∈ locateBlocks s, y.block = x.2 := by
  have hmem : x.2 ∈ (locateBlocks s).map (·.block) := by
    rw [locateBlocks, map_block_locateFrom]
    exact List.mem_map_of_mem h
  exact List.mem_map.1 hmem

/-- An entry of a text is that of one of its blocks. -/
theorem exists_block_of_mem_items {check : BlockCheck} {s : List Char} {e : Entry}
    (h : .entry e ∈ (Reading.ofCharsUsing check s).items) :
    ∃ x ∈ (segment s).blocks, ¬x.2.IsKept ∧ x.2.entry check = .ok e := by
  have hgap {g : List Char} (hg : Item.entry e ∈ readGap g) : False := by
    -- a gap is read as blanks or as a text that is kept
    unfold readGap at hg
    simp only at hg
    split at hg
    · cases hg
    · cases List.mem_singleton.1 hg
  rw [items_ofCharsUsing, Segmented.items, List.mem_append, List.mem_flatMap] at h
  rcases h with ⟨x, hx, hitem⟩ | htrailing
  · rcases List.mem_append.1 hitem with hg | hitem
    · exact (hgap hg).elim
    · obtain ⟨hkept, hentry⟩ := Block.entry_of_item (List.mem_singleton.1 hitem).symm
      exact ⟨x, hx, hkept, hentry⟩
  · exact (hgap htrailing).elim

/-- If nothing is reported, every block that is not kept anyway is read as an entry. -/
theorem exists_entry_of_issues_eq_nil {check : BlockCheck} {s : List Char}
    (h : (Reading.ofCharsUsing check s).issues = []) {b : Block}
    (hb : b ∈ (segment s).blocks.map (·.2)) (hkept : ¬b.IsKept) : ∃ e, b.entry check = .ok e := by
  rw [← map_block_locateFrom 1 0] at hb
  obtain ⟨x, hx, rfl⟩ := List.mem_map.1 hb
  rw [issues_ofCharsUsing, List.filterMap_eq_nil_iff] at h
  -- a block that should be read and is not has an issue
  have hnone := h x hx
  rw [Block.issue?, Block.treatment_eq_read_iff _ |>.2 hkept] at hnone
  cases hentry : x.block.entry check with
  | ok e => exact ⟨e, rfl⟩
  | error fault =>
    rw [hentry] at hnone
    cases hnone

/-! ## §2 Texts that hold entries -/

/-- A text that is read, without an issue, as entries of blocks in braces and nothing else. -/
structure HoldsEntries (t : List Char) (es : List Entry) : Prop where
  reading : Reading.ofChars t = ⟨es.map .entry, []⟩
  braces : ∀ x ∈ locateBlocks t, x.block.head.opener = '{'

theorem HoldsEntries.exists_block {t : List Char} {es : List Entry} (h : HoldsEntries t es)
    {e : Entry} (he : e ∈ es) : ∃ b : Block, b.WellFormed ∧ b.head.opener = '{' ∧ ¬b.IsKept ∧
      b.entry Check.run = .ok e := by
  have hitem : Item.entry e ∈ (Reading.ofCharsUsing Check.run t).items := by
    rw [show Reading.ofCharsUsing Check.run t = _ from h.reading]
    exact List.mem_map_of_mem he
  obtain ⟨x, hx, hkept, hentry⟩ := exists_block_of_mem_items hitem
  obtain ⟨y, hy, hblock⟩ := exists_mem_locateBlocks hx
  exact ⟨x.2, wellFormed_of_mem_segment hx, hblock ▸ h.braces y hy, hkept, hentry⟩

/-! ## §3 Keys that stand -/

/-- A key that is found again behind the brace of a written entry: one without braces, or one with
balanced braces if the check accepts the written entry. -/
def Entry.KeyStands (l : Layout) (e : Entry) : Prop :=
  ∃ k, e.key = some k ∧
    (BraceFree k.toList ∨ Balanced k.toList ∧ (Check.run (l.renderEntry e)).isOk = true)

theorem Entry.KeyStands.balanced {l : Layout} {e : Entry} (h : e.KeyStands l) :
    ∃ k ∈ e.key, Balanced k.toList := by
  obtain ⟨k, hk, hstands⟩ := h
  exact ⟨k, hk, hstands.elim Balanced.of_braceFree And.left⟩

theorem Entry.keyStands_of_braceFree {l : Layout} {es : List Entry}
    (h : ∀ e ∈ es, ∃ k ∈ e.key, BraceFree k.toList) : ∀ e ∈ es, e.KeyStands l := by
  intro e he
  obtain ⟨k, hk, hfree⟩ := h e he
  exact ⟨k, hk, .inl hfree⟩

/-- An entry that is restored when its written form is read. -/
structure Entry.Restorable (l : Layout) (e : Entry) : Prop where
  writable : e.Writable
  notKept : lower e.type.toList ∉ ["string".toList, "preamble".toList, "comment".toList]
  enclosed : e.EnclosedBy l.delimiters
  accepted : (Check.run (l.renderEntry e)).isOk = true

/-- The block of a restorable entry is read as the settled entry, and nothing is reported. -/
theorem Entry.Restorable.item {l : Layout} (hl : l.KeepsNames) {e : Entry} (he : e.Restorable l) :
    (entryBlock l e).item Check.run = .entry (l.settled e) ∧
      ∀ line, (entryBlock l e).issue? Check.run line = none := by
  refine Block.item_of_entry he.notKept (entry_entryBlock hl he.writable he.enclosed ?_)
  rw [text_entryBlock]
  exact he.accepted

/-- The first part of a body whose key closes the braces that it opens does so too. -/
theorem braceDepth_takeWhile_of_splitKey {body key rest : List Char}
    (h : Block.splitKey body = (some key, rest)) (hkey : braceDepth key = 0) :
    braceDepth (body.takeWhile (· != ',')) = 0 := by
  obtain ⟨first, hcomma, -, rfl, -, hbody⟩ := Check.exists_of_splitKey h
  -- what stands in front of the first comma is the part with the key
  have hfirst : body.takeWhile (· != ',') = first := by
    have hall : ∀ c ∈ first, (c != ',') = true := fun c hc => by
      rw [bne_iff_ne]
      rintro rfl
      exact hcomma hc
    rcases hbody with ⟨rfl, -⟩ | rfl
    · exact List.takeWhile_eq_self_iff.2 hall
    · exact takeWhile_append_of_stop hall (by simp)
  -- braces are no blanks, so trimming keeps the depth
  rw [hfirst, ← braceDepth_filter_isMark, ← filter_isMark_trim, braceDepth_filter_isMark, hkey]

section Blocks

variable {b : Block} (hb : b.WellFormed) (hopener : b.head.opener = '{') (hkept : ¬b.IsKept)
  {e : Entry} (he : b.entry Check.run = .ok e)

include hb hopener he

theorem writable_of_balanced_key {k : String} (hk : e.key = some k)
    (hbalanced : Balanced k.toList) : e.Writable ∧ e.type.toList = b.type := by
  refine writable_of_entry hb hopener (fun _ => ?_) he
  -- the key of the entry is that of the body
  have hkey : (Block.splitKey b.body).1 = some k.toList := by
    obtain ⟨-, fs, -, rfl⟩ := Block.entry_eq_ok_iff.1 he
    obtain ⟨key, hkey, rfl⟩ := Option.map_eq_some_iff.1 hk
    rw [hkey, String.toList_ofList]
  exact braceDepth_takeWhile_of_splitKey (Prod.ext hkey rfl) hbalanced.depth

include hkept

/-- The entry of a block in braces is restored if its key stands and its texts hold no delimiter. -/
theorem restorable_of_entry {l : Layout} (hl : l.KeepsNames) (hkey : e.KeyStands l)
    (hd : e.EnclosedBy l.delimiters) : e.Restorable l := by
  obtain ⟨k, hk, hstands⟩ := hkey
  have hbalanced : Balanced k.toList := hstands.elim Balanced.of_braceFree And.left
  obtain ⟨hwritable, htype⟩ := writable_of_balanced_key hb hopener he hk hbalanced
  have hkept' : ¬(entryBlock l e).IsKept := by
    unfold Block.IsKept
    rw [show (entryBlock l e).type = b.type from htype]
    exact hkept
  refine ⟨hwritable, hkept', hd, ?_⟩
  rcases hstands with hfree | ⟨-, hok⟩
  · -- the check has accepted the entry, and layout and delimiters are nothing to it
    have hadmits := (Check.admits_of_entry hb hopener hkept he hk hfree).2
    rw [← text_entryBlock]
    exact (Check.isOk_run_entryBlock_iff hl hwritable hd hkept' hk hfree).2 hadmits
  · exact hok

end Blocks

namespace HoldsEntries

variable {t : List Char} {es : List Entry} (h : HoldsEntries t es)

include h

theorem writable (hkeys : ∀ e ∈ es, ∃ k ∈ e.key, Balanced k.toList) : ∀ e ∈ es, e.Writable ∧
    lower e.type.toList ∉ ["string".toList, "preamble".toList, "comment".toList] := by
  intro e he
  obtain ⟨b, hb, hopener, hkept, hentry⟩ := h.exists_block he
  obtain ⟨k, hk, hbalanced⟩ := hkeys e he
  obtain ⟨hwritable, htype⟩ := writable_of_balanced_key hb hopener hentry hk hbalanced
  refine ⟨hwritable, ?_⟩
  rw [htype]
  exact hkept

/-- The machine admits an entry of the text whose key holds no brace. -/
theorem admits {e : Entry} (he : e ∈ es) {k : String} (hk : e.key = some k)
    (hfree : BraceFree k.toList) : Check.Admits e := by
  obtain ⟨b, hb, hopener, hkept, hentry⟩ := h.exists_block he
  exact (Check.admits_of_entry hb hopener hkept hentry hk hfree).2

theorem restorable {l : Layout} (hl : l.KeepsNames) (hkeys : ∀ e ∈ es, e.KeyStands l)
    (hd : ∀ e ∈ es, e.EnclosedBy l.delimiters) : ∀ e ∈ es, e.Restorable l := by
  intro e he
  obtain ⟨b, hb, hopener, hkept, hentry⟩ := h.exists_block he
  exact restorable_of_entry hb hopener hkept hentry hl (hkeys e he) (hd e he)

/-- Between braces, the entries of the text are restored if their keys stand. -/
theorem restorable_of_readsBack {l : Layout} (hl : l.ReadsBack) (hkeys : ∀ e ∈ es, e.KeyStands l) :
    ∀ e ∈ es, e.Restorable l := by
  have hwritable := h.writable fun e he => (hkeys e he).balanced
  exact h.restorable hl.keepsNames hkeys fun e he => hl.enclosedBy (hwritable e he).1

end HoldsEntries

/-! ## §4 Written entries -/

/-- Complete blocks without issues are read, one after another, as their items. -/
theorem ofCharsUsing_joinBlocks {check : BlockCheck} {bs : List Block}
    (hbs : ∀ b ∈ bs, b.WellFormed ∧ b.closed = true)
    (hissues : ∀ b ∈ bs, ∀ line, b.issue? check line = none) :
    Reading.ofCharsUsing check (Document.joinBlocks (bs.map Block.text)) =
      ⟨bs.map (Block.item check), []⟩ := by
  have hitems := items_joinBlocks hbs check
  have hnone : (Reading.ofCharsUsing check (Document.joinBlocks (bs.map Block.text))).issues =
      [] := by
    rw [issues_ofCharsUsing, List.filterMap_eq_nil_iff]
    intro x hx
    -- every located block is one of the joined ones
    have hmem : x.block ∈ bs := by
      rw [← blocks_joinBlocks hbs, ← map_block_locateFrom 1 0]
      exact List.mem_map_of_mem hx
    exact hissues _ hmem _
  generalize Reading.ofCharsUsing check (Document.joinBlocks (bs.map Block.text)) = r
    at hitems hnone
  -- a reading is its items and its issues
  obtain ⟨items, issues⟩ := r
  obtain rfl : items = _ := hitems
  obtain rfl : issues = _ := hnone
  rfl

theorem map_text_entryBlock (l : Layout) (es : List Entry) :
    (es.map (entryBlock l)).map Block.text = es.map l.renderEntry := by
  rw [List.map_map]
  exact List.map_congr_left fun e _ => text_entryBlock l e

/-- Restorable entries are read back from their written form, settled and in order, and nothing is
reported. -/
theorem ofChars_joinBlocks_renderEntry {l : Layout} (hl : l.KeepsNames) {es : List Entry}
    (hes : ∀ e ∈ es, e.Restorable l) :
    Reading.ofChars (Document.joinBlocks (es.map l.renderEntry)) =
      ⟨(es.map l.settled).map .entry, []⟩ := by
  have hread := @ofCharsUsing_joinBlocks Check.run (es.map (entryBlock l))
    (List.forall_mem_map.2 fun e he => ⟨wellFormed_entryBlock hl (hes e he).writable, rfl⟩)
    (List.forall_mem_map.2 fun e he => ((hes e he).item hl).2)
  rw [map_text_entryBlock] at hread
  refine hread.trans ?_
  rw [List.map_map, List.map_map]
  exact congrArg (Reading.mk · []) (List.map_congr_left fun e he => ((hes e he).item hl).1)

/-! ## §5 Sorted bibliographies -/

/-- Sorts a list of items. -/
def Arrangement.sortItems (o : Arrangement) (d : Delimiters) (items : List Item) : List Item :=
  items.mergeSort fun a b => (o.compare d a b).isLE

theorem map_item_sort (o : Arrangement) (d : Delimiters) (xs : List Occurrence) :
    (o.sort d xs).map (·.item) = o.sortItems d (xs.map (·.item)) :=
  List.map_mergeSort fun _ _ _ _ => rfl

theorem Document.text_eq (s : Settings) (xs : List Occurrence) :
    (Document.ofItems s xs).text = Document.joinBlocks ((Document.ofItems s xs).items.map
      (Document.block s.layout
        (if s.duplicates = .comment then (Document.ofItems s xs).duplicates.map (·.id) else []))) :=
  rfl

theorem Document.items_of_sorts {s : Settings} (hsort : s.sortEntries = true)
    (xs : List Occurrence) :
    (Document.ofItems s xs).items = s.arrangement.sort s.layout.delimiters xs := by
  simp [Document.ofItems, Document.arrangeItems, hsort, Sorted.ofList]

theorem map_item_items_of_sorts {s : Settings} (hsort : s.sortEntries = true)
    (items : List Item) : (Document.ofItems s (Occurrence.number items)).items.map (·.item) =
      s.arrangement.sortItems s.layout.delimiters items := by
  rw [Document.items_of_sorts hsort, map_item_sort, items_number]

/-- With sorting, and unless some duplicate is commented out, a bibliography is written item by item
in order. -/
theorem text_ofItems_of_sorts {s : Settings} (hsort : s.sortEntries = true) {items : List Item}
    (hnone : s.duplicates = .comment →
      (Document.ofItems s (Occurrence.number items)).duplicates = []) :
    (Document.ofItems s (Occurrence.number items)).text = Document.joinBlocks
      ((s.arrangement.sortItems s.layout.delimiters items).map s.layout.renderItem) := by
  -- outside the duplicates a block is its item's rendering
  have hblock : Document.block s.layout [] = fun x => s.layout.renderItem x.item := by
    funext x
    simp [Document.block]
  -- there are no duplicates to comment out, or they are not commented out
  have hcommented : (if s.duplicates = .comment then
      (Document.ofItems s (Occurrence.number items)).duplicates.map (·.id) else []) = [] := by
    split
    · next hdup => rw [hnone hdup, List.map_nil]
    · rfl
  rw [Document.text_eq, hcommented, hblock, ← map_item_items_of_sorts hsort, List.map_map]
  rfl

/-- What a text is formatted to when its items are sorted. -/
theorem reformat_of_sorts (check : BlockCheck) {s : Settings} (hsort : s.sortEntries = true)
    (hdup : s.duplicates ≠ .comment) (t : List Char) :
    reformat check s t = Document.joinBlocks ((s.arrangement.sortItems s.layout.delimiters
      (Reading.ofCharsUsing check t).items).map s.layout.renderItem) :=
  text_ofItems_of_sorts hsort fun h => absurd h hdup

/-- Sorts a list of entries. -/
def Arrangement.sortEntries (o : Arrangement) (d : Delimiters) (es : List Entry) : List Entry :=
  es.mergeSort fun a b => (o.compare d (.entry a) (.entry b)).isLE

theorem Arrangement.sortEntries_perm (o : Arrangement) (d : Delimiters) (es : List Entry) :
    (o.sortEntries d es).Perm es :=
  List.mergeSort_perm es _

theorem sortItems_map_entry (o : Arrangement) (d : Delimiters) (es : List Entry) :
    o.sortItems d (es.map .entry) = (o.sortEntries d es).map .entry := by
  symm
  exact List.map_mergeSort fun _ _ _ _ => rfl

/-- Entries are compared as items are. -/
instance (o : Arrangement) (d : Delimiters) :
    Std.TransCmp fun a b : Entry => o.compare d (.entry a) (.entry b) :=
  transCmp_comap (o.compare d) Item.entry

end Bibliography
