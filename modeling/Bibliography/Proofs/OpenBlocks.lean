import Bibliography.Proofs.EntryTexts

/-!
# Blocks without an end

What sorting does to a text with a last block that lacks its closing delimiter. Such a block reaches
to the end of the text, wherever that is. It is never read as an entry with a plain key, so it is
kept and written as it stands; all other blocks are delimited by their own text. As long as it is
the last block after sorting, too, the entries of the text are read again, settled and in another
order. Blocks that are sorted behind it become a part of it, and the entries among them are lost.

Main statement: `entries_reformat_of_sorts`.
-/

namespace Bibliography

open Text

/-! ## §1 Blocks in order -/

/-- The entries that are read from a text. -/
def entriesRead (t : List Char) : List Entry := (Reading.ofChars t).items.filterMap Item.entry?

/-- The blocks of a text. -/
def blocksOf (t : List Char) : List Block := (segment t).blocks.map (·.2)

/-- A text in which nothing but blanks stands between, before and behind its blocks. -/
def BlankGaps (t : List Char) : Prop :=
  (∀ x ∈ (segment t).blocks, AllBlank x.1) ∧ AllBlank (segment t).trailing

/-- Sorts blocks by their items. -/
def Arrangement.sortBlocks (o : Arrangement) (d : Delimiters) (bs : List Block) : List Block :=
  bs.mergeSort fun a b => (o.compare d (a.item Check.run) (b.item Check.run)).isLE

theorem Arrangement.sortBlocks_perm (o : Arrangement) (d : Delimiters) (bs : List Block) :
    (o.sortBlocks d bs).Perm bs :=
  List.mergeSort_perm bs _

theorem map_item_sortBlocks (o : Arrangement) (d : Delimiters) (bs : List Block) :
    (o.sortBlocks d bs).map (Block.item Check.run) =
      o.sortItems d (bs.map (Block.item Check.run)) :=
  List.map_mergeSort fun _ _ _ _ => rfl

/-- The items of a text with blank gaps are those of its blocks. -/
theorem items_of_blankGaps {t : List Char} (h : BlankGaps t) :
    (Reading.ofChars t).items = (blocksOf t).map (Block.item Check.run) := by
  have hblocks : (segment t).blocks.flatMap (fun x => readGap x.1 ++ [x.2.item Check.run]) =
      (segment t).blocks.flatMap fun x => [x.2.item Check.run] :=
    List.flatMap_congr fun x hx => by rw [readGap_of_allBlank (h.1 x hx), List.nil_append]
  rw [Reading.ofChars, items_ofCharsUsing, Segmented.items, readGap_of_allBlank h.2,
    List.append_nil, hblocks, blocksOf, List.map_map, List.map_eq_flatMap]
  rfl

/-- At most one block lacks its closing delimiter. -/
theorem length_filter_not_closed_le (t : List Char) :
    ((blocksOf t).filter fun b => !b.closed).length ≤ 1 := by
  induction t using segment.induct with
  | case1 t hnone => simp [blocksOf, segment_of_gap hnone]
  | case2 t gap block rest hnext ih =>
    have hrest := (wellFormed_of_nextBlock? hnext).2
    unfold blocksOf at ih ⊢
    rw [segment_of_nextBlock? hnext, List.map_cons]
    -- behind an open block nothing is left, so it is the last one
    cases hclosed : block.closed with
    | true => rwa [List.filter_cons_of_neg (by rw [hclosed]; decide)]
    | false =>
      rw [List.filter_cons_of_pos (by rw [hclosed]; rfl), hrest hclosed, segment_nil]
      simp

/-! ## §2 Blocks that are written -/

/-- A text whose blocks are written between braces, unless they are kept anyway, and whose entries
have keys without braces. -/
structure PlainKeys (t : List Char) : Prop where
  braces : ∀ b ∈ blocksOf t, ¬b.IsKept → b.head.opener = '{'
  keys : ∀ e ∈ entriesRead t, ∃ k ∈ e.key, BraceFree k.toList

theorem mem_entriesRead_of_item {t : List Char} {b : Block} (hb : b ∈ blocksOf t) {e : Entry}
    (h : b.item Check.run = .entry e) : e ∈ entriesRead t := by
  obtain ⟨x, hx, rfl⟩ := List.mem_map.1 hb
  refine List.mem_filterMap.2 ⟨.entry e, ?_, rfl⟩
  rw [Reading.ofChars, items_ofCharsUsing, Segmented.items, List.mem_append, List.mem_flatMap]
  exact .inl ⟨x, hx, by simp [h]⟩

/-- The block that a block is written as. -/
def Block.rewritten (l : Layout) (b : Block) : Block :=
  match b.item Check.run with
  | .entry e => entryBlock l e
  | .verbatim _ => b

theorem wellFormed_of_mem_blocksOf {t : List Char} {b : Block} (h : b ∈ blocksOf t) :
    b.WellFormed := by
  obtain ⟨x, hx, rfl⟩ := List.mem_map.1 h
  exact wellFormed_of_mem_segment hx

/-- No entry with a plain key is read from a block in braces without its closing delimiter. -/
theorem not_braceFree_key_of_not_closed {b : Block} (hb : b.WellFormed)
    (hopener : b.head.opener = '{') (hclosed : b.closed = false) {e : Entry}
    (hitem : b.item Check.run = .entry e) : ¬∃ k ∈ e.key, BraceFree k.toList := by
  rintro ⟨k, hk, hfree⟩
  obtain ⟨hkept, hentry⟩ := Block.entry_of_item hitem
  rw [(Check.admits_of_entry hb hopener hkept hentry hk hfree).1] at hclosed
  cases hclosed

section Blocks

variable {t : List Char} (ht : PlainKeys t) {b : Block} (hb : b ∈ blocksOf t)

include ht hb

/-- A block without its closing delimiter is kept as it stands. -/
theorem PlainKeys.item_of_not_closed (hclosed : b.closed = false) :
    b.item Check.run = .verbatim b.verbatim ∧
      (¬b.IsKept → (b.entry Check.run).isOk = false) := by
  cases hitem : b.item Check.run with
  | entry e =>
    have hopener := ht.braces b hb (Block.entry_of_item hitem).1
    exact absurd (ht.keys e (mem_entriesRead_of_item hb hitem))
      (not_braceFree_key_of_not_closed (wellFormed_of_mem_blocksOf hb) hopener hclosed hitem)
  | verbatim v =>
    obtain ⟨rfl, hrefused⟩ := Block.eq_verbatim_of_item hitem
    exact ⟨rfl, hrefused⟩

/-- A complete block is written as a complete block, which is read like the block it comes from but
for the layout of an entry. -/
theorem PlainKeys.rewritten {l : Layout} (hl : l.ReadsBack) (hclosed : b.closed = true) :
    (b.rewritten l).WellFormed ∧ (b.rewritten l).closed = true ∧
      (b.rewritten l).text = l.renderItem (b.item Check.run) ∧
      Item.entry? ((b.rewritten l).item Check.run) =
        (Item.entry? (b.item Check.run)).map l.settled := by
  have hwell := wellFormed_of_mem_blocksOf hb
  unfold Block.rewritten
  cases hitem : b.item Check.run with
  | entry e =>
    obtain ⟨hkept, he⟩ := Block.entry_of_item hitem
    -- the key holds no brace, so the written entry is balanced and its key is found again
    obtain ⟨k, hk, hfree⟩ := ht.keys e (mem_entriesRead_of_item hb hitem)
    have hopener := ht.braces b hb hkept
    have hwritable := (writable_of_balanced_key hwell hopener he hk (.of_braceFree hfree)).1
    have hrestorable := restorable_of_entry hwell hopener hkept he hl.keepsNames
      ⟨k, hk, .inl hfree⟩ (hl.enclosedBy hwritable)
    -- the block written for the entry is closed, holds the rendered text and is read as the settled
    -- entry
    refine ⟨wellFormed_entryBlock hl.keepsNames hwritable, rfl, text_entryBlock l e, ?_⟩
    dsimp only
    rw [(hrestorable.item hl.keepsNames).1]
    rfl
  | verbatim v =>
    -- a kept block is written back as it stands; trimmed it is unchanged, since it begins with the
    -- sign and ends with its closer
    obtain ⟨rfl, -⟩ := Block.eq_verbatim_of_item hitem
    refine ⟨hwell, hclosed, ?_, ?_⟩
    · dsimp only
      rw [renderItem_verbatim, trim_text_of_closed hwell hclosed]
    · dsimp only
      rw [hitem]
      rfl

end Blocks

/-! ## §3 Texts that are written in order -/

/-- What is read of complete blocks that are written in front of other texts. -/
theorem entriesRead_joinBlocks_append {t : List Char} (ht : PlainKeys t) {l : Layout}
    (hl : l.ReadsBack) {bs : List Block} (hbs : ∀ b ∈ bs, b ∈ blocksOf t ∧ b.closed = true)
    (xs : List (List Char)) :
    entriesRead (Document.joinBlocks
        (bs.map (fun b => l.renderItem (b.item Check.run)) ++ xs)) =
      ((bs.map (Block.item Check.run)).filterMap Item.entry?).map l.settled ++
        entriesRead (Document.joinBlocks xs) := by
  -- every written block is a piece with an empty gap in front
  have hpieces : ∀ p ∈ bs.map fun b => (([] : List Char), b.rewritten l),
      IsGap p.1 ∧ p.2.WellFormed ∧ p.2.closed = true := by
    refine List.forall_mem_map.2 fun b hb => ?_
    obtain ⟨hwell, hclosed, -, -⟩ := ht.rewritten (hbs b hb).1 hl (hbs b hb).2
    exact ⟨rfl, hwell, hclosed⟩
  -- its text is the one the layout writes
  have htexts : bs.map (fun b => l.renderItem (b.item Check.run)) =
      (bs.map fun b => (([] : List Char), b.rewritten l)).map pieceText := by
    rw [List.map_map]
    refine List.map_congr_left fun b hb => ?_
    exact (ht.rewritten (hbs b hb).1 hl (hbs b hb).2).2.2.1.symm
  -- it is read again as the settled entry, or as no entry at all
  have hentries : (bs.map fun b => (b.rewritten l).item Check.run).filterMap Item.entry? =
      ((bs.map (Block.item Check.run)).filterMap Item.entry?).map l.settled := by
    rw [List.filterMap_map, List.filterMap_map, List.map_filterMap]
    refine List.filterMap_congr fun b hb => ?_
    exact (ht.rewritten (hbs b hb).1 hl (hbs b hb).2).2.2.2
  -- a joined text is read piece by piece, which leaves the texts behind
  rw [entriesRead, Reading.ofChars, htexts, items_joinBlocks_append hpieces, List.filterMap_append,
    List.flatMap_map, ← hentries, List.map_eq_flatMap]
  simp [entriesRead, Reading.ofChars]

/-- The text of one block gives the entry of this block, if it has one. -/
theorem entriesRead_text {b : Block} (hb : b.WellFormed) :
    entriesRead b.text = (Item.entry? (b.item Check.run)).toList := by
  have hread := @items_text_append Check.run b hb [] fun _ => rfl
  rw [List.append_nil, items_nil] at hread
  rw [entriesRead, Reading.ofChars, hread]
  cases hitem : Item.entry? (b.item Check.run) <;> simp [hitem]

section Sorted

variable {s : Settings} (hsort : s.sortEntries = true) (hdup : s.duplicates ≠ .comment)
  {t : List Char} (hgaps : BlankGaps t)

/-- The blocks of a text in the order in which they are written. -/
def sortedBlocks (s : Settings) (t : List Char) : List Block :=
  s.arrangement.sortBlocks s.layout.delimiters (blocksOf t)

theorem sortedBlocks_perm (s : Settings) (t : List Char) : (sortedBlocks s t).Perm (blocksOf t) :=
  Arrangement.sortBlocks_perm _ _ _

include hgaps

theorem entriesRead_perm : (((sortedBlocks s t).map (Block.item Check.run)).filterMap
    Item.entry?).Perm (entriesRead t) := by
  rw [entriesRead, items_of_blankGaps hgaps]
  exact ((sortedBlocks_perm s t).map _).filterMap _

include hsort hdup

/-- The text is written block by block, in order. -/
theorem reformat_eq_joinBlocks : reformat Check.run s t = Document.joinBlocks
    ((sortedBlocks s t).map fun b => s.layout.renderItem (b.item Check.run)) := by
  rw [reformat_of_sorts Check.run hsort hdup,
    show (Reading.ofCharsUsing Check.run t).items = _ from items_of_blankGaps hgaps,
    ← map_item_sortBlocks, List.map_map]
  rfl

/-- If all blocks but the last are complete, their entries are read again, in order. -/
theorem entriesRead_reformat (ht : PlainKeys t) (hl : s.layout.ReadsBack)
    (hlast : ∀ b ∈ (sortedBlocks s t).dropLast, b.closed = true) :
    entriesRead (reformat Check.run s t) =
      (((sortedBlocks s t).map (Block.item Check.run)).filterMap Item.entry?).map
        s.layout.settled := by
  have hmem : ∀ b ∈ sortedBlocks s t, b ∈ blocksOf t :=
    fun b hb => (sortedBlocks_perm s t).mem_iff.1 hb
  have hnil : entriesRead (Document.joinBlocks []) = [] := by
    simp [entriesRead, Reading.ofChars, Document.joinBlocks]
  rw [reformat_eq_joinBlocks hsort hdup hgaps]
  generalize sortedBlocks s t = bs at hmem hlast ⊢
  obtain rfl | ⟨front, u, rfl⟩ := List.eq_nil_or_concat bs
  · exact hnil
  rw [List.concat_eq_append] at hmem hlast ⊢
  rw [List.dropLast_concat] at hlast
  have hfront : ∀ b ∈ front, b ∈ blocksOf t ∧ b.closed = true :=
    fun b hb => ⟨hmem b (List.mem_append_left _ hb), hlast b hb⟩
  have hu := hmem u (List.mem_append_right _ (List.mem_singleton_self u))
  cases hclosed : u.closed with
  | true =>
    have hall : ∀ b ∈ front ++ [u], b ∈ blocksOf t ∧ b.closed = true :=
      List.forall_mem_append.2 ⟨hfront, by simpa using ⟨hu, hclosed⟩⟩
    have hread := entriesRead_joinBlocks_append ht hl hall []
    rwa [List.append_nil, hnil, List.append_nil] at hread
  | false =>
    -- the last block takes in the line feed behind it, and is kept again
    obtain ⟨hitem, hrefused⟩ := ht.item_of_not_closed hu hclosed
    obtain ⟨u', hu', hclosed', htext, hitem'⟩ := exists_block_of_not_closed
      Check.run_ignoresTrailingBlanks (wellFormed_of_mem_blocksOf hu) hclosed hrefused
      (.singleton (c := '\n') (by decide))
    have hjoin : Document.joinBlocks [trim u.text] = u'.text := htext
    have hrest : entriesRead (Document.joinBlocks [trim u.text]) = [] := by
      rw [hjoin, entriesRead_text hu', hitem']
      rfl
    rw [List.map_append, List.map_append, List.map_singleton, List.map_singleton, hitem,
      renderItem_verbatim, entriesRead_joinBlocks_append ht hl hfront, hrest, List.filterMap_append]
    simp [Item.entry?]

end Sorted

/-! ## §4 What stands behind an open block -/

/-- Helper: a well-formed head holds no brace but the one that ends it. -/
private theorem exists_braceFree_head {head : Head} (h : head.WellFormed) :
    ∃ s, BraceFree s ∧ head.text = s ++ [head.opener] := by
  obtain ⟨blanks, gap, ds, d, opener, hblanks, hd, hds, hgap, -, -⟩ := h
  refine ⟨'@' :: blanks ++ (d :: ds) ++ gap, ?_, rfl⟩
  -- a brace is neither blank nor part of a type, and it is not the sign
  have hno {c : Char} (hblank : isBlank c = false) (htype : isTypeChar c = false)
      (hstart : isTypeStart c = false) (hat : c ≠ '@') :
      c ∉ '@' :: blanks ++ (d :: ds) ++ gap := by
    intro hmem
    simp only [List.mem_append, List.mem_cons] at hmem
    -- sign, blanks, first letter, letters or gap: each is ruled out by its own test
    rcases hmem with ((rfl | hmem) | rfl | hmem) | hmem
    · exact hat rfl
    · exact hblanks.not_mem hblank hmem
    · rw [hstart] at hd
      cases hd
    · rw [hds _ hmem] at htype
      cases htype
    · exact hgap.not_mem hblank hmem
  exact ⟨hno (by decide) (by decide) (by decide) (by decide),
    hno (by decide) (by decide) (by decide) (by decide)⟩

/-- The text of a complete block in braces is balanced. -/
theorem Block.WellFormed.balanced_text {b : Block} (hb : b.WellFormed)
    (hopener : b.head.opener = '{') (hclosed : b.closed = true) : Balanced b.text := by
  obtain ⟨s, hs, htext⟩ := exists_braceFree_head hb.head
  have hnever := hb.neverCloses
  rw [hopener] at hnever
  have hbody := (balanced_iff.2 ⟨hnever, hb.depth hclosed⟩).braced
  have hb : b.text = s ++ ('{' :: b.body ++ ['}']) := by
    simp [Block.text, htext, hopener, hclosed, closerOf]
  rw [hb]
  exact (Balanced.of_braceFree hs).append hbody

theorem balanced_joinBlocks {xs : List (List Char)} (h : ∀ x ∈ xs, Balanced x) :
    Balanced (Document.joinBlocks xs) := by
  induction xs with
  | nil => exact .nil
  | cons x xs ih =>
    obtain ⟨w, hw, hjoin⟩ := joinBlocks_cons x xs
    rw [hjoin]
    have hblank : Balanced w := .of_braceFree (braceFree_of_blank hw)
    exact (h x List.mem_cons_self).append
      (hblank.append (ih fun y hy => h y (List.mem_cons_of_mem _ hy)))

/-- A complete block in braces is written as a balanced text. -/
theorem PlainKeys.balanced_renderItem {t : List Char} (ht : PlainKeys t) {b : Block}
    (hb : b ∈ blocksOf t) {l : Layout} (hl : l.ReadsBack) (hopener : b.head.opener = '{')
    (hclosed : b.closed = true) : Balanced (l.renderItem (b.item Check.run)) := by
  obtain ⟨hwell, hclosed', htext, -⟩ := ht.rewritten hb hl hclosed
  rw [← htext]
  refine hwell.balanced_text ?_ hclosed'
  unfold Block.rewritten
  split
  · rfl
  · exact hopener

/-- A block in braces without its closing delimiter takes in every balanced text behind it. -/
theorem exists_block_append_balanced {u : Block} (hu : u.WellFormed) (hclosed : u.closed = false)
    (hopener : u.head.opener = '{') {rest : List Char} (hrest : Balanced rest) :
    ∃ b : Block, b.WellFormed ∧ b.closed = false ∧ b.head = u.head ∧
      b.text = trim u.text ++ rest := by
  obtain ⟨w, hw, hbody⟩ := exists_eq_trimRight_append u.body
  have hnever := hu.neverCloses
  rw [hopener, hbody] at hnever
  have hnever := (neverCloses_append.1 hnever).1
  -- the block opens no fewer braces than it closes, and neither does the text behind it
  have hdepth :=
    (neverCloses_brace_iff (Int.le_refl 0)).1 hnever (trimRight u.body) (List.prefix_refl _)
  have hrest' : NeverCloses '}' (0 + braceDepth (trimRight u.body)) rest := by
    refine (neverCloses_brace_iff hdepth).2 fun p hp => ?_
    have := hrest.nonneg p hp
    omega
  refine ⟨⟨u.head, trimRight u.body ++ rest, false⟩, ⟨hu.head, ?_, fun h => by cases h⟩, rfl, rfl,
    ?_⟩
  · rw [hopener]
    exact neverCloses_append.2 ⟨hnever, hrest'⟩
  · rw [trim_text_of_not_closed hu hclosed]
    simp [Block.text]

/-- In a joined text such a block takes in all texts behind it, if these are balanced. -/
theorem exists_block_joinBlocks {u : Block} (hu : u.WellFormed) (hclosed : u.closed = false)
    (hopener : u.head.opener = '{') {xs : List (List Char)} (hxs : ∀ x ∈ xs, Balanced x) :
    ∃ b : Block, b.WellFormed ∧ b.closed = false ∧ b.head = u.head ∧
      b.text = Document.joinBlocks (trim u.text :: xs) := by
  obtain ⟨w, hw, hjoin⟩ := joinBlocks_cons (trim u.text) xs
  have hrest := (Balanced.of_braceFree (braceFree_of_blank hw)).append (balanced_joinBlocks hxs)
  obtain ⟨b, hb, hopen, hhead, htext⟩ := exists_block_append_balanced hu hclosed hopener hrest
  exact ⟨b, hb, hopen, hhead, htext.trans hjoin.symm⟩

section Behind

variable {s : Settings} (hsort : s.sortEntries = true) (hdup : s.duplicates ≠ .comment)
  (hl : s.layout.ReadsBack) {t : List Char} (hgaps : BlankGaps t) (ht : PlainKeys t)
  {front behind : List Block} {u : Block} (hblocks : sortedBlocks s t = front ++ u :: behind)
  (hopen : u.closed = false)

include hblocks hopen

/-- All blocks but the open one are complete. -/
theorem closed_of_mem_sortedBlocks : ∀ b ∈ front ++ behind, b.closed = true := by
  -- sorting permutes the blocks, so there is at most one open block in the sorted list as well
  have hlen := ((sortedBlocks_perm s t).filter fun b => !b.closed).length_eq
  have hle := length_filter_not_closed_le t
  have hone : ((u :: behind).filter fun b => !b.closed).length =
      (behind.filter fun b => !b.closed).length + 1 := by
    rw [List.filter_cons_of_pos (by rw [hopen]; rfl), List.length_cons]
  rw [hblocks, List.filter_append, List.length_append, hone] at hlen
  -- that one is the block between front and behind
  have hnone : (front ++ behind).filter (fun b => !b.closed) = [] := by
    rw [← List.length_eq_zero_iff, List.filter_append, List.length_append]
    omega
  intro b hb
  simpa using List.filter_eq_nil_iff.1 hnone b hb

omit hopen in
include hgaps in
/-- If there is an entry behind the open block, those in front of it are not all of the text. -/
theorem length_filterMap_front_lt (hbehind : ∃ b ∈ behind, ∃ e, b.item Check.run = .entry e) :
    ((front.map (Block.item Check.run)).filterMap Item.entry?).length < (entriesRead t).length := by
  obtain ⟨b, hb, e, hitem⟩ := hbehind
  have hall := (entriesRead_perm hgaps (s := s)).length_eq
  rw [hblocks, List.map_append, List.map_cons, List.filterMap_append, List.length_append] at hall
  have hmem : e ∈ ((u :: behind).map (Block.item Check.run)).filterMap Item.entry? :=
    List.mem_filterMap.2 ⟨.entry e, hitem ▸ List.mem_map_of_mem (List.mem_cons_of_mem u hb), rfl⟩
  have hpos := List.length_pos_of_mem hmem
  rw [List.map_cons] at hpos
  omega

include hsort hdup hl hgaps ht

/-- What stands behind an open block becomes a part of it: the entries in front of it are read, and
no others, unless the open block itself is read as an entry, which does not have a plain key. -/
theorem exists_entriesRead_of_open (hbraces : ∀ b ∈ u :: behind, b.head.opener = '{') :
    ∃ es : List Entry, (∀ e ∈ es, ¬∃ k ∈ e.key, BraceFree k.toList) ∧
      entriesRead (reformat Check.run s t) =
        ((front.map (Block.item Check.run)).filterMap Item.entry?).map s.layout.settled ++ es := by
  have hmem : ∀ b ∈ front ++ u :: behind, b ∈ blocksOf t := by
    rw [← hblocks]
    exact fun b hb => (sortedBlocks_perm s t).mem_iff.1 hb
  have hclosed := closed_of_mem_sortedBlocks hblocks hopen
  have hfront : ∀ b ∈ front, b ∈ blocksOf t ∧ b.closed = true := fun b hb =>
    ⟨hmem b (List.mem_append_left _ hb), hclosed b (List.mem_append_left _ hb)⟩
  have hu : u ∈ blocksOf t := hmem u (List.mem_append_right _ List.mem_cons_self)
  -- the texts of the blocks behind the open one are balanced
  have hbalanced : ∀ x ∈ behind.map fun b => s.layout.renderItem (b.item Check.run),
      Balanced x := by
    refine List.forall_mem_map.2 fun b hb => ?_
    have hmem' := List.mem_cons_of_mem u hb
    exact ht.balanced_renderItem (hmem b (List.mem_append_right _ hmem')) hl (hbraces b hmem')
      (hclosed b (List.mem_append_right _ hb))
  -- so they become a part of its block
  obtain ⟨b, hb, hbopen, hhead, htext⟩ := exists_block_joinBlocks (wellFormed_of_mem_blocksOf hu) hopen
    (hbraces u List.mem_cons_self) hbalanced
  refine ⟨(Item.entry? (b.item Check.run)).toList, ?_, ?_⟩
  · intro e he
    cases hitem : b.item Check.run with
    | verbatim v =>
      rw [hitem] at he
      cases he
    | entry e' =>
      rw [hitem] at he
      obtain rfl : e = e' := by simpa [Item.entry?] using he
      have hopener : b.head.opener = '{' := by rw [hhead, hbraces u List.mem_cons_self]
      exact not_braceFree_key_of_not_closed hb hopener hbopen hitem
  · rw [reformat_eq_joinBlocks hsort hdup hgaps, hblocks, List.map_append, List.map_cons,
      (ht.item_of_not_closed hu hopen).1, renderItem_verbatim,
      entriesRead_joinBlocks_append ht hl hfront, ← htext, entriesRead_text hb]

end Behind

/-- Sorting does not change which entries are read, as long as nothing is sorted behind a block
without its closing delimiter; the entries that are sorted behind it are lost. -/
theorem entries_reformat_of_sorts {s : Settings} (hsort : s.sortEntries = true)
    (hdup : s.duplicates ≠ .comment) (hl : s.layout.ReadsBack) {t : List Char}
    (hgaps : BlankGaps t) (ht : PlainKeys t) :
    ((∀ b ∈ (sortedBlocks s t).dropLast, b.closed = true) →
      (entriesRead (reformat Check.run s t)).Perm ((entriesRead t).map s.layout.settled)) ∧
    ∀ front u behind, sortedBlocks s t = front ++ u :: behind → u.closed = false →
      (∀ b ∈ u :: behind, b.head.opener = '{') → (∃ b ∈ behind, ∃ e, b.item Check.run = .entry e) →
      ¬((entriesRead (reformat Check.run s t)).map (·.key)).Perm ((entriesRead t).map (·.key)) := by
  constructor
  · intro hlast
    rw [entriesRead_reformat hsort hdup hgaps ht hl hlast]
    exact (entriesRead_perm hgaps).map _
  · rintro front u behind hblocks hopen hbraces hbehind hperm
    obtain ⟨es, hkeys, hread⟩ :=
      exists_entriesRead_of_open hsort hdup hl hgaps ht hblocks hopen hbraces
    -- all keys of the text are plain, so no other entry is read than those in front
    have hnil : es = [] := by
      rw [List.eq_nil_iff_forall_not_mem]
      intro e he
      have hmem : e.key ∈ (entriesRead (reformat Check.run s t)).map (·.key) := by
        rw [hread]
        exact List.mem_map_of_mem (List.mem_append_right _ he)
      obtain ⟨e', he', hkey⟩ := List.mem_map.1 (hperm.mem_iff.1 hmem)
      refine hkeys e he ?_
      rw [← hkey]
      exact ht.keys e' he'
    -- and these are too few
    have hfewer := hperm.length_eq
    rw [List.length_map, List.length_map, hread, hnil, List.append_nil, List.length_map] at hfewer
    exact (length_filterMap_front_lt hgaps hblocks hbehind).ne hfewer

/-- A book, and a reference whose end is missing. -/
def bookAndOpenBlock : List Char := "@book\x7ba, title = \x7bA\x7d\x7d\n@misc\x7bm, x".toList

/-- The block of the book. -/
def bookBlock : Block :=
  ⟨⟨"@book\x7b".toList, "book".toList, '{'⟩, "a, title = \x7bA\x7d".toList, true⟩

/-- The block whose end is missing. -/
def openBlock : Block := ⟨⟨"@misc\x7b".toList, "misc".toList, '{'⟩, "m, x".toList, false⟩

theorem blocksOf_bookAndOpenBlock : blocksOf bookAndOpenBlock = [bookBlock, openBlock] := by
  decide +kernel

theorem blankGaps_bookAndOpenBlock : BlankGaps bookAndOpenBlock := by
  have hgaps : ((segment bookAndOpenBlock).blocks.all fun x => x.1.all isBlank) = true ∧
      (segment bookAndOpenBlock).trailing.all isBlank = true := by decide +kernel
  exact ⟨fun x hx => List.all_eq_true.1 (List.all_eq_true.1 hgaps.1 x hx),
    List.all_eq_true.1 hgaps.2⟩

theorem entriesRead_bookAndOpenBlock : entriesRead bookAndOpenBlock =
    [⟨"book", some "a", [⟨"title", .text "A"⟩]⟩] := by
  with_unfolding_all rfl

theorem plainKeys_bookAndOpenBlock : PlainKeys bookAndOpenBlock where
  braces := by
    rw [blocksOf_bookAndOpenBlock]
    decide
  keys := by
    rw [entriesRead_bookAndOpenBlock]
    decide

/-- Formatting that sorts by types. -/
def sortsByType : Settings := { Settings.default with
  sortEntries := true
  arrangement := ⟨["type"], []⟩ }

/-- Sorted by types, the open block stays last, and the book is read again. -/
theorem entries_reformat_bookAndOpenBlock :
    BlankGaps bookAndOpenBlock ∧ PlainKeys bookAndOpenBlock ∧
      (entriesRead (reformat Check.run sortsByType bookAndOpenBlock)).Perm
        ((entriesRead bookAndOpenBlock).map sortsByType.layout.settled) := by
  -- by type the book stands in front of the misc already, so sorting leaves the blocks where they
  -- are
  have hsorted : sortedBlocks sortsByType bookAndOpenBlock = [bookBlock, openBlock] := by
    rw [sortedBlocks, blocksOf_bookAndOpenBlock]
    exact List.mergeSort_of_pairwise (by decide +kernel)
  refine ⟨blankGaps_bookAndOpenBlock, plainKeys_bookAndOpenBlock,
    (entries_reformat_of_sorts rfl (by decide) Layout.readsBack_default
      blankGaps_bookAndOpenBlock plainKeys_bookAndOpenBlock).1 ?_⟩
  rw [hsorted]
  decide

/-- Formatting that sorts by keys. -/
def sortsByKey : Settings := { Settings.default with sortEntries := true }

/-- Sorted by keys, the open block comes first, and the book is lost. -/
theorem entries_reformat_ne_bookAndOpenBlock :
    BlankGaps bookAndOpenBlock ∧ PlainKeys bookAndOpenBlock ∧
      ¬((entriesRead (reformat Check.run sortsByKey bookAndOpenBlock)).map (·.key)).Perm
        ((entriesRead bookAndOpenBlock).map (·.key)) := by
  have hgreater : (sortsByKey.arrangement.compare sortsByKey.layout.delimiters
      (bookBlock.item Check.run) (openBlock.item Check.run)).isLE = false := by decide +kernel
  -- the open block has no key and sorts in front
  have hsorted : sortedBlocks sortsByKey bookAndOpenBlock = [openBlock, bookBlock] := by
    rw [sortedBlocks, blocksOf_bookAndOpenBlock]
    simp [Arrangement.sortBlocks, List.mergeSort, List.MergeSort.Internal.splitInTwo, hgreater]
  refine ⟨blankGaps_bookAndOpenBlock, plainKeys_bookAndOpenBlock, fun hperm => ?_⟩
  -- all that stands behind the open block is swallowed: no entry read after it has a brace-free key
  rw [← List.nil_append [openBlock, bookBlock]] at hsorted
  obtain ⟨es, hkeys, hread⟩ := exists_entriesRead_of_open rfl (by decide)
    Layout.readsBack_default blankGaps_bookAndOpenBlock plainKeys_bookAndOpenBlock hsorted rfl
    (by decide)
  rw [hread, entriesRead_bookAndOpenBlock] at hperm
  -- the entry with key a would have to be among them
  obtain ⟨e, he, hkey⟩ := List.mem_map.1 (hperm.mem_iff.2 List.mem_cons_self)
  exact hkeys e he ⟨"a", by rw [hkey]; rfl, by decide⟩

end Bibliography
