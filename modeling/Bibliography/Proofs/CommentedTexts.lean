import Bibliography.Proofs.SortedTexts

/-!
# Duplicates that are commented out

What becomes of entries that are written behind comment marks when the text is read again. A mark at
the beginning of a line means nothing to the scanner for blocks: a commented entry still begins at
its at sign and ends at its brace, and only the first mark, in front of the at sign, is left over as
a comment. The marks inside the block make the check refuse it, so it is reported and kept as it
stands, in whatever place its type gives it when it is sorted.

So an entry is never out of the way when it is commented out: what should become of commented
duplicates does become of them exactly when there are none.

Main statements: what is read instead of a commented entry (`items_ofChars_comments`), and
`commentsStand_iff`.
-/

namespace Bibliography

open Text

/-! ## §1 Commented lines -/

/-- A text with a comment mark behind every line feed. -/
def commented (s : List Char) : List Char :=
  s.flatMap fun c => if c = '\n' then '\n' :: commentMark else [c]

@[simp]
theorem commented_append (s t : List Char) : commented (s ++ t) = commented s ++ commented t := by
  simp [commented]

theorem commented_of_not_mem {s : List Char} (h : '\n' ∉ s) : commented s = s := by
  induction s with
  | nil => rfl
  | cons c s ih =>
    rw [List.mem_cons, not_or] at h
    have hc : c ≠ '\n' := fun hc => h.1 hc.symm
    rw [← List.singleton_append, commented_append, ih h.2]
    simp [commented, hc]

/-- Commenting a text out puts a mark in front of it and behind every line feed. -/
theorem commentOut_eq (s : List Char) : commentOut s = commentMark ++ commented s := by
  induction s with
  | nil => rfl
  | cons c s ih =>
    unfold commentOut at ih ⊢
    -- the marks in front of the lines are put where the line feeds are
    obtain ⟨line, lines, hs⟩ := List.exists_cons_of_ne_nil (splitOn_ne_nil '\n' s)
    rw [hs] at ih
    by_cases hc : c = '\n'
    · rw [splitOn, if_pos hc, hs, List.map_cons, List.map_cons, joinWith_cons_cons,
        ← List.map_cons (f := (commentMark ++ ·)), ih, hc]
      simp [commented]
    · have hcons : commented (c :: s) = c :: commented s := by simp [commented, hc]
      rw [splitOn, if_neg hc, hs, hcons]
      cases lines with
      -- whether or not more lines follow, the first one has its mark already
      | nil => simpa [joinWith, commentMark] using ih
      | cons next lines => simpa [joinWith_cons_cons, commentMark] using ih

theorem filter_isMark_commented (s : List Char) :
    (commented s).filter isMark = s.filter isMark := by
  have hmark : commentMark.filter isMark = [] := by decide
  induction s with
  | nil => rfl
  | cons c s ih =>
    rw [← List.singleton_append, commented_append, List.filter_append, List.filter_append, ih]
    by_cases hc : c = '\n'
    · have hfeed : commented [c] = [c] ++ commentMark := by simp [commented, hc]
      rw [hfeed, List.filter_append, hmark, List.append_nil]
    · rw [commented_of_not_mem (by simpa using Ne.symm hc)]

theorem isGap_commentMark : IsGap commentMark := by
  unfold IsGap
  decide

/-- The mark in front of a commented entry is a comment of its own. -/
theorem readGap_commentMark : readGap commentMark = [.verbatim ⟨gapType, "%"⟩] := by
  rfl

/-! ## §2 Commented entries -/

/-- The block that is left of an entry when it is commented out. -/
def commentedBlock (l : Layout) (e : Entry) : Block :=
  ⟨(entryBlock l e).head, commented (entryBody l e), true⟩

theorem isTypeChar_lineFeed : isTypeChar '\n' = false := by decide

section Entries

variable {l : Layout} {e : Entry}

/-- A commented entry is a comment mark and a block. -/
theorem commentOut_renderEntry (he : e.Writable) :
    commentOut (l.renderEntry e) = pieceText (commentMark, commentedBlock l e) := by
  -- the head of a written entry is one line, so nothing in it is commented
  have hhead : '\n' ∉ (entryBlock l e).head.text := by
    obtain ⟨d, ds, htype, hd, hds⟩ := he.type
    have hfirst : d ≠ '\n' := by rintro rfl; exact absurd hd (by decide)
    have hrest : '\n' ∉ ds := fun h => by
      have := hds _ h
      rw [isTypeChar_lineFeed] at this
      cases this
    simp [entryBlock, htype, hrest, Ne.symm hfirst]
  have hbrace : commented ['}'] = ['}'] := by decide
  rw [commentOut_eq, ← text_entryBlock, Block.text, commented_append, commented_append,
    commented_of_not_mem hhead]
  simp only [entryBlock, if_true, closerOf, hbrace]
  rfl

theorem wellFormed_commentedBlock (hl : l.KeepsNames) (he : e.Writable) :
    (commentedBlock l e).WellFormed := by
  have hbody : Balanced (commented (entryBody l e)) :=
    (balanced_entryBody hl he).of_filter_eq (filter_isMark_commented _)
  exact ⟨(wellFormed_entryBlock hl he).head, hbody.neverCloses, fun _ => hbody.depth⟩

/-- Helper: behind the key of an entry comes a line that is commented. -/
private theorem commented_fieldsText (l : Layout) (width : Nat) (fs : List Field) :
    (∃ rest, commented (fieldsText l width fs ++ fieldsEnd l) = ',' :: '\n' :: '%' :: rest) ∨
      commented (fieldsText l width fs ++ fieldsEnd l) = ['\n', '%', ' '] := by
  -- without a field it depends on the trailing comma what comes first
  cases fs with
  | nil =>
    rcases fieldsEnd_cases l with h | h
    · exact .inl ⟨[' '], by rw [h]; rfl⟩
    · exact .inr (by rw [h]; rfl)
  | cons f fs =>
    have hcons : fieldsText l width (f :: fs) ++ fieldsEnd l =
        [',', '\n'] ++ (l.renderField width f ++ fieldsText l width fs ++ fieldsEnd l) := by
      simp [fieldsText]
    exact .inl ⟨_, by rw [hcons, commented_append]; rfl⟩

section Keys

variable {key : List Char} (hkey : IsKey key) (hchars : ∀ c ∈ key, Check.isKeyChar '}' c = true)

include hkey hchars

/-- Helper: a key that the machine admits holds none of the marks that end keys. -/
private theorem not_mem_keyMarks : ∀ c ∈ key, c ∉ [',', '=', '}'] := by
  exact Check.not_mem_keyMarks hkey.comma hkey.equals fun h => absurd (hchars _ h) (by decide)

/-- Helper: behind the comma that ends a key a field may begin, and no comment mark. -/
private theorem not_accepts_comma_commentMark (s : List Char) :
    ¬Check.Accepts (.beforeKey '}') (key ++ ',' :: '\n' :: '%' :: s) := by
  have hcomma : (Check.Mode.beforeField '}' (.entry (trim key) [])).state.act ',' =
      .ok (Check.Mode.beforeField '}' (.entry (trim key) [])).state := rfl
  have hfeed : (Check.Mode.beforeField '}' (.entry (trim key) [])).state.act '\n' =
      .ok (Check.Mode.beforeField '}' (.entry (trim key) [])).state := rfl
  rw [Check.accepts_key (not_mem_keyMarks hkey hchars) (by rw [hkey.trimmed]; exact hkey.ne_nil)
    (by simp [Check.EndsKey]), Check.accepts_of_goto hcomma, Check.accepts_of_goto hfeed]
  exact fun h => Check.not_accepts_of_fault (.at 0 (.missing (.closing '}'))) rfl s h.2

/-- Helper: without a comma the comment mark in the next line is a part of the key, and the line
feed in front of it is, too. -/
private theorem not_accepts_key_commentMark :
    ¬Check.Accepts (.beforeKey '}') (key ++ ['\n', '%', ' ', '}']) := by
  obtain ⟨c, s, rfl⟩ := List.exists_cons_of_ne_nil hkey.ne_nil
  have hc : isBlank c = false := Check.isBlank_of_isKeyChar (hchars c List.mem_cons_self)
  -- at the end of the key stands a comment mark, so that the line feed is inside it
  have htrim : trim (c :: s ++ ['\n', '%', ' ']) = c :: (s ++ ['\n']) ++ ['%'] := by
    have hspace : AllBlank [' '] := .singleton (by decide)
    have hsplit : c :: s ++ ['\n', '%', ' '] = (c :: (s ++ ['\n']) ++ ['%']) ++ [' '] := by simp
    rw [hsplit, trim_append_right hspace, trim_of_ends hc (by decide)]
  have hfirst : ∀ d ∈ c :: s ++ ['\n', '%', ' '], d ∉ [',', '=', '}'] :=
    List.forall_mem_append.2 ⟨not_mem_keyMarks hkey hchars, by simp⟩
  have hne : trim (c :: s ++ ['\n', '%', ' ']) ≠ [] := by
    rw [htrim]
    exact List.cons_ne_nil _ _
  have hsplit : c :: s ++ ['\n', '%', ' ', '}'] = (c :: s ++ ['\n', '%', ' ']) ++ ['}'] := by simp
  rw [hsplit, Check.accepts_key hfirst hne (by simp [Check.EndsKey]), htrim]
  exact fun h => absurd (h.1 '\n' (by simp)) (by decide)

end Keys

/-- The check refuses a commented entry at the mark of its second line. -/
theorem not_isOk_run_commentedBlock (hl : l.KeepsNames) (he : e.Writable)
    (hkept : ¬(entryBlock l e).IsKept) {k : String} (hk : e.key = some k)
    (hadmits : Check.Admits e) : ¬(Check.run (commentedBlock l e).text).isOk = true := by
  have hkey := he.key k hk
  have hchars : ∀ c ∈ k.toList, Check.isKeyChar '}' c = true := hadmits.key k hk
  -- a key that can be read holds no line feed, so the comment marks begin behind it
  have hline : '\n' ∉ k.toList := fun hc => absurd (hchars _ hc) (by decide)
  have htext : (commentedBlock l e).text = (entryBlock l e).head.text ++
      (k.toList ++ (commented (fieldsText l (l.nameWidth e.fields) (l.arrange e).fields ++
        fieldsEnd l) ++ ['}'])) := by
    simp [Block.text, commentedBlock, entryBody, hk, commented_of_not_mem hline, entryBlock,
      closerOf]
  rw [Check.isOk_run_iff, htext,
    Check.accepts_head (wellFormed_entryBlock hl he).head rfl hkept]
  rintro ⟨-, haccepts⟩
  -- behind the key comes a comma with a comment mark, or a comment mark at once
  rcases commented_fieldsText l (l.nameWidth e.fields) (l.arrange e).fields with ⟨r, hr⟩ | hr
  · rw [hr] at haccepts
    exact not_accepts_comma_commentMark hkey hchars _ haccepts
  · rw [hr] at haccepts
    exact not_accepts_key_commentMark hkey hchars haccepts

end Entries

/-! ## §3 Documents with flagged entries -/

/-- The document that a text is formatted to. -/
def Document.ofChars (s : Settings) (t : List Char) : Document :=
  Document.ofItems s (Occurrence.number (Reading.ofChars t).items)

/-- Whether an occurrence was flagged as a duplicate. -/
def Document.Flags (d : Document) (x : Occurrence) : Prop := x.id ∈ d.duplicates.map (·.id)

instance (d : Document) (x : Occurrence) : Decidable (d.Flags x) :=
  inferInstanceAs (Decidable (_ ∈ _))

/-- The entries of a document that were not flagged, in its order. -/
def Document.unflagged (d : Document) : List Entry :=
  (d.items.filter fun x => ¬d.Flags x).filterMap (·.item.entry?)

/-- An entry with its identity, as an occurrence. -/
def Entry.occurrence (y : Nat × Entry) : Occurrence := ⟨y.1, .entry y.2⟩

/-- What an entry of a document is written as: a block, behind a comment mark if it was flagged. -/
def Document.piece (d : Document) (l : Layout) (y : Nat × Entry) : List Char × Block :=
  if d.Flags (Entry.occurrence y) then (commentMark, commentedBlock l y.2)
  else ([], entryBlock l y.2)

theorem Document.isKept_piece_iff (d : Document) (l : Layout) (y : Nat × Entry) :
    (d.piece l y).2.IsKept ↔ (entryBlock l y.2).IsKept := by
  unfold Document.piece
  split <;> rfl

theorem mem_of_map_eq_sortEntries {o : Arrangement} {d : Delimiters} {ys : List (Nat × Entry)}
    {es : List Entry} (h : ys.map (·.2) = o.sortEntries d es) {y : Nat × Entry} (hy : y ∈ ys) :
    y.2 ∈ es := by
  have hmem : y.2 ∈ ys.map (·.2) := List.mem_map_of_mem hy
  rw [h] at hmem
  exact (o.sortEntries_perm d es).mem_iff.1 hmem

theorem exists_occurrences {xs : List Occurrence} {es : List Entry}
    (h : xs.map (·.item) = es.map .entry) :
    ∃ ys : List (Nat × Entry), xs = ys.map Entry.occurrence ∧ ys.map (·.2) = es := by
  induction xs generalizing es with
  | nil =>
    obtain rfl : es = [] := by simpa using h.symm
    exact ⟨[], rfl, rfl⟩
  | cons x xs ih =>
    -- identities are kept beside the entries, which are the items
    cases es with
    | nil => cases h
    | cons e es =>
      obtain ⟨hx, hxs⟩ := List.cons.inj h
      obtain ⟨ys, rfl, rfl⟩ := ih hxs
      obtain ⟨id, item⟩ := x
      obtain rfl : item = .entry e := hx
      exact ⟨(id, e) :: ys, rfl, rfl⟩

section Documents

variable {s : Settings} (hsort : s.sortEntries = true) (hdup : s.duplicates = .comment)
  (hl : s.layout.ReadsBack) {t : List Char} {es : List Entry} (ht : HoldsEntries t es)
  (hkeys : ∀ e ∈ es, ∃ k ∈ e.key, Balanced k.toList)

include hsort ht

/-- The items of the document are the sorted entries. -/
theorem exists_items_ofChars : ∃ ys : List (Nat × Entry),
    (Document.ofChars s t).items = ys.map Entry.occurrence ∧
      ys.map (·.2) = s.arrangement.sortEntries s.layout.delimiters es := by
  refine exists_occurrences ?_
  rw [Document.ofChars, show Reading.ofChars t = _ from ht.reading,
    map_item_items_of_sorts hsort, sortItems_map_entry]

include hdup hl

include hkeys in
/-- The document is written as blocks, those of flagged entries behind a comment mark. -/
theorem exists_pieces_ofChars : ∃ ys : List (Nat × Entry),
    (Document.ofChars s t).items = ys.map Entry.occurrence ∧
      ys.map (·.2) = s.arrangement.sortEntries s.layout.delimiters es ∧
      (Document.ofChars s t).text = Document.joinBlocks
        ((ys.map ((Document.ofChars s t).piece s.layout)).map pieceText) ∧
      ∀ p ∈ ys.map ((Document.ofChars s t).piece s.layout),
        IsGap p.1 ∧ p.2.WellFormed ∧ p.2.closed = true := by
  obtain ⟨ys, hitems, hsorted⟩ := exists_items_ofChars hsort ht
  have hwritable {y : Nat × Entry} (hy : y ∈ ys) : y.2.Writable :=
    (ht.writable hkeys y.2 (mem_of_map_eq_sortEntries hsorted hy)).1
  refine ⟨ys, hitems, hsorted, ?_, List.forall_mem_map.2 fun y hy => ?_⟩
  · -- every item is written as its piece, commented out if it is flagged
    have htext := Document.text_eq s (Occurrence.number (Reading.ofChars t).items)
    rw [if_pos hdup] at htext
    refine htext.trans (congrArg Document.joinBlocks ?_)
    rw [← Document.ofChars, hitems, List.map_map, List.map_map]
    refine List.map_congr_left fun y hy => ?_
    simp only [Function.comp_apply, Document.block, Document.piece]
    by_cases hflag : (Document.ofChars s t).Flags (Entry.occurrence y)
    · rw [if_pos hflag]
      exact (if_pos hflag).trans (commentOut_renderEntry (hwritable hy))
    · rw [if_neg hflag]
      exact (if_neg hflag).trans (text_entryBlock s.layout y.2).symm
  · -- a piece is a block behind nothing or behind a comment mark
    unfold Document.piece
    split
    · exact ⟨isGap_commentMark, wellFormed_commentedBlock hl.keepsNames (hwritable hy), rfl⟩
    · exact ⟨rfl, wellFormed_entryBlock hl.keepsNames (hwritable hy), rfl⟩

/-- What is read instead of the entries of the document: a flagged entry comes back as the comment
mark and a block that is refused and kept as it stands. -/
theorem items_ofChars_comments (hfree : ∀ e ∈ es, ∃ k ∈ e.key, BraceFree k.toList) :
    ∃ ys : List (Nat × Entry), (Document.ofChars s t).items = ys.map Entry.occurrence ∧
      (Reading.ofChars (Document.ofChars s t).text).items = ys.flatMap fun y =>
        if (Document.ofChars s t).Flags (Entry.occurrence y) then
          [.verbatim ⟨gapType, "%"⟩, .verbatim (commentedBlock s.layout y.2).verbatim]
        else [.entry (s.layout.settled y.2)] := by
  have hstands : ∀ e ∈ es, e.KeyStands s.layout := Entry.keyStands_of_braceFree hfree
  obtain ⟨ys, hitems, hsorted, htext, hpieces⟩ :=
    exists_pieces_ofChars hsort hdup hl ht fun e he => (hstands e he).balanced
  refine ⟨ys, hitems, ?_⟩
  have hmem {y : Nat × Entry} (hy : y ∈ ys) : y.2 ∈ es := mem_of_map_eq_sortEntries hsorted hy
  have hrestorable := ht.restorable_of_readsBack hl hstands
  have hread := items_joinBlocks_append hpieces [] Check.run
  rw [List.append_nil, ← htext, show Document.joinBlocks [] = [] from rfl, items_nil,
    List.append_nil, List.flatMap_map] at hread
  refine hread.trans (List.flatMap_congr fun y hy => ?_)
  have he := hrestorable y.2 (hmem hy)
  unfold Document.piece
  split
  · -- a flagged entry is refused at the mark of its second line
    obtain ⟨k, hk, hk'⟩ := hfree y.2 (hmem hy)
    have hrefused := not_isOk_run_commentedBlock hl.keepsNames he.writable he.notKept hk
      (ht.admits (hmem hy) hk hk')
    rw [Block.item_of_not_isOk (Block.isOk_entry_eq_false (by simpa using hrefused)),
      readGap_commentMark]
    rfl
  · rw [readGap_nil, (he.item hl.keepsNames).1]
    rfl

end Documents

/-! ## §4 Documents without duplicates -/

/-- No two of the entries tie. -/
def Arrangement.TieFree (o : Arrangement) (d : Delimiters) (es : List Entry) : Prop :=
  es.Pairwise fun a b => o.ties d (.entry a) (.entry b) = false

instance (o : Arrangement) (d : Delimiters) (es : List Entry) : Decidable (o.TieFree d es) :=
  inferInstanceAs (Decidable (List.Pairwise _ _))

theorem Arrangement.TieFree.perm {o : Arrangement} {d : Delimiters} {es es' : List Entry}
    (h : es.Perm es') : o.TieFree d es ↔ o.TieFree d es' := by
  have hsymm {a b : Entry} (hab : o.ties d (.entry a) (.entry b) = false) :
      o.ties d (.entry b) (.entry a) = false :=
    (tied_comm (o.compare d) (.entry b) (.entry a)).trans hab
  exact h.pairwise_iff hsymm

/-- There are no groups of duplicates exactly when no two entries tie. -/
theorem groups_eq_nil_iff (o : Arrangement) (d : Delimiters) (es : List Entry) :
    (Sorted.ofList o d (Occurrence.number (es.map .entry))).groups = [] ↔ o.TieFree d es := by
  have hitems : (o.sort d (Occurrence.number (es.map .entry))).map (·.item) =
      (o.sortEntries d es).map .entry := by
    rw [map_item_sort, items_number, sortItems_map_entry]
  obtain ⟨ys, hsort, hsorted⟩ := exists_occurrences hitems
  -- all items are entries, so that all of them are looked at for ties
  have hentries : entriesOf (ys.map Entry.occurrence) = ys.map Entry.occurrence :=
    List.filter_eq_self.2 (List.forall_mem_map.2 fun y _ => rfl)
  rw [groups_ofList, hsort, hentries, filter_tieClasses_eq_nil_iff,
    ← Arrangement.TieFree.perm (o.sortEntries_perm d es), ← hsorted, Arrangement.TieFree,
    List.pairwise_map, List.pairwise_map]
  rfl

theorem duplicates_eq_nil_iff {s : Settings} (hsort : s.sortEntries = true)
    (hdup : s.duplicates = .comment) (es : List Entry) :
    (Document.ofItems s (Occurrence.number (es.map .entry))).duplicates = [] ↔
      s.arrangement.TieFree s.layout.delimiters es := by
  have hduplicates : (Document.ofItems s (Occurrence.number (es.map .entry))).duplicates =
      (Sorted.ofList s.arrangement s.layout.delimiters
        (Occurrence.number (es.map .entry))).groups.flatMap List.tail := by
    simp [Document.ofItems, Document.arrangeItems, hsort, hdup]
  rw [hduplicates, ← groups_eq_nil_iff, List.flatMap_eq_nil_iff]
  constructor
  · intro htail
    rw [List.eq_nil_iff_forall_not_mem]
    intro g hg
    -- a group has two members at least, so it has a duplicate
    have hlen := ((isExact_ofList s.arrangement s.layout.delimiters _).whole g hg).1
    have hnil := congrArg List.length (htail g hg)
    rw [List.length_tail, List.length_nil] at hnil
    omega
  · intro hnil g hg
    rw [hnil] at hg
    cases hg

/-- Keys and types are on one line. -/
theorem Entry.sortsByLines_of_keys_types {o : Arrangement}
    (h : ∀ name ∈ o.sortBy, name = "key" ∨ name = "type") (e : Entry) : e.SortsByLines o := by
  intro key hkey name hname
  rcases h key hkey with rfl | rfl <;> cases hname

/-- If no two entries tie, and the sort keys name no text of several lines, what is written is not
changed by formatting, and nothing is commented out then either. -/
theorem reformat_joinBlocks_of_tieFree {s : Settings} (hsort : s.sortEntries = true)
    (hdup : s.duplicates = .comment) (hl : s.layout.ReadsBack) {es : List Entry}
    (hes : ∀ e ∈ es, e.Restorable s.layout) (hlines : ∀ e ∈ es, e.SortsByLines s.arrangement)
    (hties : s.arrangement.TieFree s.layout.delimiters es)
    (horder : s.arrangement.InOrder s.layout.delimiters es) :
    reformat Check.run s (Document.joinBlocks (es.map s.layout.renderEntry)) =
      Document.joinBlocks (es.map s.layout.renderEntry) := by
  have hgood : ∀ e ∈ es, e.Writable ∧ e.SortsByLines s.arrangement :=
    fun e he => ⟨(hes e he).writable, hlines e he⟩
  -- layout does not touch what the entries are sorted by, nor therefore ties and order
  have hties' : s.arrangement.TieFree s.layout.delimiters (es.map s.layout.settled) := by
    rw [Arrangement.TieFree, List.pairwise_map]
    refine List.Pairwise.imp_of_mem (fun ha hb hne => ?_) hties
    rw [Arrangement.ties, compare_settled s.arrangement s.layout _ (hgood _ ha) (hgood _ hb)]
    exact hne
  have hread := ofChars_joinBlocks_renderEntry hl.keepsNames hes
  rw [reformat, show Reading.ofCharsUsing Check.run _ = _ from hread, text_ofItems_of_sorts hsort
      fun _ => (duplicates_eq_nil_iff hsort hdup _).2 hties',
    sortItems_map_entry, (sortEntries_eq_self_iff _ _ _).2 (inOrder_map_settled hgood horder),
    List.map_map, List.map_map]
  exact congrArg Document.joinBlocks
    (List.map_congr_left fun e _ => Layout.renderEntry_settled hl.keepsNames e)

/-! ## §5 What should become of commented duplicates -/

/-- A document whose flagged entries stay commented out: it is read without an issue, as the entries
that were not flagged and comments, and each of its commented lines is there when it has been
formatted again. -/
structure CommentsStand (s : Settings) (d : Document) : Prop where
  issues : (Reading.ofChars d.text).issues = []
  entries : (Reading.ofChars d.text).items.filterMap Item.entry? =
    d.unflagged.map s.layout.settled
  comments : ∀ v : Verbatim, .verbatim v ∈ (Reading.ofChars d.text).items → v.type = gapType
  lines : ∀ line ∈ splitOn '\n' d.text, commentMark <+: line →
    line ∈ splitOn '\n' (reformat Check.run s d.text)

theorem filterMap_entry?_readGap (g : List Char) : (readGap g).filterMap Item.entry? = [] := by
  unfold readGap
  simp only
  split <;> rfl

/-- A duplicate is one of the items of a document. -/
theorem mem_items_of_mem_duplicates {s : Settings} (hsort : s.sortEntries = true)
    {xs : List Occurrence} {x : Occurrence} (h : x ∈ (Document.ofItems s xs).duplicates) :
    x ∈ (Document.ofItems s xs).items := by
  have hexact := isExact_ofList s.arrangement s.layout.delimiters xs
  simp only [Document.ofItems, Document.arrangeItems, hsort, if_true] at h ⊢
  split at h
  · cases h
  · obtain ⟨g, hg, hx⟩ := List.mem_flatMap.1 h
    have hmem := List.mem_of_mem_tail hx
    rw [(hexact.whole g hg).2 x hmem] at hmem
    exact (List.mem_filter.1 (List.mem_filter.1 hmem).1).1

section CommentsStand

variable {s : Settings} (hsort : s.sortEntries = true) (hdup : s.duplicates = .comment)
  (hl : s.layout.ReadsBack) {t : List Char} {es : List Entry} (ht : HoldsEntries t es)
  (hkeys : ∀ e ∈ es, ∃ k ∈ e.key, Balanced k.toList)

include hsort hdup hl ht hkeys

/-- If nothing is reported when the document is read again, each of its entries is read as an entry,
flagged or not. -/
theorem exists_entries_of_issues_eq_nil
    (hissues : (Reading.ofChars (Document.ofChars s t).text).issues = []) :
    ∃ ys : List (Nat × Entry), (Document.ofChars s t).items = ys.map Entry.occurrence ∧
      ys.map (·.2) = s.arrangement.sortEntries s.layout.delimiters es ∧
      (∀ y ∈ ys, ∃ e, ((Document.ofChars s t).piece s.layout y).2.entry Check.run = .ok e) ∧
      ((Reading.ofChars (Document.ofChars s t).text).items.filterMap Item.entry?).length =
        ys.length := by
  obtain ⟨ys, hitems, hsorted, htext, hpieces⟩ := exists_pieces_ofChars hsort hdup hl ht hkeys
  have hnotKept {y : Nat × Entry} (hy : y ∈ ys) :
      ¬((Document.ofChars s t).piece s.layout y).2.IsKept := by
    rw [Document.isKept_piece_iff]
    exact (ht.writable hkeys y.2 (mem_of_map_eq_sortEntries hsorted hy)).2
  have hblocks := blocks_joinBlocks_append hpieces []
  have hread := items_joinBlocks_append hpieces [] Check.run
  rw [List.append_nil, ← htext, show Document.joinBlocks [] = [] from rfl] at hblocks hread
  rw [segment_nil, List.map_nil, List.append_nil, List.map_map] at hblocks
  rw [items_nil, List.append_nil, List.flatMap_map] at hread
  -- without an issue, a block that is not kept was read
  have hentry : ∀ y ∈ ys,
      ∃ e, ((Document.ofChars s t).piece s.layout y).2.entry Check.run = .ok e := by
    intro y hy
    refine exists_entry_of_issues_eq_nil hissues ?_ (hnotKept hy)
    rw [hblocks]
    exact List.mem_map_of_mem (f := _ ∘ _) hy
  refine ⟨ys, hitems, hsorted, hentry, ?_⟩
  -- each block gives one entry, and the comment marks in front of them give none
  have hone : ∀ y ∈ ys, ((readGap ((Document.ofChars s t).piece s.layout y).1 ++
      [((Document.ofChars s t).piece s.layout y).2.item Check.run]).filterMap Item.entry?).length =
        1 := by
    intro y hy
    obtain ⟨e, he⟩ := hentry y hy
    rw [List.filterMap_append, filterMap_entry?_readGap, (Block.item_of_entry (hnotKept hy) he).1]
    rfl
  rw [show (Reading.ofChars (Document.ofChars s t).text).items = _ from hread,
    List.filterMap_flatMap, List.length_flatMap, List.map_congr_left hone]
  simp

/-- If the flagged entries stay commented out, there are none: nothing is reported, so all entries
are read, but only those that were not flagged should be. -/
theorem duplicates_eq_nil_of_commentsStand (h : CommentsStand s (Document.ofChars s t)) :
    (Document.ofChars s t).duplicates = [] ∧ ∀ e ∈ es, e.KeyStands s.layout := by
  obtain ⟨ys, hitems, hsorted, hentry, hlen⟩ :=
    exists_entries_of_issues_eq_nil hsort hdup hl ht hkeys h.issues
  have hunflagged : ∀ x ∈ (Document.ofChars s t).items, ¬(Document.ofChars s t).Flags x := by
    rw [h.entries, List.length_map, Document.unflagged] at hlen
    -- as many entries are read as the document has items, and no flagged one is among them
    have hle := List.length_filterMap_le (fun x : Occurrence => x.item.entry?)
      ((Document.ofChars s t).items.filter fun x => ¬(Document.ofChars s t).Flags x)
    have hle' := List.length_filter_le
      (fun x => decide ¬(Document.ofChars s t).Flags x) (Document.ofChars s t).items
    have hys : (Document.ofChars s t).items.length = ys.length := by
      rw [hitems, List.length_map]
    have hall := List.length_filter_eq_length_iff.1 (le_antisymm hle' (by omega))
    exact fun x hx => of_decide_eq_true (hall x hx)
  refine ⟨List.eq_nil_iff_forall_not_mem.2 fun x hx => ?_, fun e he => ?_⟩
  · exact hunflagged x (mem_items_of_mem_duplicates hsort hx) (List.mem_map_of_mem hx)
  · -- the block of an entry that is not flagged was read, so the check has accepted it
    have hmem : e ∈ ys.map (·.2) := by
      rw [hsorted]
      exact (s.arrangement.sortEntries_perm _ es).mem_iff.2 he
    obtain ⟨y, hy, rfl⟩ := List.mem_map.1 hmem
    have hflag := hunflagged (Entry.occurrence y) (by
      rw [hitems]
      exact List.mem_map_of_mem hy)
    obtain ⟨e', he'⟩ := hentry y hy
    rw [Document.piece, if_neg hflag] at he'
    obtain ⟨k, hk, hbalanced⟩ := hkeys y.2 he
    refine ⟨k, hk, .inr ⟨hbalanced, ?_⟩⟩
    rw [← text_entryBlock]
    exact Block.isOk_of_entry he'

omit hdup hl hkeys in
/-- Without duplicates, all entries of the document are written in order. -/
theorem ofChars_of_duplicates_eq_nil (hnil : (Document.ofChars s t).duplicates = []) :
    (Document.ofChars s t).text = Document.joinBlocks
        ((s.arrangement.sortEntries s.layout.delimiters es).map s.layout.renderEntry) ∧
      (Document.ofChars s t).unflagged = s.arrangement.sortEntries s.layout.delimiters es := by
  constructor
  · rw [Document.ofChars, text_ofItems_of_sorts hsort fun _ => hnil,
      show Reading.ofChars t = _ from ht.reading, sortItems_map_entry, List.map_map]
    rfl
  · obtain ⟨ys, hitems, hsorted⟩ := exists_items_ofChars hsort ht
    -- what is flagged would be a duplicate
    have hall : ∀ x ∈ (Document.ofChars s t).items,
        decide (¬(Document.ofChars s t).Flags x) = true := by
      intro x _
      simp [Document.Flags, hnil]
    rw [Document.unflagged, List.filter_eq_self.2 hall, hitems, List.filterMap_map, ← hsorted,
      ← List.filterMap_eq_map]
    rfl

/-- What should become of flagged entries becomes of them exactly when there are none, and the keys
of all entries stand. -/
theorem commentsStand_iff (hnames : ∀ name ∈ s.arrangement.sortBy, name = "key" ∨ name = "type") :
    CommentsStand s (Document.ofChars s t) ↔
      (Document.ofChars s t).duplicates = [] ∧ ∀ e ∈ es, e.KeyStands s.layout := by
  refine ⟨duplicates_eq_nil_of_commentsStand hsort hdup hl ht hkeys, ?_⟩
  rintro ⟨hnil, hstands⟩
  have hperm := s.arrangement.sortEntries_perm s.layout.delimiters es
  have hes : ∀ e ∈ s.arrangement.sortEntries s.layout.delimiters es, e.Restorable s.layout :=
    fun e he => ht.restorable_of_readsBack hl hstands e (hperm.mem_iff.1 he)
  have hties : s.arrangement.TieFree s.layout.delimiters es := by
    refine (duplicates_eq_nil_iff hsort hdup es).1 ?_
    rwa [Document.ofChars, show Reading.ofChars t = _ from ht.reading] at hnil
  obtain ⟨htext, hunflagged⟩ := ofChars_of_duplicates_eq_nil hsort ht hnil
  have hread := ofChars_joinBlocks_renderEntry hl.keepsNames hes
  rw [← htext] at hread
  constructor
  · rw [hread]
  · rw [hread, hunflagged, List.filterMap_map]
    exact List.filterMap_some
  · intro v hv
    rw [hread] at hv
    obtain ⟨e, -, he⟩ := List.mem_map.1 hv
    cases he
  · -- the text is not changed, so that all of its lines stay
    intro line hline _
    rw [htext] at hline ⊢
    rwa [reformat_joinBlocks_of_tieFree hsort hdup hl hes
      (fun e _ => Entry.sortsByLines_of_keys_types hnames e)
      ((Arrangement.TieFree.perm hperm).2 hties) (inOrder_sortEntries _ _ es)]

end CommentsStand

/-- Formatting that sorts by keys and comments duplicates out. -/
def commentsDuplicates : Settings := { Settings.default with
  sortEntries := true
  duplicates := .comment }

/-- Two books with different keys. -/
def booksApart : List Char :=
  "@book\x7ba, title = \x7bA\x7d\x7d\n@book\x7bb, title = \x7bB\x7d\x7d".toList

/-- The books with these keys. -/
def entriesApart : List Entry :=
  [⟨"book", some "a", [⟨"title", .text "A"⟩]⟩, ⟨"book", some "b", [⟨"title", .text "B"⟩]⟩]

theorem holdsEntries_booksApart : HoldsEntries booksApart entriesApart where
  reading := by with_unfolding_all rfl
  braces := by decide +kernel

theorem commentsStand_booksApart : HoldsEntries booksApart entriesApart ∧
    CommentsStand commentsDuplicates (Document.ofChars commentsDuplicates booksApart) := by
  have hkeys : ∀ e ∈ entriesApart, e.KeyStands commentsDuplicates.layout :=
    Entry.keyStands_of_braceFree (by decide)
  have hnil : (Document.ofChars commentsDuplicates booksApart).duplicates = [] := by
    rw [Document.ofChars, show Reading.ofChars booksApart = _ from holdsEntries_booksApart.reading]
    exact (duplicates_eq_nil_iff rfl rfl entriesApart).2 (by decide +kernel)
  exact ⟨holdsEntries_booksApart, (commentsStand_iff rfl rfl Layout.readsBack_default
    holdsEntries_booksApart (fun e he => (hkeys e he).balanced) (by decide)).2 ⟨hnil, hkeys⟩⟩

/-- Two books with the same key. -/
def booksAlike : List Char :=
  "@book\x7ba, title = \x7bA\x7d\x7d\n@book\x7ba, title = \x7bB\x7d\x7d".toList

/-- The books with this key. -/
def entriesAlike : List Entry :=
  [⟨"book", some "a", [⟨"title", .text "A"⟩]⟩, ⟨"book", some "a", [⟨"title", .text "B"⟩]⟩]

/-- The second of two books with the same key does not stay commented out. -/
theorem not_commentsStand_booksAlike : HoldsEntries booksAlike entriesAlike ∧
    ¬CommentsStand commentsDuplicates (Document.ofChars commentsDuplicates booksAlike) := by
  have hholds : HoldsEntries booksAlike entriesAlike :=
    ⟨by with_unfolding_all rfl, by decide +kernel⟩
  have hkeys : ∀ e ∈ entriesAlike, e.KeyStands commentsDuplicates.layout :=
    Entry.keyStands_of_braceFree (by decide)
  refine ⟨hholds, fun hstand => ?_⟩
  -- flagged entries could only stand if there were none, and there is one
  have hnil := (duplicates_eq_nil_of_commentsStand rfl rfl Layout.readsBack_default hholds
    (fun e he => (hkeys e he).balanced) hstand).1
  rw [Document.ofChars, show Reading.ofChars booksAlike = _ from hholds.reading] at hnil
  have hties := (duplicates_eq_nil_iff rfl rfl entriesAlike).1 hnil
  revert hties
  decide +kernel

end Bibliography
