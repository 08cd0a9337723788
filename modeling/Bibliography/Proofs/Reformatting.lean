import Bibliography.Proofs.BlockItems
import Bibliography.Proofs.CheckBlanks
import Bibliography.Proofs.EntryBlock

/-!
# Formatting what has been formatted

Reading a bibliography and writing it without sorting leads to a text that does not change when this
is done again. The pieces of the written text come back one by one: a comment as the gap that it was
trimmed from, an entry as a block whose settled entry is written alike, and a block that is kept as
itself. Only a last block without its closing delimiter is not delimited by its own text; it takes
in the line feed that ends the written text, so there the check must not see blanks at the end.

Main statement: `reformat_reformat`.
-/

namespace Bibliography

open Text

/-! ## §1 Blanks behind the body of a block -/

section Blanks

variable {w : List Char} (hw : AllBlank w)

include hw

/-- Blanks behind the body of a block change neither its key nor its fields. -/
theorem splitKey_append_allBlank (body : List Char) :
    (Block.splitKey (body ++ w)).1 = (Block.splitKey body).1 ∧
      readFields (Block.splitKey (body ++ w)).2 = readFields (Block.splitKey body).2 := by
  have hcomma : ∀ c ∈ w, (c != ',') = true := fun c hc =>
    bne_iff_ne.2 (ne_of_isBlank (hw c hc) (by decide))
  by_cases hdrop : body.dropWhile (· != ',') = []
  · -- without a comma all of the body is the key, and there are no fields
    have hbody := List.dropWhile_eq_nil_iff.1 hdrop
    have hall : ∀ c ∈ body ++ w, (c != ',') = true := by
      intro c hc
      rcases List.mem_append.1 hc with hc | hc
      · exact hbody c hc
      · exact hcomma c hc
    have hequals : '=' ∈ body ++ w ↔ '=' ∈ body := by
      rw [List.mem_append, or_iff_left]
      exact hw.not_mem (by decide)
    simp only [Block.splitKey, List.takeWhile_eq_self_iff.2 hall,
      List.takeWhile_eq_self_iff.2 hbody, hdrop, List.dropWhile_eq_nil_iff.2 hall, hequals,
      trim_append_right hw]
    split
    · exact ⟨rfl, readFields_append_allBlank hw body⟩
    · exact ⟨rfl, rfl⟩
  · obtain ⟨hdrop', htake⟩ := dropWhile_append_of_ne_nil hdrop w
    obtain ⟨c, rest, hrest⟩ := List.exists_cons_of_ne_nil hdrop
    simp only [Block.splitKey, htake, hdrop', hrest]
    split
    · exact ⟨rfl, readFields_append_allBlank hw body⟩
    · exact ⟨rfl, readFields_append_allBlank hw rest⟩

/-- Blanks behind a block without a closing delimiter do not change whether it is refused. -/
theorem isOk_entry_append {check : BlockCheck} (hcheck : check.IgnoresTrailingBlanks) (head : Head)
    (body : List Char) : (Block.entry check ⟨head, body ++ w, false⟩).isOk =
      (Block.entry check ⟨head, body, false⟩).isOk := by
  have htext : (⟨head, body ++ w, false⟩ : Block).text =
      (⟨head, body, false⟩ : Block).text ++ w := by simp [Block.text]
  -- neither the verdict of the check nor that of the reader of fields changes
  have hverdict := hcheck (⟨head, body, false⟩ : Block).text w hw
  have hfields := (splitKey_append_allBlank hw body).2
  rw [Block.entry_eq, Block.entry_eq, htext]
  cases h : check (⟨head, body, false⟩ : Block).text with
  | error fault =>
    cases h' : check ((⟨head, body, false⟩ : Block).text ++ w) with
    | error fault' => rfl
    | ok records => rw [h, h'] at hverdict; cases hverdict
  | ok records =>
    cases h' : check ((⟨head, body, false⟩ : Block).text ++ w) with
    | error fault' => rw [h, h'] at hverdict; cases hverdict
    | ok records' =>
      simp only [hfields]
      cases readFields (Block.splitKey body).2 <;> rfl

end Blanks

/-! ## §2 Entries that are read can be written -/

/-- A block that is not kept anyway is written between braces; if its end is missing, no brace
stands before its first comma. -/
def Block.BraceDelimited (b : Block) : Prop :=
  ¬b.IsKept → b.head.opener = '{' ∧
    (b.closed = false → BraceFree (b.body.takeWhile (· != ',')))

instance (b : Block) : Decidable b.BraceDelimited :=
  inferInstanceAs (Decidable (_ → _ ∧ (_ → BraceFree _)))

theorem filter_isMark_trim (s : List Char) : (trim s).filter isMark = s.filter isMark := by
  obtain ⟨w, w', hw, hw', hs⟩ := exists_eq_append_trim s
  conv => rhs; rw [hs]
  rw [List.filter_append, List.filter_append, filter_isMark_of_blank hw,
    filter_isMark_of_blank hw', List.nil_append, List.append_nil]

/-- Helper: what separates the first part of a body from the fields holds no brace. -/
private theorem exists_braceFree_separator (body : List Char) : ∃ sep, BraceFree sep ∧
    body.takeWhile (· != ',') ++ (sep ++ (body.dropWhile (· != ',')).drop 1) = body := by
  have hsplit := List.takeWhile_append_dropWhile (p := (· != ',')) (l := body)
  -- the part behind the key is empty or starts with the comma
  cases hd : body.dropWhile (· != ',') with
  -- no comma at all: the whole body is the part before it, and nothing separates
  | nil =>
    refine ⟨[], ⟨by simp, by simp⟩, ?_⟩
    rw [hd] at hsplit
    exact hsplit
  | cons c t =>
    have hc : c = ',' := by
      have hstop := head?_dropWhile_eq_false (· != ',') body
      rw [hd] at hstop
      simpa using hstop c rfl
    refine ⟨[','], by decide, ?_⟩
    rw [hd, hc] at hsplit
    exact hsplit

/-- Helper: if the fields behind the first part of a body are read, the first part is balanced and
the fields can be written. -/
private theorem balanced_first {b : Block} (hb : b.WellFormed) (hopener : b.head.opener = '{')
    (hfirst : b.closed = false → braceDepth (b.body.takeWhile (· != ',')) = 0)
    {fs : List Field} (hfs : readFields ((b.body.dropWhile (· != ',')).drop 1) = .ok fs) :
    Balanced (b.body.takeWhile (· != ',')) ∧ ∀ f ∈ fs, f.Writable := by
  obtain ⟨used, hused, hdepth, hwritable⟩ := readFields_readsOff hfs
  obtain ⟨sep, hsep, hbody⟩ := exists_braceFree_separator b.body
  rw [List.append_nil] at hused
  rw [hused] at hbody
  have hnever := hb.neverCloses
  rw [hopener, ← hbody] at hnever
  obtain ⟨hnever, hnever'⟩ := neverCloses_append.1 hnever
  -- the fields close what they open, so the first part has to as well
  have hfirstDepth : braceDepth (b.body.takeWhile (· != ',')) = 0 := by
    cases hclosed : b.closed with
    | true =>
      have hwhole := hb.depth hclosed
      rw [← hbody, braceDepth_append, braceDepth_append, hdepth, hsep.braceDepth] at hwhole
      simpa using hwhole
    | false => exact hfirst hclosed
  rw [hfirstDepth, neverCloses_append, hsep.braceDepth] at hnever'
  exact ⟨balanced_iff.2 ⟨hnever, hfirstDepth⟩, hwritable hnever'.2⟩

/-- Helper: the key of a body is a citation key that is read as it is written. -/
private theorem isKey_of_splitKey {body key : List Char} (h : (Block.splitKey body).1 = some key)
    (hbalanced : Balanced (body.takeWhile (· != ','))) : IsKey key := by
  simp only [Block.splitKey] at h
  split at h
  · cases h
  · next hequals =>
    -- the key is trimmed and not empty; what trimming leaves was in the body's first part
    split at h
    · cases h
    · next hempty =>
      cases h
      have hsub := trim_subset (body.takeWhile (· != ','))
      exact {
        ne_nil := by simpa using hempty
        comma := fun hc => by simpa using List.mem_takeWhile_imp (hsub hc)
        equals := fun hc => hequals (hsub hc)
        trimmed := trim_trim _
        balanced := hbalanced.of_filter_eq (filter_isMark_trim _) }

/-- Helper: the key and the fields of a block that is written between braces can be written. -/
private theorem writable_of_splitKey {b : Block} (hb : b.WellFormed)
    (hopener : b.head.opener = '{')
    (hfirst : b.closed = false → braceDepth (b.body.takeWhile (· != ',')) = 0) {fs : List Field}
    (hfs : readFields (Block.splitKey b.body).2 = .ok fs) :
    (∀ key, (Block.splitKey b.body).1 = some key → IsKey key) ∧ ∀ f ∈ fs, f.Writable := by
  by_cases hequals : '=' ∈ b.body.takeWhile (· != ',')
  · -- without a key all of the body is fields
    have hsplit : Block.splitKey b.body = (none, b.body) := by
      simp only [Block.splitKey, if_pos hequals]
    rw [hsplit] at hfs ⊢
    obtain ⟨used, hused, -, hwritable⟩ := readFields_readsOff hfs
    rw [List.append_nil] at hused
    have hnever := hb.neverCloses
    rw [hopener, show b.body = used from hused] at hnever
    refine ⟨fun key hkey => ?_, hwritable hnever⟩
    cases hkey
  · have hrest : (Block.splitKey b.body).2 = (b.body.dropWhile (· != ',')).drop 1 := by
      simp only [Block.splitKey, if_neg hequals]
    rw [hrest] at hfs
    obtain ⟨hbalanced, hwritable⟩ := balanced_first hb hopener hfirst hfs
    exact ⟨fun key hkey => isKey_of_splitKey hkey hbalanced, hwritable⟩

/-- The entry of a block that is written between braces can be written; if the end of the block is
missing, its first part has to close the braces that it opens. -/
theorem writable_of_entry {check : BlockCheck} {b : Block} (hb : b.WellFormed)
    (hopener : b.head.opener = '{')
    (hfirst : b.closed = false → braceDepth (b.body.takeWhile (· != ',')) = 0) {e : Entry}
    (he : b.entry check = .ok e) : e.Writable ∧ e.type.toList = b.type := by
  -- an accepted block is an entry with the type, the key and the fields that were read off it
  obtain ⟨-, fs, hfs, rfl⟩ := Block.entry_eq_ok_iff.1 he
  obtain ⟨hkey, hfields⟩ := writable_of_splitKey hb hopener hfirst hfs
  refine ⟨⟨?_, ?_, hfields⟩, String.toList_ofList⟩
  · obtain ⟨d, ds, htype, hd, hds⟩ := hb.head.type
    exact ⟨d, ds, by simpa [Block.type] using htype, hd, hds⟩
  · intro k hk
    obtain ⟨key, hsplit, rfl⟩ := Option.map_eq_some_iff.1 hk
    rw [String.toList_ofList]
    exact hkey key hsplit

/-! ## §3 Pieces that come back -/

/-- What trimming leaves of a block without a closing delimiter. -/
theorem trim_text_of_not_closed {b : Block} (hb : b.WellFormed) (hclosed : b.closed = false) :
    trim b.text = b.head.text ++ trimRight b.body := by
  obtain ⟨s, c, hs, -, hc⟩ := hb.head.ends
  have htext : b.text = '@' :: s ++ [c] ++ b.body := by simp [Block.text, hclosed, hs]
  have hleft : trimLeft b.text = b.text := by
    rw [htext]
    exact trimLeft_of_head (by decide)
  -- trimming from the right stops inside the body, or at the opener when the body is blank
  -- throughout
  rw [trim, hleft, htext, hs, trimRight, trimRight, List.reverse_append, List.dropWhile_append]
  split
  · next hblank =>
    rw [List.isEmpty_iff] at hblank
    rw [hblank]
    simp [hc]
  · simp

/-- A piece comes back in front of a text: with blanks between the two, it is the first item that is
read, and this item is written like the piece. -/
def ComesBack (check : BlockCheck) (l : Layout) (x t : List Char) : Prop :=
  ∀ w, AllBlank w → BeginsWithBlock (x ++ (w ++ t)) ∧
    (Reading.ofCharsUsing check (x ++ (w ++ t))).items.map l.renderItem =
      x :: (Reading.ofCharsUsing check t).items.map l.renderItem

section Pieces

variable {check : BlockCheck} {l : Layout}

/-- A closed block whose item is written like the block itself comes back. -/
private theorem comesBack_of_closed {b : Block} (hb : b.WellFormed) (hclosed : b.closed = true)
    (hrender : l.renderItem (b.item check) = b.text) (t : List Char) :
    ComesBack check l b.text t := by
  intro w hw
  have hopen : b.closed = false → w ++ t = [] := Block.eq_nil_of_not_closed hclosed
  refine ⟨beginsWithBlock_text_append hb hopen, ?_⟩
  rw [items_text_append hb hopen, items_append_of_allBlank hw, List.map_cons, hrender]

/-- A block that is kept comes back when it has its closing delimiter. -/
private theorem comesBack_of_kept {b : Block} (hb : b.WellFormed) (hclosed : b.closed = true)
    (hitem : b.item check = .verbatim b.verbatim) (t : List Char) :
    ComesBack check l (trim b.text) t := by
  rw [trim_text_of_closed hb hclosed]
  refine comesBack_of_closed hb hclosed ?_ t
  rw [hitem, renderItem_verbatim, trim_text_of_closed hb hclosed]

/-- A last block that is kept is found again without its closing delimiter, although it takes in the
blanks behind it, and is kept again. -/
theorem exists_block_of_not_closed (hcheck : check.IgnoresTrailingBlanks) {b : Block}
    (hb : b.WellFormed) (hclosed : b.closed = false)
    (hrefused : ¬b.IsKept → (b.entry check).isOk = false) {w : List Char} (hw : AllBlank w) :
    ∃ b' : Block, b'.WellFormed ∧ b'.closed = false ∧ trim b.text ++ w = b'.text ∧
      b'.item check = .verbatim b'.verbatim := by
  -- the blanks `w'` at the end of the block are replaced by `w`
  obtain ⟨w', hw', hbody⟩ := exists_eq_trimRight_append b.body
  have hnever := hb.neverCloses
  rw [hbody] at hnever
  have hb' : (⟨b.head, trimRight b.body ++ w, false⟩ : Block).WellFormed := {
    head := hb.head
    neverCloses := neverCloses_append.2
      ⟨(neverCloses_append.1 hnever).1, neverCloses_of_allBlank hw hb.head.isBlank_closer _⟩
    depth := fun h => by cases h }
  refine ⟨_, hb', rfl, ?_, ?_⟩
  · rw [trim_text_of_not_closed hb hclosed]
    simp [Block.text]
  · by_cases hkept : b.IsKept
    · exact Block.item_of_isKept hkept
    · have hsame : b = ⟨b.head, trimRight b.body ++ w', false⟩ := by
        rw [← hbody, ← hclosed]
      refine Block.item_of_not_isOk ?_
      rw [isOk_entry_append hw hcheck, ← isOk_entry_append hw' hcheck, ← hsame]
      exact hrefused hkept

/-- Helper: the written form of such a block comes back. -/
private theorem comesBack_of_not_closed (hcheck : check.IgnoresTrailingBlanks) {b : Block}
    (hb : b.WellFormed) (hclosed : b.closed = false)
    (hrefused : ¬b.IsKept → (b.entry check).isOk = false) :
    ComesBack check l (trim b.text) [] := by
  intro w hw
  obtain ⟨b', hb', -, htext, hitem⟩ := exists_block_of_not_closed hcheck hb hclosed hrefused hw
  have hrender : l.renderItem (b'.item check) = trim b.text := by
    rw [hitem, renderItem_verbatim, ← htext, trim_append_right hw, trim_trim]
  rw [List.append_nil, htext, ← List.append_nil b'.text]
  refine ⟨beginsWithBlock_text_append hb' fun _ => rfl, ?_⟩
  rw [items_text_append hb' fun _ => rfl, List.map_cons, hrender]

/-- The block of a written entry is written alike, whether the check accepts it or not. -/
theorem renderItem_entryBlock (check : BlockCheck) (hl : l.ReadsBack) {e : Entry} (he : e.Writable)
    (hkept : ¬(entryBlock l e).IsKept) :
    l.renderItem ((entryBlock l e).item check) = (entryBlock l e).text := by
  cases hok : (check (entryBlock l e).text).isOk with
  | true =>
    rw [(Block.item_of_entry hkept (entry_entryBlock hl.keepsNames he (hl.enclosedBy he) hok)).1,
      Layout.renderItem, Layout.renderEntry_settled hl.keepsNames, text_entryBlock]
  | false =>
    rw [Block.item_of_not_isOk (Block.isOk_entry_eq_false hok), renderItem_verbatim,
      trim_text_of_closed (wellFormed_entryBlock hl.keepsNames he) rfl]

/-- Whatever becomes of a block, the text that it is written as comes back. -/
private theorem comesBack_item (hcheck : check.IgnoresTrailingBlanks) (hl : l.ReadsBack) {b : Block}
    (hb : b.WellFormed) (hbrace : b.BraceDelimited) {t : List Char}
    (ht : b.closed = false → t = []) : ComesBack check l (l.renderItem (b.item check)) t := by
  -- verbatim text, kept or refused, comes back whether the block is closed or runs to the end
  have hverbatim (hitem : b.item check = .verbatim b.verbatim)
      (hrefused : ¬b.IsKept → (b.entry check).isOk = false) :
      ComesBack check l (l.renderItem (b.item check)) t := by
    rw [hitem, renderItem_verbatim]
    cases hclosed : b.closed with
    | true => exact comesBack_of_kept hb hclosed hitem t
    | false =>
      rw [ht hclosed]
      exact comesBack_of_not_closed hcheck hb hclosed hrefused
  by_cases hkept : b.IsKept
  · exact hverbatim (Block.item_of_isKept hkept) fun h => absurd hkept h
  -- an accepted entry is written as a closed block, whose item is the settled entry
  cases hentry : b.entry check with
  | error fault =>
    have hnot : (b.entry check).isOk = false := by
      rw [hentry]
      rfl
    exact hverbatim (Block.item_of_not_isOk hnot) fun _ => hnot
  | ok e =>
    obtain ⟨hopener, hfirst⟩ := hbrace hkept
    obtain ⟨he, htype⟩ := writable_of_entry hb hopener (fun h => (hfirst h).braceDepth) hentry
    -- the written block has the old type, so it is not one of the kept ones
    have hkept' : ¬(entryBlock l e).IsKept := by
      unfold Block.IsKept
      rw [show (entryBlock l e).type = b.type from htype]
      exact hkept
    rw [(Block.item_of_entry hkept hentry).1, Layout.renderItem, ← text_entryBlock]
    exact comesBack_of_closed (wellFormed_entryBlock hl.keepsNames he) rfl
      (renderItem_entryBlock check hl he hkept') t

end Pieces

/-! ## §4 Whole texts -/

/-- A text after it has been read and written with the given settings. -/
def reformat (check : BlockCheck) (s : Settings) (t : List Char) : List Char :=
  (Document.ofItems s (Occurrence.number (Reading.ofCharsUsing check t).items)).text

/-- The pieces that a text is written as, item by item. -/
def writtenPieces (check : BlockCheck) (l : Layout) (t : List Char) : List (List Char) :=
  (Reading.ofCharsUsing check t).items.map l.renderItem

theorem writtenPieces_nil (check : BlockCheck) (l : Layout) : writtenPieces check l [] = [] := by
  rw [writtenPieces, items_nil, List.map_nil]

theorem map_renderItem_readGap (l : Layout) {g : List Char} (h : trim g ≠ []) :
    (readGap g).map l.renderItem = [trim g] := by
  simp [readGap, h, Layout.renderItem, trim_trim]

/-- A trimmed gap in front of a block comes back. -/
theorem writtenPieces_append_of_gap (check : BlockCheck) (l : Layout) {g w u : List Char}
    (hg : IsGap g) (hne : trim g ≠ []) (hw : AllBlank w) (hu : BeginsWithBlock u) :
    writtenPieces check l (trim g ++ (w ++ u)) = trim g :: writtenPieces check l u := by
  rw [writtenPieces, items_append_of_gap hg.trim hw hu, List.map_append,
    readGap_of_trim_eq (trim_trim g), map_renderItem_readGap l hne]
  rfl

theorem writtenPieces_of_gap (check : BlockCheck) (l : Layout) {g : List Char} (hg : IsGap g) :
    writtenPieces check l g = (readGap g).map l.renderItem := by
  rw [writtenPieces, items_ofCharsUsing, segment_of_gap hg]
  rfl

theorem writtenPieces_of_nextBlock? (check : BlockCheck) (l : Layout) {t gap rest : List Char}
    {b : Block} (h : nextBlock? t = some (gap, b, rest)) :
    writtenPieces check l t = (readGap gap).map l.renderItem ++
      l.renderItem (b.item check) :: writtenPieces check l rest := by
  rw [writtenPieces, items_ofCharsUsing, segment_of_nextBlock? h, writtenPieces,
    items_ofCharsUsing]
  simp [Segmented.items]

/-- A gap comes back in front of pieces that come back, also when it is blank and not written. -/
private theorem writtenPieces_joinBlocks_of_gap {check : BlockCheck} {l : Layout} {g : List Char}
    (hg : IsGap g) {xs : List (List Char)} (hbegins : BeginsWithBlock (Document.joinBlocks xs))
    (hback : writtenPieces check l (Document.joinBlocks xs) = xs) :
    writtenPieces check l (Document.joinBlocks ((readGap g).map l.renderItem ++ xs)) =
      (readGap g).map l.renderItem ++ xs := by
  by_cases hblank : trim g = []
  · rw [readGap_of_allBlank (trim_eq_nil_iff.1 hblank)]
    exact hback
  · obtain ⟨w, hw, hjoin⟩ := joinBlocks_cons (trim g) xs
    rw [map_renderItem_readGap l hblank, List.singleton_append, hjoin,
      writtenPieces_append_of_gap check l hg hblank hw hbegins, hback]

/-- The pieces of a text come back from the written text. -/
theorem writtenPieces_joinBlocks {check : BlockCheck} (hcheck : check.IgnoresTrailingBlanks)
    {l : Layout} (hl : l.ReadsBack) (t : List Char)
    (ht : ∀ x ∈ (segment t).blocks, x.2.BraceDelimited) :
    writtenPieces check l (Document.joinBlocks (writtenPieces check l t)) =
      writtenPieces check l t := by
  -- the induction follows the cuts: a last gap, or a gap, a block and the rest of the text
  induction t using segment.induct with
  | case1 t hnone =>
    rw [writtenPieces_of_gap check l hnone, ← List.append_nil ((readGap t).map l.renderItem)]
    exact writtenPieces_joinBlocks_of_gap hnone (.inl rfl) (writtenPieces_nil check l)
  | case2 t gap block rest hnext ih =>
    rw [segment_of_nextBlock? hnext] at ht
    obtain ⟨hblock, hrest⟩ := wellFormed_of_nextBlock? hnext
    have hbrace := ht _ List.mem_cons_self
    have ih := ih fun x hx => ht x (List.mem_cons_of_mem _ hx)
    rw [writtenPieces_of_nextBlock? check l hnext]
    generalize hx : l.renderItem (block.item check) = x
    generalize hxs : writtenPieces check l rest = xs at ih ⊢
    -- nothing is written behind a block without its closing delimiter
    have hopen : block.closed = false → Document.joinBlocks xs = [] := by
      intro hclosed
      rw [← hxs, hrest hclosed, writtenPieces_nil]
      rfl
    obtain ⟨w, hw, hjoin⟩ := joinBlocks_cons x xs
    obtain ⟨hbegins, hback⟩ := hx ▸ comesBack_item hcheck hl hblock hbrace hopen w hw
    refine writtenPieces_joinBlocks_of_gap (isGap_of_nextBlock? hnext) ?_ ?_
    · rw [hjoin]
      exact hbegins
    · rw [hjoin, writtenPieces, hback, ← writtenPieces, ih]

/-- Formatting without sorting leads to a text that formatting does not change. -/
theorem reformat_reformat {check : BlockCheck} (hcheck : check.IgnoresTrailingBlanks) {s : Settings}
    (hsort : s.sortEntries = false) (hl : s.layout.ReadsBack) {t : List Char}
    (ht : ∀ x ∈ locateBlocks t, x.block.BraceDelimited) :
    reformat check s (reformat check s t) = reformat check s t := by
  -- the places carry the blocks of the text, so each of them is brace-delimited
  have hblocks : ∀ x ∈ (segment t).blocks, x.2.BraceDelimited := by
    intro x hx
    have hmem : x.2 ∈ (locateBlocks t).map (·.block) := by
      rw [locateBlocks, map_block_locateFrom]
      exact List.mem_map_of_mem hx
    obtain ⟨y, hy, heq⟩ := List.mem_map.1 hmem
    exact heq ▸ ht y hy
  -- without sorting the text is the joined pieces, and those come back piece by piece
  have hpieces (u : List Char) :
      reformat check s u = Document.joinBlocks (writtenPieces check s.layout u) :=
    text_ofItems hsort _
  rw [hpieces t, hpieces, writtenPieces_joinBlocks hcheck hl t hblocks]

/-- A text with a note, a book and a reference whose end is missing. -/
def noteAndBooks : List Char := "note @book\x7bk, title = \x7bA\x7d\x7d\n@misc\x7bm, x".toList

theorem blocks_noteAndBooks : (segment noteAndBooks).blocks =
    [("note ".toList,
      ⟨⟨"@book\x7b".toList, "book".toList, '{'⟩, "k, title = \x7bA\x7d".toList, true⟩),
      (['\n'], ⟨⟨"@misc\x7b".toList, "misc".toList, '{'⟩, "m, x".toList, false⟩)] := by
  have hbook : nextBlock? noteAndBooks = some ("note ".toList,
      ⟨⟨"@book\x7b".toList, "book".toList, '{'⟩, "k, title = \x7bA\x7d".toList, true⟩,
      "\n@misc\x7bm, x".toList) := by decide
  have hmisc : nextBlock? "\n@misc\x7bm, x".toList = some (['\n'],
      ⟨⟨"@misc\x7b".toList, "misc".toList, '{'⟩, "m, x".toList, false⟩, []) := by decide
  rw [segment_of_nextBlock? hbook, segment_of_nextBlock? hmisc, segment_nil]

theorem reformat_reformat_noteAndBooks :
    (∀ x ∈ locateBlocks noteAndBooks, x.block.BraceDelimited) ∧
      reformat Check.run .default (reformat Check.run .default noteAndBooks) =
        reformat Check.run .default noteAndBooks := by
  have hblocks : ∀ x ∈ locateBlocks noteAndBooks, x.block.BraceDelimited := by
    rw [locateBlocks, blocks_noteAndBooks]
    decide
  exact ⟨hblocks,
    reformat_reformat Check.run_ignoresTrailingBlanks rfl Layout.readsBack_default hblocks⟩

end Bibliography
