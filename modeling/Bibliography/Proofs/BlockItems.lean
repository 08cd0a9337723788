import Bibliography.Document
import Bibliography.Proofs.Segmentation

/-!
# Items of blocks and gaps

Reading a text makes one item of every block and reports at most one issue for it; neither depends
on the other blocks. The items of a text that is put together from blanks, gaps and blocks are
therefore the items of its parts.

Main statements: the items and the issues of a text, block by block (`items_ofCharsUsing`,
`issues_ofCharsUsing`), and the items of composed texts (`items_append_of_allBlank`,
`items_append_of_gap`, `items_text_append`).
-/

namespace Bibliography

open Text

variable {check : BlockCheck}

/-! ## §1 Single blocks -/

namespace Block

/-- Whether a block is kept as it is written, whatever it holds. -/
def IsKept (b : Block) : Prop :=
  lower b.type ∈ ["string".toList, "preamble".toList, "comment".toList]

instance (b : Block) : Decidable b.IsKept := inferInstanceAs (Decidable (_ ∈ _))

theorem treatment_eq_keep_iff (b : Block) :
    Treatment.ofType b.type = .keep ↔ lower b.type = "comment".toList := by
  unfold Treatment.ofType
  simp only
  split
  · next h => exact ⟨fun _ => h, fun _ => rfl⟩
  · next h =>
    refine ⟨fun hkeep => ?_, fun hc => absurd hc h⟩
    split at hkeep <;> cases hkeep

theorem treatment_eq_read_iff (b : Block) : Treatment.ofType b.type = .read ↔ ¬b.IsKept := by
  unfold Treatment.ofType IsKept
  simp only [List.mem_cons, List.not_mem_nil, or_false]
  -- the three kept types are tested in two steps: comments first, then strings and preambles
  split
  · next h => simp [h]
  · next h =>
    split
    · next h' => exact ⟨fun hread => (by cases hread), fun hnot => absurd (h'.imp_right .inl) hnot⟩
    · next h' =>
      refine ⟨fun _ hkept => ?_, fun _ => rfl⟩
      rcases hkept with hstring | hpreamble | hcomment
      · exact h' (.inl hstring)
      · exact h' (.inr hpreamble)
      · exact h hcomment

/-- The entry of a block, as an equation. -/
theorem entry_eq (check : BlockCheck) (b : Block) : b.entry check =
    match check b.text with
    | .error fault => .error (.check fault)
    | .ok _ =>
      match readFields (splitKey b.body).2 with
      | .error fault => .error (.fields fault)
      | .ok fields => .ok ⟨String.ofList b.type, (splitKey b.body).1.map String.ofList, fields⟩ :=
  rfl

/-- An entry is read from a block that the check accepts, with the fields that are read behind the
key, and from no other. -/
theorem entry_eq_ok_iff {b : Block} {e : Entry} : b.entry check = .ok e ↔
    (check b.text).isOk = true ∧ ∃ fields, readFields (splitKey b.body).2 = .ok fields ∧
      e = ⟨String.ofList b.type, (splitKey b.body).1.map String.ofList, fields⟩ := by
  rw [entry_eq]
  cases hcheck : check b.text with
  | error fault => simp [Except.isOk, Except.toBool]
  | ok records =>
    cases hfields : readFields (splitKey b.body).2 with
    | error fault => simp
    | ok fields => simp [Except.isOk, Except.toBool, eq_comm]

/-- The item that a block becomes. -/
def item (check : BlockCheck) (b : Block) : Item :=
  match Treatment.ofType b.type with
  | .keep => .verbatim b.verbatim
  | .checkAndKeep => .verbatim b.verbatim
  | .read =>
    match b.entry check with
    | .ok e => .entry e
    | .error _ => .verbatim b.verbatim

/-- The issue that is reported for a block which begins on a line, if there is one. -/
def issue? (check : BlockCheck) (b : Block) (line : Nat) : Option Issue :=
  match Treatment.ofType b.type with
  | .keep => none
  | .checkAndKeep =>
    match check b.text with
    | .ok _ => none
    | .error fault => some ⟨none, line, .check fault⟩
  | .read =>
    match b.entry check with
    | .ok _ => none
    | .error fault => some ⟨(splitKey b.body).1.map String.ofList, line, fault⟩

/-- Reading a block gives its item and its issue. -/
theorem read_eq (check : BlockCheck) (b : Block) (line : Nat) :
    b.read check line = ⟨[b.item check], (b.issue? check line).toList⟩ := by
  unfold Block.read item issue?
  cases Treatment.ofType b.type with
  | keep => rfl
  | checkAndKeep => cases check b.text <;> rfl
  | read => cases b.entry check <;> rfl

theorem item_of_isKept {b : Block} (h : b.IsKept) : b.item check = .verbatim b.verbatim := by
  unfold item
  cases htreat : Treatment.ofType b.type with
  | keep => rfl
  | checkAndKeep => rfl
  | read => exact absurd h (b.treatment_eq_read_iff.1 htreat)

theorem item_of_not_isOk {b : Block} (h : (b.entry check).isOk = false) :
    b.item check = .verbatim b.verbatim := by
  unfold item
  cases Treatment.ofType b.type with
  | keep => rfl
  | checkAndKeep => rfl
  | read =>
    -- a block that is to be read is an entry only if the reading succeeds
    cases hentry : b.entry check with
    | ok e =>
      rw [hentry] at h
      cases h
    | error fault => rfl

/-- No entry is read from a block that the check refuses. -/
theorem isOk_entry_eq_false {b : Block} (h : (check b.text).isOk = false) :
    (b.entry check).isOk = false := by
  cases hentry : b.entry check with
  | error fault => rfl
  | ok e =>
    rw [(entry_eq_ok_iff.1 hentry).1] at h
    cases h

theorem isOk_of_entry {b : Block} {e : Entry} (h : b.entry check = .ok e) :
    (check b.text).isOk = true :=
  (entry_eq_ok_iff.1 h).1

/-- A block whose entry can be read becomes this entry, and nothing is reported. -/
theorem item_of_entry {b : Block} {e : Entry} (hb : ¬b.IsKept) (h : b.entry check = .ok e) :
    b.item check = .entry e ∧ ∀ line, b.issue? check line = none := by
  unfold item issue?
  rw [b.treatment_eq_read_iff.2 hb, h]
  exact ⟨rfl, fun _ => rfl⟩

/-- A block that becomes an entry is read as this entry. -/
theorem entry_of_item {b : Block} {e : Entry} (h : b.item check = .entry e) :
    ¬b.IsKept ∧ b.entry check = .ok e := by
  -- a kept block is never an entry
  have hkept : ¬b.IsKept := fun hkept => by
    rw [item_of_isKept hkept] at h
    cases h
  refine ⟨hkept, ?_⟩
  -- a block read as an entry holds the entry that was read, any other is verbatim
  cases hentry : b.entry check with
  | error fault =>
    rw [item_of_not_isOk (by rw [hentry]; rfl)] at h
    cases h
  | ok e' =>
    rw [(item_of_entry hkept hentry).1] at h
    cases h
    rfl

/-- A block that becomes no entry is kept as it is written. -/
theorem eq_verbatim_of_item {b : Block} {v : Verbatim} (h : b.item check = .verbatim v) :
    v = b.verbatim ∧ (¬b.IsKept → (b.entry check).isOk = false) := by
  by_cases hkept : b.IsKept
  · rw [item_of_isKept hkept] at h
    exact ⟨(Item.verbatim.inj h).symm, fun hnot => absurd hkept hnot⟩
  · -- a block that is read succeeds as an entry, so being verbatim means that it failed
    cases hentry : b.entry check with
    | ok e =>
      rw [(item_of_entry hkept hentry).1] at h
      cases h
    | error fault =>
      rw [item_of_not_isOk (by rw [hentry]; rfl)] at h
      exact ⟨(Item.verbatim.inj h).symm, fun _ => rfl⟩

/-- A kept block that the check accepts is not reported. -/
theorem issue?_of_isKept {b : Block} (hb : b.IsKept) (h : (check b.text).isOk = true) (line : Nat) :
    b.issue? check line = none := by
  unfold issue?
  cases htreat : Treatment.ofType b.type with
  | keep => rfl
  -- a string or a preamble is checked for its issue alone, and the check accepts it
  | checkAndKeep =>
    cases hcheck : check b.text with
    | ok records => rfl
    | error fault =>
      rw [hcheck] at h
      cases h
  | read => exact absurd hb (b.treatment_eq_read_iff.1 htreat)

end Block

/-! ## §2 Whole texts -/

/-- The items of the blocks and gaps of a text, in order. -/
def Segmented.items (check : BlockCheck) (p : Segmented) : List Item :=
  p.blocks.flatMap (fun x => readGap x.1 ++ [x.2.item check]) ++ readGap p.trailing

theorem items_readBlocks (line : Nat) (blocks : List (List Char × Block)) :
    (readBlocks check line blocks).items =
      blocks.flatMap fun x => readGap x.1 ++ [x.2.item check] := by
  induction blocks generalizing line with
  | nil => rfl
  | cons x blocks ih =>
    obtain ⟨gap, block⟩ := x
    simp only [readBlocks, Reading.append, Block.read_eq, ih, List.flatMap_cons]

theorem issues_readBlocks (line position : Nat) (blocks : List (List Char × Block)) :
    (readBlocks check line blocks).issues =
      (locateFrom line position blocks).filterMap fun l => l.block.issue? check l.line := by
  induction blocks generalizing line position with
  | nil => rfl
  | cons x blocks ih =>
    obtain ⟨gap, block⟩ := x
    simp only [readBlocks, Reading.append, Block.read_eq, locateFrom, List.filterMap_cons,
      List.nil_append]
    -- an issue knows its line only, so any position will do for the other blocks
    rw [ih _ (position + gap.length + block.text.length)]
    cases block.issue? check (line + lineFeeds gap) <;> rfl

/-- The items of a text are those of its blocks and gaps. -/
theorem items_ofCharsUsing (check : BlockCheck) (s : List Char) :
    (Reading.ofCharsUsing check s).items = (segment s).items check := by
  simp only [Reading.ofCharsUsing, Reading.append, items_readBlocks, Segmented.items]

/-- The issues of a text are those of its blocks, each with the line on which the block begins. -/
theorem issues_ofCharsUsing (check : BlockCheck) (s : List Char) :
    (Reading.ofCharsUsing check s).issues =
      (locateBlocks s).filterMap fun l => l.block.issue? check l.line := by
  simp only [Reading.ofCharsUsing, Reading.append, List.append_nil, locateBlocks]
  exact issues_readBlocks 1 0 _

theorem map_block_locateFrom (line position : Nat) (blocks : List (List Char × Block)) :
    (locateFrom line position blocks).map (·.block) = blocks.map (·.2) := by
  induction blocks generalizing line position with
  | nil => rfl
  | cons x blocks ih =>
    obtain ⟨gap, block⟩ := x
    simp only [locateFrom, List.map_cons, ih]

/-! ## §3 Items of composed texts -/

theorem readGap_of_trim_eq {g h : List Char} (hgh : trim g = trim h) : readGap g = readGap h := by
  simp only [readGap, hgh]

theorem readGap_of_allBlank {w : List Char} (hw : AllBlank w) : readGap w = [] := by
  simp [readGap, trim_eq_nil_iff.2 hw]

@[simp]
theorem readGap_nil : readGap [] = [] := readGap_of_allBlank .nil

@[simp]
theorem items_nil : (Reading.ofCharsUsing check []).items = [] := by
  rw [items_ofCharsUsing, segment_nil, Segmented.items, readGap_nil]
  rfl

theorem Segmented.items_prepend {p : Segmented} {g : List Char}
    (h : ∀ gap, readGap (g ++ gap) = readGap gap) : (p.prepend g).items check = p.items check := by
  obtain ⟨blocks, trailing⟩ := p
  cases blocks with
  | nil => simp [Segmented.prepend, Segmented.items, h]
  | cons x blocks =>
    obtain ⟨gap, b⟩ := x
    simp [Segmented.prepend, Segmented.items, h]

/-- Blanks in front of a text do not change its items. -/
theorem items_append_of_allBlank {w : List Char} (hw : AllBlank w) (s : List Char) :
    (Reading.ofCharsUsing check (w ++ s)).items = (Reading.ofCharsUsing check s).items := by
  rw [items_ofCharsUsing, items_ofCharsUsing, segment_append_of_allBlank hw]
  exact Segmented.items_prepend fun gap => readGap_of_trim_eq (trim_append_left hw gap)

/-- A block in front of a text is its first item; without a closing delimiter it is the only one. -/
theorem items_text_append {b : Block} (hb : b.WellFormed) {t : List Char}
    (ht : b.closed = false → t = []) :
    (Reading.ofCharsUsing check (b.text ++ t)).items =
      b.item check :: (Reading.ofCharsUsing check t).items := by
  rw [items_ofCharsUsing, items_ofCharsUsing, segment_text_append hb ht]
  simp [Segmented.items]

/-- A text in which nothing comes before the first block. -/
def BeginsWithBlock (s : List Char) : Prop :=
  s = [] ∨ ∃ b rest, nextBlock? s = some ([], b, rest)

theorem beginsWithBlock_text_append {b : Block} (hb : b.WellFormed) {t : List Char}
    (ht : b.closed = false → t = []) : BeginsWithBlock (b.text ++ t) :=
  .inr ⟨b, t, nextBlock?_text_append hb ht⟩

theorem BeginsWithBlock.endsGap {s : List Char} (h : BeginsWithBlock s) : EndsGap s := by
  rcases h with rfl | ⟨b, rest, h⟩
  · exact endsGap_of_allBlank .nil
  · obtain ⟨u, c, hu, -, -⟩ := (wellFormed_of_nextBlock? h).1.head.ends
    rw [nextBlock?_eq_some h, List.nil_append, Block.text, hu]
    simp only [List.cons_append]
    exact endsGap_at _

/-- A gap in front of a block is an item of its own, unless it is blank. -/
theorem items_append_of_gap {g w s : List Char} (hg : IsGap g) (hw : AllBlank w)
    (hs : BeginsWithBlock s) : (Reading.ofCharsUsing check (g ++ (w ++ s))).items =
      readGap g ++ (Reading.ofCharsUsing check s).items := by
  rw [items_ofCharsUsing, items_ofCharsUsing, segment_append_of_gap hg (hs.endsGap.append hw),
    segment_append_of_allBlank hw]
  -- the blanks behind the gap become part of it, and trimming removes them
  have hpad : readGap (g ++ w) = readGap g := readGap_of_trim_eq (trim_append_right hw g)
  rcases hs with rfl | ⟨b, rest, hb⟩
  · rw [segment_nil]
    simp only [Segmented.prepend, Segmented.items, List.flatMap_nil, List.nil_append, hpad,
      readGap_nil, List.append_nil]
  · rw [segment_of_nextBlock? hb]
    simp only [Segmented.prepend, Segmented.items, List.flatMap_cons, List.append_nil, hpad,
      readGap_nil, List.nil_append, List.append_assoc]

/-! ## §4 Written bibliographies -/

/-- A block with its closing delimiter has no blanks around it. -/
theorem trim_text_of_closed {b : Block} (hb : b.WellFormed) (hclosed : b.closed = true) :
    trim b.text = b.text := by
  obtain ⟨s, c, hs, -, -⟩ := hb.head.ends
  have htext : b.text = '@' :: (s ++ [c] ++ b.body) ++ [closerOf b.head.opener] := by
    simp [Block.text, hclosed, hs]
  rw [htext]
  exact trim_of_ends (by decide) hb.head.isBlank_closer

theorem renderItem_verbatim (l : Layout) (b : Block) :
    l.renderItem (.verbatim b.verbatim) = trim b.text := by
  simp [Layout.renderItem, Block.verbatim]

/-- What stands between the parts of a written bibliography, and behind the last of them, is
blank. -/
theorem joinBlocks_cons (x : List Char) (xs : List (List Char)) :
    ∃ w, AllBlank w ∧ Document.joinBlocks (x :: xs) = x ++ (w ++ Document.joinBlocks xs) := by
  cases xs with
  | nil =>
    refine ⟨['\n'], .singleton (by decide), ?_⟩
    simp [Document.joinBlocks, joinWith]
  | cons y ys =>
    have hfeed : AllBlank ['\n'] := .singleton (by decide)
    refine ⟨['\n', '\n'], hfeed.append hfeed, ?_⟩
    simp [Document.joinBlocks, joinWith_cons_cons]

/-- A block and the gap in front of it, as they are written. -/
def pieceText (p : List Char × Block) : List Char := p.1 ++ p.2.text

/-- Helper: a gap and a complete block in front of a text are its first gap and block. -/
private theorem segment_pieceText_append {p : List Char × Block}
    (h : IsGap p.1 ∧ p.2.WellFormed ∧ p.2.closed = true) (t : List Char) :
    segment (pieceText p ++ t) = ⟨p :: (segment t).blocks, (segment t).trailing⟩ := by
  obtain ⟨hgap, hb, hclosed⟩ := h
  have hopen : p.2.closed = false → t = [] := Block.eq_nil_of_not_closed hclosed
  rw [pieceText, List.append_assoc,
    segment_append_of_gap hgap (beginsWithBlock_text_append hb hopen).endsGap,
    segment_text_append hb hopen, Segmented.prepend, List.append_nil]

section Pieces

variable {ps : List (List Char × Block)}
  (h : ∀ p ∈ ps, IsGap p.1 ∧ p.2.WellFormed ∧ p.2.closed = true) (xs : List (List Char))

include h

/-- Complete blocks that are written one after another, each behind a gap, are found again in front
of whatever else is written. -/
theorem blocks_joinBlocks_append :
    (segment (Document.joinBlocks (ps.map pieceText ++ xs))).blocks.map (·.2) =
      ps.map (·.2) ++ (segment (Document.joinBlocks xs)).blocks.map (·.2) := by
  induction ps with
  | nil => rfl
  | cons p ps ih =>
    have ih := ih fun q hq => h q (List.mem_cons_of_mem _ hq)
    obtain ⟨w, hw, hjoin⟩ := joinBlocks_cons (pieceText p) (ps.map pieceText ++ xs)
    rw [List.map_cons, List.cons_append, hjoin, segment_pieceText_append (h p List.mem_cons_self),
      segment_append_of_allBlank hw, List.map_cons, List.map_cons, List.cons_append, ← ih]
    -- blanks in front of the other blocks belong to a gap
    obtain ⟨blocks, trailing⟩ := segment (Document.joinBlocks (ps.map pieceText ++ xs))
    cases blocks <;> rfl

theorem items_joinBlocks_append (check : BlockCheck) :
    (Reading.ofCharsUsing check (Document.joinBlocks (ps.map pieceText ++ xs))).items =
      ps.flatMap (fun p => readGap p.1 ++ [p.2.item check]) ++
        (Reading.ofCharsUsing check (Document.joinBlocks xs)).items := by
  induction ps with
  | nil => rfl
  | cons p ps ih =>
    have ih := ih fun q hq => h q (List.mem_cons_of_mem _ hq)
    -- the first piece ends in blank text, which adds no items; what stands behind is the joined
    -- rest
    obtain ⟨w, hw, hjoin⟩ := joinBlocks_cons (pieceText p) (ps.map pieceText ++ xs)
    rw [List.map_cons, List.cons_append, hjoin, items_ofCharsUsing,
      segment_pieceText_append (h p List.mem_cons_self), List.flatMap_cons, List.append_assoc, ← ih,
      ← items_append_of_allBlank hw, items_ofCharsUsing]
    simp [Segmented.items]

end Pieces

theorem items_number (items : List Item) : (Occurrence.number items).map (·.item) = items := by
  simp only [Occurrence.number, List.map_map]
  exact List.zipIdx_map_fst 0 items

/-- Without sorting, a bibliography is written item by item. -/
theorem text_ofItems {s : Settings} (hs : s.sortEntries = false) (items : List Item) :
    (Document.ofItems s (Occurrence.number items)).text =
      Document.joinBlocks (items.map s.layout.renderItem) := by
  -- without duplicates to comment out a block is its item's rendering
  have hblock : Document.block s.layout [] = fun x => s.layout.renderItem x.item := by
    funext x
    simp [Document.block]
  -- numbering the items and dropping the numbers again gives the items
  have hmap : (Occurrence.number items).map (Document.block s.layout []) =
      items.map s.layout.renderItem := by
    conv => rhs; rw [← items_number items]
    rw [hblock, List.map_map]
    rfl
  simp [Document.ofItems, Document.arrangeItems, hs, hmap]

end Bibliography
