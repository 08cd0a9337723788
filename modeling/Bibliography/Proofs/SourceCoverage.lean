import Bibliography.Proofs.BlockItems

/-!
# What becomes of a source

An account of a text and of what it is read as. Its blocks lie in the text one after another, each
at the first head that is left, and each but the last up to its closing delimiter. Every block and
every gap that is not blank becomes one item, in the order of the text, and every block that is
refused is reported once.

Main statement: `sourceAccount_ofCharsUsing`.
-/

namespace Bibliography

open Text

/-! ## §1 Blocks behind a text -/

/-- The blocks of a text that stands behind another one. -/
def locateBehind (pre s : List Char) : List Located :=
  locateFrom (1 + lineFeeds pre) pre.length (segment s).blocks

theorem locateBehind_of_gap (pre : List Char) {s : List Char} (h : IsGap s) :
    locateBehind pre s = [] := by
  rw [locateBehind, segment_of_gap h]
  rfl

/-- Helper: the first block of a text and its gap, behind another text. -/
private theorem append_of_nextBlock? (pre : List Char) {s gap rest : List Char} {b : Block}
    (h : nextBlock? s = some (gap, b, rest)) : pre ++ s = pre ++ gap ++ b.text ++ rest := by
  rw [nextBlock?_eq_some h]
  simp only [List.append_assoc]

/-- The first block stands behind its gap, and the others behind both. -/
theorem locateBehind_of_nextBlock? (pre : List Char) {s gap rest : List Char} {b : Block}
    (h : nextBlock? s = some (gap, b, rest)) :
    locateBehind pre s =
      ⟨b, 1 + lineFeeds (pre ++ gap), (pre ++ gap).length, (pre ++ gap ++ b.text).length⟩ ::
        locateBehind (pre ++ gap ++ b.text) rest := by
  have hfeeds (u v : List Char) : lineFeeds (u ++ v) = lineFeeds u + lineFeeds v :=
    List.count_append
  unfold locateBehind
  rw [segment_of_nextBlock? h]
  simp only [locateFrom, hfeeds, List.length_append, Nat.add_assoc]

/-- Where a block has been located: `before` comes before it and `after` behind it. -/
structure Located.Stands (x : Located) (t before after : List Char) : Prop where
  text : t = before ++ x.block.text ++ after
  line : x.line = 1 + lineFeeds before
  start : x.start = before.length
  stop : x.stop = (before ++ x.block.text).length
  wellFormed : x.block.WellFormed
  closed : x.block.closed = false → after = []

theorem stands_of_mem_locateBehind {pre s : List Char} {x : Located} (hx : x ∈ locateBehind pre s) :
    ∃ gap after, x.Stands (pre ++ s) (pre ++ gap) after := by
  -- block by block, with `pre` growing by what has been cut off
  induction s using segment.induct generalizing pre with
  | case1 s hnone =>
    rw [locateBehind_of_gap pre hnone] at hx
    cases hx
  | case2 s gap b rest hnext ih =>
    obtain ⟨hb, hclosed⟩ := wellFormed_of_nextBlock? hnext
    have htext := append_of_nextBlock? pre hnext
    rw [locateBehind_of_nextBlock? pre hnext] at hx
    rcases List.mem_cons.1 hx with rfl | hx
    · exact ⟨gap, rest, htext, rfl, rfl, rfl, hb, hclosed⟩
    · -- any other block stands behind this one
      obtain ⟨mid, after, hstands⟩ := ih hx
      refine ⟨gap ++ b.text ++ mid, after, ?_⟩
      have hbefore : pre ++ (gap ++ b.text ++ mid) = pre ++ gap ++ b.text ++ mid := by
        simp only [List.append_assoc]
      rw [htext, hbefore]
      exact hstands

theorem pairwise_locateBehind (pre s : List Char) : (locateBehind pre s).Pairwise
    fun x y => x.stop ≤ y.start ∧ x.block.closed = true := by
  induction s using segment.induct generalizing pre with
  | case1 s hnone =>
    rw [locateBehind_of_gap pre hnone]
    exact .nil
  | case2 s gap b rest hnext ih =>
    obtain ⟨-, hclosed⟩ := wellFormed_of_nextBlock? hnext
    rw [locateBehind_of_nextBlock? pre hnext]
    refine List.pairwise_cons.2 ⟨fun y hy => ⟨?_, ?_⟩, ih _⟩
    · obtain ⟨mid, after, hstands⟩ := stands_of_mem_locateBehind hy
      rw [hstands.start]
      exact (List.sublist_append_left _ mid).length_le
    · cases hb : b.closed with
      | true => rfl
      | false =>
        -- behind a block without its end there is no text, hence no other block
        rw [hclosed hb, locateBehind_of_gap _ (isGap_of_allBlank .nil)] at hy
        cases hy

/-- No head begins outside the blocks. -/
theorem read?_eq_none_of_outside {pre s : List Char} {p : Nat} (hp : pre.length ≤ p)
    (houtside : ∀ x ∈ locateBehind pre s, p < x.start ∨ x.stop ≤ p) :
    Head.read? ((pre ++ s).drop p) = none := by
  induction s using segment.induct generalizing pre with
  | case1 s hnone =>
    -- all that is left is a gap, and so is every end of it
    rw [List.drop_append, List.drop_of_length_le hp, List.nil_append]
    exact isGap_iff.1 hnone _ (List.drop_suffix _ _)
  | case2 s gap b rest hnext ih =>
    have htext := append_of_nextBlock? pre hnext
    rw [locateBehind_of_nextBlock? pre hnext] at houtside
    have hfirst := houtside _ List.mem_cons_self
    simp only at hfirst
    rcases hfirst with hbefore | hbehind
    · -- in the gap, where no head begins that goes on into the block
      obtain ⟨t, head, r, hs, hgap, -, -⟩ := nextBlock?_eq_some_iff.1 hnext
      have hdrop : (pre ++ s).drop p = gap.drop (p - pre.length) ++ t := by
        rw [hs, ← List.append_assoc, List.drop_append_of_le_length (Nat.le_of_lt hbefore),
          List.drop_append, List.drop_of_length_le hp, List.nil_append]
      rw [hdrop]
      refine hgap (gap.take (p - pre.length)) _ (List.take_append_drop _ _).symm ?_
      rw [List.length_append] at hbefore
      rw [Ne, List.drop_eq_nil_iff]
      omega
    · -- behind the block, where the rest of the text is searched
      rw [htext]
      exact ih hbehind fun x hx => houtside x (List.mem_cons_of_mem _ hx)

/-! ## §2 Items of a source -/

/-- The item that a gap becomes, unless it is blank: a comment with what trimming leaves of it. -/
def gapItem? (gap : List Char) : Option Item :=
  if gap.all isBlank then none else some (.verbatim ⟨"comment", String.ofList (trim gap)⟩)

/-- The items of a text from a position on: for each block the gap before it and the block, and at
last the gap behind them. -/
def sourceItems (check : BlockCheck) (t : List Char) : Nat → List Located → List Item
  | position, [] => (gapItem? (t.drop position)).toList
  | position, x :: xs =>
    (gapItem? ((t.take x.start).drop position)).toList ++
      x.block.item check :: sourceItems check t x.stop xs

theorem toList_gapItem? (gap : List Char) : (gapItem? gap).toList = readGap gap := by
  unfold gapItem? readGap
  by_cases h : AllBlank gap
  · have hall : gap.all isBlank = true := List.all_eq_true.2 h
    simp [hall, trim_eq_nil_iff.2 h]
  · have hall : ¬gap.all isBlank = true := fun hc => h (List.all_eq_true.1 hc)
    have hne : trim gap ≠ [] := fun hc => h (trim_eq_nil_iff.1 hc)
    simp [hall, hne, gapType]

theorem sourceItems_locateBehind (check : BlockCheck) (pre s : List Char) :
    sourceItems check (pre ++ s) pre.length (locateBehind pre s) = (segment s).items check := by
  induction s using segment.induct generalizing pre with
  | case1 s hnone =>
    rw [locateBehind_of_gap pre hnone, segment_of_gap hnone]
    simp [sourceItems, Segmented.items, toList_gapItem?]
  | case2 s gap b rest hnext ih =>
    have htext := append_of_nextBlock? pre hnext
    -- between two block places the source holds exactly the gap
    have hgap : ((pre ++ s).take (pre ++ gap).length).drop pre.length = gap := by
      rw [htext, List.append_assoc, List.take_left, List.drop_left]
    rw [locateBehind_of_nextBlock? pre hnext, segment_of_nextBlock? hnext, sourceItems, hgap, htext,
      ih, toList_gapItem?]
    simp [Segmented.items]

/-! ## §3 Blocks that are refused -/

namespace Block

/-- The citation key that can be seen in a block. -/
def visibleKey? (b : Block) : Option String := (splitKey b.body).1.map String.ofList

/-- Why a block is refused: by the check or, unless it is kept anyway, because its fields cannot be
read. -/
def refusal? (check : BlockCheck) (b : Block) : Option BlockFault :=
  match check b.text with
  | .error fault => some (.check fault)
  | .ok _ =>
    if b.IsKept then none
    else match readFields (splitKey b.body).2 with
      | .error fault => some (.fields fault)
      | .ok _ => none

theorem entry_of_refusal? {check : BlockCheck} {b : Block} {fault : BlockFault} (hb : ¬b.IsKept)
    (h : b.refusal? check = some fault) : b.entry check = .error fault := by
  rw [entry_eq]
  unfold refusal? at h
  rw [if_neg hb] at h
  -- a refusal by the check counts first; only behind it are the fields read
  cases hcheck : check b.text with
  | error _ =>
    rw [hcheck] at h
    cases h
    rfl
  | ok _ =>
    cases hfields : readFields (splitKey b.body).2 with
    | error _ =>
      simp only [hcheck, hfields] at h
      cases h
      rfl
    | ok _ =>
      simp only [hcheck, hfields] at h
      cases h

theorem entry_of_not_refusal? {check : BlockCheck} {b : Block} (hb : ¬b.IsKept)
    (h : b.refusal? check = none) : ∃ fields, readFields (splitKey b.body).2 = .ok fields ∧
      b.entry check = .ok ⟨String.ofList b.type, b.visibleKey?, fields⟩ := by
  rw [entry_eq]
  unfold refusal? at h
  rw [if_neg hb] at h
  -- nothing refused the block, so both readings succeeded
  cases hcheck : check b.text with
  | error _ =>
    rw [hcheck] at h
    cases h
  | ok _ =>
    cases hfields : readFields (splitKey b.body).2 with
    | error _ =>
      simp only [hcheck, hfields] at h
      cases h
    | ok fields => exact ⟨fields, rfl, rfl⟩

/-- A block that is kept or refused becomes what is written. -/
theorem item_of_kept_or_refused {check : BlockCheck} {b : Block}
    (h : b.IsKept ∨ (b.refusal? check).isSome = true) :
    b.item check = .verbatim ⟨String.ofList b.type, String.ofList b.text⟩ := by
  unfold item
  cases htreat : Treatment.ofType b.type with
  | keep => rfl
  | checkAndKeep => rfl
  -- a block to be read is not kept, so it was refused and stays verbatim
  | read =>
    have hkept := b.treatment_eq_read_iff.1 htreat
    obtain ⟨fault, hfault⟩ := Option.isSome_iff_exists.1 (h.resolve_left hkept)
    simp only [entry_of_refusal? hkept hfault]
    rfl

/-- A block that is neither kept nor refused becomes an entry. -/
theorem item_of_accepted {check : BlockCheck} {b : Block} (hb : ¬b.IsKept)
    (h : b.refusal? check = none) : ∃ fields, readFields (splitKey b.body).2 = .ok fields ∧
      b.item check = .entry ⟨String.ofList b.type, b.visibleKey?, fields⟩ := by
  obtain ⟨fields, hfields, hentry⟩ := entry_of_not_refusal? hb h
  refine ⟨fields, hfields, ?_⟩
  unfold item
  simp only [b.treatment_eq_read_iff.2 hb, hentry]

/-- A block is reported if it is refused, unless it is a comment. -/
theorem issue?_eq (check : BlockCheck) (b : Block) (line : Nat) : b.issue? check line =
    if lower b.type = "comment".toList then none
    else (b.refusal? check).map fun fault =>
      ⟨if b.IsKept then none else b.visibleKey?, line, fault⟩ := by
  have hkeep (h : Treatment.ofType b.type ≠ .keep) : ¬lower b.type = "comment".toList :=
    mt b.treatment_eq_keep_iff.2 h
  unfold issue?
  cases htreat : Treatment.ofType b.type with
  | keep => rw [if_pos (b.treatment_eq_keep_iff.1 htreat)]
  | checkAndKeep =>
    have hcomment : ¬lower b.type = "comment".toList := hkeep (by rw [htreat]; decide)
    -- what is checked and kept anyway is a string or a preamble: kept, and no comment
    have hkept : b.IsKept := by
      refine Decidable.by_contra fun h => ?_
      rw [b.treatment_eq_read_iff.2 h] at htreat
      cases htreat
    simp only [if_neg hcomment, refusal?, if_pos hkept]
    cases check b.text <;> rfl
  | read =>
    have hcomment : ¬lower b.type = "comment".toList := hkeep (by rw [htreat]; decide)
    have hkept := b.treatment_eq_read_iff.1 htreat
    simp only [if_neg hcomment, if_neg hkept]
    cases h : b.refusal? check with
    -- a fault found on the way is the fault reported
    | some fault =>
      simp only [entry_of_refusal? hkept h]
      rfl
    -- without one the block is an entry and there is nothing to report
    | none =>
      obtain ⟨fields, -, hentry⟩ := entry_of_not_refusal? hkept h
      simp only [hentry]
      rfl

end Block

/-! ## §4 The account -/

/-- An account of a text and of what it is read as. -/
structure SourceAccount (check : BlockCheck) (t : List Char) (r : Reading) : Prop where
  /-- A block lies in the text, is what stands there, and knows its line. -/
  place : ∀ x ∈ locateBlocks t, x.start < x.stop ∧ x.stop ≤ t.length ∧
    x.block.text = (t.take x.stop).drop x.start ∧ x.line = 1 + lineFeeds (t.take x.start)
  /-- A block begins with a head, and goes as far as the delimiter that closes it. -/
  extent : ∀ x ∈ locateBlocks t, ∃ rest, Head.read? (t.drop x.start) = some (x.block.head, rest) ∧
    Block.complete x.block.head rest = (x.block, t.drop x.stop)
  /-- Blocks come one after another, and only the last may lack its closing delimiter. -/
  order : (locateBlocks t).Pairwise fun x y => x.stop ≤ y.start ∧ x.block.closed = true
  /-- Where no block stands, none begins. -/
  gaps : ∀ p, (∀ x ∈ locateBlocks t, p < x.start ∨ x.stop ≤ p) → Head.read? (t.drop p) = none
  /-- The items are those of the blocks and gaps, in the order of the text. -/
  items : r.items = sourceItems check t 0 (locateBlocks t)
  /-- A block that is kept or refused becomes what is written. -/
  kept : ∀ x ∈ locateBlocks t, x.block.IsKept ∨ (x.block.refusal? check).isSome = true →
    x.block.item check = .verbatim ⟨String.ofList x.block.type, String.ofList x.block.text⟩
  /-- Any other block becomes an entry. -/
  entries : ∀ x ∈ locateBlocks t, ¬(x.block.IsKept ∨ (x.block.refusal? check).isSome = true) →
    ∃ fields, readFields (Block.splitKey x.block.body).2 = .ok fields ∧
      x.block.item check =
        .entry ⟨String.ofList x.block.type, x.block.visibleKey?, fields⟩
  /-- Every block that is refused is reported once, unless it is a comment. -/
  issues : r.issues = (locateBlocks t).filterMap fun x =>
    if lower x.block.type = "comment".toList then none
    else (x.block.refusal? check).map fun fault =>
      ⟨if x.block.IsKept then none else x.block.visibleKey?, x.line, fault⟩

namespace Located.Stands

variable {x : Located} {t before after : List Char}

theorem slice (h : x.Stands t before after) : x.block.text = (t.take x.stop).drop x.start := by
  rw [h.text, h.stop, List.take_left, h.start, List.drop_left]

theorem extent (h : x.Stands t before after) :
    ∃ rest, Head.read? (t.drop x.start) = some (x.block.head, rest) ∧
      Block.complete x.block.head rest = (x.block, t.drop x.stop) := by
  have hstart : t.drop x.start = x.block.text ++ after := by
    rw [h.text, h.start, List.append_assoc, List.drop_left]
  have hstop : t.drop x.stop = after := by rw [h.text, h.stop, List.drop_left]
  rw [hstart, hstop]
  exact h.wellFormed.read?_text_append h.closed

theorem start_lt_stop (h : x.Stands t before after) : x.start < x.stop := by
  obtain ⟨s, c, hs, -, -⟩ := h.wellFormed.head.ends
  rw [h.start, h.stop, Block.text, hs]
  simp

theorem stop_le (h : x.Stands t before after) : x.stop ≤ t.length := by
  rw [h.text, h.stop]
  exact (List.sublist_append_left _ after).length_le

theorem line_eq (h : x.Stands t before after) : x.line = 1 + lineFeeds (t.take x.start) := by
  rw [h.line, h.text, h.start, List.append_assoc, List.take_left]

end Located.Stands

/-- Every text is accounted for by what it is read as. -/
theorem sourceAccount_ofCharsUsing (check : BlockCheck) (t : List Char) :
    SourceAccount check t (Reading.ofCharsUsing check t) where
  -- places, line and extent come from where the block stands in the text
  place x hx := by
    obtain ⟨gap, after, h⟩ := stands_of_mem_locateBehind (show x ∈ locateBehind [] t from hx)
    exact ⟨h.start_lt_stop, h.stop_le, h.slice, h.line_eq⟩
  extent x hx := by
    obtain ⟨gap, after, h⟩ := stands_of_mem_locateBehind (show x ∈ locateBehind [] t from hx)
    exact h.extent
  order := pairwise_locateBehind [] t
  gaps p hp := read?_eq_none_of_outside (show ([] : List Char).length ≤ p from Nat.zero_le p) hp
  items := by
    rw [items_ofCharsUsing]
    exact (sourceItems_locateBehind check [] t).symm
  kept x _ h := Block.item_of_kept_or_refused h
  -- what is neither kept nor refused is the entry that was read
  entries x _ h := by
    rw [not_or, Option.not_isSome_iff_eq_none] at h
    exact Block.item_of_accepted h.1 h.2
  issues := by
    simp only [issues_ofCharsUsing, Block.issue?_eq]

end Bibliography
