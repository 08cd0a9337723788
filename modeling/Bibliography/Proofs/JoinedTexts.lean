import Bibliography.Proofs.SourceCoverage

/-!
# Texts behind one another

Where a text ends with the closing delimiter of a block, what stands behind it is read as if it stood
alone: no block, gap or line goes across the cut. What is reported about the second text only counts
its lines from the beginning of the first.

Abbreviations do not go across either. The check of a block may be handed the abbreviations that blocks
before it have defined; if its verdict does not depend on them, neither does what is read.

Main statement: two texts are read one after the other (`Reading.ofCharsThreading_append`).
-/

namespace Bibliography

open Text

/-! ## §1 Where blocks stand -/

/-- A block that has been located, with more lines and more characters before it. -/
def Located.shift (lines chars : Nat) (x : Located) : Located :=
  ⟨x.block, x.line + lines, x.start + chars, x.stop + chars⟩

theorem locateFrom_add (lines chars : Nat) (blocks : List (List Char × Block)) (line position : Nat) :
    locateFrom (line + lines) (position + chars) blocks =
      (locateFrom line position blocks).map (Located.shift lines chars) := by
  induction blocks generalizing line position with
  | nil => rfl
  | cons x blocks ih =>
    obtain ⟨gap, b⟩ := x
    simp only [locateFrom, List.map_cons, Located.shift, ← ih]
    simp only [Nat.add_right_comm _ lines, Nat.add_right_comm _ chars]

/-- The blocks of a text that stands behind another one are its own blocks, further on. -/
theorem locateBehind_eq_map (pre s : List Char) : locateBehind pre s =
    (locateBlocks s).map (Located.shift (lineFeeds pre) pre.length) := by
  have hadd := locateFrom_add (lineFeeds pre) pre.length (segment s).blocks 1 0
  rwa [Nat.zero_add] at hadd

theorem locateFrom_append (line position : Nat) (xs ys : List (List Char × Block)) :
    locateFrom line position (xs ++ ys) = locateFrom line position xs ++
      locateFrom (line + lineFeeds (xs.flatMap fun x => x.1 ++ x.2.text))
        (position + (xs.flatMap fun x => x.1 ++ x.2.text).length) ys := by
  induction xs generalizing line position with
  | nil => simp [locateFrom, lineFeeds]
  | cons x xs ih =>
    obtain ⟨gap, b⟩ := x
    simp only [List.cons_append, locateFrom, ih, List.flatMap_cons, lineFeeds, List.count_append,
      List.length_append, Nat.add_assoc]

/-! ## §2 Texts that end with a block -/

/-- A text that is empty or ends exactly where its last block ends, with its closing delimiter. -/
def EndsWithBlock (s : List Char) : Prop :=
  s = [] ∨ ∃ x, (locateBlocks s).getLast? = some x ∧ x.stop = s.length ∧ x.block.closed = true

theorem locateBlocks_of_nextBlock? {s gap rest : List Char} {b : Block}
    (h : nextBlock? s = some (gap, b, rest)) : locateBlocks s =
      ⟨b, 1 + lineFeeds gap, gap.length, (gap ++ b.text).length⟩ ::
        (locateBlocks rest).map (Located.shift (lineFeeds (gap ++ b.text)) (gap ++ b.text).length) := by
  have hbehind : locateBlocks s = _ := locateBehind_of_nextBlock? [] h
  rwa [locateBehind_eq_map ([] ++ gap ++ b.text), List.nil_append] at hbehind

/-- A text that ends with a block and has no block is empty. -/
theorem EndsWithBlock.eq_nil_of_gap {s : List Char} (hs : EndsWithBlock s) (hgap : IsGap s) :
    s = [] := by
  rcases hs with rfl | ⟨x, hx, -, -⟩
  · rfl
  · rw [locateBlocks, segment_of_gap hgap] at hx
    cases hx

/-- The blocks of a text that ends with a block all have their closing delimiters, and behind any of
them stands a text that ends with a block. -/
theorem EndsWithBlock.of_nextBlock? {s gap rest : List Char} {b : Block} (hs : EndsWithBlock s)
    (h : nextBlock? s = some (gap, b, rest)) : b.closed = true ∧ EndsWithBlock rest := by
  rcases hs with rfl | ⟨x, hx, hstop, hclosed⟩
  · cases h
  rw [locateBlocks_of_nextBlock? h] at hx
  have hlength : s.length = rest.length + (gap ++ b.text).length := by
    rw [nextBlock?_eq_some h, List.length_append, Nat.add_comm]
  cases hlast : (locateBlocks rest).getLast? with
  | none =>
    -- this block is the last one, so nothing stands behind it
    rw [List.getLast?_eq_none_iff.1 hlast] at hx
    obtain rfl := Option.some.inj hx
    have hend : (gap ++ b.text).length = s.length := hstop
    have hrest : rest = [] := List.length_eq_zero_iff.1 (by omega)
    exact ⟨hclosed, .inl hrest⟩
  | some y =>
    -- the last block is one of those behind this one
    have hx' : x = y.shift (lineFeeds (gap ++ b.text)) (gap ++ b.text).length := by
      rw [List.getLast?_cons, List.getLast?_map, hlast] at hx
      exact (Option.some.inj hx).symm
    have hy : y.stop = rest.length := by
      rw [hx', Located.shift, hlength] at hstop
      exact Nat.add_right_cancel hstop
    refine ⟨?_, .inr ⟨y, hlast, hy, by rw [hx'] at hclosed; exact hclosed⟩⟩
    by_contra hopen
    have hnil : rest = [] := (wellFormed_of_nextBlock? h).2 (Bool.eq_false_iff.2 hopen)
    rw [hnil, locateBlocks, segment_nil] at hlast
    cases hlast

/-- A block with its closing delimiter is found whatever stands behind it. -/
theorem nextBlock?_append {s gap rest : List Char} {b : Block} (h : nextBlock? s = some (gap, b, rest))
    (hclosed : b.closed = true) (t : List Char) : nextBlock? (s ++ t) = some (gap, b, rest ++ t) := by
  have hb := (wellFormed_of_nextBlock? h).1
  have hfound : nextBlock? (b.text ++ (rest ++ t)) = some ([], b, rest ++ t) :=
    nextBlock?_text_append hb (Block.eq_nil_of_not_closed hclosed)
  have hbegins : BeginsWithBlock (b.text ++ (rest ++ t)) := .inr ⟨b, _, hfound⟩
  have htext : s ++ t = gap ++ (b.text ++ (rest ++ t)) := by
    rw [nextBlock?_eq_some h]
    simp only [List.append_assoc]
  rw [htext, nextBlock?_append_of_gap (isGap_of_nextBlock? h) hbegins.endsGap, hfound]
  simp

/-- No gap and no block goes across the end of a text that ends with a block. -/
theorem EndsWithBlock.segment_append {s : List Char} (hs : EndsWithBlock s) (t : List Char) :
    (segment s).trailing = [] ∧
      segment (s ++ t) = ⟨(segment s).blocks ++ (segment t).blocks, (segment t).trailing⟩ := by
  induction s using segment.induct with
  | case1 s hgap =>
    -- a text that ends with a block has no gap but the empty one
    obtain rfl := hs.eq_nil_of_gap hgap
    rw [segment_nil]
    exact ⟨rfl, rfl⟩
  | case2 s gap b rest hnext ih =>
    -- the first block is closed, so it ends at the same place with more text behind it
    obtain ⟨hclosed, hrest⟩ := hs.of_nextBlock? hnext
    obtain ⟨htrailing, hsegment⟩ := ih hrest
    rw [segment_of_nextBlock? hnext, segment_of_nextBlock? (nextBlock?_append hnext hclosed t), hsegment]
    exact ⟨htrailing, rfl⟩

theorem EndsWithBlock.locateBlocks_append {s : List Char} (hs : EndsWithBlock s) (t : List Char) :
    locateBlocks (s ++ t) = locateBlocks s ++ locateBehind s t := by
  obtain ⟨htrailing, hsegment⟩ := hs.segment_append t
  have htext : ((segment s).blocks.flatMap fun x => x.1 ++ x.2.text) = s := by
    have hconcat := concat_segment s
    rwa [Segmented.concat, htrailing, List.append_nil] at hconcat
  rw [locateBlocks, hsegment, locateFrom_append, htext, Nat.zero_add]
  rfl

/-! ## §3 Readings -/

/-- An issue about a text that stands further down. Its line is counted on, and with it the line that
its message begins with. -/
def Issue.shift (lines : Nat) (i : Issue) : Issue := { i with line := i.line + lines }

theorem Issue.message_shift (lines : Nat) (i : Issue) : (i.shift lines).message =
    "Failed to parse block at line " ++ toString (i.line + lines) ++ ": " ++ i.fault.message :=
  rfl

/-- What a text is read as that stands further down. -/
def Reading.shift (lines : Nat) (r : Reading) : Reading := ⟨r.items, r.issues.map (Issue.shift lines)⟩

theorem Block.issue?_add (check : BlockCheck) (b : Block) (line lines : Nat) :
    b.issue? check (line + lines) = (b.issue? check line).map (Issue.shift lines) := by
  unfold issue?
  cases Treatment.ofType b.type with
  | keep => rfl
  | checkAndKeep => cases check b.text <;> rfl
  | read => cases b.entry check <;> rfl

/-- Behind a text that ends with a block another text is read as if it stood alone. -/
theorem Reading.ofCharsUsing_append (check : BlockCheck) {s : List Char} (hs : EndsWithBlock s)
    (t : List Char) : ofCharsUsing check (s ++ t) =
      (ofCharsUsing check s).append ((ofCharsUsing check t).shift (lineFeeds s)) := by
  have hitems : (ofCharsUsing check (s ++ t)).items =
      (ofCharsUsing check s).items ++ (ofCharsUsing check t).items := by
    -- nothing trails the first text, so no gap runs over the border
    obtain ⟨htrailing, hsegment⟩ := hs.segment_append t
    simp only [items_ofCharsUsing, Segmented.items, hsegment, htrailing, readGap_nil,
      List.flatMap_append, List.append_nil, List.append_assoc]
  have hissues : (ofCharsUsing check (s ++ t)).issues = (ofCharsUsing check s).issues ++
      (ofCharsUsing check t).issues.map (Issue.shift (lineFeeds s)) := by
    -- the blocks behind are the same, as many lines further down
    simp only [issues_ofCharsUsing, hs.locateBlocks_append, locateBehind_eq_map, List.filterMap_append,
      List.filterMap_map, List.map_filterMap]
    congr 2
    funext x
    exact x.block.issue?_add check x.line (lineFeeds s)
  calc ofCharsUsing check (s ++ t)
      = ⟨(ofCharsUsing check (s ++ t)).items, (ofCharsUsing check (s ++ t)).issues⟩ := rfl
    _ = (ofCharsUsing check s).append ((ofCharsUsing check t).shift (lineFeeds s)) := by
      rw [hitems, hissues]
      rfl

/-! ## §4 Abbreviations -/

/-- A check that is handed a table of abbreviations, and hands on the table for the blocks behind. -/
abbrev TableCheck (Table : Type) :=
  Table → List Char → Except Check.Fault (List Check.Record × Table)

namespace TableCheck

variable {Table : Type}

/-- The verdict of a check under a table. -/
def verdict (check : TableCheck Table) (table : Table) : BlockCheck := fun s =>
  (check table s).map (·.1)

/-- Whether the verdict on a block depends on its text alone. -/
def IgnoresTable (check : TableCheck Table) : Prop :=
  ∀ (table other : Table) (s : List Char), check.verdict table s = check.verdict other s

/-- The table behind a block. Only a block that is kept after an accepting check changes it. -/
def tableAfter (check : TableCheck Table) (table : Table) (b : Block) : Table :=
  match Treatment.ofType b.type with
  | .checkAndKeep =>
    match check table b.text with
    | .ok (_, table) => table
    | .error _ => table
  | _ => table

/-- Reads blocks, each after its gap, from a line on, and hands the table from each to the next. -/
def readBlocks (check : TableCheck Table) (table : Table) (line : Nat) :
    List (List Char × Block) → Reading
  | [] => ⟨[], []⟩
  | (gap, block) :: rest =>
    let start := line + lineFeeds gap
    (Reading.append ⟨readGap gap, []⟩ (block.read (check.verdict table) start)).append
      (readBlocks check (check.tableAfter table block) (start + lineFeeds block.text) rest)

/-- Where the verdicts do not depend on the table, neither does what is read. -/
theorem readBlocks_eq {check : TableCheck Table} (hcheck : check.IgnoresTable) (table other : Table)
    (line : Nat) (blocks : List (List Char × Block)) :
    check.readBlocks table line blocks = Bibliography.readBlocks (check.verdict other) line blocks := by
  induction blocks generalizing table line with
  | nil => rfl
  | cons x blocks ih =>
    obtain ⟨gap, b⟩ := x
    have hverdict : check.verdict table = check.verdict other := funext (hcheck table other)
    rw [readBlocks, ih, hverdict]
    rfl

end TableCheck

/-- Reads a text by a check that is handed a table from block to block. -/
def Reading.ofCharsThreading {Table : Type} (check : TableCheck Table) (table : Table)
    (s : List Char) : Reading :=
  let p := segment s
  (check.readBlocks table 1 p.blocks).append ⟨readGap p.trailing, []⟩

theorem Reading.ofCharsThreading_eq {Table : Type} {check : TableCheck Table}
    (hcheck : check.IgnoresTable) (table other : Table) (s : List Char) :
    ofCharsThreading check table s = ofCharsUsing (check.verdict other) s := by
  unfold ofCharsThreading
  simp only [TableCheck.readBlocks_eq hcheck table other]
  rfl

/-- Two texts, the first of which ends with a block, are read one after the other: with a table that
goes from block to block, and in the same way with the check in use. -/
theorem Reading.ofCharsThreading_append {Table : Type} {check : TableCheck Table}
    (hcheck : check.IgnoresTable) (table : Table) {s : List Char} (hs : EndsWithBlock s)
    (t : List Char) :
    ofCharsThreading check table (s ++ t) =
        (ofCharsThreading check table s).append
          ((ofCharsThreading check table t).shift (lineFeeds s)) ∧
      ofChars (s ++ t) = (ofChars s).append ((ofChars t).shift (lineFeeds s)) := by
  refine ⟨?_, ofCharsUsing_append Check.run hs t⟩
  simp only [ofCharsThreading_eq hcheck table table]
  exact ofCharsUsing_append _ hs t

/-! ## §5 Abbreviations that are remembered -/

/-- The abbreviations that the text of a block defines: what is read from it as fields. -/
def definedIn (s : List Char) : List Field :=
  match nextBlock? s with
  | none => []
  | some (_, b, _) =>
    match readFields b.body with
    | .ok fields => fields
    | .error _ => []

/-- The check in use, with the abbreviations that have been defined as a table. -/
def Check.runDefining : TableCheck (List Field) := fun table s =>
  (Check.run s).map fun records => (records, table ++ definedIn s)

theorem Check.ignoresTable_runDefining : runDefining.IgnoresTable := by
  intro table other s
  unfold TableCheck.verdict runDefining
  cases Check.run s <;> rfl

/-- A block that defines an abbreviation. -/
def definingBlock : List Char := "@string\x7bk = \x7bv\x7d\x7d".toList

/-- An entry that uses the abbreviation, and a block that is refused on the line behind it. -/
def usingBlocks : List Char := "@misc\x7ba, note = k\x7d\n@book\x7b, \x7d".toList

/-- What a text defines is known behind it, and still does not change how blocks are read there. -/
theorem Reading.ofCharsThreading_definingBlock :
    EndsWithBlock definingBlock ∧ definedIn definingBlock = [⟨"k", .text "v"⟩] ∧
      ofCharsThreading Check.runDefining [] (definingBlock ++ usingBlocks) =
        (ofCharsThreading Check.runDefining [] definingBlock).append
          ((ofCharsThreading Check.runDefining [] usingBlocks).shift (lineFeeds definingBlock)) ∧
      ofChars (definingBlock ++ usingBlocks) =
        (ofChars definingBlock).append ((ofChars usingBlocks).shift (lineFeeds definingBlock)) := by
  have hends : EndsWithBlock definingBlock :=
    .inr ⟨⟨⟨⟨"@string\x7b".toList, "string".toList, '\x7b'⟩, "k = \x7bv\x7d".toList, true⟩,
      1, 0, 16⟩, by decide +kernel, rfl, rfl⟩
  refine ⟨hends, by with_unfolding_all rfl, ?_⟩
  exact ofCharsThreading_append Check.ignoresTable_runDefining [] hends usingBlocks

end Bibliography
