import Bibliography.Proofs.BlockItems
import Bibliography.Proofs.EntryBlock

/-!
# Reading back what has been written

A list of items that follow the notation is read back from its written form: a block that is kept as
it is written, and an entry as it was settled when it was written. What it means to follow the
notation is said in terms of the items alone: types and tokens consist of the right characters, keys
hold no mark, and texts have balanced braces.

Main statement: `ofCharsUsing_text`.
-/

namespace Bibliography

open Text

/-! ## §1 Items that follow the notation -/

/-- A part of a value that follows the notation: a text with balanced braces, a number of ASCII
digits, or a token that does not consist of digits. -/
inductive Value.IsPart : Value → Prop where
  | text {content : String} (h : Balanced content.toList) : IsPart (.text content)
  | number {content : String} (hne : content.toList ≠ [])
      (hdigits : ∀ c ∈ content.toList, c.isDigit = true) : IsPart (.number content)
  | abbreviation {content : String} (h : IsToken content.toList)
      (hdigits : content.toList.all isDigit = false) : IsPart (.abbreviation content)

/-- A value that follows the notation: one part, or two or more that are joined. -/
inductive Value.FollowsNotation : Value → Prop where
  | part {v : Value} (h : v.IsPart) : FollowsNotation v
  | concat {parts : List Value} (hlen : 2 ≤ parts.length) (h : ∀ v ∈ parts, v.IsPart) :
      FollowsNotation (.concat parts)

/-- An entry that follows the notation. -/
structure Entry.FollowsNotation (e : Entry) : Prop where
  /-- The type is an ASCII letter and ASCII letters, digits and the marks of a type behind it. -/
  type : ∃ d ds, e.type.toList = d :: ds ∧ d.isAlpha = true ∧
    ∀ c ∈ ds, c.isAlphanum = true ∨ c ∈ ['_', ':', '-']
  /-- The type is none of those whose blocks are kept as they are written. -/
  notKept : lower e.type.toList ∉ ["string".toList, "preamble".toList, "comment".toList]
  /-- There is a key, without blanks and marks. -/
  key : ∃ k, e.key = some k ∧ k.toList ≠ [] ∧
    ∀ c ∈ k.toList, isBlank c = false ∧ c ∉ [',', '=', '{', '}']
  /-- The names of the fields are tokens. -/
  names : ∀ f ∈ e.fields, IsToken f.name.toList
  /-- The values of the fields follow the notation. -/
  values : ∀ f ∈ e.fields, f.value.FollowsNotation

/-- A block that is kept follows the notation when it is one complete block of its type, apart from
the blanks around it. -/
def Verbatim.FollowsNotation (v : Verbatim) : Prop :=
  ∃ b : Block, segment (trim v.raw.toList) = ⟨[([], b)], []⟩ ∧ b.closed = true ∧ b.IsKept ∧
    String.ofList b.type = v.type

/-- An item that follows the notation. -/
def Item.FollowsNotation : Item → Prop
  | .entry e => e.FollowsNotation
  | .verbatim v => v.FollowsNotation

/-! ## §2 What follows the notation can be written -/

/-- An ASCII letter or digit is below U+0080. -/
theorem toNat_lt_of_isAlphanum {c : Char} (h : c.isAlphanum = true) : c.toNat < 128 := by
  rcases Bool.or_eq_true_iff.1 (show (c.isAlpha || c.isDigit) = true from h) with halpha | hdigit
  · have hrange := toNat_of_isAlpha halpha
    omega
  · have hrange := toNat_of_isDigit hdigit
    omega

theorem isTypeChar_of_ascii {c : Char} (h : c.isAlphanum = true ∨ c ∈ ['_', ':', '-']) :
    isTypeChar c = true := by
  rcases h with halnum | hmark
  · simp [isTypeChar, isWord, toNat_lt_of_isAlphanum halnum, halnum]
  · simp only [List.mem_cons, List.not_mem_nil, or_false] at hmark
    rcases hmark with rfl | rfl | rfl <;> decide

theorem Value.IsPart.plain {v : Value} (h : v.IsPart) : v.Plain := by
  cases h with
  | text h => exact .text h
  | @number content hne hdigits =>
    refine .number ⟨hne, fun c hc => isTokenChar_of_isDigit (hdigits c hc)⟩ ?_
    rw [List.all_eq_true]
    intro c hc
    have hrange := toNat_of_isDigit (hdigits c hc)
    rw [isDigit_of_lt (by omega)]
    exact hdigits c hc
  | abbreviation h hdigits => exact .abbreviation h hdigits

theorem Value.FollowsNotation.writable {v : Value} (h : v.FollowsNotation) : v.Writable := by
  cases h with
  | part h => exact .plain h.plain
  | concat hlen h => exact .concat hlen fun v hv => (h v hv).plain

/-- A key without blanks and marks is read as it is written. -/
theorem isKey_of_chars {k : List Char} (hne : k ≠ [])
    (h : ∀ c ∈ k, isBlank c = false ∧ c ∉ [',', '=', '{', '}']) : IsKey k where
  ne_nil := hne
  comma := fun hc => (h _ hc).2 (by decide)
  equals := fun hc => (h _ hc).2 (by decide)
  trimmed := by
    obtain ⟨w, w', hw, hw', hk⟩ := exists_eq_append_trim k
    -- a blank at one of the ends would be a blank of the key
    have hnil : ∀ u : List Char, AllBlank u → (∀ c ∈ u, c ∈ k) → u = [] := by
      intro u hu hsub
      cases u with
      | nil => rfl
      | cons c u =>
        have hblank := hu c List.mem_cons_self
        rw [(h c (hsub c List.mem_cons_self)).1] at hblank
        cases hblank
    have hleft := hnil w hw fun c hc => by rw [hk]; simp [hc]
    have hright := hnil w' hw' fun c hc => by rw [hk]; simp [hc]
    rw [hleft, hright, List.nil_append, List.append_nil] at hk
    exact hk.symm
  balanced := .of_braceFree
    ⟨fun hc => (h _ hc).2 (by decide), fun hc => (h _ hc).2 (by decide)⟩

theorem Entry.FollowsNotation.writable {e : Entry} (h : e.FollowsNotation) : e.Writable where
  type := by
    obtain ⟨d, ds, htype, hd, hds⟩ := h.type
    exact ⟨d, ds, htype, hd, fun c hc => isTypeChar_of_ascii (hds c hc)⟩
  key := by
    obtain ⟨k, hk, hne, hchars⟩ := h.key
    rintro k' hk'
    obtain rfl : k = k' := Option.some.inj (hk.symm.trans hk')
    exact isKey_of_chars hne hchars
  fields := fun f hf => ⟨h.names f hf, (h.values f hf).writable⟩

/-! ## §3 Written items as blocks -/

/-- An item as it is read back: a block that is kept without the blanks around it, an entry as it is
settled. -/
def Layout.settledItem (l : Layout) : Item → Item
  | .entry e => .entry (l.settled e)
  | .verbatim v => .verbatim ⟨v.type, String.ofList (trim v.raw.toList)⟩

/-- A text that is cut into one block consists of this block. -/
theorem wellFormed_of_segment_eq {s : List Char} {b : Block} (h : segment s = ⟨[([], b)], []⟩) :
    b.WellFormed ∧ s = b.text := by
  cases hnext : nextBlock? s with
  | none =>
    rw [segment_of_gap hnext] at h
    cases h
  | some found =>
    obtain ⟨gap, b', rest⟩ := found
    rw [segment_of_nextBlock? hnext] at h
    obtain ⟨hblocks, htrailing⟩ := Segmented.mk.inj h
    obtain ⟨hfirst, hrest⟩ := List.cons.inj hblocks
    obtain ⟨rfl, rfl⟩ := Prod.mk.inj hfirst
    -- behind the block there is neither another block nor a gap
    have hconcat := concat_segment rest
    rw [Segmented.concat, hrest, htrailing] at hconcat
    refine ⟨(wellFormed_of_nextBlock? hnext).1, ?_⟩
    rw [nextBlock?_eq_some hnext, ← hconcat]
    simp

/-- What an item is written as is a complete block, which is read back without an issue. -/
theorem exists_block_of_followsNotation {check : BlockCheck} {l : Layout} (hl : l.ReadsBack)
    {i : Item} (hi : i.FollowsNotation) (hcheck : (check (l.renderItem i)).isOk = true) :
    ∃ b : Block, b.WellFormed ∧ b.closed = true ∧ b.text = l.renderItem i ∧
      b.item check = l.settledItem i ∧ ∀ line, b.issue? check line = none := by
  cases i with
  | entry e =>
    -- an entry in this notation is written as a block that gives it back
    have he : e.Writable := Entry.FollowsNotation.writable hi
    have hkept : ¬(entryBlock l e).IsKept := Entry.FollowsNotation.notKept hi
    have htext := text_entryBlock l e
    rw [Layout.renderItem, ← htext] at hcheck
    obtain ⟨hitem, hissue⟩ := Block.item_of_entry hkept (entry_entryBlock hl.keepsNames he
      (hl.enclosedBy he) hcheck)
    exact ⟨entryBlock l e, wellFormed_entryBlock hl.keepsNames he, rfl, htext, hitem, hissue⟩
  | verbatim v =>
    -- verbatim text in this notation is one kept block, and its text is written unchanged
    obtain ⟨b, hsegment, hclosed, hkept, htype⟩ := hi
    obtain ⟨hb, htext⟩ := wellFormed_of_segment_eq hsegment
    rw [Layout.renderItem, htext] at hcheck
    refine ⟨b, hb, hclosed, htext.symm, ?_, Block.issue?_of_isKept hkept hcheck⟩
    rw [Block.item_of_isKept hkept, Layout.settledItem, htext, ← htype]
    rfl

/-! ## §4 Lists of items -/

section Lists

variable {bs : List Block} (h : ∀ b ∈ bs, b.WellFormed ∧ b.closed = true)

include h

/-- Helper: blocks that are written one after another stand behind no gaps. -/
private theorem map_pieceText : bs.map Block.text =
    (bs.map fun b => (([] : List Char), b)).map pieceText ++ [] ∧
      ∀ p ∈ bs.map fun b => (([] : List Char), b),
        IsGap p.1 ∧ p.2.WellFormed ∧ p.2.closed = true := by
  refine ⟨?_, List.forall_mem_map.2 fun b hb => ⟨rfl, h b hb⟩⟩
  rw [List.append_nil, List.map_map]
  rfl

/-- Complete blocks are found again after they have been written one after another. -/
theorem blocks_joinBlocks :
    (segment (Document.joinBlocks (bs.map Block.text))).blocks.map (·.2) = bs := by
  obtain ⟨htexts, hps⟩ := map_pieceText h
  rw [htexts, blocks_joinBlocks_append hps, show Document.joinBlocks [] = [] from rfl, segment_nil]
  simp [Function.comp_def]

theorem items_joinBlocks (check : BlockCheck) :
    (Reading.ofCharsUsing check (Document.joinBlocks (bs.map Block.text))).items =
      bs.map (Block.item check) := by
  obtain ⟨htexts, hps⟩ := map_pieceText h
  rw [htexts, items_joinBlocks_append hps, show Document.joinBlocks [] = [] from rfl, items_nil,
    List.flatMap_map]
  simp [List.map_eq_flatMap]

end Lists

/-- A list of items is written as a list of complete blocks. -/
theorem exists_blocks_of_followsNotation {check : BlockCheck} {l : Layout} (hl : l.ReadsBack)
    {items : List Item} (hitems : ∀ i ∈ items, i.FollowsNotation)
    (hcheck : ∀ i ∈ items, (check (l.renderItem i)).isOk = true) :
    ∃ bs : List Block, (∀ b ∈ bs, b.WellFormed ∧ b.closed = true) ∧
      (∀ b ∈ bs, ∀ line, b.issue? check line = none) ∧
      bs.map Block.text = items.map l.renderItem ∧
      bs.map (Block.item check) = items.map l.settledItem := by
  -- item by item, keeping the texts and the items of the blocks side by side
  induction items with
  | nil => exact ⟨[], by simp, by simp, rfl, rfl⟩
  | cons i items ih =>
    obtain ⟨b, hb, hclosed, htext, hitem, hissue⟩ := exists_block_of_followsNotation hl
      (hitems i List.mem_cons_self) (hcheck i List.mem_cons_self)
    obtain ⟨bs, hbs, hissues, htexts, hall⟩ := ih
      (fun j hj => hitems j (List.mem_cons_of_mem _ hj))
      fun j hj => hcheck j (List.mem_cons_of_mem _ hj)
    refine ⟨b :: bs, ?_, ?_, ?_, ?_⟩
    · exact List.forall_mem_cons.2 ⟨⟨hb, hclosed⟩, hbs⟩
    · exact List.forall_mem_cons.2 ⟨hissue, hissues⟩
    · rw [List.map_cons, List.map_cons, htext, htexts]
    · rw [List.map_cons, List.map_cons, hitem, hall]

/-- Reading undoes writing: items that follow the notation are read back from the written
bibliography, settled and in order, and nothing is reported. -/
theorem ofCharsUsing_text {check : BlockCheck} {s : Settings} (hsort : s.sortEntries = false)
    (hl : s.layout.ReadsBack) {items : List Item} (hitems : ∀ i ∈ items, i.FollowsNotation)
    (hcheck : ∀ i ∈ items, (check (s.layout.renderItem i)).isOk = true) :
    Reading.ofCharsUsing check (Document.ofItems s (Occurrence.number items)).text =
      ⟨items.map s.layout.settledItem, []⟩ := by
  obtain ⟨bs, hbs, hissues, htexts, hall⟩ := exists_blocks_of_followsNotation hl hitems hcheck
  rw [text_ofItems hsort, ← htexts]
  have hitems := items_joinBlocks hbs check
  -- every block that is located is one of those that were written, and none of them is reported
  have hnone : (Reading.ofCharsUsing check (Document.joinBlocks (bs.map Block.text))).issues =
      [] := by
    rw [issues_ofCharsUsing, List.filterMap_eq_nil_iff]
    intro x hx
    have hmem : x.block ∈ bs := by
      rw [← blocks_joinBlocks hbs, ← map_block_locateFrom 1 0]
      exact List.mem_map_of_mem hx
    exact hissues _ hmem _
  rw [hall] at hitems
  generalize Reading.ofCharsUsing check (Document.joinBlocks (bs.map Block.text)) = r
    at hitems hnone
  obtain ⟨readItems, readIssues⟩ := r
  obtain rfl : readItems = _ := hitems
  obtain rfl : readIssues = _ := hnone
  rfl

/-- The definition of an abbreviation. -/
def journalDefinition : Verbatim := ⟨"string", "@string\x7bjn = \"Journal\"\x7d\n"⟩

/-- An article that uses the abbreviation. -/
def journalArticle : Entry where
  type := "article"
  key := some "a2020"
  fields := [⟨"title", .text "A \x7bTitle\x7d\nin two lines"⟩, ⟨"year", .number "2020"⟩,
    ⟨"journal", .concat [.abbreviation "jn", .text " extra"]⟩]

theorem followsNotation_journalDefinition : journalDefinition.FollowsNotation := by
  refine ⟨⟨⟨"@string\x7b".toList, "string".toList, '{'⟩, "jn = \"Journal\"".toList, true⟩, ?_, rfl,
    by decide, rfl⟩
  have hnext : nextBlock? (trim journalDefinition.raw.toList) = some ([],
      ⟨⟨"@string\x7b".toList, "string".toList, '{'⟩, "jn = \"Journal\"".toList, true⟩, []) := by
    decide
  rw [segment_of_nextBlock? hnext, segment_nil]

theorem followsNotation_journalArticle : journalArticle.FollowsNotation where
  type := by
    have hchars : "rticle".toList.all Char.isAlphanum = true := by decide
    exact ⟨'a', "rticle".toList, rfl, by decide, fun c hc => .inl (List.all_eq_true.1 hchars c hc)⟩
  notKept := by decide
  key := by
    have hchars : "a2020".toList.all
        (fun c => !isBlank c && !([',', '=', '{', '}'].contains c)) = true := by decide
    refine ⟨"a2020", rfl, by decide, fun c hc => ?_⟩
    simpa using List.all_eq_true.1 hchars c hc
  names := by
    simp only [journalArticle, List.forall_mem_cons]
    refine ⟨?_, ?_, ?_, fun _ h => by cases h⟩ <;> decide
  values := by
    simp only [journalArticle, List.forall_mem_cons]
    refine ⟨.part (.text ?_), .part (.number ?_ ?_), .concat ?_ ?_, fun _ h => by cases h⟩
    · have htitle : Balanced ("A ".toList ++ ('{' :: "Title".toList ++ ['}'])) :=
        (Balanced.of_braceFree (by decide)).append (Balanced.of_braceFree (by decide)).braced
      have hend : Balanced "\nin two lines".toList := .of_braceFree (by decide)
      exact htitle.append hend
    · decide
    · exact List.all_eq_true.1 (show "2020".toList.all Char.isDigit = true by decide)
    · decide
    · simp only [List.forall_mem_cons]
      exact ⟨.abbreviation (by decide) (by decide), .text (.of_braceFree (by decide)),
        fun _ h => by cases h⟩

theorem ofCharsUsing_text_journalArticle :
    (∀ i ∈ [Item.verbatim journalDefinition, .entry journalArticle], i.FollowsNotation) ∧
      Reading.ofCharsUsing Check.run (Document.ofItems .default (Occurrence.number
          [.verbatim journalDefinition, .entry journalArticle])).text =
        ⟨[.verbatim journalDefinition, .entry journalArticle].map Layout.default.settledItem,
          []⟩ := by
  have hitems : ∀ i ∈ [Item.verbatim journalDefinition, .entry journalArticle],
      i.FollowsNotation := by
    simp only [List.forall_mem_cons]
    exact ⟨followsNotation_journalDefinition, followsNotation_journalArticle,
      fun _ h => by cases h⟩
  have hcheck : ∀ i ∈ [Item.verbatim journalDefinition, .entry journalArticle],
      (Check.run (Layout.default.renderItem i)).isOk = true := by
    decide +kernel
  exact ⟨hitems, ofCharsUsing_text rfl Layout.readsBack_default hitems hcheck⟩

end Bibliography
