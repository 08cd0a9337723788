import Bibliography.Proofs.EntryTexts

/-!
# Texts between quotation marks

What becomes of entries that are read from braces and written with quotation marks. A text is read
back if no quotation mark stands outside its braces. The converse is a matter of counting: all texts
are written with two marks around them, and only a text that holds no mark outside its braces pays
for both of them when it is read, whatever it is read as. If some text does not, the reader is left
with more marks than the entry has, and what it reads is another entry or none.

Main statement: `quotes_restore_iff`.
-/

namespace Bibliography

open Text

/-! ## §1 Marks that the reader sees -/

/-- The quotation marks that texts take when they are written between quotation marks. -/
def marksOf : List (List Char) → Nat
  | [] => 0
  | s :: ts => s.count '"' + 2 + marksOf ts

@[simp]
theorem marksOf_nil : marksOf [] = 0 := rfl

@[simp]
theorem marksOf_append (ts us : List (List Char)) :
    marksOf (ts ++ us) = marksOf ts + marksOf us := by
  induction ts with
  | nil => simp
  | cons s ts ih =>
    simp only [List.cons_append, marksOf, ih]
    omega

/-- `rest` is what is left of `s` when texts are read off that take at least as many quotation marks
as are read; if they take no more, no mark stands outside their braces. -/
def PaysFor (s rest : List Char) (ts : List (List Char)) : Prop :=
  s.count '"' ≤ marksOf ts + rest.count '"' ∧
    (s.count '"' = marksOf ts + rest.count '"' → ∀ u ∈ ts, NeverCloses '"' 0 u)

namespace PaysFor

variable {s t rest : List Char} {ts us : List (List Char)}

theorem trans (h : PaysFor s t ts) (h' : PaysFor t rest us) : PaysFor s rest (ts ++ us) := by
  obtain ⟨hle, hts⟩ := h
  obtain ⟨hle', hus⟩ := h'
  refine ⟨by rw [marksOf_append]; omega, fun heq => ?_⟩
  rw [marksOf_append] at heq
  rw [List.forall_mem_append]
  exact ⟨hts (by omega), hus (by omega)⟩

theorem of_not_mem {u : List Char} (hu : '"' ∉ u) (rest : List Char) :
    PaysFor (u ++ rest) rest [] := by
  have hcount : u.count '"' = 0 := List.count_eq_zero.2 hu
  refine ⟨?_, fun _ v hv => by cases hv⟩
  rw [List.count_append, hcount, marksOf_nil]

theorem of_trimLeft (h : trimLeft s = rest) : PaysFor s rest [] := by
  have hpays := of_not_mem ((allBlank_takeWhile s).not_mem (c := '"') (by decide)) (trimLeft s)
  rwa [takeWhile_blank_append_trimLeft, h] at hpays

theorem of_isTokenChar {c : Char} (hc : isTokenChar c = true) (s : List Char) :
    PaysFor (c :: s) (s.dropWhile isTokenChar) [] := by
  have hmark : '"' ∉ c :: s.takeWhile isTokenChar := fun h =>
    absurd ((isToken_takeWhile hc s).2 _ h) (by decide)
  have hpays := of_not_mem hmark (s.dropWhile isTokenChar)
  rwa [List.cons_append, List.takeWhile_append_dropWhile] at hpays

end PaysFor

theorem text?_ofToken (token : List Char) : (Value.ofToken token).text? = none := by
  unfold Value.ofToken
  split <;> rfl

theorem readPart_paysFor {s rest : List Char} {v : Value} (h : readPart s = .ok (v, rest)) :
    PaysFor s rest v.text?.toList := by
  cases readsPart_of_readPart h with
  | @braced content rest _ =>
    -- the text takes two marks that are not there
    have hless : ('{' :: (content ++ '}' :: rest)).count '"' <
        marksOf (Value.text (String.ofList content)).text?.toList + rest.count '"' := by
      simp [marksOf, Value.text?]
    exact ⟨hless.le, fun heq => absurd heq hless.ne⟩
  | @quoted content rest hnever _ =>
    -- the text takes both marks, and those that it holds within its braces
    refine ⟨?_, fun _ => ?_⟩
    · simp [marksOf, Value.text?]
      omega
    · simpa [Value.text?] using hnever
  | @token c s hc =>
    rw [text?_ofToken]
    exact PaysFor.of_isTokenChar hc s

/-- Helper: the blanks before a part are read off with it. -/
private theorem readTrimmed_paysFor {s rest : List Char} {v : Value}
    (h : readPart (trimLeft s) = .ok (v, rest)) : PaysFor s rest v.text?.toList :=
  (PaysFor.of_trimLeft rfl).trans (readPart_paysFor h)

theorem filterMap_text?_cons (v : Value) (vs : List Value) :
    (v :: vs).filterMap Value.text? = v.text?.toList ++ vs.filterMap Value.text? := by
  cases h : v.text? with
  | none => simp [h]
  | some s => simp [h]

theorem readParts_paysFor {s rest : List Char} {vs : List Value}
    (h : readParts s = .ok (vs, rest)) : PaysFor s rest (vs.filterMap Value.text?) := by
  fun_induction readParts s generalizing vs rest with
  | case1 => cases h
  -- the last part: it pays for its own text, and blanks cost nothing
  | case2 s v r hpart hrest =>
    cases h
    rw [filterMap_text?_cons]
    exact (readTrimmed_paysFor hpart).trans (.of_trimLeft hrest)
  | case3 => cases h
  -- a part, the sign behind it and the remaining parts pay one after the other
  | case4 s v r hpart rest' ws r' hparts hrest ih =>
    cases h
    have hsign := PaysFor.of_not_mem (u := ['#']) (by decide) rest'
    rw [filterMap_text?_cons]
    exact (readTrimmed_paysFor hpart).trans
      ((PaysFor.of_trimLeft hrest).trans (hsign.trans (ih hparts)))
  -- the list ends where something else than the sign follows
  | case5 s v r hpart c rest' hrest hc =>
    cases h
    rw [filterMap_text?_cons]
    exact (readTrimmed_paysFor hpart).trans (.of_trimLeft hrest)

theorem readValue_paysFor {s rest : List Char} {v : Value} (h : readValue s = .ok (v, rest)) :
    PaysFor s rest v.texts := by
  obtain ⟨vs, hparts, rfl⟩ := exists_of_readValue h
  rw [Value.texts, Check.parts_ofParts_of_readParts hparts]
  exact readParts_paysFor hparts

theorem readField_paysFor {s rest : List Char} {f : Field} (h : readField s = .ok (f, rest)) :
    PaysFor s rest f.value.texts := by
  obtain ⟨c, t, r, v, rfl, hc, hr, hv, rfl⟩ := exists_of_readField h
  have hsign := PaysFor.of_not_mem (u := ['=']) (by decide) r
  exact (PaysFor.of_isTokenChar hc t).trans
    ((PaysFor.of_trimLeft hr).trans (hsign.trans (readValue_paysFor hv)))

/-- The texts of a list of fields. -/
def textsOf (fs : List Field) : List (List Char) := fs.flatMap fun f => f.value.texts

theorem readFields_paysFor {s : List Char} {fs : List Field} (h : readFields s = .ok fs) :
    PaysFor s [] (textsOf fs) := by
  fun_induction readFields s generalizing fs with
  | case1 s hs =>
    cases h
    exact .of_trimLeft hs
  | case2 => cases h
  -- the last field pays for its own texts
  | case3 s c t hs f hf =>
    cases h
    simpa [textsOf] using (PaysFor.of_trimLeft hs).trans (readField_paysFor hf)
  | case4 => cases h
  -- a field, its comma and the other fields pay one after the other
  | case5 s c t hs f rest fs' hfs hf ih =>
    cases h
    have hcomma := PaysFor.of_not_mem (u := [',']) (by decide) rest
    exact (PaysFor.of_trimLeft hs).trans
      ((readField_paysFor hf).trans (hcomma.trans (ih hfs)))
  | case6 => cases h

/-! ## §2 Marks that are written -/

/-- Moving texts does not change the marks that they take. -/
theorem marksOf_map_reindent {p : List Char} (hp : IsIndent p) (ts : List (List Char)) :
    marksOf (ts.map (reindent p)) = marksOf ts := by
  have hcount (s : List Char) : (reindent p s).count '"' = s.count '"' := by
    rw [← List.count_filter (p := isMark) (by decide), filter_isMark_reindent hp,
      List.count_filter (by decide)]
  induction ts with
  | nil => rfl
  | cons s ts ih => rw [List.map_cons, marksOf, marksOf, hcount, ih]

theorem forall_neverCloses_map_reindent {p : List Char} (hp : IsIndent p)
    (ts : List (List Char)) :
    (∀ s ∈ ts.map (reindent p), NeverCloses '"' 0 s) ↔ ∀ s ∈ ts, NeverCloses '"' 0 s := by
  rw [List.forall_mem_map]
  refine forall₂_congr fun s _ => ?_
  rw [← neverCloses_filter_isMark (by decide), filter_isMark_reindent hp,
    neverCloses_filter_isMark (by decide)]

theorem IsToken.count_quote {s : List Char} (h : IsToken s) : s.count '"' = 0 :=
  List.count_eq_zero.2 fun hc => absurd (h.2 _ hc) (by decide)

theorem count_render_part {v : Value} (h : v.Plain) :
    (v.render .quotes []).count '"' = marksOf v.text?.toList := by
  cases h with
  | text h => simp [Value.render, placeText, Delimiters.left, Delimiters.right, marksOf, Value.text?]
  | number h => exact h.count_quote
  | abbreviation h => exact h.count_quote

theorem count_renderParts {vs : List Value} (h : ∀ v ∈ vs, v.Plain) :
    (joinWith " # ".toList (Value.renderParts .quotes [] vs)).count '"' =
      marksOf (vs.filterMap Value.text?) := by
  induction vs with
  | nil => rfl
  | cons v vs ih =>
    have hv := count_render_part (h v List.mem_cons_self)
    have hvs := ih fun u hu => h u (List.mem_cons_of_mem _ hu)
    have hsign : " # ".toList.count '"' = 0 := by decide
    rw [filterMap_text?_cons, marksOf_append, ← hv, ← hvs]
    -- the sign between two parts holds no mark, and behind the last one there is none
    cases vs with
    | nil => rfl
    | cons u vs =>
      simp only [Value.renderParts, joinWith_cons_cons, List.count_append, hsign, Nat.add_zero]

theorem count_render {v : Value} (h : v.Writable) :
    (v.render .quotes []).count '"' = marksOf v.texts := by
  cases h with
  | plain h =>
    rw [count_render_part h, Value.texts, h.parts_eq, filterMap_text?_cons]
    simp
  | concat hlen h => exact count_renderParts h

section Layouts

variable {l : Layout} (hl : l.KeepsNames) (hquotes : l.delimiters = .quotes)

include hl hquotes

theorem count_renderField (width : Nat) {f : Field} (hf : f.Writable) :
    (l.renderField width f).count '"' = marksOf f.value.texts := by
  have hindent := hl.isIndent_valueIndent width f
  have htab : l.tab.toList.count '"' = 0 :=
    List.count_eq_zero.2 (hl.tab.allBlank.not_mem (by decide))
  have hspaces (n : Nat) : (spaces n).count '"' = 0 :=
    List.count_eq_zero.2 ((isIndent_spaces n).allBlank.not_mem (by decide))
  have hassign : assignment.count '"' = 0 := by decide
  have hvalue : (f.value.render .quotes (l.valueIndent width f)).count '"' =
      marksOf f.value.texts := by
    rw [Value.render_reindented _ (l.valueIndent_ne_nil width f),
      count_render (hf.value.reindented hindent), Value.texts_reindented,
      marksOf_map_reindent hindent]
  -- names are tokens and the rest is blank, so that all marks are those of the value
  simp only [Layout.renderField, Layout.shownName, hl.fieldCase, hquotes, List.count_append,
    htab, hspaces, hassign, hf.name.count_quote, Nat.zero_add]
  exact hvalue

theorem count_fieldsText (width : Nat) {fs : List Field} (hfs : ∀ f ∈ fs, f.Writable) :
    (fieldsText l width fs).count '"' = marksOf (textsOf fs) := by
  induction fs with
  | nil => rfl
  | cons f fs ih =>
    have hf := count_renderField hl hquotes width (hfs f List.mem_cons_self)
    have hrest := ih fun g hg => hfs g (List.mem_cons_of_mem _ hg)
    -- comma and line end stand in front of each field; they hold no mark either
    have hcons : fieldsText l width (f :: fs) =
        [',', '\n'] ++ (l.renderField width f ++ fieldsText l width fs) := rfl
    have hmark : [',', '\n'].count '"' = 0 := by decide
    rw [hcons, List.count_append, List.count_append, hmark, hf, hrest, Nat.zero_add,
      show textsOf (f :: fs) = f.value.texts ++ textsOf fs from rfl, marksOf_append]

end Layouts

/-! ## §3 Entries but for their layout -/

/-- An entry whose texts have lost the indentation of their lines, and the kind of their breaks. -/
def Entry.flush (e : Entry) : Entry :=
  { e with fields := e.fields.map fun f => ⟨f.name, f.value.reindented []⟩ }

/-- An item whose texts have lost the indentation of their lines. -/
def Item.flush : Item → Item
  | .entry e => .entry e.flush
  | .verbatim v => .verbatim v

theorem isIndent_nil : IsIndent [] := fun _ h => by cases h

theorem textsOf_flush (e : Entry) :
    textsOf e.flush.fields = (textsOf e.fields).map (reindent []) := by
  simp only [textsOf, Entry.flush, List.flatMap_map, Value.texts_reindented, List.map_flatMap]

/-- Settling an entry changes nothing but the order of its fields and the layout of its texts. -/
theorem flush_settled {l : Layout} (hl : l.KeepsNames) (e : Entry) :
    (l.settled e).flush = (l.arrange e).flush := by
  have hfields : (l.settled e).flush.fields = (l.arrange e).flush.fields := by
    simp only [Entry.flush, Layout.settled, List.map_map]
    refine List.map_congr_left fun f _ => ?_
    simp only [Function.comp_apply, Layout.settledField,
      Value.reindented_reindented (hl.isIndent_valueIndent (l.nameWidth e.fields) f)]
  have hentry : (l.settled e).flush = { e with fields := (l.settled e).flush.fields } := rfl
  rw [hentry, hfields, Entry.flush, l.arrange_type, l.arrange_key]

/-! ## §4 Reading what was quoted -/

section Quotes

variable {l : Layout} (hl : l.KeepsNames) (hquotes : l.delimiters = .quotes)

include hl hquotes

/-- If the fields that are read from a written entry are its own but for their layout, its texts
hold no quotation mark outside their braces. -/
theorem enclosedBy_of_readFields {e : Entry} (he : e.Writable) {rest : List Char}
    (hrest : fieldsText l (l.nameWidth e.fields) (l.arrange e).fields ++ fieldsEnd l = ',' :: rest)
    {fs : List Field} (hfs : readFields rest = .ok fs)
    (hsame : (textsOf fs).map (reindent []) =
      (textsOf (l.arrange e).fields).map (reindent [])) : e.EnclosedBy .quotes := by
  have hend : (fieldsEnd l).count '"' = 0 := by
    rcases fieldsEnd_cases l with h | h <;> rw [h] <;> decide
  have hcount : rest.count '"' = marksOf (textsOf (l.arrange e).fields) := by
    have hcount := congrArg (List.count '"') hrest
    rw [List.count_append, hend, count_fieldsText hl hquotes _ (he.arranged l)] at hcount
    simpa using hcount.symm
  -- as many marks are read as the texts that are read take
  have hmarks : marksOf (textsOf fs) = marksOf (textsOf (l.arrange e).fields) := by
    rw [← marksOf_map_reindent isIndent_nil, hsame, marksOf_map_reindent isIndent_nil]
  have hnever := (readFields_paysFor hfs).2 (by simp [hcount, hmarks])
  rw [← forall_neverCloses_map_reindent isIndent_nil, hsame,
    forall_neverCloses_map_reindent isIndent_nil] at hnever
  intro f hf s hs
  have hf' := (l.arrange_fields_perm e).mem_iff.2 hf
  exact hnever s (List.mem_flatMap.2 ⟨f, hf', hs⟩)

/-- If the block of a written entry is read as the entry but for its layout, the check accepts it
and the texts of the entry hold no quotation mark outside their braces. -/
theorem enclosedBy_of_item {e : Entry} (he : e.Writable) (hkept : ¬(entryBlock l e).IsKept)
    {check : BlockCheck} (h : ((entryBlock l e).item check).flush = .entry (l.arrange e).flush) :
    (check (entryBlock l e).text).isOk = true ∧ e.EnclosedBy .quotes := by
  -- the block comes back as an entry, so its reading succeeded
  cases hentry : (entryBlock l e).entry check with
  | error fault =>
    rw [Block.item_of_not_isOk (by rw [hentry]; rfl)] at h
    cases h
  | ok e' =>
    rw [(Block.item_of_entry hkept hentry).1] at h
    have hflush : e'.flush = (l.arrange e).flush := Item.entry.inj h
    -- the reading starts behind the key and its comma, where the written fields stand
    obtain ⟨rest, hsplit, hrest⟩ := exists_splitKey_entryBody (l := l) he
    have hread : (check (entryBlock l e).text).isOk = true ∧ readFields rest = .ok e'.fields := by
      obtain ⟨hok, fs, hfs, rfl⟩ := Block.entry_eq_ok_iff.1 hentry
      rw [show (entryBlock l e).body = entryBody l e from rfl, hsplit] at hfs
      exact ⟨hok, hfs⟩
    -- up to indentation the texts read are those written, so the marks can be counted on both sides
    have hsame : (textsOf e'.fields).map (reindent []) =
        (textsOf (l.arrange e).fields).map (reindent []) := by
      rw [← textsOf_flush, hflush, textsOf_flush]
    refine ⟨hread.1, ?_⟩
    -- without fields there is nothing to enclose
    rcases hrest with hrest | ⟨hnil, -⟩
    · exact enclosedBy_of_readFields hl hquotes he hrest hread.2 hsame
    · intro f hf
      rw [← (l.arrange_fields_perm e).mem_iff, hnil] at hf
      cases hf

end Quotes

/-- Entries that are written between quotation marks are read back, without an issue and but for
the layout of their texts, exactly when their keys stand and no text holds a quotation mark outside
its braces. -/
theorem quotes_restore_iff {s : Settings} (hsort : s.sortEntries = false)
    (hl : s.layout.KeepsNames) (hquotes : s.layout.delimiters = .quotes) {t : List Char}
    {es : List Entry} (ht : HoldsEntries t es) (hkeys : ∀ e ∈ es, ∃ k ∈ e.key, Balanced k.toList) :
    ((Reading.ofChars (reformat Check.run s t)).issues = [] ∧
        (Reading.ofChars (reformat Check.run s t)).items.map Item.flush =
          es.map fun e => .entry (s.layout.arrange e).flush) ↔
      ∀ e ∈ es, e.KeyStands s.layout ∧
        ∀ f ∈ e.fields, ∀ u ∈ f.value.texts, NeverCloses '"' 0 u := by
  have hwritable := ht.writable hkeys
  have htext : reformat Check.run s t = Document.joinBlocks (es.map s.layout.renderEntry) := by
    rw [reformat, text_ofItems hsort, show Reading.ofCharsUsing Check.run t = _ from ht.reading,
      List.map_map]
    rfl
  rw [htext]
  constructor
  · -- the blocks are found whatever the texts hold, so each entry is read from its own block
    rintro ⟨-, hitems⟩ e he
    have hread := @items_joinBlocks (es.map (entryBlock s.layout))
      (List.forall_mem_map.2 fun e he => ⟨wellFormed_entryBlock hl (hwritable e he).1, rfl⟩)
      Check.run
    rw [map_text_entryBlock] at hread
    rw [Reading.ofChars, hread, List.map_map, List.map_map] at hitems
    obtain ⟨haccepted, hd⟩ := enclosedBy_of_item hl hquotes (hwritable e he).1 (hwritable e he).2
      (List.map_inj_left.1 hitems e he)
    rw [text_entryBlock] at haccepted
    obtain ⟨k, hk, hbalanced⟩ := hkeys e he
    exact ⟨⟨k, hk, .inr ⟨hbalanced, haccepted⟩⟩, hd⟩
  · intro h
    have hd : ∀ e ∈ es, e.EnclosedBy s.layout.delimiters := by
      rw [hquotes]
      exact fun e he => (h e he).2
    rw [ofChars_joinBlocks_renderEntry hl (ht.restorable hl (fun e he => (h e he).1) hd),
      List.map_map, List.map_map]
    exact ⟨rfl, List.map_congr_left fun e _ => congrArg Item.entry (flush_settled hl e)⟩

/-- Formatting with quotation marks around texts. -/
def quotesTexts : Settings := { Settings.default with
  layout := { Layout.default with delimiters := .quotes } }

/-- A book whose title holds quotation marks in braces. -/
def bracedMarks : List Char := "@book\x7ba, title = \x7bsay \x7b\"\x7dhi\x7b\"\x7d\x7d\x7d".toList

/-- The book with this title. -/
def bracedMarksBook : List Entry :=
  [⟨"book", some "a", [⟨"title", .text "say \x7b\"\x7dhi\x7b\"\x7d"⟩]⟩]

theorem holdsEntries_bracedMarks : HoldsEntries bracedMarks bracedMarksBook where
  reading := by with_unfolding_all rfl
  braces := by decide +kernel

theorem keepsNames_quotesTexts : quotesTexts.layout.KeepsNames :=
  ⟨rfl, Layout.readsBack_default.tab⟩

theorem quotes_restore_bracedMarks : HoldsEntries bracedMarks bracedMarksBook ∧
    (Reading.ofChars (reformat Check.run quotesTexts bracedMarks)).issues = [] ∧
      (Reading.ofChars (reformat Check.run quotesTexts bracedMarks)).items.map Item.flush =
        bracedMarksBook.map fun e => .entry (quotesTexts.layout.arrange e).flush := by
  have hkeys : ∀ e ∈ bracedMarksBook, e.KeyStands quotesTexts.layout :=
    Entry.keyStands_of_braceFree (by decide)
  have hmarks : ∀ e ∈ bracedMarksBook, ∀ f ∈ e.fields, ∀ u ∈ f.value.texts, NeverCloses '"' 0 u := by
    decide
  exact ⟨holdsEntries_bracedMarks, (quotes_restore_iff rfl keepsNames_quotesTexts rfl
    holdsEntries_bracedMarks fun e he => (hkeys e he).balanced).2
      fun e he => ⟨hkeys e he, hmarks e he⟩⟩

/-- A book whose title holds bare quotation marks. -/
def bareMarks : List Char := "@book\x7ba, title = \x7bsay \"hi\"\x7d\x7d".toList

/-- The book with this title. -/
def bareMarksBook : List Entry := [⟨"book", some "a", [⟨"title", .text "say \"hi\""⟩]⟩]

/-- Between quotation marks, the title is cut at its first mark, and the book is refused. -/
theorem quotes_refuse_bareMarks : HoldsEntries bareMarks bareMarksBook ∧
    (Reading.ofChars (reformat Check.run quotesTexts bareMarks)).issues ≠ [] := by
  have hissue : (Reading.ofChars (reformat Check.run quotesTexts bareMarks)).issues.isEmpty =
      false := by decide +kernel
  refine ⟨⟨by with_unfolding_all rfl, by decide +kernel⟩, fun hnil => ?_⟩
  rw [hnil] at hissue
  cases hissue

end Bibliography
