import Bibliography.Block.Fields
import Bibliography.Layout.Render
import Bibliography.Proofs.Blanks
import Bibliography.Proofs.Nesting

/-!
# Reading lists of fields

The reader of fields and what it reads. A value can be written when it is a token, a text with
balanced braces, or two or more of these joined together; it is then read back from its written
form, whatever comes after it. Conversely every value that is read can be written, provided the text
that was read off never closes a brace too many. Blanks at the end of a list of fields do not
matter.

Main statements: reading undoes writing for single values (`readValue_render`), what is read can be
written (`readFields_readsOff`), and blanks at the end are not seen (`readFields_append_allBlank`).
-/

namespace Bibliography

open Text

/-! ## §1 Tokens and values that can be written -/

/-- A token: characters that are neither blanks nor marks of the notation, at least one of them. -/
def IsToken (s : List Char) : Prop := s ≠ [] ∧ ∀ c ∈ s, isTokenChar c = true

instance (s : List Char) : Decidable (IsToken s) :=
  decidable_of_iff (s ≠ [] ∧ s.all isTokenChar = true) (by rw [IsToken, List.all_eq_true])

theorem isBlank_of_isTokenChar {c : Char} (h : isTokenChar c = true) : isBlank c = false := by
  simp only [isTokenChar, Bool.not_eq_true', Bool.or_eq_false_iff] at h
  exact h.1

theorem not_mem_tokenMarks {c : Char} (h : isTokenChar c = true) : c ∉ tokenMarks := by
  simp only [isTokenChar, Bool.not_eq_true', Bool.or_eq_false_iff] at h
  intro hc
  rw [List.contains_iff_mem.2 hc] at h
  cases h.2

theorem isTokenChar_of_isDigit {c : Char} (h : c.isDigit = true) : isTokenChar c = true := by
  -- none of the marks is a digit; the table is short enough to look through
  have hmarks : tokenMarks.all (fun d => !d.isDigit) = true := by decide
  have hrange := toNat_of_isDigit h
  -- the blanks lie below the digits
  have hblank : isBlank c = false := by
    simp only [isBlank, Bool.or_eq_false_iff, Bool.and_eq_false_iff, decide_eq_false_iff_not,
      beq_eq_false_iff_ne]
    omega
  have hmark : tokenMarks.contains c = false := by
    cases hc : tokenMarks.contains c with
    | false => rfl
    | true =>
      have hnot := List.all_eq_true.1 hmarks c (List.contains_iff_mem.1 hc)
      rw [h] at hnot
      cases hnot
  simp only [isTokenChar, hblank, hmark, Bool.or_self, Bool.not_false]

theorem isTokenChar_of_isBlank {c : Char} (h : isBlank c = true) : isTokenChar c = false := by
  simp [isTokenChar, h]

/-- A token goes on as far as its characters do. -/
theorem isToken_takeWhile {c : Char} (hc : isTokenChar c = true) (s : List Char) :
    IsToken (c :: s.takeWhile isTokenChar) :=
  ⟨by simp, List.forall_mem_cons.2 ⟨hc, fun _ hd => List.mem_takeWhile_imp hd⟩⟩

theorem IsToken.braceFree {s : List Char} (h : IsToken s) : BraceFree s :=
  ⟨fun hc => absurd (h.2 _ hc) (by decide), fun hc => absurd (h.2 _ hc) (by decide)⟩

/-- A part of a value that can be written: a text with balanced braces, or a token, which is a
number when it consists of digits. -/
inductive Value.Plain : Value → Prop where
  | text {content : String} (h : Balanced content.toList) : Plain (.text content)
  | number {content : String} (h : IsToken content.toList)
      (hdigits : content.toList.all isDigit = true) : Plain (.number content)
  | abbreviation {content : String} (h : IsToken content.toList)
      (hdigits : content.toList.all isDigit = false) : Plain (.abbreviation content)

/-- The parts of a value; a value that is not joined is its only part. -/
def Value.parts : Value → List Value
  | .concat parts => parts
  | v => [v]

/-- The text that a part is, if it is one. -/
def Value.text? : Value → Option (List Char)
  | .text content => some content.toList
  | _ => none

/-- The texts among the parts of a value. -/
def Value.texts (v : Value) : List (List Char) := v.parts.filterMap Value.text?

/-- A value whose texts do not hold the closing delimiter outside their braces. -/
def Value.EnclosedBy (d : Delimiters) (v : Value) : Prop :=
  ∀ s ∈ v.texts, NeverCloses d.right 0 s

/-- A value that can be written: one part, or two or more that are joined. -/
inductive Value.Writable : Value → Prop where
  | plain {v : Value} (h : v.Plain) : Writable v
  | concat {parts : List Value} (hlen : 2 ≤ parts.length) (h : ∀ v ∈ parts, v.Plain) :
      Writable (.concat parts)

/-- A field that can be written. -/
structure Field.Writable (f : Field) : Prop where
  name : IsToken f.name.toList
  value : f.value.Writable

theorem Value.Plain.parts_eq {v : Value} (h : v.Plain) : v.parts = [v] := by
  cases h <;> rfl

theorem Value.Writable.plain_of_mem_parts {v : Value} (h : v.Writable) :
    ∀ u ∈ v.parts, u.Plain := by
  cases h with
  | plain h =>
    rw [h.parts_eq]
    simpa using h
  | concat _ h => exact h

/-- A text in braces is closed by its own braces only. -/
theorem Value.Writable.enclosedBy_braces {v : Value} (h : v.Writable) : v.EnclosedBy .braces := by
  intro s hs
  obtain ⟨u, hu, hsome⟩ := List.mem_filterMap.1 hs
  cases h.plain_of_mem_parts u hu with
  | text hbalanced =>
    obtain rfl := Option.some.inj hsome
    exact hbalanced.neverCloses
  | number => cases hsome
  | abbreviation => cases hsome

theorem Value.EnclosedBy.of_mem_concat {d : Delimiters} {parts : List Value}
    (h : (Value.concat parts).EnclosedBy d) {v : Value} (hv : v ∈ parts) (hplain : v.Plain) :
    v.EnclosedBy d := by
  intro s hs
  rw [Value.texts, hplain.parts_eq] at hs
  obtain ⟨u, hu, hsome⟩ := List.mem_filterMap.1 hs
  obtain rfl := List.mem_singleton.1 hu
  exact h s (List.mem_filterMap.2 ⟨u, hv, hsome⟩)

theorem Value.plain_ofToken {s : List Char} (h : IsToken s) : (Value.ofToken s).Plain := by
  unfold Value.ofToken
  cases hd : s.all isDigit with
  | true => exact .number (by rwa [String.toList_ofList]) (by rwa [String.toList_ofList])
  | false => exact .abbreviation (by rwa [String.toList_ofList]) (by rwa [String.toList_ofList])

theorem Value.writable_ofParts {parts : List Value} (hne : parts ≠ [])
    (h : ∀ v ∈ parts, v.Plain) : (Value.ofParts parts).Writable := by
  match parts with
  | [v] => exact .plain (h v List.mem_cons_self)
  | _ :: _ :: _ => exact .concat (by simp) h

/-! ## §2 Reading what was written -/

/-- A token is read up to the first character that cannot continue it. -/
theorem readPart_token {s rest : List Char} (h : IsToken s)
    (hrest : ∀ c ∈ rest.head?, isTokenChar c = false) :
    readPart (s ++ rest) = .ok (Value.ofToken s, rest) := by
  obtain ⟨hne, hs⟩ := h
  obtain ⟨c, s, rfl⟩ := List.exists_cons_of_ne_nil hne
  have hc := hs c List.mem_cons_self
  have hmark := not_mem_tokenMarks hc
  -- a token starts with no opening delimiter, so the part is read by its characters
  have hdelim : ¬(c = '{' ∨ c = '"') := by
    rintro (rfl | rfl) <;> exact hmark (by decide)
  have hs' : ∀ d ∈ s, isTokenChar d = true := fun d hd => hs d (List.mem_cons_of_mem _ hd)
  simp only [List.cons_append, readPart, if_neg hdelim, if_pos hc,
    takeWhile_append_of_stop hs' hrest, dropWhile_append_of_stop hs' hrest]

section Writing

variable {d : Delimiters}

theorem readPart_render {v : Value} (hv : v.Plain) (hd : v.EnclosedBy d) {rest : List Char}
    (hrest : ∀ c ∈ rest.head?, isTokenChar c = false) :
    readPart (v.render d [] ++ rest) = .ok (v, rest) := by
  cases hv with
  | @text content h =>
    -- the text never closes its delimiter, so the closer behind it is the first that does
    have hclose : NeverCloses d.right 0 content.toList :=
      hd _ (by simp [Value.texts, Value.parts, Value.text?])
    have hsplit : splitAtClose d.right 0 (content.toList ++ d.right :: rest) =
        some (content.toList, rest) :=
      splitAtClose_eq_some_iff.2 ⟨rfl, hclose, by rw [h.depth]; rfl⟩
    cases d <;> simp_all [Value.render, placeText, Delimiters.left, Delimiters.right, readPart]
  -- numbers and abbreviations are the same token; its digits decide which of the two is read
  | @number content h hdigits =>
    have hread := readPart_token h hrest
    simpa [Value.render, Value.ofToken, hdigits] using hread
  | @abbreviation content h hdigits =>
    have hread := readPart_token h hrest
    simpa [Value.render, Value.ofToken, hdigits] using hread

/-- The written form of a part does not begin with a blank. -/
theorem trimLeft_render_append {v : Value} (hv : v.Plain) (rest : List Char) :
    trimLeft (v.render d [] ++ rest) = v.render d [] ++ rest := by
  have htoken : ∀ {s : List Char}, IsToken s → trimLeft (s ++ rest) = s ++ rest := by
    rintro s ⟨hne, hs⟩
    obtain ⟨c, s, rfl⟩ := List.exists_cons_of_ne_nil hne
    exact trimLeft_of_head (isBlank_of_isTokenChar (hs c List.mem_cons_self))
  cases hv with
  | text h => exact trimLeft_of_head (show isBlank d.left = false by cases d <;> decide)
  | number h => simpa [Value.render] using htoken h
  | abbreviation h => simpa [Value.render] using htoken h

/-- The reader of parts, as an equation. -/
theorem readParts_eq (s : List Char) : readParts s =
    match readPart (trimLeft s) with
    | .error e => .error e
    | .ok (v, rest) =>
      match trimLeft rest with
      | [] => .ok ([v], [])
      | c :: rest' =>
        if c = '#' then
          match readParts rest' with
          | .error e => .error e
          | .ok (vs, rest) => .ok (v :: vs, rest)
        else .ok ([v], c :: rest') := by
  rw [readParts]
  split
  · next h => rw [h]
  · next h =>
    rw [h]
    split
    · next hr => simp only [hr]
    · next hr =>
      -- the recursive call is under a match with a proof in it, which `simp` does not enter
      dsimp only
      rewrite [hr]
      rfl

/-- Blanks before the parts of a value are skipped. -/
theorem readParts_append_allBlank {w : List Char} (hw : AllBlank w) (s : List Char) :
    readParts (w ++ s) = readParts s := by
  rw [readParts_eq, readParts_eq s, trimLeft_append_left hw]

theorem readParts_last {s rest : List Char} {v : Value}
    (hpart : readPart (trimLeft s) = .ok (v, rest)) (hrest : ∀ c ∈ (trimLeft rest).head?, c ≠ '#') :
    readParts s = .ok ([v], trimLeft rest) := by
  rw [readParts_eq, hpart]
  cases hr : trimLeft rest with
  | nil => simp only [hr]
  | cons c t =>
    have hc : c ≠ '#' := hrest c (by simp [hr])
    simp only [hr, if_neg hc]

theorem readParts_cons {s rest rest' tail : List Char} {v : Value} {vs : List Value}
    (hpart : readPart (trimLeft s) = .ok (v, rest)) (hrest : trimLeft rest = '#' :: tail)
    (hparts : readParts tail = .ok (vs, rest')) : readParts s = .ok (v :: vs, rest') := by
  rw [readParts_eq, hpart]
  simp only [hrest, if_true, hparts]

theorem readParts_render {parts : List Value} (hne : parts ≠ [])
    (hparts : ∀ v ∈ parts, v.Plain ∧ v.EnclosedBy d)
    {rest : List Char} (hrest : ∀ c ∈ rest.head?, isTokenChar c = false)
    (hsign : ∀ c ∈ (trimLeft rest).head?, c ≠ '#') :
    readParts (joinWith " # ".toList (Value.renderParts d [] parts) ++ rest) =
      .ok (parts, trimLeft rest) := by
  induction parts with
  | nil => exact absurd rfl hne
  | cons v parts ih =>
    obtain ⟨hv, hd⟩ := hparts v List.mem_cons_self
    -- what follows the last part is `rest`, and any other is followed by the sign and the next part
    cases parts with
    | nil =>
      refine readParts_last ?_ hsign
      simp only [Value.renderParts, joinWith]
      rw [trimLeft_render_append hv, readPart_render hv hd hrest]
    | cons u parts =>
      have hih := ih (by simp) fun w hw => hparts w (List.mem_cons_of_mem _ hw)
      generalize htail : joinWith " # ".toList (Value.renderParts d [] (u :: parts)) ++ rest =
        tail at hih
      have hjoin : joinWith " # ".toList (Value.renderParts d [] (v :: u :: parts)) ++ rest =
          v.render d [] ++ (' ' :: '#' :: ' ' :: tail) := by
        simp [← htail, Value.renderParts, joinWith_cons_cons]
      have hblank : AllBlank [' '] := .singleton (by decide)
      -- after the part comes ` # `, whose first blank ends a token and whose last one is skipped
      have hpart : readPart (trimLeft (v.render d [] ++ (' ' :: '#' :: ' ' :: tail))) =
          .ok (v, ' ' :: '#' :: ' ' :: tail) := by
        rw [trimLeft_render_append hv]
        exact readPart_render hv hd (by simp; decide)
      have htrim : trimLeft (' ' :: '#' :: ' ' :: tail) = '#' :: ' ' :: tail :=
        trimLeft_append_left hblank ('#' :: ' ' :: tail)
      rw [hjoin]
      exact readParts_cons hpart htrim ((readParts_append_allBlank hblank tail).trans hih)

theorem readValue_render {v : Value} (hv : v.Writable) (hd : v.EnclosedBy d) {w rest : List Char}
    (hw : AllBlank w) (hrest : ∀ c ∈ rest.head?, isTokenChar c = false)
    (hsign : ∀ c ∈ (trimLeft rest).head?, c ≠ '#') :
    readValue (w ++ (v.render d [] ++ rest)) = .ok (v, trimLeft rest) := by
  rw [readValue, readParts_append_allBlank hw]
  cases hv with
  | plain hv =>
    have hpart : readPart (trimLeft (v.render d [] ++ rest)) = .ok (v, rest) := by
      rw [trimLeft_render_append hv, readPart_render hv hd hrest]
    rw [readParts_last hpart hsign]
    rfl
  | @concat parts hlen hparts =>
    -- there are two parts at least, so the written text is not empty and the list is read back
    -- whole
    have hne : parts ≠ [] := by
      rintro rfl
      simp at hlen
    have hread := readParts_render hne
      (fun v hv => ⟨hparts v hv, hd.of_mem_concat hv (hparts v hv)⟩) hrest hsign
    simp only [Value.render]
    rw [hread]
    -- of two parts or more a concatenation is made, not the part itself
    match parts, hlen with
    | _ :: _ :: _, _ => rfl

end Writing

/-- A field is read from its name, blanks, an equals sign and its value. -/
theorem readField_append {name w s rest : List Char} {v : Value} (hname : IsToken name)
    (hw : AllBlank w) (hvalue : readValue s = .ok (v, rest)) :
    readField (name ++ (w ++ '=' :: s)) = .ok (⟨String.ofList name, v⟩, rest) := by
  obtain ⟨hne, hchars⟩ := hname
  obtain ⟨c, name, rfl⟩ := List.exists_cons_of_ne_nil hne
  have hname' : ∀ d ∈ name, isTokenChar d = true := fun d hd => hchars d (List.mem_cons_of_mem _ hd)
  -- the name ends at the first blank, or at the sign when there is none
  have hstop : ∀ d ∈ (w ++ '=' :: s).head?, isTokenChar d = false := by
    cases w with
    | nil => simp; decide
    | cons b w => simpa using isTokenChar_of_isBlank (hw b List.mem_cons_self)
  have hequals : trimLeft (w ++ '=' :: s) = '=' :: s := by
    rw [trimLeft_append_left hw, trimLeft_of_head (by decide)]
  simp only [List.cons_append, readField, if_pos (hchars c List.mem_cons_self),
    takeWhile_append_of_stop hname' hstop, dropWhile_append_of_stop hname' hstop, hequals, hvalue,
    if_true]

/-! ## §3 Lists of fields -/

/-- The reader of fields, as an equation. -/
theorem readFields_eq (s : List Char) : readFields s =
    match trimLeft s with
    | [] => .ok []
    | c :: t =>
      match readField (c :: t) with
      | .error e => .error e
      | .ok (f, []) => .ok [f]
      | .ok (f, d :: rest) =>
        if d = ',' then
          match readFields rest with
          | .error e => .error e
          | .ok fs => .ok (f :: fs)
        else .error (.commaExpected f.name.toList) := by
  -- splitting one step of the recursion leaves its branches in another order of tests than the
  -- equation
  rw [readFields]
  split
  · next h => rw [h]
  · next h =>
    rw [h]
    split
    · next hf => simp only [hf]
    · next hf => simp only [hf]
    · next hf =>
      dsimp only
      rewrite [hf]
      rfl

theorem readFields_of_allBlank {s : List Char} (h : AllBlank s) : readFields s = .ok [] := by
  rw [readFields_eq, trimLeft_eq_nil_iff.2 h]

theorem readFields_last {s : List Char} {f : Field} (h : readField (trimLeft s) = .ok (f, [])) :
    readFields s = .ok [f] := by
  rw [readFields_eq]
  cases hs : trimLeft s with
  | nil => rw [hs] at h; cases h
  | cons c t => rw [hs] at h; simp only [h]

theorem readFields_cons {s rest : List Char} {f : Field} {fs : List Field}
    (h : readField (trimLeft s) = .ok (f, ',' :: rest)) (hrest : readFields rest = .ok fs) :
    readFields s = .ok (f :: fs) := by
  rw [readFields_eq]
  cases hs : trimLeft s with
  | nil => rw [hs] at h; cases h
  | cons c t => rw [hs] at h; simp only [h, if_true, hrest]

/-! ## §4 What is read can be written -/

/-- How a part stands in the text that it is read from, and what is left of that text. -/
inductive ReadsPart : List Char → Value → List Char → Prop where
  | braced {content rest : List Char} (h : Balanced content) :
      ReadsPart ('{' :: (content ++ '}' :: rest)) (.text (String.ofList content)) rest
  | quoted {content rest : List Char} (hnever : NeverCloses '"' 0 content)
      (hdepth : braceDepth content = 0) :
      ReadsPart ('"' :: (content ++ '"' :: rest)) (.text (String.ofList content)) rest
  | token {c : Char} {s : List Char} (hc : isTokenChar c = true) :
      ReadsPart (c :: s) (.ofToken (c :: s.takeWhile isTokenChar)) (s.dropWhile isTokenChar)

theorem readsPart_of_readPart {s rest : List Char} {v : Value} (h : readPart s = .ok (v, rest)) :
    ReadsPart s v rest := by
  cases s with
  | nil => cases h
  | cons c s =>
    simp only [readPart] at h
    split at h
    · next hc =>
      split at h
      · next content r hsplit =>
        cases h
        obtain ⟨rfl, hnever, hdepth⟩ := splitAtClose_eq_some_iff.1 hsplit
        rw [Int.zero_add] at hdepth
        -- between braces a text is balanced, as the scanner stops at the first closing brace
        rcases hc with rfl | rfl
        · exact .braced (balanced_iff.2 ⟨hnever, hdepth⟩)
        · exact .quoted hnever hdepth
      · cases h
    · split at h
      · next hc =>
        cases h
        exact .token hc
      · cases h

/-- `rest` is what is left of `s` when a text that closes all braces it opens is read off, and `P`
holds unless that text closes a brace too many somewhere. -/
def ReadsOff (s rest : List Char) (P : Prop) : Prop :=
  ∃ used, s = used ++ rest ∧ braceDepth used = 0 ∧ (NeverCloses '}' 0 used → P)

namespace ReadsOff

variable {s t rest : List Char} {P Q : Prop}

theorem trans (h : ReadsOff s t P) (h' : ReadsOff t rest Q) : ReadsOff s rest (P ∧ Q) := by
  obtain ⟨u, rfl, hu, hP⟩ := h
  obtain ⟨v, rfl, hv, hQ⟩ := h'
  refine ⟨u ++ v, by simp, by simp [hu, hv], fun hn => ?_⟩
  rw [neverCloses_append, hu] at hn
  exact ⟨hP hn.1, hQ hn.2⟩

theorem imp (h : ReadsOff s rest P) (hPQ : P → Q) : ReadsOff s rest Q := by
  obtain ⟨u, hs, hu, hP⟩ := h
  exact ⟨u, hs, hu, fun hn => hPQ (hP hn)⟩

theorem of_braceFree {u : List Char} (hu : BraceFree u) (rest : List Char) :
    ReadsOff (u ++ rest) rest True :=
  ⟨u, rfl, hu.braceDepth, fun _ => trivial⟩

theorem of_trimLeft (h : trimLeft s = rest) : ReadsOff s rest True := by
  have hread := of_braceFree (braceFree_of_blank (allBlank_takeWhile s)) (trimLeft s)
  rwa [takeWhile_blank_append_trimLeft, h] at hread

/-- A character that begins a token is read off with the rest of the token. -/
theorem of_isTokenChar {c : Char} (hc : isTokenChar c = true) (s : List Char) :
    ReadsOff (c :: s) (s.dropWhile isTokenChar) True := by
  have hread := of_braceFree (isToken_takeWhile hc s).braceFree (s.dropWhile isTokenChar)
  rwa [List.cons_append, List.takeWhile_append_dropWhile] at hread

end ReadsOff

theorem readPart_readsOff {s rest : List Char} {v : Value} (h : readPart s = .ok (v, rest)) :
    ReadsOff s rest v.Plain := by
  cases readsPart_of_readPart h with
  | @braced content rest hb =>
    exact ⟨'{' :: content ++ ['}'], by simp, hb.braced.depth,
      fun _ => .text (by rwa [String.toList_ofList])⟩
  | @quoted content rest hnever hdepth =>
    -- the text may close too many braces, unless all that is read does not
    refine ⟨'"' :: content ++ ['"'], by simp, by simp [hdepth, braceWeight], fun hn => ?_⟩
    simp only [List.cons_append, NeverCloses, neverCloses_append] at hn
    have hb : Balanced content := balanced_iff.2 ⟨by simpa [braceWeight] using hn.2.1, hdepth⟩
    exact .text (by rwa [String.toList_ofList])
  | @token c s hc =>
    apply (ReadsOff.of_isTokenChar hc s).imp
    exact fun _ => Value.plain_ofToken (isToken_takeWhile hc s)

/-- Helper: the blanks before a part are read off with it. -/
private theorem readTrimmed_readsOff {s rest : List Char} {v : Value}
    (h : readPart (trimLeft s) = .ok (v, rest)) : ReadsOff s rest v.Plain :=
  ((ReadsOff.of_trimLeft rfl).trans (readPart_readsOff h)).imp And.right

theorem readParts_readsOff {s rest : List Char} {vs : List Value}
    (h : readParts s = .ok (vs, rest)) : ReadsOff s rest (vs ≠ [] ∧ ∀ v ∈ vs, v.Plain) := by
  -- along the recursion of the reader: blanks, a part, blanks, and perhaps a sign and more parts
  fun_induction readParts s generalizing vs rest with
  | case1 => cases h
  | case2 s v r hpart hrest =>
    cases h
    have hread := (readTrimmed_readsOff hpart).trans (.of_trimLeft hrest)
    exact hread.imp fun hv => by simpa using hv.1
  | case3 => cases h
  | case4 s v r hpart rest' ws r' hparts hrest ih =>
    cases h
    have hsign := ReadsOff.of_braceFree (u := ['#']) (by decide) rest'
    have hread := (readTrimmed_readsOff hpart).trans (.of_trimLeft hrest)
    exact ((hread.trans hsign).trans (ih hparts)).imp fun hv =>
      ⟨by simp, List.forall_mem_cons.2 ⟨hv.1.1.1, hv.2.2⟩⟩
  | case5 s v r hpart c rest' hrest hc =>
    cases h
    have hread := (readTrimmed_readsOff hpart).trans (.of_trimLeft hrest)
    exact hread.imp fun hv => by simpa using hv.1

theorem readValue_readsOff {s rest : List Char} {v : Value} (h : readValue s = .ok (v, rest)) :
    ReadsOff s rest v.Writable := by
  obtain ⟨vs, hparts, rfl⟩ := exists_of_readValue h
  exact (readParts_readsOff hparts).imp fun hv => Value.writable_ofParts hv.1 hv.2

theorem readField_readsOff {s rest : List Char} {f : Field} (h : readField s = .ok (f, rest)) :
    ReadsOff s rest f.Writable := by
  obtain ⟨c, t, r, v, rfl, hc, hr, hv, rfl⟩ := exists_of_readField h
  -- the name, the blanks behind it, the equals sign and the value, one after another
  have hname := (ReadsOff.of_isTokenChar hc t).trans (.of_trimLeft hr)
  have hsign := ReadsOff.of_braceFree (u := ['=']) (by decide) r
  refine ((hname.trans hsign).trans (readValue_readsOff hv)).imp fun hf => ⟨?_, hf.2⟩
  rw [String.toList_ofList]
  exact isToken_takeWhile hc t

/-- The fields that are read from a text can be written, unless the text closes a brace too many. -/
theorem readFields_readsOff {s : List Char} {fs : List Field} (h : readFields s = .ok fs) :
    ReadsOff s [] (∀ f ∈ fs, f.Writable) := by
  fun_induction readFields s generalizing fs with
  -- nothing is left but blanks
  | case1 s hs =>
    cases h
    exact (ReadsOff.of_trimLeft hs).imp fun _ f hf => by cases hf
  | case2 => cases h
  -- the last field, with nothing behind it
  | case3 s c t hs f hf =>
    cases h
    have hread := (ReadsOff.of_trimLeft hs).trans (readField_readsOff hf)
    exact hread.imp fun hw => by simpa using hw.2
  | case4 => cases h
  -- a field and its comma are read off before the rest, which the induction hypothesis covers
  | case5 s c t hs f rest fs' hfs hf ih =>
    cases h
    have hread := (ReadsOff.of_trimLeft hs).trans (readField_readsOff hf)
    have hcomma := ReadsOff.of_braceFree (u := [',']) (by decide) rest
    exact ((hread.trans hcomma).trans (ih hfs)).imp
      fun hw => List.forall_mem_cons.2 ⟨hw.1.1.2, hw.2⟩
  | case6 => cases h

/-! ## §5 Blanks at the end -/

/-- Blanks behind what is left of a text, unless nothing is left. -/
def blankPadded (w s : List Char) : List Char := if s.isEmpty then [] else s ++ w

section Padded

variable {w : List Char} (hw : AllBlank w)

include hw

theorem trimLeft_append_right (s : List Char) : trimLeft (s ++ w) = blankPadded w (trimLeft s) := by
  by_cases hs : trimLeft s = []
  · rw [hs, trimLeft_eq_nil_iff.2 ((trimLeft_eq_nil_iff.1 hs).append hw)]
    rfl
  · rw [trimLeft_append_of_ne_nil hs, blankPadded, List.isEmpty_eq_false_iff.2 hs]
    rfl

theorem neverCloses_of_allBlank {closer : Char} (hcloser : isBlank closer = false) (depth : Int) :
    NeverCloses closer depth w :=
  neverCloses_of_not_mem (hw.not_mem hcloser) depth

/-- Helper: blanks behind a run of token characters do not belong to it. -/
private theorem dropWhile_isTokenChar_append (s : List Char) :
    (s ++ w).dropWhile isTokenChar = s.dropWhile isTokenChar ++ w ∧
      (s ++ w).takeWhile isTokenChar = s.takeWhile isTokenChar := by
  by_cases hs : s.dropWhile isTokenChar = []
  · -- the run goes to the end of `s` and is stopped by the first blank
    have hrun := List.dropWhile_eq_nil_iff.1 hs
    have hstop : ∀ c ∈ w.head?, isTokenChar c = false := by
      intro c hc
      exact isTokenChar_of_isBlank (hw c (List.mem_of_mem_head? hc))
    rw [hs, dropWhile_append_of_stop hrun hstop, takeWhile_append_of_stop hrun hstop,
      List.takeWhile_eq_self_iff.2 hrun]
    exact ⟨rfl, rfl⟩
  · exact dropWhile_append_of_ne_nil hs w

theorem readPart_padded (s : List Char) :
    readPart (blankPadded w s) = (readPart s).map fun p => (p.1, p.2 ++ w) := by
  cases s with
  | nil => rfl
  | cons c s =>
    simp only [blankPadded, List.isEmpty_cons, Bool.false_eq_true, if_false, List.cons_append,
      readPart]
    -- a delimited part ends at its closer; only when there is none can the blanks matter, and they
    -- close nothing
    by_cases hc : c = '{' ∨ c = '"'
    · rw [if_pos hc, if_pos hc]
      cases hsplit : splitAtClose (if c = '{' then '}' else '"') 0 s with
      | some p => rw [splitAtClose_append hsplit]; rfl
      | none =>
        have hcloser : isBlank (if c = '{' then '}' else '"') = false := by split <;> decide
        have hnone : splitAtClose (if c = '{' then '}' else '"') 0 (s ++ w) = none :=
          splitAtClose_eq_none_iff.2 (neverCloses_append.2
            ⟨splitAtClose_eq_none_iff.1 hsplit, neverCloses_of_allBlank hw hcloser _⟩)
        rw [hnone]
        rfl
    · -- a token ends before the blanks
      rw [if_neg hc, if_neg hc, (dropWhile_isTokenChar_append hw s).1,
        (dropWhile_isTokenChar_append hw s).2]
      cases isTokenChar c <;> rfl

theorem readParts_append_padded (s : List Char) :
    readParts (s ++ w) = (readParts s).map fun p => (p.1, blankPadded w p.2) := by
  have htrim := trimLeft_append_right hw
  -- what is left is padded with `w` after every step, until nothing is left
  fun_induction readParts s with
  | case1 s e hpart =>
    simp only [readParts_eq (s ++ w), htrim, readPart_padded hw, hpart, Except.map]
  | case2 s v r hpart hr =>
    simp only [readParts_eq (s ++ w), htrim, readPart_padded hw, hpart, Except.map, hr]
    rfl
  | case3 s v r hpart rest e hparts hr ih =>
    simp only [readParts_eq (s ++ w), htrim, readPart_padded hw, hpart, Except.map, hr]
    simp [blankPadded, ih, hparts, Except.map]
  | case4 s v r hpart rest vs r' hparts hr ih =>
    simp only [readParts_eq (s ++ w), htrim, readPart_padded hw, hpart, Except.map, hr]
    simp [blankPadded, ih, hparts, Except.map]
  | case5 s v r hpart c rest hr hc =>
    simp only [readParts_eq (s ++ w), htrim, readPart_padded hw, hpart, Except.map, hr]
    simp [blankPadded, hc]

theorem readValue_append_padded (s : List Char) :
    readValue (s ++ w) = (readValue s).map fun p => (p.1, blankPadded w p.2) := by
  rw [readValue, readValue, readParts_append_padded hw]
  cases readParts s <;> rfl

theorem readField_padded (s : List Char) :
    readField (blankPadded w s) = (readField s).map fun p => (p.1, blankPadded w p.2) := by
  cases s with
  | nil => rfl
  | cons c s =>
    simp only [blankPadded, List.isEmpty_cons, Bool.false_eq_true, if_false, List.cons_append,
      readField, (dropWhile_isTokenChar_append hw s).1, (dropWhile_isTokenChar_append hw s).2,
      trimLeft_append_right hw]
    cases isTokenChar c with
    | false => rfl
    | true =>
      -- behind the name stands the end, the sign or another character; the blanks matter to none
      cases trimLeft (s.dropWhile isTokenChar) with
      | nil => rfl
      | cons d rest =>
        by_cases hd : d = '='
        · simp only [hd, if_true, List.isEmpty_cons, Bool.false_eq_true, if_false,
            List.cons_append, readValue_append_padded hw]
          cases readValue rest <;> rfl
        · simp only [hd, if_true, if_false, List.isEmpty_cons, Bool.false_eq_true,
            List.cons_append]
          rfl

/-- Blanks at the end of a list of fields are not seen. -/
theorem readFields_append_allBlank (s : List Char) : readFields (s ++ w) = readFields s := by
  have htrim := trimLeft_append_right hw
  have hfield {c : Char} {t : List Char} :
      readField (c :: (t ++ w)) = (readField (c :: t)).map fun p => (p.1, blankPadded w p.2) :=
    readField_padded hw (c :: t)
  -- the blanks reach the end of the list and are skipped there, with a comma before them or without
  fun_induction readFields s with
  | case1 s hs => exact readFields_of_allBlank ((trimLeft_eq_nil_iff.1 hs).append hw)
  | case2 s c t hs e hf =>
    simp [readFields_eq (s ++ w), htrim, hs, blankPadded, hfield, hf, Except.map]
  | case3 s c t hs f hf =>
    simp [readFields_eq (s ++ w), htrim, hs, blankPadded, hfield, hf, Except.map]
  | case4 s c t hs f rest e hfs hf ih =>
    simp [readFields_eq (s ++ w), htrim, hs, blankPadded, hfield, hf, Except.map, ih, hfs]
  | case5 s c t hs f rest fs hfs hf ih =>
    simp [readFields_eq (s ++ w), htrim, hs, blankPadded, hfield, hf, Except.map, ih, hfs]
  | case6 s c t hs f d rest hf hd =>
    simp [readFields_eq (s ++ w), htrim, hs, blankPadded, hfield, hf, Except.map, hd]

end Padded

end Bibliography
