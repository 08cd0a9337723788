import Bibliography.Proofs.BlockItems
import Bibliography.Proofs.CheckMachine
import Bibliography.Proofs.EntryBlock

/-!
# What the check accepts

The check and the reader of fields go through the same text in different ways: the machine sees one
character at a time and knows a hundred open braces, names and numbers of ASCII; the reader sees
parts, values and fields. Where the reader succeeds, the verdict of the machine is a statement about
what has been read: the machine follows the recursion of the reader, and at every place it can only
go wrong in a token, in a text whose braces are nested too deep, or at the end of the command. So the
verdict does not depend on the layout of a block, nor on the delimiters around its texts.

Main statement: `isOk_run_iff_admits`.
-/

namespace Bibliography.Check

open Text

/-! ## §1 Values -/

/-- Whether the machine accepts a part of a value: a text whose braces nest, a number of ASCII digits
or a name. -/
def AdmitsPart : Value → Prop
  | .text content => nest? 0 content.toList = some 0
  | .number content => ∀ c ∈ content.toList, c.isDigit = true
  | .abbreviation content => IsName content.toList
  | .concat _ => False

/-- Whether the machine accepts a value. -/
def AdmitsValue (v : Value) : Prop := ∀ u ∈ v.parts, AdmitsPart u

theorem isDigit_of_isNameStart {c : Char} (h : isNameStart c = true) : isDigit c = false := by
  have hmarks : nameMarks.all (fun d => !isDigit d) = true := by decide
  rcases Bool.or_eq_true_iff.1 h with halpha | hmark
  · have hrange := toNat_of_isAlpha halpha
    rw [isDigit_of_lt (by omega)]
    cases hdigit : c.isDigit with
    | false => rfl
    | true =>
      have hrange' := toNat_of_isDigit hdigit
      omega
  · simpa using List.all_eq_true.1 hmarks c (List.contains_iff_mem.1 hmark)

theorem isDigit_of_isAsciiDigit {c : Char} (h : c.isDigit = true) : isDigit c = true := by
  have hrange := toNat_of_isDigit h
  rw [isDigit_of_lt (by omega), h]

/-- A token is accepted when it is a number or a name. -/
theorem admitsPart_ofToken (c : Char) (s : List Char) : AdmitsPart (Value.ofToken (c :: s)) ↔
    (∀ d ∈ c :: s, d.isDigit = true) ∨ IsName (c :: s) := by
  unfold Value.ofToken
  split
  · next hdigits =>
    -- digits alone make no name, since a name begins with no digit
    have hnot : ¬IsName (c :: s) := by
      intro hname
      have hc := isDigit_of_isNameStart (hname.1 c rfl)
      rw [List.all_eq_true.1 hdigits c List.mem_cons_self] at hc
      cases hc
    simp only [AdmitsPart, String.toList_ofList, hnot, or_false]
  · next hdigits =>
    have hnot : ¬∀ d ∈ c :: s, d.isDigit = true := fun hall =>
      hdigits (List.all_eq_true.2 fun d hd => isDigit_of_isAsciiDigit (hall d hd))
    simp only [AdmitsPart, String.toList_ofList, hnot, false_or]

theorem parts_ofToken (token : List Char) :
    (Value.ofToken token).parts = [Value.ofToken token] := by
  unfold Value.ofToken
  split <;> rfl

theorem parts_of_readPart {s rest : List Char} {v : Value} (h : readPart s = .ok (v, rest)) :
    v.parts = [v] := by
  cases readsPart_of_readPart h with
  | braced | quoted => rfl
  | token => exact parts_ofToken _

/-- The parts that are read are those of the value that they make up. -/
theorem parts_ofParts_of_readParts {s rest : List Char} {vs : List Value}
    (h : readParts s = .ok (vs, rest)) : (Value.ofParts vs).parts = vs := by
  rw [readParts_eq] at h
  cases hpart : readPart (trimLeft s) with
  | error e => rw [hpart] at h; cases h
  | ok read =>
    obtain ⟨v, r⟩ := read
    have hv := parts_of_readPart hpart
    rw [hpart] at h
    dsimp only at h
    -- behind the part nothing follows, another part behind a number sign, or anything else
    split at h
    · cases h
      exact hv
    · split at h
      · split at h
        · cases h
        · next ws _ _ =>
          cases h
          cases ws with
          | nil => exact hv
          | cons u ws => rfl
      · cases h
        exact hv

theorem admitsValue_iff {v : Value} {vs : List Value} (h : v.parts = vs) :
    AdmitsValue v ↔ ∀ u ∈ vs, AdmitsPart u := by
  rw [AdmitsValue, h]

section Values

variable (key : List Char) (names : List (List Char))

/-- No token may stand behind a part of a value. -/
theorem not_accepts_afterPart {c : Char} (hc : isTokenChar c = true) (s : List Char) :
    ¬Accepts (.afterPart '}' (.entry key names)) (c :: s) := by
  have hmark := not_mem_tokenMarks hc
  have hsign : c ≠ '#' := by rintro rfl; exact hmark (by decide)
  have hcomma : c ≠ ',' := by rintro rfl; exact hmark (by decide)
  have hbrace : c ≠ '}' := by rintro rfl; exact hmark (by decide)
  refine not_accepts_of_fault (.at 0 (.missing (.closing '}'))) ?_ s
  simp [State.act, Mode.state, State.skipBlank, State.atJoint, State.atClosing, State.fail,
    isBlank_of_isTokenChar hc, hsign, hcomma, hbrace]

/-- Helper: a token is accepted as a part of a value. -/
private theorem accepts_token {c : Char} (hc : isTokenChar c = true) {s rest : List Char}
    (hs : ∀ d ∈ s, isTokenChar d = true) (hrest : ∀ d ∈ rest.head?, isTokenChar d = false) :
    Accepts (.beforePart '}' (.entry key names)) (c :: s ++ rest) ↔
      AdmitsPart (Value.ofToken (c :: s)) ∧ Accepts (.afterPart '}' (.entry key names)) rest := by
  have hmark := not_mem_tokenMarks hc
  have hquote : c ≠ '"' := by rintro rfl; exact hmark (by decide)
  have hbrace : c ≠ '{' := by rintro rfl; exact hmark (by decide)
  have hblank := isBlank_of_isTokenChar hc
  have hstop (d : Char) (t : List Char) (hd : isTokenChar d = true) :=
    not_accepts_afterPart key names hd t
  rw [admitsPart_ofToken, List.cons_append]
  -- the first character says which kind of token the machine takes it for
  by_cases hdigit : c.isDigit = true
  · -- a number: its digits are gathered, and a name would not begin with one
    have hgoto : (Mode.beforePart '}' (.entry key names)).state.act c =
        .ok (Mode.inNumber '}' (.entry key names)).state := by
      simp [State.act, Mode.state, State.skipBlank, State.atPart, State.goto, hblank, hquote,
        hbrace, hdigit]
    have hname : ¬IsName (c :: s) := fun h => by
      have hc := isDigit_of_isNameStart (h.1 c rfl)
      rw [isDigit_of_isAsciiDigit hdigit] at hc
      cases hc
    rw [accepts_of_goto hgoto, (tokenModes_inNumber '}' (.entry key names)).accepts_append
      (fun _ d t hd _ => hstop d t hd) hs
      (head?_eq_false_of_imp (fun _ => isTokenChar_of_isDigit) hrest) []]
    simp [hname, hdigit]
  · by_cases hstart : isNameStart c = true
    · -- an abbreviation: the characters of its name are gathered
      have hgoto : (Mode.beforePart '}' (.entry key names)).state.act c =
          .ok (Mode.inAbbreviation '}' (.entry key names)).state := by
        simp [State.act, Mode.state, State.skipBlank, State.atPart, State.goto, hblank, hquote,
          hbrace, hdigit, hstart]
      rw [accepts_of_goto hgoto, (tokenModes_inAbbreviation '}' (.entry key names)).accepts_append
        (fun _ d t hd _ => hstop d t hd) hs
        (head?_eq_false_of_imp (fun _ => isTokenChar_of_isNameChar) hrest) []]
      simp [IsName, hdigit, hstart, isNameChar_of_isNameStart hstart]
    · -- neither: no value is found here
      have hfault : (Mode.beforePart '}' (.entry key names)).state.act c =
          .error (.at 0 (.missing .value)) := by
        simp [State.act, Mode.state, State.skipBlank, State.atPart, State.fail, hblank, hquote,
          hbrace, hdigit, hstart]
      simp [IsName, hdigit, hstart, not_accepts_of_fault _ hfault]

/-- A part that is read is accepted when the machine admits it, and what follows it is. -/
theorem accepts_part {s rest : List Char} {v : Value} (h : readPart s = .ok (v, rest))
    {t : List Char} (ht : ∀ c ∈ t.head?, isTokenChar c = false) :
    Accepts (.beforePart '}' (.entry key names)) (s ++ t) ↔
      AdmitsPart v ∧ Accepts (.afterPart '}' (.entry key names)) (rest ++ t) := by
  cases readsPart_of_readPart h with
  | braced hbalanced =>
    have hgoto : (Mode.beforePart '}' (.entry key names)).state.act '{' =
        .ok (Mode.inBraces '}' (.entry key names) 0 0).state := rfl
    have hmodes := textModes_inBraces '}' (.entry key names)
    simp only [List.cons_append, List.append_assoc]
    rw [accepts_of_goto hgoto,
      hmodes.accepts_append hbalanced.neverCloses (by simpa using hbalanced.depth)]
    simp [AdmitsPart]
  | quoted hnever hdepth =>
    have hgoto : (Mode.beforePart '}' (.entry key names)).state.act '"' =
        .ok (Mode.inQuotes '}' (.entry key names) 0 0).state := rfl
    have hmodes := textModes_inQuotes '}' (.entry key names)
    simp only [List.cons_append, List.append_assoc]
    rw [accepts_of_goto hgoto, hmodes.accepts_append hnever (by simpa using hdepth)]
    simp [AdmitsPart]
  | @token c s hc =>
    -- behind the token comes a character that ends it, or the text `t`
    have hrest : ∀ d ∈ (s.dropWhile isTokenChar ++ t).head?, isTokenChar d = false := by
      have hends := head?_dropWhile_eq_false isTokenChar s
      cases hd : s.dropWhile isTokenChar with
      | nil => simpa using ht
      | cons d r => rw [hd] at hends; exact hends
    have htoken := accepts_token key names hc
      (fun d hd => List.mem_takeWhile_imp (p := isTokenChar) (l := s) hd) hrest
    rwa [List.cons_append, ← List.append_assoc, List.takeWhile_append_dropWhile] at htoken

/-- Several parts are accepted when each of them is. -/
theorem accepts_parts {s rest : List Char} {vs : List Value} (h : readParts s = .ok (vs, rest))
    {t : List Char} (ht : ∀ c ∈ t.head?, isTokenChar c = false) :
    Accepts (.beforePart '}' (.entry key names)) (s ++ t) ↔
      (∀ v ∈ vs, AdmitsPart v) ∧ Accepts (.afterPart '}' (.entry key names)) (rest ++ t) := by
  have hskip (u : List Char) :=
    accepts_trimLeft_append (Mode.skips (.beforePart '}' (.entry key names)) rfl) u t
  have hskip' (u : List Char) :=
    accepts_trimLeft_append (Mode.skips (.afterPart '}' (.entry key names)) rfl) u t
  fun_induction readParts s generalizing vs rest with
  | case1 => cases h
  -- the only part: what follows it is no number sign
  | case2 s v r hpart hrest =>
    cases h
    rw [← hskip, accepts_part key names hpart ht, ← hskip', hrest]
    simp
  | case3 => cases h
  | case4 s v r hpart rest' ws r' hparts hrest ih =>
    cases h
    -- a part with a number sign behind it, from which the value goes on
    have hsign : (Mode.afterPart '}' (.entry key names)).state.act '#' =
        .ok (Mode.beforePart '}' (.entry key names)).state := rfl
    rw [← hskip, accepts_part key names hpart ht, ← hskip', hrest, List.cons_append,
      accepts_of_goto hsign, List.forall_mem_cons, and_assoc]
    exact and_congr_right fun _ => ih hparts
  | case5 s v r hpart c rest' hrest hc =>
    cases h
    rw [← hskip, accepts_part key names hpart ht, ← hskip', hrest]
    simp

theorem accepts_value {s rest : List Char} {v : Value} (h : readValue s = .ok (v, rest))
    {t : List Char} (ht : ∀ c ∈ t.head?, isTokenChar c = false) :
    Accepts (.beforePart '}' (.entry key names)) (s ++ t) ↔
      AdmitsValue v ∧ Accepts (.afterPart '}' (.entry key names)) (rest ++ t) := by
  obtain ⟨vs, hparts, rfl⟩ := exists_of_readValue h
  rw [admitsValue_iff (parts_ofParts_of_readParts hparts)]
  exact accepts_parts key names hparts ht

end Values

/-! ## §2 Fields -/

/-- Whether the machine accepts a field. -/
structure AdmitsField (f : Field) : Prop where
  name : IsName f.name.toList
  value : AdmitsValue f.value

/-- What stands behind the body of a block in braces: the closing brace, if it is there. -/
def closing (closed : Bool) : List Char := if closed then ['}'] else []

theorem text_eq_append_closing {b : Block} (hopener : b.head.opener = '{') :
    b.text = b.head.text ++ (b.body ++ closing b.closed) := by
  rw [Block.text, hopener, List.append_assoc]
  rfl

theorem isTokenChar_head?_closing (closed : Bool) :
    ∀ c ∈ (closing closed).head?, isTokenChar c = false := by
  cases closed with
  | false => simp [closing]
  | true => simp [closing]; decide

section Fields

variable (key : List Char)

/-- Helper: a mode in which the closing brace ends the command needs it. -/
private theorem accepts_closing (mode : Mode) (hmode : mode ≠ .outside)
    {names : List (List Char)} (hact : mode.state.act '}' =
      mode.state.finishCommand (.entry key names)) (closed : Bool) :
    Accepts mode (closing closed) ↔
      closed = true ∧ firstDuplicate? [] names.reverse = none := by
  cases closed with
  | false => simp [closing, accepts_nil, hmode]
  | true =>
    -- the command ends here, and only a repeated name refuses it
    rw [closing, if_pos rfl, accepts_cons, hact, State.finishCommand]
    cases hdup : firstDuplicate? [] names.reverse with
    | some name => simp
    | none => simp [Mode.state, State.accepts_nil, State.isOutside]

/-- Helper: a character of a token that does not start a name ends the fields. -/
private theorem not_accepts_of_not_isNameStart {c : Char} (hc : isTokenChar c = true)
    (hstart : isNameStart c = false) (names : List (List Char)) (t : List Char) :
    ¬Accepts (.beforeField '}' (.entry key names)) (c :: t) := by
  have hcomma : c ≠ ',' := by rintro rfl; exact not_mem_tokenMarks hc (by decide)
  have hbrace : c ≠ '}' := by rintro rfl; exact not_mem_tokenMarks hc (by decide)
  refine not_accepts_of_fault (.at 0 (.missing (.closing '}'))) ?_ t
  simp [State.act, Mode.state, State.skipBlank, State.atField, State.atClosing, State.fail,
    isBlank_of_isTokenChar hc, hstart, hcomma, hbrace]

/-- Where the equals sign is due, anything else but a blank is refused. -/
theorem not_accepts_beforeEquals_of_ne {body : Body} {c : Char} (hblank : isBlank c = false)
    (hc : c ≠ '=') (s : List Char) : ¬Accepts (.beforeEquals '}' body) (c :: s) := by
  refine not_accepts_of_fault (.at 0 (.missing .equals)) ?_ s
  simp [State.act, Mode.state, State.skipBlank, State.atEquals, State.fail, hblank, hc]

/-- A name does not go on behind the characters of its token: an equals sign comes next, or a blank in
front of it. -/
theorem isNameChar_head?_dropWhile {s r : List Char}
    (hr : trimLeft (s.dropWhile isTokenChar) = '=' :: r) (t : List Char) :
    ∀ c ∈ (s.dropWhile isTokenChar ++ t).head?, isNameChar c = false := by
  refine head?_eq_false_of_imp (fun _ => isTokenChar_of_isNameChar) ?_
  have hends := head?_dropWhile_eq_false isTokenChar s
  cases hs : s.dropWhile isTokenChar with
  | nil =>
    rw [hs] at hr
    cases hr
  | cons c u =>
    rw [hs] at hends
    simpa using hends

/-- Helper: of a token in front of an equals sign the machine admits the names, and goes on behind
the sign. -/
private theorem accepts_name {c : Char} {s r : List Char} (hc : isTokenChar c = true)
    (hr : trimLeft (s.dropWhile isTokenChar) = '=' :: r) (names : List (List Char))
    (t : List Char) :
    Accepts (.beforeField '}' (.entry key names)) (c :: s ++ t) ↔
      IsName (c :: s.takeWhile isTokenChar) ∧
        Accepts (.beforePart '}' (.entry key ((c :: s.takeWhile isTokenChar) :: names)))
          (r ++ t) := by
  rw [List.cons_append]
  cases hstart : isNameStart c with
  | false => simp [IsName, hstart, not_accepts_of_not_isNameStart key hc hstart names (s ++ t)]
  | true =>
    -- from the first character on the machine gathers the name
    have hgoto : (Mode.beforeField '}' (.entry key names)).state.act c =
        .ok (Mode.inField '}' (.entry key names) [c]).state := by
      simp [State.act, Mode.state, State.skipBlank, State.atField, State.goto,
        isBlank_of_isTokenChar hc, hstart]
    -- a token that is no name goes on where the machine expects the equals sign
    have hstop : ∀ g d u, isTokenChar d = true → isNameChar d = false →
        ¬Accepts (.beforeEquals '}' (.entry key (g :: names))) (d :: u) := fun g d u hd _ => by
      refine not_accepts_beforeEquals_of_ne (isBlank_of_isTokenChar hd) ?_ u
      rintro rfl
      exact not_mem_tokenMarks hd (by decide)
    have htoken := (tokenModes_inField '}' key names).accepts_append (fun g => hstop g.reverse)
      (fun d hd => List.mem_takeWhile_imp (p := isTokenChar) (l := s) hd)
      (isNameChar_head?_dropWhile hr t) [c]
    -- behind it the blanks are passed over up to the sign, which leads to the value
    have hsign (ns : List (List Char)) : (Mode.beforeEquals '}' (.entry key ns)).state.act '=' =
        .ok (Mode.beforePart '}' (.entry key ns)).state := rfl
    rw [← List.append_assoc, List.takeWhile_append_dropWhile] at htoken
    rw [accepts_of_goto hgoto, htoken,
      ← accepts_trimLeft_append (Mode.skips (.beforeEquals _ _) rfl), hr,
      List.cons_append, accepts_of_goto (hsign _)]
    simp [IsName, hstart, isNameChar_of_isNameStart hstart]

/-- Helper: behind a name, an equals sign and a value are accepted. -/
private theorem accepts_assignment {c : Char} {s r rest : List Char} {v : Value}
    (hc : isTokenChar c = true) (hr : trimLeft (s.dropWhile isTokenChar) = '=' :: r)
    (hv : readValue r = .ok (v, rest)) {t : List Char}
    (ht : ∀ c ∈ t.head?, isTokenChar c = false) (names : List (List Char)) :
    Accepts (.beforeField '}' (.entry key names)) (c :: s ++ t) ↔
      AdmitsField ⟨String.ofList (c :: s.takeWhile isTokenChar), v⟩ ∧
        Accepts (.afterPart '}' (.entry key
          ((String.ofList (c :: s.takeWhile isTokenChar)).toList :: names))) (rest ++ t) := by
  -- the machine sees the name first and the value only behind the equals sign
  have hadmits : AdmitsField ⟨String.ofList (c :: s.takeWhile isTokenChar), v⟩ ↔
      IsName (c :: s.takeWhile isTokenChar) ∧ AdmitsValue v :=
    ⟨fun h => ⟨by simpa using h.name, h.value⟩, fun h => ⟨by simpa using h.1, h.2⟩⟩
  rw [hadmits, String.toList_ofList, accepts_name key hc hr, accepts_value _ _ hv ht, and_assoc]

/-- A field that is read is accepted when the machine admits it, and what follows it is. -/
theorem accepts_field {s rest : List Char} {f : Field} (h : readField s = .ok (f, rest))
    {t : List Char} (ht : ∀ c ∈ t.head?, isTokenChar c = false) (names : List (List Char)) :
    Accepts (.beforeField '}' (.entry key names)) (s ++ t) ↔ AdmitsField f ∧
      Accepts (.afterPart '}' (.entry key (f.name.toList :: names))) (rest ++ t) := by
  obtain ⟨c, s, r, v, rfl, hc, hr, hv, rfl⟩ := exists_of_readField h
  exact accepts_assignment key hc hr hv ht names

/-- The fields that are read from a body are accepted when the machine admits each of them, the
block is closed and no name is repeated. -/
theorem accepts_fields {s : List Char} {fs : List Field} (h : readFields s = .ok fs)
    (closed : Bool) (names : List (List Char)) :
    Accepts (.beforeField '}' (.entry key names)) (s ++ closing closed) ↔
      (∀ f ∈ fs, AdmitsField f) ∧ closed = true ∧
        firstDuplicate? [] (names.reverse ++ fs.map (·.name.toList)) = none := by
  have ht := isTokenChar_head?_closing closed
  have hskip (ns : List (List Char)) (u : List Char) :=
    accepts_trimLeft_append (Mode.skips (.beforeField '}' (.entry key ns)) rfl) u (closing closed)
  have hfield (ns : List (List Char)) := accepts_closing key (.beforeField '}' (.entry key ns))
    (by simp) rfl closed
  have hpart (ns : List (List Char)) := accepts_closing key (.afterPart '}' (.entry key ns))
    (by simp) rfl closed
  fun_induction readFields s generalizing fs names with
  -- nothing but blanks: the next character ends the command
  | case1 s hs =>
    cases h
    rw [← hskip, hs, List.nil_append, hfield]
    simp
  | case2 => cases h
  -- the last field, without a comma behind it
  | case3 s c r hs f hf =>
    cases h
    rw [← hskip, hs, accepts_field key hf ht, List.nil_append, hpart]
    simp
  | case4 => cases h
  | case5 s c r hs f rest fs' hfs hf ih =>
    cases h
    -- the comma leads back to where a field may begin, with one more name in hand
    have hcomma (ns : List (List Char)) : (Mode.afterPart '}' (.entry key ns)).state.act ',' =
        .ok (Mode.beforeField '}' (.entry key ns)).state := rfl
    rw [← hskip, hs, accepts_field key hf ht, List.cons_append, accepts_of_goto (hcomma _),
      List.forall_mem_cons, and_assoc]
    refine and_congr_right fun _ => (ih hfs _).trans ?_
    simp
  | case6 => cases h

end Fields

/-! ## §3 Keys -/

section Keys

variable {body : Body}

/-- What may stand behind the first part of a body: a comma, the closing brace or nothing. -/
def EndsKey (t : List Char) : Prop := ∀ c ∈ t.head?, c = ',' ∨ c = '}'

theorem isBlank_of_isKeyChar {closer c : Char} (h : isKeyChar closer c = true) :
    isBlank c = false := by
  simp only [isKeyChar, Bool.not_eq_true', Bool.or_eq_false_iff] at h
  exact h.1.1

/-- A key ends before blanks and what may stand behind the first part of a body. -/
theorem isKeyChar_head?_eq_false {w t : List Char} (hw : AllBlank w) (ht : EndsKey t) :
    ∀ c ∈ (w ++ t).head?, isKeyChar '}' c = false := by
  intro c hc
  cases w with
  | nil => rcases ht c hc with rfl | rfl <;> decide
  | cons b w =>
    obtain rfl : b = c := by simpa using hc
    simp [isKeyChar, hw b List.mem_cons_self]

theorem not_mem_keyMarks {s : List Char} (hcomma : ',' ∉ s) (hequals : '=' ∉ s)
    (hbrace : '}' ∉ s) : ∀ c ∈ s, c ∉ [',', '=', '}'] := by
  intro c hc hmark
  simp only [List.mem_cons, List.not_mem_nil, or_false] at hmark
  rcases hmark with rfl | rfl | rfl
  · exact hcomma hc
  · exact hequals hc
  · exact hbrace hc

/-- Without an equals sign, what follows the name of a field is refused. -/
theorem not_accepts_beforeEquals {u t : List Char} (hu : '=' ∉ u) (ht : EndsKey t) :
    ¬Accepts (.beforeEquals '}' body) (u ++ t) := by
  -- along the text, whose blanks are passed over until another character comes
  induction u with
  | nil =>
    cases t with
    | nil => simp [accepts_nil]
    | cons c t =>
      rcases ht c rfl with rfl | rfl
      · exact not_accepts_beforeEquals_of_ne (by decide) (by decide) t
      · exact not_accepts_beforeEquals_of_ne (by decide) (by decide) t
  | cons c u ih =>
    rw [List.mem_cons, not_or] at hu
    rw [List.cons_append]
    cases hblank : isBlank c with
    | true =>
      rw [accepts_of_goto (Mode.skips (.beforeEquals _ _) rfl c hblank)]
      exact ih hu.2
    | false => exact not_accepts_beforeEquals_of_ne hblank (Ne.symm hu.1) _

theorem not_accepts_inField {u t : List Char} (hu : '=' ∉ u) (ht : EndsKey t) (key : List Char)
    (names : List (List Char)) (g : List Char) :
    ¬Accepts (.inField '}' (.entry key names) g) (u ++ t) := by
  have hmodes := tokenModes_inField '}' key names
  induction u generalizing g with
  | nil =>
    cases t with
    | nil => simp [accepts_nil]
    | cons c t =>
      have hc : isNameChar c = false := by
        rcases ht c rfl with rfl | rfl <;> decide
      -- the name ends with the text, and so does the field
      rw [List.nil_append, accepts_congr_act (hmodes.stop g c hc)]
      exact not_accepts_beforeEquals (u := []) (by simp) ht
  | cons c u ih =>
    rw [List.mem_cons, not_or] at hu
    rw [List.cons_append]
    cases hc : isNameChar c with
    | true =>
      rw [accepts_of_goto (hmodes.more g c hc)]
      exact ih hu.2 _
    -- a character that cannot stand in a name: no equals sign comes behind it
    | false =>
      rw [accepts_congr_act (hmodes.stop g c hc), ← List.cons_append]
      exact not_accepts_beforeEquals (by simpa using hu) ht

/-- A word without marks where a field may begin is refused. -/
theorem not_accepts_word {u t : List Char} (hblank : ¬AllBlank u) (hequals : '=' ∉ u)
    (hcomma : ',' ∉ u) (hbrace : '}' ∉ u) (ht : EndsKey t) (key : List Char)
    (names : List (List Char)) : ¬Accepts (.beforeField '}' (.entry key names)) (u ++ t) := by
  rw [← accepts_trimLeft_append (Mode.skips (.beforeField _ _) rfl)]
  have hsub : ∀ c ∈ trimLeft u, c ∈ u := fun c hc => (trimLeft_suffix u).subset hc
  have hhead := head?_dropWhile_eq_false isBlank u
  obtain ⟨c, v, hv⟩ := List.exists_cons_of_ne_nil fun h => hblank (trimLeft_eq_nil_iff.1 h)
  rw [hv] at hsub ⊢
  rw [show u.dropWhile isBlank = c :: v from hv] at hhead
  have hne (d : Char) (hd : d ∉ u) : c ≠ d := by
    rintro rfl
    exact hd (hsub c List.mem_cons_self)
  rw [List.cons_append]
  -- a word that begins a name is read as that of a field; any other is no closing brace
  by_cases hstart : isNameStart c = true
  · have hgoto : (Mode.beforeField '}' (.entry key names)).state.act c =
        .ok (Mode.inField '}' (.entry key names) [c]).state := by
      simp [State.act, Mode.state, State.skipBlank, State.atField, State.goto, hhead c rfl, hstart]
    rw [accepts_of_goto hgoto]
    exact not_accepts_inField (fun h => hequals (hsub _ (List.mem_cons_of_mem _ h))) ht key names _
  · refine not_accepts_of_fault (.at 0 (.missing (.closing '}'))) ?_ _
    simp [State.act, Mode.state, State.skipBlank, State.atField, State.atClosing, State.fail,
      hhead c rfl, hstart, hne ',' hcomma, hne '}' hbrace]

theorem length_trim_le (s : List Char) : (trim s).length ≤ s.length := by
  obtain ⟨w, w', -, -, hs⟩ := exists_eq_append_trim s
  have hlen := congrArg List.length hs
  simp only [List.length_append] at hlen
  omega

/-- Helper: a trimmed text does not end in blanks. -/
private theorem not_allBlank_of_trim_eq {s u : List Char} (h : trim (s ++ u) = s ++ u)
    (hu : u ≠ []) : ¬AllBlank u := by
  intro hblank
  rw [trim_append_right hblank] at h
  have hlen := length_trim_le s
  have hpos := List.length_pos_iff.2 hu
  rw [h, List.length_append] at hlen
  omega

/-- Helper: a key goes on as far as its characters do, and blanks may follow it. -/
private theorem accepts_inKey {s w t : List Char} (hs : ∀ c ∈ s, isKeyChar '}' c = true)
    (hw : AllBlank w) (ht : EndsKey t) (g : List Char) : Accepts (.inKey '}' g) (s ++ (w ++ t)) ↔
      Accepts (.beforeField '}' (.entry (s.reverse ++ g).reverse [])) t := by
  rw [(tokenModes_inKey '}').accepts_append (q := isKeyChar '}')
    (fun _ _ _ h h' => by rw [h] at h'; cases h') hs (isKeyChar_head?_eq_false hw ht),
    accepts_append_allBlank (Mode.skips (.beforeField _ _) rfl) hw]
  exact and_iff_right hs

/-- Helper: a blank inside the key ends it for the machine, which then meets a word. -/
private theorem not_accepts_inKey {c : Char} {s w t : List Char}
    (hmarks : ∀ d ∈ s, d ∉ [',', '=', '}']) (hw : AllBlank w) (ht : EndsKey t)
    (htrim : trim (c :: s) = c :: s) (hs : ¬∀ d ∈ s, isKeyChar '}' d = true) (g : List Char) :
    ¬Accepts (.inKey '}' g) (s ++ (w ++ t)) := by
  have hrun : ∀ d ∈ s.takeWhile (isKeyChar '}'), isKeyChar '}' d = true := fun d hd =>
    List.mem_takeWhile_imp hd
  have hsplit := List.takeWhile_append_dropWhile (p := isKeyChar '}') (l := s)
  have hstop := head?_dropWhile_eq_false (isKeyChar '}') s
  have hrest : s.dropWhile (isKeyChar '}') ≠ [] := fun h => hs (List.dropWhile_eq_nil_iff.1 h)
  -- neither the rest of the key nor the blanks behind it hold one of the three marks
  have hmem : ∀ d ∈ s.dropWhile (isKeyChar '}') ++ w, d ∉ [',', '=', '}'] := by
    intro d hd
    rcases List.mem_append.1 hd with hd | hd
    · exact hmarks d ((List.dropWhile_suffix _).subset hd)
    · intro hmark
      have hblank := hw d hd
      simp only [List.mem_cons, List.not_mem_nil, or_false] at hmark
      rcases hmark with rfl | rfl | rfl <;> exact absurd hblank (by decide)
  generalize s.takeWhile (isKeyChar '}') = run at *
  generalize s.dropWhile (isKeyChar '}') = rest at *
  -- the key does not end with a blank, so its rest is not blank
  have hblank : ¬AllBlank (rest ++ w) := by
    rw [← hsplit, ← List.cons_append] at htrim
    exact fun h => not_allBlank_of_trim_eq htrim hrest fun d hd => h d (List.mem_append_left _ hd)
  have hends : ∀ d ∈ (rest ++ (w ++ t)).head?, isKeyChar '}' d = false := by
    obtain ⟨b, r, rfl⟩ := List.exists_cons_of_ne_nil hrest
    exact hstop
  -- behind the characters that can stand in a key, the rest is a word where a field is due
  have hword := not_accepts_word hblank (fun h => hmem _ h (by decide))
    (fun h => hmem _ h (by decide)) (fun h => hmem _ h (by decide)) ht
  rw [← hsplit, List.append_assoc, (tokenModes_inKey '}').accepts_append (q := isKeyChar '}')
    (fun _ _ _ h h' => by rw [h] at h'; cases h') hrun hends, ← List.append_assoc]
  exact fun h => hword _ _ h.2

/-- The first part of a body without marks is accepted when it holds a key without blanks. -/
theorem accepts_key {first t : List Char} (hfirst : ∀ c ∈ first, c ∉ [',', '=', '}'])
    (hne : trim first ≠ []) (ht : EndsKey t) :
    Accepts (.beforeKey '}') (first ++ t) ↔ (∀ c ∈ trim first, isKeyChar '}' c = true) ∧
      Accepts (.beforeField '}' (.entry (trim first) [])) t := by
  obtain ⟨w, w', hw, hw', heq⟩ := exists_eq_append_trim first
  have htrim := trim_trim first
  have hsub : ∀ c ∈ trim first, c ∉ [',', '=', '}'] := fun c hc => hfirst c (by rw [heq]; simp [hc])
  generalize trim first = k at hne heq htrim hsub ⊢
  obtain ⟨c, s, rfl⟩ := List.exists_cons_of_ne_nil hne
  -- a trimmed key does not begin with a blank, since trimming would make it shorter
  have hc : isBlank c = false := by
    cases hblank : isBlank c with
    | false => rfl
    | true =>
      have hlen := length_trim_le s
      rw [← List.singleton_append, trim_append_left (.singleton hblank)] at htrim
      rw [htrim, List.length_append, List.length_singleton] at hlen
      omega
  have hkey : isKeyChar '}' c = true := by
    have hmarks := hsub c List.mem_cons_self
    simp only [List.mem_cons, List.not_mem_nil, or_false, not_or] at hmarks
    obtain ⟨hcomma, -, hbrace⟩ := hmarks
    simp [isKeyChar, hc, beq_eq_false_iff_ne.2 hcomma, beq_eq_false_iff_ne.2 hbrace]
  have hgoto : (Mode.beforeKey '}').state.act c = .ok (Mode.inKey '}' [c]).state := by
    simp [State.act, Mode.state, State.skipBlank, State.goto, hc, hkey]
  rw [heq, List.append_assoc, List.append_assoc,
    accepts_append_allBlank (Mode.skips (.beforeKey _) rfl) hw,
    List.cons_append, accepts_of_goto hgoto, List.forall_mem_cons]
  -- either the whole key is read as one, or a word is left over behind it
  by_cases hs : ∀ d ∈ s, isKeyChar '}' d = true
  · have hreverse : (s.reverse ++ [c]).reverse = c :: s := by simp
    rw [accepts_inKey hs hw' ht, hreverse]
    exact (and_iff_right ⟨hkey, hs⟩).symm
  · have hnot :=
      not_accepts_inKey (fun d hd => hsub d (List.mem_cons_of_mem _ hd)) hw' ht htrim hs [c]
    simp [hs, hnot]

end Keys

/-! ## §4 Heads -/

/-- The pair that is found by bisection is one of the array, and begins at most at the place that is
looked for. -/
theorem mem_of_lastAtMost {α : Type} {a : Array (Nat × α)} {n lo hi : Nat} {entry : Nat × α}
    (h : lastAtMost a n lo hi = some entry) : entry ∈ a ∧ entry.1 ≤ n := by
  fun_induction lastAtMost a n lo hi with
  | case1 => cases h
  -- in the left half
  | case2 lo hi hlt mid found hfound hn ih => exact ih h
  | case3 lo hi hlt mid found hfound hn ih =>
    -- in the right half, or else here
    cases hright : lastAtMost a n (mid + 1) hi with
    | none =>
      rw [hright] at h
      obtain rfl : found = entry := by simpa using h
      exact ⟨Array.mem_of_getElem? hfound, Nat.le_of_not_lt hn⟩
    | some entry' =>
      rw [hright] at h
      obtain rfl : entry' = entry := by simpa using h
      exact ih hright
  | case4 => cases h

/-- A set of characters holds none of the code points that none of its intervals hold. -/
theorem contains_eq_false {set : CharSet} {ns : List Nat}
    (h : (set.intervals.toList.all fun i => ns.all fun n => !(i.1 ≤ n && n ≤ i.2)) = true)
    {c : Char} (hc : c.toNat ∈ ns) : set.contains c = false := by
  unfold CharSet.contains
  split
  · rfl
  · next first last hfound =>
    obtain ⟨hmem, hfirst⟩ := mem_of_lastAtMost hfound
    have hnot := List.all_eq_true.1 (List.all_eq_true.1 h _ (Array.mem_toList_iff.2 hmem)) _ hc
    simp only [hfirst, decide_true, Bool.true_and, Bool.not_eq_true'] at hnot
    exact hnot

/-- The blanks outside ASCII. -/
def wideBlanks : List Nat :=
  [0x85, 0xA0, 0x1680, 0x2000, 0x2001, 0x2002, 0x2003, 0x2004, 0x2005, 0x2006, 0x2007, 0x2008,
    0x2009, 0x200A, 0x2028, 0x2029, 0x202F, 0x205F, 0x3000]

set_option maxRecDepth 100000 in
/-- No interval of the letters and numerals holds a blank. -/
theorem wordTable_wideBlanks : (wordTable.intervals.toList.all fun i =>
    wideBlanks.all fun n => !(i.1 ≤ n && n ≤ i.2)) = true := by
  unfold wordTable CharSet.ofText
  rw [String.toList_ofList]
  decide +kernel

theorem mem_wideBlanks {c : Char} (hc : isBlank c = true) (hwide : ¬c.toNat < 128) :
    c.toNat ∈ wideBlanks := by
  simp only [isBlank, Bool.or_eq_true, Bool.and_eq_true, decide_eq_true_eq, beq_iff_eq] at hc
  simp only [wideBlanks, List.mem_cons, List.not_mem_nil, or_false]
  omega

theorem isWord_of_isBlank {c : Char} (h : isBlank c = true) : isWord c = false := by
  unfold isWord
  split
  · have hlow : c ≠ '_' := ne_of_isBlank h (by decide)
    have hname := isNameChar_of_isBlank h
    simp only [isNameChar, isNameStart, Bool.or_eq_false_iff] at hname
    simp [Char.isAlphanum, hname, hlow]
  · next hwide => exact contains_eq_false wordTable_wideBlanks (mem_wideBlanks h hwide)

theorem isTypeChar_of_isBlank {c : Char} (h : isBlank c = true) : isTypeChar c = false := by
  have hcolon : c ≠ ':' := ne_of_isBlank h (by decide)
  have hdash : c ≠ '-' := ne_of_isBlank h (by decide)
  simp [isTypeChar, isWord_of_isBlank h, hcolon, hdash]

/-- Helper: no character of a type may stand behind the name of a command. -/
private theorem not_accepts_beforeOpening {c : Char} (hc : isTypeChar c = true)
    (name s : List Char) : ¬Accepts (.beforeOpening name) (c :: s) := by
  have hblank : isBlank c = false := by
    cases h : isBlank c with
    | false => rfl
    | true => rw [isTypeChar_of_isBlank h] at hc; cases hc
  have hleft : c ≠ '{' := by rintro rfl; exact absurd hc (by decide)
  have hparen : c ≠ '(' := by rintro rfl; exact absurd hc (by decide)
  refine not_accepts_of_fault (.at 0 (.missing .opening)) ?_ s
  simp [State.act, Mode.state, State.skipBlank, State.atOpening, State.fail, hblank, hleft, hparen]

/-- The brace behind the name of a command that is no definition and no comment. -/
theorem atOpening_brace {name : List Char}
    (hkept : lower name.reverse ∉ ["string".toList, "preamble".toList, "comment".toList])
    (st : State) : st.atOpening name '{' = st.goto (.beforeKey '}') := by
  simp only [List.mem_cons, List.not_mem_nil, or_false, not_or] at hkept
  obtain ⟨hstring, hpreamble, hcomment⟩ := hkept
  simp only [State.atOpening, true_or, if_true, hcomment, hstring, hpreamble, if_false]
  rfl

/-- Helper: the same between the name and the brace. -/
private theorem act_beforeOpening {name : List Char}
    (hkept : lower name.reverse ∉ ["string".toList, "preamble".toList, "comment".toList]) :
    (Mode.beforeOpening name).state.act '{' = .ok (Mode.beforeKey '}').state := by
  have hblank : isBlank '{' = false := by decide
  simp only [State.act, Mode.state, State.skipBlank, hblank, Bool.false_eq_true, if_false]
  exact atOpening_brace hkept _

/-- The head of a block in braces that is read is accepted when its type is a name. -/
theorem accepts_head {head : Head} (h : head.WellFormed) (hopener : head.opener = '{')
    (hkept : lower head.type ∉ ["string".toList, "preamble".toList, "comment".toList])
    (s : List Char) : Accepts .outside (head.text ++ s) ↔
      (∀ c ∈ head.type, isNameChar c = true) ∧ Accepts (.beforeKey '}') s := by
  obtain ⟨blanks, gap, ds, d, opener, hblanks, hd, hds, hgap, -, -⟩ := h
  obtain rfl : opener = '{' := hopener
  have hstart : isNameStart d = true := by
    simp [isNameStart, show d.isAlpha = true from hd]
  -- at sign, blanks, type, blanks and brace, one after the other
  have hat : Mode.outside.state.act '@' = .ok Mode.beforeName.state := rfl
  have hletter : Mode.beforeName.state.act d = .ok (Mode.inName [d]).state := by
    simp [State.act, Mode.state, State.skipBlank, State.goto, isBlank_of_isTypeStart hd, hstart]
  have hends : ∀ c ∈ (gap ++ '{' :: s).head?, isNameChar c = false := by
    intro c hc
    cases gap with
    | nil =>
      obtain rfl : '{' = c := by simpa using hc
      decide
    | cons b gap =>
      obtain rfl : b = c := by simpa using hc
      exact isNameChar_of_isBlank (hgap b List.mem_cons_self)
  have hname := tokenModes_inName.accepts_append (q := isTypeChar)
    (fun g c t hc _ => not_accepts_beforeOpening hc g t) hds hends [d]
  have hopening : (Mode.beforeOpening (ds.reverse ++ [d])).state.act '{' =
      .ok (Mode.beforeKey '}').state := by
    refine act_beforeOpening ?_
    rwa [List.reverse_append, List.reverse_reverse, List.reverse_singleton, List.singleton_append]
  simp only [List.cons_append, List.append_assoc, List.nil_append]
  rw [accepts_of_goto hat, accepts_append_allBlank (Mode.skips .beforeName rfl) hblanks,
    accepts_of_goto hletter, hname,
    accepts_append_allBlank (Mode.skips (.beforeOpening _) rfl) hgap, accepts_of_goto hopening,
    List.forall_mem_cons]
  simp [isNameChar_of_isNameStart hstart]

/-! ## §5 Blocks -/

/-- Whether the machine accepts an entry. -/
structure Admits (e : Entry) : Prop where
  type : ∀ c ∈ e.type.toList, isNameChar c = true
  key : ∀ k ∈ e.key, ∀ c ∈ k.toList, isKeyChar '}' c = true
  fields : ∀ f ∈ e.fields, AdmitsField f
  names : firstDuplicate? [] (e.fields.map (·.name.toList)) = none

/-- A body that begins with a key: a first part without a comma and an equals sign, which is the key
between blanks, and behind a comma the text of the fields. -/
theorem exists_of_splitKey {body key rest : List Char}
    (h : Block.splitKey body = (some key, rest)) : ∃ first, ',' ∉ first ∧ '=' ∉ first ∧
      trim first = key ∧ key ≠ [] ∧ (body = first ∧ rest = [] ∨ body = first ++ ',' :: rest) := by
  simp only [Block.splitKey] at h
  split at h
  · cases h
  · next hequals =>
    split at h
    · cases h
    · -- the key is what stands before the first comma, or the whole body
      next hempty =>
      cases h
      have hstop := head?_dropWhile_eq_false (· != ',') body
      have hsplit := List.takeWhile_append_dropWhile (p := (· != ',')) (l := body)
      refine ⟨body.takeWhile (· != ','), fun hc => ?_, hequals, rfl, by simpa using hempty, ?_⟩
      · simpa using List.mem_takeWhile_imp hc
      · cases hd : body.dropWhile (· != ',') with
        | nil =>
          rw [hd, List.append_nil] at hsplit
          exact .inl ⟨hsplit.symm, rfl⟩
        | cons c t =>
          rw [hd] at hstop hsplit
          obtain rfl : c = ',' := by simpa using hstop c rfl
          exact .inr hsplit.symm

theorem mem_of_mem_trim {c : Char} {s : List Char} (hc : isBlank c = false) :
    c ∈ s ↔ c ∈ trim s := by
  obtain ⟨w, w', hw, hw', hs⟩ := exists_eq_append_trim s
  constructor
  · intro h
    rw [hs] at h
    simpa [hw.not_mem hc, hw'.not_mem hc] using h
  · intro h
    rw [hs]
    simp [h]

/-- A block between braces whose key and fields can be read is accepted when it is closed and the
machine admits its entry, provided that no brace stands in the key. -/
theorem isOk_run_iff_admits {b : Block} (hb : b.WellFormed) (hopener : b.head.opener = '{')
    (hkept : ¬b.IsKept) {key rest : List Char} {fs : List Field}
    (hkey : Block.splitKey b.body = (some key, rest)) (hfree : BraceFree key)
    (hfields : readFields rest = .ok fs) :
    (run b.text).isOk = true ↔ b.closed = true ∧
      Admits ⟨String.ofList b.type, some (String.ofList key), fs⟩ := by
  obtain ⟨first, hcomma, hequals, rfl, hne, hbody⟩ := exists_of_splitKey hkey
  have hfirst : ∀ c ∈ first, c ∉ [',', '=', '}'] :=
    not_mem_keyMarks hcomma hequals fun h => hfree.2 ((mem_of_mem_trim (by decide)).1 h)
  have hadmits : Admits ⟨String.ofList b.type, some (String.ofList (trim first)), fs⟩ ↔
      (∀ c ∈ b.type, isNameChar c = true) ∧ (∀ c ∈ trim first, isKeyChar '}' c = true) ∧
        (∀ f ∈ fs, AdmitsField f) ∧ firstDuplicate? [] (fs.map (·.name.toList)) = none := by
    constructor
    · intro h
      exact ⟨by simpa using h.type, by simpa using h.key _ rfl, h.fields, h.names⟩
    · rintro ⟨htype, hkey, hfields, hnames⟩
      exact ⟨by simpa using htype, by simpa using hkey, hfields, hnames⟩
  -- the fields are read behind the comma, or there are none
  have hrest : Accepts (.beforeKey '}') (b.body ++ closing b.closed) ↔
      (∀ c ∈ trim first, isKeyChar '}' c = true) ∧
        Accepts (.beforeField '}' (.entry (trim first) [])) (rest ++ closing b.closed) := by
    rcases hbody with ⟨hbody, rfl⟩ | hbody
    · rw [hbody, accepts_key hfirst hne, List.nil_append]
      cases b.closed <;> simp [EndsKey, closing]
    · have hgoto : (Mode.beforeField '}' (.entry (trim first) [])).state.act ',' =
          .ok (Mode.beforeField '}' (.entry (trim first) [])).state := rfl
      rw [hbody, List.append_assoc, accepts_key hfirst hne (by simp [EndsKey]), List.cons_append,
        accepts_of_goto hgoto]
  rw [isOk_run_iff, text_eq_append_closing hopener, accepts_head hb.head hopener hkept, hrest,
    accepts_fields _ hfields, hadmits]
  simp only [Block.type, List.reverse_nil, List.nil_append]
  constructor
  · rintro ⟨htype, hchars, hfields, hclosed, hnames⟩
    exact ⟨hclosed, htype, hchars, hfields, hnames⟩
  · rintro ⟨hclosed, htype, hchars, hfields, hnames⟩
    exact ⟨htype, hchars, hfields, hclosed, hnames⟩

/-- An entry that is read from a block between braces, with a key in which no brace stands, is one
that the machine admits, and its block is closed. -/
theorem admits_of_entry {b : Block} (hb : b.WellFormed) (hopener : b.head.opener = '{')
    (hkept : ¬b.IsKept) {e : Entry} (he : b.entry run = .ok e) {k : String} (hk : e.key = some k)
    (hfree : BraceFree k.toList) : b.closed = true ∧ Admits e := by
  obtain ⟨hok, fs, hfields, rfl⟩ := Block.entry_eq_ok_iff.1 he
  -- the key of the entry is that of the body
  obtain ⟨key, hkey, rfl⟩ := Option.map_eq_some_iff.1 hk
  rw [String.toList_ofList] at hfree
  rw [hkey]
  exact (isOk_run_iff_admits hb hopener hkept (Prod.ext hkey rfl) hfree hfields).1 hok

/-! ## §6 Settled entries -/

theorem firstDuplicate?_eq_none_iff {seen names : List (List Char)} :
    firstDuplicate? seen names = none ↔
      (∀ name ∈ names, lower name ∉ seen) ∧ (names.map lower).Nodup := by
  induction names generalizing seen with
  | nil => simp [firstDuplicate?]
  | cons name names ih =>
    rw [firstDuplicate?]
    by_cases hseen : lower name ∈ seen
    · simp [hseen]
    · rw [if_neg (by simpa using hseen), ih, List.forall_mem_cons, List.map_cons, List.nodup_cons]
      -- that a later name is another one is said of the names on the left, of the list on the right
      have hmem : lower name ∉ names.map lower ↔ ∀ n ∈ names, lower n ≠ lower name := by
        simp [List.mem_map]
      rw [hmem]
      constructor
      · rintro ⟨hnames, hnodup⟩
        simp only [List.mem_cons, not_or] at hnames
        exact ⟨⟨hseen, fun n hn => (hnames n hn).2⟩, fun n hn => (hnames n hn).1, hnodup⟩
      · rintro ⟨⟨-, hnames⟩, hname, hnodup⟩
        refine ⟨fun n hn => ?_, hnodup⟩
        rw [List.mem_cons, not_or]
        exact ⟨hname n hn, hnames n hn⟩

section Settled

variable {p : List Char} (hp : IsIndent p)

include hp

/-- The braces of a text nest as before when it is moved. -/
theorem admitsPart_reindented_iff (v : Value) : AdmitsPart (v.reindented p) ↔ AdmitsPart v := by
  cases v with
  | text content =>
    simp only [Value.reindented, AdmitsPart, String.toList_ofList]
    rw [← nest?_filter_isMark, filter_isMark_reindent hp, nest?_filter_isMark]
  | _ => rfl

theorem admitsValue_reindented_iff (v : Value) : AdmitsValue (v.reindented p) ↔ AdmitsValue v := by
  rw [AdmitsValue, Value.parts_reindented, List.forall_mem_map]
  exact forall₂_congr fun u _ => admitsPart_reindented_iff hp u

end Settled

/-- Settling an entry does not matter to the machine. -/
theorem admits_settled_iff {l : Layout} (hl : l.KeepsNames) (e : Entry) :
    Admits (l.settled e) ↔ Admits e := by
  have hperm := l.arrange_fields_perm e
  -- layout moves the texts of values and puts the fields in another order, no more
  have hfields : (∀ f ∈ (l.settled e).fields, AdmitsField f) ↔ ∀ f ∈ e.fields, AdmitsField f := by
    simp only [Layout.settled, List.forall_mem_map, hperm.mem_iff]
    refine forall₂_congr fun f _ => ?_
    have hvalue :=
      admitsValue_reindented_iff (hl.isIndent_valueIndent (l.nameWidth e.fields) f) f.value
    exact ⟨fun h => ⟨h.name, hvalue.1 h.value⟩, fun h => ⟨h.name, hvalue.2 h.value⟩⟩
  have hnames : firstDuplicate? [] ((l.settled e).fields.map (·.name.toList)) = none ↔
      firstDuplicate? [] (e.fields.map (·.name.toList)) = none := by
    have hperm' : (((l.settled e).fields.map (·.name.toList)).map lower).Perm
        ((e.fields.map (·.name.toList)).map lower) := by
      simp only [Layout.settled, List.map_map]
      exact hperm.map _
    rw [firstDuplicate?_eq_none_iff, firstDuplicate?_eq_none_iff, hperm'.nodup_iff]
    simp
  constructor
  · rintro ⟨htype, hkey, hf, hn⟩
    exact ⟨htype, hkey, hfields.1 hf, hnames.1 hn⟩
  · rintro ⟨htype, hkey, hf, hn⟩
    exact ⟨htype, hkey, hfields.2 hf, hnames.2 hn⟩

/-- A written entry is accepted when the machine admits it, provided that no brace stands in its key
and its texts hold no delimiter. -/
theorem isOk_run_entryBlock_iff {l : Layout} (hl : l.KeepsNames) {e : Entry} (he : e.Writable)
    (hd : e.EnclosedBy l.delimiters) (hkept : ¬(entryBlock l e).IsKept) {k : String}
    (hk : e.key = some k) (hfree : BraceFree k.toList) :
    (run (entryBlock l e).text).isOk = true ↔ Admits e := by
  obtain ⟨rest, hsplit, hread⟩ := splitKey_entryBody hl he hd
  rw [hk] at hsplit
  -- the entry that is read from the block is the settled one
  have hentry : (⟨String.ofList (entryBlock l e).type, some (String.ofList k.toList),
      (l.settled e).fields⟩ : Entry) = l.settled e := by
    simp [Layout.settled, entryBlock, Block.type, hk]
  rw [isOk_run_iff_admits (wellFormed_entryBlock hl he) rfl hkept hsplit hfree hread, hentry,
    admits_settled_iff hl]
  exact and_iff_right rfl

end Bibliography.Check
