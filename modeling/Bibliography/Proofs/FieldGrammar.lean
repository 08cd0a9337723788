import Bibliography.Proofs.FieldReading

/-!
# The grammar of a list of fields

What a list of fields looks like in a text, said without the reader: fields with commas between
them, each of them a name, an equals sign and parts that are joined by number signs, with blanks
wherever two of these meet. A part is a token, a text in braces or a text in quotation marks.

The trees of the grammar hold the text of every piece together with what makes it one, so that each
tree is the source of some list of fields. A token is followed by blanks, by a mark or by the end,
so it is always a longest run of its characters. The reader accepts exactly the texts of trees and
returns the fields of the tree; on any other text it reports a fault.

Main statement: `readFields_iff`.
-/

namespace Bibliography

open Text

/-! ## §1 Trees -/

/-- A text that can stand between quotation marks: it opens as many braces as it closes, and before
each quotation mark in it these numbers differ. -/
structure Quotable (q : List Char) : Prop where
  depth : braceDepth q = 0
  marks : ∀ p r, q = p ++ '"' :: r → braceDepth p ≠ 0

theorem quotable_iff {q : List Char} : Quotable q ↔ NeverCloses '"' 0 q ∧ braceDepth q = 0 := by
  simp only [neverCloses_iff_forall, Int.zero_add]
  exact ⟨fun h => ⟨h.marks, h.depth⟩, fun h => ⟨h.2, h.1⟩⟩

instance (q : List Char) : Decidable (Quotable q) := decidable_of_iff _ quotable_iff.symm

/-- A run of blanks, possibly none. -/
structure Source.Blanks where
  chars : List Char
  allBlank : AllBlank chars

/-- A token. -/
structure Source.Token where
  chars : List Char
  isToken : IsToken chars

/-- A part of a value. -/
inductive Source.Part where
  | token (t : Token)
  | braced (content : List Char) (h : Balanced content)
  | quoted (content : List Char) (h : Quotable content)

/-- The parts of a value with the blanks around each of them, number signs between them. -/
inductive Source.Parts where
  | last (before : Blanks) (part : Part) (behind : Blanks)
  | cons (before : Blanks) (part : Part) (behind : Blanks) (rest : Parts)

/-- A field with the blanks before it, behind its name and around the parts of its value. -/
structure Source.Field where
  before : Blanks
  name : Token
  behind : Blanks
  parts : Parts

/-- A list of fields with commas between them. Behind a comma there may be blanks alone, which makes
it a comma behind the last field. -/
inductive Source.Fields where
  | blank (w : Blanks)
  | last (f : Source.Field)
  | cons (f : Source.Field) (rest : Fields)

/-! ## §2 The text of a tree, and what it stands for -/

namespace Source

def Part.text : Part → List Char
  | .token t => t.chars
  | .braced content _ => '{' :: content ++ ['}']
  | .quoted content _ => '"' :: content ++ ['"']

/-- A token of digits is a number, and any other token an abbreviation. -/
def Part.value : Part → Value
  | .token t =>
    if t.chars.all isDigit then .number (String.ofList t.chars)
    else .abbreviation (String.ofList t.chars)
  | .braced content _ => .text (String.ofList content)
  | .quoted content _ => .text (String.ofList content)

def Parts.text : Parts → List Char
  | .last before part behind => before.chars ++ (part.text ++ behind.chars)
  | .cons before part behind rest =>
    before.chars ++ (part.text ++ (behind.chars ++ '#' :: rest.text))

def Parts.values : Parts → List Value
  | .last _ part _ => [part.value]
  | .cons _ part _ rest => part.value :: rest.values

/-- Two or more parts are joined; a single one stands for itself. -/
def Parts.value : Parts → Value
  | .last _ part _ => part.value
  | .cons _ part _ rest => .concat (part.value :: rest.values)

def Field.text (f : Field) : List Char :=
  f.before.chars ++ (f.name.chars ++ (f.behind.chars ++ '=' :: f.parts.text))

def Field.field (f : Field) : Bibliography.Field :=
  ⟨String.ofList f.name.chars, f.parts.value⟩

def Fields.text : Fields → List Char
  | .blank w => w.chars
  | .last f => f.text
  | .cons f rest => f.text ++ ',' :: rest.text

def Fields.fields : Fields → List Bibliography.Field
  | .blank _ => []
  | .last f => [f.field]
  | .cons f rest => f.field :: rest.fields

theorem Parts.ofParts_values (ps : Parts) : Value.ofParts ps.values = ps.value := by
  cases ps with
  | last before part behind => rfl
  | cons before part behind rest => cases rest <;> rfl

/-- A text is what is left of it when its first blanks are removed, and these blanks. -/
theorem exists_blanks_append_trimLeft (s : List Char) : ∃ w : Blanks, s = w.chars ++ trimLeft s :=
  ⟨⟨s.takeWhile isBlank, allBlank_takeWhile s⟩, (takeWhile_blank_append_trimLeft s).symm⟩

/-! ## §3 What is read is the text of a tree -/

theorem exists_part_of_readPart {s rest : List Char} {v : Value}
    (h : readPart s = .ok (v, rest)) : ∃ p : Part, s = p.text ++ rest ∧ p.value = v := by
  cases readsPart_of_readPart h with
  | @braced content rest hbalanced =>
    exact ⟨.braced content hbalanced, by simp [Part.text], rfl⟩
  | @quoted content rest hnever hdepth =>
    exact ⟨.quoted content (quotable_iff.2 ⟨hnever, hdepth⟩), by simp [Part.text], rfl⟩
  | @token c s hc =>
    refine ⟨.token ⟨c :: s.takeWhile isTokenChar, isToken_takeWhile hc s⟩, ?_, rfl⟩
    rw [Part.text, List.cons_append, List.takeWhile_append_dropWhile]

/-- A part stands in a text with blanks before it and behind it. -/
theorem exists_blanks_part_of_readPart {s rest : List Char} {v : Value}
    (h : readPart (trimLeft s) = .ok (v, rest)) : ∃ (w : Blanks) (p : Part) (w' : Blanks),
      s = w.chars ++ (p.text ++ (w'.chars ++ trimLeft rest)) ∧ p.value = v := by
  obtain ⟨w, hs⟩ := exists_blanks_append_trimLeft s
  obtain ⟨p, hp, hv⟩ := exists_part_of_readPart h
  obtain ⟨w', hrest⟩ := exists_blanks_append_trimLeft rest
  exact ⟨w, p, w', by rw [← hrest, ← hp, ← hs], hv⟩

theorem exists_parts_of_readParts {s rest : List Char} {vs : List Value}
    (h : readParts s = .ok (vs, rest)) :
    ∃ ps : Parts, s = ps.text ++ rest ∧ ps.values = vs := by
  -- along the recursion of the reader: blanks, a part, blanks, and perhaps a sign and more parts
  fun_induction readParts s generalizing vs rest with
  | case1 => cases h
  | case2 s v r hpart hr =>
    cases h
    obtain ⟨w, p, w', hs, hv⟩ := exists_blanks_part_of_readPart hpart
    refine ⟨.last w p w', ?_, by rw [Parts.values, hv]⟩
    rw [hs, hr]
    simp [Parts.text]
  | case3 => cases h
  | case4 s v r hpart rest' ws r' hparts hr ih =>
    cases h
    obtain ⟨w, p, w', hs, hv⟩ := exists_blanks_part_of_readPart hpart
    obtain ⟨ps, hps, hvs⟩ := ih hparts
    refine ⟨.cons w p w' ps, ?_, by rw [Parts.values, hv, hvs]⟩
    rw [hs, hr, hps]
    simp [Parts.text]
  | case5 s v r hpart c rest' hr hc =>
    cases h
    obtain ⟨w, p, w', hs, hv⟩ := exists_blanks_part_of_readPart hpart
    refine ⟨.last w p w', ?_, by rw [Parts.values, hv]⟩
    rw [hs, hr]
    simp [Parts.text]

theorem exists_parts_of_readValue {s rest : List Char} {v : Value}
    (h : readValue s = .ok (v, rest)) : ∃ ps : Parts, s = ps.text ++ rest ∧ ps.value = v := by
  obtain ⟨vs, hparts, rfl⟩ := exists_of_readValue h
  obtain ⟨ps, hps, rfl⟩ := exists_parts_of_readParts hparts
  exact ⟨ps, hps, ps.ofParts_values.symm⟩

theorem exists_field_of_readField {s rest : List Char} {f : Bibliography.Field}
    (h : readField (trimLeft s) = .ok (f, rest)) :
    ∃ t : Field, s = t.text ++ rest ∧ t.field = f := by
  obtain ⟨w, hs⟩ := exists_blanks_append_trimLeft s
  obtain ⟨c, u, r, v, hcu, hc, hr, hv, rfl⟩ := exists_of_readField h
  obtain ⟨w', hu⟩ := exists_blanks_append_trimLeft (u.dropWhile isTokenChar)
  obtain ⟨ps, hps, rfl⟩ := exists_parts_of_readValue hv
  refine ⟨⟨w, ⟨c :: u.takeWhile isTokenChar, isToken_takeWhile hc u⟩, w', ps⟩, ?_, rfl⟩
  -- behind the name stand blanks, the equals sign and the parts of the value
  have hname : u = u.takeWhile isTokenChar ++ (w'.chars ++ '=' :: (ps.text ++ rest)) := by
    rw [← hps, ← hr, ← hu, List.takeWhile_append_dropWhile]
  rw [hs, hcu]
  conv => lhs; rw [hname]
  simp [Field.text]

theorem exists_fields_of_readFields {s : List Char} {fs : List Bibliography.Field}
    (h : readFields s = .ok fs) : ∃ t : Fields, t.text = s ∧ t.fields = fs := by
  fun_induction readFields s generalizing fs with
  -- blanks alone are the tree without fields
  | case1 s hs =>
    cases h
    exact ⟨.blank ⟨s, trimLeft_eq_nil_iff.1 hs⟩, rfl, rfl⟩
  | case2 => cases h
  | case3 s c t hs f hf =>
    -- a field at the end is the last one of its tree
    cases h
    rw [← hs] at hf
    obtain ⟨t, ht, rfl⟩ := exists_field_of_readField hf
    exact ⟨.last t, by rw [ht, List.append_nil]; rfl, rfl⟩
  | case4 => cases h
  | case5 s c t hs f rest fs' hfs hf ih =>
    -- a comma joins the field to the tree of what stands behind it
    cases h
    rw [← hs] at hf
    obtain ⟨t, ht, rfl⟩ := exists_field_of_readField hf
    obtain ⟨ts, hts, rfl⟩ := ih hfs
    exact ⟨.cons t ts, by rw [ht, ← hts]; rfl, rfl⟩
  | case6 => cases h

/-! ## §4 The text of a tree is read -/

theorem readPart_text (p : Part) {rest : List Char}
    (hrest : ∀ c ∈ rest.head?, isTokenChar c = false) :
    readPart (p.text ++ rest) = .ok (p.value, rest) := by
  cases p with
  | token t => exact readPart_token t.isToken hrest
  | braced content h =>
    have hsplit := h.splitAtClose rest
    simp [Part.text, Part.value, readPart, hsplit]
  | quoted content h =>
    -- a quoted text never closes its mark before its end
    obtain ⟨hnever, hdepth⟩ := quotable_iff.1 h
    have hsplit : splitAtClose '"' 0 (content ++ '"' :: rest) = some (content, rest) :=
      splitAtClose_eq_some_iff.2 ⟨rfl, hnever, by rw [hdepth]; rfl⟩
    simp [Part.text, Part.value, readPart, hsplit]

/-- A part does not begin with a blank. -/
theorem trimLeft_text_append (p : Part) (rest : List Char) :
    trimLeft (p.text ++ rest) = p.text ++ rest := by
  cases p with
  | token t =>
    obtain ⟨hne, ht⟩ := t.isToken
    obtain ⟨c, s, hs⟩ := List.exists_cons_of_ne_nil hne
    rw [Part.text, hs]
    exact trimLeft_of_head (isBlank_of_isTokenChar (ht c (by rw [hs]; exact List.mem_cons_self)))
  | braced content h => exact trimLeft_of_head (by decide)
  | quoted content h => exact trimLeft_of_head (by decide)

/-- What follows a value: a comma, if anything. -/
def EndsValue (rest : List Char) : Prop := ∀ c ∈ rest.head?, c = ','

theorem endsValue_nil : EndsValue [] := by simp [EndsValue]

theorem endsValue_comma (rest : List Char) : EndsValue (',' :: rest) := by simp [EndsValue]

theorem EndsValue.trimLeft_eq {rest : List Char} (h : EndsValue rest) : trimLeft rest = rest := by
  cases rest with
  | nil => rfl
  | cons c rest =>
    obtain rfl := h c rfl
    exact trimLeft_of_head (by decide)

/-- Helper: what cannot continue a token behind blanks cannot do so with them. -/
private theorem isTokenChar_head?_blanks (w : Blanks) {rest : List Char}
    (hrest : ∀ c ∈ rest.head?, isTokenChar c = false) :
    ∀ c ∈ (w.chars ++ rest).head?, isTokenChar c = false := by
  obtain ⟨chars, hblank⟩ := w
  cases chars with
  | nil => exact hrest
  | cons b chars => simpa using isTokenChar_of_isBlank (hblank b List.mem_cons_self)

theorem readPart_blanks_text (before : Blanks) (part : Part) (behind : Blanks) {rest : List Char}
    (hrest : ∀ c ∈ rest.head?, isTokenChar c = false) :
    readPart (trimLeft (before.chars ++ (part.text ++ (behind.chars ++ rest)))) =
      .ok (part.value, behind.chars ++ rest) := by
  rw [trimLeft_append_left before.allBlank, trimLeft_text_append]
  exact readPart_text part (isTokenChar_head?_blanks behind hrest)

theorem readParts_text (ps : Parts) {rest : List Char} (hrest : EndsValue rest) :
    readParts (ps.text ++ rest) = .ok (ps.values, rest) := by
  -- behind the blanks of a part stands the number sign or the end of the value
  induction ps with
  | last before part behind =>
    have hstop : ∀ c ∈ rest.head?, isTokenChar c = false := by
      intro c hc
      rw [hrest c hc]
      decide
    have hpart := readPart_blanks_text before part behind hstop
    have hend : trimLeft (behind.chars ++ rest) = rest := by
      rw [trimLeft_append_left behind.allBlank, hrest.trimLeft_eq]
    have hsign : ∀ c ∈ (trimLeft (behind.chars ++ rest)).head?, c ≠ '#' := by
      intro c hc
      rw [hend] at hc
      rw [hrest c hc]
      decide
    have hlast := readParts_last hpart hsign
    rw [hend] at hlast
    simpa only [Parts.text, Parts.values, List.append_assoc] using hlast
  | cons before part behind more ih =>
    have hstop : ∀ c ∈ ('#' :: (more.text ++ rest)).head?, isTokenChar c = false := by
      simp only [List.head?_cons, Option.mem_def, Option.some.injEq, forall_eq']
      decide
    have hpart := readPart_blanks_text before part behind hstop
    have hsign : trimLeft (behind.chars ++ '#' :: (more.text ++ rest)) =
        '#' :: (more.text ++ rest) := by
      rw [trimLeft_append_left behind.allBlank, trimLeft_of_head (by decide)]
    have hcons := readParts_cons hpart hsign ih
    simpa only [Parts.text, Parts.values, List.append_assoc, List.cons_append] using hcons

theorem readField_text (f : Field) {rest : List Char} (hrest : EndsValue rest) :
    readField (trimLeft (f.text ++ rest)) = .ok (f.field, rest) := by
  have hvalue : readValue (f.parts.text ++ rest) = .ok (f.parts.value, rest) := by
    rw [readValue, readParts_text f.parts hrest, ← f.parts.ofParts_values]
  have htrim := trimLeft_text_append (.token f.name)
    (f.behind.chars ++ '=' :: (f.parts.text ++ rest))
  rw [Part.text] at htrim
  have hread := readField_append f.name.isToken f.behind.allBlank hvalue
  rw [← htrim, ← trimLeft_append_left f.before.allBlank] at hread
  simpa only [Field.text, Field.field, List.append_assoc, List.cons_append] using hread

theorem readFields_text (t : Fields) : readFields t.text = .ok t.fields := by
  induction t with
  | blank w => exact readFields_of_allBlank w.allBlank
  | last f =>
    have hread := readField_text f endsValue_nil
    rw [List.append_nil] at hread
    exact readFields_last hread
  | cons f rest ih => exact readFields_cons (readField_text f (endsValue_comma rest.text)) ih

end Source

/-! ## §5 The reader and the grammar -/

theorem readFields_eq_ok_iff {s : List Char} {fs : List Field} :
    readFields s = .ok fs ↔ ∃ t : Source.Fields, t.text = s ∧ t.fields = fs := by
  constructor
  · exact Source.exists_fields_of_readFields
  · rintro ⟨t, rfl, rfl⟩
    exact Source.readFields_text t

/-- A text has one reading, whichever tree it is taken for. -/
theorem Source.Fields.fields_eq_of_text_eq {t t' : Source.Fields} (h : t.text = t'.text) :
    t.fields = t'.fields := by
  have hread := readFields_eq_ok_iff.2 ⟨t, rfl, rfl⟩
  have hread' := readFields_eq_ok_iff.2 ⟨t', rfl, rfl⟩
  rw [h, hread'] at hread
  exact (Except.ok.inj hread).symm

/-- From any position on, a list of fields is read exactly when it follows the grammar, and what is
read are the fields of its tree. Everything else is reported as a fault. -/
theorem readFields_iff (body : List Char) (position : Nat) :
    (∀ fs, readFields (body.drop position) = .ok fs ↔
      ∃ t : Source.Fields, t.text = body.drop position ∧ t.fields = fs) ∧
    ((∃ fault, readFields (body.drop position) = .error fault) ↔
      ∀ t : Source.Fields, t.text ≠ body.drop position) := by
  refine ⟨fun fs => readFields_eq_ok_iff, ?_⟩
  cases hread : readFields (body.drop position) with
  | error fault =>
    -- a tree of this text would be read
    refine iff_of_true ⟨fault, rfl⟩ fun t ht => ?_
    rw [readFields_eq_ok_iff.2 ⟨t, ht, rfl⟩] at hread
    cases hread
  | ok fs =>
    -- the fields that were read come from a tree
    obtain ⟨t, ht, -⟩ := readFields_eq_ok_iff.1 hread
    exact iff_of_false (fun ⟨fault, hfault⟩ => by cases hfault) fun hnone => hnone t ht

end Bibliography
