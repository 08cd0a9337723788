import Bibliography.Proofs.CheckBlanks
import Bibliography.Proofs.UpperNames
import Mathlib.Data.List.Forall2

/-!
# The columns of a written entry

Where everything stands in an entry that has been written. Every field begins a line with the tab,
its shown name, padding and the equals sign; if the equals signs are aligned, all of them stand in
the column that the longest name asks for. The further lines of a text stand where a text that is
the whole value begins, however deep theirs lies in the value: behind the tab they have one space
for every character from the name to the opening delimiter. Commas stand between the fields, and
behind the last one if the layout asks for it.

Padding is computed from the names as they are stored, before they are sorted and shown; the columns
are those of the text. They agree because upper case does not change the length of a name of ASCII
(`HasPlainName.length_shownName`), and the check admits no other names.

Main statement: `exists_laysOut_iff`, by which the text of an entry is of this form and no other
text is.
-/

namespace Bibliography

open Text

/-! ## §1 Columns -/

namespace Text

/-- The column behind a text: the number of characters on its last line. -/
def column (s : List Char) : Nat := (s.reverse.takeWhile (· != '\n')).length

theorem column_append_lineFeed (s : List Char) {line : List Char} (h : '\n' ∉ line) :
    column (s ++ '\n' :: line) = line.length := by
  have hline : ∀ c ∈ line.reverse, (c != '\n') = true := by
    intro c hc
    rw [bne_iff_ne]
    exact ne_of_mem_of_not_mem (List.mem_reverse.1 hc) h
  have hstop : ∀ c ∈ ('\n' :: s.reverse).head?, (c != '\n') = false := by simp
  have hrev : (s ++ '\n' :: line).reverse = line.reverse ++ '\n' :: s.reverse := by simp
  rw [column, hrev, takeWhile_append_of_stop hline hstop, List.length_reverse]

/-- The first part of a joined text has no separator in front, and all others have one. -/
theorem joinWith_cons (sep part : List Char) (parts : List (List Char)) :
    joinWith sep (part :: parts) = part ++ parts.flatMap (sep ++ ·) := by
  induction parts generalizing part with
  | nil => simp [joinWith]
  | cons next parts ih =>
    rw [joinWith_cons_cons, ih next, List.flatMap_cons, List.append_assoc, List.append_assoc]

end Text

/-! ## §2 Values -/

/-- How a value is written when the further lines of its texts stand behind an indentation. A text
keeps its lines, all but the first without the blanks in front of them. -/
inductive Value.IsWritten (d : Delimiters) (indent : List Char) : Value → List Char → Prop
  | text {content : String} {first : List Char} {rest : List (List Char)} {body : List Char} :
      breakLines content.toList = first :: rest →
      splitOn '\n' body = first :: rest.map (fun line => indent ++ trimLeft line) →
      IsWritten d indent (.text content) (d.left :: body ++ [d.right])
  | number {content : String} : IsWritten d indent (.number content) content.toList
  | abbreviation {content : String} : IsWritten d indent (.abbreviation content) content.toList
  | concat {parts : List Value} {texts : List (List Char)} :
      List.Forall₂ (IsWritten d indent) parts texts →
      IsWritten d indent (.concat parts) (joinWith " # ".toList texts)

namespace Value

variable {d : Delimiters} {indent : List Char}

theorem isWritten_text_iff (hp : indent ≠ []) (hline : IsLine indent) {content : String}
    {s : List Char} :
    IsWritten d indent (.text content) s ↔ s = (Value.text content).render d indent := by
  obtain ⟨first, rest, hlines⟩ := exists_breakLines content.toList
  have hbody : placeText indent content.toList =
      joinWith ['\n'] (first :: rest.map fun line => indent ++ trimLeft line) := by
    rw [placeText, if_neg (by simpa using hp), reindent_eq_of_breakLines hlines]
  have hmoved : ∀ line ∈ first :: rest.map (fun line => indent ++ trimLeft line),
      '\n' ∉ line := fun line hl => (isLine_of_mem_moved hline hlines line hl).1
  rw [Value.render, hbody]
  constructor
  · rintro (@⟨_, first', rest', body, hlines', hsplit⟩)
    -- a text is determined by its lines
    obtain ⟨rfl, rfl⟩ := List.cons.inj (hlines.symm.trans hlines')
    rw [← hsplit, joinWith_splitOn]
  · rintro rfl
    exact .text hlines (splitOn_joinWith (List.cons_ne_nil _ _) hmoved)

mutual

/-- A value is written in one way only. -/
theorem isWritten_iff (hp : indent ≠ []) (hline : IsLine indent) :
    ∀ (v : Value) {s : List Char}, IsWritten d indent v s ↔ s = v.render d indent
  | .text _, _ => isWritten_text_iff hp hline
  -- numbers and abbreviations are written as they stand, whatever the indentation
  | .number _, _ => ⟨fun h => by cases h; rfl, fun h => h ▸ .number⟩
  | .abbreviation _, _ => ⟨fun h => by cases h; rfl, fun h => h ▸ .abbreviation⟩
  -- a concatenation is written part by part, which is the mutual statement below
  | .concat parts, s => by
    rw [Value.render]
    constructor
    · intro h
      cases h with
      | concat h => rw [(forall₂_isWritten_iff hp hline parts).1 h]
    · rintro rfl
      exact .concat ((forall₂_isWritten_iff hp hline parts).2 rfl)

theorem forall₂_isWritten_iff (hp : indent ≠ []) (hline : IsLine indent) :
    ∀ (vs : List Value) {texts : List (List Char)},
      List.Forall₂ (IsWritten d indent) vs texts ↔ texts = Value.renderParts d indent vs
  | [], _ => List.forall₂_nil_left_iff
  | v :: vs, texts => by
    rw [List.forall₂_cons_left_iff, Value.renderParts]
    constructor
    · -- the first part's text and the others' texts are each fixed by their value
      rintro ⟨s, rest, hv, hvs, rfl⟩
      rw [(isWritten_iff hp hline v).1 hv, (forall₂_isWritten_iff hp hline vs).1 hvs]
    · rintro rfl
      have hv := (isWritten_iff hp hline v).2 rfl
      have hvs := (forall₂_isWritten_iff hp hline vs).2 rfl
      exact ⟨_, _, hv, hvs, rfl⟩

end

end Value

/-! ## §3 Fields -/

/-- The length of the longest name of an entry. -/
structure Entry.IsNameWidth (e : Entry) (n : Nat) : Prop where
  attained : ∃ f ∈ e.fields, f.name.length = n
  bound : ∀ f ∈ e.fields, f.name.length ≤ n

theorem Layout.nameWidth_of_not_aligned {l : Layout} (hl : l.alignOnEqual = false)
    (fields : List Field) : l.nameWidth fields = 0 :=
  if_neg (by rw [hl]; decide)

theorem Layout.isNameWidth_nameWidth {l : Layout} (hl : l.alignOnEqual = true) {e : Entry}
    (he : e.fields ≠ []) : e.IsNameWidth (l.nameWidth e.fields) := by
  have hne : e.fields.map (·.name.length) ≠ [] := by simpa using he
  obtain ⟨n, hn⟩ := Option.isSome_iff_exists.1 (List.isSome_max?_of_ne_nil hne)
  have hwidth : l.nameWidth e.fields = n := by
    rw [nameWidth, if_pos hl, List.foldl_max, hn, Option.getD_some, Nat.zero_max]
  obtain ⟨hmem, hle⟩ := List.max?_eq_some_iff.1 hn
  rw [hwidth]
  exact ⟨List.mem_map.1 hmem, List.forall_mem_map.1 hle⟩

theorem Entry.IsNameWidth.unique {e : Entry} {m n : Nat} (hm : e.IsNameWidth m)
    (hn : e.IsNameWidth n) : m = n := by
  obtain ⟨f, hf, rfl⟩ := hm.attained
  obtain ⟨g, hg, rfl⟩ := hn.attained
  exact Nat.le_antisymm (hn.bound f hf) (hm.bound g hg)

/-- A field with a name of ASCII without blanks. -/
structure Field.HasPlainName (f : Field) : Prop where
  ascii : IsAscii f.name.toList
  noBlank : ∀ c ∈ f.name.toList, isBlank c = false

instance (f : Field) : Decidable f.HasPlainName :=
  decidable_of_iff (IsAscii f.name.toList ∧ f.name.toList.all (fun c => !isBlank c) = true)
    ⟨fun h => ⟨h.1, by simpa using h.2⟩, fun h => ⟨h.ascii, by simpa using h.noBlank⟩⟩

/-- The check admits no other names. -/
theorem Check.AdmitsField.hasPlainName {f : Field} (h : AdmitsField f) : f.HasPlainName where
  ascii c hc := by
    have hmarks : IsAscii nameMarks := by decide +kernel
    have hname := h.name.2 c hc
    simp only [isNameChar, isNameStart, Bool.or_eq_true] at hname
    rcases hname with (halpha | hmark) | hdigit
    · exact toNat_lt_of_isAlphanum (Bool.or_eq_true_iff.2 (.inl halpha))
    · exact hmarks c (List.contains_iff_mem.1 hmark)
    · exact toNat_lt_of_isAlphanum (Bool.or_eq_true_iff.2 (.inr hdigit))
  noBlank c hc := isBlank_of_isNameChar (h.name.2 c hc)

namespace Field.HasPlainName

variable {f : Field}

theorem length_shownName (hf : f.HasPlainName) (l : Layout) :
    (l.shownName f.name.toList).length = f.name.length := by
  rw [Layout.shownName]
  split
  · rw [length_upper hf.ascii, String.length_toList]
  · exact String.length_toList

theorem not_mem_shownName (hf : f.HasPlainName) (l : Layout) :
    '\n' ∉ l.shownName f.name.toList := by
  have hname : '\n' ∉ f.name.toList := fun hc => absurd (hf.noBlank _ hc) (by decide)
  rw [Layout.shownName]
  split
  · rw [upper_of_ascii hf.ascii]
    intro hc
    obtain ⟨c, hmem, hc⟩ := List.mem_map.1 hc
    -- a line feed is no letter, so it would have stood in the stored name
    rcases toUpper_eq_or_isAlpha (hf.ascii c hmem) with hsame | hletter
    · rw [← hsame, hc] at hmem
      exact hname hmem
    · rw [hc] at hletter
      exact absurd hletter (by decide)
  · exact hname

end Field.HasPlainName

/-- A field as it stands in a text: its shown name, what follows this up to the equals sign, and its
value. -/
structure WrittenField where
  name : List Char
  padding : List Char
  value : List Char

namespace WrittenField

/-- What stands in front of the equals sign on the line that a field begins. -/
def lead (l : Layout) (w : WrittenField) : List Char := l.tab.toList ++ w.name ++ w.padding ++ [' ']

/-- A field from its tab to its end. -/
def text (l : Layout) (w : WrittenField) : List Char := w.lead l ++ '=' :: ' ' :: w.value

/-- What stands between the tab and the first character of a text. -/
def opening (l : Layout) (w : WrittenField) : List Char :=
  w.name ++ w.padding ++ assignment ++ [l.delimiters.left]

/-- How a field of an entry is written. -/
structure Follows (l : Layout) (e : Entry) (f : Field) (w : WrittenField) : Prop where
  name : w.name = l.shownName f.name.toList
  padding : ∀ c ∈ w.padding, c = ' '
  /-- Wherever the field begins a line, its equals sign stands behind the longest name. -/
  aligned : l.alignOnEqual = true → ∃ n, e.IsNameWidth n ∧
    ∀ before, column (before ++ '\n' :: w.lead l) = l.tab.length + n + 1
  unaligned : l.alignOnEqual = false → w.padding = []
  value : f.value.IsWritten l.delimiters (l.tab.toList ++ spaces (w.opening l).length) w.value

/-- A field of an entry, cut where its parts meet. -/
def ofField (l : Layout) (e : Entry) (f : Field) : WrittenField where
  name := l.shownName f.name.toList
  padding := spaces (l.nameWidth e.fields - f.name.toList.length)
  value := f.value.render l.delimiters
    (l.textIndent f.name.toList (l.nameWidth e.fields - f.name.toList.length))

theorem text_ofField (l : Layout) (e : Entry) (f : Field) :
    (ofField l e f).text l = l.renderField (l.nameWidth e.fields) f := by
  simp [text, lead, ofField, Layout.renderField, assignment]

section Follows

variable {l : Layout} {e : Entry} {f : Field} {w : WrittenField}
  (htab : IsLine l.tab.toList) (hname : f.HasPlainName)

include htab hname

/-- The column of the equals sign is the length of what stands in front of it. -/
theorem column_lead (hw : w.name = l.shownName f.name.toList) (hpad : ∀ c ∈ w.padding, c = ' ')
    (before : List Char) : column (before ++ '\n' :: w.lead l) =
      l.tab.length + f.name.length + w.padding.length + 1 := by
  have hpadding : '\n' ∉ w.padding := fun hc => absurd (hpad _ hc) (by decide)
  have hline : '\n' ∉ w.lead l := by
    simp [lead, htab.1, hw, hname.not_mem_shownName l, hpadding]
  rw [column_append_lineFeed before hline, lead, List.length_append, List.length_append,
    List.length_append, hw, hname.length_shownName l, String.length_toList, List.length_singleton]

omit htab in
/-- A text begins where its further lines do. -/
theorem indent_eq_textIndent (hw : w.name = l.shownName f.name.toList) :
    l.tab.toList ++ spaces (w.opening l).length =
      l.textIndent f.name.toList w.padding.length := by
  have hlength : (w.opening l).length =
      f.name.toList.length + w.padding.length + assignment.length + 1 := by
    rw [opening, List.length_append, List.length_append, List.length_append, hw,
      hname.length_shownName l, String.length_toList, List.length_singleton]
  rw [hlength, Layout.textIndent]

theorem length_padding (hf : f ∈ e.fields) (h : w.Follows l e f) :
    w.padding.length = l.nameWidth e.fields - f.name.length := by
  cases hl : l.alignOnEqual with
  | false =>
    rw [h.unaligned hl, Layout.nameWidth_of_not_aligned hl, Nat.zero_sub, List.length_nil]
  | true =>
    -- the column of the equals sign leaves one length for the padding
    obtain ⟨n, hn, hcolumn⟩ := h.aligned hl
    have hwidth := hn.unique (Layout.isNameWidth_nameWidth hl (List.ne_nil_of_mem hf))
    have hlead := column_lead htab hname h.name h.padding []
    have hcol := hcolumn []
    omega

omit hname in
theorem isWritten_value_iff {n : Nat} {value : List Char} :
    f.value.IsWritten l.delimiters (l.textIndent f.name.toList n) value ↔
      value = f.value.render l.delimiters (l.textIndent f.name.toList n) := by
  have hne : l.textIndent f.name.toList n ≠ [] := by simp [Layout.textIndent, spaces]
  exact Value.isWritten_iff hne (htab.append (isIndent_spaces _).isLine) f.value

theorem eq_ofField_of_follows (hf : f ∈ e.fields) (h : w.Follows l e f) : w = ofField l e f := by
  have hlength := length_padding htab hname hf h
  have hpadding := List.eq_replicate_iff.2 ⟨hlength, h.padding⟩
  have hvalue := h.value
  rw [indent_eq_textIndent hname h.name, isWritten_value_iff htab, hlength] at hvalue
  obtain ⟨name, padding, value⟩ := w
  obtain rfl := h.name
  obtain rfl := hpadding
  obtain rfl := hvalue
  rw [ofField, String.length_toList, spaces]

theorem follows_ofField (hf : f ∈ e.fields) : (ofField l e f).Follows l e f where
  name := rfl
  padding _ hc := List.eq_of_mem_replicate hc
  -- the sign's column is the tab, the widest name and the blank in front of the sign
  aligned hl := by
    have hwidth := Layout.isNameWidth_nameWidth hl (List.ne_nil_of_mem hf)
    have hle := hwidth.bound f hf
    refine ⟨_, hwidth, fun before => ?_⟩
    rw [column_lead htab hname rfl fun _ hc => List.eq_of_mem_replicate hc]
    simp only [ofField, spaces, List.length_replicate, String.length_toList]
    omega
  -- without alignment the width is zero and no padding is written
  unaligned hl := by
    rw [ofField, Layout.nameWidth_of_not_aligned hl, Nat.zero_sub]
    rfl
  value := by
    rw [indent_eq_textIndent hname rfl, isWritten_value_iff htab]
    simp only [ofField, spaces, List.length_replicate]

end Follows

end WrittenField

/-! ## §4 Entries -/

/-- How an entry is written: its fields follow its type and key, one to a line, with a comma in
front of every line and one behind the last if the layout asks for it. -/
structure Layout.LaysOut (l : Layout) (e : Entry) (ws : List WrittenField) (text : List Char) :
    Prop where
  fields : List.Forall₂ (WrittenField.Follows l e) (l.arrange e).fields ws
  text_eq : text = joinWith [',', '\n']
      (('@' :: e.type.toList ++ '{' :: (e.key.getD "").toList) :: ws.map (·.text l)) ++
    (if l.trailingComma then [','] else []) ++ ['\n', '}']

namespace Layout

variable {l : Layout} {e : Entry}

theorem forall₂_follows_iff (htab : IsLine l.tab.toList)
    (hnames : ∀ f ∈ e.fields, f.HasPlainName) {fields : List Field} (hfields : fields ⊆ e.fields)
    {ws : List WrittenField} : List.Forall₂ (WrittenField.Follows l e) fields ws ↔
      ws = fields.map (WrittenField.ofField l e) := by
  constructor
  · -- each written field is forced by its own field, in the order of the list
    intro h
    induction h with
    | nil => rfl
    | cons hw _ ih =>
      obtain ⟨hf, hrest⟩ := List.cons_subset.1 hfields
      rw [List.map_cons, ih hrest, WrittenField.eq_ofField_of_follows htab (hnames _ hf) hf hw]
  · rintro rfl
    rw [List.forall₂_map_right_iff, List.forall₂_same]
    exact fun f hf => WrittenField.follows_ofField htab (hnames f (hfields hf)) (hfields hf)

/-- An entry is written so and not otherwise: a text of which all this is true is the text of the
entry. Whatever is asked for, the tab is a line (`Settings.isIndent_tab_load`). -/
theorem exists_laysOut_iff (htab : IsLine l.tab.toList) (hnames : ∀ f ∈ e.fields, f.HasPlainName)
    (text : List Char) : (∃ ws, l.LaysOut e ws text) ↔ text = l.renderEntry e := by
  -- arranging brings in no new field, so the widest name is that of the entry
  have hsub : (l.arrange e).fields ⊆ e.fields := (l.arrange_fields_perm e).subset
  have hfields (fs : List Field) : (fs.map (WrittenField.ofField l e)).map (·.text l) =
      fs.map (l.renderField (l.nameWidth e.fields)) := by
    rw [List.map_map]
    exact List.map_congr_left fun f _ => WrittenField.text_ofField l e f
  -- the rendered entry is its head and its fields joined by comma and line end, then the end
  have hrender : l.renderEntry e = joinWith [',', '\n']
      (('@' :: e.type.toList ++ '{' :: (e.key.getD "").toList) ::
        ((l.arrange e).fields.map (WrittenField.ofField l e)).map (·.text l)) ++
      (if l.trailingComma then [','] else []) ++ ['\n', '}'] := by
    rw [hfields, joinWith_cons, List.flatMap_map]
    rfl
  rw [hrender]
  constructor
  · rintro ⟨ws, h⟩
    rw [h.text_eq, (forall₂_follows_iff htab hnames hsub).1 h.fields]
  · rintro rfl
    exact ⟨_, (forall₂_follows_iff htab hnames hsub).2 rfl, rfl⟩

/-- A layout with aligned equals signs, names in upper case and quotation marks. -/
def ruled : Layout := { Layout.default with
  tab := "\t", delimiters := .quotes, fieldCase := .upper, trailingComma := true,
  alignOnEqual := true }

/-- A talk whose note ends with a text of two lines. -/
def notedTalk : Entry := ⟨"misc", some "talk", [⟨"note", .concat [.abbreviation "jan",
  .text "first\r\n   second"]⟩, ⟨"booktitle", .text "Talks"⟩]⟩

/-- The second line of the note stands below the first character of the first one. -/
theorem laysOut_ruled_notedTalk : IsLine ruled.tab.toList ∧
    (∀ f ∈ notedTalk.fields, f.HasPlainName) ∧
    ∃ ws, ruled.LaysOut notedTalk ws ("@misc\x7btalk,\n\tNOTE      = jan # \"first\n" ++
      "\t             second\",\n\tBOOKTITLE = \"Talks\",\n\x7d").toList := by
  have htab : IsLine ruled.tab.toList := ⟨by decide, by decide⟩
  have hnames : ∀ f ∈ notedTalk.fields, f.HasPlainName := by decide +kernel
  exact ⟨htab, hnames, (exists_laysOut_iff htab hnames _).2 (by decide +kernel)⟩

end Layout

end Bibliography
