import Bibliography.Proofs.FieldOrder
import Bibliography.Proofs.FieldReading
import Bibliography.Proofs.Indentation
import Bibliography.Proofs.Segmentation

/-!
# Entries as blocks

Writing an entry settles it: its fields are in the order of the layout and its texts are moved to
the column where they are written. A settled entry is written like the entry it comes from. With
names as they are, what is written is a block, and where no text holds the delimiter that closes it,
which is never so between braces, the entry that this block holds is the settled one.

Main statements: settling does not change what is written (`renderEntry_settled`), what is written
is a block (`text_entryBlock`, `wellFormed_entryBlock`), and the block holds the settled entry
(`entry_entryBlock`).
-/

namespace Bibliography

open Text

/-! ## §1 Values that are written at an indentation -/

namespace Value

theorem Plain.reindented {v : Value} (hv : v.Plain) {p : List Char} (hp : IsIndent p) :
    (v.reindented p).Plain := by
  cases hv with
  | text h =>
    refine .text ?_
    rw [String.toList_ofList]
    exact h.of_filter_eq (filter_isMark_reindent hp _)
  | number h hd => exact .number h hd
  | abbreviation h hd => exact .abbreviation h hd

theorem Writable.reindented {v : Value} (hv : v.Writable) {p : List Char} (hp : IsIndent p) :
    (v.reindented p).Writable := by
  cases hv with
  | plain h => exact .plain (h.reindented hp)
  | concat hlen h =>
    simp only [Value.reindented, Value.reindentedParts_eq_map]
    refine .concat (by rwa [List.length_map]) fun v hv => ?_
    obtain ⟨u, hu, rfl⟩ := List.mem_map.1 hv
    exact (h u hu).reindented hp

theorem text?_reindented (p : List Char) (v : Value) :
    (v.reindented p).text? = v.text?.map (reindent p) := by
  cases v <;> simp [reindented, text?]

theorem parts_reindented (p : List Char) (v : Value) :
    (v.reindented p).parts = v.parts.map (Value.reindented p) := by
  cases v with
  | concat parts => exact reindentedParts_eq_map p parts
  | _ => rfl

theorem texts_reindented (p : List Char) (v : Value) :
    (v.reindented p).texts = v.texts.map (reindent p) := by
  rw [texts, parts_reindented, texts, List.filterMap_map, List.map_filterMap]
  exact List.filterMap_congr fun u _ => text?_reindented p u

/-- The delimiters of a text stay where they are when it is moved. -/
theorem enclosedBy_reindented_iff (d : Delimiters) {p : List Char} (hp : IsIndent p) (v : Value) :
    (v.reindented p).EnclosedBy d ↔ v.EnclosedBy d := by
  have hmark : isMark d.right = true := by cases d <;> decide
  rw [EnclosedBy, texts_reindented, List.forall_mem_map]
  refine forall₂_congr fun s _ => ?_
  rw [← neverCloses_filter_isMark hmark, filter_isMark_reindent hp, neverCloses_filter_isMark hmark]

theorem Plain.balanced_render {v : Value} (hv : v.Plain) (d : Delimiters) :
    Balanced (v.render d []) := by
  cases hv with
  | text h =>
    cases d with
    | braces => exact h.braced
    | quotes =>
      have hquote : Balanced ['"'] := .of_braceFree (by decide)
      exact (hquote.append h).append hquote
  | number h => exact .of_braceFree h.braceFree
  | abbreviation h => exact .of_braceFree h.braceFree

theorem balanced_renderParts {parts : List Value} (h : ∀ v ∈ parts, v.Plain) (d : Delimiters) :
    Balanced (joinWith " # ".toList (Value.renderParts d [] parts)) := by
  induction parts with
  | nil => exact .nil
  | cons v parts ih =>
    have hv := (h v List.mem_cons_self).balanced_render d
    cases parts with
    | nil => exact hv
    | cons u parts =>
      -- the sign between two parts holds no brace
      have hsign : Balanced " # ".toList := .of_braceFree (by decide)
      have hrest := ih fun w hw => h w (List.mem_cons_of_mem _ hw)
      exact (hv.append hsign).append hrest

theorem Writable.balanced_render {v : Value} (hv : v.Writable) (d : Delimiters) :
    Balanced (v.render d []) := by
  cases hv with
  | plain h => exact h.balanced_render d
  | concat _ h => exact balanced_renderParts h d

end Value

/-! ## §2 Layouts that can be read back -/

/-- A layout that leaves names as they are and indents by spaces and tabs, whatever the delimiters
around its texts. -/
structure Layout.KeepsNames (l : Layout) : Prop where
  fieldCase : l.fieldCase = .lower
  tab : IsIndent l.tab.toList

/-- A layout whose entries can be read back: texts between braces, names as they are, and an
indentation of spaces and tabs, which is what settings hold (`Settings.isIndent_tab_load`). -/
structure Layout.ReadsBack (l : Layout) : Prop where
  delimiters : l.delimiters = .braces
  fieldCase : l.fieldCase = .lower
  tab : IsIndent l.tab.toList

theorem Layout.readsBack_default : Layout.default.ReadsBack where
  delimiters := rfl
  fieldCase := rfl
  tab := by simp [Layout.default, IsIndent]

/-- The indentation of the texts of a field, whose name is brought to a width. -/
def Layout.valueIndent (l : Layout) (width : Nat) (f : Field) : List Char :=
  l.textIndent f.name.toList (width - f.name.toList.length)

theorem Layout.valueIndent_ne_nil (l : Layout) (width : Nat) (f : Field) :
    l.valueIndent width f ≠ [] := by
  intro h
  have hlen := congrArg List.length h
  simp [valueIndent, textIndent, spaces] at hlen

theorem Layout.ReadsBack.keepsNames {l : Layout} (hl : l.ReadsBack) : l.KeepsNames :=
  ⟨hl.fieldCase, hl.tab⟩

theorem Layout.KeepsNames.isIndent_valueIndent {l : Layout} (hl : l.KeepsNames) (width : Nat)
    (f : Field) : IsIndent (l.valueIndent width f) :=
  hl.tab.append_spaces _

/-! ## §3 Settled entries -/

namespace Layout

/-- A field with its texts where they are written. -/
def settledField (l : Layout) (width : Nat) (f : Field) : Field :=
  ⟨f.name, f.value.reindented (l.valueIndent width f)⟩

/-- An entry with its fields in the order in which they are written, and their texts where they are
written. -/
def settled (l : Layout) (e : Entry) : Entry :=
  { e with fields := (l.arrange e).fields.map (l.settledField (l.nameWidth e.fields)) }

theorem renderField_settledField {l : Layout} (hl : l.KeepsNames) (width : Nat) (f : Field) :
    l.renderField width (l.settledField width f) = l.renderField width f := by
  have hp := l.valueIndent_ne_nil width f
  have hvalue : (f.value.reindented (l.valueIndent width f)).render l.delimiters
      (l.valueIndent width f) = f.value.render l.delimiters (l.valueIndent width f) := by
    rw [Value.render_reindented _ hp, Value.reindented_reindented (hl.isIndent_valueIndent width f),
      ← Value.render_reindented _ hp]
  unfold valueIndent at hvalue
  simp only [renderField, settledField, valueIndent, hvalue]

theorem nameWidth_settled (l : Layout) (e : Entry) :
    l.nameWidth (l.settled e).fields = l.nameWidth e.fields := by
  refine nameWidth_eq_of_perm l ?_
  have hnames : ((l.settled e).fields.map (·.name)) = (l.arrange e).fields.map (·.name) := by
    simp only [settled, List.map_map]
    rfl
  rw [hnames]
  exact (l.arrange_fields_perm e).map _

theorem arrange_settled_fields (l : Layout) (e : Entry) :
    (l.arrange (l.settled e)).fields = (l.settled e).fields :=
  arrange_map_fields l (g := l.settledField (l.nameWidth e.fields)) (fun _ => rfl) e

/-- A settled entry is written like the entry that it comes from. -/
theorem renderEntry_settled {l : Layout} (hl : l.KeepsNames) (e : Entry) :
    l.renderEntry (l.settled e) = l.renderEntry e := by
  have hfields : (l.settled e).fields.flatMap
      (fun f => ',' :: '\n' :: l.renderField (l.nameWidth e.fields) f) =
      (l.arrange e).fields.flatMap
        (fun f => ',' :: '\n' :: l.renderField (l.nameWidth e.fields) f) := by
    simp only [settled, List.flatMap_map, renderField_settledField hl]
  simp only [renderEntry, nameWidth_settled, arrange_settled_fields, hfields]
  rfl

end Layout

/-! ## §4 Reading the fields of an entry -/

section Fields

variable {l : Layout} (hl : l.KeepsNames) (width : Nat)

include hl

/-- A field is read back with its texts where they are written. -/
theorem readField_renderField {f : Field} (hf : f.Writable)
    (hd : f.value.EnclosedBy l.delimiters) {rest : List Char}
    (hrest : ∀ c ∈ rest.head?, isTokenChar c = false)
    (hsign : ∀ c ∈ (trimLeft rest).head?, c ≠ '#') :
    readField (trimLeft (l.renderField width f ++ rest)) =
      .ok (l.settledField width f, trimLeft rest) := by
  obtain ⟨name, value⟩ := f
  obtain ⟨hname, hvalue⟩ := hf
  have hp := l.valueIndent_ne_nil width ⟨name, value⟩
  have hindent := hl.isIndent_valueIndent width ⟨name, value⟩
  generalize hq : l.valueIndent width ⟨name, value⟩ = q at hp hindent
  have htext : l.renderField width ⟨name, value⟩ ++ rest = l.tab.toList ++ (name.toList ++
      ((spaces (width - name.toList.length) ++ [' ']) ++ '=' ::
        ([' '] ++ ((value.reindented q).render l.delimiters [] ++ rest)))) := by
    have hassign : assignment = [' ', '=', ' '] := rfl
    rw [Layout.valueIndent] at hq
    rw [Layout.renderField, Layout.shownName, hl.fieldCase, hq,
      Value.render_reindented _ hp, hassign]
    simp only [List.append_assoc, List.cons_append, List.nil_append]
  have hblank : AllBlank [' '] := .singleton (by decide)
  have hpad : AllBlank (spaces (width - name.toList.length) ++ [' ']) :=
    (isIndent_spaces _).allBlank.append hblank
  have hread := readValue_render (hvalue.reindented hindent)
    ((Value.enclosedBy_reindented_iff _ hindent value).2 hd) hblank hrest hsign
  -- the name is where the blanks of the tab end
  have htrim : ∀ t, trimLeft (name.toList ++ t) = name.toList ++ t := by
    intro t
    obtain ⟨c, s, hs⟩ := List.exists_cons_of_ne_nil hname.1
    rw [hs]
    exact trimLeft_of_head (isBlank_of_isTokenChar (hname.2 c (by simp [hs])))
  rw [htext, trimLeft_append_left hl.tab.allBlank, htrim, readField_append hname hpad hread,
    String.ofList_toList, Layout.settledField, hq]

/-- The fields of an entry as they are written. -/
def fieldsText (l : Layout) (width : Nat) (fs : List Field) : List Char :=
  fs.flatMap fun f => ',' :: '\n' :: l.renderField width f

/-- What stands behind the last field of an entry. -/
def fieldsEnd (l : Layout) : List Char := (if l.trailingComma then [','] else []) ++ ['\n']

omit hl in
theorem fieldsEnd_cases (l : Layout) : fieldsEnd l = [',', '\n'] ∨ fieldsEnd l = ['\n'] := by
  unfold fieldsEnd
  cases l.trailingComma with
  | true => exact .inl rfl
  | false => exact .inr rfl

omit hl in
/-- The text of the fields begins with a comma, unless there is nothing but the end of a line. -/
theorem fieldsText_cases (l : Layout) (width : Nat) (fs : List Field) :
    (∃ rest, fieldsText l width fs ++ fieldsEnd l = ',' :: rest) ∨
      (fs = [] ∧ fieldsText l width fs ++ fieldsEnd l = ['\n']) := by
  cases fs with
  | nil =>
    rcases fieldsEnd_cases l with hend | hend
    · exact .inl ⟨['\n'], hend⟩
    · exact .inr ⟨rfl, hend⟩
  | cons f fs => exact .inl ⟨_, rfl⟩

/-- The fields of an entry are read back, with and without a comma behind the last. -/
theorem readFields_fieldsText {fs : List Field} (hfs : ∀ f ∈ fs, f.Writable)
    (hd : ∀ f ∈ fs, f.value.EnclosedBy l.delimiters) {rest : List Char}
    (h : fieldsText l width fs ++ fieldsEnd l = ',' :: rest) :
    readFields rest = .ok (fs.map (l.settledField width)) := by
  have hfeed : AllBlank ['\n'] := .singleton (by decide)
  induction fs generalizing rest with
  | nil =>
    -- the comma was that of the end, and behind it there are only blanks
    have hend : fieldsEnd l = ',' :: rest := h
    rcases fieldsEnd_cases l with he | he
    · rw [he] at hend
      obtain rfl : ['\n'] = rest := List.tail_eq_of_cons_eq hend
      exact readFields_of_allBlank hfeed
    · rw [he] at hend
      cases hend
  | cons f fs ih =>
    have hf := hfs f List.mem_cons_self
    have hdf := hd f List.mem_cons_self
    have hrec {r : List Char} (hr : fieldsText l width fs ++ fieldsEnd l = ',' :: r) :
        readFields r = .ok (fs.map (l.settledField width)) :=
      ih (fun g hg => hfs g (List.mem_cons_of_mem _ hg))
        (fun g hg => hd g (List.mem_cons_of_mem _ hg)) hr
    -- behind a field comes the comma of the next one, or the end
    have hcases := fieldsText_cases l width fs
    generalize htail : fieldsText l width fs ++ fieldsEnd l = tail at hrec hcases
    have hrest : rest = ['\n'] ++ (l.renderField width f ++ tail) := by
      simpa [fieldsText, ← htail] using h.symm
    rw [hrest]
    rcases hcases with ⟨r, rfl⟩ | ⟨rfl, rfl⟩
    · have hcomma : trimLeft (',' :: r) = ',' :: r := trimLeft_of_head (by decide)
      have hread := @readField_renderField l hl width f hf hdf (',' :: r) (by simp; decide)
        (by simp [hcomma])
      rw [hcomma, ← trimLeft_append_left hfeed] at hread
      exact readFields_cons hread (hrec rfl)
    · have hnil : trimLeft ['\n'] = [] := trimLeft_eq_nil_iff.2 hfeed
      have hread := @readField_renderField l hl width f hf hdf ['\n'] (by simp; decide)
        (by simp [hnil])
      rw [hnil, ← trimLeft_append_left hfeed] at hread
      exact readFields_last hread

theorem balanced_renderField {f : Field} (hf : f.Writable) : Balanced (l.renderField width f) := by
  -- tab, padding and assignment hold no braces, so only the value counts
  have htab : Balanced l.tab.toList := .of_braceFree (braceFree_of_blank hl.tab.allBlank)
  have hspaces (n : Nat) : Balanced (spaces n) :=
    .of_braceFree (braceFree_of_blank (isIndent_spaces n).allBlank)
  have hassign : Balanced assignment := .of_braceFree (by decide)
  have hvalue : Balanced (f.value.render l.delimiters (l.valueIndent width f)) := by
    rw [Value.render_reindented _ (l.valueIndent_ne_nil width f)]
    exact (hf.value.reindented (hl.isIndent_valueIndent width f)).balanced_render _
  unfold Layout.renderField Layout.shownName
  rw [hl.fieldCase]
  exact (((htab.append (.of_braceFree hf.name.braceFree)).append (hspaces _)).append hassign).append
    hvalue

theorem balanced_fieldsText {fs : List Field} (hfs : ∀ f ∈ fs, f.Writable) :
    Balanced (fieldsText l width fs) := by
  induction fs with
  | nil => exact .nil
  | cons f fs ih =>
    have hmark : Balanced [',', '\n'] := .of_braceFree (by decide)
    have hf := balanced_renderField hl width (hfs f List.mem_cons_self)
    have hrest := ih fun g hg => hfs g (List.mem_cons_of_mem _ hg)
    exact (hmark.append hf).append hrest

end Fields

/-! ## §5 The block of an entry -/

/-- A citation key that is read as it is written. -/
structure IsKey (k : List Char) : Prop where
  ne_nil : k ≠ []
  comma : ',' ∉ k
  equals : '=' ∉ k
  trimmed : trim k = k
  balanced : Balanced k

/-- An entry that can be written so that it is read back. -/
structure Entry.Writable (e : Entry) : Prop where
  type : ∃ d ds, e.type.toList = d :: ds ∧ isTypeStart d = true ∧ ∀ c ∈ ds, isTypeChar c = true
  key : ∀ k, e.key = some k → IsKey k.toList
  fields : ∀ f ∈ e.fields, f.Writable

/-- Helper: a text without a comma is not cut. -/
private theorem bne_of_not_mem {s : List Char} (h : ',' ∉ s) : ∀ c ∈ s, (c != ',') = true := by
  intro c hc
  rw [bne_iff_ne]
  rintro rfl
  exact h hc

theorem splitKey_of_not_mem {s : List Char} (hcomma : ',' ∉ s) (hequals : '=' ∉ s) :
    Block.splitKey s = (if (trim s).isEmpty then none else some (trim s), []) := by
  have hs := bne_of_not_mem hcomma
  have hfirst : s.takeWhile (· != ',') = s := List.takeWhile_eq_self_iff.2 hs
  have hrest : s.dropWhile (· != ',') = [] := List.dropWhile_eq_nil_iff.2 hs
  simp only [Block.splitKey, hfirst, hrest, if_neg hequals, List.drop_nil]

theorem splitKey_append_comma {s : List Char} (hcomma : ',' ∉ s) (hequals : '=' ∉ s)
    (t : List Char) : Block.splitKey (s ++ ',' :: t) =
      (if (trim s).isEmpty then none else some (trim s), t) := by
  have hs := bne_of_not_mem hcomma
  have hstop : ∀ c ∈ (',' :: t).head?, (c != ',') = false := by simp
  have hfirst := takeWhile_append_of_stop hs hstop
  have hrest := dropWhile_append_of_stop hs hstop
  simp only [Block.splitKey, hfirst, hrest, if_neg hequals, List.drop_one, List.tail_cons]

section Entries

variable {l : Layout} {e : Entry}

/-- What is written between the braces of an entry. -/
def entryBody (l : Layout) (e : Entry) : List Char :=
  (e.key.getD "").toList ++
    (fieldsText l (l.nameWidth e.fields) (l.arrange e).fields ++ fieldsEnd l)

/-- The block that an entry is written as. -/
def entryBlock (l : Layout) (e : Entry) : Block :=
  ⟨⟨'@' :: e.type.toList ++ ['{'], e.type.toList, '{'⟩, entryBody l e, true⟩

theorem text_entryBlock (l : Layout) (e : Entry) : (entryBlock l e).text = l.renderEntry e := by
  simp [Block.text, entryBlock, entryBody, fieldsText, fieldsEnd, closerOf, Layout.renderEntry]

/-- An entry whose texts do not hold the closing delimiter outside their braces. -/
def Entry.EnclosedBy (d : Delimiters) (e : Entry) : Prop := ∀ f ∈ e.fields, f.value.EnclosedBy d

/-- Between braces nothing more is asked of an entry that can be written. -/
theorem Layout.ReadsBack.enclosedBy (hl : l.ReadsBack) (he : e.Writable) :
    e.EnclosedBy l.delimiters := by
  rw [hl.delimiters]
  exact fun f hf => (he.fields f hf).value.enclosedBy_braces

/-- The fields of an arranged entry can be written if the entry can. -/
theorem Entry.Writable.arranged (he : e.Writable) (l : Layout) :
    ∀ f ∈ (l.arrange e).fields, f.Writable :=
  fun f hf => he.fields f ((l.arrange_fields_perm e).mem_iff.1 hf)

theorem balanced_key (he : e.Writable) : Balanced (e.key.getD "").toList := by
  cases hk : e.key with
  | none => exact .nil
  | some k => exact (he.key k hk).balanced

variable (hl : l.KeepsNames) (he : e.Writable)

include hl he

theorem balanced_entryBody : Balanced (entryBody l e) := by
  have hend : Balanced (fieldsEnd l) := by
    rcases fieldsEnd_cases l with h | h <;> rw [h] <;> exact .of_braceFree (by decide)
  exact (balanced_key he).append ((balanced_fieldsText hl _ (he.arranged l)).append hend)

theorem wellFormed_entryBlock : (entryBlock l e).WellFormed where
  head := by
    obtain ⟨d, ds, htype, hd, hds⟩ := he.type
    have hread := Head.read?_of_type hd hds []
    rw [← htype] at hread
    exact (Head.read?_eq_some_iff.1 hread).1
  neverCloses := (balanced_entryBody hl he).neverCloses
  depth := fun _ => (balanced_entryBody hl he).depth

omit hl in
/-- The key of an entry is found in what is written, and the text of the fields behind it, which is
empty if there are neither fields nor a comma behind them. -/
theorem exists_splitKey_entryBody : ∃ rest,
    Block.splitKey (entryBody l e) = (e.key.map String.toList, rest) ∧
      (fieldsText l (l.nameWidth e.fields) (l.arrange e).fields ++ fieldsEnd l = ',' :: rest ∨
        (l.arrange e).fields = [] ∧ rest = []) := by
  have hfeed : AllBlank ['\n'] := .singleton (by decide)
  -- the key is found before the comma and before the end of the body
  have hkey : ∃ k, (e.key.getD "").toList = k ∧ ',' ∉ k ∧ '=' ∉ k ∧
      (if (trim k).isEmpty then none else some (trim k)) = e.key.map String.toList := by
    cases hk : e.key with
    | none => exact ⟨[], rfl, by simp, by simp, rfl⟩
    | some k =>
      have h := he.key k hk
      refine ⟨k.toList, rfl, h.comma, h.equals, ?_⟩
      rw [h.trimmed, if_neg (by simpa using h.ne_nil)]
      rfl
  obtain ⟨k, hk, hcomma, hequals, htrim⟩ := hkey
  rw [entryBody, hk]
  -- without fields and without a comma behind them, the key is all that there is
  rcases fieldsText_cases l (l.nameWidth e.fields) (l.arrange e).fields with ⟨r, hr⟩ | ⟨hnil, hr⟩
  · refine ⟨r, ?_, .inl hr⟩
    rw [hr, splitKey_append_comma hcomma hequals, htrim]
  · have hcomma' : ',' ∉ k ++ ['\n'] := by simpa using hcomma
    have hequals' : '=' ∉ k ++ ['\n'] := by simpa using hequals
    refine ⟨[], ?_, .inr ⟨hnil, rfl⟩⟩
    rw [hr, splitKey_of_not_mem hcomma' hequals', trim_append_right hfeed, htrim]

/-- The key and the fields of an entry are found in what is written. -/
theorem splitKey_entryBody (hd : e.EnclosedBy l.delimiters) : ∃ rest,
    Block.splitKey (entryBody l e) = (e.key.map String.toList, rest) ∧
      readFields rest = .ok (l.settled e).fields := by
  obtain ⟨rest, hsplit, hrest⟩ := exists_splitKey_entryBody he
  refine ⟨rest, hsplit, ?_⟩
  rcases hrest with hrest | ⟨hnil, rfl⟩
  · exact readFields_fieldsText hl _ (he.arranged l)
      (fun f hf => hd f ((l.arrange_fields_perm e).mem_iff.1 hf)) hrest
  · rw [readFields_of_allBlank .nil, Layout.settled, hnil]
    rfl

/-- The block of an entry holds the settled entry, if it is not refused. -/
theorem entry_entryBlock (hd : e.EnclosedBy l.delimiters) {check : BlockCheck}
    (hcheck : (check (entryBlock l e).text).isOk = true) :
    (entryBlock l e).entry check = .ok (l.settled e) := by
  obtain ⟨rest, hsplit, hread⟩ := splitKey_entryBody hl he hd
  have hbody : (entryBlock l e).body = entryBody l e := rfl
  have htype : (entryBlock l e).type = e.type.toList := rfl
  cases hc : check (entryBlock l e).text with
  | error fault => rw [hc] at hcheck; cases hcheck
  | ok records =>
    simp only [Block.entry, hc, hbody, htype, hsplit, hread, Option.map_map, String.ofList_toList]
    simp [Layout.settled, Function.comp_def]

end Entries

end Bibliography
