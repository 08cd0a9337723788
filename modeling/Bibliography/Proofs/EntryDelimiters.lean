import Bibliography.Proofs.EntryTexts
import Bibliography.Proofs.FieldGrammar

/-!
# Entries and the delimiters around them

The end of a block is found by its braces alone, whereas the reader of fields knows quotation marks
as well. For an entry between braces the two agree, because every text in it has balanced braces.
For an entry between parentheses they agree as long as no text in quotation marks holds a closing
parenthesis outside its braces; otherwise the block ends at the first such parenthesis.

Main statement: `Entry.isLocated_iff`.
-/

namespace Bibliography

open Text

/-! ## §1 Where parentheses close -/

/-- A balanced text in which a closing parenthesis outside the braces stands in one of some texts
only. -/
structure ClosesWithin (s : List Char) (texts : List (List Char)) : Prop where
  balanced : Balanced s
  neverCloses_iff : NeverCloses ')' 0 s ↔ ∀ q ∈ texts, NeverCloses ')' 0 q

namespace ClosesWithin

theorem append {s t : List Char} {qs qs' : List (List Char)} (hs : ClosesWithin s qs)
    (ht : ClosesWithin t qs') : ClosesWithin (s ++ t) (qs ++ qs') where
  balanced := hs.balanced.append ht.balanced
  neverCloses_iff := by
    -- no brace is open between the two
    rw [neverCloses_append, hs.balanced.depth, hs.neverCloses_iff, List.forall_mem_append]
    exact and_congr_right fun _ => ht.neverCloses_iff

theorem of_free {s : List Char} (hbraces : BraceFree s) (hclose : ')' ∉ s) : ClosesWithin s [] where
  balanced := .of_braceFree hbraces
  neverCloses_iff := iff_of_true (neverCloses_of_not_mem hclose 0) (by simp)

theorem braced {s : List Char} (h : Balanced s) : ClosesWithin ('{' :: s ++ ['}']) [] where
  balanced := h.braced
  neverCloses_iff := by
    refine iff_of_true ?_ (by simp)
    -- inside the braces the depth is positive
    have hinside : NeverCloses ')' (0 + braceWeight '{') s := by
      rw [neverCloses_iff_forall]
      rintro p r rfl hzero
      have hp := h.nonneg p (List.prefix_append p _)
      have hweight : braceWeight '{' = 1 := rfl
      omega
    exact ⟨by decide, neverCloses_append.2 ⟨hinside, by simp [NeverCloses]⟩⟩

theorem quoted {s : List Char} (h : Balanced s) : ClosesWithin ('"' :: s ++ ['"']) [s] where
  balanced := by
    have hmark : Balanced ['"'] := .of_braceFree (by decide)
    exact (hmark.append h).append hmark
  neverCloses_iff := by
    have hweight : (0 : Int) + braceWeight '"' = 0 := rfl
    rw [List.forall_mem_singleton, List.cons_append, NeverCloses, hweight, neverCloses_append]
    simp [NeverCloses]

theorem blanks (w : Source.Blanks) : ClosesWithin w.chars [] :=
  of_free (braceFree_of_blank w.allBlank) (w.allBlank.not_mem (by decide))

theorem token (t : Source.Token) : ClosesWithin t.chars [] :=
  of_free t.isToken.braceFree fun h => absurd (t.isToken.2 _ h) (by decide)

end ClosesWithin

/-! ## §2 Texts in quotation marks -/

namespace Source

def Part.quotedTexts : Part → List (List Char)
  | .quoted content _ => [content]
  | _ => []

def Parts.quotedTexts : Parts → List (List Char)
  | .last _ part _ => part.quotedTexts
  | .cons _ part _ rest => part.quotedTexts ++ rest.quotedTexts

def Field.quotedTexts (f : Field) : List (List Char) := f.parts.quotedTexts

def Fields.quotedTexts : Fields → List (List Char)
  | .blank _ => []
  | .last f => f.quotedTexts
  | .cons f rest => f.quotedTexts ++ rest.quotedTexts

theorem Part.closesWithin (p : Part) (h : ∀ q ∈ p.quotedTexts, Balanced q) :
    ClosesWithin p.text p.quotedTexts := by
  cases p with
  | token t => exact .token t
  | braced content hcontent => exact .braced hcontent
  | quoted content hcontent => exact .quoted (h content List.mem_cons_self)

theorem Parts.closesWithin (ps : Parts) (h : ∀ q ∈ ps.quotedTexts, Balanced q) :
    ClosesWithin ps.text ps.quotedTexts := by
  induction ps with
  | last before part behind =>
    -- the last part stands between blanks, which close nothing
    have hpart := (part.closesWithin h).append (.blanks behind)
    rw [List.append_nil] at hpart
    exact (ClosesWithin.blanks before).append hpart
  | cons before part behind rest ih =>
    -- each part and the sign behind it close within themselves
    obtain ⟨hpart, hrest⟩ := List.forall_mem_append.1 h
    have hsign : ClosesWithin ['#'] [] := .of_free (by decide) (by decide)
    have hbehind := (ClosesWithin.blanks behind).append (hsign.append (ih hrest))
    exact (ClosesWithin.blanks before).append ((part.closesWithin hpart).append hbehind)

theorem Field.closesWithin (f : Field) (h : ∀ q ∈ f.quotedTexts, Balanced q) :
    ClosesWithin f.text f.quotedTexts := by
  have hsign : ClosesWithin ['='] [] := .of_free (by decide) (by decide)
  exact (ClosesWithin.blanks f.before).append ((ClosesWithin.token f.name).append
    ((ClosesWithin.blanks f.behind).append (hsign.append (f.parts.closesWithin h))))

theorem Fields.closesWithin (t : Fields) (h : ∀ q ∈ t.quotedTexts, Balanced q) :
    ClosesWithin t.text t.quotedTexts := by
  induction t with
  | blank w => exact .blanks w
  | last f => exact f.closesWithin h
  | cons f rest ih =>
    obtain ⟨hf, hrest⟩ := List.forall_mem_append.1 h
    have hcomma : ClosesWithin [','] [] := .of_free (by decide) (by decide)
    exact (f.closesWithin hf).append (hcomma.append (ih hrest))

/-! ## §3 The source of an entry -/

/-- What stands between the key of an entry and its closing delimiter: blanks, or a comma and a list
of fields. -/
inductive Tail where
  | blank (w : Blanks)
  | fields (t : Fields)

def Tail.text : Tail → List Char
  | .blank w => w.chars
  | .fields t => ',' :: t.text

def Tail.quotedTexts : Tail → List (List Char)
  | .blank _ => []
  | .fields t => t.quotedTexts

theorem Tail.closesWithin (t : Tail) (h : ∀ q ∈ t.quotedTexts, Balanced q) :
    ClosesWithin t.text t.quotedTexts := by
  cases t with
  | blank w => exact .blanks w
  | fields t =>
    have hcomma : ClosesWithin [','] [] := .of_free (by decide) (by decide)
    exact hcomma.append (t.closesWithin h)

/-- The source of an entry. -/
structure Entry where
  type : List Char
  /-- The type is an ASCII letter and ASCII letters, digits and the marks of a type behind it. -/
  isType : ∃ d ds, type = d :: ds ∧ d.isAlpha = true ∧
    ∀ c ∈ ds, c.isAlphanum = true ∨ c ∈ ['_', ':', '-']
  opener : Char
  isOpener : opener = '{' ∨ opener = '('
  key : List Char
  key_ne_nil : key ≠ []
  /-- The key has no blanks and no marks. -/
  isKey : ∀ c ∈ key, isBlank c = false ∧ c ∉ [',', '=', '{', '}', '(', ')']
  tail : Tail

namespace Entry

variable (e : Entry)

/-- The part of the source between its delimiters. -/
def body : List Char := e.key ++ e.tail.text

def text : List Char := '@' :: e.type ++ e.opener :: e.body ++ [closerOf e.opener]

def fields : List Bibliography.Field :=
  match e.tail with
  | .blank _ => []
  | .fields t => t.fields

def quotedTexts : List (List Char) := e.tail.quotedTexts

/-- The block that the source should be. -/
def block : Block := ⟨⟨'@' :: e.type ++ [e.opener], e.type, e.opener⟩, e.body, true⟩

/-- The source is found as one block, and its key and fields are found in this block. -/
def IsLocated : Prop :=
  ∃ x : Located, locateBlocks e.text = [x] ∧ x.block.text = e.text ∧ x.block.body = e.body ∧
    ∃ rest, Block.splitKey x.block.body = (some e.key, rest) ∧ readFields rest = .ok e.fields

theorem text_block : e.block.text = e.text := by
  simp [Block.text, block, text]

theorem wellFormed_head : e.block.head.WellFormed := by
  obtain ⟨d, ds, htype, hd, hds⟩ := e.isType
  have hopener : isTypeChar e.opener = false := by
    rcases e.isOpener with h | h <;> rw [h] <;> decide
  have hhead := Head.WellFormed.intro [] [] ds d e.opener .nil hd (fun c hc => ?_) .nil
    (by simpa using hopener) e.isOpener
  · simpa [block, htype] using hhead
  · exact isTypeChar_of_ascii (hds c hc)

/-- The key is found before the first comma or the end, and the fields behind it. -/
theorem exists_splitKey_body : ∃ rest,
    Block.splitKey e.body = (some e.key, rest) ∧ readFields rest = .ok e.fields := by
  have hkey : IsKey e.key := isKey_of_chars e.key_ne_nil fun c hc =>
    ⟨(e.isKey c hc).1, fun hmem => (e.isKey c hc).2 (List.mem_append_left ['(', ')'] hmem)⟩
  have hnonempty : ¬e.key.isEmpty = true := by simpa using e.key_ne_nil
  unfold body fields
  cases e.tail with
  -- without fields the key fills the body, up to blanks
  | blank w =>
    have hcomma : ',' ∉ e.key ++ w.chars := by
      simpa using ⟨hkey.comma, w.allBlank.not_mem (show isBlank ',' = false by decide)⟩
    have hequals : '=' ∉ e.key ++ w.chars := by
      simpa using ⟨hkey.equals, w.allBlank.not_mem (show isBlank '=' = false by decide)⟩
    have hsplit := splitKey_of_not_mem hcomma hequals
    rw [trim_append_right w.allBlank, hkey.trimmed, if_neg hnonempty] at hsplit
    exact ⟨[], hsplit, readFields_of_allBlank .nil⟩
  | fields t =>
    -- with fields it ends at the comma, and the fields are read behind that
    have hsplit := splitKey_append_comma hkey.comma hkey.equals t.text
    rw [hkey.trimmed, if_neg hnonempty] at hsplit
    exact ⟨t.text, hsplit, readFields_text t⟩

/-- What is between the delimiters is balanced, and closes a parenthesis outside its braces in the
texts in quotation marks only. -/
theorem closesWithin_body (h : ∀ q ∈ e.quotedTexts, Balanced q) :
    ClosesWithin e.body e.quotedTexts := by
  have hkey : ClosesWithin e.key [] := by
    refine .of_free ⟨fun hmem => ?_, fun hmem => ?_⟩ fun hmem => ?_ <;>
      exact (e.isKey _ hmem).2 (by decide)
  exact hkey.append (e.tail.closesWithin h)

/-- The source is found as one block exactly when what is between its delimiters does not hold the
closing one outside its braces. -/
theorem isLocated_iff_neverCloses (h : ∀ q ∈ e.quotedTexts, Balanced q) :
    e.IsLocated ↔ NeverCloses (closerOf e.opener) 0 e.body := by
  constructor
  · rintro ⟨x, hx, htext, hbody, -⟩
    have hwell : x.block.WellFormed := wellFormed_of_mem_locateBlocks (hx ▸ List.mem_cons_self)
    -- the block that is found has the head of the source, so it ends at the same delimiter
    have hhead : x.block.head = e.block.head := by
      apply hwell.head.eq_of_append_eq e.wellFormed_head
      simpa only [Block.text, List.append_assoc] using htext.trans e.text_block.symm
    have hnever := hwell.neverCloses
    rwa [hhead, hbody] at hnever
  · intro hnever
    have hwell : e.block.WellFormed :=
      ⟨e.wellFormed_head, hnever, fun _ => (e.closesWithin_body h).balanced.depth⟩
    have hsegment := segment_text_append hwell (t := []) (Block.eq_nil_of_not_closed rfl)
    rw [List.append_nil, segment_nil, text_block] at hsegment
    refine ⟨⟨e.block, 1, 0, e.text.length⟩, ?_, e.text_block, rfl, e.exists_splitKey_body⟩
    simp [locateBlocks, hsegment, locateFrom, lineFeeds, text_block]

end Entry

/-! ## §4 Where blocks and fields agree -/

/-- An entry whose texts are balanced is found as one block, with its key and fields in it, exactly
when it stands between braces or no text in quotation marks holds a closing parenthesis outside its
braces. -/
theorem Entry.isLocated_iff (e : Entry) (hquoted : ∀ q ∈ e.quotedTexts, Balanced q) :
    e.IsLocated ↔ e.opener = '{' ∨ ∀ q ∈ e.quotedTexts, NeverCloses ')' 0 q := by
  rw [e.isLocated_iff_neverCloses hquoted]
  have hbody := e.closesWithin_body hquoted
  rcases e.isOpener with hbrace | hparenthesis
  · rw [hbrace]
    exact iff_of_true hbody.balanced.neverCloses (.inl rfl)
  · rw [hparenthesis]
    have hne : '(' ≠ '{' := by decide
    rw [or_iff_right hne]
    exact hbody.neverCloses_iff

/-- A book between parentheses whose title stands in quotation marks. -/
def titledBook (title : List Char) (h : Quotable title) : Entry where
  type := "book".toList
  isType := by
    refine ⟨'b', ['o', 'o', 'k'], rfl, by decide, ?_⟩
    intro c hc
    rw [List.mem_cons, List.mem_cons, List.mem_singleton] at hc
    rcases hc with rfl | rfl | rfl <;> decide
  opener := '('
  isOpener := .inr rfl
  key := ['k']
  key_ne_nil := by decide
  isKey := List.forall_mem_singleton.2 (by decide)
  tail := .fields (.last
    { before := ⟨[' '], by decide⟩
      name := ⟨"title".toList, by decide⟩
      behind := ⟨[' '], by decide⟩
      parts := .last ⟨[' '], by decide⟩ (.quoted title h) ⟨[], by decide⟩ })

/-- A parenthesis inside the braces of a title does not end the entry. -/
theorem isLocated_titledBook :
    (titledBook "\x7b:)\x7d b".toList (by decide)).quotedTexts = ["\x7b:)\x7d b".toList] ∧
      (∀ q ∈ (titledBook "\x7b:)\x7d b".toList (by decide)).quotedTexts, Balanced q) ∧
      (titledBook "\x7b:)\x7d b".toList (by decide)).IsLocated := by
  have hquoted : ∀ q ∈ (titledBook "\x7b:)\x7d b".toList (by decide)).quotedTexts, Balanced q := by
    decide
  refine ⟨rfl, hquoted, ?_⟩
  apply (Entry.isLocated_iff _ hquoted).2
  exact .inr (by decide)

/-- A parenthesis outside the braces of a title ends the entry. -/
theorem not_isLocated_titledBook :
    (titledBook "a) b".toList (by decide)).text = "@book(k, title = \"a) b\")".toList ∧
      (∀ q ∈ (titledBook "a) b".toList (by decide)).quotedTexts, Balanced q) ∧
      (locateBlocks "@book(k, title = \"a) b\")".toList).map (·.block.text) =
        ["@book(k, title = \"a)".toList] ∧
      ¬(titledBook "a) b".toList (by decide)).IsLocated := by
  have hquoted : ∀ q ∈ (titledBook "a) b".toList (by decide)).quotedTexts, Balanced q := by
    decide
  refine ⟨rfl, hquoted, by decide +kernel, ?_⟩
  rw [Entry.isLocated_iff_neverCloses _ hquoted]
  decide

end Source

end Bibliography
