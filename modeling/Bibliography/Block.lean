import Bibliography.Delimiter
import Bibliography.Text.WordTable

/-!
# Blocks

Where the blocks of a bibliography stand. A block begins with an at sign, a type that starts with an
ASCII letter, and an opening brace or parenthesis, with blanks allowed between the three; it reaches
to the delimiter that closes it, or to the end of the text. What stands between the blocks is a gap.

Main statement: gaps and blocks make up the text (`concat_segment`).
-/

namespace Bibliography

open Text

/-! ## §1 The head of a block -/

/-- Whether a character can begin the type of a block. -/
def isTypeStart (c : Char) : Bool := c.isAlpha

/-- Whether a character can continue the type of a block. -/
def isTypeChar (c : Char) : Bool := isWord c || c == ':' || c == '-'

/-- The head of a block: its whole text, the type in it and the delimiter that ends it. -/
structure Head where
  text : List Char
  type : List Char
  opener : Char
  deriving DecidableEq, Repr

/-- Reads the head of a block at the beginning of a text. -/
def Head.read? : List Char → Option (Head × List Char)
  | [] => none
  | c :: s =>
    if c = '@' then
      -- the blanks are kept, so that the text of a head is what was read
      let blanks := s.takeWhile isBlank
      match s.dropWhile isBlank with
      | [] => none
      | d :: s =>
        if isTypeStart d then
          let type := d :: s.takeWhile isTypeChar
          let s := s.dropWhile isTypeChar
          let gap := s.takeWhile isBlank
          match s.dropWhile isBlank with
          | [] => none
          | opener :: rest =>
            -- without an opener there is no block, whatever stands in front
            if opener = '{' ∨ opener = '(' then
              some (⟨c :: blanks ++ type ++ gap ++ [opener], type, opener⟩, rest)
            else none
        else none
    else none

/-! ## §2 Blocks -/

/-- A block of a bibliography; `closed` says whether its closing delimiter is there. -/
structure Block where
  head : Head
  body : List Char
  closed : Bool
  deriving DecidableEq, Repr

namespace Block

/-- The type of a block, as written. -/
def type (b : Block) : List Char := b.head.type

/-- The whole text of a block. -/
def text (b : Block) : List Char :=
  b.head.text ++ b.body ++ if b.closed then [closerOf b.head.opener] else []

/-- The block that a head begins, and the text after it. -/
def complete (head : Head) (s : List Char) : Block × List Char :=
  match splitAtClose (closerOf head.opener) 0 s with
  | some (body, rest) => (⟨head, body, true⟩, rest)
  | none => (⟨head, s, false⟩, [])

/-- The citation key of a block and the text of its fields. The key is what stands before the first
comma; a block that has an equals sign there has no key. -/
def splitKey (body : List Char) : Option (List Char) × List Char :=
  let first := body.takeWhile (· != ',')
  if '=' ∈ first then (none, body)
  else
    let key := trim first
    (if key.isEmpty then none else some key, (body.dropWhile (· != ',')).drop 1)

end Block

/-- The first block of a text, after the gap before it, and the text that follows. -/
def nextBlock? : List Char → Option (List Char × Block × List Char)
  | [] => none
  | c :: s =>
    match Head.read? (c :: s) with
    | some (head, rest) => some ([], Block.complete head rest)
    | none => (nextBlock? s).map fun p => (c :: p.1, p.2)

/-! ## §3 Texts and their lengths -/

/-- Helper: the head that is read is what the text begins with. -/
theorem Head.read?_eq_some {s rest : List Char} {head : Head}
    (h : Head.read? s = some (head, rest)) : s = head.text ++ rest := by
  cases s with
  | nil => simp [Head.read?] at h
  -- each test is passed, and the three runs are put together again
  | cons c s =>
    simp only [Head.read?] at h
    split at h
    · split at h
      · simp at h
      · next d s' hs =>
        split at h
        · split at h
          · simp at h
          · next opener r hr =>
            split at h
            · simp only [Option.some.injEq, Prod.mk.injEq] at h
              obtain ⟨rfl, rfl⟩ := h
              have e1 := List.takeWhile_append_dropWhile (p := isBlank) (l := s)
              have e2 := List.takeWhile_append_dropWhile (p := isTypeChar) (l := s')
              have e3 := List.takeWhile_append_dropWhile (p := isBlank)
                (l := s'.dropWhile isTypeChar)
              rw [hs] at e1
              rw [hr] at e3
              simp only [List.cons_append, List.append_assoc, List.nil_append]
              rw [e3, e2, e1]
            · simp at h
        · simp at h
    · simp at h

theorem Block.complete_text {head : Head} {s rest : List Char} {block : Block}
    (h : Block.complete head s = (block, rest)) : head.text ++ s = block.text ++ rest := by
  simp only [Block.complete] at h
  split at h
  · next hs =>
    obtain ⟨rfl, rfl⟩ := by simpa using h
    obtain ⟨rfl, -⟩ := splitAtClose_eq_some hs
    simp [Block.text]
  · obtain ⟨rfl, rfl⟩ := by simpa using h
    simp [Block.text]

theorem nextBlock?_eq_some {s gap rest : List Char} {block : Block}
    (h : nextBlock? s = some (gap, block, rest)) : s = gap ++ block.text ++ rest := by
  induction s generalizing gap with
  | nil => simp [nextBlock?] at h
  -- either the block starts here or the gap has one more character
  | cons c s ih =>
    simp only [nextBlock?] at h
    split at h
    · next head r hh =>
      simp only [Option.some.injEq, Prod.mk.injEq] at h
      rw [Head.read?_eq_some hh, ← h.1, List.nil_append]
      exact Block.complete_text h.2
    · obtain ⟨⟨g, b, r⟩, hs, hp⟩ := Option.map_eq_some_iff.1 h
      obtain ⟨rfl, rfl, rfl⟩ := by simpa using hp
      simpa using ih hs

/-- Helper: a head is not empty. -/
theorem Head.text_ne_nil_of_read? {s rest : List Char} {head : Head}
    (h : Head.read? s = some (head, rest)) : head.text ≠ [] := by
  cases s with
  | nil => simp [Head.read?] at h
  | cons c s =>
    simp only [Head.read?] at h
    repeat' split at h
    -- all but one of the branches give no head
    all_goals simp at h
    obtain ⟨rfl, -⟩ := h
    simp

theorem Block.head_text_ne_nil {s gap rest : List Char} {block : Block}
    (h : nextBlock? s = some (gap, block, rest)) : block.head.text ≠ [] := by
  induction s generalizing gap with
  | nil => simp [nextBlock?] at h
  | cons c s ih =>
    simp only [nextBlock?] at h
    split at h
    · next head r hh =>
      simp only [Option.some.injEq, Prod.mk.injEq] at h
      have hb : (Block.complete head r).1.head = head := by
        simp only [Block.complete]; split <;> rfl
      rw [h.2] at hb
      rw [hb]
      exact Head.text_ne_nil_of_read? hh
    · obtain ⟨⟨g, b, r⟩, hs, hp⟩ := Option.map_eq_some_iff.1 h
      obtain ⟨rfl, rfl, rfl⟩ := by simpa using hp
      exact ih hs

theorem nextBlock?_length {s gap rest : List Char} {block : Block}
    (h : nextBlock? s = some (gap, block, rest)) : rest.length < s.length := by
  have hne := Block.head_text_ne_nil h
  have hs := nextBlock?_eq_some h
  have : 0 < block.head.text.length := List.length_pos_iff.2 hne
  rw [hs]
  simp [Block.text]
  omega

/-! ## §4 The whole text -/

/-- A text cut into blocks, each after the gap before it, and the gap at the end. -/
structure Segmented where
  blocks : List (List Char × Block)
  trailing : List Char
  deriving DecidableEq, Repr

/-- Cuts a text into blocks and gaps. -/
def segment (s : List Char) : Segmented :=
  match _h : nextBlock? s with
  | none => ⟨[], s⟩
  | some (gap, block, rest) =>
    let r := segment rest
    ⟨(gap, block) :: r.blocks, r.trailing⟩
  termination_by s.length
  decreasing_by exact nextBlock?_length _h

/-- The text that was cut. -/
def Segmented.concat (p : Segmented) : List Char :=
  p.blocks.flatMap (fun b => b.1 ++ b.2.text) ++ p.trailing

theorem concat_segment (s : List Char) : (segment s).concat = s := by
  fun_induction segment s with
  | case1 s _ => simp [Segmented.concat]
  | case2 s gap block rest h r ih =>
    conv => rhs; rw [nextBlock?_eq_some h, ← ih]
    simp [Segmented.concat, r]

/-- A block with its line and its place in the text, from `start` up to but not including `stop`. -/
structure Located where
  block : Block
  line : Nat
  start : Nat
  stop : Nat
  deriving DecidableEq, Repr

/-- The number of line feeds in a text. -/
def lineFeeds (s : List Char) : Nat := s.count '\n'

/-- Places blocks in a text of which `line - 1` line feeds and `position` characters came before. -/
def locateFrom (line position : Nat) : List (List Char × Block) → List Located
  | [] => []
  | (gap, block) :: rest =>
    let line := line + lineFeeds gap
    let start := position + gap.length
    let stop := start + block.text.length
    ⟨block, line, start, stop⟩ :: locateFrom (line + lineFeeds block.text) stop rest

/-- The blocks of a text. -/
def locateBlocks (s : List Char) : List Located := locateFrom 1 0 (segment s).blocks

end Bibliography
