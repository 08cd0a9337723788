import Bibliography.Reading
import Bibliography.Proofs.Blanks
import Bibliography.Proofs.Nesting

/-!
# Blocks and gaps of composed texts

How a text that is put together from gaps, blanks and blocks is cut up again. A gap is a text in
which no block begins; that stays so when it is trimmed and when blanks or a block follow it. A
block with its closing delimiter is located by its own text alone, whatever follows it.

Main statements: the heads that are read (`Head.read?_eq_some_iff`), the leftmost block of a text
(`nextBlock?_eq_some_iff`), and the three laws by which a composed text is cut up: blanks
(`segment_append_of_allBlank`), gaps (`segment_append_of_gap`) and blocks
(`segment_text_append`).
-/

namespace Bibliography

open Text

/-! ## §1 Heads -/

/-- What a head consists of: an at sign, blanks, a type that is as long as possible, blanks and an
opening delimiter. -/
inductive Head.WellFormed : Head → Prop where
  | intro (blanks gap ds : List Char) (d opener : Char)
      (hblanks : AllBlank blanks) (hd : isTypeStart d = true)
      (hds : ∀ c ∈ ds, isTypeChar c = true) (hgap : AllBlank gap)
      (hstop : ∀ c ∈ (gap ++ [opener]).head?, isTypeChar c = false)
      (hopener : opener = '{' ∨ opener = '(') :
      Head.WellFormed ⟨'@' :: blanks ++ (d :: ds) ++ gap ++ [opener], d :: ds, opener⟩

/-- The code points of ASCII letters. -/
theorem toNat_of_isAlpha {c : Char} (h : c.isAlpha = true) :
    (65 ≤ c.toNat ∧ c.toNat ≤ 90) ∨ (97 ≤ c.toNat ∧ c.toNat ≤ 122) := by
  change (decide (65 ≤ c.val ∧ c.val ≤ 90) || (decide (97 ≤ c.val) && decide (c.val ≤ 122))) =
    true at h
  simpa [UInt32.le_iff_toNat_le] using h

theorem isBlank_of_isTypeStart {c : Char} (h : isTypeStart c = true) : isBlank c = false := by
  have hrange := toNat_of_isAlpha h
  simp only [isBlank, Bool.or_eq_false_iff, Bool.and_eq_false_iff, decide_eq_false_iff_not,
    beq_eq_false_iff_ne]
  omega

/-- Helper: the head that is read is well formed. -/
private theorem Head.wellFormed_of_read? {s rest : List Char} {head : Head}
    (h : Head.read? s = some (head, rest)) : head.WellFormed := by
  cases s with
  | nil => simp [Head.read?] at h
  | cons c s =>
    simp only [Head.read?] at h
    split at h
    · next hc =>
      split at h
      · simp at h
      · next d s' hs =>
        split at h
        · next hd =>
          split at h
          · simp at h
          · next opener r hr =>
            split at h
            · next hopener =>
              simp only [Option.some.injEq, Prod.mk.injEq] at h
              obtain ⟨rfl, -⟩ := h
              subst hc
              refine .intro _ _ _ _ _ (allBlank_takeWhile s) hd
                (fun c hc => List.mem_takeWhile_imp hc) (allBlank_takeWhile _) ?_ hopener
              -- the type ends where it does because the next character cannot continue it
              have hstop := head?_dropWhile_eq_false isTypeChar s'
              have hsplit := List.takeWhile_append_dropWhile (p := isBlank)
                (l := s'.dropWhile isTypeChar)
              rw [hr] at hsplit
              rw [← hsplit] at hstop
              cases hg : (s'.dropWhile isTypeChar).takeWhile isBlank with
              | nil => simpa [hg] using hstop
              | cons g gs => simpa [hg] using hstop
            · simp at h
        · simp at h
    · simp at h

/-- Helper: a well-formed head is read, whatever follows it. -/
private theorem Head.WellFormed.read?_append {head : Head} (h : head.WellFormed)
    (rest : List Char) : Head.read? (head.text ++ rest) = some (head, rest) := by
  obtain ⟨blanks, gap, ds, d, opener, hblanks, hd, hds, hgap, hstop, hopener⟩ := h
  -- each part of the head ends where a character comes that cannot continue it
  have hd' : ∀ c ∈ (d :: (ds ++ (gap ++ opener :: rest))).head?, isBlank c = false := by
    simp [isBlank_of_isTypeStart hd]
  have hstop' : ∀ c ∈ (gap ++ opener :: rest).head?, isTypeChar c = false := by
    cases gap with
    | nil => simpa using hstop
    | cons g gs => simpa using hstop
  have hopener' : ∀ c ∈ (opener :: rest).head?, isBlank c = false := by
    rcases hopener with rfl | rfl <;> simp <;> decide
  simp only [Head.read?, List.cons_append, List.append_assoc, List.nil_append,
    dropWhile_append_of_stop hblanks hd', takeWhile_append_of_stop hblanks hd', hd,
    dropWhile_append_of_stop hds hstop', takeWhile_append_of_stop hds hstop',
    dropWhile_append_of_stop hgap hopener', takeWhile_append_of_stop hgap hopener', hopener,
    if_true]

/-- Reading a head gives exactly the well-formed head that a text begins with. -/
theorem Head.read?_eq_some_iff {s rest : List Char} {head : Head} :
    Head.read? s = some (head, rest) ↔ head.WellFormed ∧ s = head.text ++ rest := by
  constructor
  · intro h
    exact ⟨Head.wellFormed_of_read? h, Head.read?_eq_some h⟩
  · rintro ⟨hw, rfl⟩
    exact hw.read?_append rest

namespace Head

/-- What follows a head is not seen when it is read. -/
theorem read?_append {s rest : List Char} {head : Head} (h : read? s = some (head, rest))
    (t : List Char) : read? (s ++ t) = some (head, rest ++ t) := by
  obtain ⟨hw, rfl⟩ := read?_eq_some_iff.1 h
  exact read?_eq_some_iff.2 ⟨hw, List.append_assoc ..⟩

/-- A text begins with one head at most. -/
theorem WellFormed.eq_of_append_eq {head head' : Head} (h : head.WellFormed) (h' : head'.WellFormed)
    {s s' : List Char} (heq : head.text ++ s = head'.text ++ s') : head = head' := by
  have hread : read? (head.text ++ s) = some (head, s) := read?_eq_some_iff.2 ⟨h, rfl⟩
  have hread' : read? (head.text ++ s) = some (head', s') := read?_eq_some_iff.2 ⟨h', heq⟩
  rw [hread] at hread'
  exact (Prod.mk.inj (Option.some.inj hread')).1

/-- A head in the form in which entries are written. -/
theorem read?_of_type {d : Char} {ds : List Char} (hd : isTypeStart d = true)
    (hds : ∀ c ∈ ds, isTypeChar c = true) (rest : List Char) :
    read? ('@' :: (d :: ds) ++ '{' :: rest) =
      some (⟨'@' :: (d :: ds) ++ ['{'], d :: ds, '{'⟩, rest) := by
  -- no blanks on either side of the type
  have hw := WellFormed.intro [] [] ds d '{' .nil hd hds .nil (by simp; decide) (.inl rfl)
  exact read?_eq_some_iff.2 ⟨by simpa using hw, by simp⟩

theorem WellFormed.opener {head : Head} (h : head.WellFormed) :
    head.opener = '{' ∨ head.opener = '(' := by
  obtain ⟨_, _, _, _, _, _, _, _, _, _, hopener⟩ := h
  exact hopener

theorem WellFormed.isBlank_closer {head : Head} (h : head.WellFormed) :
    isBlank (closerOf head.opener) = false := by
  rcases h.opener with hopener | hopener <;> rw [hopener] <;> decide

theorem WellFormed.type {head : Head} (h : head.WellFormed) :
    ∃ d ds, head.type = d :: ds ∧ isTypeStart d = true ∧ ∀ c ∈ ds, isTypeChar c = true := by
  obtain ⟨_, _, ds, d, _, _, hd, hds, _, _, _⟩ := h
  exact ⟨d, ds, rfl, hd, hds⟩

/-- A head begins with an at sign, holds no other, and ends with a character that is not blank. -/
theorem WellFormed.ends {head : Head} (h : head.WellFormed) :
    ∃ s c, head.text = '@' :: s ++ [c] ∧ '@' ∉ s ++ [c] ∧ isBlank c = false := by
  obtain ⟨blanks, gap, ds, d, opener, hblanks, hd, hds, hgap, -, hopener⟩ := h
  have hat : isBlank '@' = false := by decide
  have hopener' : opener ≠ '@' ∧ isBlank opener = false := by
    rcases hopener with rfl | rfl <;> decide
  -- the opener is the last character; it is not blank, and the sign stands nowhere behind the start
  refine ⟨blanks ++ (d :: ds) ++ gap, opener, by simp, ?_, hopener'.2⟩
  intro hmem
  simp only [List.mem_append, List.mem_cons, List.not_mem_nil, or_false] at hmem
  -- blanks, first letter, letters, gap, opener: none of them is the sign
  rcases hmem with ((hmem | rfl | hmem) | hmem) | rfl
  · exact hblanks.not_mem hat hmem
  · exact absurd hd (by decide)
  · exact absurd (hds _ hmem) (by decide)
  · exact hgap.not_mem hat hmem
  · exact hopener'.1 rfl

end Head

/-! ## §2 What may follow a gap -/

/-- The first character of a text that is not blank, if there is one, is an at sign. -/
def EndsGap (next : List Char) : Prop := ∀ c ∈ (trimLeft next).head?, c = '@'

theorem endsGap_of_allBlank {w : List Char} (hw : AllBlank w) : EndsGap w := by
  simp [EndsGap, trimLeft_eq_nil_iff.2 hw]

theorem EndsGap.append {w next : List Char} (hw : AllBlank w) (h : EndsGap next) :
    EndsGap (w ++ next) := by
  simpa only [EndsGap, trimLeft_append_left hw] using h

theorem endsGap_at (s : List Char) : EndsGap ('@' :: s) := by
  simp [EndsGap, trimLeft_of_head (show isBlank '@' = false by decide)]

/-- No head begins in a text and goes on behind it, if what follows ends a gap. -/
theorem Head.read?_append_eq_none {s next : List Char} (hs : s ≠ []) (h : read? s = none)
    (hnext : EndsGap next) : read? (s ++ next) = none := by
  cases hread : read? (s ++ next) with
  | none => rfl
  | some found =>
    exfalso
    obtain ⟨head, rest⟩ := found
    obtain ⟨hw, htext⟩ := read?_eq_some_iff.1 hread
    -- a head that ends in the text is one of the text
    have hinside {u : List Char} (hu : s = head.text ++ u) : False := by
      rw [read?_eq_some_iff.2 ⟨hw, hu⟩] at h
      cases h
    rcases List.append_eq_append_iff.1 htext with ⟨u, hu, hrest⟩ | ⟨u, hu, -⟩
    · by_cases hnil : u = []
      · rw [hnil, List.append_nil] at hu
        exact hinside (by rw [hu, List.append_nil])
      -- the part of a head that goes on behind the text holds no at sign and is not blank
      obtain ⟨v, c, hv, hat, hc⟩ := hw.ends
      obtain ⟨d, s', rfl⟩ := List.exists_cons_of_ne_nil hs
      have htail : v ++ [c] = s' ++ u := by
        rw [hv] at hu
        exact List.tail_eq_of_cons_eq hu
      have hlast : [c] <:+ u := List.suffix_of_suffix_length_le (List.suffix_append v [c])
        ⟨s', htail.symm⟩ (List.length_pos_iff.2 hnil)
      have hne : trimLeft u ≠ [] := fun hblank =>
        (trimLeft_eq_nil_iff.1 hblank).not_mem hc (hlast.subset List.mem_cons_self)
      obtain ⟨e, t, ht⟩ := List.exists_cons_of_ne_nil hne
      have hmem : e ∈ u := (trimLeft_suffix u).subset (by rw [ht]; exact List.mem_cons_self)
      have hfirst : e = '@' := by
        refine hnext e ?_
        rw [hrest, trimLeft_append_of_ne_nil hne, ht]
        rfl
      refine hat ?_
      rw [htail, ← hfirst]
      exact List.mem_append_right s' hmem
    · exact hinside hu

/-! ## §3 The first block -/

/-- A gap is a text in which no block begins. -/
def IsGap (s : List Char) : Prop := nextBlock? s = none

theorem isGap_iff {s : List Char} : IsGap s ↔ ∀ u, u <:+ s → Head.read? u = none := by
  induction s with
  | nil => simp [IsGap, nextBlock?, Head.read?]
  | cons c s ih =>
    simp only [IsGap, nextBlock?, List.suffix_cons_iff] at ih ⊢
    cases hr : Head.read? (c :: s) with
    -- a block starts at once, so this very suffix refutes the right side
    | some p =>
      simp only [reduceCtorEq, false_iff]
      intro h
      rw [h _ (.inl rfl)] at hr
      cases hr
    -- none starts here, so the gap goes on exactly when it does behind this character
    | none =>
      simp only [Option.map_eq_none_iff, ih]
      constructor
      · rintro h u (rfl | hu)
        · exact hr
        · exact h u hu
      · exact fun h u hu => h u (.inr hu)

/-- A part of a gap is a gap. -/
theorem IsGap.of_infix {s t : List Char} (ht : IsGap t) (h : s <:+: t) : IsGap s := by
  -- a head that begins in the part begins in the whole: what follows it does not matter
  rw [isGap_iff] at ht ⊢
  obtain ⟨a, b, rfl⟩ := h
  intro u hu
  cases hr : Head.read? u with
  | none => rfl
  | some p =>
    have hub : u ++ b <:+ a ++ s ++ b := by
      obtain ⟨v, rfl⟩ := hu
      exact ⟨a ++ v, by simp⟩
    have := ht _ hub
    rw [Head.read?_append hr] at this
    cases this

theorem IsGap.trim {s : List Char} (h : IsGap s) : IsGap (trim s) :=
  h.of_infix ((trimRight_isPrefix _).isInfix.trans (trimLeft_suffix s).isInfix)

/-- Helper: a block is the first one if no head begins before its head. -/
private theorem nextBlock?_of_read? {gap t r : List Char} {head : Head}
    (hfirst : ∀ p q, gap = p ++ q → q ≠ [] → Head.read? (q ++ t) = none)
    (hread : Head.read? t = some (head, r)) :
    nextBlock? (gap ++ t) = some (gap, Block.complete head r) := by
  induction gap with
  | nil =>
    -- at the end of the gap the head stands, and the text is not empty
    cases t with
    | nil => cases hread
    | cons c t => simp [nextBlock?, hread]
  -- no head is read from the first character of the gap, and the hypothesis passes to the rest
  | cons c gap ih =>
    have hnone := hfirst [] (c :: gap) rfl (by simp)
    have hrec := ih fun p q hpq hq => hfirst (c :: p) q (by rw [hpq]; rfl) hq
    simp only [List.cons_append] at hnone ⊢
    simp [nextBlock?, hnone, hrec]

/-- Helper: no head begins before the head of the first block. -/
private theorem exists_read?_of_nextBlock? {s gap rest : List Char} {block : Block}
    (h : nextBlock? s = some (gap, block, rest)) :
    ∃ t head r, s = gap ++ t ∧ (∀ p q, gap = p ++ q → q ≠ [] → Head.read? (q ++ t) = none) ∧
      Head.read? t = some (head, r) ∧ Block.complete head r = (block, rest) := by
  induction s generalizing gap with
  | nil => cases h
  | cons c s ih =>
    simp only [nextBlock?] at h
    cases hread : Head.read? (c :: s) with
    -- the head starts at once: the gap is empty and has no part to begin earlier
    | some found =>
      obtain ⟨head, r⟩ := found
      rw [hread] at h
      obtain ⟨rfl, hblock⟩ := Prod.mk.inj (Option.some.inj h)
      refine ⟨c :: s, head, r, rfl, ?_, hread, hblock⟩
      intro p q hpq hq
      exact absurd (List.append_eq_nil_iff.1 hpq.symm).2 hq
    -- the gap starts with this character; the rest of it comes from the recursion
    | none =>
      rw [hread] at h
      obtain ⟨⟨g, b, r⟩, hnext, hfound⟩ := Option.map_eq_some_iff.1 h
      cases hfound
      obtain ⟨t, head, r', rfl, hfirst, hread', hblock⟩ := ih hnext
      refine ⟨t, head, r', rfl, ?_, hread', hblock⟩
      intro p q hpq hq
      -- from the very first character no head is read, from a later one none by induction
      cases p with
      | nil =>
        rw [← List.nil_append q, ← hpq]
        exact hread
      | cons d p => exact hfirst p q (List.cons.inj hpq).2 hq

/-- The first block of a text is the one whose head stands leftmost. -/
theorem nextBlock?_eq_some_iff {s gap rest : List Char} {block : Block} :
    nextBlock? s = some (gap, block, rest) ↔
      ∃ t head r, s = gap ++ t ∧ (∀ p q, gap = p ++ q → q ≠ [] → Head.read? (q ++ t) = none) ∧
        Head.read? t = some (head, r) ∧ Block.complete head r = (block, rest) := by
  constructor
  · exact exists_read?_of_nextBlock?
  · rintro ⟨t, head, r, rfl, hfirst, hread, hblock⟩
    rw [nextBlock?_of_read? hfirst hread, hblock]

theorem isGap_of_nextBlock? {s gap rest : List Char} {block : Block}
    (h : nextBlock? s = some (gap, block, rest)) : IsGap gap := by
  obtain ⟨t, head, r, rfl, hfirst, -, -⟩ := nextBlock?_eq_some_iff.1 h
  rw [isGap_iff]
  rintro u ⟨p, hp⟩
  -- a head read inside the gap would be read as well with the rest of the text behind it
  cases hu : Head.read? u with
  | none => rfl
  | some found =>
    have hne : u ≠ [] := by
      rintro rfl
      cases hu
    have := hfirst p u hp.symm hne
    rw [Head.read?_append hu] at this
    cases this

/-- What the blocks of a text have in common: a head, and a body that does not close before the
closing delimiter, if there is one. -/
structure Block.WellFormed (b : Block) : Prop where
  head : b.head.WellFormed
  neverCloses : NeverCloses (closerOf b.head.opener) 0 b.body
  depth : b.closed = true → braceDepth b.body = 0

theorem wellFormed_of_nextBlock? {s gap rest : List Char} {block : Block}
    (h : nextBlock? s = some (gap, block, rest)) :
    block.WellFormed ∧ (block.closed = false → rest = []) := by
  obtain ⟨t, head, r, -, -, hr, hb⟩ := nextBlock?_eq_some_iff.1 h
  have hw := (Head.read?_eq_some_iff.1 hr).1
  simp only [Block.complete] at hb
  -- closed where the delimiter balances for the first time, or open to the end of the text
  split at hb
  · next hsplit =>
    obtain ⟨rfl, rfl⟩ := Prod.mk.inj hb
    obtain ⟨-, hnever, hdepth⟩ := splitAtClose_eq_some_iff.1 hsplit
    exact ⟨⟨hw, hnever, fun _ => by simpa using hdepth⟩, fun h => by cases h⟩
  · next hsplit =>
    obtain ⟨rfl, rfl⟩ := Prod.mk.inj hb
    exact ⟨⟨hw, splitAtClose_eq_none_iff.1 hsplit, fun h => by cases h⟩, fun _ => rfl⟩

/-- Anything can stand behind a block with its closing delimiter. -/
theorem Block.eq_nil_of_not_closed {b : Block} (h : b.closed = true) {t : List Char}
    (hopen : b.closed = false) : t = [] := by
  rw [h] at hopen
  cases hopen

/-- The head of a block and the block itself are found at the beginning of a text by the text of the
block alone. -/
theorem Block.WellFormed.read?_text_append {b : Block} (hb : b.WellFormed) {t : List Char}
    (ht : b.closed = false → t = []) : ∃ rest, Head.read? (b.text ++ t) = some (b.head, rest) ∧
      Block.complete b.head rest = (b, t) := by
  obtain ⟨head, body, closed⟩ := b
  refine ⟨body ++ (if closed then [closerOf head.opener] else []) ++ t,
    Head.read?_eq_some_iff.2 ⟨hb.head, by simp [Block.text]⟩, ?_⟩
  -- a closed body balances at its closer for the first time; an open one takes the rest, which is
  -- empty
  cases closed with
  | true =>
    have hsplit : splitAtClose (closerOf head.opener) 0 (body ++ closerOf head.opener :: t) =
        some (body, t) :=
      splitAtClose_eq_some_iff.2 ⟨rfl, hb.neverCloses, by simpa using hb.depth rfl⟩
    simp [Block.complete, hsplit]
  | false =>
    obtain rfl := ht rfl
    simp [Block.complete, splitAtClose_eq_none_iff.2 hb.neverCloses]

theorem nextBlock?_text_append {b : Block} (hb : b.WellFormed) {t : List Char}
    (ht : b.closed = false → t = []) : nextBlock? (b.text ++ t) = some ([], b, t) := by
  obtain ⟨rest, hread, hcomplete⟩ := hb.read?_text_append ht
  refine nextBlock?_eq_some_iff.2 ⟨_, b.head, rest, rfl, ?_, hread, hcomplete⟩
  intro p q hpq hq
  exact absurd (List.append_eq_nil_iff.1 hpq.symm).2 hq

/-- A gap before a text is a gap before its first block. -/
theorem nextBlock?_append_of_gap {g next : List Char} (hg : IsGap g) (hnext : EndsGap next) :
    nextBlock? (g ++ next) = (nextBlock? next).map fun p => (g ++ p.1, p.2) := by
  induction g with
  | nil => simp
  | cons c g ih =>
    have hread := isGap_iff.1 hg (c :: g) (List.suffix_refl _)
    have hnone := Head.read?_append_eq_none (by simp) hread hnext
    rw [List.cons_append] at hnone
    rw [List.cons_append, nextBlock?, hnone]
    simp only [ih (hg.of_infix (List.suffix_cons c g).isInfix), Option.map_map]
    rfl

theorem nextBlock?_append_of_allBlank {w : List Char} (hw : AllBlank w) (s : List Char) :
    nextBlock? (w ++ s) = (nextBlock? s).map fun p => (w ++ p.1, p.2) := by
  induction w with
  | nil => simp
  | cons c w ih =>
    have hc : c ≠ '@' := ne_of_isBlank (hw c List.mem_cons_self) (by decide)
    simp only [List.cons_append, nextBlock?, Head.read?, if_neg hc,
      ih fun d hd => hw d (List.mem_cons_of_mem _ hd), Option.map_map]
    rfl

theorem isGap_of_allBlank {w : List Char} (hw : AllBlank w) : IsGap w := by
  have h := nextBlock?_append_of_allBlank hw []
  rwa [List.append_nil] at h

/-! ## §4 Cutting up a composed text -/

theorem segment_of_gap {s : List Char} (h : IsGap s) : segment s = ⟨[], s⟩ := by
  rw [segment]
  split
  · rfl
  · next hs => rw [IsGap, hs] at h; cases h

@[simp]
theorem segment_nil : segment [] = ⟨[], []⟩ := segment_of_gap (isGap_of_allBlank .nil)

theorem segment_of_nextBlock? {s gap rest : List Char} {block : Block}
    (h : nextBlock? s = some (gap, block, rest)) :
    segment s = ⟨(gap, block) :: (segment rest).blocks, (segment rest).trailing⟩ := by
  rw [segment]
  split
  · next hs => rw [h] at hs; cases hs
  · next hs => rw [h] at hs; cases hs; rfl

/-- A text in front of the first gap. -/
def Segmented.prepend (g : List Char) : Segmented → Segmented
  | ⟨[], trailing⟩ => ⟨[], g ++ trailing⟩
  | ⟨(gap, b) :: blocks, trailing⟩ => ⟨(g ++ gap, b) :: blocks, trailing⟩

/-- Helper: what comes before the first block of a text comes before its first gap. -/
private theorem segment_append_of_nextBlock? {g s : List Char}
    (h : nextBlock? (g ++ s) = (nextBlock? s).map fun p => (g ++ p.1, p.2)) :
    segment (g ++ s) = (segment s).prepend g := by
  -- with no block behind it the text is gap throughout; else only the first gap grows
  cases hs : nextBlock? s with
  | none =>
    rw [hs] at h
    rw [segment_of_gap h, segment_of_gap hs]
    rfl
  | some found =>
    obtain ⟨gap, block, rest⟩ := found
    rw [hs] at h
    rw [segment_of_nextBlock? h, segment_of_nextBlock? hs]
    rfl

theorem segment_append_of_gap {g next : List Char} (hg : IsGap g) (hnext : EndsGap next) :
    segment (g ++ next) = (segment next).prepend g :=
  segment_append_of_nextBlock? (nextBlock?_append_of_gap hg hnext)

theorem segment_append_of_allBlank {w : List Char} (hw : AllBlank w) (s : List Char) :
    segment (w ++ s) = (segment s).prepend w :=
  segment_append_of_nextBlock? (nextBlock?_append_of_allBlank hw s)

/-- A block before a text is its first block; without a closing delimiter it takes all of the
text. -/
theorem segment_text_append {b : Block} (hb : b.WellFormed) {t : List Char}
    (ht : b.closed = false → t = []) :
    segment (b.text ++ t) = ⟨([], b) :: (segment t).blocks, (segment t).trailing⟩ :=
  segment_of_nextBlock? (nextBlock?_text_append hb ht)

end Bibliography
