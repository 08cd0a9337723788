import Bibliography.Delimiter
import Bibliography.Text.Blank

/-!
# Nesting of delimiters

Which texts the scanner for closing delimiters runs through. `NeverCloses` says that no closing
delimiter stands outside the braces of a text; a text is balanced when it closes what it opens and
never more than it has opened.

Main statements: the scanner stops exactly at the first admissible delimiter
(`splitAtClose_eq_some_iff`) and fails exactly on texts that never close
(`splitAtClose_eq_none_iff`). Both notions see nothing but the marks of a text
(`neverCloses_filter_isMark`), so blanks can be added and removed at will.
-/

namespace Bibliography

open Text

/-! ## §1 Texts that never close -/

/-- No `closer` stands outside the braces of a text, at whose start `depth` braces are open. -/
def NeverCloses (closer : Char) : Int → List Char → Prop
  | _, [] => True
  | depth, c :: s => ¬(c = closer ∧ depth = 0) ∧ NeverCloses closer (depth + braceWeight c) s

@[simp]
theorem neverCloses_nil (closer : Char) (depth : Int) : NeverCloses closer depth [] := trivial

@[simp]
theorem braceDepth_nil : braceDepth [] = 0 := rfl

@[simp]
theorem braceDepth_cons (c : Char) (s : List Char) :
    braceDepth (c :: s) = braceWeight c + braceDepth s := rfl

@[simp]
theorem braceDepth_append (s t : List Char) :
    braceDepth (s ++ t) = braceDepth s + braceDepth t := by
  induction s with
  | nil => simp
  | cons c s ih =>
    simp only [List.cons_append, braceDepth_cons, ih]
    omega

theorem neverCloses_append {closer : Char} {depth : Int} {s t : List Char} :
    NeverCloses closer depth (s ++ t) ↔
      NeverCloses closer depth s ∧ NeverCloses closer (depth + braceDepth s) t := by
  induction s generalizing depth with
  | nil => simp
  | cons c s ih =>
    simp only [List.cons_append, NeverCloses, ih, braceDepth_cons, and_assoc]
    rw [Int.add_assoc]

theorem splitAtClose_eq_none_iff {closer : Char} {depth : Int} {s : List Char} :
    splitAtClose closer depth s = none ↔ NeverCloses closer depth s := by
  induction s generalizing depth with
  | nil => simp [splitAtClose]
  | cons c s ih =>
    simp only [splitAtClose, NeverCloses]
    by_cases hc : c = closer ∧ depth = 0
    · simp [hc]
    · rw [if_neg hc, Option.map_eq_none_iff, ih]
      exact ⟨fun h => ⟨hc, h⟩, And.right⟩

/-- A text never closes when braces are open at every closing delimiter in it. -/
theorem neverCloses_iff_forall {closer : Char} {depth : Int} {s : List Char} :
    NeverCloses closer depth s ↔ ∀ p r, s = p ++ closer :: r → depth + braceDepth p ≠ 0 := by
  constructor
  · rintro h p r rfl hzero
    -- at the delimiter behind `p` the depth would be that of `p`
    have hclose := (neverCloses_append.1 h).2
    exact hclose.1 ⟨rfl, hzero⟩
  · intro h
    induction s generalizing depth with
    | nil => trivial
    | cons c s ih =>
      refine ⟨?_, ih fun p r hs => ?_⟩
      · rintro ⟨rfl, hdepth⟩
        exact h [] s rfl (by simpa using hdepth)
      · have hp := h (c :: p) r (by rw [hs, List.cons_append])
        rwa [braceDepth_cons, ← Int.add_assoc] at hp

instance (closer : Char) (depth : Int) (s : List Char) : Decidable (NeverCloses closer depth s) :=
  decidable_of_iff _ splitAtClose_eq_none_iff

/-- The scanner stops at a delimiter exactly when the text before it never closes and is left with
no brace open. -/
theorem splitAtClose_eq_some_iff {closer : Char} {depth : Int} {s inside rest : List Char} :
    splitAtClose closer depth s = some (inside, rest) ↔
      s = inside ++ closer :: rest ∧ NeverCloses closer depth inside ∧
        depth + braceDepth inside = 0 := by
  constructor
  · intro h
    obtain ⟨hs, hd⟩ := splitAtClose_eq_some h
    refine ⟨hs, ?_, hd⟩
    -- an admissible delimiter inside would contradict that none comes earlier
    exact neverCloses_iff_forall.2 fun p r hp => splitAtClose_first h hp
  · rintro ⟨rfl, hn, hd⟩
    induction inside generalizing depth with
    | nil => simp_all [splitAtClose]
    | cons c inside ih =>
      have hrec := ih hn.2 (by simp only [braceDepth_cons] at hd; omega)
      simp [splitAtClose, hn.1, hrec]

/-! ## §2 Marks -/

/-- Whether a character is a brace or a quotation mark. -/
def isMark (c : Char) : Bool := c == '{' || c == '}' || c == '"'

theorem braceWeight_of_not_isMark {c : Char} (h : isMark c = false) : braceWeight c = 0 := by
  simp only [isMark, Bool.or_eq_false_iff, beq_eq_false_iff_ne] at h
  simp [braceWeight, h.1.1, h.1.2]

theorem isMark_of_isBlank {c : Char} (h : isBlank c = true) : isMark c = false := by
  have key : isMark c = true → isBlank c = false := by
    simp only [isMark, Bool.or_eq_true, beq_iff_eq]
    rintro ((rfl | rfl) | rfl) <;> decide
  cases hm : isMark c with
  | false => rfl
  | true => rw [key hm] at h; cases h

theorem braceDepth_filter_isMark (s : List Char) :
    braceDepth (s.filter isMark) = braceDepth s := by
  induction s with
  | nil => rfl
  | cons c s ih =>
    cases hc : isMark c with
    | true => simp [hc, ih]
    | false => simp [hc, ih, braceWeight_of_not_isMark hc]

/-- Whether a text closes is decided by its marks. -/
theorem neverCloses_filter_isMark {closer : Char} (hcloser : isMark closer = true) (depth : Int)
    (s : List Char) : NeverCloses closer depth (s.filter isMark) ↔ NeverCloses closer depth s := by
  induction s generalizing depth with
  | nil => simp
  | cons c s ih =>
    cases hc : isMark c with
    | true => simp [hc, NeverCloses, ih]
    | false =>
      -- what is no mark neither closes the text nor changes the depth
      have hne : c ≠ closer := by
        rintro rfl
        rw [hcloser] at hc
        cases hc
      simp [hc, NeverCloses, ih, hne, braceWeight_of_not_isMark hc]

theorem filter_isMark_of_blank {w : List Char} (hw : ∀ c ∈ w, isBlank c = true) :
    w.filter isMark = [] := by
  rw [List.filter_eq_nil_iff]
  intro c hc
  simp [isMark_of_isBlank (hw c hc)]

theorem neverCloses_of_not_mem {closer : Char} {s : List Char} (h : closer ∉ s) (depth : Int) :
    NeverCloses closer depth s := by
  induction s generalizing depth with
  | nil => trivial
  | cons c s ih =>
    rw [List.mem_cons, not_or] at h
    exact ⟨fun hc => h.1 hc.1.symm, ih h.2 _⟩

/-- A text without braces. -/
def BraceFree (s : List Char) : Prop := '{' ∉ s ∧ '}' ∉ s

instance (s : List Char) : Decidable (BraceFree s) := inferInstanceAs (Decidable (_ ∧ _))

theorem braceFree_of_blank {w : List Char} (hw : ∀ c ∈ w, isBlank c = true) : BraceFree w :=
  ⟨fun h => absurd (hw _ h) (by decide), fun h => absurd (hw _ h) (by decide)⟩

theorem BraceFree.braceDepth {s : List Char} (h : BraceFree s) : braceDepth s = 0 := by
  induction s with
  | nil => rfl
  | cons c s ih =>
    obtain ⟨hleft, hright⟩ := h
    rw [List.mem_cons, not_or] at hleft hright
    have hc : braceWeight c = 0 := by
      simp [braceWeight, Ne.symm hleft.1, Ne.symm hright.1]
    rw [braceDepth_cons, hc, ih ⟨hleft.2, hright.2⟩]
    rfl

/-! ## §3 Balanced texts -/

/-- A text is balanced when no beginning of it closes more braces than it opens, and all that are
opened are closed. -/
structure Balanced (s : List Char) : Prop where
  nonneg : ∀ p, p <+: s → 0 ≤ braceDepth p
  depth : braceDepth s = 0

/-- At a brace that closes, the depth is positive. -/
theorem neverCloses_brace_iff {s : List Char} {depth : Int} (hd : 0 ≤ depth) :
    NeverCloses '}' depth s ↔ ∀ p, p <+: s → 0 ≤ depth + braceDepth p := by
  induction s generalizing depth with
  | nil => simp [hd]
  | cons c s ih =>
    simp only [NeverCloses, List.prefix_cons_iff]
    constructor
    · rintro ⟨hc, hs⟩ p (rfl | ⟨q, rfl, hq⟩)
      · simpa using hd
      · -- a closing brace is let through at a positive depth only, so the depth stays nonnegative
        have hstep : 0 ≤ depth + braceWeight c := by
          simp only [braceWeight]
          split
          · omega
          · split
            · next hb => have : depth ≠ 0 := fun hz => hc ⟨hb, hz⟩; omega
            · omega
        have := (ih hstep).1 hs q hq
        simp only [braceDepth_cons]
        omega
    · intro h
      -- the text up to the first character is a beginning of the text
      have hfirst := h [c] (Or.inr ⟨[], rfl, List.nil_prefix⟩)
      simp only [braceDepth_cons, braceDepth_nil] at hfirst
      refine ⟨?_, (ih (by omega)).2 fun q hq => ?_⟩
      · rintro ⟨rfl, rfl⟩
        simp [braceWeight] at hfirst
      · have := h (c :: q) (Or.inr ⟨q, rfl, hq⟩)
        simp only [braceDepth_cons] at this
        omega

theorem balanced_iff {s : List Char} : Balanced s ↔ NeverCloses '}' 0 s ∧ braceDepth s = 0 := by
  have h := @neverCloses_brace_iff s 0 (Int.le_refl 0)
  simp only [Int.zero_add] at h
  exact ⟨fun b => ⟨h.2 b.nonneg, b.depth⟩, fun b => ⟨h.1 b.1, b.2⟩⟩

instance (s : List Char) : Decidable (Balanced s) := decidable_of_iff _ balanced_iff.symm

namespace Balanced

theorem neverCloses {s : List Char} (h : Balanced s) : NeverCloses '}' 0 s := (balanced_iff.1 h).1

protected theorem nil : Balanced [] := balanced_iff.2 ⟨trivial, rfl⟩

theorem append {s t : List Char} (hs : Balanced s) (ht : Balanced t) : Balanced (s ++ t) := by
  rw [balanced_iff, neverCloses_append, braceDepth_append, hs.depth, ht.depth]
  exact ⟨⟨hs.neverCloses, ht.neverCloses⟩, rfl⟩

theorem of_braceFree {s : List Char} (h : BraceFree s) : Balanced s :=
  balanced_iff.2 ⟨neverCloses_of_not_mem h.2 0, h.braceDepth⟩

/-- A balanced text may be put between braces. -/
theorem braced {s : List Char} (h : Balanced s) : Balanced ('{' :: s ++ ['}']) := by
  -- inside, the depth stays one above that of the text, so the brace in front is not closed there
  have hs : NeverCloses '}' (0 + 1) s :=
    (neverCloses_brace_iff (by decide)).2 fun p hp => by have := h.nonneg p hp; omega
  have hd := h.depth
  rw [balanced_iff]
  constructor
  · simp only [List.cons_append, NeverCloses, neverCloses_append, braceWeight]
    refine ⟨by decide, hs, ?_, trivial⟩
    rw [hd]
    decide
  · simp only [List.cons_append, braceDepth_cons, braceDepth_append, hd]
    decide

/-- Balance is decided by the marks of a text. -/
theorem of_filter_eq {s t : List Char} (h : Balanced s)
    (heq : t.filter isMark = s.filter isMark) : Balanced t := by
  rw [balanced_iff, ← neverCloses_filter_isMark rfl, ← braceDepth_filter_isMark] at h ⊢
  rw [heq]
  exact h

/-- The scanner finds the end of a balanced text. -/
theorem splitAtClose {s : List Char} (h : Balanced s) (rest : List Char) :
    splitAtClose '}' 0 (s ++ '}' :: rest) = some (s, rest) :=
  splitAtClose_eq_some_iff.2 ⟨rfl, h.neverCloses, by rw [h.depth]; rfl⟩

end Balanced

end Bibliography
