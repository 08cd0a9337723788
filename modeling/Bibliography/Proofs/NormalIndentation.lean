import Bibliography.Proofs.Indentation
import Mathlib.Data.List.Forall2

/-!
# The normal form of an indentation

A value that has been moved to an indentation no longer shows how it was laid out before. Two values
are moved to the same one exactly if they have the same lines, apart from the blanks in front of all
lines but the first of a text, whichever line breaks they use (`Value.reindented_eq_iff`). So a value
may be moved several times, and only the last time counts, and writing it at an indentation is
writing the moved value verbatim.

Lines end at a line feed, a carriage return, or both in this order, which are one line break. The
lines that are computed from unified breaks are those (`Text.hasLines_iff`).

Main statement: `Value.isNormalForm_reindented`.
-/

namespace Bibliography

open Text

/-! ## §1 Lines -/

namespace Text

/-- A line break with what follows it. A carriage return is one if no line feed follows. -/
inductive IsBreak : List Char → List Char → Prop
  | both {s : List Char} : IsBreak ['\r', '\n'] s
  | lineFeed {s : List Char} : IsBreak ['\n'] s
  | carriageReturn {s : List Char} : '\n' ∉ s.head? → IsBreak ['\r'] s

/-- The lines of a text: those before its line breaks, and the one behind the last break. -/
inductive HasLines : List Char → List (List Char) → Prop
  | last {line : List Char} : IsLine line → HasLines line [line]
  | next {line sep s : List Char} {lines : List (List Char)} :
      IsLine line → IsBreak sep s → HasLines s lines → HasLines (line ++ sep ++ s) (line :: lines)

theorem unifyBreaks_cons {c : Char} (hc : c ≠ '\r') (s : List Char) :
    unifyBreaks (c :: s) = c :: unifyBreaks s := by
  rw [unifyBreaks, if_neg hc]
  rintro rest rfl
  exact absurd rfl hc

theorem unifyBreaks_append {line : List Char} (h : '\r' ∉ line) (s : List Char) :
    unifyBreaks (line ++ s) = line ++ unifyBreaks s := by
  induction line with
  | nil => rfl
  | cons c line ih =>
    rw [List.mem_cons, not_or] at h
    rw [List.cons_append, unifyBreaks_cons (Ne.symm h.1), ih h.2, List.cons_append]

/-- Every line break becomes a line feed. -/
theorem IsBreak.unifyBreaks_append {sep s : List Char} (h : IsBreak sep s) :
    unifyBreaks (sep ++ s) = '\n' :: unifyBreaks s := by
  cases h with
  | both => rfl
  | lineFeed => exact unifyBreaks_cons (by decide) s
  -- a carriage return ends its line alone, since no line feed follows it
  | carriageReturn hs =>
    match s with
    | [] => rfl
    | c :: s =>
      have hc : c ≠ '\n' := fun hc => hs (by rw [hc]; rfl)
      rw [List.singleton_append, unifyBreaks, if_pos rfl]
      rintro rest - heq
      exact hc (List.cons.inj heq).1

theorem breakLines_of_isLine {line : List Char} (h : IsLine line) : breakLines line = [line] := by
  rw [breakLines, unifyBreaks_of_not_mem h.2, splitOn_of_not_mem h.1]

theorem breakLines_append {line sep : List Char} (hline : IsLine line) {s : List Char}
    (hsep : IsBreak sep s) : breakLines (line ++ sep ++ s) = line :: breakLines s := by
  rw [breakLines, List.append_assoc, Text.unifyBreaks_append hline.2, hsep.unifyBreaks_append,
    splitOn_append_cons hline.1, breakLines]

theorem HasLines.eq {s : List Char} {lines : List (List Char)} (h : HasLines s lines) :
    lines = breakLines s := by
  induction h with
  | last hline => exact (breakLines_of_isLine hline).symm
  | next hline hsep _ ih => rw [breakLines_append hline hsep, ih]

/-- Helper: a character that ends no line belongs to the first one. -/
private theorem HasLines.cons {s : List Char} {lines : List (List Char)} (h : HasLines s lines)
    {c : Char} (hc : IsLine [c]) : ∃ lines, HasLines (c :: s) lines := by
  cases h with
  | last hline => exact ⟨_, .last (hc.append hline)⟩
  | next hline hsep hrest => exact ⟨_, .next (hc.append hline) hsep hrest⟩

theorem exists_hasLines (s : List Char) : ∃ lines, HasLines s lines := by
  have hnil : IsLine [] := ⟨List.not_mem_nil, List.not_mem_nil⟩
  -- the line breaks are those that the unification looks for, in the order of its cases
  fun_induction unifyBreaks s with
  | case1 => exact ⟨[[]], .last hnil⟩
  | case2 s ih =>
    obtain ⟨lines, hlines⟩ := ih
    exact ⟨[] :: lines, .next hnil .both hlines⟩
  | case3 c s hboth ih =>
    obtain ⟨lines, hlines⟩ := ih
    -- the pair of both was excluded by the case before
    by_cases hreturn : c = '\r'
    · subst hreturn
      refine ⟨[] :: lines, .next hnil (.carriageReturn fun hfeed => ?_) hlines⟩
      obtain ⟨rest, rfl⟩ := List.head?_eq_some_iff.1 hfeed
      exact hboth rest rfl rfl
    · by_cases hfeed : c = '\n'
      · subst hfeed
        exact ⟨[] :: lines, .next hnil .lineFeed hlines⟩
      · -- any other character stands on the line that is there
        refine hlines.cons ⟨fun hc => ?_, fun hc => ?_⟩
        · exact hfeed (List.mem_singleton.1 hc).symm
        · exact hreturn (List.mem_singleton.1 hc).symm

/-- A text is cut into its lines. -/
theorem hasLines_iff {s : List Char} {lines : List (List Char)} :
    HasLines s lines ↔ lines = breakLines s := by
  constructor
  · exact HasLines.eq
  · rintro rfl
    obtain ⟨lines, hlines⟩ := exists_hasLines s
    exact hlines.eq ▸ hlines

end Text

/-! ## §2 Moving values -/

namespace Value

/-- What a value is moved to at an indentation: every line of a text but the first loses the blanks in
front of it and has the indentation instead, and line feeds stand between the lines. -/
inductive MovesTo (p : List Char) : Value → Value → Prop
  | text {content : String} {first : List Char} {rest : List (List Char)} :
      HasLines content.toList (first :: rest) →
      MovesTo p (.text content) (.text (String.ofList
        (joinWith ['\n'] (first :: rest.map fun line => p ++ trimLeft line))))
  | number {content : String} : MovesTo p (.number content) (.number content)
  | abbreviation {content : String} : MovesTo p (.abbreviation content) (.abbreviation content)
  | concat {parts moved : List Value} :
      List.Forall₂ (MovesTo p) parts moved → MovesTo p (.concat parts) (.concat moved)

/-- Two values of the same shape whose texts have the same lines, apart from the blanks in front of
all lines but the first. -/
inductive SharesLines : Value → Value → Prop
  | text {content other : String} {first : List Char} {rest others : List (List Char)} :
      HasLines content.toList (first :: rest) → HasLines other.toList (first :: others) →
      List.Forall₂ (fun line line' => trimLeft line = trimLeft line') rest others →
      SharesLines (.text content) (.text other)
  | number {content : String} : SharesLines (.number content) (.number content)
  | abbreviation {content : String} :
      SharesLines (.abbreviation content) (.abbreviation content)
  | concat {parts others : List Value} :
      List.Forall₂ SharesLines parts others → SharesLines (.concat parts) (.concat others)

/-- Helper: every text has a first line. -/
private theorem exists_hasLines_cons (s : List Char) :
    ∃ first rest, breakLines s = first :: rest ∧ HasLines s (first :: rest) := by
  obtain ⟨first, rest, hlines⟩ := exists_breakLines s
  exact ⟨first, rest, hlines, hasLines_iff.2 hlines.symm⟩

theorem movesTo_text_iff {p : List Char} {content : String} {w : Value} :
    MovesTo p (.text content) w ↔ w = (Value.text content).reindented p := by
  obtain ⟨first, rest, hlines, hhas⟩ := exists_hasLines_cons content.toList
  rw [reindented, reindent_eq_of_breakLines hlines]
  constructor
  · rintro (@⟨_, first', rest', hhas'⟩)
    obtain ⟨rfl, rfl⟩ := List.cons.inj (hhas.eq.trans hhas'.eq.symm)
    rfl
  · rintro rfl
    exact .text hhas

mutual

/-- A value is moved in one way only. -/
theorem movesTo_iff {p : List Char} :
    ∀ (v : Value) {w : Value}, MovesTo p v w ↔ w = v.reindented p
  | .text _, _ => movesTo_text_iff
  | .number _, _ => ⟨fun h => by cases h; rfl, fun h => h ▸ .number⟩
  | .abbreviation _, _ => ⟨fun h => by cases h; rfl, fun h => h ▸ .abbreviation⟩
  -- part by part, with the mutual statement for the list
  | .concat parts, w => by
    rw [reindented]
    constructor
    · intro h
      cases h with
      | concat h => rw [(forall₂_movesTo_iff parts).1 h]
    · rintro rfl
      exact .concat ((forall₂_movesTo_iff parts).2 rfl)

theorem forall₂_movesTo_iff {p : List Char} : ∀ (vs : List Value) {ws : List Value},
    List.Forall₂ (MovesTo p) vs ws ↔ ws = reindentedParts p vs
  | [], _ => List.forall₂_nil_left_iff
  | v :: vs, ws => by
    rw [List.forall₂_cons_left_iff, reindentedParts]
    constructor
    · rintro ⟨w, rest, hv, hvs, rfl⟩
      rw [(movesTo_iff v).1 hv, (forall₂_movesTo_iff vs).1 hvs]
    · rintro rfl
      exact ⟨_, _, (movesTo_iff v).2 rfl, (forall₂_movesTo_iff vs).2 rfl, rfl⟩

end

/-! ## §3 The normal form -/

/-- Two texts are moved to the same one if they share their lines. -/
theorem sharesLines_text_iff {p : List Char} (hp : IsIndent p) {content other : String} :
    SharesLines (.text content) (.text other) ↔
      reindent p content.toList = reindent p other.toList := by
  obtain ⟨first, rest, hlines, hhas⟩ := exists_hasLines_cons content.toList
  obtain ⟨first', rest', hlines', hhas'⟩ := exists_hasLines_cons other.toList
  have hsame : List.Forall₂ (fun line line' => trimLeft line = trimLeft line') rest rest' ↔
      rest.map (fun line => p ++ trimLeft line) = rest'.map fun line => p ++ trimLeft line := by
    conv_rhs =>
      rw [← List.forall₂_eq_eq_eq, List.forall₂_map_left_iff, List.forall₂_map_right_iff]
    simp only [List.append_cancel_left_eq]
  constructor
  · rintro (@⟨_, _, _, _, _, h, h', hrest⟩)
    obtain ⟨rfl, rfl⟩ := List.cons.inj (hhas.eq.trans h.eq.symm)
    obtain ⟨rfl, rfl⟩ := List.cons.inj (hhas'.eq.trans h'.eq.symm)
    rw [reindent_eq_of_breakLines hlines, reindent_eq_of_breakLines hlines', hsame.1 hrest]
  · intro h
    -- the lines of the moved text are those of both
    have hmoved := breakLines_reindent hp.isLine hlines
    rw [h, breakLines_reindent hp.isLine hlines'] at hmoved
    obtain ⟨rfl, hrest⟩ := List.cons.inj hmoved
    exact .text hhas hhas' (hsame.2 hrest.symm)

mutual

/-- Values are moved to the same one exactly if they share their lines. -/
theorem reindented_eq_iff {p : List Char} (hp : IsIndent p) :
    ∀ v w : Value, v.reindented p = w.reindented p ↔ SharesLines v w
  | .text content, .text other => by
    rw [sharesLines_text_iff hp, reindented, reindented, Value.text.injEq, String.ofList_inj]
  | .number content, .number other => by
    rw [reindented, reindented, Value.number.injEq]
    exact ⟨fun h => h ▸ .number, fun h => by cases h; rfl⟩
  | .abbreviation content, .abbreviation other => by
    rw [reindented, reindented, Value.abbreviation.injEq]
    exact ⟨fun h => h ▸ .abbreviation, fun h => by cases h; rfl⟩
  | .concat parts, .concat others => by
    rw [reindented, reindented, Value.concat.injEq, reindentedParts_eq_iff hp]
    exact ⟨.concat, fun h => by cases h; assumption⟩
  -- values of two kinds share no lines, and moving keeps the kind
  | .text _, .number _ | .text _, .abbreviation _ | .text _, .concat _
  | .number _, .text _ | .number _, .abbreviation _ | .number _, .concat _
  | .abbreviation _, .text _ | .abbreviation _, .number _ | .abbreviation _, .concat _
  | .concat _, .text _ | .concat _, .number _ | .concat _, .abbreviation _ => by
    constructor
    · intro h
      simp only [reindented, reduceCtorEq] at h
    · intro h
      cases h

theorem reindentedParts_eq_iff {p : List Char} (hp : IsIndent p) : ∀ vs ws : List Value,
    reindentedParts p vs = reindentedParts p ws ↔ List.Forall₂ SharesLines vs ws
  | [], [] => by simp [reindentedParts]
  | [], w :: ws => by simp [reindentedParts]
  | v :: vs, [] => by simp [reindentedParts]
  | v :: vs, w :: ws => by
    rw [reindentedParts, reindentedParts, List.cons.injEq, reindented_eq_iff hp v w,
      reindentedParts_eq_iff hp vs ws, List.forall₂_cons]

end

/-- The normal form of a value at an indentation. -/
structure IsNormalForm (p : List Char) (v n : Value) : Prop where
  /-- It is what the value is moved to, and nothing else is. -/
  movesTo_iff : ∀ m, MovesTo p v m ↔ m = n
  /-- Written verbatim, it is the value as it is written at the indentation. -/
  render_eq : ∀ l : Layout, v.render l.delimiters p = n.render l.delimiters []
  /-- Moved to any indentation, it becomes what the value becomes. -/
  again : ∀ q m, MovesTo q n m ↔ MovesTo q v m
  /-- It has the shape of the value, and its lines. -/
  sharesLines : SharesLines v n
  /-- It is the normal form of all values that share their lines with this one, and of no others. -/
  movesTo_iff_sharesLines : ∀ w, MovesTo p w n ↔ SharesLines v w

/-- A value that is moved to an indentation keeps its lines, and nothing of its earlier layout. -/
theorem isNormalForm_reindented (v : Value) {p : List Char} (hp : IsIndent p) (hne : p ≠ []) :
    IsNormalForm p v (v.reindented p) where
  movesTo_iff _ := movesTo_iff v
  render_eq l := render_reindented l.delimiters hne v
  again q m := by rw [movesTo_iff, movesTo_iff, reindented_reindented hp]
  sharesLines := (reindented_eq_iff hp v _).1 (reindented_reindented hp p v).symm
  movesTo_iff_sharesLines w := by rw [movesTo_iff, reindented_eq_iff hp]

/-- Three kinds of line breaks, of which one is made of two characters. -/
theorem isNormalForm_reindented_breaks : IsIndent ['\t'] ∧ ['\t'] ≠ [] ∧
    IsNormalForm ['\t'] (.concat [.text "a\r\n  b\r\rc\n", .number "1"])
      (.concat [.text "a\n\tb\n\t\n\tc\n\t", .number "1"]) :=
  have hp : IsIndent ['\t'] := by
    intro c hc
    exact .inr (List.mem_singleton.1 hc)
  have hne : ['\t'] ≠ [] := by decide
  ⟨hp, hne, isNormalForm_reindented (.concat [.text "a\r\n  b\r\rc\n", .number "1"]) hp hne⟩

end Value

end Bibliography
