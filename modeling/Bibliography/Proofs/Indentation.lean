import Bibliography.Layout.Render
import Bibliography.Settings.Options
import Bibliography.Proofs.Blanks
import Bibliography.Proofs.Nesting

/-!
# Indentation of texts

What moving the lines of a text does and does not do. An indentation consists of spaces and tabs, so
it holds no line break, and the blanks that a line begins with are replaced and never added to.
Moving a text a second time therefore forgets the first time, and the braces of a text stay as they
are.

Main statements: moving a text twice (`reindent_reindent`), its marks (`filter_isMark_reindent`), and a
value that is written at an indentation is the value with its texts moved (`Value.render_reindented`).
-/

namespace Bibliography

open Text

/-! ## §1 Lines -/

namespace Text

/-- Helper: no part of a text that has been cut holds the separator. -/
theorem not_mem_of_mem_splitOn {sep : Char} {s : List Char} :
    ∀ part ∈ splitOn sep s, sep ∉ part := by
  induction s with
  | nil => simp [splitOn]
  | cons c s ih =>
    obtain ⟨part, parts, hs⟩ := List.exists_cons_of_ne_nil (splitOn_ne_nil sep s)
    rw [hs] at ih
    by_cases hc : c = sep
    · simpa [splitOn, hc, hs] using ih
    · have hne : sep ≠ c := fun h => hc h.symm
      simpa [splitOn, hc, hs, hne] using ih

theorem mem_of_mem_splitOn {sep c : Char} {s part : List Char} (h : part ∈ splitOn sep s)
    (hc : c ∈ part) : c ∈ s := by
  induction s generalizing part with
  | nil =>
    obtain rfl := List.mem_singleton.1 h
    exact hc
  | cons d s ih =>
    obtain ⟨first, rest, hs⟩ := List.exists_cons_of_ne_nil (splitOn_ne_nil sep s)
    rw [hs] at ih
    -- at the separator a new part begins, without any character yet
    by_cases hd : d = sep
    · rw [splitOn, if_pos hd, hs] at h
      rcases List.mem_cons.1 h with rfl | h
      · cases hc
      · exact List.mem_cons_of_mem _ (ih h hc)
    · -- any other character joins the first part
      simp only [splitOn, if_neg hd, hs] at h
      rcases List.mem_cons.1 h with rfl | h
      · rcases List.mem_cons.1 hc with rfl | hc
        · exact List.mem_cons_self
        · exact List.mem_cons_of_mem _ (ih List.mem_cons_self hc)
      · exact List.mem_cons_of_mem _ (ih (List.mem_cons_of_mem _ h) hc)

theorem splitOn_of_not_mem {sep : Char} {s : List Char} (h : sep ∉ s) : splitOn sep s = [s] := by
  induction s with
  | nil => rfl
  | cons c s ih =>
    rw [List.mem_cons, not_or] at h
    have hc : c ≠ sep := fun hc => h.1 hc.symm
    simp [splitOn, hc, ih h.2]

theorem splitOn_append_cons {sep : Char} {s : List Char} (h : sep ∉ s) (t : List Char) :
    splitOn sep (s ++ sep :: t) = s :: splitOn sep t := by
  induction s with
  | nil => simp [splitOn]
  | cons c s ih =>
    rw [List.mem_cons, not_or] at h
    have hc : c ≠ sep := fun hc => h.1 hc.symm
    simp [splitOn, hc, ih h.2]

/-- Parts without the separator are found again after they have been joined. -/
theorem splitOn_joinWith {sep : Char} {parts : List (List Char)} (hne : parts ≠ [])
    (h : ∀ part ∈ parts, sep ∉ part) : splitOn sep (joinWith [sep] parts) = parts := by
  induction parts with
  | nil => exact absurd rfl hne
  | cons part parts ih =>
    have hpart := h part List.mem_cons_self
    cases parts with
    | nil => exact splitOn_of_not_mem hpart
    | cons next parts =>
      have hrec := ih (by simp) fun p hp => h p (List.mem_cons_of_mem _ hp)
      -- the first part holds no separator, so it ends where the separator was put
      rw [joinWith_cons_cons, List.append_assoc, List.singleton_append, splitOn_append_cons hpart,
        hrec]

theorem mem_joinWith {sep : List Char} {parts : List (List Char)} {c : Char}
    (h : c ∈ joinWith sep parts) : c ∈ sep ∨ ∃ part ∈ parts, c ∈ part := by
  induction parts with
  | nil => cases h
  | cons part parts ih =>
    cases parts with
    | nil => exact .inr ⟨part, List.mem_cons_self, h⟩
    | cons next parts =>
      rw [joinWith_cons_cons, List.mem_append, List.mem_append] at h
      -- the character comes from the first part, the separator behind it or the parts that follow
      rcases h with (hpart | hsep) | hrest
      · exact .inr ⟨part, List.mem_cons_self, hpart⟩
      · exact .inl hsep
      · rcases ih hrest with hsep | ⟨p, hp, hc⟩
        · exact .inl hsep
        · exact .inr ⟨p, List.mem_cons_of_mem _ hp, hc⟩

theorem not_mem_unifyBreaks (s : List Char) : '\r' ∉ unifyBreaks s := by
  fun_induction unifyBreaks s with
  | case1 => simp
  | case2 s ih => simpa using ih
  | case3 c s _ ih =>
    have hc : '\r' ≠ if c = '\r' then '\n' else c := by
      split
      · decide
      · next h => exact fun he => h he.symm
    simpa [hc] using ih

theorem unifyBreaks_of_not_mem {s : List Char} (h : '\r' ∉ s) : unifyBreaks s = s := by
  fun_induction unifyBreaks s with
  | case1 => rfl
  | case2 s ih => simp at h
  | case3 c s _ ih =>
    rw [List.mem_cons, not_or] at h
    have hc : c ≠ '\r' := fun hc => h.1 hc.symm
    simp [hc, ih h.2]

/-- A text without line breaks. -/
def IsLine (s : List Char) : Prop := '\n' ∉ s ∧ '\r' ∉ s

theorem IsLine.append {s t : List Char} (hs : IsLine s) (ht : IsLine t) : IsLine (s ++ t) := by
  simp only [IsLine, List.mem_append, not_or]
  exact ⟨⟨hs.1, ht.1⟩, ⟨hs.2, ht.2⟩⟩

theorem IsLine.trimLeft {s : List Char} (h : IsLine s) : IsLine (trimLeft s) :=
  ⟨fun hc => h.1 ((trimLeft_suffix s).subset hc), fun hc => h.2 ((trimLeft_suffix s).subset hc)⟩

/-- Every text has a first line. -/
theorem exists_breakLines (s : List Char) : ∃ first rest, breakLines s = first :: rest :=
  List.exists_cons_of_ne_nil (splitOn_ne_nil '\n' (unifyBreaks s))

theorem isLine_of_mem_breakLines {s line : List Char} (h : line ∈ breakLines s) : IsLine line :=
  ⟨not_mem_of_mem_splitOn line h, fun hc => not_mem_unifyBreaks s (mem_of_mem_splitOn h hc)⟩

/-- Lines are found again after they have been joined. -/
theorem breakLines_joinWith {lines : List (List Char)} (hne : lines ≠ [])
    (h : ∀ line ∈ lines, IsLine line) : breakLines (joinWith ['\n'] lines) = lines := by
  -- no line holds a carriage return, so the joined text is cut as it is
  have hreturn : '\r' ∉ joinWith ['\n'] lines := by
    intro hc
    rcases mem_joinWith hc with hsep | ⟨line, hline, hc⟩
    · exact absurd hsep (by decide)
    · exact (h line hline).2 hc
  rw [breakLines, unifyBreaks_of_not_mem hreturn]
  exact splitOn_joinWith hne fun line hline => (h line hline).1

end Text

/-! ## §2 Indentations -/

/-- An indentation: spaces and tabs. -/
def IsIndent (p : List Char) : Prop := ∀ c ∈ p, c = ' ' ∨ c = '\t'

namespace IsIndent

variable {p : List Char}

theorem allBlank (h : IsIndent p) : AllBlank p := by
  intro c hc
  rcases h c hc with rfl | rfl <;> decide

theorem isLine (h : IsIndent p) : IsLine p := by
  constructor
  · intro hc
    exact absurd (h _ hc) (by decide)
  · intro hc
    exact absurd (h _ hc) (by decide)

theorem append_spaces (h : IsIndent p) (n : Nat) : IsIndent (p ++ spaces n) := by
  intro c hc
  rcases List.mem_append.1 hc with hp | hs
  · exact h c hp
  · exact .inl (List.eq_of_mem_replicate hs)

end IsIndent

theorem isIndent_spaces (n : Nat) : IsIndent (spaces n) := fun _ hc =>
  .inl (List.eq_of_mem_replicate hc)

/-! ## §3 Moving texts -/

theorem reindent_eq_of_breakLines {p content first : List Char} {rest : List (List Char)}
    (h : breakLines content = first :: rest) :
    reindent p content = joinWith ['\n'] (first :: rest.map fun line => p ++ trimLeft line) := by
  rw [reindent, h]

/-- Lines that are moved are lines. -/
theorem isLine_of_mem_moved {p content first : List Char} {rest : List (List Char)} (hp : IsLine p)
    (h : breakLines content = first :: rest) :
    ∀ line ∈ first :: rest.map (fun line => p ++ trimLeft line), IsLine line := by
  intro line hl
  rcases List.mem_cons.1 hl with rfl | hl
  · exact isLine_of_mem_breakLines (h ▸ List.mem_cons_self)
  · obtain ⟨l, hmem, rfl⟩ := List.mem_map.1 hl
    have hl : IsLine l := isLine_of_mem_breakLines (h ▸ List.mem_cons_of_mem _ hmem)
    exact hp.append hl.trimLeft

/-- Moving a text keeps its lines, all but the first behind the indentation. -/
theorem breakLines_reindent {p content first : List Char} {rest : List (List Char)} (hp : IsLine p)
    (h : breakLines content = first :: rest) :
    breakLines (reindent p content) = first :: rest.map fun line => p ++ trimLeft line := by
  rw [reindent_eq_of_breakLines h]
  exact breakLines_joinWith (List.cons_ne_nil _ _) (isLine_of_mem_moved hp h)

/-- Moving a text a second time forgets where it was moved first. -/
theorem reindent_reindent {p : List Char} (hp : IsIndent p) (q content : List Char) :
    reindent q (reindent p content) = reindent q content := by
  obtain ⟨first, rest, hlines⟩ := exists_breakLines content
  have hagain := breakLines_reindent hp.isLine hlines
  rw [reindent_eq_of_breakLines hagain, reindent_eq_of_breakLines hlines, List.map_map]
  -- the blanks that the first move put in front of a line go with the second
  have hcomp : (fun line => q ++ trimLeft line) ∘ (fun line => p ++ trimLeft line) =
      fun line => q ++ trimLeft line := by
    funext line
    simp only [Function.comp_apply]
    rw [trimLeft_append_left hp.allBlank, trimLeft_trimLeft]
  rw [hcomp]

theorem filter_isMark_joinWith {sep : List Char} (hsep : sep.filter isMark = [])
    (parts : List (List Char)) :
    (joinWith sep parts).filter isMark = parts.flatMap (·.filter isMark) := by
  induction parts with
  | nil => rfl
  | cons part parts ih =>
    cases parts with
    | nil => simp [joinWith]
    | cons next parts =>
      rw [joinWith_cons_cons, List.filter_append, List.filter_append, hsep, ih]
      simp

theorem filter_isMark_trimLeft (s : List Char) :
    (trimLeft s).filter isMark = s.filter isMark := by
  conv => rhs; rw [← takeWhile_blank_append_trimLeft s]
  rw [List.filter_append, filter_isMark_of_blank (allBlank_takeWhile s), List.nil_append]

theorem filter_isMark_unifyBreaks (s : List Char) :
    (unifyBreaks s).filter isMark = s.filter isMark := by
  have hfeed : isMark '\n' = false := by decide
  have hreturn : isMark '\r' = false := by decide
  fun_induction unifyBreaks s with
  | case1 => rfl
  | case2 s ih => simp [hfeed, hreturn, ih]
  | case3 c s _ ih =>
    by_cases hc : c = '\r'
    · simp [hc, hfeed, hreturn, ih]
    · simp [hc, List.filter_cons, ih]

/-- The braces and quotation marks of a text stay when it is moved. -/
theorem filter_isMark_reindent {p : List Char} (hp : IsIndent p) (content : List Char) :
    (reindent p content).filter isMark = content.filter isMark := by
  have hfeed : ['\n'].filter isMark = [] := by decide
  obtain ⟨first, rest, hlines⟩ := exists_breakLines content
  -- neither the indentation nor the blanks it replaces hold a mark
  have hline : (fun line => (p ++ trimLeft line).filter isMark) = (·.filter isMark) := by
    funext line
    rw [List.filter_append, filter_isMark_of_blank hp.allBlank, filter_isMark_trimLeft,
      List.nil_append]
  have hjoin := joinWith_splitOn '\n' (unifyBreaks content)
  rw [← breakLines, hlines] at hjoin
  -- line by line on both sides, since line feeds are no marks either
  calc (reindent p content).filter isMark
      = (first :: rest).flatMap (·.filter isMark) := by
        rw [reindent_eq_of_breakLines hlines, filter_isMark_joinWith hfeed, List.flatMap_cons,
          List.flatMap_map, hline, List.flatMap_cons]
    _ = content.filter isMark := by
        rw [← filter_isMark_joinWith hfeed, hjoin, filter_isMark_unifyBreaks]

/-! ## §4 Moving values -/

mutual

/-- A value with its texts moved to an indentation. -/
def Value.reindented (p : List Char) : Value → Value
  | .text content => .text (String.ofList (reindent p content.toList))
  | .number content => .number content
  | .abbreviation content => .abbreviation content
  | .concat parts => .concat (Value.reindentedParts p parts)

/-- The parts of a value, each with its texts moved. -/
def Value.reindentedParts (p : List Char) : List Value → List Value
  | [] => []
  | v :: vs => v.reindented p :: Value.reindentedParts p vs

end

theorem Value.reindentedParts_eq_map (p : List Char) (vs : List Value) :
    Value.reindentedParts p vs = vs.map (Value.reindented p) := by
  induction vs with
  | nil => rfl
  | cons v vs ih => simp only [Value.reindentedParts, List.map_cons, ih]

mutual

/-- What is written at an indentation is the value with its texts moved. -/
theorem Value.render_reindented (d : Delimiters) {p : List Char} (hp : p ≠ []) :
    ∀ v : Value, v.render d p = (v.reindented p).render d []
  | .text content => by
    have he : p.isEmpty = false := List.isEmpty_eq_false_iff.2 hp
    simp [Value.render, Value.reindented, placeText, he]
  | .number _ => rfl
  | .abbreviation _ => rfl
  | .concat parts => by
    simp only [Value.render, Value.reindented, Value.renderParts_reindented d hp parts]

theorem Value.renderParts_reindented (d : Delimiters) {p : List Char} (hp : p ≠ []) :
    ∀ vs : List Value,
      Value.renderParts d p vs = Value.renderParts d [] (Value.reindentedParts p vs)
  | [] => rfl
  | v :: vs => by
    simp only [Value.renderParts, Value.reindentedParts, Value.render_reindented d hp v,
      Value.renderParts_reindented d hp vs]

end

mutual

/-- Moving the texts of a value a second time forgets where they were moved first. -/
theorem Value.reindented_reindented {p : List Char} (hp : IsIndent p) (q : List Char) :
    ∀ v : Value, (v.reindented p).reindented q = v.reindented q
  | .text content => by
    simp only [Value.reindented, String.toList_ofList, reindent_reindent hp]
  | .number _ => rfl
  | .abbreviation _ => rfl
  | .concat parts => by
    simp only [Value.reindented, Value.reindentedParts_reindentedParts hp q parts]

theorem Value.reindentedParts_reindentedParts {p : List Char} (hp : IsIndent p) (q : List Char) :
    ∀ vs : List Value,
      Value.reindentedParts q (Value.reindentedParts p vs) = Value.reindentedParts q vs
  | [] => rfl
  | v :: vs => by
    simp only [Value.reindentedParts, Value.reindented_reindented hp q v,
      Value.reindentedParts_reindentedParts hp q vs]

end

end Bibliography
