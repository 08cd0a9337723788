import Bibliography.Text.Blank
import Mathlib.Data.List.TakeWhile

/-!
# Blanks around a text

Where a run of characters of one class ends, and what trimming does to a text that is put together
from blanks and other parts.

Main statements: a text is its trimmed form between blanks (`exists_eq_append_trim`), and trimming
does not see blanks that are added at either end (`trim_append_left`, `trim_append_right`).
-/

namespace Bibliography.Text

/-! ## §1 Runs -/

section Runs

variable {α : Type} {p : α → Bool} {run rest : List α}

theorem takeWhile_append_of_stop (hrun : ∀ c ∈ run, p c = true)
    (hrest : ∀ c ∈ rest.head?, p c = false) : (run ++ rest).takeWhile p = run := by
  rw [List.takeWhile_append_of_pos hrun]
  cases rest with
  | nil => simp
  | cons c rest => simp [hrest c rfl]

/-- A run does not go on behind the text that holds it if what follows begins with no character of
the class. -/
theorem takeWhile_append_of_head (l : List α) (hrest : ∀ c ∈ rest.head?, p c = false) :
    (l ++ rest).takeWhile p = l.takeWhile p := by
  induction l with
  | nil => exact takeWhile_append_of_stop (by simp) hrest
  | cons c l ih => rw [List.cons_append, List.takeWhile_cons, ih, List.takeWhile_cons]

theorem dropWhile_append_of_stop (hrun : ∀ c ∈ run, p c = true)
    (hrest : ∀ c ∈ rest.head?, p c = false) : (run ++ rest).dropWhile p = rest := by
  rw [List.dropWhile_append_of_pos hrun]
  cases rest with
  | nil => simp
  | cons c rest => simp [hrest c rfl]

theorem head?_dropWhile_eq_false (p : α → Bool) (l : List α) :
    ∀ c ∈ (l.dropWhile p).head?, p c = false := by
  intro c hc
  have h := List.head?_dropWhile_not p l
  rw [Option.mem_def] at hc
  rw [hc] at h
  simpa using h

/-- What stops a class of characters stops every smaller one. -/
theorem head?_eq_false_of_imp {q : α → Bool} (hpq : ∀ a, p a = true → q a = true) {l : List α}
    (hl : ∀ a ∈ l.head?, q a = false) : ∀ a ∈ l.head?, p a = false := by
  intro a ha
  cases hp : p a with
  | false => rfl
  | true => rw [← hl a ha, hpq a hp]

/-- What follows the first character outside a class is not seen. -/
theorem dropWhile_append_of_ne_nil {l : List α} (h : l.dropWhile p ≠ []) (rest : List α) :
    (l ++ rest).dropWhile p = l.dropWhile p ++ rest ∧
      (l ++ rest).takeWhile p = l.takeWhile p := by
  -- the run ends inside `l`, at the first character that is dropped no more
  have hstop : ∀ c ∈ (l.dropWhile p ++ rest).head?, p c = false := by
    have hstop := head?_dropWhile_eq_false p l
    obtain ⟨c, t, ht⟩ := List.exists_cons_of_ne_nil h
    rw [ht] at hstop ⊢
    exact hstop
  have hrun : ∀ c ∈ l.takeWhile p, p c = true := fun c hc => List.mem_takeWhile_imp hc
  have hl : l ++ rest = l.takeWhile p ++ (l.dropWhile p ++ rest) := by
    rw [← List.append_assoc, List.takeWhile_append_dropWhile]
  rw [hl]
  exact ⟨dropWhile_append_of_stop hrun hstop, takeWhile_append_of_stop hrun hstop⟩

end Runs

/-! ## §2 Blank texts -/

theorem ne_of_isBlank {c d : Char} (hc : isBlank c = true) (hd : isBlank d = false) : c ≠ d := by
  rintro rfl
  rw [hc] at hd
  cases hd

/-- A text that consists of blanks. -/
def AllBlank (s : List Char) : Prop := ∀ c ∈ s, isBlank c = true

instance (s : List Char) : Decidable (AllBlank s) :=
  List.decidableBAll (fun c => isBlank c = true) s

namespace AllBlank

protected theorem nil : AllBlank [] := fun _ h => by cases h

protected theorem singleton {c : Char} (h : isBlank c = true) : AllBlank [c] := by
  intro d hd
  obtain rfl := List.mem_singleton.1 hd
  exact h

theorem not_mem {w : List Char} (hw : AllBlank w) {c : Char} (hc : isBlank c = false) : c ∉ w :=
  fun hmem => ne_of_isBlank (hw c hmem) hc rfl

theorem append {s t : List Char} (hs : AllBlank s) (ht : AllBlank t) : AllBlank (s ++ t) := by
  intro c hc
  rcases List.mem_append.1 hc with h | h
  · exact hs c h
  · exact ht c h

end AllBlank

theorem trimLeft_eq_nil_iff {s : List Char} : trimLeft s = [] ↔ AllBlank s :=
  List.dropWhile_eq_nil_iff

theorem trimLeft_append_left {w : List Char} (hw : AllBlank w) (s : List Char) :
    trimLeft (w ++ s) = trimLeft s :=
  List.dropWhile_append_of_pos hw

theorem trimLeft_append_of_ne_nil {s : List Char} (h : trimLeft s ≠ []) (t : List Char) :
    trimLeft (s ++ t) = trimLeft s ++ t :=
  (dropWhile_append_of_ne_nil h t).1

theorem allBlank_takeWhile (s : List Char) : AllBlank (s.takeWhile isBlank) :=
  fun _ hc => List.mem_takeWhile_imp hc

theorem trimLeft_trimLeft (s : List Char) : trimLeft (trimLeft s) = trimLeft s := by
  have hrun : ∀ c ∈ ([] : List Char), isBlank c = true := fun c hc => by cases hc
  exact dropWhile_append_of_stop hrun (head?_dropWhile_eq_false isBlank s)

theorem trimLeft_suffix (s : List Char) : trimLeft s <:+ s := List.dropWhile_suffix _

/-! ## §3 Trimming -/

theorem trimRight_eq_nil_iff {s : List Char} : trimRight s = [] ↔ AllBlank s := by
  rw [trimRight, List.reverse_eq_nil_iff, List.dropWhile_eq_nil_iff]
  exact ⟨fun h c hc => h c (List.mem_reverse.2 hc), fun h c hc => h c (List.mem_reverse.1 hc)⟩

theorem trimRight_append_right {w : List Char} (hw : AllBlank w) (s : List Char) :
    trimRight (s ++ w) = trimRight s := by
  have hrev : ∀ c ∈ w.reverse, isBlank c = true := fun c hc => hw c (List.mem_reverse.1 hc)
  rw [trimRight, List.reverse_append, List.dropWhile_append_of_pos hrev, trimRight]

/-- A text is what is left of it when its last blanks are removed, and these blanks. -/
theorem exists_eq_trimRight_append (s : List Char) :
    ∃ w, AllBlank w ∧ s = trimRight s ++ w := by
  refine ⟨(s.reverse.takeWhile isBlank).reverse, ?_, ?_⟩
  · intro c hc
    exact List.mem_takeWhile_imp (List.mem_reverse.1 hc)
  · rw [trimRight, ← List.reverse_append, List.takeWhile_append_dropWhile, List.reverse_reverse]

theorem trimRight_append_of_last {c : Char} (h : isBlank c = false) (s : List Char) :
    trimRight (s ++ [c]) = s ++ [c] := by
  simp [trimRight, h]

theorem trimRight_isPrefix (s : List Char) : trimRight s <+: s := by
  obtain ⟨w, -, hs⟩ := exists_eq_trimRight_append s
  exact ⟨w, hs.symm⟩

/-- A text is its trimmed form between blanks. -/
theorem exists_eq_append_trim (s : List Char) :
    ∃ w w', AllBlank w ∧ AllBlank w' ∧ s = w ++ trim s ++ w' := by
  obtain ⟨w', hw', hs⟩ := exists_eq_trimRight_append (trimLeft s)
  refine ⟨s.takeWhile isBlank, w', allBlank_takeWhile s, hw', ?_⟩
  rw [List.append_assoc, trim, ← hs, takeWhile_blank_append_trimLeft]

/-- Trimming removes characters and adds none. -/
theorem trim_subset (s : List Char) : trim s ⊆ s := fun _ hc =>
  (trimLeft_suffix s).subset ((trimRight_isPrefix (trimLeft s)).subset hc)

theorem trim_eq_nil_iff {s : List Char} : trim s = [] ↔ AllBlank s := by
  rw [trim, trimRight_eq_nil_iff, ← trimLeft_eq_nil_iff, trimLeft_trimLeft, trimLeft_eq_nil_iff]

theorem trim_append_left {w : List Char} (hw : AllBlank w) (s : List Char) :
    trim (w ++ s) = trim s := by
  rw [trim, trimLeft_append_left hw, trim]

theorem trim_append_right {w : List Char} (hw : AllBlank w) (s : List Char) :
    trim (s ++ w) = trim s := by
  by_cases hs : trimLeft s = []
  · -- a blank text is trimmed away from the left, and the added blanks with it
    have hblank := trimLeft_eq_nil_iff.1 hs
    rw [trim_eq_nil_iff.2 (hblank.append hw), trim_eq_nil_iff.2 hblank]
  · rw [trim, trimLeft_append_of_ne_nil hs, trimRight_append_right hw, trim]

theorem trim_trim (s : List Char) : trim (trim s) = trim s := by
  obtain ⟨w, w', hw, hw', hs⟩ := exists_eq_append_trim s
  conv => rhs; rw [hs]
  rw [trim_append_right hw', trim_append_left hw]

/-- A text with other characters at both ends has nothing to trim. -/
theorem trim_of_ends {c d : Char} {s : List Char} (hc : isBlank c = false)
    (hd : isBlank d = false) : trim (c :: s ++ [d]) = c :: s ++ [d] := by
  rw [trim, List.cons_append, trimLeft_of_head hc, ← List.cons_append, trimRight_append_of_last hd]

end Bibliography.Text
