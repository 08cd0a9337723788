import Bibliography.Reading
import Bibliography.Proofs.Blanks
import Bibliography.Proofs.Segmentation

/-!
# The check and blanks at the end

A check need not see the blanks that a block ends with. The check in use does not: a blank ends no
command and begins none, so where the machine is outside it stays outside, and where it is inside a
command it stays inside.

Main statement: `run_ignoresTrailingBlanks`.
-/

namespace Bibliography

open Text

/-- A check whose verdict does not depend on the blanks at the end of a block. -/
def BlockCheck.IgnoresTrailingBlanks (check : BlockCheck) : Prop :=
  ∀ s w, AllBlank w → (check (s ++ w)).isOk = (check s).isOk

namespace Check

/-! ## §1 Blanks -/

theorem isBlank_of_isNameChar {c : Char} (h : isNameChar c = true) : isBlank c = false := by
  have hmarks : nameMarks.all (fun d => !isBlank d) = true := by decide
  simp only [isNameChar, isNameStart, Bool.or_eq_true] at h
  rcases h with (halpha | hmark) | hdigit
  · exact isBlank_of_isTypeStart halpha
  · simpa using List.all_eq_true.1 hmarks c (List.contains_iff_mem.1 hmark)
  · have hrange := toNat_of_isDigit hdigit
    simp only [isBlank, Bool.or_eq_false_iff, Bool.and_eq_false_iff, decide_eq_false_iff_not,
      beq_eq_false_iff_ne]
    omega

theorem isNameChar_of_isBlank {c : Char} (h : isBlank c = true) : isNameChar c = false := by
  cases hc : isNameChar c with
  | false => rfl
  | true => rw [isBlank_of_isNameChar hc] at h; cases h

theorem isDigit_of_isBlank {c : Char} (h : isBlank c = true) : c.isDigit = false := by
  have hname := isNameChar_of_isBlank h
  simp only [isNameChar, Bool.or_eq_false_iff] at hname
  exact hname.2

/-! ## §2 The machine -/

/-- Whether the machine is between two commands. -/
def State.isOutside (st : State) : Bool := st.mode == .outside

theorem State.isOk_finish (st : State) : st.finish.isOk = st.isOutside := by
  obtain ⟨mode, line, afterReturn, records⟩ := st
  cases mode <;> rfl

/-- A blank leaves the machine outside or inside a command, as it was. -/
theorem State.step_blank {c : Char} (hc : isBlank c = true) (st : State) :
    ∃ st', st.step c = .ok st' ∧ st'.isOutside = st.isOutside := by
  have hname := isNameChar_of_isBlank hc
  have hdigit := isDigit_of_isBlank hc
  have hat : c ≠ '@' := ne_of_isBlank hc (by decide)
  have hquote : c ≠ '"' := ne_of_isBlank hc (by decide)
  have hleft : c ≠ '{' := ne_of_isBlank hc (by decide)
  have hright : c ≠ '}' := ne_of_isBlank hc (by decide)
  -- one case for each mode: none of them takes a blank for the end or the beginning of a command
  obtain ⟨mode, line, afterReturn, records⟩ := st
  cases mode <;>
    simp [step, act, count, skipBlank, goto, atQuoted, atBraced, isKeyChar, isOutside, hc, hname,
      hdigit, hat, hquote, hleft, hright]

theorem runFrom_blanks {w : List Char} (hw : AllBlank w) (st : State) :
    ∃ st', runFrom st w = .ok st' ∧ st'.isOutside = st.isOutside := by
  induction w generalizing st with
  | nil => exact ⟨st, rfl, rfl⟩
  | cons c w ih =>
    obtain ⟨st', hstep, houtside⟩ := State.step_blank (hw c List.mem_cons_self) st
    obtain ⟨st'', hrun, houtside'⟩ := ih (fun d hd => hw d (List.mem_cons_of_mem _ hd)) st'
    refine ⟨st'', ?_, houtside'.trans houtside⟩
    simp only [runFrom, List.foldlM_cons, hstep] at hrun ⊢
    exact hrun

/-- The check in use does not see the blanks at the end of a block. -/
theorem run_ignoresTrailingBlanks : BlockCheck.IgnoresTrailingBlanks run := by
  intro s w hw
  simp only [run, runFrom_append]
  cases hrun : runFrom .start s with
  | error fault => rfl
  | ok st =>
    obtain ⟨st', hblanks, houtside⟩ := runFrom_blanks hw st
    simp only [Except.bind, bind, hblanks, State.isOk_finish, houtside]

end Check

end Bibliography
