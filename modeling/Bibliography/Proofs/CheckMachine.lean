import Bibliography.Proofs.CheckBlanks
import Bibliography.Proofs.FieldReading

/-!
# Runs of the check

The verdict of the check on a text, from the place where the machine is. Lines are counted for the
messages alone, so the verdict depends on nothing but the mode of the machine as long as no command
has been finished. A text is then read off in runs: blanks are passed over, a text between
delimiters ends where the scanner for closing delimiters finds its end, and a token ends at the
first character that cannot stand in it.

Main statements: the verdict does not depend on lines (`State.accepts_congr`), and the three laws by
which runs are read off: blanks (`accepts_append_allBlank`), texts (`TextModes.accepts_append`) and
tokens (`TokenModes.accepts_append`).
-/

namespace Bibliography.Check

open Text

/-! ## §1 Verdicts -/

/-- A mode without the line that a text remembers. -/
def Mode.unnumbered : Mode → Mode
  | .inQuotes closer body depth _ => .inQuotes closer body depth 0
  | .inBraces closer body depth _ => .inBraces closer body depth 0
  | mode => mode

namespace State

/-- A state without its lines. -/
def unnumbered (st : State) : State := ⟨st.mode.unnumbered, 0, false, st.records⟩

/-- Helper: how a command ends does not depend on lines. -/
private theorem unnumbered_finishCommand {st st' : State} (h : st.records = st'.records)
    (body : Body) : (st.finishCommand body).toOption.map unnumbered =
      (st'.finishCommand body).toOption.map unnumbered := by
  cases body with
  | string => simp [finishCommand, goto, Except.toOption, unnumbered, h]
  | preamble => simp [finishCommand, goto, Except.toOption, unnumbered, h]
  | entry key names =>
    simp only [finishCommand, h]
    -- only the duplicated field stops an entry, and its name does not depend on the line
    cases firstDuplicate? [] names.reverse with
    | some name => rfl
    | none =>
      simp only
      split <;> rfl

/-- Helper: lines are seen in faults only. -/
private theorem unnumbered_act (st : State) (c : Char) :
    (st.act c).toOption.map unnumbered = (st.unnumbered.act c).toOption.map unnumbered := by
  obtain ⟨mode, line, ret, records⟩ := st
  cases mode <;>
    simp only [act, skipBlank, goto, fail, atOpening, atField, atClosing, atEquals, atPart, atJoint,
      atQuoted, atBraced, unnumbered, Mode.unnumbered] <;>
    (repeat' split) <;> first | rfl | exact unnumbered_finishCommand (by rfl) _

/-- Whether a text is accepted that is read on from a state. -/
def Accepts (st : State) (s : List Char) : Prop :=
  ((runFrom st s).bind finish).isOk = true

theorem accepts_nil (st : State) : st.Accepts [] ↔ st.isOutside = true := by
  rw [← isOk_finish]
  rfl

theorem accepts_cons (st : State) (c : Char) (s : List Char) :
    st.Accepts (c :: s) ↔ ∃ st', st.step c = .ok st' ∧ st'.Accepts s := by
  simp only [Accepts, runFrom, List.foldlM_cons]
  cases st.step c with
  | error fault => simp [bind, Except.bind, Except.isOk, Except.toBool]
  | ok st' => simp [bind, Except.bind]

/-- Lines do not matter to the verdict. -/
theorem accepts_congr {st st' : State} (h : st.unnumbered = st'.unnumbered) (s : List Char) :
    st.Accepts s ↔ st'.Accepts s := by
  induction s generalizing st st' with
  | nil =>
    -- being outside an entry shows in the mode alone, which forgetting the line number keeps
    have houtside (st : State) : st.isOutside = st.unnumbered.isOutside := by
      obtain ⟨mode, line, ret, records⟩ := st
      cases mode <;> rfl
    rw [accepts_nil, accepts_nil, houtside st, h, ← houtside st']
  | cons c s ih =>
    -- counting a line changes only the number that is forgotten again
    have hact : ((st.count c).act c).toOption.map unnumbered =
        ((st'.count c).act c).toOption.map unnumbered := by
      rw [unnumbered_act, unnumbered_act (st'.count c)]
      exact congrArg (fun u : State => (u.act c).toOption.map unnumbered) h
    rw [accepts_cons, accepts_cons, step, step]
    -- both actions fail, or both succeed in states that differ in the number alone
    cases hst : (st.count c).act c with
    | error fault =>
      cases hst' : (st'.count c).act c with
      | error fault' => simp
      | ok u' => rw [hst, hst'] at hact; cases hact
    | ok u =>
      cases hst' : (st'.count c).act c with
      | error fault' => rw [hst, hst'] at hact; cases hact
      | ok u' =>
        rw [hst, hst'] at hact
        simpa using ih (Option.some.inj hact)

end State

/-- The state of a first command in a mode. -/
def Mode.state (mode : Mode) : State := ⟨mode, 0, false, []⟩

/-- Whether a text is accepted that is read on from a mode of the first command. -/
def Accepts (mode : Mode) (s : List Char) : Prop := mode.state.Accepts s

theorem isOk_run_iff (s : List Char) : (run s).isOk = true ↔ Accepts .outside s :=
  @State.accepts_congr .start (Mode.state .outside) rfl s

theorem accepts_nil {mode : Mode} : Accepts mode [] ↔ mode = .outside := by
  rw [Accepts, State.accepts_nil, State.isOutside, beq_iff_eq]
  rfl

section Steps

variable {mode mode' : Mode} {c : Char}

/-- A character may be acted on without being counted. -/
theorem accepts_cons (s : List Char) :
    Accepts mode (c :: s) ↔ ∃ st, mode.state.act c = .ok st ∧ st.Accepts s := by
  -- the state of a mode stands on its first line whether the character is counted or not
  have hact : ((mode.state.count c).act c).toOption.map State.unnumbered =
      (mode.state.act c).toOption.map State.unnumbered := by
    rw [State.unnumbered_act, State.unnumbered_act mode.state]
    rfl
  rw [Accepts, State.accepts_cons, State.step]
  cases hst : (mode.state.count c).act c with
  | error fault =>
    cases hst' : mode.state.act c with
    | error fault' => simp
    | ok u' => rw [hst, hst'] at hact; cases hact
  | ok u =>
    cases hst' : mode.state.act c with
    | error fault' => rw [hst, hst'] at hact; cases hact
    | ok u' =>
      rw [hst, hst'] at hact
      simpa using State.accepts_congr (Option.some.inj hact) s

theorem accepts_of_goto (h : mode.state.act c = .ok mode'.state) (s : List Char) :
    Accepts mode (c :: s) ↔ Accepts mode' s := by
  rw [accepts_cons, h]
  simp [Accepts]

theorem not_accepts_of_fault (fault : Fault) (h : mode.state.act c = .error fault)
    (s : List Char) : ¬Accepts mode (c :: s) := by
  rw [accepts_cons, h]
  simp

theorem accepts_congr_act (h : mode.state.act c = mode'.state.act c) (s : List Char) :
    Accepts mode (c :: s) ↔ Accepts mode' (c :: s) := by
  rw [accepts_cons, accepts_cons, h]

end Steps

/-! ## §2 Blanks -/

/-- A mode in which blanks are passed over. -/
def Mode.Skips (mode : Mode) : Prop :=
  ∀ c, isBlank c = true → mode.state.act c = .ok mode.state

/-- Whether a mode is one between the pieces of a command, and not inside a piece. -/
def Mode.isBetween : Mode → Bool
  | .beforeName | .beforeOpening _ | .beforeMacro _ | .beforeKey _ => true
  | .beforeField _ _ | .beforeEquals _ _ | .beforePart _ _ | .afterPart _ _ => true
  | _ => false

/-- Between the pieces of a command blanks are passed over. -/
theorem Mode.skips (mode : Mode) (h : mode.isBetween = true) : mode.Skips := by
  intro c hc
  cases mode with
  | outside | inName | inMacro | inKey | inField => cases h
  | inQuotes | inBraces | inNumber | inAbbreviation => cases h
  | _ => exact if_pos hc

section Blanks

variable {mode : Mode} (hmode : mode.Skips)

include hmode

theorem accepts_append_allBlank {w : List Char} (hw : AllBlank w) (s : List Char) :
    Accepts mode (w ++ s) ↔ Accepts mode s := by
  induction w with
  | nil => rfl
  | cons c w ih =>
    rw [List.cons_append, accepts_of_goto (hmode c (hw c List.mem_cons_self))]
    exact ih fun d hd => hw d (List.mem_cons_of_mem _ hd)

theorem accepts_trimLeft_append (s t : List Char) :
    Accepts mode (trimLeft s ++ t) ↔ Accepts mode (s ++ t) := by
  conv => rhs; rw [← takeWhile_blank_append_trimLeft s, List.append_assoc]
  exact (accepts_append_allBlank hmode (allBlank_takeWhile s) _).symm

end Blanks

/-! ## §3 Texts -/

/-- The number of braces that are open behind a text, if it was never negative and never above the
limit. -/
def nest? : Nat → List Char → Option Nat
  | depth, [] => some depth
  | depth, c :: s =>
    if c = '{' then if maxDepth ≤ depth then none else nest? (depth + 1) s
    else if c = '}' then if depth = 0 then none else nest? (depth - 1) s
    else nest? depth s

theorem nest?_cons (depth : Nat) (c : Char) (s : List Char) :
    nest? depth (c :: s) = (nest? depth [c]).bind (nest? · s) := by
  simp only [nest?]
  split
  · split <;> rfl
  · split
    · split <;> rfl
    · rfl

/-- One character changes the number of open braces by its weight. -/
theorem eq_add_braceWeight_of_nest? {depth inside : Nat} {c : Char}
    (h : nest? depth [c] = some inside) : (inside : Int) = depth + braceWeight c := by
  simp only [nest?] at h
  unfold braceWeight
  split at h
  · next hleft =>
    split at h
    · cases h
    · cases h
      simp [hleft]
  · next hleft =>
    split at h
    · next hright =>
      split at h
      · cases h
      · cases h
        rw [if_neg hleft, if_pos hright]
        omega
    · next hright =>
      cases h
      simp [hleft, hright]

theorem nest?_filter_isMark (depth : Nat) (s : List Char) :
    nest? depth (s.filter isMark) = nest? depth s := by
  induction s generalizing depth with
  | nil => rfl
  | cons c s ih =>
    cases hc : isMark c with
    | true =>
      rw [List.filter_cons_of_pos hc, nest?, nest?]
      split
      · rw [ih]
      · split
        · cases depth with
          | zero => rfl
          | succ depth => exact ih depth
        · exact ih depth
    | false =>
      -- what is no mark is no brace
      have hleft : c ≠ '{' := by rintro rfl; cases hc
      have hright : c ≠ '}' := by rintro rfl; cases hc
      rw [List.filter_cons_of_neg (by rw [hc]; decide), nest?, if_neg hleft, if_neg hright, ih]

/-- What the modes of a text that ends at `quote` have in common; `mode depth` is the one in which
`depth` braces are open. -/
structure TextModes (quote : Char) (mode : Nat → Mode) (after : Mode) : Prop where
  opening : ∀ depth, if maxDepth ≤ depth then ∃ fault, (mode depth).state.act '{' = .error fault
    else (mode depth).state.act '{' = .ok (mode (depth + 1)).state
  closing : ∀ depth, (mode (depth + 1)).state.act '}' = .ok (mode depth).state
  unbalanced : quote ≠ '}' → ∃ fault, (mode 0).state.act '}' = .error fault
  other : ∀ depth c, c ≠ '{' → c ≠ '}' → ¬(c = quote ∧ depth = 0) →
    (mode depth).state.act c = .ok (mode depth).state
  ending : (mode 0).state.act quote = .ok after.state

section Texts

variable (closer : Char) (body : Body)

theorem textModes_inBraces :
    TextModes '}' (Mode.inBraces closer body · 0) (.afterPart closer body) where
  opening depth := by
    by_cases h : maxDepth ≤ depth <;>
      simp [State.act, Mode.state, State.atBraced, State.fail, State.goto, h]
  closing depth := rfl
  unbalanced h := absurd rfl h
  other depth c hleft hright _ := by
    simp [State.act, Mode.state, State.atBraced, State.goto, hleft, hright]
  ending := rfl

theorem textModes_inQuotes :
    TextModes '"' (Mode.inQuotes closer body · 0) (.afterPart closer body) where
  opening depth := by
    by_cases h : maxDepth ≤ depth <;>
      simp [State.act, Mode.state, State.atQuoted, State.fail, State.goto, h]
  closing depth := rfl
  unbalanced _ := ⟨_, rfl⟩
  other depth c hleft hright hquote := by
    simp [State.act, Mode.state, State.atQuoted, State.goto, hleft, hright, hquote]
  ending := rfl

end Texts

/-- A character inside a text is accepted when it leaves the braces nested. -/
theorem TextModes.accepts_cons {quote : Char} {mode : Nat → Mode} {after : Mode}
    (h : TextModes quote mode after) {depth : Nat} {c : Char} (hc : ¬(c = quote ∧ depth = 0))
    (s : List Char) : Accepts (mode depth) (c :: s) ↔
      ∃ inside ∈ nest? depth [c], Accepts (mode inside) s := by
  by_cases hleft : c = '{'
  · subst hleft
    have hopening := h.opening depth
    by_cases hmax : maxDepth ≤ depth
    · -- no more braces may be opened
      rw [if_pos hmax] at hopening
      obtain ⟨fault, hfault⟩ := hopening
      simp [nest?, hmax, not_accepts_of_fault _ hfault]
    · rw [if_neg hmax] at hopening
      simp [nest?, hmax, accepts_of_goto hopening]
  · by_cases hright : c = '}'
    · subst hright
      cases depth with
      | zero =>
        -- braces end at this brace, and quotation marks must not meet it
        obtain ⟨fault, hfault⟩ := h.unbalanced fun hquote => hc ⟨hquote.symm, rfl⟩
        simp [nest?, not_accepts_of_fault _ hfault]
      | succ depth => simp [nest?, accepts_of_goto (h.closing depth)]
    · simp [nest?, hleft, hright, accepts_of_goto (h.other depth c hleft hright hc)]

/-- A text is accepted up to its end when its braces nest. -/
theorem TextModes.accepts_append {quote : Char} {mode : Nat → Mode} {after : Mode}
    (h : TextModes quote mode after) {depth : Nat} {content : List Char}
    (hnever : NeverCloses quote depth content) (hdepth : depth + braceDepth content = 0)
    (t : List Char) : Accepts (mode depth) (content ++ quote :: t) ↔
      nest? depth content = some 0 ∧ Accepts after t := by
  -- character by character, with the number of open braces in the mode
  induction content generalizing depth with
  | nil =>
    -- all braces are closed, so the mark that comes next ends the text
    obtain rfl : depth = 0 := by simpa using hdepth
    rw [List.nil_append, accepts_of_goto h.ending]
    simp [nest?]
  | cons c content ih =>
    simp only [NeverCloses, braceDepth_cons] at hnever hdepth
    obtain ⟨hfirst, hnever⟩ := hnever
    have hc : ¬(c = quote ∧ depth = 0) := fun hquote => hfirst ⟨hquote.1, by simp [hquote.2]⟩
    rw [List.cons_append, h.accepts_cons hc, nest?_cons depth c content]
    cases hinside : nest? depth [c] with
    | none => simp
    | some inside =>
      -- the machine and the depth of braces count alike
      have hweight := eq_add_braceWeight_of_nest? hinside
      rw [← hweight] at hnever
      rw [← Int.add_assoc, ← hweight] at hdepth
      simpa using ih hnever hdepth

/-! ## §4 Tokens -/

/-- Whether a text is a name, as the machine sees it. -/
def IsName (s : List Char) : Prop :=
  (∀ c ∈ s.head?, isNameStart c = true) ∧ ∀ c ∈ s, isNameChar c = true

theorem not_mem_tokenMarks_of_isNameChar {c : Char} (h : isNameChar c = true) :
    c ∉ tokenMarks := by
  have hmarks : tokenMarks.all (fun d => !isNameChar d) = true := by decide
  intro hc
  have hnot := List.all_eq_true.1 hmarks c hc
  rw [h] at hnot
  cases hnot

theorem isTokenChar_of_isNameChar {c : Char} (h : isNameChar c = true) : isTokenChar c = true := by
  have hmark : tokenMarks.contains c = false := by
    cases hc : tokenMarks.contains c with
    | false => rfl
    | true => exact absurd (List.contains_iff_mem.1 hc) (not_mem_tokenMarks_of_isNameChar h)
  simp only [isTokenChar, isBlank_of_isNameChar h, hmark, Bool.or_self, Bool.not_false]

theorem isNameChar_of_isNameStart {c : Char} (h : isNameStart c = true) : isNameChar c = true := by
  simp [isNameChar, h]

/-- What the modes inside a token have in common; `mode s` is the one in which the characters of `s`
have been gathered, in reverse. What ends the token is treated as it is behind it. -/
structure TokenModes (p : Char → Bool) (mode after : List Char → Mode) : Prop where
  inside : ∀ s, mode s ≠ .outside ∧ after s ≠ .outside
  more : ∀ s c, p c = true → (mode s).state.act c = .ok (mode (c :: s)).state
  stop : ∀ s c, p c = false → (mode s).state.act c = (after s).state.act c

/-- A run of characters of a class `q` is accepted as a token when all of them can stand in it,
provided that no other of them may follow it. -/
theorem TokenModes.accepts_append {p q : Char → Bool} {mode after : List Char → Mode}
    (h : TokenModes p mode after)
    (hstop : ∀ g c t, q c = true → p c = false → ¬Accepts (after g) (c :: t)) {s rest : List Char}
    (hs : ∀ c ∈ s, q c = true) (hrest : ∀ c ∈ rest.head?, p c = false) (g : List Char) :
    Accepts (mode g) (s ++ rest) ↔
      (∀ c ∈ s, p c = true) ∧ Accepts (after (s.reverse ++ g)) rest := by
  -- the run is followed character by character, with what was gathered so far in the mode
  induction s generalizing g with
  | nil =>
    -- the token is over: the end of the text is refused either way, and the next character ends the
    -- run
    cases rest with
    | nil => simp [accepts_nil, h.inside]
    | cons c rest => simpa using accepts_congr_act (h.stop g c (hrest c rfl)) rest
  | cons c s ih =>
    have hc := hs c List.mem_cons_self
    have ih := ih (fun d hd => hs d (List.mem_cons_of_mem _ hd)) (c :: g)
    rw [List.cons_append]
    -- a character of the run is gathered; another one stops it, and what stops it here is refused
    cases hp : p c with
    | true =>
      rw [accepts_of_goto (h.more g c hp), ih]
      simp [hp]
    | false =>
      rw [accepts_congr_act (h.stop g c hp)]
      simp [hstop g c _ hc hp, hp]

/-- A mode inside a token goes on while the characters can stand in the token, and then acts as the
mode behind it. -/
theorem TokenModes.of_act_eq {p : Char → Bool} {mode after : List Char → Mode}
    (hinside : ∀ s, mode s ≠ .outside ∧ after s ≠ .outside)
    (hact : ∀ s c, (mode s).state.act c =
      if p c then .ok (mode (c :: s)).state else (after s).state.act c) : TokenModes p mode after where
  inside := hinside
  more s c h := by rw [hact, if_pos h]
  stop s c h := by rw [hact, if_neg (by rw [h]; exact Bool.false_ne_true)]

section TokenModes

variable (closer : Char) (body : Body)

theorem tokenModes_inName : TokenModes isNameChar .inName .beforeOpening :=
  .of_act_eq (by simp) fun _ _ => rfl

theorem tokenModes_inKey : TokenModes (isKeyChar closer) (.inKey closer)
    fun g => .beforeField closer (.entry g.reverse []) :=
  .of_act_eq (by simp) fun _ _ => rfl

theorem tokenModes_inField (key : List Char) (names : List (List Char)) :
    TokenModes isNameChar (.inField closer (.entry key names))
      fun g => .beforeEquals closer (.entry key (g.reverse :: names)) :=
  .of_act_eq (by simp) fun _ _ => rfl

theorem tokenModes_inNumber : TokenModes Char.isDigit (fun _ => .inNumber closer body)
    fun _ => .afterPart closer body :=
  .of_act_eq (by simp) fun _ _ => rfl

theorem tokenModes_inAbbreviation : TokenModes isNameChar (fun _ => .inAbbreviation closer body)
    fun _ => .afterPart closer body :=
  .of_act_eq (by simp) fun _ _ => rfl

end TokenModes

end Bibliography.Check
