import Bibliography.Proofs.EntryTexts

/-!
# Citation keys

Two readers find the key of a block. The check takes the longest run of characters that can stand in
a key, from the first that is no blank; the reader of entries takes what stands before the first
comma, and finds no key where it sees an equals sign. Both see the same key as long as neither an
equals sign nor a closing brace stands before the first comma, and otherwise they never do.

What the check reads as the key is the key of the first record that it lists: behind the key the
machine goes on with it until the entry is listed, and what is listed stays.

Main statement: `keysAgree_iff`.
-/

namespace Bibliography.Check

open Text

/-! ## §1 The key behind which the machine is -/

/-- The key of the entry that a body belongs to, if it is that of an entry. -/
def Body.key? : Body → Option (List Char)
  | .entry key _ => some key
  | _ => none

/-- The key of the entry that is being read, in the modes behind its key. -/
def Mode.key? : Mode → Option (List Char)
  | .beforeField _ body => body.key?
  | .inField _ body _ => body.key?
  | .beforeEquals _ body => body.key?
  | .beforePart _ body => body.key?
  | .inQuotes _ body _ _ => body.key?
  | .inBraces _ body _ _ => body.key?
  | .inNumber _ body => body.key?
  | .inAbbreviation _ body => body.key?
  | .afterPart _ body => body.key?
  | _ => none

/-- What an action does to the records and to the entry with a key that is being read: it goes on
with the key, or lists an entry, which has the key. -/
inductive Continues (st : State) (key : Option (List Char)) (st' : State) : Prop where
  | goes (hrecords : st'.records = st.records) (hkey : ∀ k ∈ key, st'.mode.key? = some k)
  | lists {k : List Char} {names : List (List Char)} (hkey : ∀ k' ∈ key, k' = k)
      (hrecords : st'.records = st.records ++ [⟨k, names⟩])

theorem Continues.forget {st st' : State} {key : Option (List Char)} (h : Continues st key st') :
    Continues st none st' := by
  cases h with
  | goes hrecords _ => exact .goes hrecords (by simp)
  | lists _ hrecords => exact .lists (by simp) hrecords

/-- An action that continues an entry with a key, unless it refuses the block. -/
def Keeps (st : State) (key : Option (List Char)) (result : Except Fault State) : Prop :=
  ∀ st', result = .ok st' → Continues st key st'

theorem Keeps.forget {st : State} {key : Option (List Char)} {result : Except Fault State}
    (h : Keeps st key result) : Keeps st none result :=
  fun st' hst' => (h st' hst').forget

section Actions

variable {st : State} {key : Option (List Char)} {closer c : Char} {body : Body}

theorem Keeps.ite {p : Prop} [Decidable p] {a b : Except Fault State} (ha : Keeps st key a)
    (hb : Keeps st key b) : Keeps st key (if p then a else b) := by
  split
  · exact ha
  · exact hb

theorem keeps_fail (problem : Problem) : Keeps st key (st.fail problem) :=
  fun _ h => by cases h

theorem keeps_goto {mode : Mode} (hkey : ∀ k ∈ key, mode.key? = some k) :
    Keeps st key (st.goto mode) := fun _ h => by
  cases h
  exact .goes rfl hkey

/-- Moving on to a mode of the same body. -/
theorem keeps_goto_key {mode : Mode} : Keeps st mode.key? (st.goto mode) :=
  keeps_goto fun _ => id

theorem keeps_goto_none {mode : Mode} : Keeps st none (st.goto mode) :=
  keeps_goto (by simp)

theorem keeps_finishCommand : Keeps st body.key? (st.finishCommand body) := by
  cases body with
  | string => exact keeps_goto_none
  | preamble => exact keeps_goto_none
  -- only an entry lists a record, and only when the command is one the check knows; every other way
  -- out of the branch is an error
  | entry key names =>
    intro st' h
    rw [State.finishCommand] at h
    split at h
    · cases h
    · split at h
      · cases h
      · cases h
        exact .lists (by simp [Body.key?]) rfl

theorem keeps_atClosing : Keeps st body.key? (st.atClosing closer body c) :=
  .ite keeps_finishCommand (keeps_fail _)

theorem keeps_atField : Keeps st body.key? (st.atField closer body c) :=
  .ite keeps_goto_key (.ite keeps_goto_key keeps_atClosing)

theorem keeps_atEquals : Keeps st body.key? (st.atEquals closer body c) :=
  .ite keeps_goto_key (keeps_fail _)

theorem keeps_atPart : Keeps st body.key? (st.atPart closer body c) :=
  .ite keeps_goto_key (.ite keeps_goto_key
    (.ite keeps_goto_key (.ite keeps_goto_key (keeps_fail _))))

theorem keeps_atJoint : Keeps st body.key? (st.atJoint closer body c) := by
  refine .ite keeps_goto_key ?_
  cases body with
  | string => exact keeps_atClosing
  | preamble => exact keeps_atClosing
  | entry key names => exact .ite keeps_goto_key keeps_atClosing

theorem keeps_atQuoted {depth line : Nat} :
    Keeps st body.key? (st.atQuoted closer body depth line c) := by
  refine .ite keeps_goto_key (.ite (.ite (keeps_fail _) keeps_goto_key) (.ite ?_ keeps_goto_key))
  cases depth with
  | zero => exact keeps_fail _
  | succ depth => exact keeps_goto_key

theorem keeps_atBraced {depth line : Nat} :
    Keeps st body.key? (st.atBraced closer body depth line c) := by
  refine .ite (.ite (keeps_fail _) keeps_goto_key) (.ite ?_ keeps_goto_key)
  cases depth with
  | zero => exact keeps_goto_key
  | succ depth => exact keeps_goto_key

theorem keeps_atOpening {name : List Char} : Keeps st none (st.atOpening name c) :=
  .ite (.ite keeps_goto_none (.ite keeps_goto_none (.ite keeps_goto_none keeps_goto_none)))
    (keeps_fail _)

/-- The first character that is none of the key ends it, and the machine is behind the key. -/
theorem keeps_inKey {gathered : List Char} :
    Keeps st (some gathered.reverse)
      (st.skipBlank (.beforeField closer (.entry gathered.reverse []))
        (fun st c => st.atField closer (.entry gathered.reverse []) c) c) :=
  .ite keeps_goto_key keeps_atField

end Actions

/-- Every character keeps the key, whatever the mode. -/
theorem keeps_act (st : State) (c : Char) : Keeps st st.mode.key? (st.act c) := by
  obtain ⟨mode, line, ret, records⟩ := st
  -- in front of a key there is none to keep; behind it every action is on the body that has it
  cases mode with
  | outside => exact keeps_goto_none
  | beforeName => exact .ite keeps_goto_none (.ite keeps_goto_none (keeps_fail _))
  | inName name => exact .ite keeps_goto_none (.ite keeps_goto_none keeps_atOpening)
  | beforeOpening name => exact .ite keeps_goto_none keeps_atOpening
  | beforeMacro closer => exact .ite keeps_goto_none (.ite keeps_goto_none (keeps_fail _))
  | inMacro closer => exact .ite keeps_goto_none (.ite keeps_goto_none keeps_atEquals)
  | beforeKey closer => exact .ite keeps_goto_none (.ite keeps_goto_none (keeps_fail _))
  | inKey closer key => exact .ite keeps_goto_none keeps_inKey.forget
  | beforeField closer body => exact .ite keeps_goto_key keeps_atField
  | inField closer body name =>
    refine .ite keeps_goto_key ?_
    -- the name is put to the body, which keeps its key
    cases body with
    | string => exact .ite keeps_goto_key keeps_atEquals
    | preamble => exact .ite keeps_goto_key keeps_atEquals
    | entry key names =>
      exact .ite (keeps_goto fun _ => id) keeps_atEquals
  | beforeEquals closer body => exact .ite keeps_goto_key keeps_atEquals
  | beforePart closer body => exact .ite keeps_goto_key keeps_atPart
  | inQuotes closer body depth line => exact keeps_atQuoted
  | inBraces closer body depth line => exact keeps_atBraced
  | inNumber closer body =>
    exact .ite keeps_goto_key (.ite keeps_goto_key keeps_atJoint)
  | inAbbreviation closer body =>
    exact .ite keeps_goto_key (.ite keeps_goto_key keeps_atJoint)
  | afterPart closer body => exact .ite keeps_goto_key keeps_atJoint

/-! ## §2 The key of the first record -/

/-- The key of the first entry: that of the first record, and before there is one, that of the entry
that is being read. -/
def State.firstKey? (st : State) : Option (List Char) :=
  match st.records with
  | [] => st.mode.key?
  | r :: _ => some r.key

/-- The first key stays what it is: it is listed first, or that of the entry that goes on. -/
theorem Continues.firstKey? {st st' : State} {key : Option (List Char)} (h : Continues st key st')
    {k : List Char} (hk : (∃ r rs, st.records = r :: rs ∧ r.key = k) ∨ st.records = [] ∧ k ∈ key) :
    st'.firstKey? = some k := by
  unfold State.firstKey?
  rcases hk with ⟨r, rs, hrecords, rfl⟩ | ⟨hrecords, hk⟩
  · -- a record is listed already; it is the first one, whatever is listed behind it
    cases h with
    | goes h _ => rw [h, hrecords]
    | lists _ h =>
      rw [h, hrecords]
      rfl
  · -- nothing is listed yet, so the key being gathered becomes the first record's
    cases h with
    | goes h hkey =>
      rw [h, hrecords]
      exact hkey k hk
    | lists hkey h =>
      rw [h, hrecords, hkey k hk]
      rfl

theorem firstKey?_step {st st' : State} {c : Char} {k : List Char} (h : st.step c = .ok st')
    (hk : st.firstKey? = some k) : st'.firstKey? = some k := by
  refine (keeps_act (st.count c) c st' h).firstKey? ?_
  cases hrecords : st.records with
  | nil =>
    rw [State.firstKey?, hrecords] at hk
    exact .inr ⟨hrecords, hk⟩
  | cons r rs =>
    rw [State.firstKey?, hrecords] at hk
    exact .inl ⟨r, rs, hrecords, Option.some.inj hk⟩

theorem runFrom_cons {st : State} {c : Char} {s : List Char} : runFrom st (c :: s) =
    (st.step c).bind fun st => runFrom st s := by
  simp only [runFrom, List.foldlM_cons]
  rfl

theorem exists_step_of_runFrom_cons {st st' : State} {c : Char} {s : List Char}
    (h : runFrom st (c :: s) = .ok st') :
    ∃ st'', st.step c = .ok st'' ∧ runFrom st'' s = .ok st' := by
  rw [runFrom_cons] at h
  cases hstep : st.step c with
  | error fault =>
    rw [hstep] at h
    cases h
  | ok st'' =>
    rw [hstep] at h
    exact ⟨st'', rfl, h⟩

/-- Once there is a first key, a run that is not refused keeps it. -/
theorem firstKey?_runFrom {st st' : State} {s : List Char} {k : List Char}
    (h : runFrom st s = .ok st') (hk : st.firstKey? = some k) : st'.firstKey? = some k := by
  -- by induction on the text, from one step (`firstKey?_step`)
  induction s generalizing st with
  | nil =>
    cases h
    exact hk
  | cons c s ih =>
    obtain ⟨st'', hstep, hrun⟩ := exists_step_of_runFrom_cons h
    exact ih hrun (firstKey?_step hstep hk)

/-- Between commands the first key is that of the first record. -/
theorem exists_record_of_finish {st : State} {records : List Record} {k : List Char}
    (h : st.finish = .ok records) (hk : st.firstKey? = some k) :
    ∃ r rs, records = r :: rs ∧ r.key = k := by
  obtain ⟨mode, line, ret, found⟩ := st
  cases mode with
  | outside =>
    cases h
    cases found with
    | nil => cases hk
    | cons r rs => exact ⟨r, rs, rfl, Option.some.inj hk⟩
  | _ => cases h

/-! ## §3 Up to the key -/

/-- Whether a text leads from a mode to another, without an entry being listed. -/
def Mode.Leads (mode : Mode) (s : List Char) (mode' : Mode) : Prop :=
  ∀ st : State, st.mode = mode →
    ∃ st', runFrom st s = .ok st' ∧ st'.mode = mode' ∧ st'.records = st.records

theorem Mode.Leads.append {mode mode' mode'' : Mode} {s t : List Char} (h : mode.Leads s mode')
    (h' : mode'.Leads t mode'') : mode.Leads (s ++ t) mode'' := by
  intro st hst
  obtain ⟨st', hrun, hmode, hrecords⟩ := h st hst
  obtain ⟨st'', hrun', hmode', hrecords'⟩ := h' st' hmode
  refine ⟨st'', ?_, hmode', hrecords'.trans hrecords⟩
  rw [runFrom_append, hrun]
  exact hrun'

theorem leads_singleton {mode mode' : Mode} {c : Char}
    (h : ∀ st : State, st.mode = mode → st.act c = st.goto mode') : mode.Leads [c] mode' := by
  intro st hst
  refine ⟨{ st.count c with mode := mode' }, ?_, rfl, rfl⟩
  rw [runFrom_cons, State.step, h (st.count c) hst]
  rfl

/-- A run of characters is gathered, in reverse, as long as they are of one class. -/
theorem leads_of_forall {p : Char → Bool} {mode : List Char → Mode}
    (h : ∀ g c, p c = true → (mode g).Leads [c] (mode (c :: g))) {s : List Char}
    (hs : ∀ c ∈ s, p c = true) (g : List Char) : (mode g).Leads s (mode (s.reverse ++ g)) := by
  induction s generalizing g with
  | nil => exact fun st hst => ⟨st, rfl, hst, rfl⟩
  | cons c s ih =>
    have hrest := ih (fun d hd => hs d (List.mem_cons_of_mem _ hd)) (c :: g)
    rw [List.reverse_cons, List.append_assoc]
    exact (h g c (hs c List.mem_cons_self)).append hrest

theorem leads_blanks {mode : Mode} (h : ∀ c, isBlank c = true → mode.Leads [c] mode)
    {w : List Char} (hw : AllBlank w) : mode.Leads w mode :=
  @leads_of_forall isBlank (fun _ => mode) (fun _ => h) w hw []

theorem leads_inName {c : Char} (hc : isNameChar c = true) (name : List Char) :
    (Mode.inName name).Leads [c] (.inName (c :: name)) :=
  leads_singleton fun st hst => by simp [State.act, hst, hc]

theorem leads_inKey {c : Char} (hc : isKeyChar '}' c = true) (key : List Char) :
    (Mode.inKey '}' key).Leads [c] (.inKey '}' (c :: key)) :=
  leads_singleton fun st hst => by simp [State.act, hst, hc]

theorem leads_beforeKey_blank {c : Char} (hc : isBlank c = true) :
    (Mode.beforeKey '}').Leads [c] (.beforeKey '}') :=
  leads_singleton fun st hst => by simp [State.act, hst, State.skipBlank, hc]

theorem leads_beforeKey {c : Char} (hblank : isBlank c = false) (hc : isKeyChar '}' c = true) :
    (Mode.beforeKey '}').Leads [c] (.inKey '}' [c]) :=
  leads_singleton fun st hst => by simp [State.act, hst, State.skipBlank, hblank, hc]

/-- Blanks between the name of a command and its brace. -/
theorem leads_opening {name gap : List Char}
    (hkept : lower name.reverse ∉ ["string".toList, "preamble".toList, "comment".toList])
    (hgap : AllBlank gap) : (Mode.inName name).Leads (gap ++ ['{']) (.beforeKey '}') := by
  -- the brace is neither blank nor part of a name, so it always ends the run before it
  have hbrace : isBlank '{' = false := by decide
  have hname : isNameChar '{' = false := by decide
  cases gap with
  | nil =>
    -- with no gap the brace itself ends the type's name
    refine leads_singleton fun st hst => ?_
    simp [State.act, hst, hname, State.skipBlank, hbrace, atOpening_brace hkept]
  | cons b gap =>
    -- otherwise the first blank ends the name, the others are passed over, and the brace opens
    have hb := hgap b List.mem_cons_self
    have hends : (Mode.inName name).Leads [b] (.beforeOpening name) :=
      leads_singleton fun st hst => by
        simp [State.act, hst, isNameChar_of_isBlank hb, State.skipBlank, hb]
    have hskips (c : Char) (hc : isBlank c = true) :
        (Mode.beforeOpening name).Leads [c] (.beforeOpening name) :=
      leads_singleton fun st hst => by simp [State.act, hst, State.skipBlank, hc]
    have hopens : (Mode.beforeOpening name).Leads ['{'] (.beforeKey '}') :=
      leads_singleton fun st hst => by
        simp [State.act, hst, State.skipBlank, hbrace, atOpening_brace hkept]
    have hrest := leads_blanks hskips fun c hc => hgap c (List.mem_cons_of_mem _ hc)
    exact hends.append (hrest.append hopens)

/-- The head of a block in braces, whose type is a name, leads to its key. -/
theorem leads_head {head : Head} (h : head.WellFormed) (hopener : head.opener = '{')
    (hkept : lower head.type ∉ ["string".toList, "preamble".toList, "comment".toList])
    (hname : ∀ c ∈ head.type, isNameChar c = true) :
    Mode.outside.Leads head.text (.beforeKey '}') := by
  obtain ⟨blanks, gap, ds, d, opener, hblanks, hd, hds, hgap, -, -⟩ := h
  -- type, gap and opener are threaded one after the other: each ends in the mode the next one
  -- starts in
  obtain rfl : opener = '{' := hopener
  have hat : Mode.outside.Leads ['@'] .beforeName :=
    leads_singleton fun st hst => by simp [State.act, hst]
  have hskips (c : Char) (hc : isBlank c = true) : Mode.beforeName.Leads [c] .beforeName :=
    leads_singleton fun st hst => by simp [State.act, hst, State.skipBlank, hc]
  have hstart : isNameStart d = true := by
    simp [isNameStart, show d.isAlpha = true from hd]
  have hfirst : Mode.beforeName.Leads [d] (.inName [d]) :=
    leads_singleton fun st hst => by
      simp [State.act, hst, State.skipBlank, isBlank_of_isTypeStart hd, hstart]
  have hrun := @leads_of_forall isNameChar .inName (fun g c hc => leads_inName hc g) ds
    (fun c hc => hname c (List.mem_cons_of_mem _ hc)) [d]
  have hopening := @leads_opening (ds.reverse ++ [d]) gap (by simpa using hkept) hgap
  have htype := hfirst.append (hrun.append hopening)
  simpa using (hat.append (leads_blanks hskips hblanks)).append htype

/-- The key that the check reads in a body in braces: the longest run of characters that can stand
in a key, from the first that is no blank. -/
def keyOf (body : List Char) : List Char := (trimLeft body).takeWhile (isKeyChar '}')

/-- Up to the end of its key a body is read without a fault. -/
theorem leads_keyOf {s : List Char} (h : keyOf s ≠ []) :
    (Mode.beforeKey '}').Leads (s.takeWhile isBlank ++ keyOf s)
      (.inKey '}' (keyOf s).reverse) := by
  have hchars : ∀ c ∈ keyOf s, isKeyChar '}' c = true := fun c hc => List.mem_takeWhile_imp hc
  have hblanks := leads_blanks (fun _ => leads_beforeKey_blank) (allBlank_takeWhile s)
  refine hblanks.append ?_
  generalize keyOf s = k at h hchars ⊢
  obtain ⟨c, k, rfl⟩ := List.exists_cons_of_ne_nil h
  have hc := hchars c List.mem_cons_self
  -- the first character leaves the blanks and the rest are gathered behind it, last one first
  have hgathers := @leads_of_forall (isKeyChar '}') (.inKey '}') (fun g c hc => leads_inKey hc g) k
    (fun d hd => hchars d (List.mem_cons_of_mem _ hd)) [c]
  rw [List.reverse_cons]
  exact (leads_beforeKey (isBlank_of_isKeyChar hc) hc).append hgathers

section Keys

variable {st st' : State} (hout : st'.isOutside = true)

include hout

/-- Behind the characters of a key, the machine is behind this key. -/
theorem firstKey?_of_inKey {gathered s : List Char} (hmode : st.mode = .inKey '}' gathered)
    (hrecords : st.records = []) (h : runFrom st s = .ok st')
    (hs : ∀ c ∈ s.head?, isKeyChar '}' c = false) :
    st'.firstKey? = some gathered.reverse := by
  cases s with
  | nil =>
    cases h
    rw [State.isOutside, hmode] at hout
    cases hout
  | cons c s =>
    obtain ⟨st'', hstep, hrun⟩ := exists_step_of_runFrom_cons h
    -- the character ends the key, and the machine goes on behind it
    have hact : (st.count c).act c = .ok st'' := hstep
    simp only [State.act, show (st.count c).mode = .inKey '}' gathered from hmode, hs c rfl,
      Bool.false_eq_true, if_false] at hact
    exact firstKey?_runFrom hrun ((keeps_inKey st'' hact).firstKey? (.inr ⟨hrecords, rfl⟩))

/-- A run that has begun before a key and ends outside has read one. -/
theorem keyOf_ne_nil {s : List Char} (hmode : st.mode = .beforeKey '}')
    (h : runFrom st s = .ok st') : keyOf s ≠ [] := by
  intro hnil
  obtain ⟨st₁, hrun₁, hmode₁, -⟩ :=
    leads_blanks (fun _ => leads_beforeKey_blank) (allBlank_takeWhile s) st hmode
  rw [← takeWhile_blank_append_trimLeft s, runFrom_append, hrun₁] at h
  have hhead : ∀ c ∈ (trimLeft s).head?, isBlank c = false := head?_dropWhile_eq_false isBlank s
  rw [keyOf] at hnil
  generalize trimLeft s = u at h hhead hnil
  replace h : runFrom st₁ u = .ok st' := h
  cases u with
  | nil =>
    cases h
    rw [State.isOutside, hmode₁] at hout
    cases hout
  | cons c u =>
    -- what is no blank and cannot begin a key is refused
    have hc : isKeyChar '}' c = false := by
      cases hc : isKeyChar '}' c with
      | false => rfl
      | true =>
        rw [List.takeWhile_cons_of_pos hc] at hnil
        cases hnil
    obtain ⟨st₂, hstep, -⟩ := exists_step_of_runFrom_cons h
    have hfault : st₁.step c = (st₁.count c).fail (.missing .key) := by
      simp [State.step, State.act, show (st₁.count c).mode = .beforeKey '}' from hmode₁,
        State.skipBlank, hhead c rfl, hc]
    rw [hfault] at hstep
    cases hstep

/-- The first key of a run that has begun before a key and ends outside is this key. -/
theorem firstKey?_of_beforeKey {s : List Char} (hmode : st.mode = .beforeKey '}')
    (hrecords : st.records = []) (h : runFrom st s = .ok st') :
    keyOf s ≠ [] ∧ st'.firstKey? = some (keyOf s) := by
  have hne := keyOf_ne_nil hout hmode h
  obtain ⟨st₁, hrun₁, hmode₁, hrecords₁⟩ := leads_keyOf hne st hmode
  -- the text is cut at the end of the key; the machine reaches that place with the key gathered
  have hsplit : s = (s.takeWhile isBlank ++ keyOf s) ++ (trimLeft s).dropWhile (isKeyChar '}') := by
    rw [List.append_assoc, keyOf, List.takeWhile_append_dropWhile, takeWhile_blank_append_trimLeft]
  have hrest : runFrom st₁ ((trimLeft s).dropWhile (isKeyChar '}')) = .ok st' := by
    -- what is left of the run starts from there
    rw [hsplit, runFrom_append, hrun₁] at h
    exact h
  refine ⟨hne, ?_⟩
  rw [firstKey?_of_inKey hout hmode₁ (hrecords₁.trans hrecords) hrest
    (head?_dropWhile_eq_false (isKeyChar '}') (trimLeft s)), List.reverse_reverse]

end Keys

theorem brace_not_mem_keyOf {body : List Char} : '}' ∉ keyOf body := fun h => by
  have hc : isKeyChar '}' '}' = true := List.mem_takeWhile_imp h
  revert hc
  decide

theorem eq_brace_of_mem_closing (closed : Bool) : ∀ c ∈ (closing closed).head?, c = '}' := by
  cases closed with
  | false => simp [closing]
  | true => simp [closing]

/-- Behind the body stands a closing brace at most, and that is in no key. -/
theorem keyOf_append_closing (body : List Char) (closed : Bool) :
    keyOf (body ++ closing closed) = keyOf body := by
  have hstop : ∀ c ∈ (closing closed).head?, isKeyChar '}' c = false :=
    isKeyChar_head?_eq_false .nil fun c hc => .inr (eq_brace_of_mem_closing closed c hc)
  unfold keyOf
  by_cases h : trimLeft body = []
  · have hclosing : trimLeft (closing closed) = closing closed := by
      cases closed <;> decide
    rw [trimLeft_append_left (trimLeft_eq_nil_iff.1 h), hclosing, h]
    exact takeWhile_append_of_head [] hstop
  · rw [trimLeft_append_of_ne_nil h, takeWhile_append_of_head _ hstop]

/-- The first record of a block that the check accepts has the key of the body, which is not
empty. -/
theorem exists_record_of_isOk {b : Block} (hb : b.WellFormed) (hopener : b.head.opener = '{')
    (hkept : ¬b.IsKept) (hok : (run b.text).isOk = true) :
    ∃ r rs, run b.text = .ok (r :: rs) ∧ r.key = keyOf b.body ∧ r.key ≠ [] := by
  have htext := text_eq_append_closing hopener
  -- the check accepts the block, so its type is made of name characters throughout
  have hname : ∀ c ∈ b.head.type, isNameChar c = true := by
    rw [isOk_run_iff, htext, accepts_head hb.head hopener hkept] at hok
    exact hok.1
  obtain ⟨st, hhead, hmode, hrecords⟩ := leads_head hb.head hopener hkept hname .start rfl
  -- the head is read without listing a record, so the verdict is the one on what stands behind it
  have hrun : run b.text = (runFrom st (b.body ++ closing b.closed)).bind State.finish := by
    rw [run, htext, runFrom_append, hhead]
    rfl
  cases hbody : runFrom st (b.body ++ closing b.closed) with
  | error fault =>
    rw [hrun, hbody] at hok
    cases hok
  | ok st' =>
    rw [hbody] at hrun
    replace hrun : run b.text = st'.finish := hrun
    rw [hrun] at hok ⊢
    have hout : st'.isOutside = true := by rwa [State.isOk_finish] at hok
    -- a run that ends outside has gathered a key on the way, and its first record carries it
    obtain ⟨hne, hfirst⟩ := firstKey?_of_beforeKey hout hmode hrecords hbody
    -- the closing delimiter behind the body is no character of a key
    rw [keyOf_append_closing] at hne hfirst
    cases hfinish : st'.finish with
    | error fault =>
      rw [hfinish] at hok
      cases hok
    | ok records =>
      obtain ⟨r, rs, rfl, hr⟩ := exists_record_of_finish hfinish hfirst
      exact ⟨r, rs, rfl, hr, hr ▸ hne⟩

/-! ## §4 The key that is read -/

/-- What stands in front of the first comma of a body. -/
def keyPart (body : List Char) : List Char := body.takeWhile (· != ',')

/-- Behind the part in front of the first comma stands this comma, or nothing. -/
theorem exists_eq_keyPart_append (body : List Char) :
    ∃ t, body = keyPart body ++ t ∧ ∀ c ∈ t.head?, c = ',' := by
  refine ⟨body.dropWhile (· != ','), List.takeWhile_append_dropWhile.symm, fun c hc => ?_⟩
  simpa using head?_dropWhile_eq_false (· != ',') body c hc

/-- A body with a key has one in front of its first comma. -/
theorem trim_keyPart_ne_nil {body : List Char} (h : keyOf body ≠ []) :
    trim (keyPart body) ≠ [] := by
  obtain ⟨t, hbody, ht⟩ := exists_eq_keyPart_append body
  intro hblank
  rw [trim_eq_nil_iff] at hblank
  -- behind blanks, the first character would be the comma
  refine h ?_
  rw [hbody, keyOf, trimLeft_append_left hblank]
  cases t with
  | nil => rfl
  | cons c t =>
    obtain rfl : c = ',' := ht c rfl
    rw [trimLeft_of_head (by decide)]
    exact List.takeWhile_cons_of_neg (by decide)

/-- Key characters between blanks in front of the first comma are the key of a body. -/
theorem keyOf_eq_trim {body : List Char} (hne : trim (keyPart body) ≠ [])
    (hchars : ∀ c ∈ trim (keyPart body), isKeyChar '}' c = true) :
    keyOf body = trim (keyPart body) := by
  obtain ⟨t, hbody, ht⟩ := exists_eq_keyPart_append body
  obtain ⟨w, w', hw, hw', hpart⟩ := exists_eq_append_trim (keyPart body)
  generalize trim (keyPart body) = k at *
  have hk : trimLeft (k ++ (w' ++ t)) = k ++ (w' ++ t) := by
    obtain ⟨c, s, rfl⟩ := List.exists_cons_of_ne_nil hne
    -- behind the first character of the key no blank is left to trim
    exact trimLeft_of_head (isBlank_of_isKeyChar (hchars c List.mem_cons_self))
  -- what stands behind is blank, a key mark or nothing: the key ends there
  have hends := isKeyChar_head?_eq_false hw' fun c hc => .inl (ht c hc)
  have hsplit : body = w ++ (k ++ (w' ++ t)) := by
    conv_lhs => rw [hbody, hpart]
    simp only [List.append_assoc]
  rw [keyOf, hsplit, trimLeft_append_left hw, hk, takeWhile_append_of_stop hchars hends]

/-- If the check accepts a block, and neither an equals sign nor a closing brace stands before the
first comma, all that stands there is the key, between blanks. -/
theorem trim_keyPart_eq {b : Block} (hb : b.WellFormed) (hopener : b.head.opener = '{')
    (hkept : ¬b.IsKept) (hok : (run b.text).isOk = true) (hne : trim (keyPart b.body) ≠ [])
    (hequals : '=' ∉ keyPart b.body) (hbrace : '}' ∉ keyPart b.body) :
    keyOf b.body = trim (keyPart b.body) := by
  obtain ⟨t, hbody, ht⟩ := exists_eq_keyPart_append b.body
  -- the part before the first comma holds none of the three marks that end a key
  have hcomma : ',' ∉ keyPart b.body := fun h => by
    simpa using List.mem_takeWhile_imp (show ',' ∈ b.body.takeWhile (· != ',') from h)
  have hfirst := not_mem_keyMarks hcomma hequals hbrace
  have hends : EndsKey (t ++ closing b.closed) := by
    intro c hc
    cases t with
    | nil => exact .inr (eq_brace_of_mem_closing b.closed c hc)
    | cons d t => exact .inl (ht c hc)
  -- acceptance says that the trimmed part is made of characters the check takes for a key
  rw [isOk_run_iff, text_eq_append_closing hopener, accepts_head hb.head hopener hkept, hbody,
    List.append_assoc, accepts_key hfirst hne hends] at hok
  exact keyOf_eq_trim hne hok.2.1

end Bibliography.Check

namespace Bibliography

open Text Check

/-- The key of a body, as the reader of entries finds it. -/
theorem Block.splitKey_fst {body : List Char} (hne : trim (keyPart body) ≠ []) :
    (splitKey body).1 = if '=' ∈ keyPart body then none else some (trim (keyPart body)) := by
  have hfirst : (trim (keyPart body)).isEmpty = false := by
    rw [List.isEmpty_eq_false_iff]
    exact hne
  unfold splitKey
  rw [show body.takeWhile (· != ',') = keyPart body from rfl]
  simp only [hfirst]
  split
  · rfl
  · rfl

/-! ## §5 Agreement -/

/-- Whether a block is read as an entry. -/
def Located.Reads (x : Located) (e : Entry) : Prop :=
  x.block.read Check.run x.line = ⟨[.entry e], []⟩

theorem Located.reads_iff {x : Located} {e : Entry} :
    x.Reads e ↔ ¬x.block.IsKept ∧ x.block.entry Check.run = .ok e := by
  rw [Reads, Block.read_eq]
  constructor
  · intro h
    exact Block.entry_of_item (List.singleton_inj.1 (Reading.mk.inj h).1)
  · rintro ⟨hkept, hentry⟩
    obtain ⟨hitem, hissue⟩ := Block.item_of_entry hkept hentry
    rw [hitem, hissue]
    rfl

/-- Every entry of a text is read from one of its blocks. -/
theorem exists_reads_of_mem_items {t : List Char} {e : Entry}
    (he : .entry e ∈ (Reading.ofChars t).items) : ∃ x ∈ locateBlocks t, x.Reads e := by
  obtain ⟨x, hx, hkept, hentry⟩ := exists_block_of_mem_items he
  obtain ⟨y, hy, hblock⟩ := exists_mem_locateBlocks hx
  exact ⟨y, hy, Located.reads_iff.2 (hblock ▸ ⟨hkept, hentry⟩)⟩

/-- Whether the key of an entry is that of the first record which the check lists for a text. -/
def KeysAgree (s : List Char) (e : Entry) : Prop :=
  ∃ r rs, Check.run s = .ok (r :: rs) ∧ e.key = some (String.ofList r.key)

theorem keysAgree_iff_of_run {s : List Char} {r : Record} {rs : List Record}
    (hrun : Check.run s = .ok (r :: rs)) (e : Entry) :
    KeysAgree s e ↔ e.key = some (String.ofList r.key) := by
  constructor
  · rintro ⟨r', rs', hrun', he⟩
    obtain ⟨rfl, -⟩ := List.cons.inj (Except.ok.inj (hrun.symm.trans hrun'))
    exact he
  · exact fun he => ⟨r, rs, hrun, he⟩

/-- Every entry is read from a block, and if that is one in braces, the check has listed the key of
its body; it is the key of the entry exactly when neither an equals sign nor a closing brace stands
in front of the first comma, and with an equals sign there the entry has none. -/
theorem keysAgree_iff {t : List Char} {e : Entry} (he : .entry e ∈ (Reading.ofChars t).items) :
    (∃ x ∈ locateBlocks t, x.Reads e) ∧
    ∀ x ∈ locateBlocks t, x.Reads e → x.block.head.opener = '{' →
      (∃ r rs, Check.run x.block.text = .ok (r :: rs) ∧ r.key = keyOf x.block.body ∧ r.key ≠ []) ∧
      (KeysAgree x.block.text e ↔ '=' ∉ keyPart x.block.body ∧ '}' ∉ keyPart x.block.body) ∧
      (e.key = none ↔ '=' ∈ keyPart x.block.body) := by
  refine ⟨exists_reads_of_mem_items he, fun x hx hreads hopener => ?_⟩
  have hb := wellFormed_of_mem_locateBlocks hx
  obtain ⟨hkept, hentry⟩ := Located.reads_iff.1 hreads
  obtain ⟨hok, fs, -, rfl⟩ := Block.entry_eq_ok_iff.1 hentry
  obtain ⟨r, rs, hrun, hr, hrne⟩ := exists_record_of_isOk hb hopener hkept hok
  have hne := trim_keyPart_ne_nil (hr ▸ hrne)
  refine ⟨⟨r, rs, hrun, hr, hrne⟩, ?_⟩
  rw [keysAgree_iff_of_run hrun, Block.splitKey_fst hne, hr]
  by_cases hequals : '=' ∈ keyPart x.block.body
  · simp [hequals]
  by_cases hbrace : '}' ∈ keyPart x.block.body
  · -- what the reader finds holds the brace, and the key does not
    have hdiffer : String.ofList (trim (keyPart x.block.body)) ≠
        String.ofList (keyOf x.block.body) := fun h =>
      brace_not_mem_keyOf (String.ofList_injective h ▸ (mem_of_mem_trim (by decide)).1 hbrace)
    simp [hequals, hbrace, hdiffer]
  · simp [hequals, hbrace, trim_keyPart_eq hb hopener hkept hok hne hequals hbrace]

/-- A reference with a key between blanks. -/
def spacedKey : List Char := "@misc\x7b a , title = \x7bx\x7d\x7d".toList

theorem keysAgree_spacedKey :
    .entry ⟨"misc", some "a", [⟨"title", .text "x"⟩]⟩ ∈ (Reading.ofChars spacedKey).items ∧
      ∃ x ∈ locateBlocks spacedKey, x.Reads ⟨"misc", some "a", [⟨"title", .text "x"⟩]⟩ ∧
        KeysAgree x.block.text ⟨"misc", some "a", [⟨"title", .text "x"⟩]⟩ := by
  -- kernel evaluation is kept to the two closed facts the iff asks for
  have hitems : (Reading.ofChars spacedKey).items =
      [.entry ⟨"misc", some "a", [⟨"title", .text "x"⟩]⟩] := by with_unfolding_all rfl
  have hmem : .entry ⟨"misc", some "a", [⟨"title", .text "x"⟩]⟩ ∈
      (Reading.ofChars spacedKey).items := by
    rw [hitems]
    exact List.mem_singleton_self _
  have hblocks : ∀ x ∈ locateBlocks spacedKey, x.block.head.opener = '{' ∧
      '=' ∉ keyPart x.block.body ∧ '}' ∉ keyPart x.block.body := by
    decide +kernel
  obtain ⟨⟨x, hx, hreads⟩, hkeys⟩ := keysAgree_iff hmem
  obtain ⟨hopener, hmarks⟩ := hblocks x hx
  exact ⟨hmem, x, hx, hreads, (hkeys x hx hreads hopener).2.1.2 hmarks⟩

/-- The body of a reference whose key goes on behind a closing brace, for the reader of entries. -/
def bracedKeyBody : List Char := "a\x7bb\x7d, title = \x7bx\x7d".toList

/-- The body of a reference whose key holds an equals sign, for the check. -/
def equalsKeyBody : List Char := "a=b, title = \x7bx\x7d".toList

/-- A closed block in braces that makes up a text. -/
def miscBlock (body : List Char) : Block := ⟨⟨"@misc\x7b".toList, "misc".toList, '{'⟩, body, true⟩

/-- The check ends a key at a closing brace, the reader of entries at the comma behind it; and where
an equals sign is a part of the key for the check, there is no key for the reader. -/
theorem not_keysAgree_bracedKey :
    (∃ x ∈ locateBlocks (miscBlock bracedKeyBody).text, x.block = miscBlock bracedKeyBody ∧
      x.Reads ⟨"misc", some "a\x7bb\x7d", [⟨"title", .text "x"⟩]⟩ ∧
      ¬KeysAgree x.block.text ⟨"misc", some "a\x7bb\x7d", [⟨"title", .text "x"⟩]⟩) ∧
    ∃ x ∈ locateBlocks (miscBlock equalsKeyBody).text, x.block = miscBlock equalsKeyBody ∧
      x.Reads ⟨"misc", none, [⟨"a", .abbreviation "b"⟩, ⟨"title", .text "x"⟩]⟩ ∧
      ¬KeysAgree x.block.text ⟨"misc", none, [⟨"a", .abbreviation "b"⟩, ⟨"title", .text "x"⟩]⟩ := by
  have hbraced : Check.run (miscBlock bracedKeyBody).text = .ok [⟨"a\x7bb".toList, []⟩] := by
    decide +kernel
  have hequals : Check.run (miscBlock equalsKeyBody).text =
      .ok [⟨"a=b".toList, ["title".toList]⟩] := by
    decide +kernel
  -- the two blocks are listed where their texts begin; what the check records for each is known
  -- already
  refine ⟨⟨⟨miscBlock bracedKeyBody, 1, 0, 24⟩, by decide +kernel, rfl, ?_, ?_⟩,
    ⟨⟨miscBlock equalsKeyBody, 1, 0, 23⟩, by decide +kernel, rfl, ?_, ?_⟩⟩
  · with_unfolding_all rfl
  · rw [keysAgree_iff_of_run hbraced]
    decide
  · with_unfolding_all rfl
  · rw [keysAgree_iff_of_run hequals]
    decide

end Bibliography
