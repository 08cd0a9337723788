import Bibliography.Proofs.Indentation
import Bibliography.Proofs.ResolvedOptions
import Bibliography.Proofs.UpperNames
import Mathlib.Data.Nat.Digits.Lemmas

/-!
# Indentations that are asked for

An indentation is asked for by a number of spaces, which may have any number of digits. It is bounded
before it is computed: zeros in front are left out, and what remains may have two digits at most. This
loses nothing, since a number that begins with another digit than zero and has three digits is at
least a hundred (`pow_length_le_numeralValue`); so the digits are refused exactly if the
number they denote is more than 64 (`tabWidth?_eq`).

As an option, an indentation may also be given as itself. Whatever is given, what comes out is one tab
or at least one space (`Settings.isTab_load`), so settings hold no other indentation than spaces and
tabs, and this is taken as it is when it is given again.

Main statement: `Settings.loadsTab_and_keepsTab`.
-/

namespace Bibliography

open Text

/-! ## §1 Numerals -/

/-- The number that decimal digits of ASCII denote, the most significant one in front. -/
def numeralValue (digits : List Char) : Nat :=
  Nat.ofDigits 10 (digits.reverse.map fun c => c.toNat - '0'.toNat)

theorem numeralValue_cons (c : Char) (digits : List Char) : numeralValue (c :: digits) =
    numeralValue digits + 10 ^ digits.length * (c.toNat - '0'.toNat) := by
  rw [numeralValue, List.reverse_cons, List.map_append, Nat.ofDigits_append, List.length_map,
    List.length_reverse, List.map_singleton, Nat.ofDigits_singleton, numeralValue]

theorem numeralValue_append_one (digits : List Char) (c : Char) :
    numeralValue (digits ++ [c]) = (c.toNat - '0'.toNat) + 10 * numeralValue digits := by
  rw [numeralValue, List.reverse_append, List.reverse_singleton, List.singleton_append,
    List.map_cons, Nat.ofDigits_cons, numeralValue]

/-- Zeros in front of a number do not count. -/
theorem numeralValue_dropWhile_zero (digits : List Char) :
    numeralValue (digits.dropWhile (· == '0')) = numeralValue digits := by
  induction digits with
  | nil => rfl
  | cons c digits ih =>
    by_cases hc : c = '0'
    · subst hc
      rw [List.dropWhile_cons_of_pos (by decide), ih, numeralValue_cons, Nat.sub_self, Nat.mul_zero,
        Nat.add_zero]
    · rw [List.dropWhile_cons_of_neg (by simpa using hc)]

/-- A number that begins with another digit than zero is at least the power of ten with as many
zeros as there are further digits. -/
theorem pow_length_le_numeralValue {c : Char} (hc : c.isDigit = true) (hzero : c ≠ '0')
    (digits : List Char) : 10 ^ digits.length ≤ numeralValue (c :: digits) := by
  have hvalue : 0 < c.toNat - '0'.toNat := by
    have hbounds := toNat_of_isDigit hc
    have hne : c.toNat ≠ '0'.toNat := fun h => hzero (Char.toNat_inj.1 h)
    have hzeroCode : '0'.toNat = 48 := rfl
    omega
  rw [numeralValue_cons]
  calc 10 ^ digits.length ≤ 10 ^ digits.length * (c.toNat - '0'.toNat) :=
        Nat.le_mul_of_pos_right _ hvalue
    _ ≤ numeralValue digits + 10 ^ digits.length * (c.toNat - '0'.toNat) := Nat.le_add_left _ _

theorem decimalValue?_of_isDigit {c : Char} (h : c.isDigit = true) :
    decimalValue? c = some (c.toNat - '0'.toNat) := by
  have hlt : c.toNat < 128 := by
    have hbounds := toNat_of_isDigit h
    omega
  rw [decimalValue?_of_lt hlt, if_pos h]
  rfl

/-- Reading digits from the left gives the number that they denote. -/
theorem decimalNumber_eq_numeralValue {digits : List Char}
    (hdigits : ∀ c ∈ digits, c.isDigit = true) : decimalNumber digits = numeralValue digits := by
  -- the last digit is the one that is added last
  induction digits using List.reverseRecOn with
  | nil => rfl
  | append_singleton digits c ih =>
    have hc := hdigits c (List.mem_append_right _ List.mem_cons_self)
    have hrest := ih fun d hd => hdigits d (List.mem_append_left _ hd)
    unfold decimalNumber at hrest ⊢
    rw [List.foldl_append, hrest, List.foldl_cons, List.foldl_nil, decimalValue?_of_isDigit hc,
      Option.getD_some, numeralValue_append_one, Nat.add_comm]

/-! ## §2 Specifications -/

/-- Digits are refused exactly if the number that they denote is more than 64, however many they
are. -/
theorem tabWidth?_eq {digits : List Char} (hdigits : ∀ c ∈ digits, c.isDigit = true) :
    tabWidth? digits = if numeralValue digits ≤ 64 then some (numeralValue digits) else none := by
  have hsub : ∀ c ∈ digits.dropWhile (· == '0'), c.isDigit = true := fun c hc =>
    hdigits c ((List.dropWhile_suffix _).subset hc)
  have hvalue := numeralValue_dropWhile_zero digits
  have hnumber := decimalNumber_eq_numeralValue hsub
  have hhead := head?_dropWhile_eq_false (· == '0') digits
  have hbound : (toString maxTabWidth).length = 2 := by decide
  rw [← hvalue]
  unfold tabWidth?
  dsimp only
  rw [hbound, hnumber]
  generalize digits.dropWhile (· == '0') = stripped at hsub hhead
  unfold maxTabWidth
  by_cases hlong : 2 < stripped.length
  · -- three digits without a zero in front denote a hundred at least
    match stripped with
    | c :: rest =>
      have hzero : c ≠ '0' := by simpa using hhead c rfl
      have hlarge := pow_length_le_numeralValue (hsub c List.mem_cons_self) hzero rest
      have hpow : 10 ^ 2 ≤ 10 ^ rest.length :=
        Nat.pow_le_pow_right (by decide) (Nat.lt_succ_iff.1 hlong)
      rw [if_pos hlong, if_neg (by omega)]
  · rw [if_neg hlong]
    by_cases hwide : numeralValue stripped ≤ 64
    · rw [if_pos hwide, if_neg (Nat.not_lt.2 hwide)]
    · rw [if_neg hwide, if_pos (Nat.lt_of_not_le hwide)]

/-- The characters that may stand behind the digits of a specification. -/
def tabUnit : List Char := " spaces".toList

/-- Helper: the decimal digits of ASCII are the ten figures. -/
private theorem isDigit_iff_of_ascii {c : Char} (hc : c.toNat < 128) :
    (decimalValue? c).isSome = true ↔ c.isDigit = true := by
  rw [decimalValue?_of_lt hc]
  cases c.isDigit <;> simp

/-- The digits of a specification are a run of decimal digits, with nothing or the unit behind it. -/
theorem exists_rest_of_tabDigits? {spec digits : List Char} (h : tabDigits? spec = some digits) :
    digits ≠ [] ∧ (∀ c ∈ digits, (decimalValue? c).isSome = true) ∧
      ∃ rest, spec = digits ++ rest ∧ (rest = [] ∨ rest = tabUnit) := by
  unfold tabDigits? at h
  dsimp only at h
  split at h
  · cases h
  · next hne =>
    split at h
    · next hrest =>
      cases h
      refine ⟨by simpa using hne, fun c hc => ?_, _, List.takeWhile_append_dropWhile.symm, ?_⟩
      · exact List.mem_takeWhile_imp (p := fun c => (decimalValue? c).isSome) hc
      · exact hrest.imp_left List.isEmpty_iff.1
    · cases h

/-- Figures with nothing or the unit behind them are the digits of a specification. -/
theorem tabDigits?_append {digits rest : List Char} (hne : digits ≠ [])
    (hdigits : ∀ c ∈ digits, c.isDigit = true) (hrest : rest = [] ∨ rest = tabUnit) :
    tabDigits? (digits ++ rest) = some digits := by
  have hrun : ∀ c ∈ digits, (decimalValue? c).isSome = true := by
    intro c hc
    rw [decimalValue?_of_isDigit (hdigits c hc)]
    rfl
  -- the unit begins with a blank, which ends the run
  have hstop : ∀ c ∈ rest.head?, (decimalValue? c).isSome = false := by
    intro c hc
    rcases hrest with rfl | rfl
    · cases hc
    · obtain rfl : ' ' = c := Option.some.inj hc
      rfl
  rw [tabDigits?, takeWhile_append_of_stop hrun hstop, dropWhile_append_of_stop hrun hstop,
    if_neg (by simpa using hne)]
  exact if_pos (hrest.imp_left List.isEmpty_iff.2)

theorem tabDigits?_eq_some_iff {spec digits : List Char} (hascii : IsAscii spec) :
    tabDigits? spec = some digits ↔ digits ≠ [] ∧ (∀ c ∈ digits, c.isDigit = true) ∧
      (spec = digits ∨ spec = digits ++ tabUnit) := by
  constructor
  · intro h
    obtain ⟨hne, hdecimal, rest, rfl, hrest⟩ := exists_rest_of_tabDigits? h
    refine ⟨hne, fun c hc => ?_, ?_⟩
    · exact (isDigit_iff_of_ascii (hascii c (List.mem_append_left _ hc))).1 (hdecimal c hc)
    · rcases hrest with rfl | rfl
      · exact .inl (List.append_nil _)
      · exact .inr rfl
  · rintro ⟨hne, hdigits, rfl | rfl⟩
    · have hread := tabDigits?_append hne hdigits (.inl rfl)
      rwa [List.append_nil] at hread
    · exact tabDigits?_append hne hdigits (.inr rfl)

/-- What a specification of ASCII asks for: a tab, or a number of spaces up to 64. The number may
have any zeros in front of it. -/
inductive AsksForTab : String → String → Prop
  | tab : AsksForTab "tab" "\t"
  | spaces {spec : String} {digits : List Char} :
      digits ≠ [] → (∀ c ∈ digits, c.isDigit = true) →
      (spec.toList = digits ∨ spec.toList = digits ++ " spaces".toList) →
      numeralValue digits ≤ 64 →
      AsksForTab spec (String.ofList (spaces (numeralValue digits)))

/-- Helper: a specification that asks for spaces begins with a digit. -/
private theorem head_of_digits {spec digits : List Char} (hne : digits ≠ [])
    (hdigits : ∀ c ∈ digits, c.isDigit = true) (hspec : spec = digits ∨ spec = digits ++ tabUnit) :
    ∃ c rest, spec = c :: rest ∧ c.isDigit = true := by
  obtain ⟨c, digits, rfl⟩ := List.exists_cons_of_ne_nil hne
  have hc := hdigits c List.mem_cons_self
  rcases hspec with rfl | rfl
  · exact ⟨c, digits, rfl, hc⟩
  · exact ⟨c, digits ++ tabUnit, rfl, hc⟩

/-- Helper: the two kinds of specifications. -/
private theorem parseTab?_eq_some_cases {spec tab : String} : parseTab? spec = some tab ↔
    spec = "tab" ∧ "\t" = tab ∨ spec ≠ "tab" ∧ ∃ digits, tabDigits? spec.toList = some digits ∧
      ∃ width, tabWidth? digits = some width ∧ String.ofList (spaces width) = tab := by
  unfold parseTab?
  by_cases hword : spec = "tab"
  · simp [hword]
  · simp [hword, Option.bind_eq_some_iff, spaces]

/-- A specification gives what it asks for, and nothing else gives anything. -/
theorem parseTab?_eq_some_iff {spec tab : String} (hascii : IsAscii spec.toList) :
    parseTab? spec = some tab ↔ AsksForTab spec tab := by
  rw [parseTab?_eq_some_cases]
  constructor
  · rintro (⟨rfl, rfl⟩ | ⟨-, digits, hspec, width, hwidth, rfl⟩)
    · exact .tab
    · obtain ⟨hne, hdigits, hspec⟩ := (tabDigits?_eq_some_iff hascii).1 hspec
      rw [tabWidth?_eq hdigits] at hwidth
      split at hwidth
      · next hle =>
        cases hwidth
        exact .spaces hne hdigits hspec hle
      · cases hwidth
  · intro h
    cases h with
    | tab => exact .inl ⟨rfl, rfl⟩
    | @spaces _ digits hne hdigits hspec hle =>
      refine .inr ⟨?_, digits, (tabDigits?_eq_some_iff hascii).2 ⟨hne, hdigits, hspec⟩,
        numeralValue digits, ?_, rfl⟩
      · -- the word begins with a letter
        rintro rfl
        obtain ⟨c, rest, heq, hc⟩ := head_of_digits hne hdigits hspec
        obtain ⟨rfl, -⟩ : 't' = c ∧ ['a', 'b'] = rest := by simpa using heq
        cases hc
      · rw [tabWidth?_eq hdigits, if_pos hle]

example : parseTab? "0002 spaces" = some "  " := by decide

example : parseTab? "065" = none := by decide

/-! ## §3 Reading the option -/

/-- A single tab, or one space at least. -/
def IsTab (s : String) : Prop := s = "\t" ∨ s ≠ "" ∧ ∀ c ∈ s.toList, c = ' '

instance (s : String) : Decidable (IsTab s) :=
  decidable_of_iff (s = "\t" ∨ s ≠ "" ∧ s.toList.all (· == ' ') = true) (by simp [IsTab])

/-- A tab is an indentation of spaces and tabs. -/
theorem IsTab.isIndent {s : String} (h : IsTab s) : IsIndent s.toList := by
  rcases h with rfl | ⟨-, hall⟩
  · intro c hc
    exact .inr (by simpa using hc)
  · intro c hc
    exact .inl (hall c hc)

/-- The indentation that a text gives as an option: itself if it is a tab, and otherwise what it asks
for, unless this is nothing. -/
inductive GivesTab : String → String → Prop
  | itself {s : String} : IsTab s → GivesTab s s
  | asked {s tab : String} : parseTab? s = some tab → tab ≠ "" → GivesTab s tab

/-- Whatever is asked for, it is a tab unless it is nothing. -/
theorem isTab_of_parseTab? {spec tab : String} (h : parseTab? spec = some tab) (hne : tab ≠ "") :
    IsTab tab := by
  rcases parseTab?_eq_some_cases.1 h with ⟨-, rfl⟩ | ⟨-, digits, -, width, -, rfl⟩
  · exact .inl rfl
  · refine .inr ⟨hne, fun c hc => ?_⟩
    rw [String.toList_ofList] at hc
    exact List.eq_of_mem_replicate hc

theorem GivesTab.isTab {s tab : String} (h : GivesTab s tab) : IsTab tab := by
  cases h with
  | itself htab => exact htab
  | asked hparse hne => exact isTab_of_parseTab? hparse hne

/-- A tab is no specification, as it has no digits. -/
theorem parseTab?_of_isTab {s : String} (h : IsTab s) : parseTab? s = none := by
  -- a tab or a run of spaces starts with no digit, and it is not the word either
  have hhead : ∃ c rest, s.toList = c :: rest ∧ (decimalValue? c).isSome = false := by
    rcases h with rfl | ⟨hne, hall⟩
    · exact ⟨'\t', [], rfl, by decide⟩
    · obtain ⟨c, rest, hs⟩ := List.exists_cons_of_ne_nil (mt String.toList_eq_nil_iff.1 hne)
      obtain rfl := hall c (hs ▸ List.mem_cons_self)
      exact ⟨' ', rest, hs, by decide⟩
  have hword : s ≠ "tab" := by
    rintro rfl
    exact absurd h (by decide)
  obtain ⟨c, rest, hs, hc⟩ := hhead
  have hdigits : tabDigits? s.toList = none := by
    simp [tabDigits?, hs, hc]
  rw [parseTab?, if_neg hword, hdigits]
  rfl

/-- Helper: what is taken as it is comes first, and a specification after it. -/
private theorem readTab_text (s : String) : readTab (.text s) =
    if IsTab s then .ok s
    else match parseTab? s with
      | some t => if t = "" then .error .tabNotPositive else .ok t
      | none => .error .tabNotPositive := by
  have hiff : (s = "\t" ∨ (s ≠ "" ∧ s.toList.all (· == ' ') = true)) ↔ IsTab s := by
    simp [IsTab]
  dsimp only [readTab]
  by_cases htab : IsTab s
  · exact (if_pos (hiff.2 htab)).trans (if_pos htab).symm
  · exact (if_neg (mt hiff.1 htab)).trans (if_neg htab).symm

theorem readTab_eq_ok_iff {s tab : String} : readTab (.text s) = .ok tab ↔ GivesTab s tab := by
  rw [readTab_text]
  -- a text that is a tab already is never asked for its digits
  by_cases htab : IsTab s
  · rw [if_pos htab]
    constructor
    · intro h
      cases h
      exact .itself htab
    · intro h
      cases h with
      | itself _ => rfl
      | asked hparse _ =>
        -- it would have to start with a digit
        rw [parseTab?_of_isTab htab] at hparse
        cases hparse
  · rw [if_neg htab]
    constructor
    · -- otherwise the text gives what its digits say, as long as the number is not zero
      intro h
      split at h
      · next t hparse =>
        split at h
        · cases h
        · next hne =>
          cases h
          exact .asked hparse hne
      · cases h
    · intro h
      cases h with
      | itself h => exact absurd h htab
      | asked hparse hne =>
        rw [hparse]
        exact if_neg hne

/-- A text is refused for one reason only. -/
theorem readTab_of_refused {s : String} (h : ∀ tab, ¬GivesTab s tab) :
    readTab (.text s) = .error .tabNotPositive := by
  rw [readTab_text, if_neg fun htab => h s (.itself htab)]
  split
  · next t hparse =>
    split
    · rfl
    · next hne => exact absurd (.asked hparse hne) (h t)
  · rfl

/-- Only texts are read, and what is read is a tab. -/
theorem isTab_of_read {v : Datum} {tab : String} (h : Setting.tab.read v = .ok tab) : IsTab tab := by
  cases v with
  | text s =>
    cases hread : readTab (.text s) with
    | error reason =>
      rw [Setting.read, hread] at h
      cases h
    | ok given =>
      -- only what the reading of the option accepts is stored, and that is a tab
      rw [Setting.read, hread] at h
      obtain rfl : given = tab := Except.ok.inj h
      exact (readTab_eq_ok_iff.1 hread).isTab
  | _ => cases h

/-! ## §4 Loading the option -/

/-- No report about a setting names an option that belongs to another one. -/
theorem Setting.IsSettled.option_mem_spellings {o : Options} {x : Setting} {value : x.Value}
    {issues : List OptionIssue} (h : x.IsSettled o value issues) :
    ∀ issue ∈ issues, issue.option ∈ x.spellings := by
  intro issue hissue
  cases hv : x.counting? o with
  -- an absent option reports nothing
  | none =>
    rw [(h.absent hv).2] at hissue
    cases hissue
  | some v =>
    cases hread : x.read v with
    -- an accepted one reports nothing either
    | ok a =>
      rw [(h.accepted v a hv hread).2] at hissue
      cases hissue
    | error reasons =>
      -- a rejected one reports once for each spelling it was given under
      obtain ⟨-, reason, -, hissues⟩ := h.rejected v reasons hv hread
      rw [hissues] at hissue
      obtain ⟨name, hname, hsome⟩ := List.mem_filterMap.1 hissue
      obtain ⟨given, -, rfl⟩ := Option.map_eq_some_iff.1 hsome
      exact hname

/-- The reports about the indentation. -/
def Resolved.tabIssues (r : Resolved) : List OptionIssue := r.issues.filter (·.option == "tab")

/-- Of the reports that are made setting by setting, those about the indentation come first. -/
theorem filter_tab_flatMap {issues : Setting → List OptionIssue}
    (h : ∀ x : Setting, ∀ issue ∈ issues x, issue.option ∈ x.spellings) :
    (Setting.all.flatMap issues).filter (·.option == "tab") = issues .tab := by
  -- every issue of the tab names the tab, and no other setting is spelled so
  have htab : (issues .tab).filter (·.option == "tab") = issues .tab := by
    refine List.filter_eq_self.2 fun issue hissue => beq_iff_eq.2 ?_
    exact List.mem_singleton.1 (h .tab issue hissue)
  have hother : ∀ x ∈ Setting.all.tail, (issues x).filter (·.option == "tab") = [] := by
    intro x hx
    refine List.filter_eq_nil_iff.2 fun issue hissue hoption => ?_
    have hmem := h x issue hissue
    rw [beq_iff_eq.1 hoption] at hmem
    -- an issue that names the tab belongs to the setting that owns the spelling
    obtain rfl : Setting.tab = x := Setting.eq_of_mem_spellings (by decide) hmem
    exact absurd hx (by decide)
  change ((issues .tab) ++ Setting.all.tail.flatMap issues).filter (·.option == "tab") = _
  rw [List.filter_append, htab, List.filter_flatMap, List.flatMap_eq_nil_iff.2 hother,
    List.append_nil]

/-- What is owed where a text is given as the indentation. -/
structure Resolved.TakesTab (s : String) (r : Resolved) : Prop where
  /-- It is accepted if it gives a tab. -/
  accepted : ∀ tab, GivesTab s tab → r.settings.layout.tab = tab ∧ r.tabIssues = []
  /-- Otherwise there are two spaces, and one report. -/
  refused : (∀ tab, ¬GivesTab s tab) → r.settings.layout.tab = "  " ∧
    r.tabIssues = [.rejected "tab" (.text s) .tab .tabNotPositive]

/-- Whether a value gives a text as the indentation, whatever else it gives. -/
def Datum.GivesAsTab (v : Datum) (s : String) : Prop :=
  ∃ o, v.options? = some o ∧ o.find? "tab" = some (.text s)

theorem Settings.takesTab_load {v : Datum} {s : String} (h : v.GivesAsTab s) :
    (load v).TakesTab s := by
  obtain ⟨o, ho, hfind⟩ := h
  obtain ⟨issues, hissues, hsettled⟩ := (isLoaded_load v).options o ho
  have htab := hsettled .tab
  -- the option has one spelling, so the text found under it is the one that counts
  have hcounting : Setting.tab.counting? o = some (.text s) := by
    change (o.find? "tab").or (o.find? "tab") = _
    rw [hfind]
    rfl
  -- among all issues only those of the tab name it
  have hreports : (load v).tabIssues = issues .tab := by
    rw [Resolved.tabIssues, hissues]
    exact filter_tab_flatMap fun x => (hsettled x).option_mem_spellings
  constructor
  · -- the text gives a tab: the setting holds it and nothing is reported
    intro tab hgives
    have hread : Setting.tab.read (.text s) = .ok tab := by
      rw [Setting.read, readTab_eq_ok_iff.2 hgives]
      rfl
    have haccepted := htab.accepted _ tab hcounting hread
    rw [hreports]
    exact haccepted
  · -- the text gives none: the default stands, with the one reason for it
    intro hrefused
    have hread : Setting.tab.read (.text s) = .error [.tabNotPositive] := by
      rw [Setting.read, readTab_of_refused hrefused]
      rfl
    obtain ⟨hvalue, reason, hreason, hone⟩ := htab.rejected _ _ hcounting hread
    cases hreason
    rw [hreports, hone]
    refine ⟨hvalue, ?_⟩
    simp [Setting.spellings, hfind]

/-! ## §5 The option on its own, and again -/

/-- The options that give a text as the indentation, and nothing else. -/
def tabOption (s : String) : Datum := .map [(.text "tab", .text s)]

theorem givesAsTab_tabOption (s : String) : (tabOption s).GivesAsTab s :=
  ⟨[("tab", .text s)], rfl, rfl⟩

/-- A text can always be written out, and so can a report about it. -/
theorem Settings.loadTold_tabOption (s : String) :
    loadTold (tabOption s) = .ok (load (tabOption s)) := by
  have hwritable : Options.ReportsWritable [("tab", .text s)] := by
    intro x v reasons _ _ name _ given hgiven
    obtain rfl : Datum.text s = given := by
      rw [Options.find?, List.lookup_cons] at hgiven
      split at hgiven
      · exact Option.some.inj hgiven
      · cases hgiven
    rfl
  exact Options.told_resolve_eq_ok_iff.2 ⟨hwritable, rfl⟩

/-- Whatever is told has been loaded. -/
theorem Settings.eq_load_of_loadTold {v : Datum} {r : Resolved} (h : loadTold v = .ok r) :
    r = load v := by
  unfold loadTold Resolved.told at h
  split at h
  · split at h
    · exact (Except.ok.inj h).symm
    · cases h
  · cases h

/-- The indentation on its own leaves every other setting alone. -/
theorem Settings.isSettled_tabOption {s : String} {x : Setting} (hx : x ≠ .tab) {value : x.Value}
    {issues : List OptionIssue} (h : x.IsSettled [("tab", .text s)] value issues) :
    value = x.get .default ∧ issues = [] := by
  refine h.absent ?_
  cases x with
  | tab => exact absurd rfl hx
  | _ => rfl

/-- Settings are equal if all of them are. -/
theorem Settings.ext_get {s t : Settings} (h : ∀ x : Setting, x.get s = x.get t) : s = t := by
  -- two records that agree setting by setting agree field by field
  obtain ⟨⟨_, _, _, _, _, _, _⟩, ⟨_, _⟩, _, _⟩ := s
  obtain ⟨⟨_, _, _, _, _, _, _⟩, ⟨_, _⟩, _, _⟩ := t
  cases h .tab
  cases h .surround
  cases h .case
  cases h .trailingComma
  cases h .sortBy
  cases h .alignOnEqual
  cases h .sortFields
  cases h .fieldsOrder
  cases h .firstEntries
  cases h .sortEntries
  cases h .handleDuplicates
  rfl

/-- What is loaded where a text alone is given as the indentation: nothing but the indentation
differs from the default, and nothing else is reported. -/
theorem Settings.load_tabOption (s : String) : load (tabOption s) =
    ⟨{ Settings.default with layout.tab := (load (tabOption s)).settings.layout.tab },
      (load (tabOption s)).tabIssues⟩ := by
  obtain ⟨issues, hissues, hsettled⟩ := (isLoaded_load (tabOption s)).options _ rfl
  -- the options name the tab alone, so every other setting keeps its default in silence
  have hother : ∀ x : Setting, x ≠ .tab → x.get (load (tabOption s)).settings = x.get .default ∧
      issues x = [] := fun x hx => isSettled_tabOption hx (hsettled x)
  have hreports : (load (tabOption s)).issues = (load (tabOption s)).tabIssues := by
    rw [Resolved.tabIssues, hissues,
      filter_tab_flatMap fun x => (hsettled x).option_mem_spellings]
    have htail : Setting.all.tail.flatMap issues = [] := by
      refine List.flatMap_eq_nil_iff.2 fun x hx => (hother x ?_).2
      rintro rfl
      exact absurd hx (by decide)
    change issues .tab ++ Setting.all.tail.flatMap issues = issues .tab
    rw [htail, List.append_nil]
  have hsettings : (load (tabOption s)).settings =
      { Settings.default with layout.tab := (load (tabOption s)).settings.layout.tab } := by
    -- setting by setting: the tab is put back as it was read, the others are the default's
    refine Settings.ext_get fun x => ?_
    by_cases hx : x = .tab
    · subst hx
      rfl
    · rw [(hother x hx).1]
      exact (Setting.get_set_of_ne hx .default _).symm
  calc load (tabOption s) = ⟨(load (tabOption s)).settings, (load (tabOption s)).issues⟩ := rfl
    _ = _ := by rw [hreports, ← hsettings]

/-- Whatever is given, the indentation is a tab. -/
theorem Settings.isTab_load (v : Datum) : IsTab (load v).settings.layout.tab := by
  have hdefault : IsTab (Setting.tab.get .default) := by decide
  -- without options, without the option or with a rejected one the default stands; only an accepted
  -- value has to be looked at
  cases ho : v.options? with
  | none =>
    rw [load_of_not_options? ho]
    exact hdefault
  | some o =>
    obtain ⟨issues, -, hsettled⟩ := (isLoaded_load v).options o ho
    have htab := hsettled .tab
    change IsTab (Setting.tab.get (load v).settings)
    cases hv : Setting.tab.counting? o with
    | none =>
      rw [(htab.absent hv).1]
      exact hdefault
    | some given =>
      cases hread : Setting.tab.read given with
      | error reasons =>
        rw [(htab.rejected given reasons hv hread).1]
        exact hdefault
      | ok tab =>
        rw [(htab.accepted given tab hv hread).1]
        exact isTab_of_read hread

/-- Whatever is asked for, the fields of entries are indented by spaces and tabs. -/
theorem Settings.isIndent_tab_load (v : Datum) :
    IsIndent (load v).settings.layout.tab.toList :=
  (isTab_load v).isIndent

/-! ## §6 Indentations that are asked for -/

/-- What is owed where a text of ASCII is given as the indentation. -/
structure Settings.LoadsTab (s : String) : Prop where
  /-- The text gives what it asks for, and nothing if it asks for nothing. -/
  asked : ∀ tab, parseTab? s = some tab ↔ AsksForTab s tab
  /-- It is taken as the indentation, whatever else is given. -/
  taken : ∀ v : Datum, v.GivesAsTab s → (load v).TakesTab s
  /-- On its own it is always loaded, and nothing else is reported. -/
  alone : ∃ r, loadTold (tabOption s) = .ok r ∧ r.TakesTab s ∧ r.issues = r.tabIssues

/-- What is owed to the indentation that comes out of any value. -/
structure Settings.KeepsTab (v : Datum) : Prop where
  told : ∀ r, loadTold v = .ok r → r = load v
  isTab : IsTab (load v).settings.layout.tab
  /-- Among any options it is taken as it is. -/
  again : ∀ w : Datum, w.GivesAsTab (load v).settings.layout.tab →
    (load w).settings.layout.tab = (load v).settings.layout.tab ∧ (load w).tabIssues = []
  /-- On its own it is all that differs from the default, and nothing is reported. -/
  alone : loadTold (tabOption (load v).settings.layout.tab) =
    .ok ⟨{ Settings.default with layout.tab := (load v).settings.layout.tab }, []⟩

theorem Settings.loadsTab {s : String} (hs : IsAscii s.toList) : LoadsTab s := by
  refine ⟨fun tab => parseTab?_eq_some_iff hs, fun v => takesTab_load, load (tabOption s),
    loadTold_tabOption s, takesTab_load (givesAsTab_tabOption s), ?_⟩
  conv_lhs => rw [load_tabOption]

theorem Settings.keepsTab (v : Datum) : KeepsTab v := by
  have htab := isTab_load v
  have hagain : ∀ w : Datum, w.GivesAsTab (load v).settings.layout.tab →
      (load w).settings.layout.tab = (load v).settings.layout.tab ∧ (load w).tabIssues = [] :=
    fun w hw => (takesTab_load hw).accepted _ (.itself htab)
  refine ⟨fun r => eq_load_of_loadTold, htab, hagain, ?_⟩
  obtain ⟨hvalue, hissues⟩ := hagain _ (givesAsTab_tabOption _)
  rw [loadTold_tabOption, load_tabOption, hvalue, hissues]

/-- An indentation of ASCII is read as it is asked for, with a number of any length, and what comes
out of any options is one tab or at least one space, which is loaded again as it is. -/
theorem Settings.loadsTab_and_keepsTab {s : String} (hs : IsAscii s.toList) (v : Datum) :
    LoadsTab s ∧ KeepsTab v :=
  ⟨loadsTab hs, keepsTab v⟩

/-- Zeros in front of a number are left out, and a number that is too large is refused by the count of
its digits. -/
theorem Settings.loadsTab_and_keepsTab_zeros :
    IsAscii "0004 spaces".toList ∧ LoadsTab "0004 spaces" ∧ KeepsTab (tabOption "1000000000000") :=
  have hascii : IsAscii "0004 spaces".toList := by decide
  ⟨hascii, loadsTab_and_keepsTab hascii _⟩

end Bibliography
