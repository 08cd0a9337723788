import Bibliography.CommandLine.Run
import Mathlib.Data.List.Basic

/-!
# What options are resolved to

Options are validated as a whole, and what is wrong is taken out until the rest is accepted. Although
every round looks at all options again, each setting comes out as if it were alone: as the value given
for it, under its preferred spelling if both are there, or as its default where that value is not
accepted. One round of taking out is enough.

The message about an option shows its value. A whole number of too many digits cannot be written out,
and then nothing is resolved.

Main statements: the settings and reports of a resolution (`Options.isAccount_resolve`), and when a
value is loaded as asked for (`Settings.loads_iff`).
-/

namespace Bibliography

/-! ## §1 Settings and their values -/

namespace Setting

theorem mem_all (x : Setting) : x ∈ all := by
  cases x <;> decide

theorem nodup_all : all.Nodup := by
  decide

@[simp]
theorem get_set (s : Settings) (x : Setting) (a : x.Value) : x.get (x.set s a) = a := by
  cases x <;> rfl

/-- Giving one setting a value leaves every other one alone. -/
theorem get_set_of_ne {x y : Setting} (h : x ≠ y) (s : Settings) (a : y.Value) :
    x.get (y.set s a) = x.get s := by
  cases y <;> cases x <;> first | rfl | exact absurd rfl h

/-- No spelling belongs to two settings. -/
theorem eq_of_mem_spellings {x y : Setting} {name : String} (hx : name ∈ x.spellings)
    (hy : name ∈ y.spellings) : x = y := by
  have key : ∀ x ∈ all, ∀ y ∈ all, ∀ name ∈ x.spellings, name ∈ y.spellings → x = y := by
    decide
  exact key x (mem_all x) y (mem_all y) name hx hy

theorem nodup_spellings (x : Setting) : x.spellings.Nodup := by
  cases x <;> decide

/-- The spelling of a setting that counts where no other is there. -/
def attributeName (x : Setting) : String := x.spellings.headD ""

theorem optionName_mem_spellings (x : Setting) : x.optionName ∈ x.spellings := by
  cases x <;> decide

theorem attributeName_mem_spellings (x : Setting) : x.attributeName ∈ x.spellings := by
  cases x <;> decide

/-- Helper: a single spelling, as if it were both. -/
private theorem findSome?_one (f : String → Option Datum) (a : String) :
    [a].findSome? f = (f a).or (f a) := by
  cases ha : f a <;> simp [ha]

/-- Helper: the first of two spellings that is there. -/
private theorem findSome?_two (f : String → Option Datum) (a b : String) :
    [a, b].findSome? f = (f a).or (f b) := by
  cases ha : f a with
  | some v => simp [ha]
  | none => cases hb : f b <;> simp [ha, hb]

/-- The preferred spelling counts, and the other one where that is missing. -/
theorem given?_eq (o : Options) (x : Setting) :
    x.given? o = (o.find? x.optionName).or (o.find? x.attributeName) := by
  cases x with
  | tab | surround | case => exact findSome?_one _ _
  | _ => exact findSome?_two _ _ _

end Setting

/-! ## §2 Options without some keys -/

namespace Options

@[simp]
theorem find?_takeOut_self (o : Options) (key : String) : (takeOut o key).find? key = none := by
  induction o with
  | nil => rfl
  | cons p o ih =>
    by_cases hp : p.1 = key
    · -- the key may come again further on, so the rest is still searched
      have hout : takeOut (p :: o) key = takeOut o key := by simp [takeOut, hp]
      rw [hout, ih]
    · have hout : takeOut (p :: o) key = p :: takeOut o key := by simp [takeOut, hp]
      have hkey : (key == p.1) = false := by simpa using fun h => hp h.symm
      rw [hout, find?, List.lookup_cons, hkey]
      exact ih

theorem find?_takeOut_of_ne {name key : String} (h : name ≠ key) (o : Options) :
    (takeOut o key).find? name = o.find? name := by
  induction o with
  | nil => rfl
  | cons p o ih =>
    by_cases hp : p.1 = key
    · -- the first option is taken out; it has another name, so the look-up passed over it anyway
      have hout : takeOut (p :: o) key = takeOut o key := by simp [takeOut, hp]
      have hname : (name == p.1) = false := by simpa [hp] using h
      rw [hout, ih, find?, find?, List.lookup_cons, hname]
    · -- it stays, and both look-ups either find it or go on
      have hout : takeOut (p :: o) key = p :: takeOut o key := by simp [takeOut, hp]
      rw [hout, find?, find?, List.lookup_cons, List.lookup_cons]
      split
      · rfl
      · exact ih

/-- Taking out a key that is not there changes nothing. -/
theorem takeOut_of_find?_eq_none {o : Options} {key : String} (h : o.find? key = none) :
    takeOut o key = o := by
  refine List.filter_eq_self.2 fun p hp => ?_
  have hne : (key != p.1) = true := List.lookup_eq_none_iff.1 h p hp
  rwa [bne_comm] at hne

/-- The options without several keys. -/
def without (o : Options) (keys : List String) : Options := keys.foldl takeOut o

theorem find?_without (o : Options) (keys : List String) (name : String) :
    (o.without keys).find? name = if name ∈ keys then none else o.find? name := by
  induction keys generalizing o with
  | nil => simp [without]
  | cons key keys ih =>
    -- taking the first key out leaves a look-up for the rest of the keys
    change ((takeOut o key).without keys).find? name = _
    rw [ih]
    by_cases hkeys : name ∈ keys
    · simp [hkeys]
    · -- only the first key is left that may hide the name
      by_cases hkey : name = key
      · simp [hkey]
      · simp [hkeys, hkey, find?_takeOut_of_ne hkey]

theorem without_sublist (o : Options) (keys : List String) : (o.without keys).Sublist o := by
  induction keys generalizing o with
  | nil => exact List.Sublist.refl o
  | cons key keys ih => exact (ih (takeOut o key)).trans List.filter_sublist

theorem without_append (o : Options) (keys others : List String) :
    o.without (keys ++ others) = (o.without keys).without others :=
  List.foldl_append

theorem without_eq_self {o : Options} {keys : List String} (h : ∀ key ∈ keys, o.find? key = none) :
    o.without keys = o := by
  induction keys with
  | nil => rfl
  | cons key keys ih =>
    change (takeOut o key).without keys = o
    rw [takeOut_of_find?_eq_none (h key List.mem_cons_self)]
    exact ih fun k hk => h k (List.mem_cons_of_mem _ hk)

end Options

/-! ## §3 Validation -/

namespace Setting

/-- What a setting reads from the value that options give for it, if it accepts that value. -/
def accepted? (o : Options) (x : Setting) : Option x.Value :=
  (x.given? o).bind fun v => (x.read v).toOption

/-- Helper: a list of names that is not accepted has an item that is none. -/
private theorem ne_nil_of_readItems {items : List Datum} {reasons : List Rejection}
    (h : readItems items = .error reasons) : reasons ≠ [] := by
  induction items generalizing reasons with
  | nil => cases h
  | cons item items ih =>
    unfold readItems at h
    split at h
    · cases h
    · -- the first name was fine, so the reasons are those of the rest
      next hrest =>
      cases h
      exact ih hrest
    · -- otherwise its own reason stands in front
      cases h
      simp
    · cases h
      simp

/-- A value that is not accepted has something wrong with it. -/
theorem ne_nil_of_read {v : Datum} {x : Setting} {reasons : List Rejection}
    (h : x.read v = .error reasons) : reasons ≠ [] := by
  -- a list of names gives the reasons of its items, anything else the one reason for the whole
  -- value
  have hnames : readNames v = .error reasons → reasons ≠ [] := by
    unfold readNames
    split
    · exact ne_nil_of_readItems
    · exact ne_nil_of_readItems
    · exact ne_nil_of_readItems
    · intro h
      cases h
      simp
  -- every other setting stops at its first reason
  have hone : ∀ {α : Type} {r : Except Rejection α},
      r.mapError ([·]) = .error reasons → reasons ≠ [] := by
    intro α r h
    cases r with
    | ok a => cases h
    | error reason =>
      cases h
      simp
  cases x with
  | sortBy | fieldsOrder | firstEntries => exact hnames h
  | _ => exact hone h

/-- What is wrong about a setting: its value, in at least one way, if that is not accepted. -/
theorem faults_eq_nil_iff {o : Options} {x : Setting} :
    x.faults o = [] ↔ x.given? o = none ∨ ∃ v a, x.given? o = some v ∧ x.read v = .ok a := by
  unfold faults
  cases hgiven : x.given? o with
  | none => simp
  | some v =>
    cases hread : x.read v with
    | ok a => simp [hread]
    | error reasons => simpa [hread] using ne_nil_of_read hread

theorem get_assign_self (o : Options) (s : Settings) (x : Setting) :
    x.get (assign o s x) = (x.accepted? o).getD (x.get s) := by
  unfold assign accepted?
  cases x.given? o with
  | none => rfl
  | some v =>
    cases hread : x.read v with
    | ok a => simp [hread, Except.toOption]
    | error reasons => simp [hread, Except.toOption]

theorem get_assign_of_ne {x y : Setting} (h : x ≠ y) (o : Options) (s : Settings) :
    x.get (assign o s y) = x.get s := by
  unfold assign
  split
  · rfl
  · split
    · exact get_set_of_ne h s _
    · rfl

/-- Settings that are given their values one after another each have their own in the end. -/
theorem get_foldl_assign (o : Options) (xs : List Setting) (s : Settings) (x : Setting) :
    x.get (xs.foldl (assign o) s) = if x ∈ xs then (x.accepted? o).getD (x.get s) else x.get s := by
  induction xs generalizing s with
  | nil => simp
  | cons y xs ih =>
    rw [List.foldl_cons, ih]
    -- this step sets the setting looked at; an accepted value replaces whatever stood there before
    by_cases hxy : x = y
    · subst hxy
      rw [get_assign_self]
      cases x.accepted? o <;> simp
    · -- another setting's step leaves it alone
      rw [get_assign_of_ne hxy]
      simp [hxy]

end Setting

/-- Options are valid if nothing is wrong about any setting. -/
theorem Options.validate_of_faults_eq_nil {o : Options} (h : ∀ x : Setting, x.faults o = []) :
    o.validate = .ok (Setting.all.foldl (Setting.assign o) .default) := by
  have hnil : Setting.all.flatMap (Setting.faults o) = [] :=
    List.flatMap_eq_nil_iff.2 fun x _ => h x
  rw [Options.validate, hnil]

/-! ## §4 Taking out what is wrong -/

/-- The reports about something that is wrong: one for each spelling that is there, with the value
that is given under it. -/
def ValueFault.reports (o : Options) (fault : ValueFault) : List OptionIssue :=
  fault.setting.spellings.filterMap fun name =>
    (o.find? name).map fun v => .rejected name v fault.setting fault.reason

theorem ValueFault.reports_congr {o o' : Options} {fault : ValueFault}
    (h : ∀ name ∈ fault.setting.spellings, o.find? name = o'.find? name) :
    fault.reports o = fault.reports o' :=
  List.filterMap_congr fun name hname => by rw [h name hname]

namespace Attempt

theorem options_drop (fault : ValueFault) (a : Attempt) (name : String) :
    (a.drop fault name).options = a.options.takeOut name := by
  unfold drop
  split
  · next hnone => exact (Options.takeOut_of_find?_eq_none hnone).symm
  · rfl

theorem issues_drop (fault : ValueFault) (a : Attempt) (name : String) :
    (a.drop fault name).issues = a.issues ++ ((a.options.find? name).map fun v =>
      OptionIssue.rejected name v fault.setting fault.reason).toList := by
  unfold drop
  split
  · next hnone => simp [hnone]
  · next v hv => simp [hv]

theorem options_foldl_drop (fault : ValueFault) (names : List String) (a : Attempt) :
    (names.foldl (drop fault) a).options = a.options.without names := by
  induction names generalizing a with
  | nil => rfl
  | cons name names ih =>
    rw [List.foldl_cons, ih, options_drop]
    rfl

/-- Every name that is there is reported, whatever has been taken out under other names. -/
theorem issues_foldl_drop (fault : ValueFault) {names : List String} (h : names.Nodup)
    (a : Attempt) :
    (names.foldl (drop fault) a).issues = a.issues ++ names.filterMap fun name =>
      (a.options.find? name).map fun v => .rejected name v fault.setting fault.reason := by
  induction names generalizing a with
  | nil => simp
  | cons name names ih =>
    obtain ⟨hname, hnames⟩ := List.nodup_cons.1 h
    -- the other names find what they found before
    have hrest : ∀ other ∈ names,
        (a.drop fault name).options.find? other = a.options.find? other := by
      intro other hother
      rw [options_drop]
      refine Options.find?_takeOut_of_ne ?_ _
      rintro rfl
      exact hname hother
    have hcongr := List.filterMap_congr (f := fun other =>
        ((a.drop fault name).options.find? other).map fun v =>
          OptionIssue.rejected other v fault.setting fault.reason)
      (g := fun other => (a.options.find? other).map fun v =>
          OptionIssue.rejected other v fault.setting fault.reason)
      fun other hother => by rw [hrest other hother]
    rw [List.foldl_cons, ih hnames, issues_drop, hcongr, List.append_assoc]
    cases hv : a.options.find? name <;> simp [hv]

theorem options_reject (a : Attempt) (fault : ValueFault) :
    (a.reject fault).options = a.options.without fault.setting.spellings :=
  options_foldl_drop fault _ a

theorem issues_reject (a : Attempt) (fault : ValueFault) :
    (a.reject fault).issues = a.issues ++ fault.reports a.options :=
  issues_foldl_drop fault fault.setting.nodup_spellings a

/-- What has been taken out is not taken out again. -/
theorem reject_eq_self {a : Attempt} {fault : ValueFault}
    (h : ∀ name ∈ fault.setting.spellings, a.options.find? name = none) : a.reject fault = a := by
  have hoptions : (a.reject fault).options = a.options := by
    rw [options_reject, Options.without_eq_self h]
  have hreports : fault.reports a.options = [] :=
    List.filterMap_eq_nil_iff.2 fun name hname => by rw [h name hname]; rfl
  have hissues : (a.reject fault).issues = a.issues := by
    rw [issues_reject, hreports, List.append_nil]
  calc a.reject fault = ⟨(a.reject fault).options, (a.reject fault).issues⟩ := rfl
    _ = a := by rw [hoptions, hissues]

/-- Of all that is wrong about one setting, only the first is reported. -/
theorem foldl_reject_of_setting {x : Setting} {fault : ValueFault} {faults : List ValueFault}
    (hfault : fault.setting = x) (hfaults : ∀ f ∈ faults, f.setting = x) (a : Attempt) :
    (fault :: faults).foldl reject a = a.reject fault := by
  -- the first fault leaves nothing that the others could take out
  have hgone : ∀ name ∈ x.spellings, (a.reject fault).options.find? name = none := by
    intro name hname
    rw [options_reject, hfault, Options.find?_without, if_pos hname]
  rw [List.foldl_cons]
  generalize a.reject fault = b at hgone
  induction faults with
  | nil => rfl
  | cons f faults ih =>
    have hf : f.setting = x := hfaults f List.mem_cons_self
    rw [List.foldl_cons, reject_eq_self (hf ▸ hgone)]
    exact ih fun g hg => hfaults g (List.mem_cons_of_mem _ hg)

end Attempt

/-! ## §5 One round -/

namespace Setting

theorem setting_of_mem_faults {o : Options} {x : Setting} {fault : ValueFault}
    (h : fault ∈ x.faults o) : fault.setting = x := by
  unfold faults at h
  split at h
  · cases h
  · split at h
    · cases h
    · obtain ⟨reason, -, rfl⟩ := List.mem_map.1 h
      rfl

/-- The reports about a setting: none if its value is accepted. -/
def reports (o : Options) (x : Setting) : List OptionIssue :=
  (x.faults o).head?.toList.flatMap (ValueFault.reports o)

/-- The spellings under which a setting is taken out: none if its value is accepted. -/
def refused (o : Options) (x : Setting) : List String :=
  if x.faults o = [] then [] else x.spellings

theorem mem_refused_iff {o : Options} {x : Setting} {name : String} :
    name ∈ x.refused o ↔ x.faults o ≠ [] ∧ name ∈ x.spellings := by
  unfold refused
  split <;> simp [*]

theorem mem_refused_all_iff {o : Options} {x : Setting} {name : String}
    (hname : name ∈ x.spellings) : name ∈ all.flatMap (refused o) ↔ x.faults o ≠ [] := by
  rw [List.mem_flatMap]
  constructor
  · rintro ⟨y, -, hy⟩
    obtain ⟨hfaults, hmem⟩ := mem_refused_iff.1 hy
    rwa [eq_of_mem_spellings hname hmem]
  · intro hfaults
    exact ⟨x, mem_all x, mem_refused_iff.2 ⟨hfaults, hname⟩⟩

end Setting

namespace Attempt

/-- Helper: what a round does about one setting, if the options for it are still there. -/
private theorem foldl_reject_faults {o : Options} {x : Setting} {a : Attempt}
    (ha : ∀ name ∈ x.spellings, a.options.find? name = o.find? name) :
    ((x.faults o).foldl reject a).options = a.options.without (x.refused o) ∧
      ((x.faults o).foldl reject a).issues = a.issues ++ x.reports o := by
  -- without faults nothing is taken out and nothing is reported
  cases hfaults : x.faults o with
  | nil => simp [Setting.refused, Setting.reports, hfaults, Options.without]
  | cons fault faults =>
    -- all faults are about this one setting, so after the first no other option of it is left to
    -- reject
    have hsetting : ∀ f ∈ fault :: faults, f.setting = x := fun f hf =>
      Setting.setting_of_mem_faults (hfaults ▸ hf)
    have hfault := hsetting fault List.mem_cons_self
    -- the options handled before did not touch this setting's spellings, so its reports are those
    -- on the given options
    have hreports : fault.reports a.options = x.reports o := by
      rw [ValueFault.reports_congr (hfault ▸ ha)]
      simp [Setting.reports, hfaults]
    rw [foldl_reject_of_setting hfault fun f hf => hsetting f (List.mem_cons_of_mem _ hf)]
    refine ⟨?_, ?_⟩
    · rw [options_reject, hfault, Setting.refused, if_neg (by simp [hfaults])]
    · rw [issues_reject, hreports]

/-- A round takes out, setting by setting, what is wrong in the options, and reports it. -/
theorem foldl_reject_flatMap_faults (o : Options) {xs : List Setting} (hxs : xs.Nodup) (a : Attempt)
    (ha : ∀ x ∈ xs, ∀ name ∈ x.spellings, a.options.find? name = o.find? name) :
    ((xs.flatMap (Setting.faults o)).foldl reject a).options =
        a.options.without (xs.flatMap (Setting.refused o)) ∧
      ((xs.flatMap (Setting.faults o)).foldl reject a).issues =
        a.issues ++ xs.flatMap (Setting.reports o) := by
  induction xs generalizing a with
  | nil => simp [Options.without]
  | cons x xs ih =>
    obtain ⟨hx, hnodup⟩ := List.nodup_cons.1 hxs
    obtain ⟨hoptions, hissues⟩ := foldl_reject_faults (ha x List.mem_cons_self)
    simp only [List.flatMap_cons, List.foldl_append]
    -- the options for the other settings are still there
    have hrest : ∀ y ∈ xs, ∀ name ∈ y.spellings,
        ((x.faults o).foldl reject a).options.find? name = o.find? name := by
      intro y hy name hname
      rw [hoptions, Options.find?_without, if_neg, ha y (List.mem_cons_of_mem _ hy) name hname]
      intro hmem
      obtain rfl := Setting.eq_of_mem_spellings hname (Setting.mem_refused_iff.1 hmem).2
      exact hx hy
    obtain ⟨ihoptions, ihissues⟩ := ih hnodup _ hrest
    rw [ihoptions, ihissues, hoptions, hissues, Options.without_append, List.append_assoc]
    exact ⟨rfl, rfl⟩

/-- The first round. -/
theorem foldl_reject_all (o : Options) :
    ((Setting.all.flatMap (Setting.faults o)).foldl reject ⟨o, []⟩).options =
        o.without (Setting.all.flatMap (Setting.refused o)) ∧
      ((Setting.all.flatMap (Setting.faults o)).foldl reject ⟨o, []⟩).issues =
        Setting.all.flatMap (Setting.reports o) :=
  foldl_reject_flatMap_faults o Setting.nodup_all ⟨o, []⟩ fun _ _ _ _ => rfl

end Attempt

/-! ## §6 The resolution -/

namespace Setting

/-- Helper: after a round the values that were accepted are still given, and no others. -/
private theorem given?_without_refused (o : Options) (x : Setting) :
    x.given? (o.without (all.flatMap (refused o))) = if x.faults o = [] then x.given? o else none := by
  rw [given?_eq, given?_eq, Options.find?_without, Options.find?_without]
  simp only [mem_refused_all_iff x.optionName_mem_spellings,
    mem_refused_all_iff x.attributeName_mem_spellings]
  by_cases hfaults : x.faults o = [] <;> simp [hfaults]

/-- After a round nothing is wrong any more. -/
theorem faults_without_refused (o : Options) (x : Setting) :
    x.faults (o.without (all.flatMap (refused o))) = [] := by
  have hgiven := given?_without_refused o x
  by_cases hfaults : x.faults o = []
  · rw [if_pos hfaults] at hgiven
    rwa [faults, hgiven, ← faults]
  · rw [if_neg hfaults] at hgiven
    rw [faults, hgiven]

/-- A round does not change what settings read. -/
theorem accepted?_without_refused (o : Options) (x : Setting) :
    x.accepted? (o.without (all.flatMap (refused o))) = x.accepted? o := by
  have hgiven := given?_without_refused o x
  by_cases hfaults : x.faults o = []
  · rw [if_pos hfaults] at hgiven
    rw [accepted?, hgiven, ← accepted?]
  · rw [if_neg hfaults] at hgiven
    rw [accepted?, hgiven, Option.bind_none, accepted?]
    -- the value that is given was not accepted before either
    cases hv : x.given? o with
    | none => rfl
    | some v =>
      cases hread : x.read v with
      | ok a => exact absurd (faults_eq_nil_iff.2 (.inr ⟨v, a, hv, hread⟩)) hfaults
      | error reasons => simp [hread, Except.toOption]

end Setting

/-- What a resolution owes: each setting has the value it reads from the options, or else its
default, and the reports are those of the settings, in their order. -/
structure Resolved.IsAccount (o : Options) (r : Resolved) : Prop where
  get : ∀ x : Setting, x.get r.settings = (x.accepted? o).getD (x.get .default)
  issues : r.issues = Setting.all.flatMap (Setting.reports o)

namespace Attempt

theorem resolve_of_valid {a : Attempt} {s : Settings} (h : a.options.validate = .ok s) :
    a.resolve = ⟨s, a.issues⟩ := by
  rw [resolve, h]

theorem resolve_of_faults {a : Attempt} {faults : List ValueFault}
    (h : a.options.validate = .error faults)
    (hless : (faults.foldl reject a).options.length < a.options.length) :
    a.resolve = (faults.foldl reject a).resolve := by
  rw [resolve, h]
  simp [hless]

end Attempt

/-- Helper: settings that are assigned from valid options. -/
private theorem get_assigned (o : Options) (x : Setting) :
    x.get (Setting.all.foldl (Setting.assign o) .default) =
      (x.accepted? o).getD (x.get .default) := by
  rw [Setting.get_foldl_assign, if_pos x.mem_all]

/-- Something that is wrong is there to be taken out. -/
theorem Options.length_without_refused_lt {o : Options} {x : Setting} (h : x.faults o ≠ []) :
    (o.without (Setting.all.flatMap (Setting.refused o))).length < o.length := by
  have hsub := o.without_sublist (Setting.all.flatMap (Setting.refused o))
  refine Nat.lt_of_le_of_ne hsub.length_le fun hlen => h ?_
  -- otherwise nothing would have been taken out, and nothing be wrong
  rw [← hsub.eq_of_length hlen]
  exact Setting.faults_without_refused o x

/-- A resolution treats every setting as if it were the only one. -/
theorem Options.isAccount_resolve (o : Options) : o.resolve.IsAccount o := by
  unfold Options.resolve
  by_cases hvalid : ∀ x : Setting, x.faults o = []
  · -- the options are valid at once
    have hreports : Setting.all.flatMap (Setting.reports o) = [] :=
      List.flatMap_eq_nil_iff.2 fun x _ => by simp [Setting.reports, hvalid x]
    rw [Attempt.resolve_of_valid (Options.validate_of_faults_eq_nil hvalid)]
    exact ⟨get_assigned o, hreports.symm⟩
  · -- one round, and what is left is valid
    obtain ⟨x, hx⟩ := not_forall.1 hvalid
    have hne : Setting.all.flatMap (Setting.faults o) ≠ [] := fun h =>
      hx (List.flatMap_eq_nil_iff.1 h x x.mem_all)
    have hinvalid : o.validate = .error (Setting.all.flatMap (Setting.faults o)) := by
      unfold Options.validate
      split
      · next hnil => exact absurd hnil hne
      · rfl
    obtain ⟨hoptions, hissues⟩ := Attempt.foldl_reject_all o
    have hless := Options.length_without_refused_lt hx
    rw [← hoptions] at hless
    have hnext := Options.validate_of_faults_eq_nil (Setting.faults_without_refused o)
    rw [← hoptions] at hnext
    rw [Attempt.resolve_of_faults hinvalid hless, Attempt.resolve_of_valid hnext, hissues]
    refine ⟨fun y => ?_, rfl⟩
    rw [get_assigned, hoptions, Setting.accepted?_without_refused]

/-! ## §7 Settings on their own -/

namespace Setting

/-- The value that counts for a setting: the one under its preferred spelling, or else the other. -/
def counting? (o : Options) (x : Setting) : Option Datum :=
  (o.find? x.optionName).or (o.find? x.attributeName)

/-- A setting that is resolved as if it were the only one. Where the value that counts is rejected, the
setting has its default, and there is one report for each spelling that is there, with the value under
that spelling and the first reason. -/
structure IsSettled (o : Options) (x : Setting) (value : x.Value) (issues : List OptionIssue) :
    Prop where
  absent : x.counting? o = none → value = x.get .default ∧ issues = []
  accepted : ∀ v a, x.counting? o = some v → x.read v = .ok a → value = a ∧ issues = []
  rejected : ∀ v reasons, x.counting? o = some v → x.read v = .error reasons →
    value = x.get .default ∧ ∃ reason, reasons.head? = some reason ∧
      issues = x.spellings.filterMap fun name =>
        (o.find? name).map fun given => .rejected name given x reason

/-- What a setting reads, with the reports about it, settles it. -/
theorem isSettled_accepted? (o : Options) (x : Setting) :
    x.IsSettled o ((x.accepted? o).getD (x.get .default)) (x.reports o) := by
  have hgiven : x.given? o = x.counting? o := given?_eq o x
  refine ⟨fun hv => ?_, fun v a hv hread => ?_, fun v reasons hv hread => ?_⟩
  · -- nothing is given
    have hfaults : x.faults o = [] := faults_eq_nil_iff.2 (.inl (hgiven.trans hv))
    simp [accepted?, reports, hfaults, hgiven, hv]
  · -- what is given is accepted
    have hfaults : x.faults o = [] := faults_eq_nil_iff.2 (.inr ⟨v, a, hgiven.trans hv, hread⟩)
    simp [accepted?, reports, hfaults, hgiven, hv, hread, Except.toOption]
  · -- what is given is rejected, for at least one reason
    have hnone : x.accepted? o = none := by
      simp [accepted?, hgiven, hv, hread, Except.toOption]
    have hfaults : x.faults o = reasons.map (⟨x, ·⟩) := by
      simp [faults, hgiven, hv, hread]
    obtain ⟨reason, rest, rfl⟩ := List.exists_cons_of_ne_nil (ne_nil_of_read hread)
    refine ⟨by rw [hnone, Option.getD_none], reason, rfl, ?_⟩
    simp [reports, hfaults, ValueFault.reports]

end Setting

/-- Whether everything that is reported about options can be written out. -/
def Options.ReportsWritable (o : Options) : Prop :=
  ∀ (x : Setting) (v : Datum) (reasons : List Rejection),
    x.counting? o = some v → x.read v = .error reasons →
      ∀ name ∈ x.spellings, ∀ given, o.find? name = some given → given.isWritable = true

/-- Helper: the reports about a setting that can be written out. -/
private theorem Setting.all_isWritable_reports_iff {o : Options} {x : Setting} :
    (∀ issue ∈ x.reports o, issue.isWritable = true) ↔
      ∀ (v : Datum) (reasons : List Rejection), x.counting? o = some v →
        x.read v = .error reasons → ∀ name ∈ x.spellings, ∀ given, o.find? name = some given →
          given.isWritable = true := by
  have hsettled := isSettled_accepted? o x
  constructor
  · -- every spelling that is there has a report with its own value
    intro hissues v reasons hv hread name hname given hgiven
    obtain ⟨-, reason, -, hreports⟩ := hsettled.rejected v reasons hv hread
    refine hissues (.rejected name given x reason) ?_
    rw [hreports]
    exact List.mem_filterMap.2 ⟨name, hname, by rw [hgiven]; rfl⟩
  · -- and there are no other reports
    intro hwritable issue hissue
    cases hv : x.counting? o with
    | none => simp [(hsettled.absent hv).2] at hissue
    | some v =>
      cases hread : x.read v with
      | ok a => simp [(hsettled.accepted v a hv hread).2] at hissue
      | error reasons =>
        obtain ⟨-, reason, -, hreports⟩ := hsettled.rejected v reasons hv hread
        rw [hreports] at hissue
        obtain ⟨name, hname, hmap⟩ := List.mem_filterMap.1 hissue
        obtain ⟨given, hgiven, rfl⟩ := Option.map_eq_some_iff.1 hmap
        exact hwritable v reasons hv hread name hname given hgiven

/-- Options are resolved to their account if everything that is reported can be written out, and to
nothing otherwise. -/
theorem Options.told_resolve_eq_ok_iff {o : Options} {r : Resolved} :
    o.resolve.told = .ok r ↔ o.ReportsWritable ∧ r = o.resolve := by
  have hissues := o.isAccount_resolve.issues
  -- every issue stems from one of the settings, so all can be written out when those of each
  -- setting can
  have hall : o.resolve.issues.all OptionIssue.isWritable = true ↔ o.ReportsWritable := by
    rw [hissues, List.all_eq_true]
    constructor
    · intro h x
      refine Setting.all_isWritable_reports_iff.1 fun issue hissue => ?_
      exact h issue (List.mem_flatMap.2 ⟨x, x.mem_all, hissue⟩)
    · intro h issue hissue
      obtain ⟨x, -, hx⟩ := List.mem_flatMap.1 hissue
      exact Setting.all_isWritable_reports_iff.2 (h x) issue hx
  rw [← hall, Resolved.told]
  split
  · next hw => simp [hw, eq_comm]
  · next hw => simp [hw]

/-- A whole number of too many digits is not written out. -/
theorem Datum.not_isWritable_of_le {n : Nat} (h : digitBound ≤ n) :
    (Datum.int (.ofNat n)).isWritable = false := by
  rw [isWritable]
  exact decide_eq_false (Nat.not_lt.2 h)

/-- A whole number of too many digits is no indentation, and the report about it is not written out. -/
theorem Options.not_reportsWritable_of_hugeTab {o : Options}
    (h : o.find? "tab" = some (.int (.ofNat digitBound))) : ¬ o.ReportsWritable := by
  intro hwritable
  have hcounting : Setting.tab.counting? o = some (.int (.ofNat digitBound)) := by
    unfold Setting.counting?
    change (o.find? "tab").or (o.find? "tab") = _
    rw [h]
    rfl
  have htab := hwritable .tab _ [.tabNotText] hcounting rfl "tab" (by decide) _ h
  rw [Datum.not_isWritable_of_le (Nat.le_refl _)] at htab
  cases htab

/-! ## §8 Loading -/

/-- The options that a value gives: none if it is absent. Other values than mappings give no options. -/
def Datum.options? : Datum → Option Options
  | .null => some []
  | .map pairs => some (Options.ofMap pairs)
  | _ => none

/-- What is owed where settings are loaded from a value: every setting is resolved on its own, in the
order of the settings, and the messages of all reports are warned of. -/
structure Settings.IsLoaded (v : Datum) (r : Resolved) : Prop where
  options : ∀ o, v.options? = some o → ∃ issues : Setting → List OptionIssue,
    r.issues = Setting.all.flatMap issues ∧
      ∀ x : Setting, x.IsSettled o (x.get r.settings) (issues x)
  other : v.options? = none → r.settings = .default ∧ r.issues = [.notMapping v]
  warnings : Notice.warnings r.notices = r.issues.map OptionIssue.message
  errors : Notice.errors r.notices = []
  events : Notice.events r.notices = []

/-- Whether settings are loaded from a value as it is owed. -/
def Settings.Loads (v : Datum) : Prop := ∃ r, Settings.loadTold v = .ok r ∧ Settings.IsLoaded v r

/-- Helper: everything that is told of a resolution is a warning. -/
private theorem Resolved.filterMap_notices {α : Type} (r : Resolved) (f : Notice → Option α) :
    r.notices.filterMap f = r.issues.filterMap fun i => f (.warning i.message []) := by
  rw [notices, List.filterMap_map]
  rfl

/-- Where no options are given, every setting has its default. -/
theorem Options.resolve_nil : Options.resolve [] = ⟨.default, []⟩ := by
  have hvalid : Options.validate [] = .ok .default := by decide +kernel
  exact Attempt.resolve_of_valid (a := ⟨[], []⟩) hvalid

/-- Options that a value gives are resolved. -/
theorem Settings.load_of_options? {v : Datum} {o : Options} (h : v.options? = some o) :
    load v = o.resolve := by
  cases v with
  | null => cases h; rfl
  | map pairs => cases h; rfl
  | _ => cases h

/-- A value that gives no options leaves the defaults. -/
theorem Settings.load_of_not_options? {v : Datum} (h : v.options? = none) :
    load v = ⟨.default, [.notMapping v]⟩ := by
  have hdefault : (⟨(Options.resolve []).settings, [.notMapping v]⟩ : Resolved) =
      ⟨.default, [.notMapping v]⟩ := by rw [Options.resolve_nil]
  cases v with
  | null => cases h
  | map pairs => cases h
  | _ => exact hdefault

theorem Settings.isLoaded_load (v : Datum) : IsLoaded v (load v) := by
  refine ⟨fun o ho => ?_, fun hnone => ?_, ?_, ?_, ?_⟩
  · -- options are given: each setting is settled on its own reports
    obtain ⟨hget, hissues⟩ := o.isAccount_resolve
    refine ⟨Setting.reports o, by rw [load_of_options? ho, hissues], fun x => ?_⟩
    rw [load_of_options? ho, hget]
    exact Setting.isSettled_accepted? o x
  · rw [load_of_not_options? hnone]
    exact ⟨rfl, rfl⟩
  · -- the notices are warnings throughout, one for each issue
    rw [Notice.warnings, Resolved.filterMap_notices]
    exact congrFun (List.filterMap_eq_map (f := OptionIssue.message)) _
  · rw [Notice.errors, Resolved.filterMap_notices]
    simp
  · rw [Notice.events, Resolved.filterMap_notices]
    simp

/-- Settings are loaded as it is owed exactly if the keys, and whatever is reported, can be written
out. -/
theorem Settings.loads_iff (v : Datum) :
    Settings.Loads v ↔ v.hasWritableKeys = true ∧
      ∀ o, v.options? = some o → o.ReportsWritable := by
  unfold Settings.Loads loadTold
  by_cases hkeys : v.hasWritableKeys = true
  · simp only [hkeys, if_true, true_and]
    constructor
    · -- what is told has been written out
      rintro ⟨r, hr, -⟩ o ho
      rw [load_of_options? ho] at hr
      exact (Options.told_resolve_eq_ok_iff.1 hr).1
    · intro hwritable
      refine ⟨load v, ?_, isLoaded_load v⟩
      cases ho : v.options? with
      | none =>
        -- the only report is about the kind of the value
        rw [load_of_not_options? ho]
        rfl
      | some o =>
        rw [load_of_options? ho]
        exact Options.told_resolve_eq_ok_iff.2 ⟨hwritable o ho, rfl⟩
  · simp [hkeys]

/-- A rejected number that is too long for a message keeps everything from being loaded. -/
theorem Settings.not_loads_hugeTab :
    ¬ Settings.Loads (.map [(.text "tab", .int (.ofNat digitBound))]) := by
  rintro ⟨r, hr, -⟩
  have htold : (Options.resolve [("tab", .int (.ofNat digitBound))]).told = .ok r := hr
  exact Options.not_reportsWritable_of_hugeTab rfl (Options.told_resolve_eq_ok_iff.1 htold).1

end Bibliography
