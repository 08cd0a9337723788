import Bibliography.Proofs.ResolvedOptions

/-!
# Which options prevail

Options given on the command line stand over those of a configuration file, and these over the
defaults. The options of a file are keys that may be spelled in two ways, and the command line puts its
values under the preferred spelling only; so a setting that it gives does not depend on what the file
says under either one, and any other setting is what the file alone makes it.

Main statement: when command line, file and defaults prevail in this order (`Options.prevails_iff`).
-/

namespace Bibliography

/-! ## §1 Values put over others -/

/-- The value that overrides hold for a key: the last one that is not absent. -/
def overriding? {Key : Type} [DecidableEq Key] (overrides : List (Key × Option Datum)) (key : Key) :
    Option Datum :=
  overrides.reverse.findSome? fun p => if p.1 = key then p.2 else none

theorem overriding?_cons {Key : Type} [DecidableEq Key] (p : Key × Option Datum)
    (overrides : List (Key × Option Datum)) (key : Key) : overriding? (p :: overrides) key =
      (overriding? overrides key).or (if p.1 = key then p.2 else none) := by
  simp only [overriding?, List.reverse_cons, List.findSome?_append]
  congr 1
  simp

namespace Options

/-- Helper: the first key of options, and any other one. -/
private theorem find?_cons (p : String × Datum) (o : Options) (key : String) :
    find? (p :: o) key = if p.1 = key then some p.2 else o.find? key := by
  unfold find?
  by_cases hp : p.1 = key
  · rw [if_pos hp, ← hp, List.lookup_cons_self]
  · have hkey : (key == p.1) = false := by simpa using Ne.symm hp
    rw [if_neg hp, List.lookup_cons, hkey]

/-- Helper: a value in place of another one. -/
private theorem find?_map_replace (o : Options) (key name : String) (v : Datum) :
    find? (o.map fun p => if p.1 == key then (key, v) else p) name =
      if name = key ∧ o.any (·.1 == key) = true then some v else o.find? name := by
  induction o with
  | nil => simp [find?]
  | cons p o ih =>
    rw [List.map_cons, find?_cons, find?_cons, ih]
    by_cases hname : name = key
    · -- the key itself: the first pair with it counts, and all of them are replaced
      subst hname
      by_cases hp : p.1 = name
      · simp [hp]
      · have hany : (p :: o).any (·.1 == name) = o.any (·.1 == name) := by simp [hp]
        rw [hany]
        simp [hp]
    · by_cases hp : p.1 = key
      · simp [hp, hname, Ne.symm hname]
      · simp [hp, hname]

/-- Helper: a value behind all others. -/
private theorem find?_append_one (o : Options) (key name : String) (v : Datum) :
    find? (o ++ [(key, v)]) name = (o.find? name).or (if name = key then some v else none) := by
  induction o with
  | nil =>
    rw [List.nil_append, find?_cons]
    simp [find?, eq_comm]
  | cons p o ih =>
    rw [List.cons_append, find?_cons, find?_cons, ih]
    split <;> rfl

/-- A value that is put under a key is found there, and nothing else changes. -/
theorem find?_put (o : Options) (key name : String) (v : Datum) :
    (o.put key v).find? name = if name = key then some v else o.find? name := by
  unfold put
  split
  · next hany =>
    -- the option is there, so its value is replaced where it stands
    rw [find?_map_replace]
    simp [hany]
  · next hany =>
    -- it is not there, so it is added behind the others
    rw [find?_append_one]
    by_cases hname : name = key
    · have hnone : o.find? key = none := by
        refine List.lookup_eq_none_iff.2 fun p hp => bne_iff_ne.2 fun hkey => hany ?_
        exact List.any_eq_true.2 ⟨p, hp, beq_iff_eq.2 hkey.symm⟩
      simp [hname, hnone]
    · simp [hname]

/-- Under every key the overrides count, and where they hold nothing the options themselves. -/
theorem find?_overlay (o : Options) (overrides : List (String × Option Datum)) (name : String) :
    (o.overlay overrides).find? name =
      ((overriding? overrides name).map Datum.listed).or (o.find? name) := by
  -- the overrides are put in from the first to the last, so the options grow in the induction
  induction overrides generalizing o with
  | nil => rfl
  | cons p overrides ih =>
    obtain ⟨key, v⟩ := p
    rw [overriding?_cons]
    cases v with
    | none =>
      change (overlay o overrides).find? name = _
      rw [ih]
      simp
    | some v =>
      change (overlay (o.put key v.listed) overrides).find? name = _
      rw [ih, find?_put]
      by_cases hname : key = name
      · cases overriding? overrides name <;> simp [hname]
      · have hne : name ≠ key := Ne.symm hname
        cases overriding? overrides name <;> simp [hname, hne]

end Options

/-! ## §2 Values put over a file -/

namespace Setting

/-- Overrides of settings, each under the option name of its setting. -/
def named (overrides : List (Setting × Option Datum)) : List (String × Option Datum) :=
  overrides.map fun p => (p.1.optionName, p.2)

/-- Of the spellings of a setting, overrides hold a value under its option name only. -/
theorem overriding?_named (overrides : List (Setting × Option Datum)) {x : Setting} {name : String}
    (hname : name ∈ x.spellings) : overriding? (named overrides) name =
      if name = x.optionName then overriding? overrides x else none := by
  unfold overriding? named
  rw [← List.map_reverse, List.findSome?_map]
  -- no two settings share a spelling
  have hsame : ∀ y : Setting, y.optionName = name → y = x := fun y hy =>
    eq_of_mem_spellings (hy ▸ y.optionName_mem_spellings) hname
  split
  · next hoption =>
    -- an override is found under this name exactly if it is of this setting
    congr 1
    funext p
    have hiff : p.1.optionName = name ↔ p.1 = x := ⟨hsame p.1, fun hp => by rw [hp, hoption]⟩
    simp [hiff]
  · next hoption =>
    -- under another of its names nothing is put
    refine List.findSome?_eq_none_iff.2 fun p _ => ?_
    have hne : p.1.optionName ≠ name := fun hp => hoption (by rw [← hp, hsame p.1 hp])
    simp [hne]

/-- A tuple is read as the list of its items is. -/
theorem read_listed (x : Setting) (v : Datum) : x.read v.listed = x.read v := by
  cases v with
  | tuple items => cases x <;> rfl
  | _ => rfl

/-- Overrides that give a setting a value leave no room for what stands below them. -/
theorem given?_overlay_of_some {o : Options} {overrides : List (Setting × Option Datum)}
    {x : Setting} {v : Datum} (h : overriding? overrides x = some v) :
    x.given? (o.overlay (named overrides)) = some v.listed := by
  rw [given?_eq, Options.find?_overlay, overriding?_named overrides x.optionName_mem_spellings]
  simp [h]

/-- Overrides that give a setting no value change nothing about it. -/
theorem given?_overlay_of_none {o : Options} {overrides : List (Setting × Option Datum)}
    {x : Setting} (h : overriding? overrides x = none) :
    x.given? (o.overlay (named overrides)) = x.given? o := by
  have hkeep : ∀ name ∈ x.spellings, (o.overlay (named overrides)).find? name = o.find? name := by
    intro name hname
    rw [Options.find?_overlay, overriding?_named overrides hname, h]
    simp
  rw [given?_eq, given?_eq, hkeep _ x.optionName_mem_spellings,
    hkeep _ x.attributeName_mem_spellings]

end Setting

/-- The overrides of a command line are values for settings, under their option names. -/
theorem Invocation.overrides_ofArguments (outer inner : Arguments) :
    (ofArguments outer inner).overrides =
      Setting.named (settingForms.map fun p => (p.1, p.2.read inner)) := by
  rw [Setting.named, List.map_map]
  rfl

/-! ## §3 Precedence -/

/-- Settings in which overrides prevail over options, and these over the defaults: a setting that the
overrides give has their value, or its default where that is rejected, and any other setting is what
the options alone make it. -/
structure Options.Prevail (o : Options) (overrides : List (Setting × Option Datum)) (s : Settings) :
    Prop where
  accepted : ∀ (x : Setting) v a, overriding? overrides x = some v → x.read v = .ok a → x.get s = a
  rejected : ∀ (x : Setting) v reasons, overriding? overrides x = some v →
    x.read v = .error reasons → x.get s = x.get .default
  inherited : ∀ x : Setting, overriding? overrides x = none →
    ∃ r, o.resolve.told = .ok r ∧ x.get s = x.get r.settings

/-- Overrides prevail exactly if whatever is reported about the options under them can be written out,
and, unless they give every setting, whatever is reported about the options alone. -/
theorem Options.prevails_iff (o : Options) (overrides : List (Setting × Option Datum)) :
    (∃ r, (o.overlay (Setting.named overrides)).resolve.told = .ok r ∧
        o.Prevail overrides r.settings) ↔
      (o.overlay (Setting.named overrides)).ReportsWritable ∧
        ((∃ x : Setting, overriding? overrides x = none) → o.ReportsWritable) := by
  have hget := (o.overlay (Setting.named overrides)).isAccount_resolve.get
  constructor
  · -- a setting that is inherited is compared with what the options alone make it
    rintro ⟨r, hr, hprevail⟩
    refine ⟨(told_resolve_eq_ok_iff.1 hr).1, fun ⟨x, hx⟩ => ?_⟩
    obtain ⟨base, hbase, -⟩ := hprevail.inherited x hx
    exact (told_resolve_eq_ok_iff.1 hbase).1
  · rintro ⟨hmerged, hbase⟩
    refine ⟨_, told_resolve_eq_ok_iff.2 ⟨hmerged, rfl⟩, ?_, ?_, ?_⟩
    · intro x v a hv hread
      rw [hget, Setting.accepted?, Setting.given?_overlay_of_some hv]
      simp [Setting.read_listed, hread, Except.toOption]
    · intro x v reasons hv hread
      rw [hget, Setting.accepted?, Setting.given?_overlay_of_some hv]
      simp [Setting.read_listed, hread, Except.toOption]
    · intro x hx
      refine ⟨_, told_resolve_eq_ok_iff.2 ⟨hbase ⟨x, hx⟩, rfl⟩, ?_⟩
      rw [hget, o.isAccount_resolve.get, Setting.accepted?, Setting.given?_overlay_of_none hx,
        Setting.accepted?]

/-- A number in the file that is too long for a message takes the command line with it. -/
theorem Options.not_prevails_hugeTab :
    ¬ ∃ r, (Options.overlay [("tab", .int (.ofNat digitBound))]
        (Setting.named [(.case, some (.text "UPPERCASE"))])).resolve.told = .ok r ∧
      Options.Prevail [("tab", .int (.ofNat digitBound))]
        [(.case, some (.text "UPPERCASE"))] r.settings := by
  rintro ⟨r, hr, -⟩
  exact not_reportsWritable_of_hugeTab (by rfl) (told_resolve_eq_ok_iff.1 hr).1

end Bibliography
