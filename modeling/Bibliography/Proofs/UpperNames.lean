import Bibliography.Proofs.EntryTexts
import Bibliography.Proofs.TieClasses

/-!
# Upper-case names

Fields are put in order by their names as they are stored, and written with their names in upper
case; the written names are the stored ones of the next reading. An entry with names in upper case
is therefore written as if it had been brought into order and renamed first, by a layout that does
neither (`Layout.renderEntry_upperEntry`), and reading it back gives the renamed entry in this
order.

So a second formatting changes an entry exactly when its names are out of order once they are in
upper case. Collation keeps the order of ASCII names; it is the list of names that come first that
can break it, when it holds a name in one case and not in the other.

Main statement: `reformat_reformat_iff_keepsOrder`.
-/

namespace Bibliography

open Text

/-! ## §1 Upper case in ASCII -/

/-- Whether all characters of a text are ASCII. -/
def IsAscii (s : List Char) : Prop := ∀ c ∈ s, c.toNat < 128

instance (s : List Char) : Decidable (IsAscii s) :=
  List.decidableBAll (fun c : Char => c.toNat < 128) s

/-- What holds of all characters of ASCII can be checked one by one. -/
theorem forall_ascii {p : Char → Prop} (h : ∀ n : Fin 128, p (Char.ofNat n)) {c : Char}
    (hc : c.toNat < 128) : p c := by
  have hp := h ⟨c.toNat, hc⟩
  rwa [Char.ofNat_toNat] at hp

theorem IsAscii.upper {s : List Char} (h : IsAscii s) : IsAscii (upper s) := by
  rw [upper_of_ascii h]
  exact List.forall_mem_map.2 fun c hc =>
    forall_ascii (p := fun c => c.toUpper.toNat < 128) (by decide) (h c hc)

theorem length_upper {s : List Char} (h : IsAscii s) : (upper s).length = s.length := by
  rw [upper_of_ascii h, List.length_map]

theorem lower_of_ascii {s : List Char} (h : IsAscii s) : lower s = s.map Char.toLower := by
  have hmap (before : List Char) : mapBetween lowerBetween before s = s.map Char.toLower := by
    induction s generalizing before with
    | nil => rfl
    | cons c s ih =>
      have hc := h c List.mem_cons_self
      have hsigma : c.toNat ≠ 0x3A3 := by omega
      rw [mapBetween, ih (fun d hd => h d (List.mem_cons_of_mem _ hd)), lowerBetween, if_neg hsigma,
        lowerChar, if_pos hc]
      rfl
  exact hmap []

/-- The letters of a name are the same in both cases. -/
theorem lower_upper {s : List Char} (h : IsAscii s) : lower (upper s) = lower s := by
  rw [lower_of_ascii h.upper, lower_of_ascii h, upper_of_ascii h, List.map_map]
  exact List.map_congr_left fun c hc =>
    forall_ascii (p := fun c => c.toUpper.toLower = c.toLower) (by decide) (h c hc)

/-- Texts of ASCII have the same upper case if they have the same lower case. -/
theorem upper_eq_of_lower_eq {s t : List Char} (hs : IsAscii s) (ht : IsAscii t)
    (h : lower s = lower t) : upper s = upper t := by
  have hback {u : List Char} (hu : IsAscii u) : upper u = (lower u).map Char.toUpper := by
    rw [upper_of_ascii hu, lower_of_ascii hu, List.map_map]
    exact List.map_congr_left fun c hc =>
      forall_ascii (p := fun c => c.toUpper = c.toLower.toUpper) (by decide) (hu c hc)
  rw [hback hs, hback ht, h]

/-- On the first level of collation, a text of ASCII is in lower case. -/
theorem stripAccents_caseFold_of_ascii {s : List Char} (h : IsAscii s) :
    stripAccents (caseFold s) = lower s := by
  have hfold : caseFold s = s.map Char.toLower := by
    rw [caseFold, ← List.flatMap_singleton' (s.map Char.toLower), List.flatMap_map]
    exact List.flatMap_congr fun c hc => if_pos (h c hc)
  have hlow : ∀ c ∈ s.map Char.toLower, baseLetters c = [c] :=
    List.forall_mem_map.2 fun c hc => baseLetters_of_lt
      (forall_ascii (p := fun c => c.toLower.toNat < 128) (by decide) (h c hc))
  rw [lower_of_ascii h, hfold, stripAccents, List.flatMap_congr hlow, List.flatMap_singleton']

/-! ## §2 Names in upper case -/

/-- A name in upper case. -/
def upperName (name : String) : String := String.ofList (upper name.toList)

theorem toList_upperName (name : String) : (upperName name).toList = upper name.toList :=
  String.toList_ofList

theorem upperName_upperName {name : String} (h : IsAscii name.toList) :
    upperName (upperName name) = upperName name := by
  rw [upperName, toList_upperName, upper_upper_of_ascii h, upperName]

theorem length_upperName {name : String} (h : IsAscii name.toList) :
    (upperName name).length = name.length := by
  rw [← String.length_toList, toList_upperName, length_upper h, String.length_toList]

/-- Texts whose base letters differ are compared by these. -/
theorem collate_of_base_ne_eq {a b : String} {c : Ordering} (hc : c ≠ .eq)
    (h : compare (collationKey a).base (collationKey b).base = c) : collate a b = c := by
  simp only [collate, CollationKey.compare, compareLex, compareOn, h]
  cases c with
  | lt => rfl
  | gt => rfl
  | eq => exact absurd rfl hc

theorem base_of_ascii {name : String} (h : IsAscii name.toList) :
    (collationKey name).base = String.ofList (lower name.toList) := by
  rw [collationKey, stripAccents_caseFold_of_ascii h]

theorem base_upperName {name : String} (h : IsAscii name.toList) :
    (collationKey (upperName name)).base = (collationKey name).base := by
  have hupper : IsAscii (upperName name).toList := by
    rw [toList_upperName]
    exact h.upper
  rw [base_of_ascii hupper, base_of_ascii h, toList_upperName, lower_upper h]

/-- Collation looks at letters before it looks at cases, so names in upper case are in the order in
which they were, or equal. -/
theorem isLE_collate_upperName {a b : String} (ha : IsAscii a.toList) (hb : IsAscii b.toList)
    (h : (collate a b).isLE = true) : (collate (upperName a) (upperName b)).isLE = true := by
  cases hc : compare (collationKey a).base (collationKey b).base with
  | lt =>
    rw [← base_upperName ha, ← base_upperName hb] at hc
    rw [collate_of_base_ne_eq (by decide) hc]
    rfl
  | gt =>
    rw [collate_of_base_ne_eq (by decide) hc] at h
    cases h
  | eq =>
    -- names of the same letters are equal in upper case
    have hbase := Std.LawfulEqOrd.eq_of_compare hc
    rw [base_of_ascii ha, base_of_ascii hb, String.ofList_inj] at hbase
    have hsame : upperName a = upperName b := by
      rw [upperName, upperName, upper_eq_of_lower_eq ha hb hbase]
    rw [hsame, collate_eq_iff.2 rfl]
    rfl

/-- A field with its name in upper case. -/
def Field.uppercased (f : Field) : Field := ⟨upperName f.name, f.value⟩

/-- Upper case replaces letters by letters, and nothing else. -/
theorem toUpper_eq_or_isAlpha {c : Char} (h : c.toNat < 128) :
    c.toUpper = c ∨ c.toUpper.isAlpha = true :=
  forall_ascii (p := fun c => c.toUpper = c ∨ c.toUpper.isAlpha = true) (by decide) h

/-- A class of characters with all letters in it does not see upper case. -/
theorem class_toUpper {p : Char → Bool} (hletters : ∀ c : Char, c.isAlpha = true → p c = true)
    {c : Char} (hc : c.toNat < 128) (h : p c = true) : p c.toUpper = true := by
  rcases toUpper_eq_or_isAlpha hc with hsame | hletter
  · rw [hsame]
    exact h
  · exact hletters _ hletter

theorem isNameStart_of_isAlpha (c : Char) (h : c.isAlpha = true) : Check.isNameStart c = true := by
  rw [Check.isNameStart, h]
  rfl

theorem isNameChar_of_isAlpha (c : Char) (h : c.isAlpha = true) : Check.isNameChar c = true :=
  Check.isNameChar_of_isNameStart (isNameStart_of_isAlpha c h)

theorem isToken_upper {s : List Char} (hs : IsAscii s) (h : IsToken s) : IsToken (upper s) := by
  rw [upper_of_ascii hs]
  refine ⟨by simpa using h.1, List.forall_mem_map.2 fun c hc => ?_⟩
  exact class_toUpper
    (fun c hc => Check.isTokenChar_of_isNameChar (isNameChar_of_isAlpha c hc)) (hs c hc) (h.2 c hc)

theorem isName_upper {s : List Char} (hs : IsAscii s) (h : Check.IsName s) :
    Check.IsName (upper s) := by
  rw [upper_of_ascii hs]
  refine ⟨fun c hc => ?_, List.forall_mem_map.2 fun c hc => ?_⟩
  · rw [List.head?_map] at hc
    obtain ⟨d, hd, rfl⟩ := Option.map_eq_some_iff.1 hc
    exact class_toUpper isNameStart_of_isAlpha (hs d (List.mem_of_mem_head? hd)) (h.1 d hd)
  · exact class_toUpper isNameChar_of_isAlpha (hs c hc) (h.2 c hc)

/-! ## §3 Entries with names in upper case -/

namespace Layout

/-- The layout that leaves the fields of an entry in their order and their names as they are. -/
def literal (l : Layout) : Layout := { l with fieldCase := .lower, sortFields := false }

/-- An entry in the order of a layout with its names in upper case. -/
def upperEntry (l : Layout) (e : Entry) : Entry :=
  { e with fields := (l.arrange e).fields.map Field.uppercased }

theorem mem_arrange (l : Layout) {e : Entry} {f : Field} :
    f ∈ (l.arrange e).fields ↔ f ∈ e.fields :=
  (l.arrange_fields_perm e).mem_iff

theorem arrange_literal (l : Layout) (e : Entry) : l.literal.arrange e = e := rfl

theorem readsBack_literal {l : Layout} (hd : l.delimiters = .braces)
    (htab : IsIndent l.tab.toList) : l.literal.ReadsBack := ⟨hd, rfl, htab⟩

section Upper

variable {l : Layout} (hcase : l.fieldCase = .upper) {e : Entry}
  (hascii : ∀ f ∈ e.fields, IsAscii f.name.toList)

include hascii

theorem nameWidth_upperEntry : l.literal.nameWidth (l.upperEntry e).fields =
    l.nameWidth e.fields := by
  -- upper case keeps the length of an ASCII name, and arranging only permutes them
  have hlen : (l.upperEntry e).fields.map (·.name.length) =
      (l.arrange e).fields.map (·.name.length) := by
    simp only [upperEntry, List.map_map]
    refine List.map_congr_left fun f hf => ?_
    have hf : f ∈ e.fields := l.mem_arrange.1 hf
    rw [Function.comp_apply, Field.uppercased, length_upperName (hascii f hf)]
  have hwidth : l.literal.nameWidth (l.upperEntry e).fields = l.nameWidth (l.arrange e).fields := by
    simp only [nameWidth, literal, hlen]
  rw [hwidth]
  exact nameWidth_eq_of_perm l ((l.arrange_fields_perm e).map _)

include hcase

omit hascii in
theorem renderField_uppercased {f : Field} (hf : IsAscii f.name.toList) (width : Nat) :
    l.literal.renderField width f.uppercased = l.renderField width f := by
  simp only [renderField, Field.uppercased, toList_upperName, shownName, hcase, literal,
    length_upper hf, textIndent]

/-- An entry is written as if it had been brought into order and renamed first. -/
theorem renderEntry_upperEntry : l.literal.renderEntry (l.upperEntry e) = l.renderEntry e := by
  have hfields : (l.upperEntry e).fields.flatMap
      (fun f => ',' :: '\n' :: l.literal.renderField (l.nameWidth e.fields) f) =
      (l.arrange e).fields.flatMap
        fun f => ',' :: '\n' :: l.renderField (l.nameWidth e.fields) f := by
    rw [upperEntry, List.flatMap_map]
    refine List.flatMap_congr fun f hf => ?_
    have hf : f ∈ e.fields := l.mem_arrange.1 hf
    rw [renderField_uppercased hcase (hascii f hf)]
  rw [renderEntry, renderEntry, nameWidth_upperEntry hascii, arrange_literal, hfields]
  rfl

end Upper

end Layout

section Entries

variable {l : Layout} {e : Entry} (hascii : ∀ f ∈ e.fields, IsAscii f.name.toList)

include hascii

theorem Entry.Writable.upperEntry (he : e.Writable) : (l.upperEntry e).Writable where
  type := he.type
  key := he.key
  fields := by
    refine List.forall_mem_map.2 fun f hf => ?_
    have hf : f ∈ e.fields := l.mem_arrange.1 hf
    refine ⟨?_, (he.fields f hf).value⟩
    rw [Field.uppercased, toList_upperName]
    exact isToken_upper (hascii f hf) (he.fields f hf).name

/-- The machine does not see the case of names, nor their order. -/
theorem Check.Admits.upperEntry (he : Check.Admits e) : Check.Admits (l.upperEntry e) where
  type := he.type
  key := he.key
  fields := by
    refine List.forall_mem_map.2 fun f hf => ?_
    have hf : f ∈ e.fields := l.mem_arrange.1 hf
    refine ⟨?_, (he.fields f hf).value⟩
    rw [Field.uppercased, toList_upperName]
    exact isName_upper (hascii f hf) (he.fields f hf).name
  -- names are told apart in lower case, where the upper-case names are the names themselves,
  -- rearranged
  names := by
    have hperm : (((l.upperEntry e).fields.map (·.name.toList)).map lower).Perm
        ((e.fields.map (·.name.toList)).map lower) := by
      simp only [Layout.upperEntry, List.map_map]
      have hsame : (l.arrange e).fields.map (lower ∘ (·.name.toList) ∘ Field.uppercased) =
          (l.arrange e).fields.map (lower ∘ (·.name.toList)) := by
        refine List.map_congr_left fun f hf => ?_
        have hf : f ∈ e.fields := l.mem_arrange.1 hf
        simp only [Function.comp_apply, Field.uppercased, toList_upperName,
          lower_upper (hascii f hf)]
      rw [hsame]
      exact (l.arrange_fields_perm e).map _
    -- so none of them occurs twice after the change if none did before
    have hnames := (firstDuplicate?_eq_none_iff.1 he.names).2
    exact firstDuplicate?_eq_none_iff.2 ⟨by simp, hperm.nodup_iff.2 hnames⟩

end Entries

/-- The entries of a text are restored from their written form with their names in upper case, if
their keys stand. -/
theorem HoldsEntries.restorable_upperEntry {t : List Char} {es : List Entry} (h : HoldsEntries t es)
    {l : Layout} (hcase : l.fieldCase = .upper) (hl : l.literal.ReadsBack)
    (hkeys : ∀ e ∈ es, e.KeyStands l) (hascii : ∀ e ∈ es, ∀ f ∈ e.fields, IsAscii f.name.toList) :
    ∀ e ∈ es, (l.upperEntry e).Restorable l.literal := by
  intro e he
  obtain ⟨hwritable, hkept⟩ := h.writable (fun e he => (hkeys e he).balanced) e he
  have hwritable' : (l.upperEntry e).Writable := hwritable.upperEntry (hascii e he)
  have hd := hl.enclosedBy hwritable'
  refine ⟨hwritable', hkept, hd, ?_⟩
  -- the check has to accept what is written; with a brace-free key its rules are those of Admits; a
  -- key with braces stands by assumption
  obtain ⟨k, hk, hfree | ⟨-, hok⟩⟩ := hkeys e he
  · have hadmits := (h.admits he hk hfree).upperEntry (l := l) (hascii e he)
    rw [← text_entryBlock]
    exact (Check.isOk_run_entryBlock_iff hl.keepsNames hwritable' hd hkept hk hfree).2 hadmits
  · rw [Layout.renderEntry_upperEntry hcase (hascii e he)]
    exact hok

/-! ## §4 The order of names in upper case -/

/-- Names that have the same places in upper case as before are in the same order. -/
theorem isLE_compareNames_upperName {order : List String} {a b : String} (ha : IsAscii a.toList)
    (hb : IsAscii b.toList) (ha' : order.idxOf (upperName a) = order.idxOf a)
    (hb' : order.idxOf (upperName b) = order.idxOf b)
    (h : (compareNames order a b).isLE = true) :
    (compareNames order (upperName a) (upperName b)).isLE = true := by
  rw [compareNames_eq] at h ⊢
  rw [ha', hb']
  -- the place in the given order decides first, and it is unchanged
  cases hc : compare (order.idxOf a) (order.idxOf b) with
  | lt => rfl
  -- between names in one place the collation decides, which upper case keeps on ASCII names
  | eq =>
    rw [hc, Ordering.eq_then] at h
    rw [Ordering.eq_then]
    exact isLE_collate_upperName ha hb h
  | gt =>
    rw [hc] at h
    cases h

namespace Layout

/-- Whether the fields of an entry are in the same order by their names in upper case. -/
def KeepsOrder (l : Layout) (e : Entry) : Prop :=
  l.sortFields = true → ∀ f ∈ e.fields, ∀ g ∈ e.fields,
    (compareNames l.fieldsOrder f.name g.name).isLE = true →
      (compareNames l.fieldsOrder (upperName f.name) (upperName g.name)).isLE = true

instance (l : Layout) (e : Entry) : Decidable (l.KeepsOrder e) :=
  inferInstanceAs (Decidable (_ → _))

theorem pairwise_arrange {l : Layout} (hsort : l.sortFields = true) (e : Entry) :
    (l.arrange e).fields.Pairwise fun f g =>
      (compareNames l.fieldsOrder f.name g.name).isLE = true := by
  have := transCmp_names l.fieldsOrder
  rw [arrange, if_pos hsort]
  exact pairwise_mergeSort_isLE (fun f g : Field => compareNames l.fieldsOrder f.name g.name) _

/-- It is enough to look at the fields in their order. -/
theorem keepsOrder_iff {l : Layout} {e : Entry} : l.KeepsOrder e ↔
    (l.sortFields = true → (l.arrange e).fields.Pairwise fun f g =>
      (compareNames l.fieldsOrder (upperName f.name) (upperName g.name)).isLE = true) := by
  have hperm := l.arrange_fields_perm e
  have := transCmp_names l.fieldsOrder
  refine forall_congr' fun hsort => ⟨fun h => ?_, fun h f hf g hg => ?_⟩
  · refine (pairwise_arrange hsort e).imp_of_mem fun hf hg hle => ?_
    exact h _ (hperm.mem_iff.1 hf) _ (hperm.mem_iff.1 hg) hle
  · -- fields that tie have the same name, also in upper case
    refine forall_of_pairwise_isLE (fun f g : Field => compareNames l.fieldsOrder f.name g.name)
      (pairwise_arrange hsort e) h (fun a b hab => ?_) f (hperm.mem_iff.2 hf) g (hperm.mem_iff.2 hg)
    rw [compareNames_eq_iff.1 hab]
    exact Ordering.isLE_of_eq_eq (Std.ReflCmp.compare_self : compareNames l.fieldsOrder _ _ = .eq)

/-- Collation keeps the order of names, so only the list of names that come first can break it. -/
theorem keepsOrder_of_places {l : Layout} {e : Entry}
    (hascii : ∀ f ∈ e.fields, IsAscii f.name.toList)
    (h : ∀ f ∈ e.fields, l.fieldsOrder.idxOf (upperName f.name) = l.fieldsOrder.idxOf f.name) :
    l.KeepsOrder e := by
  intro _ f hf g hg
  exact isLE_compareNames_upperName (hascii f hf) (hascii g hg) (h f hf) (h g hg)

end Layout

/-! ## §5 The second formatting -/

theorem Entry.Writable.settled {l : Layout} (hl : l.KeepsNames) {e : Entry} (he : e.Writable) :
    (l.settled e).Writable where
  type := he.type
  key := he.key
  fields := List.forall_mem_map.2 fun f hf => by
    have hf := he.arranged l f hf
    exact ⟨hf.name, hf.value.reindented (hl.isIndent_valueIndent _ f)⟩

/-- An entry as it is read back after it has been written with names in upper case. -/
def Layout.readUpper (l : Layout) (e : Entry) : Entry := l.literal.settled (l.upperEntry e)

namespace Layout

section Second

variable {l : Layout} (hcase : l.fieldCase = .upper) (hl : l.literal.ReadsBack) {e : Entry}
  (hascii : ∀ f ∈ e.fields, IsAscii f.name.toList)

theorem map_name_readUpper (l : Layout) (e : Entry) : (l.readUpper e).fields.map (·.name) =
    (l.arrange e).fields.map fun f => upperName f.name := by
  simp only [readUpper, settled, arrange_literal, upperEntry, List.map_map]
  rfl

include hascii

theorem isAscii_readUpper : ∀ f ∈ (l.readUpper e).fields,
    IsAscii f.name.toList ∧ upperName f.name = f.name := by
  intro f hf
  have hname : f.name ∈ (l.readUpper e).fields.map (·.name) := List.mem_map_of_mem hf
  rw [map_name_readUpper] at hname
  obtain ⟨g, hg, hname⟩ := List.mem_map.1 hname
  have hg := hascii g (l.mem_arrange.1 hg)
  rw [← hname, upperName_upperName hg, toList_upperName]
  exact ⟨hg.upper, rfl⟩

/-- Names that are in upper case already stay as they are. -/
theorem upperEntry_readUpper : l.upperEntry (l.readUpper e) = l.arrange (l.readUpper e) := by
  have hfields : (l.arrange (l.readUpper e)).fields.map Field.uppercased =
      (l.arrange (l.readUpper e)).fields.map id := by
    refine List.map_congr_left fun f hf => ?_
    have hf : f ∈ (l.readUpper e).fields := l.mem_arrange.1 hf
    rw [Field.uppercased, (isAscii_readUpper hascii f hf).2]
    rfl
  rw [upperEntry, hfields, List.map_id]
  exact congrArg₂ (fun t k => (⟨t, k, _⟩ : Entry)) (l.arrange_type _).symm (l.arrange_key _).symm

omit hascii in
/-- The order has been kept exactly when the names that are read back are in order. -/
theorem keepsOrder_iff_readUpper : l.KeepsOrder e ↔ (l.sortFields = true →
    ((l.readUpper e).fields.map (·.name)).Pairwise fun a b =>
      (compareNames l.fieldsOrder a b).isLE = true) := by
  rw [keepsOrder_iff, map_name_readUpper, List.pairwise_map]

omit hascii in
theorem arrange_readUpper (h : l.KeepsOrder e) : l.arrange (l.readUpper e) = l.readUpper e := by
  rw [arrange]
  split
  · next hsort =>
    have hsorted := List.pairwise_map.1 (keepsOrder_iff_readUpper.1 h hsort)
    rw [Bibliography.sortFields, List.mergeSort_of_pairwise hsorted]
  · rfl

include hcase hl

/-- If the order has been kept, an entry is written the second time as it was the first time. -/
theorem renderEntry_readUpper (h : l.KeepsOrder e) :
    l.renderEntry (l.readUpper e) = l.renderEntry e := by
  calc l.renderEntry (l.readUpper e)
      = l.literal.renderEntry (l.upperEntry (l.readUpper e)) :=
        (renderEntry_upperEntry hcase fun f hf => (isAscii_readUpper hascii f hf).1).symm
    _ = l.literal.renderEntry (l.readUpper e) := by
        rw [upperEntry_readUpper hascii, arrange_readUpper h]
    _ = l.literal.renderEntry (l.upperEntry e) := renderEntry_settled hl.keepsNames _
    _ = l.renderEntry e := renderEntry_upperEntry hcase hascii

omit hcase in
theorem writable_upperEntry_readUpper (he : e.Writable) :
    (l.upperEntry (l.readUpper e)).Writable := by
  have hread : (l.readUpper e).Writable := (he.upperEntry hascii).settled hl.keepsNames
  exact hread.upperEntry fun f hf => (isAscii_readUpper hascii f hf).1

omit hcase in
/-- If the block of an entry is the same the first and the second time, the order has been kept. -/
theorem keepsOrder_of_entryBlock_eq (he : e.Writable)
    (h : entryBlock l.literal (l.upperEntry (l.readUpper e)) =
      entryBlock l.literal (l.upperEntry e)) : l.KeepsOrder e := by
  have hfirst : (l.upperEntry e).Writable := he.upperEntry hascii
  have hsecond := writable_upperEntry_readUpper hl hascii he
  have hbody : entryBody l.literal (l.upperEntry (l.readUpper e)) =
      entryBody l.literal (l.upperEntry e) := congrArg Block.body h
  -- the same fields are read from the same body
  obtain ⟨r, hsplit, hread⟩ := splitKey_entryBody hl.keepsNames hfirst (hl.enclosedBy hfirst)
  obtain ⟨r', hsplit', hread'⟩ := splitKey_entryBody hl.keepsNames hsecond (hl.enclosedBy hsecond)
  rw [hbody, hsplit] at hsplit'
  obtain rfl : r = r' := congrArg Prod.snd hsplit'
  have hfields : (l.readUpper e).fields = (l.readUpper (l.readUpper e)).fields :=
    Except.ok.inj (hread.symm.trans hread')
  -- the second time the names are those of the first time, arranged
  have hnames : (l.readUpper e).fields.map (·.name) =
      (l.arrange (l.readUpper e)).fields.map (·.name) := by
    rw [hfields, map_name_readUpper]
    refine List.map_congr_left fun f hf => ?_
    exact (isAscii_readUpper hascii f (l.mem_arrange.1 hf)).2
  refine keepsOrder_iff_readUpper.2 fun hsort => ?_
  rw [hnames, List.pairwise_map]
  exact pairwise_arrange hsort _

end Second

end Layout

section Texts

theorem map_renderEntry_upperEntry {l : Layout} (hcase : l.fieldCase = .upper) {es : List Entry}
    (hascii : ∀ e ∈ es, ∀ f ∈ e.fields, IsAscii f.name.toList) :
    (es.map l.upperEntry).map l.literal.renderEntry = es.map l.renderEntry := by
  rw [List.map_map]
  exact List.map_congr_left fun e he => Layout.renderEntry_upperEntry hcase (hascii e he)

/-- The blocks of what is written with names in upper case. -/
theorem blocks_joinBlocks_renderEntry {l : Layout} (hcase : l.fieldCase = .upper)
    (hl : l.literal.ReadsBack) {es : List Entry}
    (hascii : ∀ e ∈ es, ∀ f ∈ e.fields, IsAscii f.name.toList)
    (hwritable : ∀ e ∈ es, (l.upperEntry e).Writable) :
    (segment (Document.joinBlocks (es.map l.renderEntry))).blocks.map (·.2) =
      es.map fun e => entryBlock l.literal (l.upperEntry e) := by
  have hblocks := @blocks_joinBlocks ((es.map l.upperEntry).map (entryBlock l.literal))
    (List.forall_mem_map.2 (List.forall_mem_map.2 fun e he =>
      ⟨wellFormed_entryBlock hl.keepsNames (hwritable e he), rfl⟩))
  rw [map_text_entryBlock, map_renderEntry_upperEntry hcase hascii, List.map_map] at hblocks
  exact hblocks

variable {s : Settings} (hsort : s.sortEntries = false) (hcase : s.layout.fieldCase = .upper)
  (hl : s.layout.literal.ReadsBack)

include hsort

theorem reformat_of_reading {t : List Char} {es : List Entry}
    (ht : Reading.ofChars t = ⟨es.map .entry, []⟩) : reformat Check.run s t =
      Document.joinBlocks (es.map s.layout.renderEntry) := by
  rw [reformat, text_ofItems hsort, show Reading.ofCharsUsing Check.run t = _ from ht, List.map_map]
  rfl

variable {t : List Char} {es : List Entry} (ht : HoldsEntries t es)
  (hascii : ∀ e ∈ es, ∀ f ∈ e.fields, IsAscii f.name.toList)
  (hkeys : ∀ e ∈ es, e.KeyStands s.layout)

include hcase hl ht hascii hkeys

/-- The second formatting writes the entries as they are read back with their names in upper
case. -/
theorem reformat_reformat_of_upper : reformat Check.run s (reformat Check.run s t) =
    Document.joinBlocks ((es.map s.layout.readUpper).map s.layout.renderEntry) := by
  have hread := ofChars_joinBlocks_renderEntry hl.keepsNames
    (List.forall_mem_map.2 (ht.restorable_upperEntry hcase hl hkeys hascii))
  have hentries : (es.map s.layout.upperEntry).map s.layout.literal.settled =
      es.map s.layout.readUpper := List.map_map
  rw [map_renderEntry_upperEntry hcase hascii, hentries] at hread
  rw [reformat_of_reading hsort ht.reading, reformat_of_reading hsort hread]

theorem reformat_reformat_of_keepsOrder (hkeeps : ∀ e ∈ es, s.layout.KeepsOrder e) :
    reformat Check.run s (reformat Check.run s t) = reformat Check.run s t := by
  rw [reformat_reformat_of_upper hsort hcase hl ht hascii hkeys,
    reformat_of_reading hsort ht.reading, List.map_map]
  refine congrArg Document.joinBlocks (List.map_congr_left fun e he => ?_)
  exact Layout.renderEntry_readUpper hcase hl (hascii e he) (hkeeps e he)

theorem keepsOrder_of_reformat_reformat
    (htext : reformat Check.run s (reformat Check.run s t) = reformat Check.run s t) :
    ∀ e ∈ es, s.layout.KeepsOrder e := by
  intro e he
  have hwritable : ∀ e ∈ es, e.Writable :=
    fun e he => (ht.writable (fun e he => (hkeys e he).balanced) e he).1
  rw [reformat_reformat_of_upper hsort hcase hl ht hascii hkeys,
    reformat_of_reading hsort ht.reading] at htext
  -- the same text has the same blocks
  have hfirst := blocks_joinBlocks_renderEntry hcase hl hascii
    fun e he => (hwritable e he).upperEntry (hascii e he)
  have hsecond := @blocks_joinBlocks_renderEntry _ hcase hl (es.map s.layout.readUpper)
    (List.forall_mem_map.2 fun e he f hf => (Layout.isAscii_readUpper (hascii e he) f hf).1)
    (List.forall_mem_map.2 fun e he =>
      Layout.writable_upperEntry_readUpper hl (hascii e he) (hwritable e he))
  rw [htext, hfirst, List.map_map] at hsecond
  exact Layout.keepsOrder_of_entryBlock_eq hl (hascii e he) (hwritable e he)
    (List.map_inj_left.1 hsecond e he).symm

end Texts

/-- Formatting with names in upper case leads to a text that formatting does not change, exactly
when every entry keeps its order; and an entry does so if its names have the same places in the list
of names that come first as they have in upper case. -/
theorem reformat_reformat_iff_keepsOrder {s : Settings} (hsort : s.sortEntries = false)
    (hbraces : s.layout.delimiters = .braces) (hcase : s.layout.fieldCase = .upper)
    (htab : IsIndent s.layout.tab.toList) {t : List Char} {es : List Entry} (ht : HoldsEntries t es)
    (hascii : ∀ e ∈ es, ∀ f ∈ e.fields, IsAscii f.name.toList)
    (hkeys : ∀ e ∈ es, e.KeyStands s.layout) :
    (reformat Check.run s (reformat Check.run s t) = reformat Check.run s t ↔
      ∀ e ∈ es, s.layout.KeepsOrder e) ∧
    ∀ e ∈ es, (∀ f ∈ e.fields, s.layout.fieldsOrder.idxOf (upperName f.name) =
      s.layout.fieldsOrder.idxOf f.name) → s.layout.KeepsOrder e := by
  have hl := Layout.readsBack_literal hbraces htab
  refine ⟨⟨?_, ?_⟩, fun e he h => Layout.keepsOrder_of_places (hascii e he) h⟩
  · exact keepsOrder_of_reformat_reformat hsort hcase hl ht hascii hkeys
  · exact reformat_reformat_of_keepsOrder hsort hcase hl ht hascii hkeys

/-- Formatting with names in upper case, by which the listed fields come first. -/
def uppercases (order : List String) : Settings := { Settings.default with
  layout := { Layout.default with fieldCase := .upper, sortFields := true, fieldsOrder := order } }

/-- A book with a title and a year. -/
def datedBook : List Char := "@book\x7ba, title = \x7bA\x7d, year = \x7b2020\x7d\x7d".toList

/-- The reference to this book. -/
def datedReference : List Entry :=
  [⟨"book", some "a", [⟨"title", .text "A"⟩, ⟨"year", .text "2020"⟩]⟩]

theorem holdsEntries_datedBook : HoldsEntries datedBook datedReference where
  reading := by with_unfolding_all rfl
  braces := by decide +kernel

theorem isAscii_datedReference :
    ∀ e ∈ datedReference, ∀ f ∈ e.fields, IsAscii f.name.toList := by
  decide +kernel

/-- A list that names the year in both cases keeps it in front of the title. -/
theorem reformat_reformat_datedBook : HoldsEntries datedBook datedReference ∧
    reformat Check.run (uppercases ["year", "YEAR"])
        (reformat Check.run (uppercases ["year", "YEAR"]) datedBook) =
      reformat Check.run (uppercases ["year", "YEAR"]) datedBook := by
  have hkeys : ∀ e ∈ datedReference, e.KeyStands (uppercases ["year", "YEAR"]).layout :=
    Entry.keyStands_of_braceFree (by decide)
  refine ⟨holdsEntries_datedBook, (reformat_reformat_iff_keepsOrder rfl rfl rfl
    Layout.readsBack_default.tab holdsEntries_datedBook isAscii_datedReference hkeys).1.2 ?_⟩
  decide +kernel

/-- A list that names the year in lower case only puts it in front of the title the first time, and
behind it the second time. -/
theorem reformat_reformat_ne_datedBook : HoldsEntries datedBook datedReference ∧
    reformat Check.run (uppercases ["year"])
        (reformat Check.run (uppercases ["year"]) datedBook) ≠
      reformat Check.run (uppercases ["year"]) datedBook := by
  have hkeys : ∀ e ∈ datedReference, e.KeyStands (uppercases ["year"]).layout :=
    Entry.keyStands_of_braceFree (by decide)
  -- the second run would have to keep the order of the fields, and it puts the title in front of
  -- the year
  refine ⟨holdsEntries_datedBook, fun htext => ?_⟩
  have hkeeps := keepsOrder_of_reformat_reformat rfl rfl
    (Layout.readsBack_literal rfl Layout.readsBack_default.tab) holdsEntries_datedBook
    isAscii_datedReference hkeys htext
  revert hkeeps
  decide +kernel

end Bibliography
