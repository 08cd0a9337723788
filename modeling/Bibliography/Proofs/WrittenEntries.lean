import Bibliography.Proofs.SortedTexts

/-!
# Entries that have been written

Writing an entry can reorder its fields, and leaves them so. Whatever has been written before, in
whatever layouts, nothing that can be looked up of the entry is different afterwards: its type, its
key, its fields up to their order, and the field that is found under each name, as fields of one
name do not change places. Items are compared by what can be looked up, so they are sorted as if
nothing had been written. Writing the entry in the same layout again gives the same text and leaves
the fields as they are.

One writing keeps what the entry had before (`KeepsLookups.write`), and so does any sequence of
them (`keepsLookups_afterWriting`).

Main statement: `outlastsWriting_afterWriting`.
-/

namespace Bibliography

/-! ## §1 Writing -/

namespace Entry

/-- Writes an entry: its text, and the entry with its fields in the order in which they were
written. -/
def write (l : Layout) (e : Entry) : List Char × Entry := (l.renderEntry e, l.arrange e)

/-- An entry after it has been written in several layouts, one after another. -/
def afterWriting (ls : List Layout) (e : Entry) : Entry := ls.foldl (fun e l => (e.write l).2) e

end Entry

/-- An entry is arranged once for all. -/
theorem Layout.arrange_arrange (l : Layout) (e : Entry) :
    l.arrange (l.arrange e) = l.arrange e := by
  unfold Layout.arrange
  cases l.sortFields with
  | false => rfl
  | true => simp only [if_true, sortFields_sortFields]

/-- An entry is written the same before and after it has been arranged. -/
theorem Layout.renderEntry_arrange (l : Layout) (e : Entry) :
    l.renderEntry (l.arrange e) = l.renderEntry e := by
  have hwidth : l.nameWidth (l.arrange e).fields = l.nameWidth e.fields :=
    nameWidth_eq_of_perm l ((l.arrange_fields_perm e).map _)
  rw [renderEntry, renderEntry, arrange_arrange, hwidth, arrange_type, arrange_key]

/-! ## §2 Fields and their places -/

/-- Fields with the places that they had in a list, perhaps in another order than there, but with
the same field as the first of every name. Equal fields are told apart by their places. -/
structure KeepsFirst (fields : List Field) (placed : List (Field × Nat)) : Prop where
  perm : placed.Perm fields.zipIdx
  first (name : String) :
    placed.find? (·.1.name == name) = fields.zipIdx.find? (·.1.name == name)

/-- Sorts fields by name and takes their places along. -/
def sortPlaced (order : List String) (placed : List (Field × Nat)) : List (Field × Nat) :=
  placed.mergeSort fun a b => (compareNames order a.1.name b.1.name).isLE

theorem map_fst_sortPlaced (order : List String) (placed : List (Field × Nat)) :
    (sortPlaced order placed).map Prod.fst = sortFields order (placed.map Prod.fst) :=
  List.map_mergeSort fun _ _ _ _ => rfl

theorem KeepsFirst.sortPlaced {fields : List Field} {placed : List (Field × Nat)}
    (h : KeepsFirst fields placed) (order : List String) :
    KeepsFirst fields (sortPlaced order placed) where
  perm := (List.mergeSort_perm placed _).trans h.perm
  first name := by
    have : Std.TransCmp fun a b : Field × Nat => compareNames order a.1.name b.1.name :=
      transCmp_comap (compareNames order) fun a : Field × Nat => a.1.name
    -- fields of one name tie
    have hties (a b : Field × Nat) (ha : (a.1.name == name) = true)
        (hb : (b.1.name == name) = true) : compareNames order a.1.name b.1.name = .eq :=
      compareNames_eq_iff.2 ((beq_iff_eq.1 ha).trans (beq_iff_eq.1 hb).symm)
    rw [← h.first name]
    exact find?_mergeSort_isLE (fun a b : Field × Nat => compareNames order a.1.name b.1.name)
      hties placed

/-! ## §3 What can be looked up -/

/-- What can be looked up of an entry, and is the same of another one. -/
structure Entry.KeepsLookups (e e' : Entry) : Prop where
  type : e'.type = e.type
  key : e'.key = e.key
  /-- The fields are those that there were, each name still standing for the same one first. -/
  fields : ∃ placed, KeepsFirst e.fields placed ∧ placed.map Prod.fst = e'.fields

namespace Entry.KeepsLookups

variable {e e' : Entry}

theorem refl (e : Entry) : e.KeepsLookups e where
  type := rfl
  key := rfl
  fields := ⟨e.fields.zipIdx, ⟨.refl _, fun _ => rfl⟩, List.zipIdx_map_fst 0 e.fields⟩

/-- Writing an entry once more keeps what could be looked up before. -/
theorem write (h : e.KeepsLookups e') (l : Layout) : e.KeepsLookups (e'.write l).2 where
  type := (l.arrange_type e').trans h.type
  key := (l.arrange_key e').trans h.key
  fields := by
    obtain ⟨placed, hplaced, hfields⟩ := h.fields
    rw [Entry.write, Layout.arrange]
    split
    · refine ⟨sortPlaced l.fieldsOrder placed, hplaced.sortPlaced l.fieldsOrder, ?_⟩
      rw [map_fst_sortPlaced, hfields]
    · exact ⟨placed, hplaced, hfields⟩

theorem perm (h : e.KeepsLookups e') : e'.fields.Perm e.fields := by
  obtain ⟨placed, hplaced, hfields⟩ := h.fields
  have hperm := hplaced.perm.map Prod.fst
  rwa [hfields, List.zipIdx_map_fst] at hperm

theorem find?_eq (h : e.KeepsLookups e') (name : String) : e'.find? name = e.find? name := by
  obtain ⟨placed, hplaced, hfields⟩ := h.fields
  have hfind (xs : List (Field × Nat)) : (xs.map Prod.fst).find? (·.name == name) =
      (xs.find? (·.1.name == name)).map Prod.fst := List.find?_map
  rw [Entry.find?, Entry.find?, ← hfields, hfind, hplaced.first, ← hfind, List.zipIdx_map_fst]

/-- Items are compared by what can be looked up of them. -/
theorem compare_eq (h : e.KeepsLookups e') (o : Arrangement) (d : Delimiters) (i : Item) :
    o.compare d (.entry e') i = o.compare d (.entry e) i ∧
      o.compare d i (.entry e') = o.compare d i (.entry e) := by
  have hkey : (Item.entry e').citationKey? = (Item.entry e).citationKey? :=
    congrArg (Option.filter _) h.key
  have htext (name : String) :
      (Item.entry e').fieldText d name = (Item.entry e).fieldText d name := by
    simp only [Item.fieldText, Item.entry?, h.find?_eq]
  constructor
  · exact Arrangement.compare_congr ⟨h.type, rfl⟩ ⟨hkey, rfl⟩ fun _ _ name _ => ⟨htext name, rfl⟩
  · exact Arrangement.compare_congr ⟨rfl, h.type⟩ ⟨rfl, hkey⟩ fun _ _ name _ => ⟨rfl, htext name⟩

end Entry.KeepsLookups

/-- However often an entry is written, what can be looked up of it stays. -/
theorem keepsLookups_afterWriting (e : Entry) (ls : List Layout) :
    e.KeepsLookups (e.afterWriting ls) := by
  have hrun (e' : Entry) (h : e.KeepsLookups e') : e.KeepsLookups (e'.afterWriting ls) := by
    induction ls generalizing e' with
    | nil => exact h
    | cons l ls ih => exact ih _ (h.write l)
  exact hrun e (.refl e)

/-! ## §4 Writing again -/

/-- What an entry has to be after it has been written, compared with what it was before. -/
structure Entry.OutlastsWriting (e e' : Entry) : Prop where
  lookups : e.KeepsLookups e'
  perm : e'.fields.Perm e.fields
  find?_eq (name : String) : e'.find? name = e.find? name
  /-- It is compared with any item as before, from either side. -/
  compare_eq (o : Arrangement) (d : Delimiters) (i : Item) :
    o.compare d (.entry e') i = o.compare d (.entry e) i ∧
      o.compare d i (.entry e') = o.compare d i (.entry e)
  /-- A layout that does not sort fields leaves it as it is. -/
  unsorted (l : Layout) : l.sortFields = false → (e'.write l).2 = e'
  /-- Writing it twice in one layout gives the same text and the same order of fields. -/
  again (l : Layout) : (e'.write l).2.write l = e'.write l

/-- Writing an entry, any number of times and in any layouts, changes nothing that can be looked up
of it, and repeats itself where the layout does. -/
theorem outlastsWriting_afterWriting (e : Entry) (ls : List Layout) :
    e.OutlastsWriting (e.afterWriting ls) where
  lookups := keepsLookups_afterWriting e ls
  perm := (keepsLookups_afterWriting e ls).perm
  find?_eq := (keepsLookups_afterWriting e ls).find?_eq
  compare_eq := (keepsLookups_afterWriting e ls).compare_eq
  unsorted l hl := by
    rw [Entry.write, Layout.arrange, if_neg (by rw [hl]; decide)]
  again l := by
    rw [Entry.write, Entry.write, Layout.renderEntry_arrange, Layout.arrange_arrange]

end Bibliography
