import Bibliography.Layout.Render

/-!
# The order of items

Items whose type is pinned come before the others, in the order of the pins. After that the sort
keys decide, from the first to the last: the citation key, where items without one come first; the
type; the year, the latest first; or the text of any other field, braces removed, where a missing
field counts as empty.

The text of a field is the one that is written with the delimiters in use, so quotation marks stay
in it while braces go.
-/

namespace Bibliography

/-- How a list of items is ordered. -/
structure Arrangement where
  /-- The sort keys, the most significant first. -/
  sortBy : List String
  /-- The types that come first. -/
  firstEntries : List String
  deriving DecidableEq, Repr, Inhabited

/-- What a sort key compares. -/
inductive SortKey where
  | citationKey
  | latestYear
  | type
  | field (name : String)
  deriving DecidableEq, Repr

/-- The sort key with a name. -/
def SortKey.ofName (name : String) : SortKey :=
  if name = "key" then .citationKey
  else if name = "year-desc" then .latestYear
  else if name = "type" then .type
  else .field name

/-- The text of a field without its braces; empty for an item that lacks it. -/
def Item.fieldText (d : Delimiters) (name : String) (i : Item) : String :=
  match i.entry? with
  | none => ""
  | some e =>
    match e.find? name with
    | none => ""
    | some f => String.ofList ((f.value.render d []).filter fun c => c != '{' && c != '}')

/-- Compares the pins of two items. -/
def comparePins (first : List String) (a b : Item) : Ordering :=
  match first.idxOf? a.type, first.idxOf? b.type with
  | some i, some j => compare i j
  | some _, none => .lt
  | none, some _ => .gt
  | none, none => .eq

/-- Compares the citation keys of two items. -/
def compareKeys (a b : Item) : Ordering :=
  match a.citationKey?, b.citationKey? with
  | none, none => .eq
  | none, some _ => .lt
  | some _, none => .gt
  | some x, some y => collate x y

/-- Compares the types of two items. -/
def compareTypes (a b : Item) : Ordering := collate a.type b.type

/-- Compares the texts of a field of two items. -/
def compareFieldTexts (d : Delimiters) (name : String) (a b : Item) : Ordering :=
  collate (a.fieldText d name) (b.fieldText d name)

/-- Compares two items on one sort key. -/
def SortKey.compare (d : Delimiters) : SortKey → Item → Item → Ordering
  | .citationKey, a, b => compareKeys a b
  | .latestYear, a, b => (compareFieldTexts d "year" a b).swap
  | .type, a, b => compareTypes a b
  | .field name, a, b => compareFieldTexts d name a b

/-- Compares two items on several sort keys. -/
def compareSortKeys (d : Delimiters) (names : List String) (a b : Item) : Ordering :=
  match names with
  | [] => .eq
  | name :: names => ((SortKey.ofName name).compare d a b).then (compareSortKeys d names a b)

/-- Compares two items. -/
def Arrangement.compare (o : Arrangement) (d : Delimiters) (a b : Item) : Ordering :=
  (comparePins o.firstEntries a b).then (compareSortKeys d o.sortBy a b)

/-- Whether two items are at the same place of the order. -/
def Arrangement.ties (o : Arrangement) (d : Delimiters) (a b : Item) : Bool :=
  o.compare d a b == .eq

end Bibliography
