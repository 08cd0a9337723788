/-!
# Entries

What a bibliography consists of: references with a citation key and fields, and blocks that are kept
as they are written. The value of a field is a text, a number, the name of an abbreviation, or
several of these joined together.

An item can stand in a list more than once. An `Occurrence` therefore carries the identity of its
item, and two occurrences belong to the same item exactly when their identities are equal.
-/

namespace Bibliography

/-- The value of a field. -/
inductive Value where
  /-- A text between delimiters, possibly of several lines. -/
  | text (content : String)
  /-- A bare number. -/
  | number (content : String)
  /-- The bare name of an abbreviation. -/
  | abbreviation (content : String)
  /-- Values joined with a number sign; no parts give the empty text. -/
  | concat (parts : List Value)
  deriving Inhabited

/-- A named value of an entry. -/
structure Field where
  name : String
  value : Value
  deriving Inhabited

/-- A reference. -/
structure Entry where
  type : String
  key : Option String
  fields : List Field
  deriving Inhabited

/-- The first field with a name. -/
def Entry.find? (e : Entry) (name : String) : Option Field := e.fields.find? (·.name == name)

/-- A block that is kept as it is written. -/
structure Verbatim where
  type : String
  raw : String
  deriving Inhabited, DecidableEq

/-- An item of a bibliography. -/
inductive Item where
  | entry (e : Entry)
  | verbatim (v : Verbatim)
  deriving Inhabited

namespace Item

/-- The type of an item, as written. -/
def type : Item → String
  | entry e => e.type
  | verbatim v => v.type

/-- The entry that an item is, if it is one. -/
def entry? : Item → Option Entry
  | entry e => some e
  | verbatim _ => none

/-- The citation key of an item; an empty key counts as none. -/
def citationKey? : Item → Option String
  | entry e => e.key.filter (· ≠ "")
  | verbatim _ => none

end Item

/-- An item in a list, with its identity. -/
structure Occurrence where
  id : Nat
  item : Item
  deriving Inhabited

/-- The occurrences of a list of items that are all different. -/
def Occurrence.number (items : List Item) : List Occurrence :=
  items.zipIdx.map fun (item, id) => ⟨id, item⟩

end Bibliography
