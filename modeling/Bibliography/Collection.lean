import Bibliography.Document
import Bibliography.Reading
import Bibliography.Settings.Options

/-!
# Collections

A list of items that is worked on step by step: items are added, changed, compared, sorted and
written, under settings that can be exchanged. An item keeps its identity while its place changes,
and writing an entry can reorder its fields for good. Comparisons mark the entries that tie, and
everything that is reported is kept.
-/

namespace Bibliography

open Text

/-- A list of items with the settings and the memory of the work on it. -/
structure Collection where
  items : List Occurrence
  settings : Settings
  /-- The identities of the entries that comparisons have marked. -/
  marked : List Nat
  notices : List Notice
  /-- The identity of the next item that is added. -/
  nextId : Nat

namespace Collection

/-- The collection without items, under the default settings. -/
def empty : Collection := ⟨[], .default, [], [], 0⟩

/-- Adds items that are new to the collection. -/
def add (c : Collection) (items : List Item) : Collection :=
  { c with
    items := c.items ++ (Occurrence.number items).map fun x => { x with id := c.nextId + x.id }
    nextId := c.nextId + items.length }

/-- Exchanges the settings, and forgets the marks if asked to. Rejected options are reported. -/
def reconfigure (c : Collection) (options : Datum) (forget : Bool) : Collection :=
  let r := Settings.load options
  { c with
    settings := r.settings
    marked := if forget then [] else c.marked
    notices := c.notices ++ r.issues.map fun i => .warning i.message [] }

/-- Compares two items, and marks the first if they tie. -/
def compare (c : Collection) (a b : Occurrence) : Ordering × Collection :=
  let (result, marked) :=
    c.settings.arrangement.compareMarking c.settings.layout.delimiters c.marked a b
  (result, { c with marked := marked })

/-- The places of the marked items. -/
def markedPlaces (c : Collection) : List Nat :=
  c.items.zipIdx.filterMap fun (x, i) => if x.id ∈ c.marked then some i else none

/-- Changes every occurrence of an item. -/
def modify (c : Collection) (id : Nat) (f : Item → Item) : Collection :=
  { c with items := c.items.map fun x => if x.id = id then { x with item := f x.item } else x }

/-- Writes an item. Afterwards its fields are in the order in which they were written. -/
def write (c : Collection) (x : Occurrence) : List Char × Collection :=
  (c.settings.layout.renderItem x.item, c.modify x.id (Item.arrange c.settings.layout))

/-- Sorts the list. The marks stay as they are. -/
def sort (c : Collection) : Sorted × Collection :=
  let s := Sorted.ofList c.settings.arrangement c.settings.layout.delimiters c.items
  (s, { c with items := s.items })

/-- Writes the whole list, which keeps its order. -/
def document (c : Collection) : Document × Collection :=
  let d := Document.ofItems c.settings c.items
  (d, { c with
    items := c.items.map fun x => { x with item := x.item.arrange c.settings.layout }
    notices := c.notices ++ d.notices })

end Collection

end Bibliography
