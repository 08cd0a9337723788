import Bibliography.Notice
import Bibliography.Order.Sort
import Bibliography.Settings.Basic

/-!
# Documents

A whole bibliography as text. Its items are sorted if the settings ask for it, and written with an
empty line between them. Duplicates are looked for in a sorted bibliography only; of entries that tie
the first stays as it is, and the others are reported, and commented out if the settings say so.
-/

namespace Bibliography

open Text

/-! ## §1 Comments -/

/-- What a commented line begins with. -/
def commentMark : List Char := "% ".toList

/-- A text with every line commented. -/
def commentOut (s : List Char) : List Char :=
  joinWith ['\n'] ((splitOn '\n' s).map (commentMark ++ ·))

/-! ## §2 Formatting -/

/-- A formatted bibliography: its text, its items in the order of the text, the duplicates among
them, and what was reported. -/
structure Document where
  text : List Char
  items : List Occurrence
  duplicates : List Occurrence
  notices : List Notice

namespace Document

/-- The items in the order in which they are written, the duplicates among them, and the event that
they have been sorted. -/
def arrangeItems (s : Settings) (items : List Occurrence) :
    List Occurrence × List Occurrence × List Notice :=
  if s.sortEntries then
    let sorted := Sorted.ofList s.arrangement s.layout.delimiters items
    let flagged := if s.duplicates = .ignore then [] else sorted.groups.flatMap List.tail
    (sorted.items, flagged, [.event (.entriesSorted sorted.items.length s.arrangement.sortBy)])
  else (items, [], [])

/-- The text of one item, commented out if its identity is among those given. -/
def block (l : Layout) (commented : List Nat) (x : Occurrence) : List Char :=
  let text := l.renderItem x.item
  if x.id ∈ commented then commentOut text else text

/-- Blocks with an empty line between them and a line feed at the end. -/
def joinBlocks (blocks : List (List Char)) : List Char :=
  if blocks.isEmpty then [] else joinWith ['\n', '\n'] blocks ++ ['\n']

/-- The warning about a duplicate. -/
def duplicateWarning (policy : DuplicatePolicy) (x : Occurrence) : String :=
  "Duplicate entry \"" ++ x.item.citationKey?.getD "<no key>" ++ "\""
    ++ (if policy = .comment then " commented out." else ".")

/-- Formats a list of items. -/
def ofItems (s : Settings) (items : List Occurrence) : Document :=
  let (ordered, flagged, notices) := arrangeItems s items
  let commented := if s.duplicates = .comment then flagged.map (·.id) else []
  { text := joinBlocks (ordered.map (block s.layout commented))
    items := ordered
    duplicates := flagged
    notices := notices ++ flagged.map fun x => .warning (duplicateWarning s.duplicates x) [] }

end Document

end Bibliography
