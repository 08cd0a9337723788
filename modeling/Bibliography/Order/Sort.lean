import Bibliography.Order.Compare

/-!
# Sorting and duplicates

Sorting keeps items that tie in their order. Entries that tie are duplicates of one another, blocks
that are kept never are; in a sorted list the duplicates stand next to each other, with nothing but
kept blocks between them, so they are found as runs of ties.

A comparison can also leave a mark: when two items tie, the first of them is remembered if it is an
entry. What is remembered depends on the comparisons that are made, the runs do not.

Main statement: sorting rearranges the list and nothing else (`sort_perm`).
-/

namespace Bibliography

namespace Arrangement

/-- Sorts occurrences. -/
def sort (o : Arrangement) (d : Delimiters) (items : List Occurrence) : List Occurrence :=
  items.mergeSort fun a b => (o.compare d a.item b.item).isLE

/-- The runs of two or more neighbouring entries that tie, kept blocks left aside. -/
def tieRuns (o : Arrangement) (d : Delimiters) (items : List Occurrence) : List (List Occurrence) :=
  let entries := items.filter fun x => x.item.entry?.isSome
  (entries.splitBy fun a b => o.ties d a.item b.item).filter fun run => 1 < run.length

/-- Compares two occurrences, and adds the identity of the first to a set when they tie and it is
an entry. -/
def compareMarking (o : Arrangement) (d : Delimiters) (marked : List Nat) (a b : Occurrence) :
    Ordering × List Nat :=
  let result := o.compare d a.item b.item
  let marks := result = .eq ∧ a.item.entry?.isSome ∧ a.id ∉ marked
  (result, if marks then a.id :: marked else marked)

/-- Makes comparisons one after another: what they return, and what is marked at the end. -/
def compareAllMarking (o : Arrangement) (d : Delimiters) (marked : List Nat) :
    List (Occurrence × Occurrence) → List Ordering × List Nat
  | [] => ([], marked)
  | (a, b) :: pairs =>
    let (result, marked) := o.compareMarking d marked a b
    let (results, marked) := compareAllMarking o d marked pairs
    (result :: results, marked)

theorem sort_perm (o : Arrangement) (d : Delimiters) (items : List Occurrence) :
    (o.sort d items).Perm items :=
  List.mergeSort_perm items _

end Arrangement

/-- A sorted list with its runs of duplicates. -/
structure Sorted where
  items : List Occurrence
  groups : List (List Occurrence)

/-- Sorts a list and finds the duplicates in it. -/
def Sorted.ofList (o : Arrangement) (d : Delimiters) (items : List Occurrence) : Sorted :=
  let sorted := o.sort d items
  ⟨sorted, o.tieRuns d sorted⟩

/-- The identities of the entries that have a duplicate. -/
def Sorted.duplicates (s : Sorted) : List Nat := s.groups.flatten.map (·.id)

/-- The identities that are reported when the comparisons of the sort have marked some: the marked
ones, and those of the entries that have a duplicate. -/
def Sorted.reported (s : Sorted) (marked : List Nat) : List Nat :=
  s.duplicates.foldr List.insert marked

end Bibliography
