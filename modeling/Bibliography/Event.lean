import Bibliography.Datum.Written

/-!
# Events

What happens while a bibliography is formatted, as a name with a payload. Some events have a summary
in words; the summary of a sort tells how many items there were and by which keys they were sorted.
-/

namespace Bibliography

/-- Something that happened. -/
structure Event where
  name : String
  payload : Options

/-- Why an event cannot be summed up: the sort keys are no list of anything. -/
inductive EventFault where
  | notIterable (kind : String)
  deriving DecidableEq, Repr

/-- The message of a fault. -/
def EventFault.message : EventFault → String
  | .notIterable kind => "'" ++ kind ++ "' object is not iterable"

/-- Whether a value counts as absent. -/
def Datum.isEmpty : Datum → Bool
  | .null => true
  | .bool b => !b
  | .int n => n == 0
  | .float x => x == 0
  | .text s => s.isEmpty
  | .bytes b => b.isEmpty
  | .date .. => false
  | .moment _ => false
  | .list items => items.isEmpty
  | .tuple items => items.isEmpty
  | .set items => items.isEmpty
  | .map pairs => pairs.isEmpty
  | .cycle _ => false

/-- The members of a value, each as part of a sentence: the items of a collection, the keys of a
mapping, the characters of a text. -/
def Datum.members : Datum → Except EventFault (List String)
  | .text s => .ok (s.toList.map fun c => String.ofList [c])
  | .bytes b => .ok (b.map fun x => toString x.toNat)
  | .list items => .ok (items.map Datum.bare)
  | .tuple items => .ok (items.map Datum.bare)
  | .set items => .ok (items.map Datum.bare)
  | .map pairs => .ok (pairs.map fun p => p.1.bare)
  | v => .error (.notIterable v.kindName)

namespace Event

/-- The event that items have been sorted. -/
def entriesSorted (count : Nat) (keys : List String) : Event :=
  ⟨"entries_sorted", [("count", .int count), ("keys", .list (keys.map .text))]⟩

/-- The summary of an event, if it has one. -/
def message? (e : Event) : Except EventFault (Option String) :=
  if e.name = "entries_sorted" then do
    let count := (e.payload.find? "count").getD (.int 0)
    let keys := (e.payload.find? "keys").getD .null
    let names ← if keys.isEmpty then .ok [] else keys.members
    let suffix := if keys.isEmpty then "" else " by " ++ ", ".intercalate names
    return some ("Sorted " ++ count.bare ++ " entries" ++ suffix)
  else return none

end Event

end Bibliography
