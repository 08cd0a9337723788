import Bibliography.Collation
import Bibliography.Entry

/-!
# The order of fields

Fields whose names are listed come first, in the order of the list; the others follow in collation
order. A name that is listed more than once has its first place. Fields of the same name keep their
order.
-/

namespace Bibliography

/-- Compares two field names by their first place in a list, listed names first. -/
def compareNames (order : List String) (a b : String) : Ordering :=
  match order.idxOf? a, order.idxOf? b with
  | some i, some j => compare i j
  | some _, none => .lt
  | none, some _ => .gt
  | none, none => collate a b

/-- Sorts fields by name. -/
def sortFields (order : List String) (fields : List Field) : List Field :=
  fields.mergeSort fun a b => (compareNames order a.name b.name).isLE

theorem sortFields_perm (order : List String) (fields : List Field) :
    (sortFields order fields).Perm fields :=
  List.mergeSort_perm fields _

end Bibliography
