import Bibliography.Text.BaseLetters
import Bibliography.Text.LetterCase

/-!
# Collation

The order in which texts are listed, independent of the language of the reader. Texts are compared
on levels, the way a dictionary does: first their base letters without accents and case, then the
accents, then the case with lower case before upper case, and at last the characters themselves. On
each level texts are compared by code points.

Main statements: `collate` is a total order on texts (`collate_swap`, `collate_trans`,
`collate_eq_iff`).
-/

namespace Bibliography

open Text

/-- The levels on which a text is compared. -/
structure CollationKey where
  base : String
  folded : String
  swapped : String
  text : String
  deriving DecidableEq, Repr

/-- The levels of a text. -/
def collationKey (s : String) : CollationKey :=
  let chars := s.toList
  let folded := caseFold chars
  ⟨String.ofList (stripAccents folded), String.ofList folded, String.ofList (swapCase chars), s⟩

/-- Compares two keys level by level. -/
def CollationKey.compare : CollationKey → CollationKey → Ordering :=
  compareLex (compareOn CollationKey.base) <|
  compareLex (compareOn CollationKey.folded) <|
  compareLex (compareOn CollationKey.swapped) (compareOn CollationKey.text)

/-- Compares two texts in collation order. -/
def collate (a b : String) : Ordering := (collationKey a).compare (collationKey b)

/-! ## Laws -/

instance : Std.TransCmp CollationKey.compare :=
  inferInstanceAs (Std.TransCmp (compareLex _ _))

theorem collate_swap (a b : String) : (collate a b).swap = collate b a :=
  (@Std.OrientedCmp.eq_swap _ CollationKey.compare _ (collationKey b) (collationKey a)).symm

theorem collate_trans {a b c : String} (h : (collate a b).isLE) (h' : (collate b c).isLE) :
    (collate a c).isLE :=
  @Std.TransCmp.isLE_trans _ CollationKey.compare _ _ _ _ h h'

/-- Only equal texts are listed at the same place. -/
theorem collate_eq_iff {a b : String} : collate a b = .eq ↔ a = b := by
  constructor
  · intro h
    simp only [collate, CollationKey.compare, compareLex, compareOn, Ordering.then_eq_eq] at h
    exact Std.LawfulEqOrd.eq_of_compare h.2.2.2
  · rintro rfl
    exact @Std.ReflCmp.compare_self _ CollationKey.compare _ _

end Bibliography
