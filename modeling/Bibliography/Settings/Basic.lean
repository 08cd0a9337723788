import Bibliography.Layout.Basic
import Bibliography.Order.Compare

/-!
# Settings

Everything that can be chosen about the formatting of a bibliography: the layout of its entries, the
order of its items, whether they are sorted at all, and what becomes of duplicates.
-/

namespace Bibliography

/-- What becomes of the duplicates in a sorted bibliography. -/
inductive DuplicatePolicy where
  | ignore
  | highlight
  | comment
  deriving DecidableEq, Repr, Inhabited

/-- The choices for a bibliography. -/
structure Settings where
  layout : Layout
  arrangement : Arrangement
  sortEntries : Bool
  duplicates : DuplicatePolicy
  deriving DecidableEq, Repr, Inhabited

/-- The settings where nothing is chosen. -/
def Settings.default : Settings where
  layout := .default
  arrangement := ⟨["key"], []⟩
  sortEntries := false
  duplicates := .highlight

/-! ## Names of the choices -/

/-- The name of a choice of delimiters. -/
def Delimiters.name : Delimiters → String
  | .braces => "Curly braces"
  | .quotes => "Quotation marks"

/-- The choices of delimiters. -/
def Delimiters.all : List Delimiters := [.braces, .quotes]

/-- The name of a choice of case. -/
def FieldCase.name : FieldCase → String
  | .upper => "UPPERCASE"
  | .lower => "lowercase"

/-- The choices of case. -/
def FieldCase.all : List FieldCase := [.upper, .lower]

/-- The name of a policy. -/
def DuplicatePolicy.name : DuplicatePolicy → String
  | .ignore => "Ignore Duplicates"
  | .highlight => "Highlight Duplicates"
  | .comment => "Comment Duplicates"

/-- The policies. -/
def DuplicatePolicy.all : List DuplicatePolicy := [.ignore, .highlight, .comment]

end Bibliography
