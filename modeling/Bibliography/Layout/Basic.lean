/-!
# Layout

How an entry is written: the indentation of its fields, the delimiters around texts, the case of
field names, whether the last field is followed by a comma, whether the equals signs are aligned, and
whether and how the fields are reordered.
-/

namespace Bibliography

/-- The delimiters around texts. -/
inductive Delimiters where
  | braces
  | quotes
  deriving DecidableEq, Repr, Inhabited

/-- The opening delimiter. -/
def Delimiters.left : Delimiters → Char
  | .braces => '{'
  | .quotes => '"'

/-- The closing delimiter. -/
def Delimiters.right : Delimiters → Char
  | .braces => '}'
  | .quotes => '"'

/-- The case of field names. Lower case leaves the names as they are. -/
inductive FieldCase where
  | upper
  | lower
  deriving DecidableEq, Repr, Inhabited

/-- How an entry is written. -/
structure Layout where
  /-- What stands before every field. -/
  tab : String
  delimiters : Delimiters
  fieldCase : FieldCase
  trailingComma : Bool
  alignOnEqual : Bool
  sortFields : Bool
  /-- The names of the fields that come first when fields are sorted. -/
  fieldsOrder : List String
  deriving DecidableEq, Repr, Inhabited

/-- The layout that is used where nothing else is asked for. -/
def Layout.default : Layout where
  tab := "  "
  delimiters := .braces
  fieldCase := .lower
  trailingComma := false
  alignOnEqual := false
  sortFields := false
  fieldsOrder := []

end Bibliography
