import Bibliography.Layout.Basic
import Bibliography.Layout.FieldOrder
import Bibliography.Text.Lines

/-!
# Writing entries

An entry is written as its type and key, a line for every field, and a closing brace on a line of its
own. A text of several lines is indented anew, so that its lines begin below its first character; on
its own, without an indentation, it is written as it stands.

Main statements: arranging an entry changes nothing but the order of its fields
(`arrange_type`, `arrange_key`, `arrange_fields_perm`).
-/

namespace Bibliography

open Text

/-! ## §1 Values -/

/-- A text with every line but the first moved to an indentation. -/
def reindent (indent content : List Char) : List Char :=
  match breakLines content with
  | [] => []
  | first :: rest => joinWith ['\n'] (first :: rest.map fun line => indent ++ trimLeft line)

/-- A text as it is written at an indentation; without one it stays as it is. -/
def placeText (indent content : List Char) : List Char :=
  if indent.isEmpty then content else reindent indent content

mutual

/-- A value as it is written at an indentation. -/
def Value.render (d : Delimiters) (indent : List Char) : Value → List Char
  | .text content => d.left :: placeText indent content.toList ++ [d.right]
  | .number content => content.toList
  | .abbreviation content => content.toList
  | .concat parts => joinWith " # ".toList (Value.renderParts d indent parts)

/-- The parts of a value, each as it is written. -/
def Value.renderParts (d : Delimiters) (indent : List Char) : List Value → List (List Char)
  | [] => []
  | v :: vs => v.render d indent :: Value.renderParts d indent vs

end

/-! ## §2 Fields -/

/-- A number of blanks. -/
def spaces (n : Nat) : List Char := List.replicate n ' '

/-- What stands between the name of a field and its value. -/
def assignment : List Char := " = ".toList

namespace Layout

/-- The name of a field as it is shown. -/
def shownName (l : Layout) (name : List Char) : List Char :=
  match l.fieldCase with
  | .upper => upper name
  | .lower => name

/-- The width that the names of an entry are brought to; zero asks for none. -/
def nameWidth (l : Layout) (fields : List Field) : Nat :=
  if l.alignOnEqual then (fields.map (·.name.length)).foldl max 0 else 0

/-- The column of the first character of a text: after the tab, the name with its padding, the
equals sign and one delimiter. -/
def textIndent (l : Layout) (name : List Char) (padding : Nat) : List Char :=
  l.tab.toList ++ spaces (name.length + padding + assignment.length + 1)

/-- A field as it is written, after the names have been brought to a width. -/
def renderField (l : Layout) (width : Nat) (f : Field) : List Char :=
  let name := f.name.toList
  let padding := width - name.length
  l.tab.toList ++ l.shownName name ++ spaces padding ++ assignment
    ++ f.value.render l.delimiters (l.textIndent name padding)

/-! ## §3 Entries -/

/-- An entry with its fields in the order of the layout. -/
def arrange (l : Layout) (e : Entry) : Entry :=
  if l.sortFields then { e with fields := Bibliography.sortFields l.fieldsOrder e.fields } else e

/-- An entry as it is written. -/
def renderEntry (l : Layout) (e : Entry) : List Char :=
  let width := l.nameWidth e.fields
  '@' :: e.type.toList ++ '{' :: (e.key.getD "").toList
    ++ (l.arrange e).fields.flatMap (fun f => ',' :: '\n' :: l.renderField width f)
    ++ (if l.trailingComma then [','] else []) ++ ['\n', '}']

/-- An item as it is written; a block that is kept loses the blanks around it. -/
def renderItem (l : Layout) : Item → List Char
  | .entry e => l.renderEntry e
  | .verbatim v => trim v.raw.toList

theorem arrange_type (l : Layout) (e : Entry) : (l.arrange e).type = e.type := by
  simp only [arrange]; split <;> rfl

theorem arrange_key (l : Layout) (e : Entry) : (l.arrange e).key = e.key := by
  simp only [arrange]; split <;> rfl

theorem arrange_fields_perm (l : Layout) (e : Entry) : (l.arrange e).fields.Perm e.fields := by
  simp only [arrange]
  split
  · exact sortFields_perm _ _
  · exact List.Perm.refl _

end Layout

/-- An item after it has been written, with its fields in the order in which they were. -/
def Item.arrange (l : Layout) : Item → Item
  | .entry e => .entry (l.arrange e)
  | .verbatim v => .verbatim v

end Bibliography
