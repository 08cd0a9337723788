import Bibliography.Text.Blank

/-!
# Lines

Three ways to see the lines of a text. Files end their lines with a line feed, a carriage return or
both in this order, and `unifyBreaks` turns all of them into line feeds. `splitOn` cuts at one
separator and `joinWith` undoes it. Messages end at any of the wider class of line boundaries.

Main statement: splitting and joining are inverse (`joinWith_splitOn`).
-/

namespace Bibliography.Text

/-! ## §1 Separators -/

/-- The parts of a text between the occurrences of a separator; there is always at least one. -/
def splitOn (sep : Char) : List Char → List (List Char)
  | [] => [[]]
  | c :: s =>
    if c = sep then [] :: splitOn sep s
    else match splitOn sep s with
      | [] => [[c]]
      | part :: parts => (c :: part) :: parts

/-- The parts of a text, joined by a separator. -/
def joinWith (sep : List Char) : List (List Char) → List Char
  | [] => []
  | [part] => part
  | part :: parts => part ++ sep ++ joinWith sep parts

/-- Every line break as a line feed. -/
def unifyBreaks : List Char → List Char
  | [] => []
  | '\r' :: '\n' :: s => '\n' :: unifyBreaks s
  | c :: s => (if c = '\r' then '\n' else c) :: unifyBreaks s

/-- The lines of a text, whichever line breaks it uses. -/
def breakLines (s : List Char) : List (List Char) := splitOn '\n' (unifyBreaks s)

/-! ## §2 Line boundaries of messages -/

/-- Whether a character ends a line of a message. -/
def isLineBoundary (c : Char) : Bool :=
  let n := c.toNat
  (0x0A ≤ n && n ≤ 0x0D) || (0x1C ≤ n && n ≤ 0x1E) || n == 0x85 || n == 0x2028 || n == 0x2029

/-- The text up to its first line boundary. -/
def firstLine (s : List Char) : List Char := s.takeWhile fun c => !isLineBoundary c

/-- The lines of a message; a boundary at the very end begins no further line. -/
def boundaryLines : List Char → List (List Char)
  | [] => []
  | '\r' :: '\n' :: s => [] :: boundaryLines s
  | c :: s =>
    if isLineBoundary c then [] :: boundaryLines s
    else match s, boundaryLines s with
      | [], _ => [[c]]
      | _, [] => [[c]]
      | _, line :: rest => (c :: line) :: rest

/-! ## §3 Laws -/

theorem splitOn_ne_nil (sep : Char) (s : List Char) : splitOn sep s ≠ [] := by
  cases s with
  | nil => simp [splitOn]
  | cons c s =>
    simp only [splitOn]
    split
    · simp
    · split <;> simp

theorem joinWith_cons_cons (sep part next : List Char) (parts : List (List Char)) :
    joinWith sep (part :: next :: parts) = part ++ sep ++ joinWith sep (next :: parts) := rfl

/-- Joining the parts of a text with the separator gives the text back. -/
theorem joinWith_splitOn (sep : Char) (s : List Char) : joinWith [sep] (splitOn sep s) = s := by
  induction s with
  | nil => rfl
  | cons c s ih =>
    by_cases h : c = sep
    · obtain ⟨part, parts, hs⟩ := List.exists_cons_of_ne_nil (splitOn_ne_nil sep s)
      rw [hs] at ih
      simp [splitOn, h, hs, joinWith_cons_cons, ih]
    · obtain ⟨part, parts, hs⟩ := List.exists_cons_of_ne_nil (splitOn_ne_nil sep s)
      rw [hs] at ih
      cases parts with
      | nil => simpa [splitOn, h, hs, joinWith] using ih
      | cons next rest => simpa [splitOn, h, hs, joinWith_cons_cons] using ih

end Bibliography.Text
