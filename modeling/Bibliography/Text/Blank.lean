/-!
# Blank characters

The characters with the Unicode property White_Space, together with the four information
separators U+001C to U+001F, count as blank. Everything that skips or removes white space in a
bibliography uses this one class.

Main statements: `trimLeft` keeps a text that does not begin with a blank
(`trimLeft_of_head`), and what it removes is blank (`takeWhile_blank_append_trimLeft`).
-/

namespace Bibliography.Text

/-- Whether a character is blank. -/
def isBlank (c : Char) : Bool :=
  let n := c.toNat
  (0x09 ≤ n && n ≤ 0x0D) || (0x1C ≤ n && n ≤ 0x20) || n == 0x85 || n == 0xA0 || n == 0x1680
    || (0x2000 ≤ n && n ≤ 0x200A) || n == 0x2028 || n == 0x2029 || n == 0x202F || n == 0x205F
    || n == 0x3000

/-! ## §1 Removing blanks at the ends -/

/-- The text without the blanks it begins with. -/
def trimLeft (s : List Char) : List Char := s.dropWhile isBlank

/-- The text without the blanks it ends with. -/
def trimRight (s : List Char) : List Char := (s.reverse.dropWhile isBlank).reverse

/-- The text without the blanks at either end. -/
def trim (s : List Char) : List Char := trimRight (trimLeft s)

/-- `trim` on strings. -/
def strip (s : String) : String := String.ofList (trim s.toList)

/-! ## §2 What is removed, and what stays -/

theorem takeWhile_blank_append_trimLeft (s : List Char) :
    s.takeWhile isBlank ++ trimLeft s = s :=
  List.takeWhile_append_dropWhile

theorem trimLeft_of_head {c : Char} {s : List Char} (h : isBlank c = false) :
    trimLeft (c :: s) = c :: s := by
  simp [trimLeft, h]

theorem length_trimLeft_le (s : List Char) : (trimLeft s).length ≤ s.length := by
  induction s with
  | nil => simp [trimLeft]
  | cons c s ih =>
    by_cases h : isBlank c = true
    · simpa [trimLeft, h] using Nat.le_succ_of_le ih
    · simp [trimLeft, h]

end Bibliography.Text
