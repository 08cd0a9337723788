import Bibliography.Text.BaseLetterTable

/-!
# Base letters

A text without its accents: every character is decomposed by compatibility, and the characters
with a non-zero combining class are dropped. Reordering the marks of a decomposition therefore
never shows, and each character can be treated on its own.
-/

namespace Bibliography.Text

/-- The conjoining letters of a Hangul syllable, given its number among the syllables. -/
def hangulLetters (n : Nat) : List Char :=
  let initial := Char.ofNat (0x1100 + n / 588)
  let vowel := Char.ofNat (0x1161 + n % 588 / 28)
  if n % 28 = 0 then [initial, vowel] else [initial, vowel, Char.ofNat (0x11A7 + n % 28)]

/-- What is left of a character without its marks. -/
def baseLetters (c : Char) : List Char :=
  if c.toNat < 128 then [c]
  else if 0xAC00 ≤ c.toNat ∧ c.toNat ≤ 0xD7A3 then hangulLetters (c.toNat - 0xAC00)
  else baseLetterTable.apply c

/-- A text without its accents. -/
def stripAccents (s : List Char) : List Char := s.flatMap baseLetters

theorem baseLetters_of_lt {c : Char} (h : c.toNat < 128) : baseLetters c = [c] := by
  simp [baseLetters, h]

end Bibliography.Text
