import Bibliography.Text.HiddenTable

/-!
# Quoted texts

A text between quotation marks, as messages show it. The marks are single unless the text holds
single marks and no double ones. A backslash and the mark in use are preceded by a backslash; tab,
line feed and carriage return have letters; every other hidden character is written by its number,
in two, four or eight digits in base sixteen.
-/

namespace Bibliography.Text

/-- A digit in base sixteen, in lower case. -/
def hexChar (n : Nat) : Char := if n < 10 then Char.ofNat (48 + n) else Char.ofNat (87 + n)

/-- The last `width` digits of a number in base sixteen. -/
def hexDigits : Nat → Nat → List Char
  | 0, _ => []
  | width + 1, n => hexDigits width (n / 16) ++ [hexChar (n % 16)]

/-- A character inside the marks `mark`. -/
def quoteChar (mark c : Char) : List Char :=
  if c = '\\' ∨ c = mark then ['\\', c]
  else if c = '\t' then ['\\', 't']
  else if c = '\n' then ['\\', 'n']
  else if c = '\r' then ['\\', 'r']
  else if isHidden c then
    if c.toNat < 0x100 then '\\' :: 'x' :: hexDigits 2 c.toNat
    else if c.toNat < 0x10000 then '\\' :: 'u' :: hexDigits 4 c.toNat
    else '\\' :: 'U' :: hexDigits 8 c.toNat
  else [c]

/-- The mark that a text is quoted with. -/
def quoteMark (s : List Char) : Char := if '\'' ∈ s ∧ '"' ∉ s then '"' else '\''

/-- A text between quotation marks. -/
def quote (s : List Char) : List Char :=
  quoteMark s :: s.flatMap (quoteChar (quoteMark s)) ++ [quoteMark s]

/-- `quote` on strings. -/
def quoted (s : String) : String := String.ofList (quote s.toList)

/-- A single character between quotation marks. -/
def quotedChar (c : Char) : String := String.ofList (quote [c])

end Bibliography.Text
