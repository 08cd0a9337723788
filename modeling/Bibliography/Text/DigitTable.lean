import Bibliography.Text.CharTable

/-!
# Digits

Two classes of digits: the decimal digits, which come in blocks of ten with the values zero to nine
in order, and the wider class of characters that stand for a digit, such as superscripts and circled
digits. Both tables hold the characters above U+007F (Unicode 14.0).

Main statements: on ASCII both classes are `0` to `9` (`isDigit_of_lt`,
`decimalValue?_of_lt`).
-/

namespace Bibliography.Text

/-- The characters above U+007F that stand for a digit. -/
def digitTable : CharSet := CharSet.ofText
  "B2-B3 B9 660-669 6F0-6F9 7C0-7C9 966-96F 9E6-9EF A66-A6F AE6-AEF B66-B6F BE6-BEF C66-C6F CE6-CEF
D66-D6F DE6-DEF E50-E59 ED0-ED9 F20-F29 1040-1049 1090-1099 1369-1371 17E0-17E9 1810-1819
1946-194F 19D0-19DA 1A80-1A89 1A90-1A99 1B50-1B59 1BB0-1BB9 1C40-1C49 1C50-1C59 2070 2074-2079
2080-2089 2460-2468 2474-247C 2488-2490 24EA 24F5-24FD 24FF 2776-277E 2780-2788 278A-2792
A620-A629 A8D0-A8D9 A900-A909 A9D0-A9D9 A9F0-A9F9 AA50-AA59 ABF0-ABF9 FF10-FF19 104A0-104A9
10A40-10A43 10D30-10D39 10E60-10E68 11052-1105A 11066-1106F 110F0-110F9 11136-1113F 111D0-111D9
112F0-112F9 11450-11459 114D0-114D9 11650-11659 116C0-116C9 11730-11739 118E0-118E9 11950-11959
11C50-11C59 11D50-11D59 11DA0-11DA9 16A60-16A69 16AC0-16AC9 16B50-16B59 1D7CE-1D7FF 1E140-1E149
1E2F0-1E2F9 1E950-1E959 1F100-1F10A 1FBF0-1FBF9"

/-- The decimal digits above U+007F, each interval made of runs from zero to nine. -/
def decimalTable : CharSet := CharSet.ofText
  "660-669 6F0-6F9 7C0-7C9 966-96F 9E6-9EF A66-A6F AE6-AEF B66-B6F BE6-BEF C66-C6F CE6-CEF D66-D6F
DE6-DEF E50-E59 ED0-ED9 F20-F29 1040-1049 1090-1099 17E0-17E9 1810-1819 1946-194F 19D0-19D9
1A80-1A89 1A90-1A99 1B50-1B59 1BB0-1BB9 1C40-1C49 1C50-1C59 A620-A629 A8D0-A8D9 A900-A909
A9D0-A9D9 A9F0-A9F9 AA50-AA59 ABF0-ABF9 FF10-FF19 104A0-104A9 10D30-10D39 11066-1106F 110F0-110F9
11136-1113F 111D0-111D9 112F0-112F9 11450-11459 114D0-114D9 11650-11659 116C0-116C9 11730-11739
118E0-118E9 11950-11959 11C50-11C59 11D50-11D59 11DA0-11DA9 16A60-16A69 16AC0-16AC9 16B50-16B59
1D7CE-1D7FF 1E140-1E149 1E2F0-1E2F9 1E950-1E959 1FBF0-1FBF9"

/-- Whether a character stands for a digit. -/
def isDigit (c : Char) : Bool :=
  if c.toNat < 128 then c.isDigit else digitTable.contains c

/-- The value of a decimal digit of any script. -/
def decimalValue? (c : Char) : Option Nat :=
  if c.toNat < 128 then
    if c.isDigit then some (c.toNat - 48) else none
  else
    match lastAtMost decimalTable.intervals c.toNat 0 decimalTable.intervals.size with
    | none => none
    | some (first, last) => if c.toNat ≤ last then some ((c.toNat - first) % 10) else none

/-- The code points of the decimal digits of ASCII. -/
theorem toNat_of_isDigit {c : Char} (h : c.isDigit = true) : 48 ≤ c.toNat ∧ c.toNat ≤ 57 := by
  simpa [Char.isDigit, UInt32.le_iff_toNat_le] using h

theorem isDigit_of_lt {c : Char} (h : c.toNat < 128) : isDigit c = c.isDigit := by
  simp [isDigit, h]

theorem decimalValue?_of_lt {c : Char} (h : c.toNat < 128) :
    decimalValue? c = if c.isDigit then some (c.toNat - 48) else none := by
  simp [decimalValue?, h]

end Bibliography.Text
