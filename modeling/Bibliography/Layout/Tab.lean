import Bibliography.Text.DigitTable

/-!
# Indentation

An indentation is asked for as `tab`, or as a number of spaces such as `4` or `4 spaces`. Digits of
any script are accepted; zeros of ASCII in front of the number do not count, and what is left may
have as many digits as the largest width, which is 64.
-/

namespace Bibliography

open Text

/-- The most spaces that can be asked for. -/
def maxTabWidth : Nat := 64

/-- The number that decimal digits denote; other characters count as zero. -/
def decimalNumber (digits : List Char) : Nat :=
  digits.foldl (fun n c => 10 * n + (decimalValue? c).getD 0) 0

/-- The digits of a specification such as `4` or `4 spaces`. -/
def tabDigits? (spec : List Char) : Option (List Char) :=
  let digits := spec.takeWhile fun c => (decimalValue? c).isSome
  let rest := spec.dropWhile fun c => (decimalValue? c).isSome
  if digits.isEmpty then none
  else if rest.isEmpty ∨ rest = " spaces".toList then some digits
  else none

/-- The number of spaces that digits ask for. -/
def tabWidth? (digits : List Char) : Option Nat :=
  let digits := digits.dropWhile (· == '0')
  if (toString maxTabWidth).length < digits.length then none
  else if maxTabWidth < decimalNumber digits then none
  else some (decimalNumber digits)

/-- The indentation that a specification asks for. -/
def parseTab? (spec : String) : Option String :=
  if spec = "tab" then some "\t"
  else do
    let digits ← tabDigits? spec.toList
    let width ← tabWidth? digits
    return String.ofList (List.replicate width ' ')

end Bibliography
