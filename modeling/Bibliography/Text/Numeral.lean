import Bibliography.Text.Blank
import Bibliography.Text.DigitTable
import Bibliography.Text.Quoted

/-!
# Numerals

Whole numbers in a base of at most sixteen, as they are read leniently: between blanks, with a sign,
with the mark of the base as in `0x`, and with digits of any script. A text is read as no number if it
has other characters, or if it is a decimal numeral with more digits than are accepted.

Main statement: a numeral of decimal digits of ASCII stands for the number that its digits add up to
(`readNumeral_of_digits`).
-/

namespace Bibliography.Text

/-- The most digits that a decimal numeral may have. -/
def maxDigits : Nat := 4300

/-- The most characters of a text that a message about it shows. -/
def maxShown : Nat := 200

/-- Why a text is no numeral. -/
inductive NumeralFault where
  | invalid (base : Nat) (text : List Char)
  | tooLong (digits : Nat)
  deriving DecidableEq, Repr

/-- The message of a fault. -/
def NumeralFault.message : NumeralFault → String
  | invalid base text =>
    "invalid literal for int() with base " ++ toString base ++ ": "
      ++ String.ofList ((quote text).take maxShown)
  | tooLong digits =>
    "Exceeds the limit (" ++ toString maxDigits
      ++ " digits) for integer string conversion: value has " ++ toString digits
      ++ " digits; use sys.set_int_max_str_digits() to increase the limit"

/-! ## §1 Parts -/

/-- Whether a character may stand around a numeral. -/
def isNumeralBlank (c : Char) : Bool :=
  if c.toNat < 128 then c == ' ' || ('\t' ≤ c && c ≤ '\r') else isBlank c

/-- The value of a digit in a base: a decimal digit of any script, or a letter of ASCII. -/
def digitIn? (base : Nat) (c : Char) : Option Nat :=
  (if c.isAlpha then some (c.toLower.toNat - 87) else decimalValue? c).filter (· < base)

/-- The text without a sign in front. -/
def dropSign : List Char → List Char
  | [] => []
  | c :: s => if c = '+' ∨ c = '-' then s else c :: s

/-- The letter that marks a base after a zero. -/
def baseMark? (base : Nat) : Option Char := [(2, 'b'), (8, 'o'), (16, 'x')].lookup base

/-- The text without the mark of a base in front. -/
def dropBaseMark (base : Nat) : List Char → List Char
  | zero :: mark :: s =>
    if decimalValue? zero = some 0 ∧ baseMark? base = some mark.toLower then s else zero :: mark :: s
  | s => s

/-- The number that digits in a base denote; other characters count as zero. -/
def numberIn (base : Nat) (digits : List Char) : Nat :=
  digits.foldl (fun n c => base * n + (digitIn? base c).getD 0) 0

/-! ## §2 Reading -/

/-- Reads a whole number in a base. -/
def readNumeral (base : Nat) (s : List Char) : Except NumeralFault Int :=
  let signed := s.dropWhile isNumeralBlank
  let unsigned := dropBaseMark base (dropSign signed)
  let digits := unsigned.takeWhile fun c => (digitIn? base c).isSome
  let rest := unsigned.dropWhile fun c => (digitIn? base c).isSome
  if base = 10 ∧ maxDigits < digits.length then .error (.tooLong digits.length)
  else if digits.isEmpty ∨ !rest.all isNumeralBlank then .error (.invalid base s)
  else if signed.head? = some '-' then .ok (-(numberIn base digits : Int))
  else .ok (numberIn base digits)

/-! ## §3 Digits of ASCII -/

/-- Helper: a decimal digit of ASCII is neither a letter nor a blank nor a sign. -/
private theorem of_isDigit {c : Char} (h : c.isDigit = true) :
    c.isAlpha = false ∧ isNumeralBlank c = false ∧ c ≠ '+' ∧ c ≠ '-' := by
  have key : ∀ n : Fin 128, (Char.ofNat n).isDigit = true →
      (Char.ofNat n).isAlpha = false ∧ isNumeralBlank (Char.ofNat n) = false
        ∧ Char.ofNat n ≠ '+' ∧ Char.ofNat n ≠ '-' := by decide
  have hc := key ⟨c.toNat, by have := toNat_of_isDigit h; omega⟩
  rw [Char.ofNat_toNat] at hc
  exact hc h

/-- Helper: a decimal digit of ASCII is a digit in base ten. -/
private theorem digitIn?_ten {c : Char} (h : c.isDigit = true) :
    digitIn? 10 c = some (c.toNat - 48) := by
  have hc := toNat_of_isDigit h
  simp [digitIn?, of_isDigit h, decimalValue?_of_lt (by omega : c.toNat < 128), h]
  omega

/-- Helper: base ten has no mark. -/
private theorem dropBaseMark_ten (s : List Char) : dropBaseMark 10 s = s := by
  have hMark : baseMark? 10 = none := by decide
  match s with
  | [] => rfl
  | [_] => rfl
  | _ :: _ :: _ => simp [dropBaseMark, hMark]

theorem readNumeral_of_digits {s : List Char} (hne : s ≠ []) (hs : ∀ c ∈ s, c.isDigit = true)
    (hlen : s.length ≤ maxDigits) : readNumeral 10 s = .ok (numberIn 10 s) := by
  obtain ⟨c, t, rfl⟩ := List.exists_cons_of_ne_nil hne
  obtain ⟨-, hBlank, hPlus, hMinus⟩ := of_isDigit (hs c List.mem_cons_self)
  have hStart : (c :: t).dropWhile isNumeralBlank = c :: t := by simp [hBlank]
  have hSign : dropSign (c :: t) = c :: t := by simp [dropSign, hPlus, hMinus]
  have hAll : ∀ d ∈ c :: t, (digitIn? 10 d).isSome = true := fun d hd => by
    simp [digitIn?_ten (hs d hd)]
  have hTake : (c :: t).takeWhile (fun d => (digitIn? 10 d).isSome) = c :: t := by
    simpa using @List.takeWhile_append_of_pos _ (fun d => (digitIn? 10 d).isSome) (c :: t) [] hAll
  have hDrop : (c :: t).dropWhile (fun d => (digitIn? 10 d).isSome) = [] := by
    simpa using @List.dropWhile_append_of_pos _ (fun d => (digitIn? 10 d).isSome) (c :: t) [] hAll
  simp only [readNumeral, hStart, hSign, dropBaseMark_ten, hTake, hDrop]
  simpa [hMinus] using hlen

end Bibliography.Text
