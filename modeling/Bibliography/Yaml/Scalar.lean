import Bibliography.Datum.Written
import Bibliography.Decimal.Nearest
import Bibliography.Layout.Tab
import Bibliography.Text.LetterCase
import Bibliography.Text.Lines
import Bibliography.Text.Numeral
import Bibliography.Yaml.Node

/-!
# Scalars of YAML

What a plain scalar stands for: nothing, a truth value, a number, a point in time or a text. The
notations are those of the type repository of YAML 1.1, where `yes` and `on` are truth values, `010`
is octal and `1:30` counts in sixties.
-/

namespace Bibliography.Yaml

open Text

/-! ## §1 Kinds -/

/-- What a scalar stands for. -/
inductive ScalarKind where
  | null
  | bool
  | int
  | float
  | merge
  | value
  | timestamp
  | bytes
  | text
  deriving DecidableEq, Repr

/-- Why the text of a scalar has no value, in the words of the notation it fails. -/
structure ScalarFault where
  kind : String
  message : String
  deriving DecidableEq, Repr

/-- The words that stand for nothing. -/
def nullWords : List String := ["", "~", "null", "Null", "NULL"]

/-- The words that mean yes. -/
def yesWords : List String := ["yes", "Yes", "YES", "true", "True", "TRUE", "on", "On", "ON"]

/-- The words that mean no. -/
def noWords : List String := ["no", "No", "NO", "false", "False", "FALSE", "off", "Off", "OFF"]

/-- Whether a character is a digit or the low line. -/
def isDigitOrLine (c : Char) : Bool := c.isDigit || c == '_'

/-- What follows an ASCII digit and further digits and low lines, if the text begins with one. -/
def afterDigits? : List Char → Option (List Char)
  | [] => none
  | c :: s => if c.isDigit then some (s.dropWhile isDigitOrLine) else none

/-- What follows groups such as `:05` of numbers below sixty, if there is at least one. -/
def afterSixties? : Nat → List Char → Option (List Char)
  | 0, _ => none
  | fuel + 1, s =>
    let group? : Option (List Char) := match s with
      | ':' :: a :: b :: rest =>
        if a.isDigit && b.isDigit then if a ≤ '5' then some rest else some (b :: rest)
        else if a.isDigit then some (b :: rest) else none
      | [':', a] => if a.isDigit then some [] else none
      | _ => none
    group?.bind fun rest => if rest.head? = some ':' then afterSixties? fuel rest else some rest

/-- Whether a text is an exponent with a sign. -/
def isExponent : List Char → Bool
  | e :: sign :: digits =>
    (e == 'e' || e == 'E') && (sign == '-' || sign == '+') && !digits.isEmpty
      && digits.all Char.isDigit
  | _ => false

/-- Whether a text is a whole number. -/
def isInt (s : List Char) : Bool :=
  match dropSign s with
  | '0' :: 'b' :: rest => !rest.isEmpty && rest.all fun c => c == '0' || c == '1' || c == '_'
  | '0' :: 'x' :: rest => !rest.isEmpty && rest.all fun c => scanTagText.isHex c || c == '_'
  | '0' :: rest => rest.all fun c => ('0' ≤ c && c ≤ '7') || c == '_'
  | c :: rest =>
    c.isDigit && (match rest.dropWhile isDigitOrLine with
      | [] => true
      | rest => afterSixties? rest.length rest == some [])
  | [] => false

/-- Whether a text is a number with a point, or one of the numbers that are none. -/
def isFloat (s : List Char) : Bool :=
  let unsigned := dropSign s
  let tail (rest : List Char) : Bool :=
    let rest := rest.dropWhile isDigitOrLine
    rest.isEmpty || isExponent rest
  let words (names : List String) (s : List Char) : Bool := names.contains (String.ofList s)
  (match afterDigits? unsigned with
    | some ('.' :: rest) => tail rest
    | some rest =>
      (match afterSixties? rest.length rest with
        | some ('.' :: rest) => rest.all isDigitOrLine
        | _ => false)
    | none => false)
  || (match s with
    | '.' :: c :: rest => c.isDigit && tail rest
    | _ => false)
  || words [".inf", ".Inf", ".INF"] unsigned || words [".nan", ".NaN", ".NAN"] s

/-! ## §2 Points in time -/

/-- A text split into its first one or two digits and the rest. -/
def oneOrTwo? : List Char → Option (List Char × List Char)
  | a :: b :: rest =>
    if a.isDigit then if b.isDigit then some ([a, b], rest) else some ([a], b :: rest) else none
  | [a] => if a.isDigit then some ([a], []) else none
  | [] => none

/-- A text split into its first two digits and the rest. -/
def two? (s : List Char) : Option (List Char × List Char) :=
  (oneOrTwo? s).filter (·.1.length = 2)

/-- The rest of a text after a character. -/
def after? (c : Char) : List Char → Option (List Char)
  | [] => none
  | d :: s => if c = d then some s else none

/-- The digits of a timestamp. -/
structure TimeDigits where
  year : List Char
  month : List Char
  day : List Char
  /-- Hour, minute, second and the digits of the fraction. -/
  time : Option (List Char × List Char × List Char × List Char)
  /-- The zone: none, universal time, or a sign with hours and minutes. -/
  zone : Option (Option (Char × List Char × List Char))
  deriving Repr

/-- Reads the zone of a timestamp. -/
def readZone? (s : List Char) : Option (Option (Option (Char × List Char × List Char))) :=
  match s.dropWhile fun c => c == ' ' || c == '\t' with
  | [] => if s.isEmpty then some none else none
  | ['Z'] => some (some none)
  | sign :: rest =>
    if sign = '+' ∨ sign = '-' then do
      let (hour, rest) ← oneOrTwo? rest
      if rest.isEmpty then return some (some (sign, hour, []))
      let (minute, rest) ← two? (← after? ':' rest)
      if rest.isEmpty then return some (some (sign, hour, minute)) else none
    else none

/-- Reads the digits of a timestamp. -/
def readTimestamp? (s : List Char) : Option TimeDigits := do
  let year := s.take 4
  if year.length ≠ 4 ∨ !year.all Char.isDigit then none
  let (month, rest) ← oneOrTwo? (← after? '-' (s.drop 4))
  let (day, rest) ← oneOrTwo? (← after? '-' rest)
  if rest.isEmpty then return ⟨year, month, day, none, none⟩
  let isBlank (c : Char) : Bool := c == ' ' || c == '\t'
  let rest ← match rest with
    | c :: tail =>
      if c = 'T' ∨ c = 't' then some tail
      else if isBlank c then some (tail.dropWhile isBlank)
      else none
    | [] => none
  let (hour, rest) ← oneOrTwo? rest
  let (minute, rest) ← two? (← after? ':' rest)
  let (second, rest) ← two? (← after? ':' rest)
  let (fraction, rest) := match rest with
    | '.' :: tail => (tail.takeWhile Char.isDigit, tail.dropWhile Char.isDigit)
    | rest => ([], rest)
  let zone ← readZone? rest
  return ⟨year, month, day, some (hour, minute, second, fraction), zone⟩

/-- Whether a text is a timestamp; a day alone needs two digits for its month and for itself. -/
def isTimestamp (s : List Char) : Bool :=
  match readTimestamp? s with
  | none => false
  | some t => t.time.isSome || (t.month.length == 2 && t.day.length == 2)

/-- What a plain scalar stands for. -/
def ScalarKind.ofText (text : String) : ScalarKind :=
  let s := text.toList
  if nullWords.contains text then .null
  else if yesWords.contains text ∨ noWords.contains text then .bool
  else if isFloat s then .float
  else if isInt s then .int
  else if text = "<<" then .merge
  else if text = "=" then .value
  else if isTimestamp s then .timestamp
  else .text

/-! ## §3 Values -/

/-- The fault of a text that is no numeral. -/
def ScalarFault.ofNumeral (fault : NumeralFault) : ScalarFault := ⟨"ValueError", fault.message⟩

/-- The fault of a number without any character. -/
def noCharacters : ScalarFault := ⟨"IndexError", "string index out of range"⟩

/-- The number that parts stand for of which each counts sixty times the next. -/
def readSixties (s : List Char) : Except NumeralFault Int := do
  let parts ← (splitOn ':' s).mapM (readNumeral 10)
  return parts.foldl (fun n part => 60 * n + part) 0

/-- Reads a whole number. -/
def readInt (s : List Char) : Except ScalarFault Int := do
  let s := s.filter (· != '_')
  if s.isEmpty then throw noCharacters
  let unsigned := dropSign s
  let n ← (match unsigned with
    | [] => throw noCharacters
    | '0' :: 'b' :: rest => (readNumeral 2 rest).mapError .ofNumeral
    | '0' :: 'x' :: rest => (readNumeral 16 rest).mapError .ofNumeral
    | ['0'] => return 0
    | '0' :: rest => (readNumeral 8 ('0' :: rest)).mapError .ofNumeral
    | s => (if ':' ∈ s then readSixties s else readNumeral 10 s).mapError .ofNumeral :
      Except ScalarFault Int)
  return if s.head? = some '-' then -n else n

/-- The decimal that a text is, without a sign: digits with an optional point and exponent. -/
def decimal? (s : List Char) : Option Decimal.Numeral := do
  let isDecimal (c : Char) : Bool := (decimalValue? c).isSome
  let whole := s.takeWhile isDecimal
  let rest := s.dropWhile isDecimal
  let (fraction, rest) := match rest with
    | '.' :: tail => (tail.takeWhile isDecimal, tail.dropWhile isDecimal)
    | rest => ([], rest)
  let exponent : Int ← match rest with
    | [] => some 0
    | e :: tail =>
      let digits := dropSign tail
      if e.toLower = 'e' ∧ !digits.isEmpty ∧ digits.all isDecimal then
        some (if tail.head? = some '-' then -(numberIn 10 digits : Int) else numberIn 10 digits)
      else none
  let digits := whole ++ fraction
  if digits.isEmpty then none else return ⟨numberIn 10 digits, exponent - fraction.length⟩

/-- Reads a decimal between blanks, or a word for one of the numbers that are none. -/
def readDecimal (s : List Char) : Except ScalarFault Float :=
  let inner := ((s.dropWhile isNumeralBlank).reverse.dropWhile isNumeralBlank).reverse
  let signed (x : Float) : Float := if inner.head? = some '-' then -x else x
  let unsigned := dropSign inner
  let word := String.ofList (unsigned.map Char.toLower)
  if word = "inf" ∨ word = "infinity" then .ok (signed (1.0 / 0.0))
  else if word = "nan" then .ok (0.0 / 0.0)
  else match decimal? unsigned with
    | some d => .ok (signed d.nearest)
    | none =>
      .error ⟨"ValueError", "could not convert string to float: " ++ String.ofList (quote s)⟩

/-- Reads a number with a point, or one of the numbers that are none. -/
def readFloat (s : List Char) : Except ScalarFault Float := do
  let s := lower (s.filter (· != '_'))
  if s.isEmpty then throw noCharacters
  let signed (x : Float) : Float := if s.head? = some '-' then -x else x
  let unsigned := dropSign s
  if unsigned = ".inf".toList then return signed (1.0 / 0.0)
  else if unsigned = ".nan".toList then return 0.0 / 0.0
  else if ':' ∈ unsigned then
    let parts ← (splitOn ':' unsigned).mapM readDecimal
    let (total, _) := parts.reverse.foldl
      -- each part behind a colon counts sixty times less than the one before
      (fun (p : Float × Nat) part => (p.1 + part * Float.ofNat p.2, p.2 * 60)) (0.0, 1)
    return signed total
  else return signed (← readDecimal unsigned)

/-- Whether a year has a day more in February. -/
def isLeap (year : Nat) : Bool := year % 4 == 0 && (year % 100 != 0 || year % 400 == 0)

/-- The number of days in a month. -/
def daysIn (year month : Nat) : Nat :=
  if month = 2 then if isLeap year then 29 else 28
  else if month = 4 ∨ month = 6 ∨ month = 9 ∨ month = 11 then 30
  else 31

/-- The number of days from the first day of the calendar to a day. -/
def dayNumber (year month day : Nat) : Nat :=
  let past := year - 1
  let months := (List.range (month - 1)).foldl (fun n m => n + daysIn year (m + 1)) 0
  365 * past + past / 4 - past / 100 + past / 400 + months + (day - 1)

/-- The microseconds of universal time from the beginning of the calendar, where a zone is given. -/
def instant? (t : Moment) : Option Int :=
  t.offset.map fun offset =>
    let minutes := (dayNumber t.year t.month t.day * 24 + t.hour) * 60 + t.minute
    (((minutes * 60 + t.second : Nat) : Int) - offset) * 1000000 + t.microsecond

/-- Reads a timestamp, which a line feed may end. -/
def readTime (s : List Char) : Except ScalarFault Datum := do
  let fault (message : String) : ScalarFault := ⟨"ValueError", message⟩
  let line := if s.getLast? = some '\n' then s.dropLast else s
  match readTimestamp? line with
  | none => throw ⟨"AttributeError", "'NoneType' object has no attribute 'groupdict'"⟩
  | some t =>
    let year := decimalNumber t.year
    let month := decimalNumber t.month
    let day := decimalNumber t.day
    let checkDay : Except ScalarFault Unit := do
      -- a date is checked from the year on, and only then the time of the day
      if year < 1 then throw (fault ("year " ++ toString year ++ " is out of range"))
      if month < 1 ∨ 12 < month then throw (fault "month must be in 1..12")
      if day < 1 ∨ daysIn year month < day then throw (fault "day is out of range for month")
    match t.time with
    | none =>
      checkDay
      return .date year month day
    | some (hour, minute, second, fraction) =>
      let offset ← (match t.zone with
        | none => pure none
        | some none => pure (some 0)
        | some (some (sign, hours, minutes)) => do
          let n : Int := decimalNumber hours * 3600 + decimalNumber minutes * 60
          let n := if sign = '-' then -n else n
          -- a zone lies less than a day away
          if 86400 ≤ n.natAbs then
            throw (fault ("offset must be a timedelta strictly between "
              ++ "-timedelta(hours=24) and timedelta(hours=24), not " ++ Moment.spanText n ++ "."))
          pure (some n) : Except ScalarFault (Option Int))
      checkDay
      let hour := decimalNumber hour
      let minute := decimalNumber minute
      let second := decimalNumber second
      if 23 < hour then throw (fault "hour must be in 0..23")
      if 59 < minute then throw (fault "minute must be in 0..59")
      if 59 < second then throw (fault "second must be in 0..59")
      -- a second has six decimals, and further ones are cut off
      let digits := fraction.take 6
      let micro := decimalNumber (digits ++ List.replicate (6 - digits.length) '0')
      return .moment ⟨year, month, day, hour, minute, second, micro, offset⟩

/-- Reads a truth value. -/
def readBool (text : String) : Except ScalarFault Datum :=
  let word := String.ofList (lower text.toList)
  if ["yes", "true", "on"].contains word then .ok (.bool true)
  else if ["no", "false", "off"].contains word then .ok (.bool false)
  else .error ⟨"KeyError", quoted word⟩

/-! ## §4 Bytes -/

/-- The value of a digit in base 64. -/
def base64Digit? (c : Char) : Option Nat :=
  if 'A' ≤ c && c ≤ 'Z' then some (c.toNat - 65)
  else if 'a' ≤ c && c ≤ 'z' then some (c.toNat - 71)
  else if c.isDigit then some (c.toNat + 4)
  else if c = '+' then some 62
  else if c = '/' then some 63
  else none

/-- The bytes of a group of digits in base 64, which is full with four. -/
def groupBytes : List Nat → List UInt8
  | [a, b] => [(a * 4 + b / 16).toUInt8]
  | [a, b, c] => [(a * 4 + b / 16).toUInt8, (b % 16 * 16 + c / 4).toUInt8]
  | [a, b, c, d] =>
    [(a * 4 + b / 16).toUInt8, (b % 16 * 16 + c / 4).toUInt8, (c % 4 * 64 + d).toUInt8]
  | _ => []

/-- The bytes of a text in base 64, given the digits of the group that has begun and how many marks
fill it up. Characters of other kinds are passed over, and so is all that follows a filled group. -/
def base64Bytes? (group : List Nat) (filled : Nat) : List Char → Option (List UInt8)
  | [] => if group.isEmpty then some [] else none
  | c :: s =>
    if c = '=' then
      -- one digit makes no byte, and the marks behind it are passed over
      if group.length < 2 then base64Bytes? group filled s
      else if 4 ≤ group.length + filled + 1 then some (groupBytes group)
      else base64Bytes? group (filled + 1) s
    else match base64Digit? c with
      | none => base64Bytes? group filled s
      | some digit =>
        if group.length < 3 then base64Bytes? (group ++ [digit]) 0 s
        else (base64Bytes? [] 0 s).map (groupBytes (group ++ [digit]) ++ ·)

/-- Reads bytes in base 64. -/
def readBytes? (s : List Char) : Option (List UInt8) :=
  if s.any fun c => 127 < c.toNat then none else base64Bytes? [] 0 s

end Bibliography.Yaml
