import Bibliography.Datum.Basic
import Bibliography.Decimal.Shortest
import Bibliography.Text.Numeral

/-!
# Written data

How a value is shown in a message: texts between quotation marks, collections between brackets with
a comma and a blank between the items, numbers in their shortest form; a collection within itself is
three dots between its brackets. As a key of a mapping or as
part of a sentence a text is shown bare, and days and times in the notation of the calendar.

A whole number with more digits than a decimal numeral may have is not written out, and neither is a
collection that holds one.
-/

namespace Bibliography

open Text Decimal

/-- The text of a whole number. -/
def intText (n : Int) : String := toString n

/-- A number in base ten with at least `width` digits. -/
def padded (width n : Nat) : String :=
  let digits := Nat.toDigits 10 n
  String.ofList (List.replicate (width - digits.length) '0' ++ digits)

/-! ## §1 Bytes and times -/

/-- A byte inside the quotation marks `mark`. -/
def quoteByte (mark : Char) (b : UInt8) : List Char :=
  let c := Char.ofNat b.toNat
  if c = '\\' ∨ c = mark then ['\\', c]
  else if c = '\t' then ['\\', 't']
  else if c = '\n' then ['\\', 'n']
  else if c = '\r' then ['\\', 'r']
  else if b < 32 || 127 ≤ b then '\\' :: 'x' :: hexDigits 2 b.toNat
  else [c]

/-- Bytes between quotation marks. -/
def quotedBytes (bytes : List UInt8) : String :=
  let mark := quoteMark (bytes.map fun b => Char.ofNat b.toNat)
  String.ofList ('b' :: mark :: bytes.flatMap (quoteByte mark) ++ [mark])

namespace Moment

/-- The parts of an offset: its sign, hours, minutes and seconds. -/
def offsetText (offset : Int) : String :=
  let n := offset.natAbs
  let seconds := if n % 60 = 0 then "" else ":" ++ padded 2 (n % 60)
  (if offset < 0 then "-" else "+") ++ padded 2 (n / 3600) ++ ":" ++ padded 2 (n / 60 % 60) ++ seconds

/-- The day and time in the notation of the calendar. -/
def calendarText (t : Moment) : String :=
  padded 4 t.year ++ "-" ++ padded 2 t.month ++ "-" ++ padded 2 t.day ++ " "
    ++ padded 2 t.hour ++ ":" ++ padded 2 t.minute ++ ":" ++ padded 2 t.second
    ++ (if t.microsecond = 0 then "" else "." ++ padded 6 t.microsecond)
    ++ (match t.offset with
      | none => ""
      | some offset => offsetText offset)

/-- A span of time as an expression. -/
def spanText (seconds : Int) : String :=
  let days := seconds.fdiv 86400
  let rest := seconds.fmod 86400
  let parts := (if days = 0 then [] else ["days=" ++ intText days])
    ++ (if rest = 0 then [] else ["seconds=" ++ intText rest])
  "datetime.timedelta(" ++ (if parts.isEmpty then "0" else ", ".intercalate parts) ++ ")"

/-- The zone of a time, as an expression. -/
def zoneText (offset : Int) : String :=
  if offset = 0 then "datetime.timezone.utc" else "datetime.timezone(" ++ spanText offset ++ ")"

/-- A time as an expression; seconds and fractions are left out where they are zero. -/
def expression (t : Moment) : String :=
  let tail := if t.microsecond ≠ 0 then [t.second, t.microsecond]
    else if t.second ≠ 0 then [t.second] else []
  let numbers := [t.year, t.month, t.day, t.hour, t.minute] ++ tail
  let zone := match t.offset with
    | none => []
    | some offset => ["tzinfo=" ++ zoneText offset]
  "datetime.datetime(" ++ ", ".intercalate (numbers.map toString ++ zone) ++ ")"

end Moment

/-! ## §2 Values -/

mutual

/-- A value as a message shows it. -/
def Datum.shown : Datum → String
  | .null => "None"
  | .bool value => if value then "True" else "False"
  | .int value => intText value
  | .float value => floatText value
  | .text value => quoted value
  | .bytes value => quotedBytes value
  | .date year month day =>
    "datetime.date(" ++ ", ".intercalate [toString year, toString month, toString day] ++ ")"
  | .moment value => value.expression
  | .list items => "[" ++ ", ".intercalate (Datum.shownItems items) ++ "]"
  | .tuple items =>
    match items with
    | [item] => "(" ++ item.shown ++ ",)"
    | items => "(" ++ ", ".intercalate (Datum.shownItems items) ++ ")"
  | .set items =>
    if items.isEmpty then "set()" else "\x7b" ++ ", ".intercalate (Datum.shownItems items) ++ "\x7d"
  | .map pairs => "\x7b" ++ ", ".intercalate (Datum.shownPairs pairs) ++ "\x7d"
  | .cycle ofMapping => if ofMapping then "\x7b...\x7d" else "[...]"

/-- The items of a collection, each as a message shows it. -/
def Datum.shownItems : List Datum → List String
  | [] => []
  | item :: items => item.shown :: Datum.shownItems items

/-- The pairs of a mapping, each as a message shows it. -/
def Datum.shownPairs : List (Datum × Datum) → List String
  | [] => []
  | (key, value) :: pairs => (key.shown ++ ": " ++ value.shown) :: Datum.shownPairs pairs

end

/-- A value as part of a sentence or as a key. -/
def Datum.bare : Datum → String
  | .text value => value
  | .date year month day => padded 4 year ++ "-" ++ padded 2 month ++ "-" ++ padded 2 day
  | .moment value => value.calendarText
  | value => value.shown

/-! ## §3 Values that are not written -/

/-- Why a value is not written out. -/
inductive WritingFault where
  | tooManyDigits
  deriving DecidableEq, Repr

/-- The message of a fault. -/
def WritingFault.message : WritingFault → String
  | .tooManyDigits =>
    "Exceeds the limit (" ++ toString maxDigits
      ++ " digits) for integer string conversion; use sys.set_int_max_str_digits() to increase the limit"

/-- The least whole number with too many digits. -/
def digitBound : Nat := Nat.pow 10 maxDigits

mutual

/-- Whether a value can be written out. -/
def Datum.isWritable : Datum → Bool
  | .int value => value.natAbs < digitBound
  | .list items => Datum.areWritable items
  | .tuple items => Datum.areWritable items
  | .set items => Datum.areWritable items
  | .map pairs => Datum.arePairsWritable pairs
  | _ => true

/-- Whether all items of a collection can be written out. -/
def Datum.areWritable : List Datum → Bool
  | [] => true
  | item :: items => item.isWritable && Datum.areWritable items

/-- Whether all keys and values of a mapping can be written out. -/
def Datum.arePairsWritable : List (Datum × Datum) → Bool
  | [] => true
  | (key, value) :: pairs => key.isWritable && value.isWritable && Datum.arePairsWritable pairs

end

end Bibliography
