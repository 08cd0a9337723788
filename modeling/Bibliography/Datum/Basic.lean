/-!
# Data

The values that options are given as, before anything is known about the options: what a
configuration file or a command line can hold. Mappings keep the order of their keys.
-/

namespace Bibliography

/-- A point in time: a calendar day, and the time of day where one is given. -/
structure Moment where
  year : Nat
  month : Nat
  day : Nat
  hour : Nat
  minute : Nat
  second : Nat
  microsecond : Nat
  /-- The seconds by which local time is ahead of universal time. -/
  offset : Option Int
  deriving DecidableEq, Repr

/-- A value of an option. -/
inductive Datum where
  | null
  | bool (value : Bool)
  | int (value : Int)
  | float (value : Float)
  | text (value : String)
  | bytes (value : List UInt8)
  | date (year month day : Nat)
  | moment (value : Moment)
  | list (items : List Datum)
  | tuple (items : List Datum)
  | set (items : List Datum)
  | map (pairs : List (Datum × Datum))
  /-- A mapping or a list that the value itself is a part of. -/
  | cycle (ofMapping : Bool)
  deriving Inhabited

namespace Datum

/-- The name of the kind of a value. -/
def kindName : Datum → String
  | null => "NoneType"
  | bool _ => "bool"
  | int _ => "int"
  | float _ => "float"
  | text _ => "str"
  | bytes _ => "bytes"
  | date .. => "date"
  | moment _ => "datetime"
  | list _ => "list"
  | tuple _ => "tuple"
  | set _ => "set"
  | map _ => "dict"
  | cycle ofMapping => if ofMapping then "dict" else "list"

/-- A value with a list in place of a tuple. -/
def listed : Datum → Datum
  | tuple items => list items
  | value => value

end Datum

/-! ## Ordered mappings -/

/-- A mapping with keys of text, in the order in which the keys were first given. -/
abbrev Options := List (String × Datum)

namespace Options

/-- The value of a key. -/
def find? (o : Options) (key : String) : Option Datum := o.lookup key

/-- Gives a key a value; a new key comes last, a known one keeps its place. -/
def put (o : Options) (key : String) (value : Datum) : Options :=
  if o.any (·.1 == key) then o.map fun p => if p.1 == key then (key, value) else p
  else o ++ [(key, value)]

/-- The mapping that a list of pairs describes when a later pair overrides an earlier one. -/
def ofPairs (pairs : List (String × Datum)) : Options :=
  pairs.foldl (fun o p => put o p.1 p.2) []

/-- The mapping without a key. -/
def takeOut (o : Options) (key : String) : Options := o.filter fun p => p.1 != key

/-- The mapping with other values put over its own; a value that is absent leaves it alone. -/
def overlay (o : Options) (overrides : List (String × Option Datum)) : Options :=
  overrides.foldl (fun o p =>
    match p.2 with
    | none => o
    | some value => o.put p.1 value.listed) o

end Options

end Bibliography
