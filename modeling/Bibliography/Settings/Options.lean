import Bibliography.Datum.Written
import Bibliography.Layout.Tab
import Bibliography.Settings.Basic
import Bibliography.Text.Utf8

/-!
# Options

How settings are read from options. Each setting has one or two spellings; where an option is given
under both, the last spelling counts. Options are validated as a whole: either all values that are
given are accepted, or everything that is wrong with them is listed, in the order of the settings.
What is wrong is taken out of the options under every spelling and reported, and what is left is
validated again, so that a setting whose value is not accepted keeps its default. Unknown options are
passed over.

A message about an option shows its value; where a value cannot be written out, nothing is resolved.
-/

namespace Bibliography

open Text

/-! ## §1 The settings that can be given -/

/-- A setting that an option can give. -/
inductive Setting where
  | tab
  | surround
  | case
  | trailingComma
  | sortBy
  | alignOnEqual
  | sortFields
  | fieldsOrder
  | firstEntries
  | sortEntries
  | handleDuplicates
  deriving DecidableEq, Repr

namespace Setting

/-- The settings in the order in which they are read. -/
def all : List Setting :=
  [tab, surround, case, trailingComma, sortBy, alignOnEqual, sortFields, fieldsOrder, firstEntries,
    sortEntries, handleDuplicates]

/-- The spellings of a setting; the last one is preferred. -/
def spellings : Setting → List String
  | tab => ["tab"]
  | surround => ["surround"]
  | case => ["case"]
  | trailingComma => ["trailing_comma", "trailingComma"]
  | sortBy => ["sort", "sortby"]
  | alignOnEqual => ["align_on_equal", "alignOnEqual"]
  | sortFields => ["sort_fields", "sortFields"]
  | fieldsOrder => ["fields_order", "fieldsOrder"]
  | firstEntries => ["first_entries", "firstEntries"]
  | sortEntries => ["sort_entries", "sortEntries"]
  | handleDuplicates => ["handle_duplicates", "handleDuplicates"]

/-- The default of a setting, as it would be given. -/
def defaultDatum : Setting → Datum
  | tab => .text "2 spaces"
  | surround => .text Settings.default.layout.delimiters.name
  | case => .text Settings.default.layout.fieldCase.name
  | trailingComma => .bool Settings.default.layout.trailingComma
  | sortBy => .list (Settings.default.arrangement.sortBy.map .text)
  | alignOnEqual => .bool Settings.default.layout.alignOnEqual
  | sortFields => .bool Settings.default.layout.sortFields
  | fieldsOrder => .list (Settings.default.layout.fieldsOrder.map .text)
  | firstEntries => .list (Settings.default.arrangement.firstEntries.map .text)
  | sortEntries => .bool Settings.default.sortEntries
  | handleDuplicates => .text Settings.default.duplicates.name

end Setting

/-! ## §2 Rejections -/

/-- Why a value is rejected. -/
inductive Rejection where
  | tabNotText
  | tabNotPositive
  | notAmong (choices : List String)
  | notBool
  | unclearBool
  | notList
  | itemNotText
  | itemNotUnicode
  deriving DecidableEq, Repr

/-- Choices as a message lists them, with `or` before the last one. -/
def listChoices : List String → String
  | [] => ""
  | [a] => quoted a
  | [a, b] => quoted a ++ " or " ++ quoted b
  | a :: rest => quoted a ++ ", " ++ listChoices rest

/-- The message of a rejection. -/
def Rejection.message : Rejection → String
  | .tabNotText => "Value error, expected 'tab' or a number of spaces such as '4 spaces'"
  | .tabNotPositive => "Value error, expected 'tab' or a positive number of spaces such as '4 spaces'"
  | .notAmong choices => "Input should be " ++ listChoices choices
  | .notBool => "Input should be a valid boolean"
  | .unclearBool => "Input should be a valid boolean, unable to interpret input"
  | .notList => "Input should be a valid tuple"
  | .itemNotText => "Input should be a valid string"
  | .itemNotUnicode => "Input should be a valid string, unable to parse raw data as a unicode string"

/-- An option that was rejected. -/
inductive OptionIssue where
  /-- The options as a whole are neither absent nor a mapping. -/
  | notMapping (value : Datum)
  /-- An option, as it is spelled, does not suit its setting. -/
  | rejected (option : String) (value : Datum) (setting : Setting) (reason : Rejection)

namespace OptionIssue

/-- The option concerned. -/
def option : OptionIssue → String
  | notMapping _ => "<options>"
  | rejected option .. => option

/-- The value that was given. -/
def value : OptionIssue → Datum
  | notMapping value => value
  | rejected _ value .. => value

/-- The message of an issue. -/
def message : OptionIssue → String
  | notMapping value =>
    "Expected a mapping of formatting options, got " ++ value.kindName ++ ". Using default settings."
  | rejected option value setting reason =>
    "Wrong value for " ++ option ++ ": " ++ value.shown ++ " (" ++ reason.message ++ "). Setting "
      ++ option ++ " to " ++ setting.defaultDatum.shown ++ "."

end OptionIssue

/-! ## §3 Reading single values -/

/-- Reads an indentation: a tab or blanks stay what they are, everything else is a specification that
must ask for at least one character. -/
def readTab : Datum → Except Rejection String
  | .text s =>
    if s = "\t" ∨ (s ≠ "" ∧ s.toList.all (· == ' ')) then .ok s
    else match parseTab? s with
      | some t => if t = "" then .error .tabNotPositive else .ok t
      | none => .error .tabNotPositive
  | _ => .error .tabNotText

/-- Reads one of several named choices. -/
def readChoice {α : Type} (name : α → String) (choices : List α) : Datum → Except Rejection α
  | .text s =>
    match choices.find? (name · == s) with
    | some a => .ok a
    | none => .error (.notAmong (choices.map name))
  | _ => .error (.notAmong (choices.map name))

/-- The words that mean no, in lower case. -/
def falseWords : List String := ["0", "off", "f", "false", "n", "no"]

/-- The words that mean yes, in lower case. -/
def trueWords : List String := ["1", "on", "t", "true", "y", "yes"]

/-- Reads a word that means yes or no, whatever the case of its ASCII letters. -/
def readBoolWord (s : String) : Except Rejection Bool :=
  let word := s.map Char.toLower
  if falseWords.contains word then .ok false
  else if trueWords.contains word then .ok true
  else .error .unclearBool

/-- Reads a whole number that means yes or no. -/
def readBoolInt (n : Int) : Except Rejection Bool :=
  if n = 0 then .ok false else if n = 1 then .ok true else .error .unclearBool

/-- The number of whole numbers of 64 bits that are not negative. -/
def int64Bound : Int := 0x8000000000000000

/-- Reads a truth value. Numbers count within 64 bits, and floating-point ones only where they are
whole. -/
def readBool : Datum → Except Rejection Bool
  | .bool b => .ok b
  | .int n => if -int64Bound ≤ n ∧ n < int64Bound then readBoolInt n else .error .notBool
  | .float x =>
    match (Decimal.Parts.ofFloat x).whole? with
    | some n => if -int64Bound < n ∧ n < int64Bound then readBoolInt n else .error .notBool
    | none => .error .notBool
  | .text s => readBoolWord s
  | .bytes b =>
    match decodeUtf8 b with
    | .ok s => readBoolWord (String.ofList s)
    | .error _ => .error .unclearBool
  | _ => .error .notBool

/-- Reads an item of a list of names. -/
def readName : Datum → Except Rejection String
  | .text s => .ok s
  | .bytes b =>
    match decodeUtf8 b with
    | .ok s => .ok (String.ofList s)
    | .error _ => .error .itemNotUnicode
  | _ => .error .itemNotText

/-- Reads the items of a list of names, and tells of every item that is none why. -/
def readItems : List Datum → Except (List Rejection) (List String)
  | [] => .ok []
  | item :: items =>
    match readName item, readItems items with
    | .ok name, .ok names => .ok (name :: names)
    | .ok _, .error reasons => .error reasons
    | .error reason, .ok _ => .error [reason]
    | .error reason, .error reasons => .error (reason :: reasons)

/-- Reads a list of names. -/
def readNames : Datum → Except (List Rejection) (List String)
  | .list items => readItems items
  | .tuple items => readItems items
  | .set items => readItems items
  | _ => .error [.notList]

/-! ## §4 Settings and their values -/

namespace Setting

/-- The values of a setting. -/
abbrev Value : Setting → Type
  | tab => String
  | surround => Delimiters
  | case => FieldCase
  | trailingComma => Bool
  | sortBy => List String
  | alignOnEqual => Bool
  | sortFields => Bool
  | fieldsOrder => List String
  | firstEntries => List String
  | sortEntries => Bool
  | handleDuplicates => DuplicatePolicy

/-- The value that a setting has. -/
def get : (x : Setting) → Settings → x.Value
  | tab, s => s.layout.tab
  | surround, s => s.layout.delimiters
  | case, s => s.layout.fieldCase
  | trailingComma, s => s.layout.trailingComma
  | sortBy, s => s.arrangement.sortBy
  | alignOnEqual, s => s.layout.alignOnEqual
  | sortFields, s => s.layout.sortFields
  | fieldsOrder, s => s.layout.fieldsOrder
  | firstEntries, s => s.arrangement.firstEntries
  | sortEntries, s => s.sortEntries
  | handleDuplicates, s => s.duplicates

/-- Gives a setting a value. -/
def set (s : Settings) : (x : Setting) → x.Value → Settings
  | tab, a => { s with layout.tab := a }
  | surround, a => { s with layout.delimiters := a }
  | case, a => { s with layout.fieldCase := a }
  | trailingComma, a => { s with layout.trailingComma := a }
  | sortBy, a => { s with arrangement.sortBy := a }
  | alignOnEqual, a => { s with layout.alignOnEqual := a }
  | sortFields, a => { s with layout.sortFields := a }
  | fieldsOrder, a => { s with layout.fieldsOrder := a }
  | firstEntries, a => { s with arrangement.firstEntries := a }
  | sortEntries, a => { s with sortEntries := a }
  | handleDuplicates, a => { s with duplicates := a }

/-- Reads the value of a setting, or tells everything that is wrong with what is given. -/
def read (v : Datum) : (x : Setting) → Except (List Rejection) x.Value
  | tab => (readTab v).mapError ([·])
  | surround => (readChoice Delimiters.name Delimiters.all v).mapError ([·])
  | case => (readChoice FieldCase.name FieldCase.all v).mapError ([·])
  | trailingComma => (readBool v).mapError ([·])
  | sortBy => readNames v
  | alignOnEqual => (readBool v).mapError ([·])
  | sortFields => (readBool v).mapError ([·])
  | fieldsOrder => readNames v
  | firstEntries => readNames v
  | sortEntries => (readBool v).mapError ([·])
  | handleDuplicates => (readChoice DuplicatePolicy.name DuplicatePolicy.all v).mapError ([·])

/-- The value given for a setting, under its preferred spelling if both are there. -/
def given? (o : Options) (x : Setting) : Option Datum := x.spellings.reverse.findSome? o.find?

end Setting

/-! ## §5 Validation -/

/-- Something that is wrong with the value given for a setting. -/
structure ValueFault where
  setting : Setting
  reason : Rejection
  deriving DecidableEq, Repr

namespace Setting

/-- What is wrong with the value given for a setting. -/
def faults (o : Options) (x : Setting) : List ValueFault :=
  match x.given? o with
  | none => []
  | some v =>
    match x.read v with
    | .ok _ => []
    | .error reasons => reasons.map (⟨x, ·⟩)

/-- Gives a setting the value that options give for it, if they give one that is accepted. -/
def assign (o : Options) (s : Settings) (x : Setting) : Settings :=
  match x.given? o with
  | none => s
  | some v =>
    match x.read v with
    | .ok a => x.set s a
    | .error _ => s

end Setting

/-- Validates options: the settings that they give if all values are accepted, else everything that
is wrong, in the order of the settings. -/
def Options.validate (o : Options) : Except (List ValueFault) Settings :=
  match Setting.all.flatMap (Setting.faults o) with
  | [] => .ok (Setting.all.foldl (Setting.assign o) .default)
  | faults => .error faults

/-! ## §6 Resolving options -/

/-- Settings with the reports about the options that were not accepted. -/
structure Resolved where
  settings : Settings
  issues : List OptionIssue

/-- The options that are still to be accepted, and the reports about those that were taken out. -/
structure Attempt where
  options : Options
  issues : List OptionIssue

namespace Attempt

/-- Takes out an option and reports it, if it is there. -/
def drop (fault : ValueFault) (a : Attempt) (name : String) : Attempt :=
  match a.options.find? name with
  | none => a
  | some v => ⟨a.options.takeOut name, a.issues ++ [.rejected name v fault.setting fault.reason]⟩

/-- Takes out what is wrong under every spelling. -/
def reject (a : Attempt) (fault : ValueFault) : Attempt := fault.setting.spellings.foldl (drop fault) a

/-- Validates options until those that are left are accepted. Should nothing be there to be taken out,
the settings are the default ones. -/
def resolve (a : Attempt) : Resolved :=
  match a.options.validate with
  | .ok s => ⟨s, a.issues⟩
  | .error faults =>
    let next := faults.foldl reject a
    if next.options.length < a.options.length then next.resolve else ⟨.default, next.issues⟩
  termination_by a.options.length

end Attempt

/-- Reads the settings from options. -/
def Options.resolve (o : Options) : Resolved := Attempt.resolve ⟨o, []⟩

/-- The options that a mapping gives, its keys as texts. -/
def Options.ofMap (pairs : List (Datum × Datum)) : Options :=
  Options.ofPairs (pairs.map fun p => (p.1.bare, p.2))

/-- Reads the settings from a value that may be absent, and reports any other value than a mapping. -/
def Settings.load : Datum → Resolved
  | .null => Options.resolve []
  | .map pairs => (Options.ofMap pairs).resolve
  | value => { Options.resolve [] with issues := [.notMapping value] }

/-! ## §7 Telling the issues -/

/-- Whether the message of an issue can be written out. -/
def OptionIssue.isWritable : OptionIssue → Bool
  | .notMapping _ => true
  | .rejected _ value _ _ => value.isWritable

/-- What has been resolved, unless the message of an issue cannot be written out. -/
def Resolved.told (r : Resolved) : Except WritingFault Resolved :=
  if r.issues.all OptionIssue.isWritable then .ok r else .error .tooManyDigits

/-- Whether the keys of a mapping can be written out. -/
def Datum.hasWritableKeys : Datum → Bool
  | .map pairs => pairs.all (·.1.isWritable)
  | _ => true

/-- Reads the settings from a value, unless a key or a message cannot be written out. -/
def Settings.loadTold (v : Datum) : Except WritingFault Resolved :=
  if v.hasWritableKeys then (Settings.load v).told else .error .tooManyDigits

end Bibliography
