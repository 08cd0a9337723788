import Bibliography.Directory
import Bibliography.Settings.Options
import Bibliography.Yaml.Load

/-!
# Configuration files

Options that stand in a file, written in YAML. They form a mapping, or a section of one; an empty file
gives none. Keys that are not texts count as what they are written as; a key that cannot be written out, or
a message about an option that cannot, is a fault of the whole file.
-/

namespace Bibliography

open Text

/-- The section that options may stand in. -/
def configSection : String := "bibsmith"

/-- Why a configuration file gives no options. -/
inductive ConfigFault where
  | unreadable (path : String) (fault : FileFault)
  | undecodable (fault : Utf8Fault)
  | notYaml (path : String) (fault : Yaml.Fault)
  | badScalar (fault : Yaml.ScalarFault)
  | notMapping (path kind : String)
  | unwritable (fault : WritingFault)
  deriving DecidableEq, Repr

namespace ConfigFault

/-- A fault with what led to it. -/
def failures : ConfigFault → List Failure
  | unreadable path fault =>
    Failure.causedBy "ConfigFileError"
      ("Failed to read configuration file '" ++ path ++ "': " ++ fault.message) fault.failure
  | undecodable fault => [(FileFault.undecodable fault).failure]
  | notYaml path fault =>
    Failure.causedBy "ConfigFileError"
      ("Invalid YAML in configuration file '" ++ path ++ "': " ++ fault.message)
      (.single "YAMLError" fault.message)
  | badScalar fault => [.single fault.kind fault.message]
  | notMapping path kind =>
    [.single "ConfigFileError"
      ("Configuration file '" ++ path ++ "' must contain a mapping of options, got " ++ kind ++ ".")]
  | unwritable fault => [.single "ValueError" fault.message]

/-- The kind of a fault. -/
def kind (f : ConfigFault) : String := (f.failures.head?.map (·.kind)).getD ""

/-- The message of a fault. -/
def message (f : ConfigFault) : String := (f.failures.head?.map (·.text)).getD ""

end ConfigFault

/-- The value of a text among the keys of a mapping. -/
def Datum.section? (pairs : List (Datum × Datum)) : Option Datum :=
  (pairs.find? fun p => match p.1 with
    | .text s => s == configSection
    | _ => false).map (·.2)

/-- The part of a mapping that holds the options: its section if it has one. -/
def Datum.optionPairs (pairs : List (Datum × Datum)) : List (Datum × Datum) :=
  match Datum.section? pairs with
  | some (.map own) => own
  | _ => pairs

/-- The options that a mapping gives, if its keys can be written out. -/
def Options.ofPayload (pairs : List (Datum × Datum)) : Except WritingFault Options :=
  let own := Datum.optionPairs pairs
  if (Datum.map own).hasWritableKeys then .ok (Options.ofMap own) else .error .tooManyDigits

/-- Reads the options in a file. -/
def Options.ofFile (d : Directory) (path : String) : Except ConfigFault Options :=
  match d.read path with
  | .error (.undecodable fault) => .error (.undecodable fault)
  | .error fault => .error (.unreadable path fault)
  | .ok text =>
    match Yaml.load text with
    | .error (.yaml fault) => .error (.notYaml path fault)
    | .error (.scalar fault) => .error (.badScalar fault)
    | .ok .null => .ok []
    | .ok (.map pairs) => (Options.ofPayload pairs).mapError .unwritable
    | .ok value => .error (.notMapping path value.kindName)

end Bibliography
