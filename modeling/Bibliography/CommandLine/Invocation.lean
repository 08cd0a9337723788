import Bibliography.CommandLine.Arguments
import Bibliography.Directory
import Bibliography.Settings.Options

/-!
# Invocations

What the arguments of the program ask for: help, or formatting some files. The options that concern
diagnostics stand before the command `format`, all others behind it. An option for a setting overrides
what a configuration file says about this setting; one that was not given overrides nothing.

Main statement: a setting is left alone exactly if none of its options was given
(`SettingForm.read_eq_none_iff`).
-/

namespace Bibliography

/-! ## §1 Options for settings -/

/-- How a setting is given on the command line. -/
inductive SettingForm where
  /-- By a text; the last one counts. -/
  | text (name : String)
  /-- By names, one for each time the option is given. -/
  | names (name : String)
  /-- By one of two opposite options; the last one counts. -/
  | switch (on off : String)
  deriving DecidableEq, Repr

/-- The settings with the options that give them. -/
def settingForms : List (Setting × SettingForm) :=
  [(.tab, .text "--tab"), (.surround, .text "--surround"), (.case, .text "--case"),
    (.trailingComma, .switch "--trailing-comma" "--no-trailing-comma"),
    (.sortBy, .names "--sort-by"), (.alignOnEqual, .switch "--align" "--no-align"),
    (.sortFields, .switch "--sort-fields" "--no-sort-fields"),
    (.fieldsOrder, .names "--fields-order"), (.firstEntries, .names "--first-entry"),
    (.sortEntries, .switch "--sort" "--no-sort"), (.handleDuplicates, .text "--duplicates")]

namespace SettingForm

/-- The options of a form. -/
def options : SettingForm → List OptionForm
  | text name => [⟨[name], true⟩]
  | names name => [⟨[name], true⟩]
  | switch on off => [⟨[on], false⟩, ⟨[off], false⟩]

/-- The value that arguments give for a setting, if they give one. -/
def read (a : Arguments) : SettingForm → Option Datum
  | text name => (a.value? name).map .text
  | names name =>
    match a.values name with
    | [] => none
    | given => some (.list (given.map .text))
  | switch on off => (a.switch? on off).map .bool

theorem read_eq_none_iff (a : Arguments) (form : SettingForm) : form.read a = none ↔
    ∀ o ∈ form.options, if o.takesValue then a.values o.main = [] else a.has o.main = false := by
  cases form with
  | text name => simp [read, options, Arguments.value?, OptionForm.main]
  | names name =>
    simp only [read, options, List.forall_mem_singleton, if_true, OptionForm.main, List.headD_cons]
    cases a.values name <;> simp
  | switch on off =>
    -- a given option says nothing about the setting if it is neither of the two
    have hneither (o : GivenOption) : (if o.name = on then some true
        else if o.name = off then some false else none) = none ↔ o.name ≠ on ∧ o.name ≠ off := by
      split
      · simp_all
      · split <;> simp_all
    simp [read, options, Arguments.switch?, Arguments.has, OptionForm.main, hneither, forall_and]

end SettingForm

/-- The spelling of a setting that wins over all others. -/
def Setting.optionName (s : Setting) : String := s.spellings.getLast?.getD ""

/-! ## §2 Commands -/

/-- What asks for help. -/
def helpForm : OptionForm := ⟨["--help"], false⟩

/-- The options before the command. -/
def programForms : List OptionForm :=
  [⟨["--verbose", "-v"], false⟩, ⟨["--debug"], false⟩, helpForm]

/-- The options of the command `format`. -/
def formatForms : List OptionForm :=
  [⟨["--config", "-c"], true⟩, ⟨["--in-place", "-i"], false⟩, ⟨["--check"], false⟩, helpForm]
    ++ settingForms.flatMap fun p => p.2.options

/-- Formatting some files. -/
structure Invocation where
  /-- How much detail is asked for. -/
  verbosity : Nat
  config : Option String
  inputs : List String
  overrides : List (String × Option Datum)
  /-- Whether the files are written, and not the standard output. -/
  inPlace : Bool
  /-- Whether it is only asked which files would change. -/
  check : Bool

/-- What the program is asked for. -/
inductive Command where
  | help
  | format (i : Invocation)

/-- The invocation that arguments before and behind the command give. -/
def Invocation.ofArguments (outer inner : Arguments) : Invocation where
  verbosity := outer.count "--verbose"
  config := inner.value? "--config"
  inputs := inner.operands
  overrides := settingForms.map fun p => (p.1.optionName, p.2.read inner)
  inPlace := inner.has "--in-place"
  check := inner.has "--check"

namespace Command

/-- Reads the arguments of the command `format`. -/
def parseFormat (outer : Arguments) (args : List String) : Except UsageFault Command := do
  let inner ← Arguments.read formatForms true args
  if inner.has "--help" then return help
  if inner.operands.isEmpty then throw .noFile
  return format (.ofArguments outer inner)

/-- Refuses a command that is not known; where options stand in its place, they may still ask for
help. -/
def parseUnknown (name : String) (args : List String) : Except UsageFault Command := do
  let again ← Arguments.read programForms false args
  if again.has "--help" then return help
  throw (.unknownCommand name)

/-- Reads the arguments of the program. -/
def parse (args : List String) : Except UsageFault Command := do
  if args.isEmpty then throw .noArguments
  let outer ← Arguments.read programForms false args
  if outer.has "--help" then return help
  match outer.operands with
  | [] => throw .noCommand
  | name :: rest => if name = "format" then parseFormat outer rest else parseUnknown name (name :: rest)

end Command

/-! ## §3 Paths -/

/-- Checks that a path leads to a file. -/
def Directory.checkFile (d : Directory) (path : String) : Except UsageFault Unit :=
  match d.find? path with
  | none => .error (.missingFile path)
  | some .directory => .error (.isDirectory path)
  | some _ => .ok ()

namespace Invocation

/-- The paths of the files that an invocation reads. -/
def paths (i : Invocation) : List String := i.config.toList ++ i.inputs

/-- An invocation with other paths. -/
def mapPaths (f : String → String) (i : Invocation) : Invocation :=
  { i with config := i.config.map f, inputs := i.inputs.map f }

/-- An invocation whose paths are taken from a directory; all of them must lead to files. -/
def locate (d : Directory) (base : String) (i : Invocation) : Except UsageFault Invocation := do
  let found := i.mapPaths (resolvePath base)
  found.paths.forM d.checkFile
  return found

end Invocation

end Bibliography
