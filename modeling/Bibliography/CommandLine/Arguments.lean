/-!
# Arguments

How the arguments of a program are read. An argument that begins with a dash gives options: one with
two dashes gives a long option, possibly with its value behind an equals sign; any other gives one
option for each of its letters, and what follows the letter of an option that takes a value is this
value. An option that has no value yet takes the next argument, whatever it looks like. After `--`
no argument gives options.

Main statement: arguments that give no options are all operands (`read_of_operands`).
-/

namespace Bibliography

/-- What is wrong with the arguments of a program. -/
inductive UsageFault where
  | noArguments
  | unknownOption (name : String)
  | valueNotTaken (name : String)
  | valueMissing (name : String)
  | noCommand
  | unknownCommand (name : String)
  | noFile
  | missingFile (path : String)
  | isDirectory (path : String)
  deriving DecidableEq, Repr

/-- The message of a fault. -/
def UsageFault.message : UsageFault → String
  | noArguments => "No arguments."
  | unknownOption name => "No such option: " ++ name
  | valueNotTaken name => "Option '" ++ name ++ "' does not take a value."
  | valueMissing name => "Option '" ++ name ++ "' requires an argument."
  | noCommand => "Missing command."
  | unknownCommand name => "No such command '" ++ name ++ "'."
  | noFile => "Missing argument 'FILE...'."
  | missingFile path => "File '" ++ path ++ "' does not exist."
  | isDirectory path => "File '" ++ path ++ "' is a directory."

/-- An option that was given, by its main name, with its value if it takes one. -/
structure GivenOption where
  name : String
  value : Option String
  deriving DecidableEq, Repr

/-- An option that can be given: its names, the main one first, and whether it takes a value. -/
structure OptionForm where
  names : List String
  takesValue : Bool
  deriving DecidableEq, Repr

namespace OptionForm

/-- The main name of an option. -/
def main (o : OptionForm) : String := o.names.headD ""

/-- The option with a name. -/
def find? (forms : List OptionForm) (name : String) : Option OptionForm :=
  forms.find? fun o => o.names.contains name

end OptionForm

/-- Options that an argument gives; the last of them may still wait for its value. -/
structure ReadArgument where
  given : List GivenOption
  waiting : Option OptionForm
  deriving DecidableEq, Repr

/-! ## §1 Single arguments -/

/-- Whether an argument gives options. -/
def givesOptions (arg : String) : Bool :=
  match arg.toList with
  | '-' :: _ :: _ => true
  | _ => false

/-- Reads the letters of short options. -/
def readShort (forms : List OptionForm) : List Char → Except UsageFault ReadArgument
  | [] => .ok ⟨[], none⟩
  | c :: rest =>
    let name := String.ofList ['-', c]
    match OptionForm.find? forms name with
    | none => .error (.unknownOption name)
    | some o =>
      -- a letter that takes a value takes the rest of its word, or else the next one
      if o.takesValue then
        if rest.isEmpty then .ok ⟨[], some o⟩
        else .ok ⟨[⟨o.main, some (String.ofList rest)⟩], none⟩
      else (readShort forms rest).map fun r => { r with given := ⟨o.main, none⟩ :: r.given }

/-- The parts of an argument before and behind its first equals sign, if it has one. -/
def splitValue (s : List Char) : List Char × Option (List Char) :=
  match s.dropWhile (· != '=') with
  | [] => (s, none)
  | _ :: value => (s.takeWhile (· != '='), some value)

/-- Reads an argument that gives options. Only a long name can be followed by an equals sign. -/
def readArgument (forms : List OptionForm) (arg : String) : Except UsageFault ReadArgument :=
  let (name, value?) := splitValue arg.toList
  let long? := if name.take 2 = ['-', '-'] then OptionForm.find? forms (String.ofList name) else none
  match long?, value? with
  | some o, some value =>
    if o.takesValue then .ok ⟨[⟨o.main, some (String.ofList value)⟩], none⟩
    else .error (.valueNotTaken o.main)
  | some o, none =>
    if o.takesValue then .ok ⟨[], some o⟩ else .ok ⟨[⟨o.main, none⟩], none⟩
  -- what begins with two dashes is never read letter by letter
  | none, _ =>
    if arg.toList.take 2 = ['-', '-'] then .error (.unknownOption (String.ofList name))
    else readShort forms (arg.toList.drop 1)

/-! ## §2 Lists of arguments -/

/-- Arguments that were read: the options in their order, and the operands. -/
structure Arguments where
  options : List GivenOption
  operands : List String
  deriving DecidableEq, Repr

namespace Arguments

/-- Reads arguments. Operands may stand between options if `mixed` says so; otherwise the first operand
ends the options. -/
def read (forms : List OptionForm) (mixed : Bool) : List String → Except UsageFault Arguments
  | [] => .ok ⟨[], []⟩
  | arg :: rest =>
    -- behind two dashes everything is an operand
    if arg = "--" then .ok ⟨[], rest⟩
    else if givesOptions arg then
      match readArgument forms arg with
      | .error fault => .error fault
      | .ok ⟨given, none⟩ =>
        (read forms mixed rest).map fun a => { a with options := given ++ a.options }
      -- the option waits for a value, whatever that looks like
      | .ok ⟨given, some o⟩ =>
        match rest with
        | [] => .error (.valueMissing o.main)
        | value :: rest =>
          (read forms mixed rest).map fun a =>
            { a with options := given ++ ⟨o.main, some value⟩ :: a.options }
    else if mixed then
      (read forms mixed rest).map fun a => { a with operands := arg :: a.operands }
    -- the first operand ends the options unless the two may be mixed
    else .ok ⟨[], arg :: rest⟩

/-- Whether an option was given. -/
def has (a : Arguments) (name : String) : Bool := a.options.any (·.name == name)

/-- How often an option was given. -/
def count (a : Arguments) (name : String) : Nat := (a.options.filter (·.name == name)).length

/-- The values that were given for an option. -/
def values (a : Arguments) (name : String) : List String :=
  a.options.filterMap fun o => if o.name == name then o.value else none

/-- The value that was given last. -/
def value? (a : Arguments) (name : String) : Option String := (a.values name).getLast?

/-- Which of two opposite options was given last. -/
def switch? (a : Arguments) (on off : String) : Option Bool :=
  (a.options.filterMap fun o =>
    if o.name == on then some true else if o.name == off then some false else none).getLast?

theorem read_of_operands (forms : List OptionForm) {args : List String}
    (h : ∀ arg ∈ args, givesOptions arg = false) : read forms true args = .ok ⟨[], args⟩ := by
  induction args with
  | nil => rfl
  | cons arg rest ih =>
    have ha := h arg List.mem_cons_self
    have hne : arg ≠ "--" := fun he => by rw [he] at ha; revert ha; decide
    rw [read.eq_def]
    simp [ha, hne, ih fun x hx => h x (List.mem_cons_of_mem _ hx), Except.map]

end Arguments

end Bibliography
