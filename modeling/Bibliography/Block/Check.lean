import Bibliography.Delimiter
import Bibliography.Text.LetterCase
import Bibliography.Text.Blank

/-!
# Checking a block

The grammar that a block must follow before it is read as an entry. The text of a block is scanned
once, character by character, by a machine that knows which part of a command it is in. Anything
before an at sign is passed over; a command is a name, an opening delimiter, a body and the closing
delimiter. The body of `comment` is passed over, `string` has a name and a value, `preamble` a value
and every other command a key and fields, with a comma after any of them that may be repeated or
missing.

A value is made of parts joined by number signs. A text in quotation marks ends at a mark outside
its braces, a text in braces at the matching brace, and no more than a hundred braces may be open
inside either. Fields of an entry must differ in name and entries of a block in key, whatever the
case of their letters.

A fault carries the line where it arises, which counts the line breaks that have been passed; the
breaks inside a text count from the next brace or closing mark on.
-/

namespace Bibliography.Check

open Text

/-! ## §1 Faults -/

/-- What a command needs at some place. -/
inductive Expected where
  | name
  | opening
  | key
  | equals
  | value
  | closing (closer : Char)
  deriving DecidableEq, Repr

/-- What can be wrong at a place of a block. -/
inductive Problem where
  | missing (what : Expected)
  | endOfText
  | unbalancedBraces
  | tooManyBraces
  deriving DecidableEq, Repr

/-- Why a block is refused. -/
inductive Fault where
  | at (line : Nat) (problem : Problem)
  | duplicateField (key name : List Char)
  | repeatedEntry (key : List Char)
  deriving DecidableEq, Repr

/-- The wording of what is needed. -/
def Expected.text : Expected → String
  | .name => "a valid name"
  | .opening => "'(' or '\x7b'"
  | .key => "entry key"
  | .equals => "'='"
  | .value => "field value"
  | .closing closer => "'" ++ String.ofList [closer] ++ "'"

/-- The wording of a problem. -/
def Problem.text : Problem → String
  | .missing what => what.text ++ " expected"
  | .endOfText => "premature end of file"
  | .unbalancedBraces => "unbalanced braces"
  | .tooManyBraces => "too many nested braces"

/-- The message of a fault. -/
def Fault.message : Fault → String
  | .at line problem => "syntax error in line " ++ toString line ++ ": " ++ problem.text
  | .duplicateField key name =>
    "entry with key " ++ String.ofList key ++ " has a duplicate " ++ String.ofList name ++ " field"
  | .repeatedEntry key => "repeated bibliography entry: " ++ String.ofList key

/-! ## §2 Characters -/

/-- The marks that may stand in a name; a low line or a grave accent among them. -/
def nameMarks : List Char :=
  "@!$&*+-./:;<>?[\\]^_|~\x7f".toList ++ [Char.ofNat 0x60]

/-- Whether a character can begin a name. -/
def isNameStart (c : Char) : Bool := c.isAlpha || nameMarks.contains c

/-- Whether a character can continue a name. -/
def isNameChar (c : Char) : Bool := isNameStart c || c.isDigit

/-- Whether a character can stand in the key of an entry that `closer` closes. -/
def isKeyChar (closer c : Char) : Bool := !(isBlank c || c == ',' || (c == '}' && closer == '}'))

/-! ## §3 The machine -/

/-- An entry as the check sees it: its key and the names of its fields. -/
structure Record where
  key : List Char
  names : List (List Char)
  deriving DecidableEq, Repr

/-- What the body of a command is. An entry holds the names of its fields so far, in reverse. -/
inductive Body where
  | string
  | preamble
  | entry (key : List Char) (names : List (List Char))
  deriving DecidableEq, Repr

/-- Where the machine is. Names and keys are gathered in reverse; `closer` is the delimiter that
closes the command. A text remembers how many braces are open and the line to report if the text
ends before it does. -/
inductive Mode where
  | outside
  | beforeName
  | inName (name : List Char)
  | beforeOpening (name : List Char)
  | beforeMacro (closer : Char)
  | inMacro (closer : Char)
  | beforeKey (closer : Char)
  | inKey (closer : Char) (key : List Char)
  | beforeField (closer : Char) (body : Body)
  | inField (closer : Char) (body : Body) (name : List Char)
  | beforeEquals (closer : Char) (body : Body)
  | beforePart (closer : Char) (body : Body)
  | inQuotes (closer : Char) (body : Body) (depth line : Nat)
  | inBraces (closer : Char) (body : Body) (depth line : Nat)
  | inNumber (closer : Char) (body : Body)
  | inAbbreviation (closer : Char) (body : Body)
  | afterPart (closer : Char) (body : Body)
  deriving DecidableEq, Repr

/-- The state between two characters. -/
structure State where
  mode : Mode
  line : Nat
  afterReturn : Bool
  records : List Record
  deriving DecidableEq, Repr

/-- The state before the first character. -/
def State.start : State := ⟨.outside, 1, false, []⟩

/-- The first name that occurs before, whatever the case of its letters. -/
def firstDuplicate? (seen : List (List Char)) : List (List Char) → Option (List Char)
  | [] => none
  | name :: names =>
    if seen.contains (lower name) then some name else firstDuplicate? (lower name :: seen) names

/-- The most braces that may be open inside a text. -/
def maxDepth : Nat := 100

namespace State

/-- Moves on to another mode. -/
def goto (st : State) (mode : Mode) : Except Fault State := .ok { st with mode := mode }

/-- Refuses the block. -/
def fail {α : Type} (st : State) (problem : Problem) : Except Fault α := .error (.at st.line problem)

/-- Ends a command. An entry must not repeat a field of its own, nor the key of an earlier one. -/
def finishCommand (st : State) : Body → Except Fault State
  | .string => st.goto .outside
  | .preamble => st.goto .outside
  | .entry key names =>
    -- within an entry names are told apart before the key is compared with the earlier ones
    match firstDuplicate? [] names.reverse with
    | some name => .error (.duplicateField key name)
    | none =>
      if st.records.any fun r => lower r.key == lower key then .error (.repeatedEntry key)
      else .ok { st with mode := .outside, records := st.records ++ [⟨key, names.reverse⟩] }

/-- A character where the closing delimiter of the command is due. -/
def atClosing (st : State) (closer : Char) (body : Body) (c : Char) : Except Fault State :=
  if c = closer then st.finishCommand body else st.fail (.missing (.closing closer))

/-- A character that is not blank, after the name of a command. -/
def atOpening (st : State) (name : List Char) (c : Char) : Except Fault State :=
  if c = '{' ∨ c = '(' then
    let kind := lower name.reverse
    if kind = "comment".toList then st.goto .outside
    else if kind = "string".toList then st.goto (.beforeMacro (closerOf c))
    else if kind = "preamble".toList then st.goto (.beforePart (closerOf c) .preamble)
    else st.goto (.beforeKey (closerOf c))
  else st.fail (.missing .opening)

/-- A character that is not blank, where a field of an entry may begin. -/
def atField (st : State) (closer : Char) (body : Body) (c : Char) : Except Fault State :=
  if isNameStart c then st.goto (.inField closer body [c])
  else if c = ',' then st.goto (.beforeField closer body)
  else st.atClosing closer body c

/-- A character that is not blank, after the name of a field. -/
def atEquals (st : State) (closer : Char) (body : Body) (c : Char) : Except Fault State :=
  if c = '=' then st.goto (.beforePart closer body) else st.fail (.missing .equals)

/-- A character that is not blank, where a part of a value is due. -/
def atPart (st : State) (closer : Char) (body : Body) (c : Char) : Except Fault State :=
  if c = '"' then st.goto (.inQuotes closer body 0 st.line)
  else if c = '{' then st.goto (.inBraces closer body 0 st.line)
  else if c.isDigit then st.goto (.inNumber closer body)
  else if isNameStart c then st.goto (.inAbbreviation closer body)
  else st.fail (.missing .value)

/-- A character that is not blank, after a part of a value. Only an entry goes on after a comma. -/
def atJoint (st : State) (closer : Char) (body : Body) (c : Char) : Except Fault State :=
  if c = '#' then st.goto (.beforePart closer body)
  else match body with
    | .entry _ _ =>
      if c = ',' then st.goto (.beforeField closer body) else st.atClosing closer body c
    | _ => st.atClosing closer body c

/-- A character inside a text in quotation marks. -/
def atQuoted (st : State) (closer : Char) (body : Body) (depth line : Nat) (c : Char) :
    Except Fault State :=
  -- the mark ends the text only outside its braces
  if c = '"' ∧ depth = 0 then st.goto (.afterPart closer body)
  else if c = '{' then
    if maxDepth ≤ depth then st.fail .tooManyBraces
    else st.goto (.inQuotes closer body (depth + 1) st.line)
  else if c = '}' then
    match depth with
    | 0 => st.fail .unbalancedBraces
    | depth + 1 => st.goto (.inQuotes closer body depth st.line)
  -- any other character belongs to the text, whose line stays that of its last brace
  else st.goto (.inQuotes closer body depth line)

/-- A character inside a text in braces. -/
def atBraced (st : State) (closer : Char) (body : Body) (depth line : Nat) (c : Char) :
    Except Fault State :=
  if c = '{' then
    if maxDepth ≤ depth then st.fail .tooManyBraces
    else st.goto (.inBraces closer body (depth + 1) st.line)
  else if c = '}' then
    match depth with
    | 0 => st.goto (.afterPart closer body)
    | depth + 1 => st.goto (.inBraces closer body depth st.line)
  else st.goto (.inBraces closer body depth line)

/-- A character after a token that has ended: blanks are skipped into `mode`, and anything else is
treated by `next`. -/
def skipBlank (st : State) (mode : Mode) (next : State → Char → Except Fault State) (c : Char) :
    Except Fault State :=
  if isBlank c then st.goto mode else next st c

/-- One character, after it has been counted. -/
def act (st : State) (c : Char) : Except Fault State :=
  match st.mode with
  | .outside => st.goto (if c = '@' then .beforeName else .outside)
  | .beforeName =>
    st.skipBlank .beforeName (fun st c =>
      if isNameStart c then st.goto (.inName [c]) else st.fail (.missing .name)) c
  -- each state of a token gathers it in reverse and acts on what ends it as the state behind it
  -- does
  | .inName name =>
    if isNameChar c then st.goto (.inName (c :: name))
    else st.skipBlank (.beforeOpening name) (fun st c => st.atOpening name c) c
  | .beforeOpening name =>
    st.skipBlank (.beforeOpening name) (fun st c => st.atOpening name c) c
  | .beforeMacro closer =>
    st.skipBlank (.beforeMacro closer) (fun st c =>
      if isNameStart c then st.goto (.inMacro closer) else st.fail (.missing .name)) c
  | .inMacro closer =>
    if isNameChar c then st.goto (.inMacro closer)
    else st.skipBlank (.beforeEquals closer .string) (fun st c => st.atEquals closer .string c) c
  | .beforeKey closer =>
    st.skipBlank (.beforeKey closer) (fun st c =>
      if isKeyChar closer c then st.goto (.inKey closer [c]) else st.fail (.missing .key)) c
  | .inKey closer key =>
    if isKeyChar closer c then st.goto (.inKey closer (c :: key))
    else
      -- the key is complete here, and so are the names of fields further below
      let body := Body.entry key.reverse []
      st.skipBlank (.beforeField closer body) (fun st c => st.atField closer body c) c
  | .beforeField closer body =>
    st.skipBlank (.beforeField closer body) (fun st c => st.atField closer body c) c
  | .inField closer body name =>
    if isNameChar c then st.goto (.inField closer body (c :: name))
    else
      let body := match body with
        | .entry key names => Body.entry key (name.reverse :: names)
        | body => body
      st.skipBlank (.beforeEquals closer body) (fun st c => st.atEquals closer body c) c
  | .beforeEquals closer body =>
    st.skipBlank (.beforeEquals closer body) (fun st c => st.atEquals closer body c) c
  | .beforePart closer body =>
    st.skipBlank (.beforePart closer body) (fun st c => st.atPart closer body c) c
  | .inQuotes closer body depth line => st.atQuoted closer body depth line c
  | .inBraces closer body depth line => st.atBraced closer body depth line c
  | .inNumber closer body =>
    if c.isDigit then st.goto (.inNumber closer body)
    else st.skipBlank (.afterPart closer body) (fun st c => st.atJoint closer body c) c
  | .inAbbreviation closer body =>
    if isNameChar c then st.goto (.inAbbreviation closer body)
    else st.skipBlank (.afterPart closer body) (fun st c => st.atJoint closer body c) c
  | .afterPart closer body =>
    st.skipBlank (.afterPart closer body) (fun st c => st.atJoint closer body c) c

/-- Counts a character: a line feed, a carriage return, or both in this order, is one break. -/
def count (st : State) (c : Char) : State :=
  let breaks := c = '\r' ∨ (c = '\n' ∧ !st.afterReturn)
  { st with line := if breaks then st.line + 1 else st.line, afterReturn := c = '\r' }

/-- One character. -/
def step (st : State) (c : Char) : Except Fault State := (st.count c).act c

/-- The end of the text, where only the space between commands may be. -/
def finish (st : State) : Except Fault (List Record) :=
  match st.mode with
  | .outside => .ok st.records
  | .inQuotes _ _ _ line => .error (.at line .endOfText)
  | .inBraces _ _ _ line => .error (.at line .endOfText)
  | _ => st.fail .endOfText

end State

/-- Runs the machine from a state. -/
def runFrom (st : State) (s : List Char) : Except Fault State := s.foldlM State.step st

/-- Checks the text of a block, and lists the entries that it holds. -/
def run (s : List Char) : Except Fault (List Record) := do
  (← runFrom .start s).finish

theorem runFrom_append (st : State) (s t : List Char) :
    runFrom st (s ++ t) = (runFrom st s).bind fun st => runFrom st t := by
  simp only [runFrom, List.foldlM_append]
  rfl

end Bibliography.Check
