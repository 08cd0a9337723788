import Bibliography.Console.Markup
import Bibliography.Console.Table
import Bibliography.Layout.Render
import Bibliography.Notice

/-!
# Reports

What a console shows of the work on a bibliography. Warnings and errors begin with their level; the
more detail is asked for, the more is told of the failures behind them. Events with a summary and
other information are shown only where detail is asked for. Findings about a file and the duplicates
in it are drawn as tables.
-/

namespace Bibliography

open Text Console

/-- A console: the cells of a line, and how much detail is asked for. -/
structure Screen where
  width : Nat
  verbosity : Nat
  deriving DecidableEq, Repr

/-- Something that was found in a file. -/
structure Finding where
  line : Option Int
  key : Option String
  message : String
  deriving DecidableEq, Repr

/-- What is shown. -/
inductive Report where
  | notice (n : Notice)
  /-- A piece of information, which may hold markup. -/
  | info (message : String)
  | findings (found : List Finding)
  /-- The duplicates in a file, as a layout writes them. -/
  | duplicates (file : String) (layout : Layout) (entries : List Entry)

/-- Why something cannot be shown. -/
inductive ReportFault where
  | event (fault : EventFault)
  | markup (fault : MarkupFault)
  deriving DecidableEq, Repr

/-- A fault with what led to it. -/
def ReportFault.failures : ReportFault → List Failure
  | .event fault => [.single "TypeError" fault.message]
  | .markup fault => fault.failures

/-! ## §1 Messages -/

/-- Whether a text occurs in another one. -/
def occursIn (part : List Char) : List Char → Bool
  | [] => part.isEmpty
  | c :: s => part.isPrefixOf (c :: s) || occursIn part s

/-- What is told about the failures behind a message. -/
def failureLines (verbosity : Nat) (message : String) (failures : List Failure) : List String :=
  match failures[0]? with
  | none => []
  | some f =>
    if verbosity = 0 then []
    else
      let detail := trim f.text.toList
      -- what the message says already is not told again
      let told := if detail.isEmpty || occursIn detail message.toList then []
        else [String.ofList detail]
      let causes := if verbosity = 1 then [] else Failure.causes failures 0
      told ++ ["type: " ++ f.kind]
        ++ (if causes.isEmpty then [] else "caused by:" :: causes.map ("  " ++ ·))

/-- A message with its level, and with what is told about the failures behind it. -/
def messageText (verbosity : Nat) (level message : String) (failures : List Failure) : List Char :=
  ("\n".intercalate ((level ++ ": " ++ message) :: failureLines verbosity message failures)).toList

/-- A text on a screen. -/
def Screen.text (screen : Screen) (s : List Char) : List Char :=
  ofLines (Style.running.layOut screen.width s)

/-- A text with markup on a screen. -/
def Screen.markup (screen : Screen) (message : String) : Except ReportFault (List Char) :=
  ((plainText message.toList).map screen.text).mapError .markup

/-- A notice on a screen. -/
def Screen.notice (screen : Screen) : Notice → Except ReportFault (List Char)
  | .warning message failures =>
    .ok (screen.text (messageText screen.verbosity "warning" message failures))
  | .error message failures =>
    .ok (screen.text (messageText screen.verbosity "error" message failures))
  | .event e =>
    match e.message? with
    | .error fault => .error (.event fault)
    | .ok none => .ok []
    | .ok (some message) => if screen.verbosity = 0 then .ok [] else screen.markup message

/-! ## §2 Tables -/

/-- A text in a cell; where there is none, a dash stands for it. -/
def orDash (s : Option String) : List Char := ((s.filter (· ≠ "")).getD "-").toList

/-- The table of findings. -/
def findingsTable (found : List Finding) : Table where
  title := "Warnings".toList
  columns :=
    [⟨"Line", .right, .ellipsis, true⟩, ⟨"Key", .left, .ellipsis, false⟩,
      ⟨"Message", .left, .ellipsis, true⟩]
  rows := found.map fun f =>
    [orDash (f.line.map intText), orDash f.key, f.message.toList]

/-- The title of an entry, as a layout writes it. -/
def titleText (l : Layout) (e : Entry) : List Char :=
  match e.find? "title" with
  | none => []
  | some f => f.value.render l.delimiters []

/-- The table of duplicates, under a title. -/
def duplicatesTable (title : List Char) (l : Layout) (entries : List Entry) : Table where
  title := title
  columns :=
    [⟨"Key", .left, .ellipsis, false⟩, ⟨"Type", .left, .ellipsis, true⟩,
      ⟨"Title", .left, .fold, true⟩]
  rows := entries.map fun e => [orDash e.key, e.type.toList, titleText l e]

/-- A table on a screen. -/
def Screen.table (screen : Screen) (t : Table) : List Char := ofLines (t.draw screen.width)

/-- A report on a screen. Nothing is shown of empty tables. -/
def Screen.show (screen : Screen) : Report → Except ReportFault (List Char)
  | .notice n => screen.notice n
  | .info message => screen.markup message
  | .findings found => .ok (if found.isEmpty then [] else screen.table (findingsTable found))
  | .duplicates file l entries =>
    if entries.isEmpty then .ok []
    else
      ((plainText ("Duplicates in " ++ file).toList).map fun title =>
        screen.table (duplicatesTable title l entries)).mapError .markup

end Bibliography
