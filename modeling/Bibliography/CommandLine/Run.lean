import Bibliography.CommandLine.Invocation
import Bibliography.Console.Report
import Bibliography.Document
import Bibliography.Reading.File
import Bibliography.Settings.File

/-!
# Runs

What the program does. The files are formatted one after the other, each as it stands when its turn
comes. A file that cannot be read ends the run; what was done before stays. When it is only asked which
files would change, nothing is written and the exit code tells whether any would.
-/

namespace Bibliography

open Text

/-- What a run has done so far. -/
structure Progress where
  directory : Directory
  /-- The text on the standard output. -/
  output : List Char
  /-- The text on the screen. -/
  messages : List Char
  /-- Whether a file was found that would change. -/
  wouldChange : Bool

/-- A run that ended early, with the failures that ended it, the outermost one first. -/
structure Stopped where
  progress : Progress
  failures : List Failure

/-- What a run leaves. -/
structure Outcome where
  exitCode : Nat
  output : List Char
  messages : List Char
  directory : Directory

namespace Progress

/-- Shows a report. -/
def report (screen : Screen) (p : Progress) (r : Report) : Except Stopped Progress :=
  match screen.show r with
  | .ok text => .ok { p with messages := p.messages ++ text }
  | .error fault => .error ⟨p, fault.failures⟩

/-- Shows a report if detail is asked for. -/
def reportDetail (screen : Screen) (p : Progress) (r : Report) : Except Stopped Progress :=
  if screen.verbosity = 0 then .ok p else p.report screen r

/-- What a run leaves that came to its end. -/
def outcome (p : Progress) : Outcome :=
  ⟨if p.wouldChange then 1 else 0, p.output, p.messages, p.directory⟩

end Progress

/-- What a run leaves that ended early: an error is shown. -/
def Stopped.outcome (screen : Screen) (s : Stopped) : Outcome :=
  let message := (s.failures.head?.map (·.text)).getD ""
  let shown := screen.text (messageText screen.verbosity "error" message s.failures)
  ⟨1, s.progress.output, s.progress.messages ++ shown, s.progress.directory⟩

/-- An issue as a finding. -/
def Issue.finding (i : Issue) : Finding := ⟨some i.line, i.key, i.message⟩

/-- Warnings about options that were not accepted. -/
def Resolved.notices (r : Resolved) : List Notice := r.issues.map fun i => .warning i.message []

namespace Invocation

/-- The settings of a run: those of the configuration file, where options override them. -/
def resolve (i : Invocation) (d : Directory) : Except ConfigFault Resolved := do
  let base ← match i.config with
    | none => .ok []
    | some path => Options.ofFile d path
  (Options.overlay base i.overrides).resolve.told.mapError .unwritable

/-- Does with the formatted text of a file what was asked for. -/
def deliver (i : Invocation) (screen : Screen) (p : Progress) (path : String)
    (before formatted : List Char) : Except Stopped Progress :=
  if i.check then
    if formatted = before then .ok p
    else
      -- a check says what would be done and goes on to the next file
      { p with wouldChange := true }.report screen
        (.notice (.warning ("would reformat " ++ path) []))
  else if i.inPlace then
    -- a file that is formatted already is not written again
    if formatted = before then .ok p
    else
      { p with directory := p.directory.write path formatted }.reportDetail screen
        (.info ("Reformatted " ++ path))
  else .ok { p with output := p.output ++ formatted }

/-- Formats one file. -/
def formatFile (i : Invocation) (screen : Screen) (s : Settings) (p : Progress) (path : String) :
    Except Stopped Progress :=
  match p.directory.readSource path with
  | .error fault => .error ⟨p, fault.failures⟩
  | .ok text => do
    let reading := Reading.ofChars text
    let document := Document.ofItems s (Occurrence.number reading.items)
    let duplicates := document.duplicates.filterMap (·.item.entry?)
    -- issues are shown before anything that the document gives notice of
    let p ← p.report screen (.findings (reading.issues.map Issue.finding))
    let p ← document.notices.foldlM (fun p n => p.report screen (.notice n)) p
    let p ← p.reportDetail screen (.duplicates (fileName path) s.layout duplicates)
    i.deliver screen p path text document.text

/-- Formats all files under given settings. -/
def formatFiles (i : Invocation) (screen : Screen) (r : Resolved) (p : Progress) :
    Except Stopped Progress := do
  let p ← r.notices.foldlM (fun p n => p.report screen (.notice n)) p
  i.inputs.foldlM (i.formatFile screen r.settings) p

/-- Runs an invocation on a console that is `width` cells wide. -/
def run (i : Invocation) (width : Nat) (d : Directory) : Outcome :=
  let screen : Screen := ⟨width, i.verbosity⟩
  let start : Progress := ⟨d, [], [], false⟩
  -- the run can stop before the first file, with nothing done yet
  let result : Except Stopped Progress := match i.resolve d with
    | .error fault => .error ⟨start, fault.failures⟩
    | .ok r => i.formatFiles screen r start
  match result with
  | .ok p => p.outcome
  | .error s => s.outcome screen

end Invocation

end Bibliography
