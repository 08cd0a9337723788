import Bibliography.Event
import Bibliography.Failure

/-!
# Notices

What is reported while a bibliography is worked on: warnings and errors, each with the failures that
led to it, and events. A listener that keeps notices sorts them by what they are; a journal takes one
line for each, with a level of importance.
-/

namespace Bibliography

/-- What is reported. The failures behind a message begin with the outermost one. -/
inductive Notice where
  | warning (message : String) (failures : List Failure)
  | error (message : String) (failures : List Failure)
  | event (e : Event)

namespace Notice

/-! ## §1 Kept notices -/

/-- The warnings among notices. -/
def warnings (notices : List Notice) : List String :=
  notices.filterMap fun
    | warning message _ => some message
    | _ => none

/-- The errors among notices. -/
def errors (notices : List Notice) : List String :=
  notices.filterMap fun
    | error message _ => some message
    | _ => none

/-- The events among notices. -/
def events (notices : List Notice) : List Event :=
  notices.filterMap fun
    | event e => some e
    | _ => none

end Notice

/-! ## §2 The journal -/

/-- How important a line of the journal is. -/
inductive Level where
  | debug
  | info
  | warning
  | error
  deriving DecidableEq, Repr

/-- The name of a level. -/
def Level.name : Level → String
  | debug => "DEBUG"
  | info => "INFO"
  | warning => "WARNING"
  | error => "ERROR"

/-- A line of the journal. -/
structure JournalLine where
  level : Level
  text : String
  hasFailure : Bool
  deriving DecidableEq, Repr

/-- The line for a notice. An event without a summary is written down in full. -/
def Notice.journalLine : Notice → Except EventFault JournalLine
  | warning message failures => .ok ⟨.warning, message, !failures.isEmpty⟩
  | error message failures => .ok ⟨.error, message, !failures.isEmpty⟩
  | event e =>
    e.message?.map fun
      | some text => ⟨.info, text, false⟩
      | none =>
        let payload : Datum := .map (e.payload.map fun p => (.text p.1, p.2))
        ⟨.debug, "diagnostic event " ++ e.name ++ ": " ++ payload.shown, false⟩

end Bibliography
