import Bibliography.Directory
import Bibliography.Reading

/-!
# Reading files

A bibliography that stands in a file. A file that cannot be read, or that does not hold text, fails as
a whole; the failure keeps what led to it.
-/

namespace Bibliography

open Text

/-- A file that is no bibliography. -/
structure SourceFault where
  path : String
  fault : FileFault
  deriving DecidableEq, Repr

namespace SourceFault

/-- The message of a fault. -/
def message (f : SourceFault) : String :=
  "Failed to read '" ++ f.path ++ "': " ++ f.fault.message

/-- A fault with what led to it. -/
def failures (f : SourceFault) : List Failure :=
  Failure.causedBy "BibliographyParseError" f.message f.fault.failure

end SourceFault

/-- The text of a bibliography in a file. -/
def Directory.readSource (d : Directory) (path : String) : Except SourceFault (List Char) :=
  (d.read path).mapError (⟨path, ·⟩)

/-- Reads the bibliography in a file. -/
def Reading.ofFile (d : Directory) (path : String) : Except SourceFault Reading :=
  (d.readSource path).map Reading.ofChars

end Bibliography
