import Bibliography.Datum.Written
import Bibliography.Failure
import Bibliography.Text.Utf8

/-!
# Directories

Files and directories as a value: what stands under each path. Files hold text in UTF-8, with any
kind of line break; reading unifies the breaks.

Main statements: what is written can be read back with its line breaks unified (`read_write_self`),
and a file keeps its content while others are written (`find?_write_of_ne`).
-/

namespace Bibliography

open Text

/-! ## §1 Contents -/

/-- What stands under a path. -/
inductive Content where
  | text (s : List Char)
  /-- A file that does not hold text. -/
  | undecodable (fault : Utf8Fault)
  | directory
  deriving DecidableEq, Repr

/-- The content of a file with these bytes. -/
def Content.ofBytes (bytes : List UInt8) : Content :=
  match decodeUtf8 bytes with
  | .ok s => text s
  | .error fault => undecodable fault

/-- The contents that paths lead to. -/
abbrev Directory := List (String × Content)

/-- Why a file cannot be read. -/
inductive FileFault where
  | missing (path : String)
  | isDirectory (path : String)
  | undecodable (fault : Utf8Fault)
  deriving DecidableEq, Repr

/-- The message of a fault. -/
def FileFault.message : FileFault → String
  | missing path => "[Errno 2] No such file or directory: " ++ quoted path
  | isDirectory path => "[Errno 21] Is a directory: " ++ quoted path
  | undecodable fault => fault.message

/-- A fault as a failure. -/
def FileFault.failure (fault : FileFault) : Failure :=
  .single (match fault with
    | missing _ => "FileNotFoundError"
    | isDirectory _ => "IsADirectoryError"
    | undecodable _ => "UnicodeDecodeError") fault.message

namespace Directory

/-! ## §2 Reading and writing -/

/-- What stands under a path. -/
def find? (d : Directory) (path : String) : Option Content := d.lookup path

/-- The text of a file, whichever line breaks it uses. -/
def read (d : Directory) (path : String) : Except FileFault (List Char) :=
  match d.find? path with
  | none => .error (.missing path)
  | some .directory => .error (.isDirectory path)
  | some (.undecodable fault) => .error (.undecodable fault)
  | some (.text s) => .ok (unifyBreaks s)

/-- The change that writing makes to a pair. -/
def replace (path : String) (s : List Char) (p : String × Content) : String × Content :=
  if p.1 == path then (path, .text s) else p

/-- The directory after a text has been written to a file. -/
def write (d : Directory) (path : String) (s : List Char) : Directory :=
  if d.any (·.1 == path) then d.map (replace path s) else d ++ [(path, .text s)]

/-- Helper: what stands under the first of several paths. -/
private theorem lookup_cons_of_eq {d : Directory} {p : String × Content} {path : String}
    (h : p.1 = path) : List.lookup path (p :: d) = some p.2 := by
  rw [← h, List.lookup_cons_self]

/-- Helper: what stands under another path than the first. -/
private theorem lookup_cons_of_ne {d : Directory} {p : String × Content} {path : String}
    (h : p.1 ≠ path) : List.lookup path (p :: d) = List.lookup path d := by
  have hp : (path == p.1) = false := by simpa using h.symm
  rw [List.lookup_cons, hp]

theorem find?_write_self (d : Directory) (path : String) (s : List Char) :
    (d.write path s).find? path = some (.text s) := by
  simp only [write, find?]
  induction d with
  | nil => exact lookup_cons_of_eq rfl
  | cons p d ih =>
    -- the file is here and is replaced, or it is looked for further on
    by_cases h : p.1 = path
    · have hp : replace path s p = (path, .text s) := if_pos (by simpa using h)
      rw [if_pos (by simp [h]), List.map_cons, hp]
      exact lookup_cons_of_eq rfl
    · -- whether any file has this path is then a matter of the others
      have hp : replace path s p = p := if_neg (by simpa using h)
      have hany : (p :: d).any (·.1 == path) = d.any (·.1 == path) := by simp [h]
      rw [hany]
      split <;> rename_i hd
      · rw [if_pos hd] at ih
        rw [List.map_cons, hp, lookup_cons_of_ne h, ih]
      · rw [if_neg hd] at ih
        rw [List.cons_append, lookup_cons_of_ne h, ih]

/-- Helper: replacing one file leaves every other one alone. -/
private theorem lookup_map_replace {path other : String} (s : List Char) (h : other ≠ path)
    (d : Directory) : List.lookup other (d.map (replace path s)) = List.lookup other d := by
  induction d with
  | nil => rfl
  | cons p d ih =>
    by_cases hp : p.1 = path
    · have hr : replace path s p = (path, .text s) := if_pos (by simpa using hp)
      rw [List.map_cons, hr, lookup_cons_of_ne h.symm, lookup_cons_of_ne (hp ▸ h.symm), ih]
    · have hr : replace path s p = p := if_neg (by simpa using hp)
      rw [List.map_cons, hr, List.lookup_cons, List.lookup_cons, ih]

/-- Helper: a new file leaves every other one alone. -/
private theorem lookup_append_file {path other : String} (s : List Char) (h : other ≠ path)
    (d : Directory) : List.lookup other (d ++ [(path, Content.text s)]) = List.lookup other d := by
  induction d with
  | nil => exact lookup_cons_of_ne h.symm
  | cons p d ih => rw [List.cons_append, List.lookup_cons, List.lookup_cons, ih]

/-- Writing one file leaves every other one alone. -/
theorem find?_write_of_ne {d : Directory} {path other : String} (s : List Char) (h : other ≠ path) :
    (d.write path s).find? other = d.find? other := by
  simp only [write, find?]
  split
  · exact lookup_map_replace s h d
  · exact lookup_append_file s h d

/-- What is written can be read back, with its line breaks unified. -/
theorem read_write_self (d : Directory) (path : String) (s : List Char) :
    (d.write path s).read path = .ok (unifyBreaks s) := by
  simp [read, find?_write_self]

end Directory

/-! ## §3 Paths -/

/-- The parts of a path that name something. -/
def pathParts (path : String) : List (List Char) :=
  (splitOn '/' path.toList).filter fun part => part ≠ [] ∧ part ≠ ['.']

/-- The name that a path ends with; a path that names nothing has the empty one. -/
def fileName (path : String) : String := String.ofList ((pathParts path).getLast?.getD [])

/-- Whether a path begins at the root. -/
def isRooted (path : String) : Bool := path.startsWith "/"

/-- The parts of a path after one more part; two points go back to the directory before. -/
def walk (parts : List (List Char)) (part : List Char) : List (List Char) :=
  if part = ['.', '.'] then parts.dropLast else parts ++ [part]

/-- What a path stands for when it is taken from a directory, with `.` and `..` carried out. -/
def resolvePath (base path : String) : String :=
  let start := if isRooted path then [] else pathParts base
  let root := if isRooted path || isRooted base then "/" else ""
  root ++ String.ofList (joinWith ['/'] ((start ++ pathParts path).foldl walk []))

end Bibliography
