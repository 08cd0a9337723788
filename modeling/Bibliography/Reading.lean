import Bibliography.Block
import Bibliography.Block.Check
import Bibliography.Block.Fields

/-!
# Reading a bibliography

A text becomes one item per block and one comment per gap that is not blank, in the order of the
text. The blocks `@string`, `@preamble` and `@comment` are kept as they are written, and so is every
block that the check or the reader of fields refuses. Each refused block is reported as an issue;
`@comment` is never checked.

Everything but the last section takes the check as a parameter; a bibliography is read with
`Check.run`.
-/

namespace Bibliography

open Text

/-! ## §1 Issues -/

/-- Why a block is not read as an entry. -/
inductive BlockFault where
  | check (fault : Check.Fault)
  | fields (fault : FieldFault)
  deriving DecidableEq, Repr

/-- The message of a fault. -/
def BlockFault.message : BlockFault → String
  | .check fault => fault.message
  | .fields fault => fault.message

/-- A refused block: its key where one can be seen, and the line on which it begins. -/
structure Issue where
  key : Option String
  line : Nat
  fault : BlockFault
  deriving DecidableEq, Repr

/-- The message of an issue. -/
def Issue.message (i : Issue) : String :=
  "Failed to parse block at line " ++ toString i.line ++ ": " ++ i.fault.message

/-- What a text was read as. -/
structure Reading where
  items : List Item
  issues : List Issue

/-- Two readings after one another. -/
def Reading.append (a b : Reading) : Reading := ⟨a.items ++ b.items, a.issues ++ b.issues⟩

/-! ## §2 Blocks -/

/-- A check of the text of a block: the records that it finds, or why it refuses the block. -/
abbrev BlockCheck := List Char → Except Check.Fault (List Check.Record)

/-- How a block is treated. -/
inductive Treatment where
  /-- Kept as it is. -/
  | keep
  /-- Checked, and kept as it is. -/
  | checkAndKeep
  /-- Read as an entry. -/
  | read
  deriving DecidableEq, Repr

/-- The treatment of a block with a type, whatever the case of its letters. -/
def Treatment.ofType (type : List Char) : Treatment :=
  let name := lower type
  if name = "comment".toList then .keep
  else if name = "string".toList ∨ name = "preamble".toList then .checkAndKeep
  else .read

/-- A block as it is written. -/
def Block.verbatim (b : Block) : Verbatim := ⟨String.ofList b.type, String.ofList b.text⟩

/-- The entry that a block holds. -/
def Block.entry (check : BlockCheck) (b : Block) : Except BlockFault Entry :=
  match check b.text with
  | .error fault => .error (.check fault)
  | .ok _ =>
    let (key, rest) := Block.splitKey b.body
    match readFields rest with
    | .error fault => .error (.fields fault)
    | .ok fields => .ok ⟨String.ofList b.type, key.map String.ofList, fields⟩

/-- Reads a block that begins on a line. -/
def Block.read (check : BlockCheck) (b : Block) (line : Nat) : Reading :=
  match Treatment.ofType b.type with
  | .keep => ⟨[.verbatim b.verbatim], []⟩
  | .checkAndKeep =>
    match check b.text with
    | .ok _ => ⟨[.verbatim b.verbatim], []⟩
    -- a kept block that fails its check is reported without a key
    | .error fault => ⟨[.verbatim b.verbatim], [⟨none, line, .check fault⟩]⟩
  | .read =>
    match b.entry check with
    | .ok e => ⟨[.entry e], []⟩
    | .error fault =>
      -- what cannot be read is kept as it stands, and reported under the key it shows
      ⟨[.verbatim b.verbatim], [⟨(Block.splitKey b.body).1.map String.ofList, line, fault⟩]⟩

/-! ## §3 Texts -/

/-- The type of the comments that gaps are kept as. -/
def gapType : String := "comment"

/-- The comment that a gap holds, unless it is blank. -/
def readGap (s : List Char) : List Item :=
  let t := trim s
  if t.isEmpty then [] else [.verbatim ⟨gapType, String.ofList t⟩]

/-- Reads blocks, each after its gap, from a line on. -/
def readBlocks (check : BlockCheck) (line : Nat) : List (List Char × Block) → Reading
  | [] => ⟨[], []⟩
  | (gap, block) :: rest =>
    let start := line + lineFeeds gap
    (Reading.append ⟨readGap gap, []⟩ (block.read check start)).append
      (readBlocks check (start + lineFeeds block.text) rest)

/-- Reads a text, its blocks being checked by `check`. -/
def Reading.ofCharsUsing (check : BlockCheck) (s : List Char) : Reading :=
  let p := segment s
  (readBlocks check 1 p.blocks).append ⟨readGap p.trailing, []⟩

/-! ## §4 The check in use -/

/-- Reads a text. -/
def Reading.ofChars (s : List Char) : Reading := Reading.ofCharsUsing Check.run s

/-- Reads a text. -/
def Reading.ofText (s : String) : Reading := Reading.ofChars s.toList

end Bibliography
