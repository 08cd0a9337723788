import Bibliography.Text.Lines
import Bibliography.Text.WidthTable

/-!
# Lines of a console

How a text is laid out in lines of limited width. A text is broken between its words; a word that is
wider than a whole line is folded or cut off, as the text's overflow says. The lines can then be
aligned, which fills them up with blanks.
-/

namespace Bibliography.Console

open Text

/-! ## §1 Characters -/

/-- Whether a character would move the cursor of a console: the bell, the backspace, the vertical tab,
the form feed and the carriage return do. -/
def movesCursor (c : Char) : Bool := [7, 8, 11, 12, 13].contains c.toNat

/-- The text as far as a console shows it. -/
def showable (s : List Char) : List Char := s.filter fun c => !movesCursor c

/-- The distance between two tab stops. -/
def tabStop : Nat := 8

/-- The parts of a text between its tabs, the first one in a column, with blanks up to the next tab
stop in the place of each tab. -/
def joinTabs : Nat → List (List Char) → List Char
  | _, [] => []
  | _, [part] => part
  | column, part :: rest =>
    let part := part ++ [' ']
    let stop := column + cells part
    let n := (tabStop - stop % tabStop) % tabStop
    part ++ List.replicate n ' ' ++ joinTabs (stop + n) rest

/-- A text with its tabs replaced by blanks. -/
def expandTabs (s : List Char) : List Char := joinTabs 0 (splitOn '\t' s)

/-! ## §2 Widths -/

/-- What becomes of a word that is too wide. -/
inductive Overflow where
  /-- It goes on in the next line. -/
  | fold
  /-- It is cut off, and an ellipsis shows that it was. -/
  | ellipsis
  deriving DecidableEq, Repr

/-- The first clusters that take no more than a number of cells; a blank stands for half of a wide
one. -/
def takeCells : Nat → List Cluster → List Char
  | _, [] => []
  | n, k :: rest =>
    if k.cells ≤ n then k.text ++ takeCells (n - k.cells) rest else List.replicate n ' '

/-- A text filled up with blanks on the right. -/
def padRight (width : Nat) (s : List Char) : List Char := s ++ List.replicate (width - cells s) ' '

/-- A text filled up with blanks on the left. -/
def padLeft (width : Nat) (s : List Char) : List Char := List.replicate (width - cells s) ' ' ++ s

/-- A text brought to a width: cut off or filled up with blanks. -/
def resize (width : Nat) (s : List Char) : List Char :=
  padRight width (if cells s ≤ width then s else takeCells width (clusters s))

/-- A text cut off at a width. -/
def truncate (overflow : Overflow) (width : Nat) (s : List Char) : List Char :=
  if cells s ≤ width then s
  else match overflow with
    | .fold => resize width s
    | .ellipsis => resize (width - 1) s ++ ['…']

/-! ## §3 Words -/

/-- The words of a text, each with the blanks behind it, the first one also with those before it. -/
def words (s : List Char) : List (List Char) :=
  match s.splitBy fun a b => !(isBlank a && !isBlank b) with
  | blanks :: word :: rest => if blanks.all isBlank then (blanks ++ word) :: rest
    else blanks :: word :: rest
  | parts => parts

/-- The clusters of a word in pieces that take no more than `width` cells each, as far as single
clusters allow. The piece before the word takes `used` cells already. -/
def pieces (width : Nat) : Nat → List Cluster → List (List Char)
  | _, [] => [[]]
  | used, k :: rest =>
    if used + k.cells ≤ width then
      match pieces width (used + k.cells) rest with
      | [] => [k.text]
      | piece :: more => (k.text ++ piece) :: more
    -- the cluster begins a piece, however wide it is
    else
      match pieces width k.cells rest with
      | [] => [[], k.text]
      | piece :: more => [] :: (k.text ++ piece) :: more

/-- Lines in the making: those that are finished, the last one first, and the one that words are
added to, with the cells that it takes. -/
structure Paragraph where
  finished : List (List Char)
  line : List Char
  used : Nat

namespace Paragraph

/-- Ends the line, unless nothing has been written yet, and begins one with a text. -/
def startLine (p : Paragraph) (s : List Char) : Paragraph :=
  { finished := if p.line.isEmpty then p.finished else p.line :: p.finished
    line := s
    used := cells s }

/-- Adds a word. -/
def addWord (overflow : Overflow) (width : Nat) (p : Paragraph) (word : List Char) : Paragraph :=
  let bare := cells (trimRight word)
  if p.used + bare ≤ width then
    { p with line := p.line ++ word, used := p.used + cells word }
  else if width < bare ∧ overflow = .fold then (pieces width 0 (clusters word)).foldl startLine p
  else p.startLine word

/-- The lines. -/
def lines (p : Paragraph) : List (List Char) := (p.line :: p.finished).reverse

end Paragraph

/-- A text without line feeds, broken between its words. -/
def breakWords (overflow : Overflow) (width : Nat) (s : List Char) : List (List Char) :=
  ((words s).foldl (Paragraph.addWord overflow width) ⟨[], [], 0⟩).lines

/-! ## §4 Laying out a text -/

/-- Where the text of a line stands. -/
inductive Align where
  /-- At the left; the line is not filled up. -/
  | natural
  | left
  | center
  | right
  deriving DecidableEq, Repr

/-- A line without the blanks at its end, as far as these make it longer than `width` characters. -/
def dropExcess (width : Nat) (s : List Char) : List Char :=
  s.take (max (trimRight s).length (min width s.length))

/-- A line aligned in a width. -/
def Align.apply (align : Align) (overflow : Overflow) (width : Nat) (s : List Char) : List Char :=
  match align with
  | natural => truncate overflow width s
  | left => padRight width (truncate overflow width s)
  | right => padLeft width (truncate overflow width (trimRight s))
  | center =>
    let t := truncate overflow width (trimRight s)
    padRight width (List.replicate ((width - cells t) / 2) ' ' ++ t)

/-- How a text is laid out. -/
structure Style where
  align : Align
  overflow : Overflow
  /-- Whether the text may be broken between words. -/
  wraps : Bool
  deriving DecidableEq, Repr

/-- The style of running text. -/
def Style.running : Style := ⟨.natural, .fold, true⟩

/-- The lines of a text in a width. -/
def Style.layOut (style : Style) (width : Nat) (s : List Char) : List (List Char) :=
  (splitOn '\n' (showable s)).flatMap fun line =>
    let line := expandTabs line
    let lines := if style.wraps then breakWords style.overflow width line else [line]
    lines.map fun l => style.align.apply style.overflow width (dropExcess width l)

/-- Lines as a text, each without the blanks at its end. -/
def ofLines (lines : List (List Char)) : List Char := lines.flatMap fun l => trimRight l ++ ['\n']

end Bibliography.Console
