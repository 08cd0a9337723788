import Bibliography.Console.Wrap

/-!
# Tables

A table with a title, a header and rows, drawn with lines around its cells. A column is as wide as its
widest line, with a blank on either side. Where the table would be wider than the console, the widest
columns that may be wrapped shrink first, and then all columns do.

Main statement: a row of widths shrinks by no more than is asked for (`total_le_total_shrink_add`).
-/

namespace Bibliography.Console

open Text

/-- A column of a table. -/
structure Column where
  header : String
  style : Style

/-- A table; its rows hold a text for each column. -/
structure Table where
  title : List Char
  columns : List Column
  rows : List (List (List Char))

/-! ## §1 Widths -/

/-- A quotient rounded to the nearest number, a half to the even one. -/
def roundDiv (n d : Nat) : Nat :=
  let q := n / d
  let twice := 2 * (n % d)
  if twice < d then q else if d < twice then q + 1 else if q % 2 = 0 then q else q + 1

/-- The sum of widths. -/
def total : List Nat → Nat
  | [] => 0
  | width :: rest => width + total rest

/-- Takes `excess` from the widths that are marked, in equal shares, but no more than its limit from
each of them. -/
def shrink : Nat → List (Nat × Option Nat) → List Nat
  | _, [] => []
  | excess, (width, none) :: rest => width :: shrink excess rest
  | excess, (width, some limit) :: rest =>
    let shares := (rest.filter (·.2.isSome)).length + 1
    let share := min limit (min width (roundDiv excess shares))
    (width - share) :: shrink (excess - share) rest

/-- Shrinks the widest of the columns that may be wrapped until they are as wide as the next widest
ones or enough has been taken, and goes on with these. -/
def shrinkWidest (wraps : List Bool) (limit : Nat) : Nat → List Nat → List Nat
  | 0, widths => widths
  | rounds + 1, widths =>
    let excess := total widths - limit
    let wrapped := ((widths.zip wraps).filter (·.2)).map (·.1)
    match wrapped.max? with
    | none => widths
    | some widest =>
      -- the next widest column tells how far the widest ones go in this round
      let next := (wrapped.filter (· < widest)).max?.getD 0
      if excess = 0 ∨ widest = next then widths
      else
        let marks := (widths.zip wraps).map fun (w, wrap) =>
          (w, if wrap ∧ w = widest then some (min excess (widest - next)) else none)
        shrinkWidest wraps limit rounds (shrink excess marks)

/-- The widths that columns get when only `limit` cells are there for all of them. -/
def fitWidths (wraps : List Bool) (limit : Nat) (widths : List Nat) : List Nat :=
  let shrunk := shrinkWidest wraps limit (widths.length + total widths) widths
  shrink (total shrunk - limit) (shrunk.map fun w => (w, if w = 0 then none else some w))

theorem total_le_total_shrink_add (excess : Nat) (marks : List (Nat × Option Nat)) :
    total (marks.map (·.1)) ≤ total (shrink excess marks) + total (marks.map fun p => p.2.getD 0) := by
  induction marks generalizing excess with
  | nil => simp [shrink, total]
  | cons p rest ih =>
    obtain ⟨width, limit?⟩ := p
    cases limit? with
    | none =>
      have := ih excess
      simp only [shrink, List.map_cons, total, Option.getD_none]
      omega
    -- what a column gives up is taken from the excess before the next one is looked at
    | some limit =>
      have := ih (excess - min limit (min width
        (roundDiv excess ((rest.filter (·.2.isSome)).length + 1))))
      simp only [shrink, List.map_cons, total, Option.getD_some]
      omega

namespace Table

/-- The cells that the widest line of a text takes. -/
def contentWidth (s : List Char) : Nat := ((boundaryLines (showable s)).map cells).max?.getD 0

/-- The texts of each column, the header first. -/
def columnTexts (t : Table) : List (List (List Char)) :=
  t.columns.zipIdx.map fun (c, i) => c.header.toList :: t.rows.map fun row => row.getD i []

/-- The cells that the lines between the columns and at the ends take. -/
def ruleWidth (t : Table) : Nat := t.columns.length + 1

/-- The widths of the columns, blanks included. -/
def widths (t : Table) (width : Nat) : List Nat :=
  let limit := width - t.ruleWidth
  let wanted := t.columnTexts.map fun texts =>
    min limit ((texts.map contentWidth).max?.getD 0 + 2)
  if total wanted ≤ limit then wanted else fitWidths (t.columns.map (·.style.wraps)) limit wanted

/-! ## §2 Drawing -/

/-- A rule across the table. -/
def rule (left middle right : Char) (widths : List Nat) : List Char :=
  left :: joinWith [middle] (widths.map fun w => List.replicate w '─') ++ [right]

/-- The lines of a cell that is `width` cells wide. -/
def cellLines (style : Style) (width : Nat) (s : List Char) : List (List Char) :=
  (style.layOut (width - 2) s).map fun l => resize width (' ' :: l ++ [' '])

/-- Lines filled up with empty ones. -/
def fillUp (atTop : Bool) (height width : Nat) (lines : List (List Char)) : List (List Char) :=
  let blank := List.replicate (height - lines.length) (List.replicate width ' ')
  if atTop then blank ++ lines else lines ++ blank

/-- The lines of a row. The texts of a header stand at the bottom, all others at the top. -/
def rowLines (header : Bool) (columns : List (Style × Nat)) (row : List (List Char)) :
    List (List Char) :=
  let drawn := (columns.zip row).map fun ((style, width), s) => (width, cellLines style width s)
  let height := (drawn.map (·.2.length)).max?.getD 0
  let filled := drawn.map fun (width, lines) => fillUp header height width lines
  (List.range height).map fun i =>
    '│' :: joinWith ['│'] (filled.map fun lines => lines.getD i []) ++ ['│']

/-- The lines of a table on a console that is `width` cells wide. -/
def draw (t : Table) (width : Nat) : List (List Char) :=
  let widths := t.widths width
  let columns := (t.columns.map (·.style)).zip widths
  Style.layOut ⟨.center, .fold, true⟩ (total widths + t.ruleWidth) t.title
    ++ rule '┌' '┬' '┐' widths
    :: rowLines true columns (t.columns.map (·.header.toList))
    ++ rule '├' '┼' '┤' widths
    :: t.rows.flatMap (rowLines false columns)
    ++ [rule '└' '┴' '┘' widths]

end Table

end Bibliography.Console
