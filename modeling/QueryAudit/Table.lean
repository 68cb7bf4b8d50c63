import QueryAudit.Config
import QueryAudit.Text.Width

/-!
# Tables of text

A table has a row of headings and rows of cells. Every column is as wide as its widest cell, every
row as high as its highest one; a cell stands at the upper left of its place with one blank on
either side. The style decides which lines are drawn between cells.
-/

namespace QueryAudit

/-- A table of text cells. -/
structure Table where
  /-- The headings, one for each column. -/
  header : List String
  /-- The rows of cells below them. -/
  rows : List (List String)
  deriving DecidableEq, Repr

/-- The marks of a horizontal line: left end, fill, crossing, right end. -/
structure RuleMarks where
  left : String
  fill : Char
  cross : String
  right : String
  deriving DecidableEq, Repr

/-- The lines drawn around the cells of a table. -/
structure Frame where
  /-- The line above the first row. -/
  top : RuleMarks
  /-- The line between two rows. -/
  between : RuleMarks
  /-- The line below the last row. -/
  bottom : RuleMarks
  /-- The vertical line beside and between cells. -/
  side : String
  deriving DecidableEq, Repr

/-- The lines of each style; the plain one has none. -/
def TableStyle.frame : TableStyle → Option Frame
  | .modern => some
      { top := ⟨"┌", '─', "┬", "┐"⟩
        between := ⟨"├", '─', "┼", "┤"⟩
        bottom := ⟨"└", '─', "┴", "┘"⟩
        side := "│" }
  | .ascii => some
      { top := ⟨"+", '-', "+", "+"⟩
        between := ⟨"+", '-', "+", "+"⟩
        bottom := ⟨"+", '-', "+", "+"⟩
        side := "|" }
  | .plain => none

namespace Table

/-- Split off the lines of a cell, the current one given latest character first. -/
def linesFrom (current : List Char) : List Char → List (List Char)
  | [] => [current.reverse]
  | c :: cs => if c = '\n' then current.reverse :: linesFrom [] cs else linesFrom (c :: current) cs

/-- The lines of a cell; there is at least one. -/
def lines (cell : String) : List (List Char) :=
  linesFrom [] cell.toList

/-- The columns the widest line of a cell takes. -/
def cellWidth (cell : String) : Nat :=
  (lines cell).foldl (fun w line => max w (Width.ofText line)) 0

def columnWidths : List (List String) → List Nat
  | [] => []
  | row :: rows =>
    let rest := columnWidths rows
    let own := row.map cellWidth
    -- rows need not have the same number of cells
    (List.range (max own.length rest.length)).map fun i => max (own.getD i 0) (rest.getD i 0)

/-- A line of a cell, padded to a width, with one blank on either side. -/
def pad (width : Nat) (line : List Char) : String :=
  String.ofList (' ' :: line ++ List.replicate (width - Width.ofText line + 1) ' ')

def joinCells (frame : Option Frame) (cells : List String) : String :=
  match frame with
  | none => String.join cells
  | some f => f.side ++ f.side.intercalate cells ++ f.side

/-- The lines of text that a row of cells takes. -/
def renderRow (frame : Option Frame) (widths : List Nat) (row : List String) : List String :=
  let cells := row.map lines
  let height := cells.foldl (fun h cell => max h cell.length) 0
  (List.range height).map fun i =>
    joinCells frame ((widths.zip cells).map fun p => pad p.1 (p.2.getD i []))

/-- A horizontal line over all columns. -/
def rule (marks : RuleMarks) (widths : List Nat) : String :=
  marks.left
    ++ marks.cross.intercalate
      (widths.map fun w => String.ofList (List.replicate (w + 2) marks.fill))
    ++ marks.right

/-- The rows of a table with the lines of its frame around and between them. -/
def renderRows (frame : Option Frame) (rows : List (List String)) : List String :=
  let widths := columnWidths rows
  let blocks := rows.map (renderRow frame widths)
  match frame with
  | none => blocks.flatten
  | some f =>
    rule f.top widths :: [rule f.between widths].intercalate blocks ++ [rule f.bottom widths]

/-- The table as text, without a newline at its end. A table without rows is shown as a
    placeholder, whatever its headings. -/
def render (style : TableStyle) (t : Table) : String :=
  if t.rows.isEmpty then "<empty>"
  else "\n".intercalate (renderRows style.frame (t.header :: t.rows))

end Table

end QueryAudit
