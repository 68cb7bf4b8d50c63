/-!
# Positions in a text

Lines and columns count from one; a newline ends a line, every other character takes one column.
-/

namespace QueryAudit.Sql

/-- A place in a text. -/
structure Position where
  line : Nat := 1
  column : Nat := 1
  deriving DecidableEq, Repr, Inhabited

namespace Position

/-- The place after one more character. -/
def next (p : Position) (c : Char) : Position :=
  if c = '\n' then ⟨p.line + 1, 1⟩ else ⟨p.line, p.column + 1⟩

/-- The place after some text. -/
def advance (p : Position) (text : List Char) : Position :=
  text.foldl next p

/-- How a place is named at the end of a message. -/
def suffix (p : Position) : String :=
  s!" at Line: {p.line}, Column {p.column}"

end Position

end QueryAudit.Sql
