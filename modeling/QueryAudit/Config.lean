/-!
# Run configuration

The choices a run is made under: which SQL dialect its statements are read in, whether a summary is
written at the end, and how that summary is drawn.
-/

namespace QueryAudit

/-- The SQL dialect that statements are read in. MySQL is the default: there `"x"` is a string
    literal, while the other two read it as a quoted identifier. -/
inductive Dialect where
  | generic
  | mysql
  | postgres
  deriving DecidableEq, Repr, Inhabited

/-- How a table is drawn: with box characters, with ASCII lines, or without any lines. -/
inductive TableStyle where
  | modern
  | ascii
  | plain
  deriving DecidableEq, Repr, Inhabited

/-- The choices of one run. -/
structure Config where
  /-- The dialect statements are read in. -/
  dialect : Dialect := .mysql
  /-- Whether the verdict counters are written after the last statement. -/
  summary : Bool := false
  /-- How the summary is drawn. -/
  style : TableStyle := .modern
  deriving DecidableEq, Repr, Inhabited

end QueryAudit
