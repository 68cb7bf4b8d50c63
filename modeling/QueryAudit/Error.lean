/-!
# Errors of a run

What may go wrong when an index list is loaded and statements are read, checked and reported, and
how each error is worded.
-/

namespace QueryAudit

/-- What went wrong. -/
inductive Error where
  /-- A record of the index list is not a pair of a table and a column. -/
  | recordWidth (record fields : Nat)
  /-- The index list cannot be read. -/
  | catalog (text : String)
  /-- The input is no sequence of statements. -/
  | parse (text : String)
  /-- A statement with this canonical text is no selection. -/
  | notASelection (text : String)
  /-- Reading or writing failed. -/
  | io (text : String)
  deriving DecidableEq, Repr

def Error.message : Error → String
  | .recordWidth record fields =>
    s!"catalog format: record {record} has {fields} fields, expected 2"
  | .catalog text => "catalog: " ++ text
  | .parse text => "parse: " ++ text
  | .notASelection text => "only SELECT queries are supported: " ++ text
  | .io text => text

end QueryAudit
