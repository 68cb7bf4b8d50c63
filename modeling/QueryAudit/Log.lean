import QueryAudit.Verdict

/-!
# Log

What a run notes for its operator. A note is kept with its weight and its wording. How a log would
put it on a line, with the time and the place in the program, is left out, and so are the lines that
it would add to the diagnostics: a run writes what it writes when its log is off.
-/

namespace QueryAudit

/-- What is worth a note. -/
inductive Note where
  /-- A catalog was loaded. -/
  | loaded (tables columns : Nat)
  /-- A statement on a table, with so many columns, got a verdict. -/
  | checked (table : String) (columns : Nat) (verdict : Verdict)
  /-- The catalog does not mention the table of a statement. -/
  | missing (table : String)
  deriving DecidableEq, Repr

/-- How much weight a note has. -/
inductive Level where
  | debug
  | info
  | warn
  deriving DecidableEq, Repr

def Level.name : Level → String
  | .debug => "DEBUG"
  | .info => "INFO"
  | .warn => "WARN"

def Note.level : Note → Level
  | .loaded _ _ => .info
  | .checked _ _ _ => .debug
  | .missing _ => .warn

def Note.message : Note → String
  | .loaded _ _ => "loaded index catalog"
  | .checked _ _ _ => "checked statement"
  | .missing _ => "table missing from index catalog"

/-- The note on a catalog that was loaded. -/
def Catalog.note (c : Catalog) : Note :=
  .loaded c.tableCount c.columnCount

/-- What is noted at the end of a run that has checked all its statements. -/
structure Closing where
  statements : Nat
  flagged : Nat
  deriving DecidableEq, Repr

def Closing.level (_ : Closing) : Level := .info

def Closing.message (_ : Closing) : String := "audit finished"

end QueryAudit
