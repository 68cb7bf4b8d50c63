import QueryAudit.Catalog

/-!
# Verdicts

A statement is covered if at least one of its columns is indexed on its table. Columns are looked at
in order and only up to the first indexed one; of a table that is not known none is looked at.
-/

namespace QueryAudit

/-- What is said of a statement. -/
inductive Verdict where
  | covered
  | uncovered
  /-- The catalog does not mention the table. -/
  | unknownTable
  deriving DecidableEq, Repr, Inhabited

def Verdict.text : Verdict → String
  | .covered => "covered"
  | .uncovered => "uncovered"
  | .unknownTable => "unknown table"

/-- Whether a statement is reported. -/
def Verdict.flagged (v : Verdict) : Bool :=
  v ≠ .covered

/-- A verdict, and the columns that were looked at for it, in order. -/
structure Inspection where
  verdict : Verdict
  columns : List String := []
  deriving DecidableEq, Repr

/-- Look at columns of a table that is known, until one is indexed. -/
def Indexes.inspect (indexes : Indexes) : List String → Inspection
  | [] => ⟨.uncovered, []⟩
  | c :: cs =>
    if indexes.contains c then ⟨.covered, [c]⟩
    else
      let later := indexes.inspect cs
      ⟨later.verdict, c :: later.columns⟩

/-- Look at columns of a table. -/
def inspect (catalog : Catalog) (table : String) (columns : List String) : Inspection :=
  let indexes := catalog.lookup table
  if indexes.known then indexes.inspect columns else ⟨.unknownTable, []⟩

/-- The verdict on columns of a table. -/
def check (catalog : Catalog) (table : String) (columns : List String) : Verdict :=
  (inspect catalog table columns).verdict

/-- How many columns are looked at for a verdict. -/
def examined (catalog : Catalog) (table : String) (columns : List String) : Nat :=
  (inspect catalog table columns).columns.length

end QueryAudit
