import QueryAudit.Output
import QueryAudit.Table
import QueryAudit.Verdict

/-!
# Reports

A report counts the verdicts on statements. A statement that is not covered is written to the
reports; if its table is not known, a diagnosis is written first. The counts are drawn as a table.
-/

namespace QueryAudit

/-- How many statements had each verdict. The numbers have no bound: no run lasts for the statements
    that would go beyond words of 64 bits. -/
structure Counts where
  covered : Nat := 0
  uncovered : Nat := 0
  unknownTable : Nat := 0
  deriving DecidableEq, Repr

namespace Counts

/-- Count one more verdict. -/
def add (c : Counts) : Verdict → Counts
  | .covered => { c with covered := c.covered + 1 }
  | .uncovered => { c with uncovered := c.uncovered + 1 }
  | .unknownTable => { c with unknownTable := c.unknownTable + 1 }

/-- The number of statements. -/
def total (c : Counts) : Nat :=
  c.covered + c.uncovered + c.unknownTable

/-- The number of statements that are not covered. -/
def flagged (c : Counts) : Nat :=
  c.uncovered + c.unknownTable

def table (c : Counts) : Table :=
  { header := ["verdict", "statements"]
    rows :=
      [[Verdict.covered.text, toString c.covered],
        [Verdict.uncovered.text, toString c.uncovered],
        [Verdict.unknownTable.text, toString c.unknownTable]] }

end Counts

/-- The counts so far, and the output. -/
structure Report where
  output : Output := {}
  counts : Counts := {}
  deriving DecidableEq, Repr

namespace Report

def writeLine (r : Report) (c : Channel) (text : String) : Attempt Report :=
  let written := r.output.writeLine c text
  ⟨{ r with output := written.state }, written.failure⟩

/-- The diagnosis of a statement on a table that is not known. -/
def diagnosis (table query : String) : String :=
  "table '" ++ table ++ "' has no index information: " ++ query

/-- Count a verdict on a statement, and write what it calls for. -/
def emit (r : Report) (query table : String) (v : Verdict) : Attempt Report :=
  -- a verdict counts even if what it calls for cannot be written
  let r := { r with counts := r.counts.add v }
  match v with
  | .covered => ⟨r, none⟩
  | .uncovered => r.writeLine .out query
  | .unknownTable =>
    (r.writeLine .diag (diagnosis table query)).andThen fun r => r.writeLine .out query

def writeSummary (r : Report) (style : TableStyle) : Attempt Report :=
  r.writeLine .diag (r.counts.table.render style)

/-- Flush both channels. -/
def flush (r : Report) : Report :=
  { r with output := (r.output.flush .out).flush .diag }

end Report

end QueryAudit
