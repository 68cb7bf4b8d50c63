import QueryAudit.Columns
import QueryAudit.Log
import QueryAudit.Reader
import QueryAudit.Report

/-!
# Audits

Statements are read, checked and reported one at a time, and each report is flushed before more
input is taken. An error, or a statement that is no selection, ends the audit; what was reported
before stays. A summary is written only if all statements were checked.
-/

namespace QueryAudit

/-- An audit at work: what was reported and noted so far. -/
structure Audit where
  report : Report := {}
  notes : List Note := []
  deriving DecidableEq, Repr

namespace Audit

/-- Record that input was taken. -/
def recordReads (a : Audit) (pieces : List Nat) : Audit :=
  { a with report := { a.report with output := a.report.output.recordReads pieces } }

def notesOn (table : String) (columns : Nat) (v : Verdict) : List Note :=
  .checked table columns v :: if v = .unknownTable then [.missing table] else []

def verdict (catalog : Catalog) (s : Selection) : Verdict :=
  check catalog s.table (columns s.condition)

/-- Check a selection and report it. -/
def checkSelection (catalog : Catalog) (a : Audit) (s : Selection) : Attempt Audit :=
  let v := verdict catalog s
  let notes := a.notes ++ notesOn s.table (columns s.condition).length v
  let emitted := a.report.emit s.render s.table v
  match emitted.failure with
  | some e => ⟨⟨emitted.state, notes⟩, some e⟩
  | none => ⟨⟨emitted.state.flush, notes⟩, none⟩

/-- The selection that an item is, or why it is none. -/
def selectionOf : Item → Except Error Selection
  | .error e => .error e
  | .ok statement => statement.selection

def onItem (catalog : Catalog) (a : Audit) (item : Item) : Attempt Audit :=
  match selectionOf item with
  | .error e => ⟨a, some e⟩
  | .ok s => checkSelection catalog a s

/-- Deal with readings in order, up to the end or the first failure. -/
def overReadings (catalog : Catalog) (a : Audit) : List Reading → Attempt Audit
  | [] => ⟨a, none⟩
  | r :: rs =>
    let a := a.recordReads r.pieces
    match r.item with
    | none => ⟨a, none⟩
    | some item => (onItem catalog a item).andThen fun a => overReadings catalog a rs

/-- Write and flush the summary. -/
def summarize (style : TableStyle) (a : Audit) : Attempt Audit :=
  let written := a.report.writeSummary style
  match written.failure with
  | some e => ⟨{ a with report := written.state }, some e⟩
  | none => ⟨{ a with report := written.state.flush }, none⟩

/-- End an audit after its loop. The channels are flushed in any case. -/
def finish (config : Config) (looped : Attempt Audit) : Attempt Audit :=
  let a := { looped.state with report := looped.state.report.flush }
  match looped.failure with
  | some e => ⟨a, some e⟩
  | none => if config.summary then summarize config.style a else ⟨a, none⟩

end Audit

/-- What an audit came to. -/
structure Audited where
  output : Output
  notes : List Note
  /-- The counts, or what ended the audit. -/
  result : Except Error Counts

/-- The audit of a source against a catalog. -/
def audit (catalog : Catalog) (config : Config) (source : Source) (output : Output) : Audited :=
  let start : Audit := { report := { output } }
  let readings := (Reader.start config.dialect source).readings
  let done := Audit.finish config (Audit.overReadings catalog start readings)
  { output := done.state.report.output
    notes := done.state.notes
    result :=
      match done.failure with
      | some e => .error e
      | none => .ok done.state.report.counts }

end QueryAudit
