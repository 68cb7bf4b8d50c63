import QueryAudit.Columns
import QueryAudit.Output
import QueryAudit.Reader
import QueryAudit.Text.Json

/-!
# Extraction

For each statement the table and the columns of its condition are written as one line of JSON. An
insertion has a table and no columns. An error, or a statement of another kind, ends the extraction;
what was written before stays.
-/

namespace QueryAudit

/-- The table and the columns of a statement. -/
structure Extract where
  table : String
  columns : List String
  deriving DecidableEq, Repr

/-- An extract as JSON. -/
def Extract.render (x : Extract) : String :=
  Json.object
    [("table", Json.quote x.table), ("columns", Json.array (x.columns.map Json.quote))]

/-- What is extracted from a statement; not every kind of statement is accepted. -/
def Statement.extract : Statement → Except Error Extract
  | .select s => .ok ⟨s.table, columns s.condition⟩
  | .insert table _ => .ok ⟨table, []⟩
  | .other statement => .error (.notASelection statement.render)

/-- An extraction at work: what was written, and how many lines. -/
structure Extraction where
  output : Output := {}
  lines : Nat := 0
  deriving DecidableEq, Repr

namespace Extraction

/-- What is extracted from an item. -/
def extractOf : Item → Except Error Extract
  | .error e => .error e
  | .ok statement => statement.extract

/-- Write and flush a line. -/
def writeExtract (x : Extraction) (e : Extract) : Attempt Extraction :=
  let written := x.output.writeLine .out e.render
  match written.failure with
  | some error => ⟨{ x with output := written.state }, some error⟩
  | none => ⟨⟨written.state.flush .out, x.lines + 1⟩, none⟩

def onItem (x : Extraction) (item : Item) : Attempt Extraction :=
  match extractOf item with
  | .error e => ⟨x, some e⟩
  | .ok e => x.writeExtract e

/-- Deal with readings in order, up to the end or the first failure. -/
def overReadings (x : Extraction) : List Reading → Attempt Extraction
  | [] => ⟨x, none⟩
  | r :: rs =>
    let x := { x with output := x.output.recordReads r.pieces }
    match r.item with
    | none => ⟨x, none⟩
    | some item => (x.onItem item).andThen fun x => overReadings x rs

end Extraction

/-- What an extraction came to. -/
structure Extracted where
  output : Output
  /-- The number of lines, or what ended the extraction. -/
  result : Except Error Nat

/-- The extraction from a source. The channel is flushed in any case. -/
def extract (d : Dialect) (source : Source) (output : Output) : Extracted :=
  let done := Extraction.overReadings { output } (Reader.start d source).readings
  { output := done.state.output.flush .out
    result :=
      match done.failure with
      | some e => .error e
      | none => .ok done.state.lines }

end QueryAudit
