import QueryAudit.Audit
import QueryAudit.Proofs.Reading
import QueryAudit.Proofs.Sinks

/-!
# What an audit reports

An audit deals with one statement at a time and can be ended by any of them. What it comes to is
known from all items of its reader: the selections before the first item that is none of them are
reported, noted and counted, and the first other item is what ended the audit.
-/

namespace QueryAudit

/-! ### All items at once -/

/-- The selections before the first item that is none. -/
def selectionsOf : List Item → List Selection
  | .ok (.select s) :: items => s :: selectionsOf items
  | _ => []

/-- Why the first item that is no selection ends an audit, if there is such an item. -/
def stopOf : List Item → Option Error
  | [] => none
  | .error e :: _ => some e
  | .ok (.select _) :: items => stopOf items
  | .ok statement :: _ => some (.notASelection statement.render)

def selectionItems (ss : List Selection) : List Item :=
  ss.map fun s => .ok (.select s)

def lineBytesOf (text : String) : List UInt8 :=
  Utf8.encode (text.push '\n')

variable (catalog : Catalog)

/-- The lines for selections that are not covered. -/
def reports (ss : List Selection) : List UInt8 :=
  (ss.filter fun s => Audit.verdict catalog s ≠ .covered).flatMap fun s => lineBytesOf s.render

/-- The lines for selections on tables that are not known. -/
def diagnoses (ss : List Selection) : List UInt8 :=
  (ss.filter fun s => Audit.verdict catalog s = .unknownTable).flatMap fun s =>
    lineBytesOf ("table '" ++ s.table ++ "' has no index information: " ++ s.render)

/-- The number of selections with each verdict. -/
def tally (ss : List Selection) : Counts where
  covered := ss.countP fun s => Audit.verdict catalog s = .covered
  uncovered := ss.countP fun s => Audit.verdict catalog s = .uncovered
  unknownTable := ss.countP fun s => Audit.verdict catalog s = .unknownTable

/-- The notes on selections, one after the other. -/
def notesOf (ss : List Selection) : List Note :=
  ss.flatMap fun s =>
    .checked s.table (columns s.condition).length (Audit.verdict catalog s) ::
      if Audit.verdict catalog s = .unknownTable then [.missing s.table] else []

/-! ### Reports without a limit -/

/-- What a report has written to sinks without a limit, and what it has counted. -/
structure Report.Holds (r : Report) (out diag : List UInt8) (counts : Counts) : Prop where
  out_eq : r.output.sink .out = { written := out }
  diag_eq : r.output.sink .diag = { written := diag }
  counts_eq : r.counts = counts

namespace Report.Holds

variable {r : Report} {out diag : List UInt8} {counts : Counts}

theorem writeOut (h : r.Holds out diag counts) (text : String) :
    (r.writeLine .out text).failure = none ∧
      (r.writeLine .out text).state.Holds (out ++ lineBytesOf text) diag counts := by
  refine ⟨?_, ?_, ?_, h.counts_eq⟩
  · rw [Report.writeLine, Output.writeLine, Output.failure_writeBytes, h.out_eq,
      Sink.fits_of_unlimited rfl]
    rfl
  · rw [Report.writeLine, Output.writeLine, Output.sink_writeBytes, h.out_eq,
      Sink.write_of_unlimited rfl]
    rfl
  · rw [Report.writeLine, Output.writeLine, Output.sink_writeBytes_of_ne _ (by decide), h.diag_eq]

theorem writeDiag (h : r.Holds out diag counts) (text : String) :
    (r.writeLine .diag text).failure = none ∧
      (r.writeLine .diag text).state.Holds out (diag ++ lineBytesOf text) counts := by
  refine ⟨?_, ?_, ?_, h.counts_eq⟩
  · rw [Report.writeLine, Output.writeLine, Output.failure_writeBytes, h.diag_eq,
      Sink.fits_of_unlimited rfl]
    rfl
  · rw [Report.writeLine, Output.writeLine, Output.sink_writeBytes_of_ne _ (by decide), h.out_eq]
  · rw [Report.writeLine, Output.writeLine, Output.sink_writeBytes, h.diag_eq,
      Sink.write_of_unlimited rfl]
    rfl

theorem flush (h : r.Holds out diag counts) : r.flush.Holds out diag counts :=
  ⟨h.out_eq, h.diag_eq, h.counts_eq⟩

theorem count (h : r.Holds out diag counts) (v : Verdict) :
    ({ r with counts := r.counts.add v } : Report).Holds out diag (counts.add v) :=
  ⟨h.out_eq, h.diag_eq, by rw [h.counts_eq]⟩

/-- Emitting a verdict counts it and writes the lines that it calls for. -/
theorem emit (h : r.Holds out diag counts) (query table : String) (v : Verdict) :
    (r.emit query table v).failure = none ∧
      (r.emit query table v).state.Holds
        (out ++ if v ≠ .covered then lineBytesOf query else [])
        (diag ++ if v = .unknownTable then lineBytesOf (Report.diagnosis table query) else [])
        (counts.add v) := by
  cases v with
  | covered =>
    simp only [Report.emit, ne_eq, not_true_eq_false, if_false, reduceCtorEq, List.append_nil]
    exact ⟨trivial, h.count _⟩
  | uncovered =>
    simp only [Report.emit, ne_eq, reduceCtorEq, not_false_eq_true, if_true, if_false,
      List.append_nil]
    exact (h.count _).writeOut query
  | unknownTable =>
    -- the report is written behind the diagnosis, and only if that was
    obtain ⟨hfail, hdiag⟩ := (h.count .unknownTable).writeDiag (Report.diagnosis table query)
    simp only [Report.emit, Attempt.andThen, hfail, ne_eq, reduceCtorEq, not_false_eq_true,
      if_true]
    exact hdiag.writeOut query

end Report.Holds

/-! ### One selection -/

namespace Audit

/-- An audit that has dealt with some selections and with nothing else, its sinks being without a
    limit. -/
structure Checked (ss : List Selection) (a : Audit) : Prop where
  report : a.report.Holds (reports catalog ss) (diagnoses catalog ss) (tally catalog ss)
  notes : a.notes = notesOf catalog ss

theorem Checked.start : Checked catalog [] {} :=
  ⟨⟨rfl, rfl, rfl⟩, rfl⟩

variable {catalog}

/-- Taking input changes nothing but the record of events. -/
theorem Checked.recordReads {ss : List Selection} {a : Audit} (h : Checked catalog ss a)
    (pieces : List Nat) : Checked catalog ss (a.recordReads pieces) :=
  ⟨⟨h.report.out_eq, h.report.diag_eq, h.report.counts_eq⟩, h.notes⟩

theorem reports_concat (ss : List Selection) (s : Selection) :
    reports catalog (ss ++ [s]) =
      reports catalog ss ++ if verdict catalog s ≠ .covered then lineBytesOf s.render else [] := by
  rw [reports, List.filter_append, List.flatMap_append, ← reports]
  by_cases h : verdict catalog s ≠ .covered <;> simp [h]

theorem diagnoses_concat (ss : List Selection) (s : Selection) :
    diagnoses catalog (ss ++ [s]) = diagnoses catalog ss ++
      if verdict catalog s = .unknownTable then lineBytesOf (Report.diagnosis s.table s.render)
      else [] := by
  rw [diagnoses, List.filter_append, List.flatMap_append, ← diagnoses]
  by_cases h : verdict catalog s = .unknownTable <;> simp [h, Report.diagnosis]

theorem tally_concat (ss : List Selection) (s : Selection) :
    tally catalog (ss ++ [s]) = (tally catalog ss).add (verdict catalog s) := by
  cases h : verdict catalog s <;> simp [tally, Counts.add, List.countP_append, h]

/-- Dealing with one more selection. -/
theorem Checked.step {ss : List Selection} {a : Audit} (h : Checked catalog ss a)
    (s : Selection) :
    (checkSelection catalog a s).failure = none ∧
      Checked catalog (ss ++ [s]) (checkSelection catalog a s).state := by
  obtain ⟨hfail, hholds⟩ := h.report.emit s.render s.table (verdict catalog s)
  rw [← reports_concat, ← diagnoses_concat, ← tally_concat] at hholds
  simp only [checkSelection, hfail]
  refine ⟨trivial, hholds.flush, ?_⟩
  rw [h.notes, notesOf, notesOf, List.flatMap_append]
  simp [notesOn]

/-! ### All readings -/

/-- An item that is no selection ends an audit. -/
theorem stopOf_of_error {item : Item} {e : Error} (h : selectionOf item = .error e)
    (items : List Item) : stopOf (item :: items) = some e ∧ selectionsOf (item :: items) = [] := by
  rcases item with e' | (s | ⟨table, statement⟩ | statement)
  · cases h
    exact ⟨rfl, rfl⟩
  · cases h
  · cases h
    exact ⟨rfl, rfl⟩
  · cases h
    exact ⟨rfl, rfl⟩

theorem eq_of_selectionOf {item : Item} {s : Selection} (h : selectionOf item = .ok s) :
    item = .ok (.select s) := by
  rcases item with e | (s' | ⟨table, statement⟩ | statement)
  · cases h
  · cases h
    rfl
  · cases h
  · cases h

/-- Dealing with readings: the selections at their front are dealt with, and the first other item
    is the failure. -/
theorem Checked.run {ss : List Selection} {a : Audit} (h : Checked catalog ss a)
    {readings : List Reading} {items : List Item}
    (hr : readings.map Reading.item = items.map some ++ [none]) :
    (overReadings catalog a readings).failure = stopOf items ∧
      Checked catalog (ss ++ selectionsOf items) (overReadings catalog a readings).state := by
  induction items generalizing ss a readings with
  | nil =>
    obtain ⟨r, rs, rfl, hnone, -⟩ := List.map_eq_cons_iff.mp hr
    simp only [overReadings, hnone, selectionsOf, List.append_nil]
    exact ⟨rfl, h.recordReads _⟩
  | cons item items ih =>
    obtain ⟨r, rs, rfl, hitem, hrest⟩ := List.map_eq_cons_iff.mp hr
    have hreads := h.recordReads r.pieces
    -- a selection adds to what was checked, and anything else is the end
    cases hs : selectionOf item with
    | error e =>
      -- the readings behind it are not dealt with
      obtain ⟨hstop, hnone⟩ := stopOf_of_error hs items
      simp only [overReadings, hitem, onItem, hs, Attempt.andThen]
      rw [hstop, hnone, List.append_nil]
      exact ⟨rfl, hreads⟩
    | ok s =>
      obtain ⟨hfail, hchecked⟩ := hreads.step s
      obtain rfl := eq_of_selectionOf hs
      have hall := ih hchecked hrest
      rw [List.append_assoc] at hall
      simp only [overReadings, hitem, onItem, hs, Attempt.andThen, hfail]
      exact hall

/-- The end of an audit writes the summary if it is asked for and nothing failed before. -/
theorem Checked.finish {ss : List Selection} {looped : Attempt Audit}
    (h : Checked catalog ss looped.state) (config : Config) :
    (Audit.finish config looped).failure = looped.failure ∧
      (Audit.finish config looped).state.notes = notesOf catalog ss ∧
      (Audit.finish config looped).state.report.Holds (reports catalog ss)
        (diagnoses catalog ss ++
          if looped.failure = none ∧ config.summary = true then
            lineBytesOf ((tally catalog ss).table.render config.style)
          else [])
        (tally catalog ss) := by
  have hflush := h.report.flush
  cases hfail : looped.failure with
  | some e =>
    simp only [Audit.finish, hfail, reduceCtorEq, false_and, if_false, List.append_nil]
    exact ⟨trivial, h.notes, hflush⟩
  | none =>
    cases hs : config.summary with
    | false =>
      simp only [Audit.finish, hfail, hs, Bool.false_eq_true, and_false, if_false,
        List.append_nil]
      exact ⟨trivial, h.notes, hflush⟩
    | true =>
      -- the summary is of the counts as they are behind the loop
      have hline := hflush.writeDiag (looped.state.report.flush.counts.table.render config.style)
      rw [hflush.counts_eq] at hline
      obtain ⟨hwritten, hholds⟩ := hline
      simp only [Audit.finish, hfail, hs, summarize, Report.writeSummary, hflush.counts_eq,
        hwritten, if_true, and_self]
      exact ⟨trivial, h.notes, hholds.flush⟩

end Audit

/-! ### What an audit comes to -/

/-- What a run has written, noted and come to. -/
structure Outcome where
  out : List UInt8
  diag : List UInt8
  notes : List Note
  result : Except Error Counts

def Audited.outcome (a : Audited) : Outcome :=
  ⟨a.output.out.written, a.output.diag.written, a.notes, a.result⟩

/-- The summary behind the statements, if it is asked for and they all were checked. -/
def Outcome.summaryOf (config : Config) (items : List Item) : List UInt8 :=
  if stopOf items = none ∧ config.summary = true then
    lineBytesOf ((tally catalog (selectionsOf items)).table.render config.style)
  else []

/-- The outcome of an audit of some items whose sinks take everything. -/
def Outcome.ofItems (config : Config) (items : List Item) : Outcome where
  out := reports catalog (selectionsOf items)
  diag := diagnoses catalog (selectionsOf items) ++ Outcome.summaryOf catalog config items
  notes := notesOf catalog (selectionsOf items)
  result :=
    match stopOf items with
    | none => .ok (tally catalog (selectionsOf items))
    | some e => .error e

/-- An audit whose sinks take everything, at its end. -/
theorem Audit.holds_of_items (config : Config) (source : Source) :
    let reader := Reader.start config.dialect source
    let checked := selectionsOf reader.items
    let done := Audit.finish config (Audit.overReadings catalog {} reader.readings)
    done.failure = stopOf reader.items ∧
    done.state.notes = notesOf catalog checked ∧
    done.state.report.Holds (reports catalog checked)
      (diagnoses catalog checked ++ Outcome.summaryOf catalog config reader.items)
      (tally catalog checked) := by
  intro reader checked done
  obtain ⟨hstop, hchecked⟩ := (Audit.Checked.start catalog).run reader.readings_eq
  obtain ⟨hfail, hnotes, hreport⟩ := hchecked.finish config
  rw [hstop] at hfail hreport
  exact ⟨hfail, hnotes, hreport⟩

/-- An audit whose sinks take everything comes to the outcome of its items. -/
theorem outcome_audit (config : Config) (source : Source) :
    (audit catalog config source {}).outcome =
      .ofItems catalog config (Reader.start config.dialect source).items := by
  obtain ⟨hfail, hnotes, hreport⟩ := Audit.holds_of_items catalog config source
  rw [Audited.outcome, Outcome.ofItems, Outcome.mk.injEq]
  refine ⟨congrArg Sink.written hreport.out_eq, congrArg Sink.written hreport.diag_eq, hnotes, ?_⟩
  simp only [audit]
  rw [hfail]
  cases stopOf (Reader.start config.dialect source).items with
  | none => exact congrArg Except.ok hreport.counts_eq
  | some e => rfl

/-- The diagnoses are open for more when an audit has come to its end. -/
theorem diag_audit (config : Config) (source : Source) :
    (audit catalog config source {}).output.diag =
      { written := (audit catalog config source {}).outcome.diag } := by
  obtain ⟨-, -, hreport⟩ := Audit.holds_of_items catalog config source
  rw [outcome_audit]
  exact hreport.diag_eq

/-- An audit whose sinks take everything comes to this: of the selections before the first item that
    is none, those that are not covered are the reports, those on unknown tables are the diagnoses,
    each with its line, and each is noted. If every item is a selection, the summary follows where
    it is asked for, and the result are the counts; else the result is what ended the audit. -/
theorem audit_eq_batch (config : Config) (source : Source) :
    let items := (Reader.start config.dialect source).items
    let checked := selectionsOf items
    let done := audit catalog config source {}
    done.output.out.written = reports catalog checked ∧
    done.output.diag.written = diagnoses catalog checked ++
      (if stopOf items = none ∧ config.summary = true then
        lineBytesOf ((tally catalog checked).table.render config.style)
      else []) ∧
    done.notes = notesOf catalog checked ∧
    done.result =
      match stopOf items with
      | none => .ok (tally catalog checked)
      | some e => .error e := by
  have h := outcome_audit catalog config source
  exact ⟨congrArg Outcome.out h, congrArg Outcome.diag h, congrArg Outcome.notes h,
    congrArg Outcome.result h⟩

end QueryAudit
