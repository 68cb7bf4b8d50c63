import QueryAudit.Proofs.Lines

/-!
# Counts and what was written

A report counts a verdict before it writes anything, and keeps the count if the writing fails. So
the counts after some calls are those of their verdicts, whatever the sinks accept. The statements
that are counted as flagged are those whose whole line was accepted and those whose report failed.
Every one of them was accepted just as long as there is room for all lines that are to be written
for them.
-/

namespace QueryAudit

/-! ### One write after the other -/

namespace Sink

variable {s : Sink}

theorem fits_iff (bytes : List UInt8) :
    s.fits bytes = true ↔ ∀ n, s.limit = some n → bytes.length ≤ n - s.written.length := by
  rw [fits, accepted, decide_eq_true_eq]
  cases s.limit with
  | none => simp
  | some n =>
    simp only [Option.some.injEq, forall_eq', List.length_take]
    omega

/-- Bytes fit if a first part does and then the rest. -/
theorem fits_append (a b : List UInt8) :
    s.fits (a ++ b) = true ↔ s.fits a = true ∧ (s.write a).fits b = true := by
  rw [fits_iff, fits_iff, fits_iff, write, accepted]
  cases hn : s.limit with
  | none => simp
  | some n =>
    simp only [Option.some.injEq, forall_eq', List.length_append, List.length_take]
    omega

/-- A sink that refused bytes accepts none behind them. -/
theorem fits_of_fits_write {a b : List UInt8} (hb : b ≠ []) (h : (s.write a).fits b = true) :
    s.fits a = true := by
  rw [fits_iff] at h ⊢
  intro n hn
  have hlength := List.length_pos_of_ne_nil hb
  have hroom := h n hn
  rw [write, accepted, hn] at hroom
  simp only [List.length_append, List.length_take] at hroom
  omega

theorem fits_nil : s.fits [] = true := by
  rw [fits_iff]
  intro n _
  exact Nat.zero_le _

theorem write_nil : s.write [] = s := by
  have haccepted : s.accepted [] = [] := accepted_of_fits fits_nil
  rw [write, haccepted, fits_nil, List.append_nil, Bool.not_true, Bool.or_false]

/-- Bytes are written whole if and only if they fit. -/
theorem written_write_iff (bytes : List UInt8) :
    (s.write bytes).written = s.written ++ bytes ↔ s.fits bytes = true := by
  rw [write, List.append_cancel_left_eq]
  constructor
  · intro h
    rw [fits, h]
    exact decide_eq_true rfl
  · exact accepted_of_fits

end Sink

namespace Report

/-! ### Calls -/

/-- What may be asked of a report. -/
inductive Call where
  | emit (query table : String) (verdict : Verdict)
  | summary (style : TableStyle)
  | flush
  deriving DecidableEq, Repr

namespace Call

def verdict : Call → Option Verdict
  | emit _ _ v => some v
  | summary _ => none
  | flush => none

/-- What a call writes to the reports if nothing fails. -/
def reportLine : Call → List UInt8
  | emit query _ v => if v = .covered then [] else lineBytesOf query
  | summary _ => []
  | flush => []

/-- What a call writes to the diagnostics if nothing fails, the counts being these before it. -/
def diagnosisLine (counts : Counts) : Call → List UInt8
  | emit query table v => if v = .unknownTable then lineBytesOf (diagnosis table query) else []
  | summary style => lineBytesOf (counts.table.render style)
  | flush => []

/-- Whether a call is for a statement on a table that is not known. -/
def diagnoses : Call → Bool
  | emit _ _ v => v = .unknownTable
  | summary _ => false
  | flush => false

theorem diagnosisLine_ne_nil {c : Call} (h : c.diagnoses = true) (counts : Counts) :
    c.diagnosisLine counts ≠ [] := by
  cases c with
  | emit query table v =>
    rw [diagnosisLine, if_pos (of_decide_eq_true h)]
    exact lineBytesOf_ne_nil _
  | summary style => cases h
  | flush => cases h

end Call

def call (r : Report) : Call → Attempt Report
  | .emit query table v => r.emit query table v
  | .summary style => r.writeSummary style
  | .flush => ⟨r.flush, none⟩

/-- The report behind some calls. A call is made whether or not those before it failed. -/
def afterCalls (r : Report) (calls : List Call) : Report :=
  calls.foldl (fun r c => (r.call c).state) r

/-- Whether a call is for a statement, and all of the line for it is accepted. -/
def reported (r : Report) : Call → Bool
  | .emit query table v =>
    (r.emit query table v).state.output.out.written = r.output.out.written ++ lineBytesOf query
  | .summary _ => false
  | .flush => false

/-- Whether a call is for a statement, and fails. -/
def lost (r : Report) : Call → Bool
  | .emit query table v => (r.emit query table v).failure.isSome
  | .summary _ => false
  | .flush => false

/-- How many of some calls have a property that is asked for before each of them. -/
def countCalls (r : Report) (property : Report → Call → Bool) : List Call → Nat
  | [] => 0
  | c :: cs => (property r c).toNat + countCalls (r.call c).state property cs

/-- What calls write to the reports if nothing fails. -/
def reportText (calls : List Call) : List UInt8 :=
  calls.flatMap Call.reportLine

/-- What calls write to the diagnostics if nothing fails, through the last statement on a table that
    is not known. -/
def diagnosisText (counts : Counts) : List Call → List UInt8
  | [] => []
  | c :: cs =>
    if (c :: cs).any Call.diagnoses then
      c.diagnosisLine counts ++ diagnosisText (c.verdict.elim counts counts.add) cs
    else []

/-! ### One call -/

theorem sink_writeLine (r : Report) (c : Channel) (text : String) :
    (r.writeLine c text).state.output.sink c = (r.output.sink c).write (lineBytesOf text) :=
  r.output.sink_writeBytes c _

theorem sink_writeLine_of_ne (r : Report) {c c' : Channel} (h : c' ≠ c) (text : String) :
    (r.writeLine c text).state.output.sink c' = r.output.sink c' :=
  r.output.sink_writeBytes_of_ne h _

theorem failure_writeLine (r : Report) (c : Channel) (text : String) :
    (r.writeLine c text).failure.isSome = !(r.output.sink c).fits (lineBytesOf text) := by
  have hfailure : (r.writeLine c text).failure =
      if (r.output.sink c).fits (lineBytesOf text) then none else some (Output.full c) :=
    r.output.failure_writeBytes c _
  rw [hfailure]
  cases (r.output.sink c).fits (lineBytesOf text) <;> rfl

/-- A call changes the counts by its verdict, whether or not it fails. -/
theorem counts_call (r : Report) (c : Call) :
    (r.call c).state.counts = c.verdict.elim r.counts r.counts.add := by
  cases c with
  | emit query table v =>
    cases v with
    | covered => rfl
    | uncovered => rfl
    | unknownTable =>
      rw [call, emit, Attempt.andThen]
      split <;> rfl
  | summary style => rfl
  | flush => rfl

variable (r : Report) (query table : String)

/-- What is left behind a statement that is not covered. -/
theorem emit_uncovered :
    (r.emit query table .uncovered).state.output.out = r.output.out.write (lineBytesOf query) ∧
      (r.emit query table .uncovered).state.output.diag = r.output.diag ∧
      (r.emit query table .uncovered).failure.isSome = !r.output.out.fits (lineBytesOf query) := by
  let counted : Report := { r with counts := r.counts.add .uncovered }
  have hother : Channel.diag ≠ Channel.out := by decide
  exact ⟨sink_writeLine counted .out query, sink_writeLine_of_ne counted hother query,
    failure_writeLine counted .out query⟩

/-- What is left behind a statement on a table that is not known: its line is only written if the
    diagnosis is accepted. -/
theorem emit_unknownTable :
    let told := r.output.diag.fits (lineBytesOf (diagnosis table query))
    (r.emit query table .unknownTable).state.output.out =
        (if told then r.output.out.write (lineBytesOf query) else r.output.out) ∧
      (r.emit query table .unknownTable).state.output.diag =
        r.output.diag.write (lineBytesOf (diagnosis table query)) ∧
      (r.emit query table .unknownTable).failure.isSome =
        !(told && r.output.out.fits (lineBytesOf query)) := by
  intro told
  let counted : Report := { r with counts := r.counts.add .unknownTable }
  let first := counted.writeLine .diag (diagnosis table query)
  have hemit : r.emit query table .unknownTable = first.andThen (·.writeLine .out query) := rfl
  have hdiag : first.state.output.sink .diag = r.output.diag.write _ := sink_writeLine _ .diag _
  have hout : first.state.output.sink .out = r.output.out :=
    sink_writeLine_of_ne counted (by decide) _
  have hfailure : first.failure.isSome = !told := failure_writeLine _ .diag _
  rw [hemit, Attempt.andThen]
  -- only an accepted diagnosis leads on to the line of the report
  cases htold : told with
  | true =>
    rw [htold, Bool.not_true, Option.isSome_eq_false_iff, Option.isNone_iff_eq_none] at hfailure
    rw [hfailure, Bool.true_and, if_pos rfl, ← hout]
    exact ⟨sink_writeLine first.state .out query,
      (sink_writeLine_of_ne first.state (by decide) query).trans hdiag,
      failure_writeLine first.state .out query⟩
  | false =>
    rw [htold, Bool.not_false] at hfailure
    obtain ⟨e, he⟩ := Option.isSome_iff_exists.mp hfailure
    rw [he, if_neg Bool.false_ne_true]
    refine ⟨hout, hdiag, ?_⟩
    dsimp only
    rw [he]
    rfl

/-- A call for a flagged statement gets the whole line for it accepted or fails, and not both; no
    other call does either. -/
theorem flagged_call (c : Call) :
    (r.call c).state.counts.flagged =
      r.counts.flagged + ((r.reported c).toNat + (r.lost c).toNat) := by
  rw [counts_call]
  -- no line is empty, so a sink that stays as it is has not got one
  have hnone (s : Sink) (text : String) :
      decide (s.written = s.written ++ lineBytesOf text) = false := by
    simp [lineBytesOf_ne_nil]
  cases c with
  | summary style => rfl
  | flush => rfl
  | emit query table v =>
    cases v with
    | covered =>
      have hreported : r.reported (.emit query table .covered) = false := hnone _ _
      have hlost : r.lost (.emit query table .covered) = false := rfl
      rw [hreported, hlost]
      rfl
    | uncovered =>
      obtain ⟨hout, -, hfailure⟩ := r.emit_uncovered query table
      have hcount : (r.counts.add .uncovered).flagged = r.counts.flagged + 1 := by
        simp only [Counts.add, Counts.flagged]
        omega
      rw [Call.verdict, Option.elim, hcount, reported, lost, hout, hfailure]
      simp only [Sink.written_write_iff]
      cases r.output.out.fits (lineBytesOf query) <;> rfl
    | unknownTable =>
      obtain ⟨hout, -, hfailure⟩ := r.emit_unknownTable query table
      have hcount : (r.counts.add .unknownTable).flagged = r.counts.flagged + 1 := by
        simp only [Counts.add, Counts.flagged]
        omega
      rw [Call.verdict, Option.elim, hcount, reported, lost, hout, hfailure]
      cases r.output.diag.fits (lineBytesOf (diagnosis table query)) with
      | true =>
        simp only [if_true, Sink.written_write_iff]
        cases r.output.out.fits (lineBytesOf query) <;> rfl
      | false =>
        rw [if_neg Bool.false_ne_true, hnone]
        rfl

/-- A call fails to report if its line or its diagnosis is not accepted. -/
theorem lost_eq_false_iff (c : Call) :
    r.lost c = false ↔ r.output.out.fits c.reportLine = true ∧
      (c.diagnoses = true → r.output.diag.fits (c.diagnosisLine r.counts) = true) := by
  cases c with
  | summary style => simp [lost, Call.reportLine, Call.diagnoses, Sink.fits_nil]
  | flush => simp [lost, Call.reportLine, Call.diagnoses, Sink.fits_nil]
  | emit query table v =>
    cases v with
    | covered => simp [lost, emit, Call.reportLine, Call.diagnoses, Sink.fits_nil]
    | uncovered =>
      rw [lost, (r.emit_uncovered query table).2.2]
      simp [Call.reportLine, Call.diagnoses]
    | unknownTable =>
      rw [lost, (r.emit_unknownTable query table).2.2]
      simp [Call.reportLine, Call.diagnoses, Call.diagnosisLine, and_comm]

/-- A call that does not fail to report gives each sink what it accepts. -/
theorem sinks_call {c : Call} (h : r.lost c = false) :
    (r.call c).state.output.out = r.output.out.write c.reportLine ∧
      (r.call c).state.output.diag = r.output.diag.write (c.diagnosisLine r.counts) := by
  have hnothing (s : Sink) : s = s.write [] := Sink.write_nil.symm
  cases c with
  | summary style =>
    have hother : Channel.out ≠ Channel.diag := by decide
    exact ⟨(sink_writeLine_of_ne r hother _).trans (hnothing _), sink_writeLine r .diag _⟩
  | flush => exact ⟨hnothing _, hnothing _⟩
  | emit query table v =>
    cases v with
    | covered => exact ⟨hnothing _, hnothing _⟩
    | uncovered =>
      obtain ⟨hout, hdiag, -⟩ := r.emit_uncovered query table
      exact ⟨hout, hdiag.trans (hnothing _)⟩
    | unknownTable =>
      obtain ⟨hout, hdiag, -⟩ := r.emit_unknownTable query table
      -- a call that loses nothing had its diagnosis accepted
      have htold : r.output.diag.fits (lineBytesOf (diagnosis table query)) = true :=
        ((r.lost_eq_false_iff _).mp h).2 rfl
      rw [if_pos htold] at hout
      exact ⟨hout, hdiag⟩

/-! ### Calls one after the other -/

/-- The counts behind calls are those of their verdicts. -/
theorem counts_afterCalls (calls : List Call) :
    (r.afterCalls calls).counts = (calls.filterMap Call.verdict).foldl Counts.add r.counts := by
  induction calls generalizing r with
  | nil => rfl
  | cons c calls ih =>
    rw [afterCalls, List.foldl_cons]
    refine (ih (r.call c).state).trans ?_
    rw [counts_call, List.filterMap_cons]
    cases c.verdict <;> rfl

/-- Behind calls the statements are counted that were reported or lost. -/
theorem flagged_afterCalls (calls : List Call) :
    (r.afterCalls calls).counts.flagged =
      r.counts.flagged + (r.countCalls reported calls + r.countCalls lost calls) := by
  induction calls generalizing r with
  | nil => rfl
  | cons c calls ih =>
    rw [afterCalls, List.foldl_cons]
    refine (ih (r.call c).state).trans ?_
    rw [flagged_call, countCalls, countCalls]
    omega

/-- Nothing is to be diagnosed if no statement is on a table that is not known. -/
theorem diagnosisText_eq_nil_iff (counts : Counts) (calls : List Call) :
    diagnosisText counts calls = [] ↔ calls.any Call.diagnoses = false := by
  induction calls generalizing counts with
  | nil => simp [diagnosisText]
  | cons c calls ih =>
    rw [diagnosisText]
    cases hany : (c :: calls).any Call.diagnoses with
    | false => simp
    | true =>
      rw [if_pos rfl, List.append_eq_nil_iff, ih]
      refine iff_of_false ?_ (by simp)
      rintro ⟨hline, hcalls⟩
      rw [List.any_cons, hcalls, Bool.or_false] at hany
      exact Call.diagnosisLine_ne_nil hany counts hline

/-- No call fails to report if and only if there is room for what they report and diagnose. -/
theorem no_lost_iff (calls : List Call) :
    r.countCalls lost calls = 0 ↔ r.output.out.fits (reportText calls) = true ∧
      r.output.diag.fits (diagnosisText r.counts calls) = true := by
  induction calls generalizing r with
  | nil => simp [countCalls, reportText, diagnosisText, Sink.fits_nil]
  | cons c calls ih =>
    have hlost := r.lost_eq_false_iff c
    have hreport : reportText (c :: calls) = c.reportLine ++ reportText calls := rfl
    rw [countCalls, Nat.add_eq_zero_iff, Bool.toNat_eq_zero, ih, counts_call, hreport,
      Sink.fits_append, diagnosisText]
    constructor
    · rintro ⟨hkept, hreports, hdiagnoses⟩
      obtain ⟨hout, hdiag⟩ := r.sinks_call hkept
      rw [hout] at hreports
      rw [hdiag] at hdiagnoses
      obtain ⟨hline, htold⟩ := hlost.mp hkept
      refine ⟨⟨hline, hreports⟩, ?_⟩
      split
      · next hany =>
        rw [Sink.fits_append]
        refine ⟨?_, hdiagnoses⟩
        rw [List.any_cons, Bool.or_eq_true] at hany
        rcases hany with hfirst | hrest
        · exact htold hfirst
        · -- a later diagnosis is accepted, so nothing was refused before
          refine Sink.fits_of_fits_write (fun hnil => ?_) hdiagnoses
          rw [diagnosisText_eq_nil_iff, hrest] at hnil
          cases hnil
      · exact Sink.fits_nil
    · rintro ⟨⟨hline, hreports⟩, hdiagnoses⟩
      split at hdiagnoses
      · rw [Sink.fits_append] at hdiagnoses
        have hkept := hlost.mpr ⟨hline, fun _ => hdiagnoses.1⟩
        obtain ⟨hout, hdiag⟩ := r.sinks_call hkept
        rw [hout, hdiag]
        exact ⟨hkept, hreports, hdiagnoses.2⟩
      · next hnone =>
        rw [List.any_cons, Bool.or_eq_true, not_or, Bool.not_eq_true, Bool.not_eq_true] at hnone
        have hkept := hlost.mpr ⟨hline, fun hfirst => by simp [hnone.1] at hfirst⟩
        rw [(r.sinks_call hkept).1, (diagnosisText_eq_nil_iff _ calls).mpr hnone.2]
        exact ⟨hkept, hreports, Sink.fits_nil⟩

end Report

/-- After any calls on a new report, whatever its sinks accept, the counts are those of the verdicts
    of the calls. The statements that are counted as flagged are those whose whole line was accepted
    and those whose report failed. They are as many as the former if and only if there is room for
    the lines of all of them, and for what is to be diagnosed through the last one that needs it. -/
theorem flagged_by_calls (output : Output) (calls : List Report.Call) :
    let start : Report := { output }
    let counts := (start.afterCalls calls).counts
    counts = (calls.filterMap Report.Call.verdict).foldl Counts.add {} ∧
    counts.flagged = start.countCalls Report.reported calls + start.countCalls Report.lost calls ∧
    (counts.flagged = start.countCalls Report.reported calls ↔
      output.out.fits (Report.reportText calls) = true ∧
        output.diag.fits (Report.diagnosisText {} calls) = true) := by
  intro start counts
  have hflagged : counts.flagged =
      start.countCalls Report.reported calls + start.countCalls Report.lost calls :=
    (start.flagged_afterCalls calls).trans (Nat.zero_add _)
  refine ⟨start.counts_afterCalls calls, hflagged, ?_⟩
  rw [hflagged, Nat.add_eq_left]
  exact start.no_lost_iff calls

/-- A statement whose line is not accepted is counted as flagged. -/
theorem refused_report_is_counted :
    let start : Report := { output := { out := { limit := some 0 } } }
    let calls := [Report.Call.emit "SELECT 1" "t" .uncovered]
    (start.afterCalls calls).counts.flagged = 1 ∧ start.countCalls Report.reported calls = 0 := by
  decide +kernel

end QueryAudit
