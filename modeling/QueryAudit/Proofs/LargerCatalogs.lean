import Mathlib.Data.List.Basic
import QueryAudit.Proofs.Records
import QueryAudit.Proofs.ReportLines

/-!
# Audits under larger catalogs

Which statements an audit checks, and how it ends, is a matter of its source. What it says of them
follows from the records of the catalog. So of two audits of one source the one with more records
reports and diagnoses nothing that the other one does not, and covers all that the other one covers.
-/

namespace QueryAudit

/-- The selections that are diagnosed: those on tables that are not known. -/
def unknownOf (catalog : Catalog) (ss : List Selection) : List Selection :=
  ss.filter fun s => Audit.verdict catalog s = .unknownTable

/-- The line for a selection on a table that is not known. -/
def diagnosisLine (s : Selection) : List UInt8 :=
  lineBytesOf (Report.diagnosis s.table s.render)

section Subset

variable {pairs more : List (String × String)} (h : pairs ⊆ more) (ss : List Selection)

include h

/-- What is reported with more records is reported with fewer of them, in the same order. -/
theorem flaggedOf_sublist :
    (flaggedOf (.ofPairs more) ss).Sublist (flaggedOf (.ofPairs pairs) ss) := by
  refine List.monotone_filter_right ss fun s hs => ?_
  rw [decide_eq_true_eq] at hs ⊢
  exact fun hcovered => hs (covered_of_subset h hcovered)

/-- So it is with what is diagnosed. -/
theorem unknownOf_sublist :
    (unknownOf (.ofPairs more) ss).Sublist (unknownOf (.ofPairs pairs) ss) := by
  refine List.monotone_filter_right ss fun s hs => ?_
  rw [decide_eq_true_eq] at hs ⊢
  exact unknownTable_of_subset h hs

end Subset

/-- What an audit notes, reports and diagnoses, one selection after the other. -/
structure Checks (catalog : Catalog) (checked : List Selection) (done : Audited) : Prop where
  notes : done.notes = notesOf catalog checked
  out : done.output.out.written =
    (flaggedOf catalog checked).flatMap fun s => lineBytesOf s.render
  diag : done.output.diag.written = (unknownOf catalog checked).flatMap diagnosisLine

/-- An audit without a summary checks the selections of its source, and fails with what stops it. -/
theorem audit_unsummarized (catalog : Catalog) (dialect : Dialect) (style : TableStyle)
    (source : Source) :
    let items := (Reader.start dialect source).items
    let done := audit catalog ⟨dialect, false, style⟩ source {}
    Checks catalog (selectionsOf items) done ∧
      ∀ e, done.result = .error e ↔ stopOf items = some e := by
  intro items done
  have houtcome := outcome_audit catalog ⟨dialect, false, style⟩ source
  have hdiag : done.output.diag.written =
      diagnoses catalog (selectionsOf items) ++ Outcome.summaryOf catalog _ items :=
    congrArg Outcome.diag houtcome
  have hresult : done.result = (Outcome.ofItems catalog ⟨dialect, false, style⟩ items).result :=
    congrArg Outcome.result houtcome
  refine ⟨⟨congrArg Outcome.notes houtcome, congrArg Outcome.out houtcome, ?_⟩, fun e => ?_⟩
  · -- without a summary there are only diagnoses
    rw [hdiag, Outcome.summaryOf, if_neg (by simp), List.append_nil]
    rfl
  · rw [hresult]
    cases hstop : stopOf items with
    | none => rw [Outcome.result_ofItems_of_none hstop]; simp
    | some e' => rw [Outcome.result_ofItems_of_stop hstop]; simp

/-- Pairs of a table and a column make a catalog. Under it a statement is on an unknown table if
    no pair has the table, it is covered if a pair has the table and one of the columns, and it is
    uncovered otherwise. If the pairs are among some others, these make a catalog too. Where both
    are the same, in any order and however often, verdicts on the same columns are the same. In any
    case audits of one source, without a summary, check the same selections and fail alike or not
    at all. What is covered with fewer pairs is covered with more of them, and what is reported or
    diagnosed with more is so with fewer, line by line in the same order. -/
theorem verdicts_by_records (pairs : List (String × String)) :
    ∃ catalog, Catalog.load (Catalog.rows pairs) = .ok catalog ∧
      (∀ table names,
        (check catalog table names = .unknownTable ↔ ∀ name, (table, name) ∉ pairs) ∧
        (check catalog table names = .covered ↔ ∃ name ∈ names, (table, name) ∈ pairs) ∧
        (check catalog table names = .uncovered ↔
          (∃ name, (table, name) ∈ pairs) ∧ ∀ name ∈ names, (table, name) ∉ pairs)) ∧
      ∀ more, pairs ⊆ more → ∃ larger, Catalog.load (Catalog.rows more) = .ok larger ∧
        (more ⊆ pairs → ∀ table names names', names ⊆ names' → names' ⊆ names →
          check larger table names' = check catalog table names) ∧
        ∀ dialect style source,
          let checked := selectionsOf (Reader.start dialect source).items
          let few := audit catalog ⟨dialect, false, style⟩ source {}
          let many := audit larger ⟨dialect, false, style⟩ source {}
          (Checks catalog checked few ∧ Checks larger checked many) ∧
          (∀ s ∈ checked, Audit.verdict catalog s = .covered →
            Audit.verdict larger s = .covered) ∧
          (flaggedOf larger checked).Sublist (flaggedOf catalog checked) ∧
          (unknownOf larger checked).Sublist (unknownOf catalog checked) ∧
          ∀ e, few.result = .error e ↔ many.result = .error e := by
  refine ⟨.ofPairs pairs, Catalog.load_rows pairs, fun table names => ?_, fun more h => ?_⟩
  · exact ⟨check_ofPairs_eq_unknownTable_iff pairs table names,
      check_ofPairs_eq_covered_iff pairs table names,
      check_ofPairs_eq_uncovered_iff pairs table names⟩
  refine ⟨.ofPairs more, Catalog.load_rows more, ?_, ?_⟩
  · intro h' table names names' hn hn'
    exact check_ofPairs_congr (fun p => ⟨@h' p, @h p⟩) (fun name => ⟨@hn' name, @hn name⟩) table
  · -- the selections that are checked do not depend on the catalog
    intro dialect style source checked few many
    obtain ⟨hfew, hresult⟩ := audit_unsummarized (.ofPairs pairs) dialect style source
    obtain ⟨hmany, hresult'⟩ := audit_unsummarized (.ofPairs more) dialect style source
    refine ⟨⟨hfew, hmany⟩, fun s _ hs => covered_of_subset h hs, flaggedOf_sublist h checked,
      unknownOf_sublist h checked, fun e => ?_⟩
    rw [hresult, hresult']

end QueryAudit
