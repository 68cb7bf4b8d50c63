import QueryAudit.Proofs.Auditing

/-!
# Outcomes of audits

What an audit has written, noted and come to, without the record of what happened in which order.
With sinks that take everything it is known from the items of the reader, and it follows the items:
of two lists of items in a row the first one has its outcome, and only if it is not a failure the
outcome of the second is added to it.
-/

namespace QueryAudit

/-- The counts of two runs taken together. -/
def Counts.plus (m n : Counts) : Counts where
  covered := m.covered + n.covered
  uncovered := m.uncovered + n.uncovered
  unknownTable := m.unknownTable + n.unknownTable

namespace Outcome

/-- The outcome of a run and of a second one behind it, which is not begun if the first one
    failed. -/
def andThen (a b : Outcome) : Outcome :=
  match a.result with
  | .error _ => a
  | .ok counts =>
    ⟨a.out ++ b.out, a.diag ++ b.diag, a.notes ++ b.notes, b.result.map counts.plus⟩

variable {catalog : Catalog} {config : Config}

theorem result_ofItems_of_stop {items : List Item} {e : Error} (h : stopOf items = some e) :
    (ofItems catalog config items).result = .error e := by
  rw [ofItems, h]

theorem result_ofItems_of_none {items : List Item} (h : stopOf items = none) :
    (ofItems catalog config items).result = .ok (tally catalog (selectionsOf items)) := by
  rw [ofItems, h]

/-- Behind a failure nothing is added. -/
theorem andThen_of_error {a : Outcome} {e : Error} (h : a.result = .error e) (b : Outcome) :
    a.andThen b = a := by
  rw [andThen, h]

/-- Behind a run that did not fail the second one is added. -/
theorem andThen_of_ok {a : Outcome} {counts : Counts} (h : a.result = .ok counts) (b : Outcome) :
    a.andThen b =
      ⟨a.out ++ b.out, a.diag ++ b.diag, a.notes ++ b.notes, b.result.map counts.plus⟩ := by
  rw [andThen, h]

end Outcome

/-! ### Items in a row -/

section Rows

variable (catalog : Catalog)

theorem reports_append (ss ts : List Selection) :
    reports catalog (ss ++ ts) = reports catalog ss ++ reports catalog ts := by
  rw [reports, List.filter_append, List.flatMap_append]
  rfl

theorem diagnoses_append (ss ts : List Selection) :
    diagnoses catalog (ss ++ ts) = diagnoses catalog ss ++ diagnoses catalog ts := by
  rw [diagnoses, List.filter_append, List.flatMap_append]
  rfl

theorem notesOf_append (ss ts : List Selection) :
    notesOf catalog (ss ++ ts) = notesOf catalog ss ++ notesOf catalog ts :=
  List.flatMap_append

theorem tally_append (ss ts : List Selection) :
    tally catalog (ss ++ ts) = (tally catalog ss).plus (tally catalog ts) := by
  simp only [tally, List.countP_append, Counts.plus]

end Rows

/-- The first item that ends an audit of items in a row. -/
theorem stopOf_append (xs ys : List Item) : stopOf (xs ++ ys) = (stopOf xs).or (stopOf ys) := by
  induction xs with
  | nil => rfl
  | cons x xs ih =>
    rcases x with e | (s | ⟨table, statement⟩ | statement)
    · rfl
    · exact ih
    · rfl
    · rfl

theorem selectionsOf_append_of_none {xs : List Item} (h : stopOf xs = none) (ys : List Item) :
    selectionsOf (xs ++ ys) = selectionsOf xs ++ selectionsOf ys := by
  induction xs with
  | nil => rfl
  | cons x xs ih =>
    rcases x with e | (s | ⟨table, statement⟩ | statement)
    · cases h
    · exact congrArg (s :: ·) (ih h)
    · cases h
    · cases h

theorem selectionsOf_append_of_stop {xs : List Item} {e : Error} (h : stopOf xs = some e)
    (ys : List Item) : selectionsOf (xs ++ ys) = selectionsOf xs := by
  induction xs with
  | nil => cases h
  | cons x xs ih =>
    rcases x with e | (s | ⟨table, statement⟩ | statement)
    · rfl
    · exact congrArg (s :: ·) (ih h)
    · rfl
    · rfl

/-- Without a summary the outcome of items in a row is that of the first ones, and behind it that
    of the others. -/
theorem Outcome.ofItems_append {config : Config} (hs : config.summary = false)
    (catalog : Catalog) (xs ys : List Item) :
    ofItems catalog config (xs ++ ys) =
      (ofItems catalog config xs).andThen (ofItems catalog config ys) := by
  have hsummary (items : List Item) : summaryOf catalog config items = [] := by
    simp [summaryOf, hs]
  cases hx : stopOf xs with
  | some e =>
    have hstop : stopOf (xs ++ ys) = some e := by rw [stopOf_append, hx, Option.some_or]
    rw [andThen_of_error (result_ofItems_of_stop hx)]
    simp only [ofItems, selectionsOf_append_of_stop hx, hsummary, hstop, hx]
  | none =>
    have hstop : stopOf (xs ++ ys) = stopOf ys := by rw [stopOf_append, hx, Option.none_or]
    rw [andThen_of_ok (result_ofItems_of_none hx)]
    simp only [ofItems, selectionsOf_append_of_none hx, hsummary, hstop, List.append_nil,
      reports_append, diagnoses_append, notesOf_append, tally_append]
    cases stopOf ys <;> rfl

end QueryAudit
