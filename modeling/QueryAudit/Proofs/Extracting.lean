import QueryAudit.Extraction
import QueryAudit.Proofs.Auditing

/-!
# What an extraction writes

An extraction goes through the items of its reader as an audit does, but it also takes insertions.
What it comes to is known from all items: the selections and insertions before the first other item
have a record each, in order, and the first other item is what ended the extraction.
-/

namespace QueryAudit

/-! ### All items at once -/

/-- The records of the selections and insertions before the first item that is neither: a selection
    has the columns of its condition, and an insertion has none. -/
def recordsOf : List Item → List Extract
  | .ok (.select s) :: items => ⟨s.table, columns s.condition⟩ :: recordsOf items
  | .ok (.insert table _) :: items => ⟨table, []⟩ :: recordsOf items
  | _ => []

/-- Why the first item that is no selection and no insertion ends an extraction, if there is such
    an item. -/
def haltOf : List Item → Option Error
  | [] => none
  | .error e :: _ => some e
  | .ok (.select _) :: items => haltOf items
  | .ok (.insert _ _) :: items => haltOf items
  | .ok (.other statement) :: _ => some (.notASelection statement.render)

def recordLines (records : List Extract) : List UInt8 :=
  records.flatMap fun x => lineBytesOf x.render

theorem recordsOf_of_extract {item : Item} {x : Extract}
    (h : Extraction.extractOf item = .ok x) (items : List Item) :
    recordsOf (item :: items) = x :: recordsOf items ∧ haltOf (item :: items) = haltOf items := by
  rcases item with e | (s | ⟨table, statement⟩ | statement)
  · cases h
  · cases h
    exact ⟨rfl, rfl⟩
  · cases h
    exact ⟨rfl, rfl⟩
  · cases h

theorem haltOf_of_error {item : Item} {e : Error} (h : Extraction.extractOf item = .error e)
    (items : List Item) : haltOf (item :: items) = some e ∧ recordsOf (item :: items) = [] := by
  rcases item with e' | (s | ⟨table, statement⟩ | statement)
  · cases h
    exact ⟨rfl, rfl⟩
  · cases h
  · cases h
  · cases h
    exact ⟨rfl, rfl⟩

/-! ### One record -/

namespace Extraction

/-- An extraction that has written some records, its sink being without a limit. -/
structure Wrote (records : List Extract) (x : Extraction) : Prop where
  out_eq : x.output.sink .out = { written := recordLines records }
  diag_eq : x.output.sink .diag = {}
  lines_eq : x.lines = records.length

namespace Wrote

variable {records : List Extract} {x : Extraction}

theorem start : Wrote [] {} :=
  ⟨rfl, rfl, rfl⟩

/-- Taking input changes nothing but the record of events. -/
theorem recordReads (h : Wrote records x) (pieces : List Nat) :
    Wrote records { x with output := x.output.recordReads pieces } :=
  ⟨h.out_eq, h.diag_eq, h.lines_eq⟩

/-- Writing one more record. -/
theorem step (h : Wrote records x) (e : Extract) :
    (x.writeExtract e).failure = none ∧ Wrote (records ++ [e]) (x.writeExtract e).state := by
  have hfail : (x.output.writeLine .out e.render).failure = none := by
    rw [Output.writeLine, Output.failure_writeBytes, h.out_eq, Sink.fits_of_unlimited rfl,
      if_pos rfl]
  have hsink : (x.output.writeLine .out e.render).state.sink .out =
      { written := recordLines (records ++ [e]) } := by
    rw [Output.writeLine, Output.sink_writeBytes, h.out_eq, Sink.write_of_unlimited rfl,
      recordLines, recordLines, List.flatMap_append, List.flatMap_singleton]
    rfl
  have hother : (x.output.writeLine .out e.render).state.sink .diag = {} := by
    rw [Output.writeLine, Output.sink_writeBytes_of_ne _ (by decide), h.diag_eq]
  simp only [writeExtract, hfail]
  refine ⟨trivial, hsink, hother, ?_⟩
  rw [h.lines_eq, List.length_append, List.length_singleton]

/-- Dealing with readings: the records of the items at their front are written, and the first other
    item is the failure. -/
theorem run (h : Wrote records x) {readings : List Reading} {items : List Item}
    (hr : readings.map Reading.item = items.map some ++ [none]) :
    (x.overReadings readings).failure = haltOf items ∧
      Wrote (records ++ recordsOf items) (x.overReadings readings).state := by
  induction items generalizing records x readings with
  | nil =>
    obtain ⟨r, rs, rfl, hnone, -⟩ := List.map_eq_cons_iff.mp hr
    simp only [overReadings, hnone, recordsOf, List.append_nil]
    exact ⟨rfl, h.recordReads _⟩
  | cons item items ih =>
    obtain ⟨r, rs, rfl, hitem, hrest⟩ := List.map_eq_cons_iff.mp hr
    have hreads := h.recordReads r.pieces
    cases hx : extractOf item with
    | error e =>
      obtain ⟨hhalt, hnone⟩ := haltOf_of_error hx items
      simp only [overReadings, hitem, onItem, hx, Attempt.andThen]
      rw [hhalt, hnone, List.append_nil]
      exact ⟨rfl, hreads⟩
    | ok e =>
      obtain ⟨hrecords, hhalt⟩ := recordsOf_of_extract hx items
      obtain ⟨hfail, hwrote⟩ := hreads.step e
      -- the record of this statement is written in front of all others
      have hall := ih hwrote hrest
      rw [List.append_assoc, List.singleton_append, ← hrecords, ← hhalt] at hall
      simp only [overReadings, hitem, onItem, hx, Attempt.andThen, hfail]
      exact hall

end Wrote

end Extraction

/-- An extraction whose sink takes everything comes to this: the records of the items at the front
    are written, a line each, and nothing else, and the result is their number if there is no
    other item, and else what ended the extraction. -/
theorem extract_eq_batch (d : Dialect) (source : Source) :
    let items := (Reader.start d source).items
    let done := extract d source {}
    done.output.out.written = recordLines (recordsOf items) ∧
    done.output.diag = {} ∧
    done.result =
      match haltOf items with
      | none => .ok (recordsOf items).length
      | some e => .error e := by
  intro items done
  obtain ⟨hhalt, hwrote⟩ := Extraction.Wrote.start.run
    (Reader.readings_eq (Reader.start d source))
  rw [List.nil_append] at hwrote
  refine ⟨congrArg Sink.written hwrote.out_eq, hwrote.diag_eq, ?_⟩
  simp only [done, extract]
  rw [hhalt]
  cases haltOf (Reader.start d source).items with
  | none => exact congrArg Except.ok hwrote.lines_eq
  | some e => rfl

end QueryAudit
