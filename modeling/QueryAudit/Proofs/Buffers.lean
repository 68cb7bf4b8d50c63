import QueryAudit.Audit
import QueryAudit.Proofs.Reading
import QueryAudit.Proofs.Sinks

/-!
# Input in buffers of any size

How input is cut into buffers is recorded, and nothing else depends on it: the splitter delivers
what one pass over all bytes cuts off, the reader hands out the items of those texts, and an audit
does the same with the same items.
-/

namespace QueryAudit

namespace Audit

/-- Audits with the same sinks, the same counts and the same notes. -/
structure Alike (a b : Audit) : Prop where
  report : a.report.Alike b.report
  notes : a.notes = b.notes

namespace Alike

variable {a b : Audit} (catalog : Catalog)

theorem refl (a : Audit) : a.Alike a :=
  ⟨⟨fun _ => rfl, rfl⟩, rfl⟩

/-- Taking input leaves audits alike, whatever each of them takes. -/
theorem recordReads (h : a.Alike b) (pieces pieces' : List Nat) :
    (a.recordReads pieces).Alike (b.recordReads pieces') := by
  refine ⟨⟨?_, h.report.counts⟩, h.notes⟩
  intro c
  have := h.report.output c
  cases c <;> exact this

theorem checkSelection (h : a.Alike b) (s : Selection) :
    (Audit.checkSelection catalog a s).Alike Alike (Audit.checkSelection catalog b s) := by
  obtain ⟨hstate, hfail⟩ := h.report.emit s.render s.table (verdict catalog s)
  have hnotes := congrArg (· ++ notesOn s.table (columns s.condition).length (verdict catalog s))
    h.notes
  simp only [Audit.checkSelection]
  rw [← hfail]
  cases (a.report.emit s.render s.table (verdict catalog s)).failure with
  | some e => exact ⟨⟨hstate, hnotes⟩, rfl⟩
  | none => exact ⟨⟨hstate.flush, hnotes⟩, rfl⟩

/-- Dealing with the same item leaves audits alike. -/
theorem onItem (h : a.Alike b) (item : Item) :
    (Audit.onItem catalog a item).Alike Alike (Audit.onItem catalog b item) := by
  unfold Audit.onItem
  cases selectionOf item with
  | error e => exact ⟨h, rfl⟩
  | ok s => exact h.checkSelection catalog s

/-- Dealing with readings of the same items leaves audits alike, whatever input each reading
    took. -/
theorem overReadings (h : a.Alike b) {rs qs : List Reading}
    (hi : rs.map Reading.item = qs.map Reading.item) :
    (Audit.overReadings catalog a rs).Alike Alike (Audit.overReadings catalog b qs) := by
  induction rs generalizing a b qs with
  | nil =>
    rw [List.map_nil, eq_comm, List.map_eq_nil_iff] at hi
    rw [hi]
    exact ⟨h, rfl⟩
  | cons r rs ih =>
    obtain ⟨q, qs, rfl, hitem, hrest⟩ := List.map_eq_cons_iff.mp hi.symm
    simp only [Audit.overReadings, hitem]
    -- the input that was taken for the item is all in which they differ
    have hreads := h.recordReads r.pieces q.pieces
    cases r.item with
    | none => exact ⟨hreads, rfl⟩
    | some item => exact (hreads.onItem catalog item).andThen fun h => ih h hrest.symm

theorem finish (config : Config) {x y : Attempt Audit} (h : x.Alike Alike y) :
    (Audit.finish config x).Alike Alike (Audit.finish config y) := by
  obtain ⟨hstate, hfail⟩ := h
  have hflush := hstate.report.flush
  obtain ⟨hsummary, hwritten⟩ := hflush.writeSummary config.style
  simp only [Audit.finish]
  rw [← hfail]
  cases x.failure with
  | some e => exact ⟨⟨hflush, hstate.notes⟩, rfl⟩
  | none =>
    -- only a loop without a failure is followed by a summary
    cases config.summary with
    | false => exact ⟨⟨hflush, hstate.notes⟩, rfl⟩
    | true =>
      simp only [if_true, Audit.summarize]
      rw [← hwritten]
      cases (x.state.report.flush.writeSummary config.style).failure with
      | some e => exact ⟨⟨hsummary, hstate.notes⟩, rfl⟩
      | none => exact ⟨⟨hsummary.flush, hstate.notes⟩, rfl⟩

end Alike

end Audit

/-- Audits of sources whose readers hand out the same items write the same, note the same and come
    to the same result. -/
theorem audit_of_items_eq (catalog : Catalog) (config : Config) (output : Output)
    {source source' : Source}
    (h : (Reader.start config.dialect source).items =
      (Reader.start config.dialect source').items) :
    (audit catalog config source output).output.Alike
        (audit catalog config source' output).output ∧
      (audit catalog config source output).notes =
        (audit catalog config source' output).notes ∧
      (audit catalog config source output).result =
        (audit catalog config source' output).result := by
  -- both audits see the items of their readings and nothing else of them
  have hreadings : (Reader.start config.dialect source).readings.map Reading.item =
      (Reader.start config.dialect source').readings.map Reading.item := by
    rw [Reader.readings_eq, Reader.readings_eq, h]
  obtain ⟨hstate, hfail⟩ := Audit.Alike.finish config
    ((Audit.Alike.refl { report := { output } }).overReadings catalog hreadings)
  refine ⟨hstate.report.output, hstate.notes, ?_⟩
  simp only [audit]
  rw [hfail, hstate.report.counts]

/-- However bytes are cut into buffers, the splitter delivers the texts that one pass over all of
    them cuts off, and then ends; the reader hands out the items of these texts, through the first
    error, and then none; and an audit writes to both channels, notes and comes to what it does
    with all bytes in one buffer. -/
theorem buffers_agree (d : Dialect) (buffers : List (List UInt8)) :
    Deliveries d {} (Source.ofBuffers buffers none) (pieces d buffers.flatten) none ∧
    (Reader.start d (Source.ofBuffers buffers none)).readings.map Reading.item =
      (throughError ((pieces d buffers.flatten).flatMap (Stream.ofText d))).map some ++ [none] ∧
    ∀ (catalog : Catalog) (config : Config) (output : Output),
      let done := audit catalog config (Source.ofBuffers buffers none) output
      let whole := audit catalog config (Source.ofBytes buffers.flatten) output
      done.output.out = whole.output.out ∧ done.output.diag = whole.output.diag ∧
        done.notes = whole.notes ∧ done.result = whole.result := by
  refine ⟨deliveries_ofBuffers d buffers, ?_, ?_⟩
  · rw [Reader.readings_eq, items_ofBuffers, textItems]
  · intro catalog config output done whole
    have hitems : (Reader.start config.dialect (Source.ofBuffers buffers none)).items =
        (Reader.start config.dialect (Source.ofBytes buffers.flatten)).items := by
      rw [Source.ofBytes, items_ofBuffers, items_ofBuffers, List.flatten_singleton]
    obtain ⟨houtput, hnotes, hresult⟩ := audit_of_items_eq catalog config output hitems
    exact ⟨houtput .out, houtput .diag, hnotes, hresult⟩

end QueryAudit
