import QueryAudit.Report

/-!
# Writing to sinks

What a write leaves behind: the sink of its channel takes what it accepts, the other one stays, and
the failure tells whether that was all. Neither depends on what was recorded before.
-/

namespace QueryAudit

/-! ### The sinks behind a write -/

namespace Output

theorem sink_setSink (o : Output) (s : Sink) (c : Channel) : (o.setSink s c).sink c = s := by
  cases c <;> rfl

theorem sink_setSink_of_ne (o : Output) (s : Sink) {c c' : Channel} (h : c' ≠ c) :
    (o.setSink s c).sink c' = o.sink c' := by
  cases c <;> cases c' <;> first | rfl | exact absurd rfl h

theorem sink_record (o : Output) (e : Event) (c : Channel) : (o.record e).sink c = o.sink c := by
  cases c <;> rfl

/-- The sinks behind a write are those behind the change of its sink. -/
theorem sink_writeBytes_eq (o : Output) (c c' : Channel) (bytes : List UInt8) :
    (o.writeBytes c bytes).state.sink c' = (o.setSink ((o.sink c).write bytes) c).sink c' := by
  rw [writeBytes]
  dsimp only
  split
  · rfl
  · rw [sink_record]

/-- A write gives the sink of its channel what it accepts. -/
theorem sink_writeBytes (o : Output) (c : Channel) (bytes : List UInt8) :
    (o.writeBytes c bytes).state.sink c = (o.sink c).write bytes := by
  rw [sink_writeBytes_eq, sink_setSink]

/-- A write leaves the other sink as it is. -/
theorem sink_writeBytes_of_ne (o : Output) {c c' : Channel} (h : c' ≠ c) (bytes : List UInt8) :
    (o.writeBytes c bytes).state.sink c' = o.sink c' := by
  rw [sink_writeBytes_eq, sink_setSink_of_ne o _ h]

theorem failure_writeBytes (o : Output) (c : Channel) (bytes : List UInt8) :
    (o.writeBytes c bytes).failure = if (o.sink c).fits bytes then none else some (full c) := rfl

end Output

/-- What is accepted of bytes that fit are all of them. -/
theorem Sink.accepted_of_fits {s : Sink} {bytes : List UInt8} (h : s.fits bytes = true) :
    s.accepted bytes = bytes := by
  have hlen : (s.accepted bytes).length = bytes.length := of_decide_eq_true h
  rw [accepted] at hlen ⊢
  split
  · rfl
  · next n hn =>
    rw [hn, List.length_take] at hlen
    exact List.take_of_length_le (by omega)

/-- A sink without a limit takes all that is written. -/
theorem Sink.fits_of_unlimited {s : Sink} (h : s.limit = none) (bytes : List UInt8) :
    s.fits bytes = true := by
  rw [fits, accepted, h]
  exact decide_eq_true rfl

theorem Sink.write_of_unlimited {s : Sink} (h : s.limit = none) (bytes : List UInt8) :
    s.write bytes = { s with written := s.written ++ bytes } := by
  rw [write, fits_of_unlimited h, accepted, h, Bool.not_true, Bool.or_false]

/-! ### Agreement in all but the record of events -/

def Output.Alike (o p : Output) : Prop :=
  ∀ c, o.sink c = p.sink c

/-- Attempts whose states are related and that fail alike. -/
def Attempt.Alike {α : Type} (related : α → α → Prop) (a b : Attempt α) : Prop :=
  related a.state b.state ∧ a.failure = b.failure

/-- Working on keeps attempts alike if it does so with states. -/
theorem Attempt.Alike.andThen {α : Type} {related : α → α → Prop} {a b : Attempt α}
    (h : a.Alike related b) {work work' : α → Attempt α}
    (hw : ∀ {x y}, related x y → (work x).Alike related (work' y)) :
    (a.andThen work).Alike related (b.andThen work') := by
  obtain ⟨hstate, hfail⟩ := h
  unfold Attempt.andThen
  rw [← hfail]
  cases a.failure with
  | none => exact hw hstate
  | some e => exact ⟨hstate, hfail⟩

theorem Output.Alike.writeBytes {o p : Output} (h : o.Alike p) (c : Channel)
    (bytes : List UInt8) : (o.writeBytes c bytes).Alike Output.Alike (p.writeBytes c bytes) := by
  constructor
  · intro c'
    by_cases hc : c' = c
    · subst hc
      rw [sink_writeBytes, sink_writeBytes, h]
    · rw [sink_writeBytes_of_ne o hc, sink_writeBytes_of_ne p hc, h]
  · rw [failure_writeBytes, failure_writeBytes, h]

/-- Reports with the same sinks and the same counts. -/
structure Report.Alike (r q : Report) : Prop where
  output : r.output.Alike q.output
  counts : r.counts = q.counts

namespace Report.Alike

variable {r q : Report}

theorem writeLine (h : r.Alike q) (c : Channel) (text : String) :
    (r.writeLine c text).Alike Report.Alike (q.writeLine c text) := by
  obtain ⟨hstate, hfail⟩ := h.output.writeBytes c (Utf8.encode (text.push '\n'))
  exact ⟨⟨hstate, h.counts⟩, hfail⟩

theorem emit (h : r.Alike q) (query table : String) (v : Verdict) :
    (r.emit query table v).Alike Report.Alike (q.emit query table v) := by
  have hcount : Report.Alike { r with counts := r.counts.add v }
      { q with counts := q.counts.add v } := ⟨h.output, by rw [h.counts]⟩
  cases v with
  | covered => exact ⟨hcount, rfl⟩
  | uncovered => exact hcount.writeLine .out query
  | unknownTable =>
    exact (hcount.writeLine .diag _).andThen fun h => h.writeLine .out query

theorem writeSummary (h : r.Alike q) (style : TableStyle) :
    (r.writeSummary style).Alike Report.Alike (q.writeSummary style) := by
  unfold Report.writeSummary
  rw [h.counts]
  exact h.writeLine .diag _

theorem flush (h : r.Alike q) : r.flush.Alike q.flush := by
  refine ⟨?_, h.counts⟩
  intro c
  have := h.output c
  cases c <;> exact this

end Report.Alike

end QueryAudit
