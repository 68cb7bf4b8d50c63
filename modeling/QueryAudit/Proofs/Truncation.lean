import QueryAudit.Audit
import QueryAudit.Extraction
import QueryAudit.Proofs.Sinks

/-!
# Sinks with a limit

A run with limits on its sinks does what it does without them until a sink refuses bytes, and then
ends. Up to there both runs have written the same; behind it the run without limits goes on and only
adds to its sinks. So the limited run never writes anything else, only less: the sink that refused
bytes holds exactly what it accepts of all that is written to it without a limit, and the other one
holds the front of that.
-/

namespace QueryAudit

/-! ### Outputs with limits and without -/

/-- What each channel accepts in all, if it has a limit. -/
abbrev Limits := Channel → Option Nat

/-- Empty sinks with limits. -/
def Output.withLimits (limits : Limits) : Output where
  out := { limit := limits .out }
  diag := { limit := limits .diag }

/-- An output that has only been added to. -/
def Output.Grows (o o' : Output) : Prop :=
  ∀ c, (o.sink c).written <+: (o'.sink c).written

/-- An output with limits that has taken all that one without limits has. -/
structure Output.Keeps (limits : Limits) (o u : Output) : Prop where
  sink_eq : ∀ c, o.sink c = { written := (u.sink c).written, limit := limits c }
  unlimited : ∀ c, (u.sink c).limit = none
  within : ∀ c n, limits c = some n → (u.sink c).written.length ≤ n

/-- An output with limits that has refused bytes on one channel, beside an output without limits
    that has taken them. -/
structure Output.Refuses (limits : Limits) (full : Channel) (o u : Output) : Prop where
  refused : (o.sink full).refused = true
  cut : ∃ n, limits full = some n ∧ n < (u.sink full).written.length ∧
    (o.sink full).written = (u.sink full).written.take n
  others : ∀ c, c ≠ full →
    (o.sink c).refused = false ∧ (o.sink c).written <+: (u.sink c).written

namespace Output

theorem Grows.refl (o : Output) : o.Grows o :=
  fun _ => List.prefix_rfl

theorem Grows.trans {o p q : Output} (h : o.Grows p) (h' : p.Grows q) : o.Grows q :=
  fun c => (h c).trans (h' c)

/-- Recording and flushing leave the sinks as they are. -/
theorem Grows.of_sink {o p : Output} (h : ∀ c, o.sink c = p.sink c) : o.Grows p :=
  fun c => h c ▸ List.prefix_rfl

theorem sink_flush (o : Output) (c c' : Channel) : (o.flush c).sink c' = o.sink c' :=
  sink_record o _ c'

theorem sink_recordReads (o : Output) (pieces : List Nat) (c : Channel) :
    (o.recordReads pieces).sink c = o.sink c := by
  cases c <;> rfl

theorem grows_writeBytes (o : Output) (c : Channel) (bytes : List UInt8) :
    o.Grows (o.writeBytes c bytes).state := by
  intro c'
  by_cases hc : c' = c
  · subst hc
    rw [sink_writeBytes]
    exact List.prefix_append _ _
  · simp only [sink_writeBytes_of_ne o hc, List.prefix_rfl]

theorem keeps_withLimits (limits : Limits) : Keeps limits (withLimits limits) {} where
  sink_eq c := by cases c <;> rfl
  unlimited c := by cases c <;> rfl
  within c n _ := by cases c <;> exact Nat.zero_le n

theorem Keeps.of_sink {limits : Limits} {o u o' u' : Output} (h : Keeps limits o u)
    (ho : ∀ c, o'.sink c = o.sink c) (hu : ∀ c, u'.sink c = u.sink c) : Keeps limits o' u' where
  sink_eq c := by rw [ho, hu, h.sink_eq]
  unlimited c := by rw [hu, h.unlimited]
  within c n hn := by rw [hu]; exact h.within c n hn

/-- What was refused stays refused, whatever the output without limits takes. -/
theorem Refuses.grow {limits : Limits} {full : Channel} {o u o' u' : Output}
    (h : Refuses limits full o u) (ho : ∀ c, o'.sink c = o.sink c) (hu : u.Grows u') :
    Refuses limits full o' u' where
  refused := by rw [ho, h.refused]
  cut := by
    obtain ⟨n, hn, hlt, htake⟩ := h.cut
    refine ⟨n, hn, Nat.lt_of_lt_of_le hlt (hu full).length_le, ?_⟩
    obtain ⟨more, hmore⟩ := hu full
    rw [ho, htake, ← hmore, List.take_append_of_le_length (Nat.le_of_lt hlt)]
  others c hc := by
    obtain ⟨hrefused, hprefix⟩ := h.others c hc
    rw [ho]
    exact ⟨hrefused, hprefix.trans (hu c)⟩

end Output

/-! ### One write -/

/-- A sink that refuses bytes has a limit, and takes them up to there. -/
theorem Sink.write_of_not_fits {s : Sink} {bytes : List UInt8} (h : s.fits bytes = false)
    (hs : ∀ n, s.limit = some n → s.written.length ≤ n) :
    ∃ n, s.limit = some n ∧ n < (s.written ++ bytes).length ∧
      (s.write bytes).written = (s.written ++ bytes).take n := by
  have hlen : ¬(s.accepted bytes).length = bytes.length := of_decide_eq_false h
  cases hn : s.limit with
  | none =>
    rw [accepted, hn] at hlen
    exact absurd rfl hlen
  | some n =>
    have hwithin := hs n hn
    rw [accepted, hn, List.length_take] at hlen
    refine ⟨n, rfl, by rw [List.length_append]; omega, ?_⟩
    rw [write, accepted, hn, List.take_append, List.take_of_length_le hwithin]

/-- A step of a run with limits beside the same step without: both come to related states and fail
    alike, or a sink has refused bytes. -/
def Attempt.Follows {α : Type} (limits : Limits) (output : α → Output) (related : α → α → Prop)
    (x y : Attempt α) : Prop :=
  (related x.state y.state ∧ x.failure = y.failure) ∨
    ∃ full, x.failure = some (Output.full full) ∧
      (output x.state).Refuses limits full (output y.state)

/-- A write follows the same write without limits. -/
theorem Output.Keeps.writeBytes {limits : Limits} {o u : Output} (h : o.Keeps limits u)
    (c : Channel) (bytes : List UInt8) :
    (o.writeBytes c bytes).Follows limits id (Output.Keeps limits) (u.writeBytes c bytes) := by
  have hunlimited (c' : Channel) : ((u.writeBytes c bytes).state.sink c').limit = none := by
    by_cases hc : c' = c
    · rw [hc, sink_writeBytes]
      exact h.unlimited c
    · rw [sink_writeBytes_of_ne u hc, h.unlimited]
  have hwritten : ((u.writeBytes c bytes).state.sink c).written =
      (u.sink c).written ++ bytes := by
    rw [sink_writeBytes, Sink.write_of_unlimited (h.unlimited c)]
  have hlimit : (o.sink c).limit = limits c := by rw [h.sink_eq]
  have hbefore : (o.sink c).written = (u.sink c).written := by rw [h.sink_eq]
  have hfail : (u.writeBytes c bytes).failure = none := by
    rw [failure_writeBytes, Sink.fits_of_unlimited (h.unlimited c), if_pos rfl]
  cases hfits : (o.sink c).fits bytes with
  | true =>
    -- both sinks take all of the bytes
    refine .inl ⟨⟨fun c' => ?_, hunlimited, fun c' n hn => ?_⟩, ?_⟩
    · by_cases hc : c' = c
      · subst hc
        rw [sink_writeBytes, hwritten, Sink.write, Sink.accepted_of_fits hfits, hfits,
          h.sink_eq c']
        rfl
      · rw [sink_writeBytes_of_ne o hc, sink_writeBytes_of_ne u hc, h.sink_eq]
    · by_cases hc : c' = c
      · subst hc
        have hall := congrArg List.length (Sink.accepted_of_fits hfits)
        have hwithin := h.within c' n hn
        rw [Sink.accepted, hlimit, hn, hbefore, List.length_take] at hall
        rw [hwritten, List.length_append]
        omega
      · rw [sink_writeBytes_of_ne u hc]
        exact h.within c' n hn
    · rw [hfail, failure_writeBytes, hfits, if_pos rfl]
  | false =>
    -- the sink is filled up, while the one without a limit goes beyond
    obtain ⟨n, hn, hlt, htake⟩ :=
      Sink.write_of_not_fits hfits fun n hn => by
        rw [hbefore]
        exact h.within c n (hlimit ▸ hn)
    refine .inr ⟨c, ?_, ?_, ⟨n, hlimit ▸ hn, ?_, ?_⟩, fun c' hc => ?_⟩
    · rw [failure_writeBytes, hfits, if_neg Bool.false_ne_true]
    · rw [id, sink_writeBytes, Sink.write, hfits, Bool.not_false, Bool.or_true]
    · rw [id, hwritten, ← hbefore]
      exact hlt
    · rw [id, id, sink_writeBytes, hwritten, htake, hbefore]
    · rw [id, id, sink_writeBytes_of_ne o hc, sink_writeBytes_of_ne u hc, h.sink_eq]
      exact ⟨rfl, List.prefix_rfl⟩

namespace Attempt.Follows

variable {α β : Type} {limits : Limits} {output : α → Output} {related : α → α → Prop}
  {x y : Attempt α}

/-- Steps one behind the other: once a sink has refused bytes, the limited run is at its end, and
    the other one only adds to its sinks. -/
theorem andThen (h : x.Follows limits output related y) {work work' : α → Attempt α}
    (hwork : ∀ {a b}, related a b → (work a).Follows limits output related (work' b))
    (hgrow : ∀ b, (output b).Grows (output (work' b).state)) :
    (x.andThen work).Follows limits output related (y.andThen work') := by
  rcases h with ⟨hstate, hfail⟩ | ⟨full, hfail, hrefuses⟩
  · rw [Attempt.andThen, Attempt.andThen, ← hfail]
    cases hx : x.failure with
    | none => exact hwork hstate
    | some e => exact .inl ⟨hstate, hfail⟩
  · -- the limited run is over, whether or not the other one fails
    refine .inr ⟨full, ?_, ?_⟩
    · rw [Attempt.andThen, hfail]
      exact hfail
    · have hgrows : (output y.state).Grows (output (y.andThen work').state) := by
        rw [Attempt.andThen]
        cases y.failure with
        | none => exact hgrow y.state
        | some e => exact Output.Grows.refl _
      rw [Attempt.andThen, hfail]
      exact hrefuses.grow (fun _ => rfl) hgrows

/-- A step on a part of a state is a step on the state. -/
theorem lift (h : x.Follows limits output related y) {output' : β → Output}
    {related' : β → β → Prop} (f g : α → β) (hrel : ∀ {a b}, related a b → related' (f a) (g b))
    (hf : ∀ a c, (output' (f a)).sink c = (output a).sink c)
    (hg : ∀ a c, (output' (g a)).sink c = (output a).sink c) :
    Attempt.Follows limits output' related' ⟨f x.state, x.failure⟩ ⟨g y.state, y.failure⟩ := by
  rcases h with ⟨hstate, hfail⟩ | ⟨full, hfail, hrefuses⟩
  · exact .inl ⟨hrel hstate, hfail⟩
  · exact .inr ⟨full, hfail, hrefuses.grow (hf _) (.of_sink fun c => (hg _ c).symm)⟩

end Attempt.Follows

/-! ### Reports -/

/-- Reports with the same counts whose outputs keep up with each other. -/
structure Report.Keeps (limits : Limits) (r q : Report) : Prop where
  output : r.output.Keeps limits q.output
  counts : r.counts = q.counts

namespace Report

variable {limits : Limits} {r q : Report}

theorem sink_flush (r : Report) (c : Channel) : r.flush.output.sink c = r.output.sink c := by
  rw [flush, Output.sink_flush, Output.sink_flush]

theorem grows_writeLine (r : Report) (c : Channel) (text : String) :
    r.output.Grows (r.writeLine c text).state.output :=
  r.output.grows_writeBytes c _

theorem grows_emit (r : Report) (query table : String) (v : Verdict) :
    r.output.Grows (r.emit query table v).state.output := by
  cases v with
  | covered => exact .refl _
  | uncovered => exact grows_writeLine { r with counts := r.counts.add .uncovered } .out query
  | unknownTable =>
    have hdiag := grows_writeLine { r with counts := r.counts.add .unknownTable } .diag
      (diagnosis table query)
    rw [emit, Attempt.andThen]
    split
    · exact hdiag
    · exact hdiag.trans (grows_writeLine _ .out query)

/-- Flush behind a step that did not fail. -/
def flushed (x : Attempt Report) : Attempt Report :=
  x.andThen fun r => ⟨r.flush, none⟩

theorem grows_flushed {o : Output} {x : Attempt Report} (h : o.Grows x.state.output) :
    o.Grows (flushed x).state.output := by
  rw [flushed, Attempt.andThen]
  split
  · exact h
  · exact h.trans (.of_sink fun c => (sink_flush x.state c).symm)

namespace Keeps

theorem flush (h : r.Keeps limits q) : r.flush.Keeps limits q.flush :=
  ⟨h.output.of_sink (sink_flush r) (sink_flush q), h.counts⟩

theorem flushed {x y : Attempt Report}
    (h : x.Follows limits Report.output (Report.Keeps limits) y) :
    (flushed x).Follows limits Report.output (Report.Keeps limits) (Report.flushed y) :=
  h.andThen (fun hab => .inl ⟨hab.flush, rfl⟩) fun b => .of_sink fun c => (sink_flush b c).symm

theorem writeLine (h : r.Keeps limits q) (c : Channel) (text : String) :
    (r.writeLine c text).Follows limits Report.output (Report.Keeps limits)
      (q.writeLine c text) :=
  (h.output.writeBytes c (Utf8.encode (text.push '\n'))).lift
    (fun o => { r with output := o }) (fun o => { q with output := o })
    (fun hab => ⟨hab, h.counts⟩) (fun _ _ => rfl) fun _ _ => rfl

theorem emit (h : r.Keeps limits q) (query table : String) (v : Verdict) :
    (r.emit query table v).Follows limits Report.output (Report.Keeps limits)
      (q.emit query table v) := by
  have hcount : Report.Keeps limits { r with counts := r.counts.add v }
      { q with counts := q.counts.add v } := ⟨h.output, by rw [h.counts]⟩
  cases v with
  | covered => exact .inl ⟨hcount, rfl⟩
  | uncovered => exact hcount.writeLine .out query
  | unknownTable =>
    exact (hcount.writeLine .diag _).andThen (fun hab => hab.writeLine .out query)
      fun b => b.grows_writeLine .out query

theorem writeSummary (h : r.Keeps limits q) (style : TableStyle) :
    (r.writeSummary style).Follows limits Report.output (Report.Keeps limits)
      (q.writeSummary style) := by
  unfold Report.writeSummary
  rw [h.counts]
  exact h.writeLine .diag _

end Keeps

end Report

/-! ### Audits -/

namespace Audit

variable {limits : Limits} (catalog : Catalog)

/-- Audits with the same counts and notes whose outputs keep up with each other. -/
structure Keeps (limits : Limits) (a b : Audit) : Prop where
  report : a.report.Keeps limits b.report
  notes : a.notes = b.notes

/-- Where an audit writes. -/
def output (a : Audit) : Output :=
  a.report.output

/-- Checking a selection is to emit a report of it and to flush. -/
theorem checkSelection_eq (a : Audit) (s : Selection) :
    checkSelection catalog a s =
      let v := verdict catalog s
      let x := Report.flushed (a.report.emit s.render s.table v)
      ⟨⟨x.state, a.notes ++ notesOn s.table (columns s.condition).length v⟩, x.failure⟩ := by
  simp only [checkSelection, Report.flushed, Attempt.andThen]
  cases h : (a.report.emit s.render s.table (verdict catalog s)).failure <;> simp [h]

/-- Summing up is to write the summary and to flush. -/
theorem summarize_eq (style : TableStyle) (a : Audit) :
    summarize style a =
      let x := Report.flushed (a.report.writeSummary style)
      ⟨⟨x.state, a.notes⟩, x.failure⟩ := by
  simp only [summarize, Report.flushed, Attempt.andThen]
  cases h : (a.report.writeSummary style).failure <;> simp [h]

theorem grows_onItem (a : Audit) (item : Item) :
    a.output.Grows (onItem catalog a item).state.output := by
  rw [onItem]
  split
  · exact .refl _
  · next s _ =>
    rw [checkSelection_eq]
    exact Report.grows_flushed (a.report.grows_emit s.render s.table (verdict catalog s))

theorem grows_overReadings (a : Audit) (readings : List Reading) :
    a.output.Grows (overReadings catalog a readings).state.output := by
  induction readings generalizing a with
  | nil => exact .refl _
  | cons reading readings ih =>
    have hreads : a.output.Grows (a.recordReads reading.pieces).output :=
      .of_sink fun c => (a.output.sink_recordReads reading.pieces c).symm
    rw [overReadings]
    split
    · exact hreads
    · next item _ =>
      refine hreads.trans ((grows_onItem catalog _ item).trans ?_)
      rw [Attempt.andThen]
      split
      · exact .refl _
      · exact ih _

theorem grows_finish (config : Config) (x : Attempt Audit) :
    x.state.output.Grows (finish config x).state.output := by
  have hflush : x.state.output.Grows x.state.report.flush.output :=
    .of_sink fun c => (Report.sink_flush x.state.report c).symm
  rw [finish]
  dsimp only
  split
  · exact hflush
  · split
    · rw [summarize_eq]
      exact hflush.trans (Report.grows_flushed (Report.grows_writeLine _ .diag _))
    · exact hflush

namespace Keeps

variable {a b : Audit}

/-- What is done on the report of an audit is done on the audit. -/
theorem of_report {x y : Attempt Report}
    (h : x.Follows limits Report.output (Report.Keeps limits) y) (notes : List Note) :
    Attempt.Follows limits Audit.output (Keeps limits) ⟨⟨x.state, notes⟩, x.failure⟩
      ⟨⟨y.state, notes⟩, y.failure⟩ :=
  h.lift (fun r => (⟨r, notes⟩ : Audit)) (fun r => ⟨r, notes⟩) (fun hrq => ⟨hrq, rfl⟩)
    (fun _ _ => rfl) fun _ _ => rfl

theorem recordReads (h : a.Keeps limits b) (pieces : List Nat) :
    (a.recordReads pieces).Keeps limits (b.recordReads pieces) :=
  ⟨⟨h.report.output.of_sink (Output.sink_recordReads _ pieces)
    (Output.sink_recordReads _ pieces), h.report.counts⟩, h.notes⟩

theorem onItem (h : a.Keeps limits b) (item : Item) :
    (Audit.onItem catalog a item).Follows limits Audit.output (Keeps limits)
      (Audit.onItem catalog b item) := by
  unfold Audit.onItem
  cases selectionOf item with
  | error e => exact .inl ⟨h, rfl⟩
  | ok s =>
    simp only [checkSelection_eq, h.notes]
    exact of_report (Report.Keeps.flushed (h.report.emit s.render s.table (verdict catalog s))) _

/-- The loop with limits follows the loop without. -/
theorem overReadings (h : a.Keeps limits b) (readings : List Reading) :
    (Audit.overReadings catalog a readings).Follows limits Audit.output (Keeps limits)
      (Audit.overReadings catalog b readings) := by
  induction readings generalizing a b with
  | nil => exact .inl ⟨h, rfl⟩
  | cons reading readings ih =>
    have hreads := h.recordReads reading.pieces
    simp only [Audit.overReadings]
    cases reading.item with
    | none => exact .inl ⟨hreads, rfl⟩
    | some item =>
      exact (hreads.onItem catalog item).andThen (fun hab => ih hab)
        fun b => b.grows_overReadings catalog readings

theorem summarize (h : a.Keeps limits b) (style : TableStyle) :
    (Audit.summarize style a).Follows limits Audit.output (Keeps limits)
      (Audit.summarize style b) := by
  simp only [summarize_eq, h.notes]
  exact of_report (Report.Keeps.flushed (h.report.writeSummary style)) _

end Keeps

/-- The end of an audit with limits follows the end of one without. -/
theorem follows_finish (config : Config) {x y : Attempt Audit}
    (h : x.Follows limits Audit.output (Keeps limits) y) :
    (finish config x).Follows limits Audit.output (Keeps limits) (finish config y) := by
  rcases h with ⟨hstate, hfail⟩ | ⟨full, hfail, hrefuses⟩
  · have hflush : Keeps limits { x.state with report := x.state.report.flush }
        { y.state with report := y.state.report.flush } := ⟨hstate.report.flush, hstate.notes⟩
    simp only [finish, ← hfail]
    cases x.failure with
    | some e => exact .inl ⟨hflush, rfl⟩
    | none =>
      cases config.summary with
      | false => exact .inl ⟨hflush, rfl⟩
      | true => exact hflush.summarize config.style
  · -- a refused write has ended the loop, and then no summary is written
    refine .inr ⟨full, ?_, ?_⟩
    · simp only [finish, hfail]
    · simp only [finish, hfail]
      exact hrefuses.grow (fun c => Report.sink_flush x.state.report c) (grows_finish config y)

end Audit

/-! ### Extractions -/

namespace Extraction

variable {limits : Limits}

/-- Extractions with the same number of lines whose outputs keep up with each other. -/
structure Keeps (limits : Limits) (x y : Extraction) : Prop where
  output : x.output.Keeps limits y.output
  lines : x.lines = y.lines

def writeLine (x : Extraction) (text : String) : Attempt Extraction :=
  let written := x.output.writeLine .out text
  ⟨{ x with output := written.state }, written.failure⟩

/-- An extraction that has written a line, flushed. -/
def wrote (x : Extraction) : Extraction :=
  ⟨x.output.flush .out, x.lines + 1⟩

/-- Writing an extract is to write its line and then to flush and count it. -/
theorem writeExtract_eq (x : Extraction) (e : Extract) :
    x.writeExtract e = (x.writeLine e.render).andThen fun x => ⟨x.wrote, none⟩ := by
  simp only [writeExtract, writeLine, Attempt.andThen, wrote]
  cases h : (x.output.writeLine .out e.render).failure <;> simp

theorem sink_wrote (x : Extraction) (c : Channel) : x.wrote.output.sink c = x.output.sink c :=
  x.output.sink_flush .out c

theorem grows_onItem (x : Extraction) (item : Item) :
    x.output.Grows (x.onItem item).state.output := by
  rw [onItem]
  split
  · exact .refl _
  · next e _ =>
    have hline : x.output.Grows (x.writeLine e.render).state.output :=
      x.output.grows_writeBytes .out _
    rw [writeExtract_eq, Attempt.andThen]
    split
    · exact hline
    · exact hline.trans (.of_sink fun c => (sink_wrote _ c).symm)

theorem grows_overReadings (x : Extraction) (readings : List Reading) :
    x.output.Grows (x.overReadings readings).state.output := by
  induction readings generalizing x with
  | nil => exact .refl _
  | cons reading readings ih =>
    have hreads : x.output.Grows (x.output.recordReads reading.pieces) :=
      .of_sink fun c => (x.output.sink_recordReads reading.pieces c).symm
    rw [overReadings]
    split
    · exact hreads
    · next item _ =>
      refine hreads.trans
        ((grows_onItem { x with output := x.output.recordReads reading.pieces } item).trans ?_)
      rw [Attempt.andThen]
      split
      · exact .refl _
      · exact ih _

namespace Keeps

variable {x y : Extraction}

theorem wrote (h : x.Keeps limits y) : x.wrote.Keeps limits y.wrote :=
  ⟨h.output.of_sink (sink_wrote x) (sink_wrote y), congrArg (· + 1) h.lines⟩

theorem writeLine (h : x.Keeps limits y) (text : String) :
    (x.writeLine text).Follows limits Extraction.output (Keeps limits) (y.writeLine text) :=
  (h.output.writeBytes .out (Utf8.encode (text.push '\n'))).lift
    (fun o => { x with output := o }) (fun o => { y with output := o })
    (fun hab => ⟨hab, h.lines⟩) (fun _ _ => rfl) fun _ _ => rfl

theorem onItem (h : x.Keeps limits y) (item : Item) :
    (x.onItem item).Follows limits Extraction.output (Keeps limits) (y.onItem item) := by
  unfold Extraction.onItem
  cases extractOf item with
  | error e => exact .inl ⟨h, rfl⟩
  | ok e =>
    simp only [writeExtract_eq]
    exact (h.writeLine e.render).andThen (fun hab => .inl ⟨hab.wrote, rfl⟩)
      fun b => .of_sink fun c => (sink_wrote b c).symm

/-- The loop with a limit follows the loop without. -/
theorem overReadings (h : x.Keeps limits y) (readings : List Reading) :
    (x.overReadings readings).Follows limits Extraction.output (Keeps limits)
      (y.overReadings readings) := by
  induction readings generalizing x y with
  | nil => exact .inl ⟨h, rfl⟩
  | cons reading readings ih =>
    have hreads : Keeps limits { x with output := x.output.recordReads reading.pieces }
        { y with output := y.output.recordReads reading.pieces } :=
      ⟨h.output.of_sink (Output.sink_recordReads _ _) (Output.sink_recordReads _ _), h.lines⟩
    simp only [Extraction.overReadings]
    cases reading.item with
    | none => exact .inl ⟨hreads, rfl⟩
    | some item =>
      exact (hreads.onItem item).andThen (fun hab => ih hab) fun b => b.grows_overReadings readings

end Keeps

/-- An extraction at its end. -/
def finish (x : Extraction) : Extraction :=
  { x with output := x.output.flush .out }

/-- The end of an extraction with a limit follows the end of one without. -/
theorem follows_finish {x y : Attempt Extraction}
    (h : x.Follows limits Extraction.output (Keeps limits) y) :
    Attempt.Follows limits Extraction.output (Keeps limits) ⟨x.state.finish, x.failure⟩
      ⟨y.state.finish, y.failure⟩ :=
  h.lift Extraction.finish Extraction.finish
    (fun h => ⟨h.output.of_sink (Output.sink_flush _ .out) (Output.sink_flush _ .out), h.lines⟩)
    (fun x => x.output.sink_flush .out) fun x => x.output.sink_flush .out

end Extraction

/-! ### Whole runs -/

/-- What limits make of a run: the sinks hold the fronts of what they hold without limits, and the
    run succeeds as it does without if that is within the limits. If a sink refused bytes, it holds
    as many as it accepts and the run fails for it; if none did, nothing is different. -/
structure Output.Truncates {α : Type} (limits : Limits) (done whole : Output)
    (result wholeResult : Except Error α) : Prop where
  front : ∀ c, (done.sink c).written <+: (whole.sink c).written
  ok_iff : ∀ a, result = .ok a ↔ wholeResult = .ok a ∧
    ∀ c n, limits c = some n → (whole.sink c).written.length ≤ n
  eq_take : ∀ c, (done.sink c).refused = true →
    ∃ n, limits c = some n ∧ (done.sink c).written = (whole.sink c).written.take n
  fails : ∀ c, (done.sink c).refused = true → result = .error (full c)
  eq_whole : (∀ c, (done.sink c).refused = false) →
    (∀ c, (done.sink c).written = (whole.sink c).written) ∧ result = wholeResult

/-- The result of work: what it comes to, or the failure that ended it. -/
def Attempt.result {α β : Type} (x : Attempt α) (value : α → β) : Except Error β :=
  match x.failure with
  | some e => .error e
  | none => .ok (value x.state)

/-- A run that follows the one without limits is truncated by them. -/
theorem Attempt.Follows.truncates {α β : Type} {limits : Limits} {output : α → Output}
    {related : α → α → Prop} {x y : Attempt α} (h : x.Follows limits output related y)
    (hkeeps : ∀ {a b}, related a b → (output a).Keeps limits (output b)) (value : α → β)
    (hvalue : ∀ {a b}, related a b → value a = value b) :
    (output x.state).Truncates limits (output y.state) (x.result value) (y.result value) := by
  rcases h with ⟨hstate, hfail⟩ | ⟨full, hfail, hrefuses⟩
  · -- nothing was refused, so that all bytes are within the limits
    have hkeep := hkeeps hstate
    have hresult : x.result value = y.result value := by
      rw [Attempt.result, Attempt.result, hfail, hvalue hstate]
    have hwritten (c : Channel) :
        ((output x.state).sink c).written = ((output y.state).sink c).written := by
      rw [hkeep.sink_eq]
    have hnone (c : Channel) : ¬((output x.state).sink c).refused = true := by
      rw [hkeep.sink_eq]
      exact Bool.false_ne_true
    refine ⟨fun c => hwritten c ▸ List.prefix_rfl, fun a => ?_, fun c hc => absurd hc (hnone c),
      fun c hc => absurd hc (hnone c), fun _ => ⟨hwritten, hresult⟩⟩
    rw [hresult]
    exact (and_iff_left hkeep.within).symm
  · -- one sink has refused bytes, and no other one has
    obtain ⟨n, hn, hlt, htake⟩ := hrefuses.cut
    have honly (c : Channel) (hc : ((output x.state).sink c).refused = true) : c = full :=
      Decidable.byContradiction fun hne =>
        Bool.false_ne_true ((hrefuses.others c hne).1.symm.trans hc)
    refine ⟨fun c => ?_, fun a => ⟨fun hok => ?_, fun hok => ?_⟩, fun c hc => ?_, fun c hc => ?_,
      fun hnone => ?_⟩
    · by_cases hc : c = full
      · rw [hc, htake]
        exact List.take_prefix n _
      · exact (hrefuses.others c hc).2
    · rw [Attempt.result, hfail] at hok
      exact nomatch hok
    · exact absurd (hok.2 full n hn) (Nat.not_le_of_lt hlt)
    · exact ⟨n, honly c hc ▸ hn, honly c hc ▸ htake⟩
    · rw [Attempt.result, hfail, honly c hc]
    · exact absurd (hrefuses.refused.symm.trans (hnone full)) Bool.true_eq_false.mp

/-- Limits truncate audits and extractions, and do nothing else to them. -/
theorem limits_truncate (catalog : Catalog) (config : Config) (source : Source) (limits : Limits) :
    (let limited := audit catalog config source (.withLimits limits)
      let whole := audit catalog config source {}
      limited.output.Truncates limits whole.output limited.result whole.result) ∧
    (let limited := extract config.dialect source (.withLimits limits)
      let whole := extract config.dialect source {}
      limited.output.Truncates limits whole.output limited.result whole.result) := by
  have houtput := Output.keeps_withLimits limits
  constructor
  · -- at the start nothing is written, so both runs agree; each step keeps this
    have hstart : Audit.Keeps limits { report := { output := .withLimits limits } }
        { report := { output := {} } } := ⟨⟨houtput, rfl⟩, rfl⟩
    have hloop := hstart.overReadings catalog (Reader.start config.dialect source).readings
    exact (Audit.follows_finish config hloop).truncates (fun h => h.report.output)
      (fun a => a.report.counts) fun h => h.report.counts
  · have hstart : Extraction.Keeps limits { output := .withLimits limits } { output := {} } :=
      ⟨houtput, rfl⟩
    have hloop := hstart.overReadings (Reader.start config.dialect source).readings
    exact (Extraction.follows_finish hloop).truncates (fun h => h.output) Extraction.lines
      fun h => h.lines

end QueryAudit
