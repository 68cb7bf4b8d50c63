import QueryAudit.Proofs.Lines
import QueryAudit.Proofs.Promptness

/-!
# What happens in which order

The events of an audit are known from the readings of its reader: for each of them the pieces that
it takes, the lines that its item calls for, and a flush of both channels. Since readings are in
step with their source, all statements that ended before a line are reported and flushed before the
line is taken. The loop is followed by one more flush of both channels, and only then by the
summary.
-/

namespace QueryAudit

/-- How many bytes were taken. -/
def bytesTaken (es : List Event) : Nat :=
  (es.map fun
    | .read count => count
    | _ => 0).sum

/-- What was written to which channel, in order. -/
def writesIn (es : List Event) : List (Channel × List UInt8) :=
  es.filterMap fun
    | .write c bytes => some (c, bytes)
    | _ => none

/-- Whatever was written to a channel, a flush of it came later. -/
def Flushed (es : List Event) (c : Channel) : Prop :=
  ∀ before bytes after, es = before ++ .write c bytes :: after → .flush c ∈ after

/-- What is written on a selection. -/
def writesOn (catalog : Catalog) (s : Selection) : List (Channel × List UInt8) :=
  match Audit.verdict catalog s with
  | .covered => []
  | .uncovered => [(.out, lineBytesOf s.render)]
  | .unknownTable =>
    [(.diag, lineBytesOf (Report.diagnosis s.table s.render)), (.out, lineBytesOf s.render)]

/-- What is written on selections, one after the other. -/
def writesFor (catalog : Catalog) (ss : List Selection) : List (Channel × List UInt8) :=
  ss.flatMap (writesOn catalog)

/-- Writing to channels as events. -/
def writeEvents (ws : List (Channel × List UInt8)) : List Event :=
  ws.map fun w => .write w.1 w.2

/-- A flush of both channels. -/
def flushes : List Event :=
  [.flush .out, .flush .diag]

variable (catalog : Catalog)

/-- The events of an audit over readings. -/
def loopEvents : List Reading → List Event
  | [] => []
  | r :: rs =>
    r.pieces.map .read ++
      match r.item with
      | some (.ok (.select s)) => writeEvents (writesOn catalog s) ++ flushes ++ loopEvents rs
      | _ => []

/-- What happens behind the loop of an audit of some items. -/
def closingEvents (config : Config) (items : List Item) : List Event :=
  flushes ++
    if stopOf items = none ∧ config.summary = true then
      .write .diag (lineBytesOf ((tally catalog (selectionsOf items)).table.render config.style)) ::
        flushes
    else []

/-! ### The events of an audit -/

/-- Bytes that a sink takes are recorded. -/
theorem Output.history_writeBytes {o : Output} {c : Channel} (h : (o.sink c).limit = none)
    {bytes : List UInt8} (hne : bytes ≠ []) :
    (o.writeBytes c bytes).state.history = o.history ++ [.write c bytes] := by
  have hkept : (o.sink c).accepted bytes = bytes := by rw [Sink.accepted, h]
  have hsink (s : Sink) : (o.setSink s c).history = o.history := by cases c <;> rfl
  simp only [writeBytes, hkept, List.isEmpty_eq_false_iff.mpr hne, Bool.false_eq_true, if_false,
    record, hsink]

theorem Report.history_writeLine {r : Report} {c : Channel} (h : (r.output.sink c).limit = none)
    (text : String) :
    (r.writeLine c text).state.output.history =
      r.output.history ++ [.write c (lineBytesOf text)] :=
  Output.history_writeBytes h (lineBytesOf_ne_nil text)

theorem Report.history_flush (r : Report) :
    r.flush.output.history = r.output.history ++ flushes := by
  simp [flush, Output.flush, Output.record, flushes]

theorem Report.Holds.limit {r : Report} {out diag : List UInt8} {counts : Counts}
    (h : r.Holds out diag counts) (c : Channel) : (r.output.sink c).limit = none := by
  cases c with
  | out => rw [h.out_eq]
  | diag => rw [h.diag_eq]

namespace Audit.Checked

variable {catalog} {ss : List Selection} {a : Audit}

/-- Checking a selection writes its lines and flushes both channels. -/
theorem history_step (h : Checked catalog ss a) (s : Selection) :
    (checkSelection catalog a s).state.report.output.history =
      a.report.output.history ++ (writeEvents (writesOn catalog s) ++ flushes) := by
  have hcount := h.report.count (verdict catalog s)
  obtain ⟨hfail, -⟩ := h.report.emit s.render s.table (verdict catalog s)
  have hemit : (a.report.emit s.render s.table (verdict catalog s)).state.output.history =
      a.report.output.history ++ writeEvents (writesOn catalog s) := by
    cases hv : verdict catalog s with
    | covered => simp [Report.emit, writesOn, hv, writeEvents]
    | uncovered =>
      rw [hv] at hcount
      simp only [Report.emit, writesOn, hv]
      exact Report.history_writeLine (hcount.limit .out) s.render
    | unknownTable =>
      rw [hv] at hcount
      obtain ⟨hwritten, hdiag⟩ := hcount.writeDiag (Report.diagnosis s.table s.render)
      simp only [Report.emit, writesOn, hv, Attempt.andThen, hwritten]
      -- the line to the diagnoses comes before the one to the reports
      rw [Report.history_writeLine (hdiag.limit .out),
        Report.history_writeLine (hcount.limit .diag), List.append_assoc]
      rfl
  simp only [checkSelection, hfail]
  rw [Report.history_flush, hemit, List.append_assoc]

/-- The events of an audit over readings. -/
theorem history_run (h : Checked catalog ss a) (rs : List Reading) :
    (overReadings catalog a rs).state.report.output.history =
      a.report.output.history ++ loopEvents catalog rs := by
  induction rs generalizing ss a with
  | nil => exact (List.append_nil _).symm
  | cons r rs ih =>
    have hreads := h.recordReads r.pieces
    have hhistory : (a.recordReads r.pieces).report.output.history =
        a.report.output.history ++ r.pieces.map .read := rfl
    rcases hitem : r.item with - | (e | (s | ⟨table, statement⟩ | statement))
    case some.ok.select =>
      obtain ⟨hfail, hchecked⟩ := hreads.step s
      have hstep := hreads.history_step s
      simp only [overReadings, loopEvents, hitem, onItem, selectionOf, Statement.selection,
        Attempt.andThen, hfail]
      rw [ih hchecked, hstep, hhistory]
      simp only [List.append_assoc]
    -- nothing but a selection is written about, and the loop ends at it
    all_goals
      simp only [overReadings, loopEvents, hitem, onItem, selectionOf, Statement.selection,
        Attempt.andThen, List.append_nil]
      exact hhistory

/-- At the end both channels are flushed, and then the summary is written, if there is one. -/
theorem history_finish {items : List Item} {looped : Attempt Audit}
    (h : Checked catalog (selectionsOf items) looped.state) (hstop : looped.failure = stopOf items)
    (config : Config) :
    (Audit.finish config looped).state.report.output.history =
      looped.state.report.output.history ++ closingEvents catalog config items := by
  have hflush := h.report.flush
  have hhistory := looped.state.report.history_flush
  rw [closingEvents, ← hstop, ← List.append_assoc]
  cases hfail : looped.failure with
  | some e =>
    simp only [Audit.finish, hfail, reduceCtorEq, false_and, if_false, List.append_nil]
    exact hhistory
  | none =>
    cases hs : config.summary with
    | false =>
      simp only [Audit.finish, hfail, hs, Bool.false_eq_true, and_false, if_false,
        List.append_nil]
      exact hhistory
    | true =>
      have hwrite := Report.history_writeLine (hflush.limit .diag)
        ((tally catalog (selectionsOf items)).table.render config.style)
      have hfailure :=
        (hflush.writeDiag ((tally catalog (selectionsOf items)).table.render config.style)).1
      simp only [Audit.finish, hfail, hs, summarize, Report.writeSummary, hflush.counts_eq,
        hfailure, if_true, and_self]
      -- the flushes at the end of the loop stand before the summary
      rw [Report.history_flush, hwrite, hhistory]
      simp only [List.append_assoc]
      rfl

end Audit.Checked

/-- The events of an audit whose sinks take everything. -/
theorem history_audit (config : Config) (source : Source) :
    (audit catalog config source {}).output.history =
      loopEvents catalog (Reader.start config.dialect source).readings ++
        closingEvents catalog config (Reader.start config.dialect source).items := by
  have hstart := Audit.Checked.start catalog
  obtain ⟨hstop, hchecked⟩ := hstart.run (Reader.readings_eq (Reader.start config.dialect source))
  have hhistory := hchecked.history_finish hstop config
  rw [hstart.history_run] at hhistory
  exact hhistory

/-! ### What events come to -/

theorem bytesTaken_append (es fs : List Event) :
    bytesTaken (es ++ fs) = bytesTaken es + bytesTaken fs := by
  rw [bytesTaken, List.map_append, List.sum_append]
  rfl

theorem writesIn_append (es fs : List Event) : writesIn (es ++ fs) = writesIn es ++ writesIn fs :=
  List.filterMap_append

theorem bytesTaken_reads (pieces : List Nat) : bytesTaken (pieces.map .read) = pieces.sum := by
  rw [bytesTaken, List.map_map]
  exact congrArg List.sum (List.map_id pieces)

theorem bytesTaken_eq_zero {es : List Event} (h : ∀ count, .read count ∈ es → count = 0) :
    bytesTaken es = 0 := by
  induction es with
  | nil => rfl
  | cons e es ih =>
    have hrest := ih fun count hmem => h count (List.mem_cons_of_mem e hmem)
    cases e with
    | read count =>
      rw [h count List.mem_cons_self]
      simpa [bytesTaken] using hrest
    | write c bytes => simpa [bytesTaken] using hrest
    | flush c => simpa [bytesTaken] using hrest

theorem bytesTaken_of_notMem {es : List Event} (h : ∀ count, .read count ∉ es) :
    bytesTaken es = 0 :=
  bytesTaken_eq_zero fun count hmem => absurd hmem (h count)

theorem writesIn_reads (pieces : List Nat) : writesIn (pieces.map .read) = [] := by
  simp [writesIn]

theorem writesIn_writeEvents (ws : List (Channel × List UInt8)) :
    writesIn (writeEvents ws ++ flushes) = ws := by
  rw [writesIn_append, writesIn, writeEvents, List.filterMap_map]
  simp [writesIn, flushes]

theorem read_notMem_writeEvents (ws : List (Channel × List UInt8)) (count : Nat) :
    .read count ∉ writeEvents ws ++ flushes := by
  simp [writeEvents, flushes]

theorem read_notMem_closingEvents (config : Config) (items : List Item) (count : Nat) :
    .read count ∉ closingEvents catalog config items := by
  unfold closingEvents
  split <;> simp [flushes]

theorem bytesTaken_writeEvents (ws : List (Channel × List UInt8)) :
    bytesTaken (writeEvents ws ++ flushes) = 0 :=
  bytesTaken_of_notMem (read_notMem_writeEvents ws)

/-- A flush at the end comes behind everything that was written. -/
theorem flushed_flushes (es : List Event) (c : Channel) : Flushed (es ++ flushes) c := by
  intro before bytes after h
  rcases append_eq_cons_cases h with ⟨mid, -, rfl⟩ | ⟨mid, -, hmid⟩
  · cases c <;> simp [flushes]
  · have hmem : .write c bytes ∈ flushes := by
      rw [hmid]
      simp
    simp [flushes] at hmem

/-- Behind events in which all is flushed input is taken. -/
theorem Flushed.reads {es : List Event} {c : Channel} (h : Flushed es c) (pieces : List Nat) :
    Flushed (es ++ pieces.map .read) c := by
  intro before bytes after heq
  rcases append_eq_cons_cases heq with ⟨mid, hes, rfl⟩ | ⟨mid, -, hmid⟩
  · exact List.mem_append_left _ (h before bytes mid hes)
  · have hmem : .write c bytes ∈ pieces.map Event.read := by
      rw [hmid]
      simp
    simp at hmem

/-- All that was written are the lines for some selections, and all of it was flushed. -/
structure Settled (ss : List Selection) (es : List Event) : Prop where
  flushed : ∀ c, Flushed es c
  writes : writesIn es = writesFor catalog ss

namespace Settled

variable {catalog} {ss : List Selection} {es : List Event}

theorem nil : Settled catalog [] [] := by
  refine ⟨fun c before bytes after h => ?_, rfl⟩
  cases before <;> cases h

theorem reads (h : Settled catalog ss es) (pieces : List Nat) :
    Settled catalog ss (es ++ pieces.map .read) := by
  refine ⟨fun c => (h.flushed c).reads pieces, ?_⟩
  rw [writesIn_append, writesIn_reads, List.append_nil]
  exact h.writes

theorem step (h : Settled catalog ss es) (s : Selection) :
    Settled catalog (ss ++ [s]) (es ++ (writeEvents (writesOn catalog s) ++ flushes)) := by
  refine ⟨fun c => ?_, ?_⟩
  · rw [← List.append_assoc]
    exact flushed_flushes _ c
  · rw [writesIn_append, writesIn_writeEvents, h.writes, writesFor, writesFor, List.flatMap_append,
      List.flatMap_singleton]

end Settled

/-- Let some bytes of a text be taken. All statements that ended in them are selections, and what
    was written are the lines for these, all of them flushed. -/
def UpToDate (d : Dialect) (text : List UInt8) (es : List Event) : Prop :=
  ∃ ss, endedItems d (text.take (bytesTaken es)) = selectionItems ss ∧ Settled catalog ss es

/-! ### Before a line is taken -/

variable {catalog} {d : Dialect} {lines tail : List UInt8} {n : Nat} {handed : List Item}

/-- Events among which there is no such read stand before it. -/
theorem of_read_behind {es fs before after : List Event} {count : Nat}
    (h : es ++ fs = before ++ .read count :: after) (hes : .read count ∉ es) :
    ∃ mid, before = es ++ mid ∧ fs = mid ++ .read count :: after := by
  rcases append_eq_cons_cases h with ⟨mid, hmid, -⟩ | hbehind
  · rw [hmid] at hes
    exact absurd (List.mem_append_right _ List.mem_cons_self) hes
  · exact hbehind

theorem of_read_before {es fs before after : List Event} {count : Nat}
    (h : es ++ fs = before ++ .read count :: after) (hfs : .read count ∉ fs) :
    ∃ mid, es = before ++ .read count :: mid := by
  rcases append_eq_cons_cases h with ⟨mid, hmid, -⟩ | ⟨mid, -, hmid⟩
  · exact ⟨mid, hmid⟩
  · rw [hmid] at hfs
    exact absurd (List.mem_append_right _ List.mem_cons_self) hfs

/-- Input that is taken for one reading. -/
theorem Fresh.upToDate {text : List UInt8} {pieces : List Nat} {ss : List Selection}
    (h : Fresh d text n (selectionItems ss) pieces) {past : List Event}
    (hpast : Settled catalog ss past) (hn : bytesTaken past = n) {before after : List Event}
    {count : Nat} (he : pieces.map Event.read = before ++ .read count :: after)
    (hends : EndsLine (text.take (bytesTaken (past ++ before)))) :
    UpToDate catalog d text (past ++ before) := by
  obtain ⟨front, rest, hpieces, rfl, hrest⟩ := List.map_eq_append_iff.mp he
  obtain ⟨k, back, rfl, -, -⟩ := List.map_eq_cons_iff.mp hrest
  refine ⟨ss, ?_, hpast.reads front⟩
  rw [bytesTaken_append, bytesTaken_reads, hn] at hends ⊢
  exact h front k back hpieces hends

theorem loopEvents_cons (r : Reading) (rs : List Reading) :
    loopEvents catalog (r :: rs) =
      r.pieces.map .read ++ loopEvents catalog ({ r with pieces := [] } :: rs) :=
  rfl

/-- Readings behind the end of the source take nothing. -/
theorem read_mem_loopEvents_of_idle {rs : List Reading} (h : ∀ r ∈ rs, r.Idle) {count : Nat}
    (hmem : .read count ∈ loopEvents catalog rs) : count = 0 := by
  induction rs with
  | nil => cases hmem
  | cons r rs ih =>
    have hrest := ih fun q hq => h q (List.mem_cons_of_mem r hq)
    rw [loopEvents, List.mem_append] at hmem
    rcases hmem with hmem | hmem
    · -- an idle reading asks for nothing, or finds the end and takes no bytes
      rcases h r List.mem_cons_self with hnil | ⟨-, hzero⟩
      · rw [hnil] at hmem
        cases hmem
      · rw [hzero] at hmem
        exact Event.read.inj (List.mem_singleton.mp hmem)
    · split at hmem
      · exact (List.mem_append.mp hmem).elim
          (fun hwrite => absurd hwrite (read_notMem_writeEvents _ count)) hrest
      · cases hmem

/-- What is behind the pieces of a reading is idle if the readings behind it are. -/
theorem idle_behind (r : Reading) {rs : List Reading} (h : ∀ q ∈ rs, q.Idle) :
    ∀ q ∈ { r with pieces := [] } :: rs, q.Idle := by
  intro q hq
  rcases List.mem_cons.mp hq with rfl | hq
  · exact .inl rfl
  · exact h q hq

theorem Reading.Ends.mem {r : Reading} {pieces : List Nat} (h : r.Ends pieces) : 0 ∈ pieces := by
  rcases h with h | ⟨-, ps, rfl, h⟩
  · exact h.mem
  · exact List.mem_append_left _ h.mem

/-- Let `past` be settled for the selections that readings in step have handed out. Wherever they
    ask for input at the start of a line, what happened until then is up to date, unless the end of
    the source was found before. -/
theorem InStep.upToDate {rs : List Reading} (h : InStep d lines tail n handed rs)
    {ss : List Selection} (hss : handed = selectionItems ss) {past : List Event}
    (hpast : Settled catalog ss past) (hn : bytesTaken past = n) {before after : List Event}
    {count : Nat} (he : loopEvents catalog rs = before ++ .read count :: after)
    (hends : EndsLine ((lines ++ tail).take (bytesTaken (past ++ before)))) :
    UpToDate catalog d (lines ++ tail) (past ++ before) ∨ count = 0 ∧ .read 0 ∈ before := by
  induction h generalizing ss past before with
  | @item n handed r rs item fresh item_eq takes ended rest ih =>
    subst hss
    rw [loopEvents, item_eq] at he
    rcases append_eq_cons_cases he with ⟨mid, hmid, -⟩ | ⟨mid, rfl, hmid⟩
    · exact .inl (fresh.upToDate hpast hn hmid hends)
    · -- behind the pieces of this reading input is asked for only if it handed out a selection
      rcases item with e | (s | ⟨table, statement⟩ | statement)
      case ok.select =>
        obtain ⟨mid', rfl, hrest⟩ := of_read_behind hmid (read_notMem_writeEvents _ count)
        have hstep := (hpast.reads r.pieces).step s
        have hassoc : past ++ (r.pieces.map Event.read ++
              (writeEvents (writesOn catalog s) ++ flushes ++ mid')) =
            past ++ r.pieces.map .read ++ (writeEvents (writesOn catalog s) ++ flushes) ++
              mid' := by
          simp only [List.append_assoc]
        have hselect : selectionItems ss ++ [.ok (.select s)] = selectionItems (ss ++ [s]) := by
          simp [selectionItems]
        have hmore := ih _ rfl hselect hstep
          (by rw [bytesTaken_append, bytesTaken_append, bytesTaken_reads, bytesTaken_writeEvents,
            hn, Nat.add_zero]) hrest
        rw [hassoc] at hends ⊢
        refine (hmore hends).imp_right fun ⟨hzero, hmem⟩ => ⟨hzero, ?_⟩
        exact List.mem_append_right _ (List.mem_append_right _ hmem)
      all_goals cases mid <;> cases hmid
  | @last n handed r rs fresh ended takes ends rest =>
    subst hss
    rw [loopEvents_cons] at he
    rcases append_eq_cons_cases he with ⟨mid, hmid, -⟩ | ⟨mid, rfl, hmid⟩
    · exact .inl (fresh.upToDate hpast hn hmid hends)
    · -- this reading has found the end of the source
      have hmem : .read count ∈ loopEvents catalog ({ r with pieces := [] } :: rs) := by
        rw [hmid]
        exact List.mem_append_right _ List.mem_cons_self
      exact .inr ⟨read_mem_loopEvents_of_idle (idle_behind r rest) hmem,
        List.mem_append_left _ (List.mem_map_of_mem ends.mem)⟩

/-! ### Behind the end of the source -/

/-- Of idle readings only the one without an item asks for input, when all selections before the
    first other item are settled. -/
theorem settled_of_idle {rs : List Reading} {items : List Item}
    (hr : rs.map Reading.item = items.map some ++ [none]) (h : ∀ r ∈ rs, r.Idle)
    {ss : List Selection} {past : List Event} (hpast : Settled catalog ss past)
    {before after : List Event} {count : Nat}
    (he : loopEvents catalog rs = before ++ .read count :: after) :
    Settled catalog (ss ++ selectionsOf items) (past ++ before) := by
  induction items generalizing rs ss past before with
  | nil =>
    obtain ⟨r, rs, rfl, hnone, -⟩ := List.map_eq_cons_iff.mp hr
    rw [loopEvents, hnone, List.append_nil] at he
    obtain ⟨front, rest, -, rfl, -⟩ := List.map_eq_append_iff.mp he
    have hss : ss ++ selectionsOf [] = ss := List.append_nil ss
    rw [hss]
    exact hpast.reads front
  | cons item items ih =>
    obtain ⟨r, rs, rfl, hitem, hrest⟩ := List.map_eq_cons_iff.mp hr
    have hnil : r.pieces = [] :=
      (h r List.mem_cons_self).resolve_right fun hnone => nomatch hnone.1.symm.trans hitem
    rw [loopEvents, hitem, hnil, List.map_nil, List.nil_append] at he
    cases hs : Audit.selectionOf item with
    | ok s =>
      obtain rfl := Audit.eq_of_selectionOf hs
      obtain ⟨mid, rfl, hmid⟩ := of_read_behind he (read_notMem_writeEvents _ count)
      have hall := ih hrest (fun q hq => h q (List.mem_cons_of_mem r hq)) (hpast.step s) hmid
      simpa only [selectionsOf, List.append_assoc, List.cons_append, List.nil_append] using hall
    | error e =>
      -- the loop ends at the item, so no event stands behind it
      rcases item with e' | (s | ⟨table, statement⟩ | statement)
      case ok.select => cases hs
      all_goals cases before <;> cases he

/-- The end of the source is not found twice for an item. -/
theorem FindsEnd.not_again {ps front back : List Nat} (h : FindsEnd ps)
    (hps : ps = front ++ 0 :: back) : 0 ∉ front := by
  obtain ⟨found, rfl, hfound⟩ := h
  rcases append_eq_cons_cases hps with ⟨mid, rfl, -⟩ | ⟨mid, rfl, hmid⟩
  · exact absurd (List.mem_append_right _ List.mem_cons_self) hfound
  · cases mid with
    | nil => rwa [List.append_nil]
    | cons _ mid => cases mid <;> cases hmid

/-- If the end of the source was found before, input is asked for when all selections that are
    checked are settled. -/
theorem InStep.settled_again {rs : List Reading} (h : InStep d lines tail n handed rs)
    {items : List Item} (hr : rs.map Reading.item = items.map some ++ [none])
    {ss : List Selection} {past : List Event} (hpast : Settled catalog ss past)
    {before after : List Event} (he : loopEvents catalog rs = before ++ .read 0 :: after)
    (hbefore : .read 0 ∈ before) :
    Settled catalog (ss ++ selectionsOf items) (past ++ before) := by
  induction h generalizing items ss past before with
  | @item n handed r rs item fresh item_eq takes ended rest ih =>
    have hnone : Event.read 0 ∉ r.pieces.map Event.read := by simpa using takes
    cases items with
    | nil => cases item_eq.symm.trans (List.cons.inj hr).1
    | cons item' items =>
      obtain ⟨hitem, hrest⟩ := List.cons.inj hr
      cases item_eq.symm.trans hitem
      rw [loopEvents, item_eq] at he
      -- neither is the read among the pieces of this reading, nor is the one before it
      obtain ⟨mid, rfl, hmid⟩ := of_read_behind he hnone
      rcases item with e | (s | ⟨table, statement⟩ | statement)
      case ok.select =>
        obtain ⟨mid', rfl, hloop⟩ := of_read_behind hmid (read_notMem_writeEvents _ 0)
        have hmem : .read 0 ∈ mid' := by
          have hlater := (List.mem_append.mp hbefore).resolve_left hnone
          exact (List.mem_append.mp hlater).resolve_left (read_notMem_writeEvents _ 0)
        have hall := ih _ rfl hrest ((hpast.reads r.pieces).step s) hloop hmem
        simpa only [selectionsOf, List.append_assoc, List.cons_append, List.nil_append] using hall
      all_goals cases mid <;> cases hmid
  | @last n handed r rs fresh ended takes ends rest =>
    rw [loopEvents_cons] at he
    rcases append_eq_cons_cases he with ⟨mid, hmid, -⟩ | ⟨mid, rfl, hmid⟩
    · -- this reading has found the end twice, so that it has no item
      obtain ⟨front, more, hpieces, rfl, hmore⟩ := List.map_eq_append_iff.mp hmid
      obtain ⟨k, back, rfl, hk, -⟩ := List.map_eq_cons_iff.mp hmore
      obtain rfl : k = 0 := Event.read.inj hk
      have hfront : 0 ∈ front := by simpa using hbefore
      have hitem : r.item = none :=
        (ends.resolve_left fun hfinds => hfinds.not_again hpieces hfront).1
      cases items with
      | cons item items => cases hitem.symm.trans (List.cons.inj hr).1
      | nil =>
        have hss : ss ++ selectionsOf [] = ss := List.append_nil ss
        rw [hss]
        exact hpast.reads front
    · have hitems : ({ r with pieces := [] } :: rs).map Reading.item = items.map some ++ [none] :=
        hr
      have hall := settled_of_idle hitems (idle_behind r rest) (hpast.reads r.pieces) hmid
      rwa [List.append_assoc] at hall

/-- Items that do not end an audit are selections. -/
theorem eq_selectionItems_of_stop {items : List Item} (h : stopOf items = none) :
    items = selectionItems (selectionsOf items) := by
  induction items with
  | nil => rfl
  | cons item items ih =>
    rcases item with e | (s | ⟨table, statement⟩ | statement)
    · cases h
    · exact congrArg (.ok (.select s) :: ·) (ih h)
    · cases h
    · cases h

/-- If no statement on the lines ends the audit, input is asked for behind all lines, when the audit
    is up to date, and nothing is taken then but what stands behind the lines. -/
theorem InStep.upToDate_at_end {rs : List Reading} (h : InStep d lines tail n handed rs)
    (hstop : stopOf (endedItems d lines) = none) {ss : List Selection}
    (hss : handed = selectionItems ss) {past : List Event} (hpast : Settled catalog ss past)
    (hn : bytesTaken past = n) :
    ∃ before count after, loopEvents catalog rs = before ++ .read count :: after ∧
      bytesTaken (past ++ before) = lines.length ∧ count + bytesTaken after = tail.length ∧
      UpToDate catalog d (lines ++ tail) (past ++ before) := by
  induction h generalizing ss past with
  | @item n handed r rs item fresh item_eq takes ended rest ih =>
    subst hss
    have hmem : item ∈ selectionItems (selectionsOf (endedItems d lines)) := by
      -- all statements that end on the lines are selections, as nothing there ends the audit
      rw [← eq_selectionItems_of_stop hstop]
      exact ended.subset (by simp)
    obtain ⟨s, -, rfl⟩ := List.mem_map.mp hmem
    have hmore : selectionItems ss ++ [.ok (.select s)] = selectionItems (ss ++ [s]) := by
      simp [selectionItems]
    obtain ⟨before, count, after, hloop, hlines, htail, hdate⟩ := ih _ rfl hmore
      ((hpast.reads r.pieces).step s)
      (by rw [bytesTaken_append, bytesTaken_append, bytesTaken_reads, bytesTaken_writeEvents, hn,
        Nat.add_zero])
    refine ⟨r.pieces.map .read ++ (writeEvents (writesOn catalog s) ++ flushes) ++ before, count,
      after, ?_, ?_, htail, ?_⟩
    · rw [loopEvents, item_eq, hloop]
      simp only [List.append_assoc]
    · rw [← hlines]
      simp only [List.append_assoc]
    · simpa only [List.append_assoc] using hdate
  | @last n handed r rs fresh ended takes ends rest =>
    subst hss
    obtain ⟨front, k, back, hpieces, hfront, hback⟩ := takes
    have htaken : bytesTaken (past ++ front.map .read) = lines.length := by
      rw [bytesTaken_append, bytesTaken_reads, hn, hfront]
    refine ⟨front.map .read, k,
      back.map .read ++ loopEvents catalog ({ r with pieces := [] } :: rs), ?_, htaken, ?_, ss, ?_,
      hpast.reads front⟩
    · rw [loopEvents_cons, hpieces, List.map_append, List.append_assoc]
      rfl
    · rw [bytesTaken_append, bytesTaken_reads,
        bytesTaken_eq_zero fun _ => read_mem_loopEvents_of_idle (idle_behind r rest), Nat.add_zero]
      exact hback
    · rw [htaken, List.take_left, ended]

/-! ### The whole audit -/

/-- Behind the loop of an audit all selections that were checked are settled. -/
theorem settled_loopEvents {rs : List Reading} {items : List Item}
    (hr : rs.map Reading.item = items.map some ++ [none]) {ss : List Selection}
    {past : List Event} (hpast : Settled catalog ss past) :
    Settled catalog (ss ++ selectionsOf items) (past ++ loopEvents catalog rs) := by
  induction items generalizing rs ss past with
  | nil =>
    obtain ⟨r, rs, rfl, hnone, -⟩ := List.map_eq_cons_iff.mp hr
    have hss : ss ++ selectionsOf [] = ss := List.append_nil ss
    rw [loopEvents, hnone, List.append_nil, hss]
    exact hpast.reads r.pieces
  | cons item items ih =>
    obtain ⟨r, rs, rfl, hitem, hrest⟩ := List.map_eq_cons_iff.mp hr
    have hreads := hpast.reads r.pieces
    rw [loopEvents, hitem]
    cases hs : Audit.selectionOf item with
    | ok s =>
      obtain rfl := Audit.eq_of_selectionOf hs
      have hall := ih hrest (hreads.step s)
      simpa only [selectionsOf, List.append_assoc, List.cons_append, List.nil_append] using hall
    | error e =>
      rw [(Audit.stopOf_of_error hs items).2, List.append_nil]
      rcases item with e' | (s | ⟨table, statement⟩ | statement)
      case ok.select => cases hs
      all_goals exact (List.append_nil (r.pieces.map Event.read)).symm ▸ hreads

/-- What happens in an audit of buffers. Wherever input is asked for at the start of a line, all
    statements that ended in the bytes before are selections, and what was written are the lines for
    these, each once and in order, all of them flushed; only if the end of the source was found
    before, text without a semicolon at the end may have been read and reported as well, and then
    what was written are the lines for all selections that are checked. Unless a statement on the
    lines of the source ends the audit, input is asked for behind all lines, where the end of the
    source or its failure is found or what stands before the failure is taken. The loop has written
    the lines for all selections that are checked; whatever ended it, both channels are flushed
    behind it, and only then the summary is written, if there is one. -/
theorem reported_before_read (catalog : Catalog) (config : Config) (buffers : List (List UInt8))
    (failure : Option String) :
    let d := config.dialect
    let source := Source.ofBuffers buffers failure
    let items := (Reader.start d source).items
    let bytes := buffers.flatten
    let lines := linesBefore failure bytes
    let history := (audit catalog config source {}).output.history
    (∀ before count after, history = before ++ .read count :: after →
        EndsLine (bytes.take (bytesTaken before)) →
        UpToDate catalog d bytes before ∨ count = 0 ∧ .read 0 ∈ before) ∧
    (∀ before after, history = before ++ .read 0 :: after → .read 0 ∈ before →
        Settled catalog (selectionsOf items) before) ∧
    (stopOf (endedItems d lines) = none →
      ∃ before count after, history = before ++ .read count :: after ∧
        bytesTaken before = lines.length ∧
        count + bytesTaken after = bytes.length - lines.length ∧
        UpToDate catalog d bytes before) ∧
    ∃ loop, Settled catalog (selectionsOf items) loop ∧
      history = loop ++ [.flush .out, .flush .diag] ++
        if stopOf items = none ∧ config.summary = true then
          [.write .diag
              (lineBytesOf ((tally catalog (selectionsOf items)).table.render config.style)),
            .flush .out, .flush .diag]
        else [] := by
  intro d source items bytes lines history
  obtain ⟨tail, (htail : lines ++ tail = bytes), hstep⟩ := inStep_readings d buffers failure
  have hhistory := history_audit catalog config source
  have hreadings := (Reader.start d source).readings_eq
  -- input is asked for only within the loop
  have hloop {before after : List Event} {count : Nat}
      (he : history = before ++ .read count :: after) :
      ∃ mid, loopEvents catalog (Reader.start d source).readings = before ++ .read count :: mid :=
    of_read_before (hhistory.symm.trans he) (read_notMem_closingEvents catalog config items count)
  refine ⟨fun before count after he hends => ?_, fun before after he hbefore => ?_,
    fun hstop => ?_, ?_⟩
  · obtain ⟨mid, hmid⟩ := hloop he
    rw [← htail] at hends ⊢
    exact hstep.upToDate rfl .nil rfl hmid hends
  · obtain ⟨mid, hmid⟩ := hloop he
    exact hstep.settled_again hreadings .nil hmid hbefore
  · have hnone : Settled catalog [] [] := .nil
    obtain ⟨before, count, after, hmid, htaken, hafter, hdate⟩ :=
      hstep.upToDate_at_end hstop rfl hnone rfl
    have hlen : tail.length = bytes.length - lines.length := by
      rw [← htail, List.length_append, Nat.add_sub_cancel_left]
    rw [htail] at hdate
    refine ⟨before, count, after ++ closingEvents catalog config items, hhistory.trans ?_, htaken,
      ?_, hdate⟩
    · rw [hmid, List.append_assoc]
      rfl
    · rw [bytesTaken_append,
        bytesTaken_of_notMem (read_notMem_closingEvents catalog config items), Nat.add_zero, hafter,
        hlen]
  · refine ⟨_, settled_loopEvents hreadings .nil, ?_⟩
    rw [List.append_assoc]
    exact hhistory

end QueryAudit
