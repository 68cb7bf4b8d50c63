import QueryAudit.Proofs.Calls
import QueryAudit.Proofs.Progress

/-!
# The end of a reader

A reader hands out the statements of its texts and at most one error behind them. Once a call has
handed out anything but a statement the reader stays as it is, and no item waits. A reader that ends
without an error leaves nothing: no item that waits and no byte of the source.
-/

namespace QueryAudit

/-- Of some items only the last one may be an error. -/
def ErrorLast (items : List Item) : Prop :=
  ∃ (statements : List Statement) (error : Option Error),
    items = statements.map .ok ++ error.toList.map .error

namespace ErrorLast

theorem nil : ErrorLast [] :=
  ⟨[], none, rfl⟩

theorem error (e : Error) : ErrorLast [.error e] :=
  ⟨[], some e, rfl⟩

theorem cons {items : List Item} (h : ErrorLast items) (s : Statement) :
    ErrorLast (.ok s :: items) := by
  obtain ⟨statements, error, rfl⟩ := h
  exact ⟨s :: statements, error, rfl⟩

theorem of_cons {s : Statement} {items : List Item} (h : ErrorLast (.ok s :: items)) :
    ErrorLast items := by
  obtain ⟨statements, error, h⟩ := h
  cases statements with
  | nil => cases error <;> cases h
  | cons s' statements =>
    cases h
    exact ⟨statements, error, rfl⟩

end ErrorLast

theorem errorLast_throughError (items : List Item) : ErrorLast (throughError items) := by
  induction items with
  | nil => exact .nil
  | cons item items ih =>
    cases item with
    | error e => exact .error e
    | ok s => exact ih.cons s

theorem Stream.Reads.errorLast {parse : Parse} {ts : List Sql.Located} {items : List Item}
    (h : Stream.Reads parse ts items) : ErrorLast items := by
  induction h with
  | ended => exact .nil
  | wrong => exact .error _
  | statement _ _ _ ih => exact ih.cons _

theorem Stream.errorLast_ofText (d : Dialect) (text : List UInt8) :
    ErrorLast (Stream.ofText d text) := by
  unfold Stream.ofText
  split
  · exact .error _
  · split
    · exact .error _
    · exact (reads_items d _).errorLast

/-! ### The end of a splitter -/

/-- When a search comes to the end, nothing is left. -/
theorem Splitter.search_finished {d : Dialect} {mode : Mode} {seen ahead : List UInt8}
    {ending : Ending} {taken : List Nat} {lines : List Line}
    (h : (search d mode seen ahead ending taken lines).delivery = .finished) :
    (search d mode seen ahead ending taken lines).splitter = {} ∧
      (search d mode seen ahead ending taken lines).source = ⟨[], .finished⟩ := by
  induction lines generalizing mode seen ahead taken with
  | nil =>
    unfold search at h ⊢
    split at h
    · cases h
    · split at h
      · -- only at the end of the last line, where nothing is held
        exact ⟨rfl, rfl⟩
      · cases h
  | cons line lines ih =>
    unfold search at h ⊢
    split at h
    · cases h
    · exact ih h

namespace Reader

variable {r : Reader} {reading : Reading}

/-! ### What holds between calls -/

/-- What holds of a reader between calls: only the last item that waits may be an error, and no item
    waits at the end. -/
structure Sound (r : Reader) : Prop where
  errorLast : ErrorLast r.pending
  pending_of_finished : r.finished = true → r.pending = []

theorem sound_start (d : Dialect) (source : Source) : (start d source).Sound :=
  ⟨.nil, fun _ => rfl⟩

theorem sound_handOut {pieces : List Nat} {item : Item} {rest : List Item}
    (hf : r.finished = false) (h : ErrorLast (item :: rest)) :
    (r.handOut pieces item rest).reader.Sound := by
  cases item with
  | error e => exact ⟨.nil, fun _ => rfl⟩
  | ok s => exact ⟨h.of_cons, fun ht => absurd (hf.symm.trans ht) Bool.false_ne_true⟩

theorem Fills.sound {d : Dialect} {s : Splitter} {source : Source} {pieces : List Nat}
    (h : Fills d s source pieces reading) : reading.reader.Sound := by
  induction h with
  | @text _ _ _ text _ _ _ hitems =>
    have hlast := Stream.errorLast_ofText d text
    rw [hitems] at hlast
    exact sound_handOut rfl hlast
  | failed => exact sound_handOut rfl (.error _)
  | ended => exact ⟨.nil, fun _ => rfl⟩
  | skip _ _ _ ih => exact ih

/-- Calls leave a reader sound. -/
theorem Does.sound (h : r.Does reading) (hr : r.Sound) : reading.reader.Sound := by
  cases h with
  | finished => exact hr
  | queued hf hp =>
    have hlast := hr.errorLast
    rw [hp] at hlast
    exact sound_handOut hf hlast
  | filled _ _ hfills => exact hfills.sound

theorem Sound.after (h : r.Sound) (k : Nat) : (r.after k).Sound := by
  induction k with
  | zero => exact h
  | succ k ih => exact (next_does _).sound ih

/-! ### The end -/

theorem finished_handOut {pieces : List Nat} {item : Item} {rest : List Item}
    (hf : r.finished = false) :
    (r.handOut pieces item rest).reader.finished = true ↔
      ∀ s, (r.handOut pieces item rest).item ≠ some (.ok s) := by
  cases item with
  | error e => exact ⟨fun _ _ => nofun, fun _ => rfl⟩
  | ok s =>
    exact ⟨fun ht => absurd (hf.symm.trans ht) Bool.false_ne_true, fun h => absurd rfl (h s)⟩

theorem Fills.finished_iff {d : Dialect} {s : Splitter} {source : Source} {pieces : List Nat}
    (h : Fills d s source pieces reading) :
    reading.reader.finished = true ↔ ∀ s, reading.item ≠ some (.ok s) := by
  induction h with
  | text => exact finished_handOut rfl
  | failed => exact finished_handOut rfl
  | ended => exact ⟨fun _ _ => nofun, fun _ => rfl⟩
  | skip _ _ _ ih => exact ih

/-- A call that hands out no statement is the end. -/
theorem Does.finished_iff (h : r.Does reading) :
    reading.reader.finished = true ↔ ∀ s, reading.item ≠ some (.ok s) := by
  cases h with
  | finished hf => exact ⟨fun _ _ => nofun, fun _ => hf⟩
  | queued hf => exact finished_handOut hf
  | filled _ _ hfills => exact hfills.finished_iff

/-- At the end calls change nothing. -/
theorem next_of_finished (h : r.finished = true) : r.next = ⟨none, [], r⟩ := by
  rw [next, if_pos h]

theorem finished_after {j k : Nat} (hjk : j ≤ k) (h : (r.after j).finished = true) :
    (r.after k).finished = true := by
  induction hjk with
  | refl => exact h
  | step _ ih =>
    rw [after, next_of_finished ih]
    exact ih

/-- Statements alone do not end a reader. -/
theorem finished_after_of_statements (hr : r.finished = false) {k : Nat}
    (h : ∀ j < k, ∃ s, (r.after j).next.item = some (.ok s)) : (r.after k).finished = false := by
  cases k with
  | zero => exact hr
  | succ k =>
    obtain ⟨s, hs⟩ := h k (Nat.lt_succ_self k)
    refine Bool.eq_false_iff.mpr fun hf => ?_
    exact (next_does _).finished_iff.mp hf s hs

theorem Fills.drained {d : Dialect} {s : Splitter} {source : Source} {pieces : List Nat}
    (h : Fills d s source pieces reading) (hitem : reading.item = none) :
    reading.reader.splitter = {} ∧ reading.reader.source = ⟨[], .finished⟩ := by
  induction h with
  | @text _ _ _ _ item => cases item <;> cases hitem
  | failed => cases hitem
  | ended hd => exact Splitter.search_finished hd
  | skip _ _ _ ih => exact ih hitem

/-- If a reader that has not ended hands out nothing, no item waits and no byte is left. -/
theorem Does.drained (h : r.Does reading) (hf : r.finished = false) (hitem : reading.item = none) :
    r.pending = [] ∧ reading.reader.splitter = {} ∧ reading.reader.source = ⟨[], .finished⟩ := by
  cases h with
  | finished ht => exact absurd (hf.symm.trans ht) Bool.false_ne_true
  | @queued item => cases item <;> cases hitem
  | filled _ hp hfills => exact ⟨hp, hfills.drained hitem⟩

end Reader

/-- Let a reader of any source be called over and over again. It hands out the items of the texts
    that the source delivers and the failure of the source behind them, through the first error; so
    these are statements and at most one error behind them, and each call hands out its item. No
    bound on the rounds shows, neither in what a call does nor in the statements of a text. Only the
    last item that waits may be an error, between calls and also when a text has been read. Behind a
    call that hands out no statement, every call hands out nothing, takes nothing and changes
    nothing, and no item waits. If all calls before it handed out statements and a call hands out
    nothing, then no item waited, and of the source nothing is left. -/
theorem exhaustion (d : Dialect) (source : Source) :
    let r := Reader.start d source
    (∃ texts failure, Deliveries d {} source texts failure ∧
      r.items = throughError (texts.flatMap (Stream.ofText d) ++ failureItems failure)) ∧
    ErrorLast r.items ∧
    (∀ ts, Stream.Reads (Sql.Grammar.parseStatement d) ts (Stream.items d ts)) ∧
    (∀ text, ErrorLast (Stream.ofText d text)) ∧
    (∀ k, (r.after k).Does (r.after k).next ∧ (r.after k).next.item = r.items[k]? ∧
      ErrorLast (r.after k).pending) ∧
    (∀ j k, j < k → (∀ s, (r.after j).next.item ≠ some (.ok s)) →
      (r.after k).next = ⟨none, [], r.after k⟩ ∧ (r.after k).pending = []) ∧
    (∀ k, (∀ j < k, ∃ s, (r.after j).next.item = some (.ok s)) → (r.after k).next.item = none →
      (r.after k).pending = [] ∧ (r.after (k + 1)).splitter = {} ∧
        (r.after (k + 1)).source = ⟨[], .finished⟩) := by
  intro r
  have hsound : r.Sound := Reader.sound_start d source
  obtain ⟨texts, failure, hd⟩ := deliveries_exist d {} source
  have hyields : r.Yields (itemsAhead d [] texts failure) := ⟨texts, failure, hd, rfl⟩
  have hitems : r.items = throughError (texts.flatMap (Stream.ofText d) ++ failureItems failure) :=
    Reader.items_of_yields hyields
  refine ⟨⟨texts, failure, hd, hitems⟩, ?_, Stream.reads_items d,
    Stream.errorLast_ofText d, fun k => ?_, ?_, ?_⟩
  · rw [hitems]
    exact errorLast_throughError _
  · exact ⟨(r.after k).next_does, r.item_after k, (hsound.after k).errorLast⟩
  · intro j k hjk hitem
    -- a call without a statement is the last one that does anything
    have hend : (r.after (j + 1)).finished = true := (r.after j).next_does.finished_iff.mpr hitem
    have hfinished := Reader.finished_after hjk hend
    exact ⟨Reader.next_of_finished hfinished, (hsound.after k).pending_of_finished hfinished⟩
  · intro k hbefore hitem
    have hopen := Reader.finished_after_of_statements (r := r) rfl hbefore
    exact (r.after k).next_does.drained hopen hitem

/-- A reader that ends at a wrong statement before others, and one that comes to the end of its
    source. -/
theorem exhaustion_of_wrong_statement :
    let r := Reader.start .mysql (Source.ofBuffers
      [Utf8.encode "SELECT 1; SELECT", Utf8.encode ";\nSELECT 2;"] none)
    let q := Reader.start .mysql (Source.ofBuffers [Utf8.encode "SELECT 1;;-- done"] none)
    (∀ s, (r.after 1).next.item ≠ some (.ok s)) ∧ (r.after 3).next = ⟨none, [], r.after 3⟩ ∧
      (∃ s, (q.after 0).next.item = some (.ok s)) ∧ (q.after 1).next.item = none ∧
      (q.after 2).source = ⟨[], .finished⟩ := by
  intro r q
  have hwrong : (r.after 1).next.item.map Reader.isError = some true := by decide +kernel
  have hright : (q.after 0).next.item.map Reader.isError = some false := by decide +kernel
  have hnone : (q.after 1).next.item.isNone = true := by decide +kernel
  have herror : ∀ s, (r.after 1).next.item ≠ some (.ok s) := by
    intro s hs
    rw [hs] at hwrong
    cases hwrong
  have hok : ∃ s, (q.after 0).next.item = some (.ok s) := by
    obtain ⟨item, hitem, hkind⟩ := Option.map_eq_some_iff.mp hright
    cases item with
    | error e => cases hkind
    | ok s => exact ⟨s, hitem⟩
  have hend := Option.isNone_iff_eq_none.mp hnone
  obtain ⟨-, -, -, -, -, hstays, -⟩ := exhaustion .mysql (Source.ofBuffers
    [Utf8.encode "SELECT 1; SELECT", Utf8.encode ";\nSELECT 2;"] none)
  obtain ⟨-, -, -, -, -, -, hdrained⟩ := exhaustion .mysql (Source.ofBuffers
    [Utf8.encode "SELECT 1;;-- done"] none)
  refine ⟨herror, (hstays 1 3 (by decide) herror).1, hok, hend, ?_⟩
  refine (hdrained 1 (fun j hj => ?_) hend).2.2
  obtain rfl : j = 0 := Nat.lt_one_iff.mp hj
  exact hok

end QueryAudit
