import Mathlib.Data.List.DropRight
import QueryAudit.Proofs.Joining

/-!
# Sources that fail

A source delivers some bytes and then fails. Input is taken line by line, and bytes of a line that
was begun when the source failed were taken but are never looked at. So the statements that are
handed out before the failure are those that end on a line that ends; a statement whose semicolon is
among the bytes behind the last newline is lost with them. No other statement is.
-/

namespace QueryAudit

open Sql

/-- The bytes of a text through its last newline. -/
def wholeLines (text : List UInt8) : List UInt8 :=
  text.rdropWhile (· ≠ newline)

/-- The items of the statements that end in a text, and a failure behind them, through the first
    error. -/
def itemsBefore (d : Dialect) (text : List UInt8) (message : String) : List Item :=
  throughError ((endedTexts d text).flatMap (Stream.ofText d) ++ [.error (.io message)])

/-! ### The lines of a source that fails -/

/-- Before a failure all lines end. -/
theorem Lined.endsLine {ending : Ending} (hf : ending ≠ .finished) {ahead : List UInt8}
    {lines : List Line} (h : Lined ending ahead lines) : EndsLine (ahead ++ lineBytes lines) := by
  induction lines generalizing ahead with
  | nil =>
    rw [lineBytes, List.flatMap_nil, List.append_nil]
    exact h hf
  | cons line lines ih =>
    rw [lineBytes, List.flatMap_cons]
    exact h.1.append (ih h.2)

/-- A line that is begun last has no newline. -/
theorem newline_notMem_cutLines {begun : Line} {held : List UInt8}
    (hb : newline ∉ begun.bytes) (hh : newline ∉ held) (bytes : List UInt8) :
    newline ∉ (cutLines begun held bytes).2.bytes := by
  induction bytes generalizing begun held with
  | nil =>
    rw [cutLines, Line.bytes_add, List.mem_append, List.mem_reverse]
    exact fun h => h.elim hb hh
  | cons b bs ih =>
    rw [cutLines]
    split
    · exact ih List.not_mem_nil List.not_mem_nil
    · next hne => exact ih hb fun h => (List.mem_cons.mp h).elim (fun h => hne h.symm) hh

/-- A source that fails does so within a line. -/
theorem ending_after_failed {begun : Line} (hb : newline ∉ begun.bytes) (message : String)
    (buffers : List (List UInt8)) :
    ∃ last : Line, (Source.after begun (some message) buffers).ending = .failed last message ∧
      newline ∉ last.bytes := by
  induction buffers generalizing begun with
  | nil => exact ⟨begun, rfl, hb⟩
  | cons buffer buffers ih => exact ih (newline_notMem_cutLines hb List.not_mem_nil buffer)

/-- What stands behind the last newline is dropped. -/
theorem wholeLines_append {text more : List UInt8} (h : EndsLine text)
    (hm : newline ∉ more) : wholeLines (text ++ more) = text := by
  have hpos : ∀ b ∈ more.reverse, decide (b ≠ newline) = true := by
    intro b hb
    exact decide_eq_true fun he => hm (he ▸ List.mem_reverse.mp hb)
  rw [wholeLines, List.rdropWhile, List.reverse_append, List.dropWhile_append_of_pos hpos]
  cases hr : text.reverse with
  | nil => rw [List.reverse_eq_nil_iff.mp hr]; rfl
  | cons b bs =>
    have hlast : b = newline := by
      refine h b ?_
      rw [← List.head?_reverse, hr]
      rfl
    rw [List.dropWhile_cons_of_neg (by simp [hlast]), ← hr, List.reverse_reverse]

/-- The bytes through the last newline end a line. -/
theorem endsLine_wholeLines (text : List UInt8) : EndsLine (wholeLines text) := by
  intro b hb
  have hne : wholeLines text ≠ [] := fun h => by
    rw [h] at hb
    cases hb
  have hlast := List.rdropWhile_last_not (· ≠ newline) text hne
  rw [List.getLast?_eq_some_getLast hne, Option.some.injEq] at hb
  rw [← hb]
  simpa [wholeLines] using hlast

/-- A text is its whole lines and what stands behind them. -/
theorem wholeLines_append_rest (text : List UInt8) :
    ∃ rest, wholeLines text ++ rest = text :=
  List.rdropWhile_prefix (· ≠ newline) text

/-! ### What is handed out before a failure -/

variable {d : Dialect}

/-- A reader of a source that fails hands out the items of the statements that end on whole lines,
    and then the failure, through the first error. -/
theorem items_interrupted (d : Dialect) (buffers : List (List UInt8)) (message : String) :
    (Reader.start d (Source.ofBuffers buffers (some message))).items =
      itemsBefore d (wholeLines buffers.flatten) message := by
  have hnone : newline ∉ ({} : Line).bytes := List.not_mem_nil
  obtain ⟨last, hending, hlast⟩ := ending_after_failed hnone message buffers
  have hl := lined_after {} (some message) buffers
  have hb := bytes_after {} (some message) buffers
  rw [hending] at hl hb
  have hends := hl.endsLine (by rintro ⟨⟩)
  rw [List.nil_append] at hends
  rw [Ending.bytes, List.nil_append] at hb
  -- what the failing read had taken has no newline, so it is no whole line
  have hlines : lineBytes (Source.after {} (some message) buffers).lines =
      wholeLines buffers.flatten := by
    rw [← hb, wholeLines_append hends hlast]
  have hd := deliveries_passage (d := d) hl
  rw [List.nil_append, hlines] at hd
  refine Reader.items_of_yields ?_
  rw [Reader.Yields, if_neg (by simp [Reader.start])]
  refine ⟨endedTexts d (wholeLines buffers.flatten), some message, ?_, rfl⟩
  show Deliveries d {} (Source.after {} (some message) buffers) _ _
  rw [show Source.after {} (some message) buffers =
    ⟨(Source.after {} (some message) buffers).lines, .failed last message⟩ by rw [← hending]]
  exact hd

/-- No statement text has a failure of the source among its items. -/
theorem Stream.ne_io_of_mem_ofText {text : List UInt8} {item : Item}
    (h : item ∈ Stream.ofText d text) (message : String) : item ≠ .error (.io message) := by
  rintro rfl
  obtain ⟨fault, hfault, -⟩ := fault_of_mem_ofText h
  cases hfault

/-- The statements that end in a text and more are those that end in the text, and others. -/
theorem exists_endedTexts_append {text more : List UInt8} (h : Apart d text more) :
    ∃ lost, endedTexts d (text ++ more) = endedTexts d text ++ lost := by
  rw [endedTexts, passage_append .code [] h]
  exact ⟨_, rfl⟩

/-- A failure behind some items comes to the same as one behind more items, if and only if there is
    an error before it or there are no more items. -/
theorem throughError_failure_eq_iff {kept lost : List Item} {message : String}
    (hlost : ∀ item ∈ lost, item ≠ .error (.io message)) :
    throughError (kept ++ [.error (.io message)]) =
        throughError ((kept ++ lost) ++ [.error (.io message)]) ↔
      hasError kept = true ∨ lost = [] := by
  rw [List.append_assoc]
  cases hk : hasError kept with
  | true =>
    rw [throughError_append_of_error hk, throughError_append_of_error hk]
    simp
  | false =>
    rw [throughError_append_of_ok hk, throughError_append_of_ok hk, List.append_cancel_left_eq]
    constructor
    · intro h
      -- the first of the lost items is handed out in place of the failure
      cases lost with
      | nil => exact .inr rfl
      | cons item lost =>
        cases item with
        | error e => exact absurd (List.cons.inj h).1.symm (hlost _ (.head _))
        | ok s => cases (List.cons.inj h).1
    · rintro (h | rfl)
      · cases h
      · rfl

/-- What ends an audit does not change with the items behind the first error. -/
theorem stopOf_throughError (items : List Item) : stopOf (throughError items) = stopOf items := by
  induction items with
  | nil => rfl
  | cons item items ih =>
    rcases item with e | (s | ⟨table, statement⟩ | statement)
    · rfl
    · exact ih
    · rfl
    · rfl

theorem selectionsOf_throughError (items : List Item) :
    selectionsOf (throughError items) = selectionsOf items := by
  induction items with
  | nil => rfl
  | cons item items ih =>
    rcases item with e | (s | ⟨table, statement⟩ | statement)
    · rfl
    · exact congrArg (s :: ·) ih
    · rfl
    · rfl

/-- An audit of items with a failure behind them reports the selections among them and fails. -/
theorem outcome_failure (catalog : Catalog) (config : Config) (items : List Item)
    (message : String) :
    Outcome.ofItems catalog config (throughError (items ++ [.error (.io message)])) =
      { out := reports catalog (selectionsOf items)
        diag := diagnoses catalog (selectionsOf items)
        notes := notesOf catalog (selectionsOf items)
        result := .error ((stopOf items).getD (.io message)) } := by
  have hstop : stopOf (throughError (items ++ [.error (.io message)])) =
      some ((stopOf items).getD (.io message)) := by
    rw [stopOf_throughError, stopOf_append]
    cases stopOf items <;> rfl
  -- a stop before the failure hides it, and nothing stands behind it
  have hselections : selectionsOf (throughError (items ++ [.error (.io message)])) =
      selectionsOf items := by
    rw [selectionsOf_throughError]
    cases hs : stopOf items with
    | some e => rw [selectionsOf_append_of_stop hs]
    | none =>
      rw [selectionsOf_append_of_none hs]
      exact List.append_nil _
  simp only [Outcome.ofItems, Outcome.summaryOf, hselections, hstop]
  simp

/-- Let a source deliver buffers and then fail. A reader hands out the items of the statements that
    end on whole lines of what was delivered, and then the failure, through the first error. These
    are the items of all statements whose semicolon was delivered, if and only if there is an error
    on the whole lines, or the statements that end behind them have no items. An audit reports the
    selections on the whole lines before it fails. -/
theorem interrupted_reading (d : Dialect) (buffers : List (List UInt8)) (message : String) :
    let source := Source.ofBuffers buffers (some message)
    let delivered := buffers.flatten
    let kept := (endedTexts d (wholeLines delivered)).flatMap (Stream.ofText d)
    (Reader.start d source).items = itemsBefore d (wholeLines delivered) message ∧
    (∃ lost, endedTexts d delivered = endedTexts d (wholeLines delivered) ++ lost ∧
      ((Reader.start d source).items = itemsBefore d delivered message ↔
        hasError kept = true ∨ lost.flatMap (Stream.ofText d) = [])) ∧
    ∀ (catalog : Catalog) (config : Config),
      (audit catalog { config with dialect := d } source {}).outcome =
        { out := reports catalog (selectionsOf kept)
          diag := diagnoses catalog (selectionsOf kept)
          notes := notesOf catalog (selectionsOf kept)
          result := .error ((stopOf kept).getD (.io message)) } := by
  intro source delivered kept
  have hitems := items_interrupted d buffers message
  refine ⟨hitems, ?_, ?_⟩
  · obtain ⟨rest, hrest⟩ := wholeLines_append_rest delivered
    obtain ⟨lost, hlost⟩ :=
      exists_endedTexts_append (d := d) ((endsLine_wholeLines delivered).apart rest)
    rw [hrest] at hlost
    refine ⟨lost, hlost, ?_⟩
    rw [hitems, itemsBefore, itemsBefore, hlost, List.flatMap_append]
    -- no statement has the failure of the source as an item, so the items tell them apart
    refine throughError_failure_eq_iff fun item hitem => ?_
    obtain ⟨text, -, htext⟩ := List.mem_flatMap.mp hitem
    exact Stream.ne_io_of_mem_ofText htext message
  · intro catalog config
    rw [outcome_audit, hitems]
    exact outcome_failure catalog _ kept message

/-- Of three statements, two of them with a semicolon, the second is lost, since no newline was
    delivered behind it. -/
theorem delivered_statement_lost :
    let delivered := Utf8.encode "SELECT 1;\nSELECT 2; SELECT"
    (endedTexts .mysql delivered).length = 2 ∧
      (Reader.start .mysql (Source.ofBuffers [delivered] (some "input closed"))).items ≠
        itemsBefore .mysql delivered "input closed" := by
  intro delivered
  refine ⟨by decide +kernel, fun h => ?_⟩
  have hread : (Reader.start .mysql
      (Source.ofBuffers [delivered] (some "input closed"))).items.length = 2 := by decide +kernel
  have hall : (itemsBefore .mysql delivered "input closed").length = 3 := by decide +kernel
  rw [h, hall] at hread
  cases hread

end QueryAudit
