import QueryAudit.Proofs.Outcome
import QueryAudit.Proofs.Passage

/-!
# Joining streams of statements

If a text leaves nothing open, another one can be put behind it and a semicolon. The statements are
then those of the first text followed by those of the second, unless the first one has an error,
behind which nothing is read. Nothing of a statement reaches the next one: neither what the splitter
has open and has not looked at, nor items that wait to be handed out, nor places in messages, nor
counts.
-/

namespace QueryAudit

open Sql

variable {d : Dialect}

/-- Whether one of some items is an error. -/
def hasError (items : List Item) : Bool :=
  items.any Reader.isError

/-! ### Items through the first error -/

theorem throughError_append_of_error {xs : List Item} (h : hasError xs = true)
    (ys : List Item) : throughError (xs ++ ys) = throughError xs := by
  induction xs with
  | nil => cases h
  | cons x xs ih =>
    cases x with
    | error e => rfl
    | ok s => exact congrArg (Except.ok s :: ·) (ih h)

theorem throughError_append_of_ok {xs : List Item} (h : hasError xs = false)
    (ys : List Item) : throughError (xs ++ ys) = xs ++ throughError ys := by
  induction xs with
  | nil => rfl
  | cons x xs ih =>
    cases x with
    | error e => cases h
    | ok s => exact congrArg (Except.ok s :: ·) (ih h)

/-- Items without an error are all handed out. -/
theorem throughError_of_ok {xs : List Item} (h : hasError xs = false) : throughError xs = xs := by
  have := throughError_append_of_ok h []
  rwa [List.append_nil, throughError, List.append_nil] at this

/-- The first error is handed out. -/
theorem hasError_throughError (xs : List Item) : hasError (throughError xs) = hasError xs := by
  induction xs with
  | nil => rfl
  | cons x xs ih =>
    cases x with
    | error e => rfl
    | ok s => exact ih

/-- The items of two lists in a row through the first error. -/
theorem throughError_append (xs ys : List Item) :
    throughError (xs ++ ys) =
      if hasError (throughError xs) then throughError xs
      else throughError xs ++ throughError ys := by
  rw [hasError_throughError]
  cases h : hasError xs with
  | true => rw [throughError_append_of_error h, if_pos rfl]
  | false =>
    rw [throughError_append_of_ok h, throughError_of_ok h, if_neg Bool.false_ne_true]

/-- An error ends an audit. -/
theorem exists_stopOf_of_hasError {items : List Item} (h : hasError items = true) :
    ∃ e, stopOf items = some e := by
  induction items with
  | nil => cases h
  | cons x xs ih =>
    rcases x with e | (s | ⟨table, statement⟩ | statement)
    · exact ⟨e, rfl⟩
    · exact ih h
    · exact ⟨_, rfl⟩
    · exact ⟨_, rfl⟩

/-! ### Joined texts -/

/-- A text without bytes has no statements. -/
theorem Stream.ofText_nil (d : Dialect) : Stream.ofText d [] = [] := rfl

/-- What is left open has the items of its bytes, also if there are none. -/
theorem flatMap_last (d : Dialect) (p : Passage) :
    p.last.flatMap (Stream.ofText d) = Stream.ofText d p.seen.reverse := by
  rw [Passage.last]
  split
  · next h => rw [List.isEmpty_iff.mp h, List.reverse_nil, Stream.ofText_nil, List.flatMap_nil]
  · exact List.flatMap_singleton _ _

/-- The statement texts of a text that leaves code open and of one behind it are those of both. -/
theorem flatMap_pieces_join {text : List UInt8} (h : Mode.behind d .code text = .code)
    (more : List UInt8) :
    (pieces d (text ++ Mode.semicolon :: more)).flatMap (Stream.ofText d) =
      (pieces d text).flatMap (Stream.ofText d) ++
        (pieces d more).flatMap (Stream.ofText d) := by
  have hjoin := passage_append_semicolon h more
  have hended : endedTexts d (text ++ Mode.semicolon :: more) =
      endedTexts d text ++ (passage d .code [] text).seen.reverse :: endedTexts d more := by
    rw [endedTexts, hjoin]
  have hlast : (passage d .code [] (text ++ Mode.semicolon :: more)).last =
      (passage d .code [] more).last := by
    rw [hjoin]
    rfl
  -- the semicolon ends what the first text leaves open, and that is read as before
  rw [pieces_eq_passage, pieces_eq_passage, pieces_eq_passage, hended, hlast]
  simp only [List.flatMap_append, List.flatMap_cons, flatMap_last, List.append_assoc]

/-- The items of a text that leaves code open and of one behind it. -/
theorem textItems_join {text : List UInt8} (h : Mode.behind d .code text = .code)
    (more : List UInt8) :
    textItems d (text ++ Mode.semicolon :: more) =
      if hasError (textItems d text) then textItems d text
      else textItems d text ++ textItems d more := by
  rw [textItems, flatMap_pieces_join h, throughError_append]
  rfl

/-- Without a summary an audit of the items of a joined stream comes to the outcome of the first
    part, and behind it to that of the second. -/
theorem outcome_joinItems {config : Config} (hs : config.summary = false) (catalog : Catalog)
    (xs ys : List Item) :
    Outcome.ofItems catalog config (if hasError xs then xs else xs ++ ys) =
      (Outcome.ofItems catalog config xs).andThen (Outcome.ofItems catalog config ys) := by
  cases hx : hasError xs with
  | true =>
    obtain ⟨e, he⟩ := exists_stopOf_of_hasError hx
    rw [if_pos rfl, Outcome.andThen_of_error (Outcome.result_ofItems_of_stop he)]
  | false => rw [if_neg Bool.false_ne_true, Outcome.ofItems_append hs]

/-- Let a text leave code open. However it and a second one are cut into buffers, and however the
    first, a semicolon and the second are: a reader of all of it hands out the items of the first
    text followed by those of the second, or only those of the first if one of them is an error;
    and an audit without a summary comes to the outcome of the first text, and behind it, unless
    that is a failure, to the outcome of the second. -/
theorem joined_streams (d : Dialect) (firsts seconds joined : List (List UInt8))
    (hcode : Mode.behind d .code firsts.flatten = .code)
    (hjoined : joined.flatten = firsts.flatten ++ Mode.semicolon :: seconds.flatten) :
    let itemsOf (buffers : List (List UInt8)) : List Item :=
      (Reader.start d (Source.ofBuffers buffers none)).items
    (itemsOf joined =
      if hasError (itemsOf firsts) then itemsOf firsts
      else itemsOf firsts ++ itemsOf seconds) ∧
    ∀ (catalog : Catalog) (style : TableStyle),
      let outcomeOf (buffers : List (List UInt8)) : Outcome :=
        (audit catalog ⟨d, false, style⟩ (Source.ofBuffers buffers none) {}).outcome
      outcomeOf joined = (outcomeOf firsts).andThen (outcomeOf seconds) := by
  intro itemsOf
  -- the outcome of an audit is a function of the items
  have hitems : itemsOf joined =
      if hasError (itemsOf firsts) then itemsOf firsts
      else itemsOf firsts ++ itemsOf seconds := by
    simp only [itemsOf, items_ofBuffers, hjoined]
    exact textItems_join hcode _
  refine ⟨hitems, ?_⟩
  intro catalog style outcomeOf
  simp only [outcomeOf, outcome_audit]
  exact (congrArg (Outcome.ofItems catalog ⟨d, false, style⟩) hitems).trans
    (outcome_joinItems rfl catalog _ _)

/-- A selection with a semicolon in a string and another one in a comment, and an incomplete one
    behind it: two items, the second an error, which is what an audit without a summary comes to. -/
theorem joined_streams_behind_comment :
    let first := Utf8.encode "SELECT ';' FROM t -- ;\n"
    let second := Utf8.encode "SELECT"
    let joined := [Utf8.encode "SELECT '", Utf8.encode ";' FROM t -- ;\n;SELE", Utf8.encode "CT"]
    let outcomeOf (buffers : List (List UInt8)) : Outcome :=
      (audit ⟨[⟨"t", ["a"]⟩]⟩ {} (Source.ofBuffers buffers none) {}).outcome
    Mode.behind .mysql .code first = .code ∧
      joined.flatten = first ++ Mode.semicolon :: second ∧
      (Reader.start .mysql (Source.ofBuffers joined none)).items.map Reader.isError =
        [false, true] ∧
      outcomeOf joined = (outcomeOf [first]).andThen (outcomeOf [second]) := by
  intro first second joined outcomeOf
  have hcode : Mode.behind .mysql .code first = .code := by decide +kernel
  have hjoined : joined.flatten = first ++ Mode.semicolon :: second := by decide +kernel
  obtain ⟨hitems, houtcome⟩ := joined_streams .mysql [first] [second] joined
    (by simpa using hcode) (by simpa using hjoined)
  have hfirst : (Reader.start .mysql (Source.ofBuffers [first] none)).items.map Reader.isError =
      [false] := by decide +kernel
  have hsecond : (Reader.start .mysql (Source.ofBuffers [second] none)).items.map Reader.isError =
      [true] := by decide +kernel
  have hok : hasError (Reader.start .mysql (Source.ofBuffers [first] none)).items = false := by
    decide +kernel
  refine ⟨hcode, hjoined, ?_, houtcome ⟨[⟨"t", ["a"]⟩]⟩ .modern⟩
  dsimp only at hitems
  rw [hitems, hok, if_neg Bool.false_ne_true, List.map_append, hfirst, hsecond]
  rfl

end QueryAudit
