import QueryAudit.Proofs.Splitting
import QueryAudit.Reader

/-!
# What a reader hands out

A reader asks the splitter for one text at a time and hands out what the text has before it asks for
another one. What is handed out is therefore known from what the splitter delivers: the items of the
texts in order, through the first error. The rounds that the reader allows itself are enough, since
a text has no more items than bytes, but for one.
-/

namespace QueryAudit

open Sql

/-- The items through the first error. -/
def throughError : List Item → List Item
  | [] => []
  | .error e :: _ => [.error e]
  | .ok s :: items => .ok s :: throughError items

/-- Nothing but the items behind the first error is missing. -/
theorem throughError_isPrefix (items : List Item) : throughError items <+: items := by
  induction items with
  | nil => exact List.prefix_rfl
  | cons item items ih =>
    cases item with
    | error e => exact List.prefix_append [.error e] items
    | ok s => exact (List.prefix_cons_inj _).mpr ih

/-! ### The items of one text -/

/-- Decoding makes no more characters than there are bytes. -/
theorem Utf8.length_of_decodeFrom {done chars : List Char} {index : Nat}
    {begun : Option Utf8.Partial} {bytes : List UInt8}
    (h : Utf8.decodeFrom done index begun bytes = .ok chars) :
    chars.length ≤ done.length + bytes.length := by
  induction bytes generalizing done index begun with
  | nil =>
    cases begun with
    | none =>
      cases h
      exact Nat.le_of_eq (List.length_reverse)
    | some p => cases h
  | cons b bs ih =>
    cases begun with
    | none =>
      rw [Utf8.decodeFrom] at h
      split at h
      · have := ih h
        simp only [List.length_cons] at this ⊢
        omega
      · -- a byte in the midst of a character makes none
        exact Nat.le_succ_of_le (ih h)
      · cases h
    | some p =>
      rw [Utf8.decodeFrom] at h
      split at h
      · have := ih h
        simp only [List.length_cons] at this ⊢
        omega
      · exact Nat.le_succ_of_le (ih h)
      · cases h

theorem Sql.Lexer.length_addBlank (b : Blank) (ts : List Located) :
    (Lexer.addBlank b ts).length = ts.length := by
  cases ts <;> rfl

/-- A round of the lexer makes at most one token. -/
theorem Sql.Lexer.length_of_tokensFrom {d : Dialect} {rounds : Nat} {done ts : List Located}
    {p : Position} {text : List Char} (h : Lexer.tokensFrom d rounds done p text = .ok ts) :
    ts.length ≤ done.length + rounds := by
  induction rounds generalizing done p text with
  | zero =>
    cases h
    exact Nat.le_of_eq List.length_reverse
  | succ rounds ih =>
    cases text with
    | nil =>
      cases h
      rw [List.length_reverse]
      exact Nat.le_add_right _ _
    | cons c cs =>
      rw [Lexer.tokensFrom] at h
      split at h
      · have := ih h
        rw [List.length_cons] at this
        omega
      · have := ih h
        -- a blank is kept with the token before it
        rw [Lexer.length_addBlank] at this
        omega
      · cases h

theorem Stream.length_itemsFor (parse : Parse) (rounds : Nat) (ts : List Located) :
    (Stream.itemsFor parse rounds ts).length ≤ rounds := by
  induction rounds generalizing ts with
  | zero => exact Nat.le_refl 0
  | succ rounds ih =>
    rw [Stream.itemsFor]
    split
    · exact Nat.zero_le _
    · split
      · exact Nat.succ_le_succ (Nat.zero_le _)
      · exact Nat.succ_le_succ (ih _)

/-- A text has no more items than bytes, but for one. -/
theorem Stream.length_ofText (d : Dialect) (text : List UInt8) :
    (Stream.ofText d text).length ≤ text.length + 1 := by
  unfold Stream.ofText
  split
  · exact Nat.le_add_left _ _
  · next chars hd =>
    split
    · exact Nat.le_add_left _ _
    · next ts ht =>
      have hchars := Utf8.length_of_decodeFrom hd
      have htokens := Lexer.length_of_tokensFrom ht
      have hitems := Stream.length_itemsFor (Sql.Grammar.parseStatement d) (ts.length + 1) ts
      simp only [List.length_nil] at hchars htokens
      rw [Stream.items]
      omega

/-- An error among the items of a text is a fault of this text, and one of decoding only if decoding
    fails. -/
theorem Stream.fault_of_mem_ofText {d : Dialect} {text : List UInt8} {e : Error}
    (h : .error e ∈ Stream.ofText d text) :
    ∃ fault : TextFault, e = fault.error ∧
      ∀ f, fault = .utf8 f → Utf8.decode text = .error f := by
  -- the items of tokens have no other errors than those of the grammar
  have hitems (rounds : Nat) (ts : List Located)
      (h : .error e ∈ itemsFor (Sql.Grammar.parseStatement d) rounds ts) :
      ∃ cause, e = (TextFault.grammatical cause).error := by
    induction rounds generalizing ts with
    | zero => cases h
    | succ rounds ih =>
      rw [itemsFor] at h
      split at h
      · cases h
      · split at h
        · next cause _ =>
          obtain ⟨⟩ := List.mem_singleton.mp h
          exact ⟨cause, rfl⟩
        · rcases List.mem_cons.mp h with h | h
          · cases h
          · exact ih _ h
  rw [Stream.ofText] at h
  split at h
  · next fault hdecode =>
    obtain ⟨⟩ := List.mem_singleton.mp h
    refine ⟨.utf8 fault, rfl, ?_⟩
    rintro f ⟨⟩
    exact hdecode
  · split at h
    · next failure _ =>
      obtain ⟨⟩ := List.mem_singleton.mp h
      refine ⟨.lexical failure, rfl, ?_⟩
      rintro f ⟨⟩
    · obtain ⟨cause, rfl⟩ := hitems _ _ h
      refine ⟨.grammatical cause, rfl, ?_⟩
      rintro f ⟨⟩

/-! ### One reading -/

/-- The item that a failure of the source makes. -/
def failureItems (failure : Option String) : List Item :=
  failure.toList.map fun message => .error (.io message)

/-- The items of some items at hand, of texts to come, and of the failure behind them. -/
def itemsAhead (d : Dialect) (pending : List Item) (texts : List (List UInt8))
    (failure : Option String) : List Item :=
  throughError (pending ++ (texts.flatMap (Stream.ofText d) ++ failureItems failure))

namespace Reader

/-- What a reader is still to hand out: nothing behind an error or the end, and else what is at hand
    and what its splitter delivers, through the first error. -/
def Yields (r : Reader) (items : List Item) : Prop :=
  if r.finished then items = []
  else ∃ texts failure, Deliveries r.dialect r.splitter r.source texts failure ∧
    items = itemsAhead r.dialect r.pending texts failure

end Reader

/-- A reading hands out the first of some items, and its reader is to hand out the others. -/
def Reading.Gives (reading : Reading) : List Item → Prop
  | [] => reading.item = none ∧ reading.reader.Yields []
  | item :: items => reading.item = some item ∧ reading.reader.Yields items

namespace Reader

theorem yields_nil_of_finished {r : Reader} (h : r.finished = true) : r.Yields [] := by
  rw [Yields, if_pos h]

/-- An item at hand is the next one, and an error is the last one. -/
theorem handOut_gives {r : Reader} {texts : List (List UInt8)} {failure : Option String}
    (hf : r.finished = false) (h : Deliveries r.dialect r.splitter r.source texts failure)
    (pieces : List Nat) (item : Item) (rest : List Item) :
    (r.handOut pieces item rest).Gives (itemsAhead r.dialect (item :: rest) texts failure) := by
  cases item with
  | error e => exact ⟨rfl, yields_nil_of_finished rfl⟩
  | ok s =>
    refine ⟨rfl, ?_⟩
    have hnot : ¬(r.handOut pieces (.ok s) rest).reader.finished = true := by
      simp [handOut, isError, hf]
    rw [Yields, if_neg hnot]
    exact ⟨texts, failure, h, rfl⟩

/-- What is at hand is handed out before another text is asked for. -/
theorem fill_pending_gives {d : Dialect} {s : Splitter} {source : Source}
    {texts : List (List UInt8)} {failure : Option String}
    (h : Deliveries d s source texts failure) (rounds : Nat) (item : Item) (rest : List Item)
    (pieces : List Nat) :
    (fill ⟨d, source, s, item :: rest, false⟩ pieces (rounds + 1)).Gives
      (itemsAhead d (item :: rest) texts failure) := by
  rw [fill]
  exact handOut_gives (r := ⟨d, source, s, item :: rest, false⟩) rfl h ..

/-- Reading texts until one of them has an item finds the first item to come. -/
theorem fill_gives {d : Dialect} {s : Splitter} {source : Source} {texts : List (List UInt8)}
    {failure : Option String} (h : Deliveries d s source texts failure) {rounds : Nat}
    (hr : texts.length < rounds) (pending : List Item) (pieces : List Nat) :
    (fill ⟨d, source, s, pending, false⟩ pieces rounds).Gives
      (itemsAhead d pending texts failure) := by
  induction h generalizing rounds pending pieces with
  | @finished s source h =>
    obtain ⟨rounds, rfl⟩ := Nat.exists_eq_succ_of_ne_zero (Nat.ne_zero_of_lt hr)
    cases pending with
    | cons item rest => exact fill_pending_gives (.finished h) ..
    | nil =>
      rw [fill]
      simp only [h]
      exact ⟨rfl, yields_nil_of_finished rfl⟩
  | @failed s source message h =>
    obtain ⟨rounds, rfl⟩ := Nat.exists_eq_succ_of_ne_zero (Nat.ne_zero_of_lt hr)
    cases pending with
    | cons item rest => exact fill_pending_gives (.failed h) ..
    | nil =>
      rw [fill]
      simp only [h]
      exact ⟨rfl, yields_nil_of_finished rfl⟩
  | @text s source text texts failure h rest ih =>
    obtain ⟨rounds, rfl⟩ := Nat.exists_eq_succ_of_ne_zero (Nat.ne_zero_of_lt hr)
    cases pending with
    | cons item rest' => exact fill_pending_gives (.text h rest) ..
    | nil =>
      -- the items of the text are at hand in the next round
      rw [fill]
      simp only [h]
      have hmore : itemsAhead d [] (text :: texts) failure =
          itemsAhead d (Stream.ofText d text) texts failure := by
        simp only [itemsAhead, List.nil_append, List.flatMap_cons, List.append_assoc]
      rw [hmore]
      exact ih (Nat.lt_of_succ_lt_succ hr) _ _

/-- The bytes to come bound the number of texts. -/
theorem texts_length_le {d : Dialect} {s : Splitter} {source : Source}
    {texts : List (List UInt8)} {failure : Option String}
    (h : Deliveries d s source texts failure) :
    texts.length ≤ s.size + source.size + 1 := by
  have := h.size
  omega

/-- A reading hands out the first item to come, or none if there is none. -/
theorem next_gives {r : Reader} {items : List Item} (h : r.Yields items) :
    r.next.Gives items := by
  rw [next]
  cases hf : r.finished with
  | true =>
    rw [Yields, if_pos hf] at h
    rw [h, if_pos rfl]
    exact ⟨rfl, yields_nil_of_finished hf⟩
  | false =>
    rw [Yields, hf, if_neg Bool.false_ne_true] at h
    obtain ⟨texts, failure, hd, rfl⟩ := h
    rw [if_neg Bool.false_ne_true]
    have hr : r = ⟨r.dialect, r.source, r.splitter, r.pending, false⟩ := by rw [← hf]
    have hlt : texts.length < r.size + 2 := Nat.lt_succ_of_le (texts_length_le hd)
    have hg := fill_gives hd hlt r.pending []
    rwa [← hr] at hg

/-! ### All readings -/

/-- If there are enough rounds, readings hand out all items in order and then none. -/
theorem readingsFor_of_yields {r : Reader} {items : List Item} (h : r.Yields items) {rounds : Nat}
    (hr : items.length < rounds) :
    (r.readingsFor rounds).map Reading.item = items.map some ++ [none] := by
  induction items generalizing r rounds with
  | nil =>
    obtain ⟨rounds, rfl⟩ := Nat.exists_eq_succ_of_ne_zero (Nat.ne_zero_of_lt hr)
    have hitem := (next_gives h).1
    simp only [readingsFor, hitem]
    exact congrArg (· :: []) hitem
  | cons item items ih =>
    obtain ⟨rounds, rfl⟩ := Nat.exists_eq_succ_of_ne_zero (Nat.ne_zero_of_lt hr)
    obtain ⟨hitem, hrest⟩ := next_gives h
    simp only [readingsFor, hitem]
    rw [List.map_cons, hitem, ih hrest (Nat.lt_of_succ_lt_succ hr)]
    rfl

/-- The items of texts are bounded by their bytes. -/
theorem flatMap_ofText_length_le (d : Dialect) (texts : List (List UInt8)) :
    (texts.flatMap (Stream.ofText d)).length ≤ texts.flatten.length + texts.length := by
  induction texts with
  | nil => exact Nat.le_refl 0
  | cons text texts ih =>
    rw [List.flatMap_cons, List.length_append, List.flatten_cons, List.length_append,
      List.length_cons]
    have := Stream.length_ofText d text
    omega

theorem yields_length_le {r : Reader} {items : List Item} (h : r.Yields items) :
    items.length ≤ r.pending.length + r.size + 1 := by
  unfold Yields at h
  split at h
  · rw [h]
    exact Nat.zero_le _
  · obtain ⟨texts, failure, hd, rfl⟩ := h
    refine Nat.le_trans (throughError_isPrefix _).length_le ?_
    have htexts := flatMap_ofText_length_le r.dialect texts
    have hsize := hd.size
    rw [List.length_append, List.length_append, failureItems, List.length_map]
    unfold size
    omega

/-- All readings hand out all items in order and then none. -/
theorem readings_of_yields {r : Reader} {items : List Item} (h : r.Yields items) :
    r.readings.map Reading.item = items.map some ++ [none] :=
  readingsFor_of_yields h (Nat.lt_succ_of_le (yields_length_le h))

theorem items_of_yields {r : Reader} {items : List Item} (h : r.Yields items) :
    r.items = items := by
  have hid : r.items = (r.readings.map Reading.item).filterMap id := by
    rw [List.filterMap_map]
    rfl
  rw [hid, readings_of_yields h, List.filterMap_append, List.filterMap_map]
  simp

/-- A reader is always to hand out some items and then none. -/
theorem yields_items (r : Reader) : r.Yields r.items := by
  -- what is to be handed out exists, since the splitter comes to an end, and it is unique
  have hsome : ∃ items, r.Yields items := by
    cases hf : r.finished with
    | true => exact ⟨[], yields_nil_of_finished hf⟩
    | false =>
      obtain ⟨texts, failure, hd⟩ := deliveries_exist r.dialect r.splitter r.source
      refine ⟨itemsAhead r.dialect r.pending texts failure, ?_⟩
      rw [Yields, hf, if_neg Bool.false_ne_true]
      exact ⟨texts, failure, hd, rfl⟩
  obtain ⟨items, h⟩ := hsome
  rwa [items_of_yields h]

/-- The readings of a reader hand out its items, and the last one hands out none. -/
theorem readings_eq (r : Reader) :
    r.readings.map Reading.item = r.items.map some ++ [none] :=
  readings_of_yields r.yields_items

end Reader

/-- The items of a text that is read statement by statement. -/
def textItems (d : Dialect) (text : List UInt8) : List Item :=
  throughError ((pieces d text).flatMap (Stream.ofText d))

/-- A reader of buffers is to hand out the items of their bytes. -/
theorem yields_ofBuffers (d : Dialect) (buffers : List (List UInt8)) :
    (Reader.start d (Source.ofBuffers buffers none)).Yields (textItems d buffers.flatten) := by
  rw [Reader.Yields, if_neg (by simp [Reader.start])]
  refine ⟨pieces d buffers.flatten, none, deliveries_ofBuffers d buffers, ?_⟩
  rw [itemsAhead, failureItems, textItems]
  simp [Reader.start]

/-- A reader of buffers hands out the items of their bytes, however they are cut. -/
theorem items_ofBuffers (d : Dialect) (buffers : List (List UInt8)) :
    (Reader.start d (Source.ofBuffers buffers none)).items = textItems d buffers.flatten :=
  Reader.items_of_yields (yields_ofBuffers d buffers)

end QueryAudit
