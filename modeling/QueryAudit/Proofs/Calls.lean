import Mathlib.Algebra.GroupWithZero.Nat
import QueryAudit.Proofs.Reading

/-!
# Calls of a reader

A reader that is called over and over again hands out its items one by one and then nothing. What a
call does is said once: it hands out an item that waits, or it asks for texts and goes over those
without items until there is one, the source fails, or it is at its end. The rounds that the reader
allows itself do not show.
-/

namespace QueryAudit

namespace Reader

/-- A reader behind so many calls. -/
def after (r : Reader) : Nat → Reader
  | 0 => r
  | k + 1 => (r.after k).next.reader

/-- How many bytes so many calls take. -/
def taken (r : Reader) : Nat → Nat
  | 0 => 0
  | k + 1 => r.taken k + (r.after k).next.pieces.sum

/-! ### What a call does -/

/-- Asking for texts when no item waits: texts without items are gone over, until a text has items,
    the source fails or is at its end. -/
inductive Fills (d : Dialect) : Splitter → Source → List Nat → Reading → Prop
  | text {s : Splitter} {source : Source} {pieces : List Nat} {text : List UInt8} {item : Item}
      {rest : List Item} (hd : (s.next d source).delivery = .text text)
      (hitems : Stream.ofText d text = item :: rest) :
      Fills d s source pieces (handOut ⟨d, (s.next d source).source, (s.next d source).splitter,
        [], false⟩ (pieces ++ (s.next d source).pieces) item rest)
  | failed {s : Splitter} {source : Source} {pieces : List Nat} {message : String}
      (hd : (s.next d source).delivery = .failed message) :
      Fills d s source pieces (handOut ⟨d, (s.next d source).source, (s.next d source).splitter,
        [], false⟩ (pieces ++ (s.next d source).pieces) (.error (.io message)) [])
  | ended {s : Splitter} {source : Source} {pieces : List Nat}
      (hd : (s.next d source).delivery = .finished) :
      Fills d s source pieces ⟨none, pieces ++ (s.next d source).pieces,
        ⟨d, (s.next d source).source, (s.next d source).splitter, [], true⟩⟩
  | skip {s : Splitter} {source : Source} {pieces : List Nat} {text : List UInt8}
      {reading : Reading} (hd : (s.next d source).delivery = .text text)
      (hitems : Stream.ofText d text = [])
      (h : Fills d (s.next d source).splitter (s.next d source).source
        (pieces ++ (s.next d source).pieces) reading) :
      Fills d s source pieces reading

/-- What a call does: nothing when the reader has finished, and else it hands out an item that waits
    or asks for texts. -/
inductive Does (r : Reader) : Reading → Prop
  | finished (hf : r.finished = true) : Does r ⟨none, [], r⟩
  | queued {item : Item} {rest : List Item} (hf : r.finished = false)
      (hp : r.pending = item :: rest) : Does r (r.handOut [] item rest)
  | filled {reading : Reading} (hf : r.finished = false) (hp : r.pending = [])
      (h : Fills r.dialect r.splitter r.source [] reading) : Does r reading

@[simp] theorem handOut_pieces (r : Reader) (ps : List Nat) (item : Item) (rest : List Item) :
    (r.handOut ps item rest).pieces = ps := by
  cases item <;> rfl

@[simp] theorem handOut_source (r : Reader) (ps : List Nat) (item : Item) (rest : List Item) :
    (r.handOut ps item rest).reader.source = r.source := by
  cases item <;> rfl

theorem fill_cons {d : Dialect} {s : Splitter} {source : Source} {item : Item} {rest : List Item}
    (pieces : List Nat) (rounds : Nat) :
    fill ⟨d, source, s, item :: rest, false⟩ pieces (rounds + 1) =
      handOut ⟨d, source, s, [], false⟩ pieces item rest := by
  cases item <;> rfl

/-- With rounds for all texts to come, asking for texts comes to what it should. -/
theorem fills_fill {d : Dialect} {s : Splitter} {source : Source} {texts : List (List UInt8)}
    {failure : Option String} (h : Deliveries d s source texts failure) {rounds : Nat}
    (hr : texts.length < rounds) (pieces : List Nat) :
    Fills d s source pieces (fill ⟨d, source, s, [], false⟩ pieces rounds) := by
  induction h generalizing rounds pieces with
  | @finished s source hd =>
    obtain ⟨rounds, rfl⟩ := Nat.exists_eq_succ_of_ne_zero (Nat.ne_zero_of_lt hr)
    rw [fill]
    simp only [hd]
    exact .ended hd
  | @failed s source message hd =>
    obtain ⟨rounds, rfl⟩ := Nat.exists_eq_succ_of_ne_zero (Nat.ne_zero_of_lt hr)
    rw [fill]
    simp only [hd]
    exact .failed hd
  | @text s source text texts failure hd rest ih =>
    obtain ⟨rounds, rfl⟩ := Nat.exists_eq_succ_of_ne_zero (Nat.ne_zero_of_lt hr)
    have hr := Nat.lt_of_succ_lt_succ hr
    rw [fill]
    simp only [hd]
    cases hitems : Stream.ofText d text with
    | nil => exact .skip hd hitems (ih hr _)
    | cons item items =>
      -- a text with items takes one more round, to hand out the first of them
      obtain ⟨rounds, rfl⟩ := Nat.exists_eq_succ_of_ne_zero (Nat.ne_zero_of_lt hr)
      rw [fill_cons]
      exact .text hd hitems

/-- All that a call can do. -/
theorem next_does (r : Reader) : r.Does r.next := by
  obtain ⟨d, source, s, pending, finished⟩ := r
  unfold next
  cases finished with
  | true => exact .finished rfl
  | false =>
    rw [if_neg Bool.false_ne_true]
    cases pending with
    | cons item rest =>
      have hqueued := Does.queued (r := ⟨d, source, s, item :: rest, false⟩) rfl rfl
      rw [fill_cons]
      cases item <;> exact hqueued
    | nil =>
      obtain ⟨texts, failure, hd⟩ := deliveries_exist d s source
      exact .filled rfl rfl (fills_fill hd (Nat.lt_succ_of_le (texts_length_le hd)) [])

/-! ### What calls hand out -/

theorem Yields.next {r : Reader} {items : List Item} (h : r.Yields items) :
    r.next.item = items.head? ∧ r.next.reader.Yields items.tail := by
  have hgives := next_gives h
  cases items with
  | nil => exact hgives
  | cons item items => exact hgives

theorem Yields.after {r : Reader} {items : List Item} (h : r.Yields items) (k : Nat) :
    (r.after k).Yields (items.drop k) := by
  induction k with
  | zero => exact h
  | succ k ih =>
    rw [← List.tail_drop]
    exact ih.next.2

/-- Each call hands out its item, and the calls behind the last item none. -/
theorem item_after (r : Reader) (k : Nat) : (r.after k).next.item = r.items[k]? := by
  rw [(r.yields_items.after k).next.1, List.head?_drop]

end Reader

end QueryAudit
