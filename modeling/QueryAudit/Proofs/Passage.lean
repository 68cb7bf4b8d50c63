import QueryAudit.Proofs.Reading

/-!
# What a text ends and what it leaves open

A look at all of a text finds the statements that a semicolon ends, and behind the last of them the
bytes of one that is still open. Two texts in a row come to the statements of the first one and then
to those of the second, which begins with what the first one leaves open, wherever no marker of two
bytes stands across the place at which they meet. A text that leaves nothing open can thus be put
before any other one.
-/

namespace QueryAudit

/-- The mode behind a text. -/
def Mode.behind (d : Dialect) : Mode → List UInt8 → Mode
  | m, [] => m
  | m, b :: bs => behind d (m.next d b bs.head?) bs

/-- What a look at a text comes to. -/
structure Passage where
  /-- The texts of the statements that a semicolon ended. -/
  ended : List (List UInt8) := []
  mode : Mode
  /-- The bytes of the statement that is open, latest first. -/
  seen : List UInt8
  deriving DecidableEq, Repr

/-- Look at all of a text, `seen` being what was passed of its first statement. -/
def passage (d : Dialect) (m : Mode) (seen : List UInt8) : List UInt8 → Passage
  | [] => { mode := m, seen }
  | b :: bs =>
    if m = .code && b = Mode.semicolon then
      let rest := passage d .code [] bs
      { rest with ended := seen.reverse :: rest.ended }
    else passage d (m.next d b bs.head?) (b :: seen) bs

/-- The texts of the statements that a semicolon ends in a text. -/
def endedTexts (d : Dialect) (text : List UInt8) : List (List UInt8) :=
  (passage d .code [] text).ended

/-- The passage over a text behind another one. -/
def Passage.append (p q : Passage) : Passage :=
  { q with ended := p.ended ++ q.ended }

/-- The statement that is open, unless nothing of it is there. -/
def Passage.last (p : Passage) : List (List UInt8) :=
  if p.seen.isEmpty then [] else [p.seen.reverse]

variable {d : Dialect}

theorem Mode.next_semicolon (d : Dialect) (next : Option UInt8) :
    Mode.code.next d semicolon next = .code := rfl

/-! ### One text behind another -/

/-- Looking at one text and then at another one is looking at both. -/
theorem passage_append (m : Mode) (seen : List UInt8) {text more : List UInt8}
    (h : Apart d text more) :
    passage d m seen (text ++ more) =
      (passage d m seen text).append
        (passage d (m.behind d text) (passage d m seen text).seen more) := by
  induction text generalizing m seen with
  | nil => rfl
  | cons b bs ih =>
    -- only the last byte looks ahead into what follows, and there it finds no marker
    have hn : m.next d b (bs ++ more).head? = m.next d b bs.head? := by
      cases bs with
      | nil => exact h b rfl m
      | cons x xs => rfl
    rw [List.cons_append, passage, passage, Mode.behind]
    split
    · next hs =>
      obtain ⟨rfl, rfl⟩ : m = .code ∧ b = Mode.semicolon := by simpa using hs
      rw [ih _ _ h.tail, Mode.next_semicolon]
      rfl
    · rw [hn, ih _ _ h.tail]

/-- A text that leaves code open, and another one behind a semicolon. -/
theorem passage_append_semicolon {text : List UInt8} (h : Mode.behind d .code text = .code)
    (more : List UInt8) :
    passage d .code [] (text ++ Mode.semicolon :: more) =
      { passage d .code [] more with
        ended := endedTexts d text ++ (passage d .code [] text).seen.reverse ::
          endedTexts d more } := by
  rw [passage_append .code [] (apart_semicolon text more), h, passage]
  rfl

/-! ### All statement texts -/

/-- The look for the end of the first statement is the first part of a passage. -/
theorem passage_eq_cut (m : Mode) (seen text : List UInt8) :
    passage d m seen text =
      match cut d m seen text with
      | .found first rest => (⟨[first], .code, []⟩ : Passage).append (passage d .code [] rest)
      | .unfinished m seen => { mode := m, seen } := by
  induction text generalizing m seen with
  | nil => rfl
  | cons b bs ih =>
    rw [passage, cut]
    split
    · rfl
    · exact ih _ _

theorem endedTexts_of_found {text first rest : List UInt8}
    (h : cut d .code [] text = .found first rest) :
    endedTexts d text = first :: endedTexts d rest := by
  rw [endedTexts, passage_eq_cut, h]
  rfl

theorem endedTexts_of_unfinished {text seen : List UInt8} {m : Mode}
    (h : cut d .code [] text = .unfinished m seen) : endedTexts d text = [] := by
  rw [endedTexts, passage_eq_cut, h]

/-- The statement texts of a text are those that ended, and the one that is left open. -/
theorem pieces_eq_passage (d : Dialect) (text : List UInt8) :
    pieces d text = endedTexts d text ++ (passage d .code [] text).last := by
  -- on the length of the text, of which each statement takes its semicolon
  induction hn : text.length using Nat.strongRecOn generalizing text with
  | ind n ih =>
    rw [pieces, pass_eq_cut, Open.mode]
    cases hc : cut d .code [] text with
    | found first rest =>
      have hlen := cut_found_length hc
      have hrest := ih rest.length (by simp only [List.length_nil] at hlen; omega) rest rfl
      have hlast : (passage d .code [] text).last = (passage d .code [] rest).last := by
        rw [passage_eq_cut, hc]
        rfl
      rw [passCut, ← pieces, hrest, endedTexts_of_found hc, hlast]
      rfl
    | unfinished m seen =>
      rw [passCut, endedTexts_of_unfinished hc, passage_eq_cut, hc]
      rfl

/-! ### Deliveries before a failure -/

/-- A splitter over lines whose source then fails delivers the statements that end in these lines,
    and then the failure. -/
theorem deliveries_passage {begun : Line} {message : String} {ahead : List UInt8}
    {lines : List Line} (hl : Lined (.failed begun message) ahead lines) :
    Deliveries d ⟨.code, [], ahead⟩ ⟨lines, .failed begun message⟩
      (endedTexts d (ahead ++ lineBytes lines)) (some message) := by
  -- on the number of bytes left, of which each statement takes its semicolon
  induction hn : (ahead ++ lineBytes lines).length using Nat.strongRecOn
    generalizing ahead lines with
  | ind n ih =>
    cases hc : cut d .code [] (ahead ++ lineBytes lines) with
    | found text rest =>
      obtain ⟨taken, ahead', lines', hs, hr, hl'⟩ := Splitter.search_found hl hc []
      have hnext : Splitter.next d ⟨.code, [], ahead⟩ ⟨lines, .failed begun message⟩ =
          ⟨.text text, taken, ⟨.code, [], ahead'⟩, ⟨lines', .failed begun message⟩⟩ := hs
      have hshort := cut_found_length hc
      have hrest := ih rest.length (by simp only [List.length_nil] at hshort; omega) hl'
        (by rw [hr])
      rw [hr] at hrest
      rw [endedTexts_of_found hc]
      exact .text (by rw [hnext]) (by rw [hnext]; exact hrest)
    | unfinished m seen =>
      obtain ⟨taken, hs⟩ := Splitter.search_unfinished hl hc []
      have hnext : Splitter.next d ⟨.code, [], ahead⟩ ⟨lines, .failed begun message⟩ =
          Splitter.atEnd m seen taken (.failed begun message) := hs
      rw [endedTexts_of_unfinished hc]
      exact .failed (by rw [hnext, Splitter.atEnd])

end QueryAudit
