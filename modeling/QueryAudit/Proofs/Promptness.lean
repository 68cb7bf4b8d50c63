import Mathlib.Algebra.GroupWithZero.Nat
import QueryAudit.Proofs.Interruption

/-!
# When input is taken

A line is taken from the source only if no statement ends in the bytes at hand, and a text is asked
for only if no item is at hand. So wherever a reading begins to take a line, the items of all
statements that ended before have been handed out, each once and in order. Within a line that is not
so: the buffers that it spans are taken one after the other.
-/

namespace QueryAudit

/-! ### Whole lines -/

/-- A line by the pieces of it that the buffers gave: none of them is empty, and only the last byte
    may be a newline. -/
structure Line.Whole (l : Line) : Prop where
  sum_pieces : l.pieces.sum = l.bytes.length
  pieces_pos : ∀ n ∈ l.pieces, 0 < n
  inner : newline ∉ l.bytes.dropLast

namespace Line.Whole

theorem empty : Line.Whole {} where
  sum_pieces := rfl
  pieces_pos := fun _ h => absurd h List.not_mem_nil
  inner := List.not_mem_nil

/-- A further buffer gives a line bytes of which only the last may be a newline. -/
theorem add {l : Line} (h : l.Whole) (hl : newline ∉ l.bytes) {bytes : List UInt8}
    (hb : newline ∉ bytes.dropLast) : (l.add bytes).Whole := by
  unfold Line.add
  split
  · exact h
  · next hne =>
    have hne : bytes ≠ [] := fun he => hne (List.isEmpty_iff.mpr he)
    refine ⟨?_, ?_, ?_⟩
    · rw [List.sum_append, h.sum_pieces, List.sum_singleton, List.length_append]
    · intro n hn
      rcases List.mem_append.mp hn with hn | hn
      · exact h.pieces_pos n hn
      · rw [List.mem_singleton.mp hn]
        exact List.length_pos_iff.mpr hne
    · rw [List.dropLast_append_of_ne_nil hne, List.mem_append]
      exact fun hmem => hmem.elim hl hb

/-- A piece behind others does not begin at the start of a line. -/
theorem eq_nil_of_endsLine {l : Line} (h : l.Whole) {front back : List Nat} {n : Nat}
    (hp : l.pieces = front ++ n :: back) {text : List UInt8}
    (he : EndsLine (text ++ l.bytes.take front.sum)) : front = [] := by
  cases front with
  | nil => rfl
  | cons k front =>
    exfalso
    have hk : 0 < k := h.pieces_pos k (by rw [hp]; exact List.mem_cons_self)
    have hn : 0 < n := h.pieces_pos n (by rw [hp]; exact List.mem_append_right _ List.mem_cons_self)
    have hsum := h.sum_pieces
    rw [hp, List.sum_append, List.sum_cons, List.sum_cons] at hsum
    rw [List.sum_cons] at he
    -- the bytes before the piece are some of the line, but not all of them
    have hne : l.bytes.take (k + front.sum) ≠ [] := by
      rw [ne_eq, ← List.length_eq_zero_iff, List.length_take]
      omega
    have hlast := he _ (by
      rw [List.getLast?_append_of_ne_nil _ hne]
      exact List.getLast?_eq_some_getLast hne)
    refine h.inner (hlast ▸ ?_)
    rw [List.dropLast_eq_take]
    have hmem := List.getLast_mem hne
    exact (List.take_subset_take_left _ (by omega)) hmem

end Line.Whole

theorem whole_of_mem_cutLines {begun : Line} (hw : begun.Whole) (hb : newline ∉ begun.bytes)
    {held : List UInt8} (hh : newline ∉ held) (bytes : List UInt8) :
    (∀ l ∈ (cutLines begun held bytes).1, l.Whole) ∧ (cutLines begun held bytes).2.Whole := by
  -- a newline that ends a line is only its last byte
  have hinner (b : UInt8) : newline ∉ (b :: held).reverse.dropLast := by
    rw [List.reverse_cons, List.dropLast_concat, List.mem_reverse]
    exact hh
  induction bytes generalizing begun held with
  | nil =>
    refine ⟨fun l hl => absurd hl List.not_mem_nil, hw.add hb fun h => hh ?_⟩
    exact List.mem_reverse.mp (List.dropLast_subset _ h)
  | cons b bs ih =>
    rw [cutLines]
    split
    · obtain ⟨hlines, hlast⟩ := ih .empty List.not_mem_nil List.not_mem_nil
        (fun _ => List.not_mem_nil)
      refine ⟨fun l hl => ?_, hlast⟩
      rcases List.mem_cons.mp hl with rfl | hl
      · exact hw.add hb (hinner b)
      · exact hlines l hl
    · next hne =>
      have hnot : newline ∉ b :: held := fun h =>
        (List.mem_cons.mp h).elim (fun h => hne h.symm) hh
      refine ih hw hb hnot fun c => ?_
      rw [List.reverse_cons, List.dropLast_concat, List.mem_reverse]
      exact hnot

/-- The line that a failure interrupts. -/
def Ending.begun : Ending → Line
  | .finished => {}
  | .failed begun _ => begun

theorem Ending.bytes_begun (ending : Ending) : ending.begun.bytes = ending.bytes := by
  cases ending <;> rfl

/-- The lines that are read from buffers are whole, and one that a failure interrupts is not
    ended. -/
theorem whole_after {begun : Line} (hw : begun.Whole) (hb : newline ∉ begun.bytes)
    (failure : Option String) (buffers : List (List UInt8)) :
    (∀ l ∈ (Source.after begun failure buffers).lines, l.Whole) ∧
      (Source.after begun failure buffers).ending.begun.Whole ∧
      newline ∉ (Source.after begun failure buffers).ending.begun.bytes := by
  induction buffers generalizing begun with
  | nil =>
    cases failure with
    | some message => exact ⟨fun l hl => absurd hl List.not_mem_nil, hw, hb⟩
    | none =>
      refine ⟨?_, .empty, List.not_mem_nil⟩
      rw [Source.after]
      split
      · exact fun l hl => absurd hl List.not_mem_nil
      · intro l hl
        rw [List.mem_singleton.mp hl]
        exact hw
  | cons buffer buffers ih =>
    obtain ⟨hlines, hlast⟩ := whole_of_mem_cutLines hw hb List.not_mem_nil buffer
    -- a line that one buffer begins is ended in a later one
    obtain ⟨hrest, hending⟩ := ih hlast (newline_notMem_cutLines hb List.not_mem_nil buffer)
    refine ⟨fun l hl => ?_, hending⟩
    exact (List.mem_append.mp hl).elim (hlines l) (hrest l)

/-! ### What was handed out before a line is taken -/

variable {d : Dialect}

/-- The items of the statements that end in a text. -/
def endedItems (d : Dialect) (text : List UInt8) : List Item :=
  (endedTexts d text).flatMap (Stream.ofText d)

/-- Behind the first `n` bytes of a text some more are taken, piece by piece. Wherever a piece
    begins at the start of a line, the items of all statements that ended before are those that
    were handed out. -/
def Fresh (d : Dialect) (text : List UInt8) (n : Nat) (handed : List Item) (pieces : List Nat) :
    Prop :=
  ∀ front k back, pieces = front ++ k :: back → EndsLine (text.take (n + front.sum)) →
    endedItems d (text.take (n + front.sum)) = handed

/-- The last one of some reads finds the end of the source or fails, and no other one does. -/
def FindsEnd (pieces : List Nat) : Prop :=
  ∃ front, pieces = front ++ [0] ∧ 0 ∉ front

theorem FindsEnd.append {ps qs : List Nat} (h : FindsEnd qs) (hps : 0 ∉ ps) :
    FindsEnd (ps ++ qs) := by
  obtain ⟨front, rfl, hfront⟩ := h
  exact ⟨ps ++ front, (List.append_assoc ..).symm,
    fun hmem => (List.mem_append.mp hmem).elim hps hfront⟩

theorem FindsEnd.mem {ps : List Nat} (h : FindsEnd ps) : 0 ∈ ps := by
  obtain ⟨front, rfl, -⟩ := h
  exact List.mem_append_right front (List.mem_singleton_self 0)

/-- An element of two lists in a row is one of the first or of the second. -/
theorem append_eq_cons_cases {α : Type} {xs ys before after : List α} {x : α}
    (h : xs ++ ys = before ++ x :: after) :
    (∃ mid, xs = before ++ x :: mid ∧ after = mid ++ ys) ∨
      ∃ mid, before = xs ++ mid ∧ ys = mid ++ x :: after := by
  rcases List.append_eq_append_iff.mp h with ⟨mid, hbefore, hys⟩ | ⟨mid, hxs, hrest⟩
  · exact .inr ⟨mid, hbefore, hys⟩
  · cases mid with
    | nil => exact .inr ⟨[], by rw [hxs, List.append_nil, List.append_nil], hrest.symm⟩
    | cons y mid =>
      obtain ⟨rfl, hafter⟩ := List.cons.inj hrest
      exact .inl ⟨mid, hxs, hafter⟩

namespace Fresh

variable {text : List UInt8} {n : Nat} {handed : List Item}

theorem nil : Fresh d text n handed [] := by
  intro front k back h
  cases front <;> cases h

theorem append {ps qs : List Nat} (hp : Fresh d text n handed ps)
    (hq : Fresh d text (n + ps.sum) handed qs) : Fresh d text n handed (ps ++ qs) := by
  intro front k back h hends
  rcases append_eq_cons_cases h with ⟨mid, hps, -⟩ | ⟨mid, rfl, hqs⟩
  · exact hp front k mid hps hends
  · rw [List.sum_append, ← Nat.add_assoc] at hends ⊢
    exact hq mid k back hqs hends

/-- A line that is taken when all items were handed out. -/
theorem line {l : Line} (hl : l.Whole) {taken : List UInt8} (h : endedItems d taken = handed)
    (more : List UInt8) :
    Fresh d (taken ++ (l.bytes ++ more)) taken.length handed l.pieces := by
  intro front k back hp hends
  have hle : front.sum ≤ l.bytes.length := by
    rw [← hl.sum_pieces, hp, List.sum_append]
    exact Nat.le_add_right _ _
  rw [List.take_length_add_append, List.take_append_of_le_length hle] at hends
  obtain rfl := hl.eq_nil_of_endsLine hp hends
  rw [List.sum_nil, Nat.add_zero, List.take_left]
  exact h

/-- Another read where one has found the end. -/
theorem again {ps : List Nat} (h : Fresh d text n handed ps) (he : FindsEnd ps) :
    Fresh d text n handed (ps ++ [0]) := by
  obtain ⟨front, rfl, -⟩ := he
  refine h.append fun before k back hsplit hends => ?_
  cases before with
  | nil =>
    rw [List.sum_append, List.sum_singleton, Nat.add_zero, List.sum_nil, Nat.add_zero] at hends ⊢
    exact h front 0 [] rfl hends
  | cons _ before => cases before <;> cases hsplit

/-- A read that finds the end behind bytes that were taken without a newline at their end, or behind
    none. -/
theorem atEnd {taken more : List UInt8} (hm : newline ∉ more)
    (h : more = [] → endedItems d taken = handed) :
    Fresh d (taken ++ more) (taken.length + more.length) handed [0] := by
  intro front k back hsplit hends
  obtain rfl : front = [] := by
    cases front with
    | nil => rfl
    | cons _ front => cases front <;> cases hsplit
  have hall : (taken ++ more).take (taken.length + more.length + List.sum []) = taken ++ more :=
    List.take_of_length_le (by simp)
  rw [hall] at hends ⊢
  -- bytes behind the last newline would be at the end, where a newline has to be
  have hnil : more = [] := by
    by_contra hne
    have hlast := hends _ (by
      rw [List.getLast?_append_of_ne_nil _ hne]
      exact List.getLast?_eq_some_getLast hne)
    exact hm (hlast ▸ List.getLast_mem hne)
  rw [hnil, List.append_nil]
  exact h hnil

end Fresh

/-! ### One text -/

/-- A passage comes to the mode behind its text. -/
theorem mode_passage (m : Mode) (seen text : List UInt8) :
    (passage d m seen text).mode = m.behind d text := by
  induction text generalizing m seen with
  | nil => rfl
  | cons b bs ih =>
    rw [passage, Mode.behind]
    split
    · next hs =>
      obtain ⟨rfl, rfl⟩ : m = .code ∧ b = Mode.semicolon := by simpa using hs
      rw [Mode.next_semicolon]
      exact ih _ _
    · exact ih _ _

/-- How far a splitter has come with its source: `taken` was taken from the lines, and `tail` is
    what stands behind them. Of the statements that end in `taken`, those in `done` were delivered,
    and the splitter is to find the others in the bytes that it has at hand. -/
structure Abreast (d : Dialect) (lines tail taken : List UInt8) (done : List (List UInt8))
    (s : Splitter) (source : Source) : Prop where
  passage_eq : passage d .code [] taken =
    (⟨done, .code, []⟩ : Passage).append (passage d s.mode s.seen s.ahead)
  lines_eq : taken ++ lineBytes source.lines = lines
  tail_eq : source.ending.begun.bytes = tail
  lined : Lined source.ending taken source.lines
  whole : ∀ l ∈ source.lines, l.Whole
  begun : source.ending.begun.Whole
  unended : newline ∉ source.ending.begun.bytes

/-- Behind the first `n` bytes pieces take the other lines, and then another read takes what stands
    behind them, or a part of it. -/
def TakesAll (lines tail : List UInt8) (n : Nat) (pieces : List Nat) : Prop :=
  ∃ front k back, pieces = front ++ k :: back ∧ n + front.sum = lines.length ∧
    k + back.sum = tail.length

theorem TakesAll.cons {lines tail : List UInt8} {n : Nat} {ps qs : List Nat}
    (h : TakesAll lines tail (n + ps.sum) qs) : TakesAll lines tail n (ps ++ qs) := by
  obtain ⟨front, k, back, rfl, hfront, hback⟩ := h
  refine ⟨ps ++ front, k, back, (List.append_assoc ..).symm, ?_, hback⟩
  rw [List.sum_append, ← Nat.add_assoc]
  exact hfront

theorem TakesAll.again {lines tail : List UInt8} {n : Nat} {ps : List Nat}
    (h : TakesAll lines tail n ps) : TakesAll lines tail n (ps ++ [0]) := by
  obtain ⟨front, k, back, rfl, hfront, hback⟩ := h
  refine ⟨front, k, back ++ [0], by simp, hfront, ?_⟩
  rw [List.sum_append, List.sum_singleton, Nat.add_zero]
  exact hback

namespace Abreast

variable {lines tail taken : List UInt8} {done : List (List UInt8)}

/-- A statement that is found in the bytes at hand. -/
theorem found {s : Splitter} {source : Source} (h : Abreast d lines tail taken done s source)
    {text rest : List UInt8} (hc : cut d s.mode s.seen s.ahead = .found text rest) :
    Abreast d lines tail taken (done ++ [text]) ⟨.code, [], rest⟩ source := by
  refine ⟨?_, h.lines_eq, h.tail_eq, h.lined, h.whole, h.begun, h.unended⟩
  rw [h.passage_eq, passage_eq_cut, hc]
  simp [Passage.append]

/-- If no statement is found there, all that ended were delivered. -/
theorem ended {s : Splitter} {source : Source} (h : Abreast d lines tail taken done s source)
    {m : Mode} {seen : List UInt8} (hc : cut d s.mode s.seen s.ahead = .unfinished m seen) :
    passage d .code [] taken = ⟨done, m, seen⟩ := by
  rw [h.passage_eq, passage_eq_cut, hc]
  simp [Passage.append]

/-- Then the next line is taken. -/
theorem unfinished {s : Splitter} {line : Line} {ls : List Line} {ending : Ending}
    (h : Abreast d lines tail taken done s ⟨line :: ls, ending⟩) {m : Mode} {seen : List UInt8}
    (hc : cut d s.mode s.seen s.ahead = .unfinished m seen) :
    Abreast d lines tail (taken ++ line.bytes) done ⟨m, seen, line.bytes⟩ ⟨ls, ending⟩ := by
  obtain ⟨hends, hlined⟩ := h.lined
  refine ⟨?_, ?_, h.tail_eq, ?_, fun l hl => h.whole l (List.mem_cons_of_mem _ hl), h.begun,
    h.unended⟩
  · have hp := h.ended hc
    have hmode : Mode.code.behind d taken = m := by rw [← mode_passage .code [] taken, hp]
    rw [passage_append .code [] (hends.apart line.bytes), hp, hmode]
    rfl
  · rw [← h.lines_eq, List.append_assoc]
    rfl
  · cases ls with
    | nil => exact fun hf => hends.append (hlined hf)
    | cons next ls => exact ⟨hends.append hlined.1, hlined.2⟩

/-- What was delivered are the first of all statements that end on the lines. -/
theorem done_prefix {s : Splitter} {source : Source}
    (h : Abreast d lines tail taken done s source) : done <+: endedTexts d lines := by
  have hdone : done <+: endedTexts d taken := by
    rw [endedTexts, h.passage_eq]
    exact List.prefix_append _ _
  refine hdone.trans ?_
  rw [← h.lines_eq]
  have hlined := h.lined
  cases hl : source.lines with
  | nil =>
    have hall : taken ++ lineBytes [] = taken := by
      rw [lineBytes, List.flatMap_nil, List.append_nil]
    exact hall.symm ▸ List.prefix_rfl
  | cons line ls =>
    -- the lines to come are apart from what was taken, which ends with a newline
    rw [hl] at hlined
    obtain ⟨lost, hlost⟩ :=
      exists_endedTexts_append (d := d) (hlined.1.apart (lineBytes (line :: ls)))
    rw [hlost]
    exact List.prefix_append _ _

/-- Asking for a text takes lines only when all items that ended were handed out. Either a statement
    is found, or all lines are taken and all statements that end on them were delivered before. -/
theorem search {ending : Ending} {ls : List Line} {mode : Mode} {seen ahead : List UInt8}
    (h : Abreast d lines tail taken done ⟨mode, seen, ahead⟩ ⟨ls, ending⟩) (pieces : List Nat) :
    let delivered := Splitter.search d mode seen ahead ending pieces ls
    ∃ ps, delivered.pieces = pieces ++ ps ∧
      Fresh d (lines ++ tail) taken.length (done.flatMap (Stream.ofText d)) ps ∧
      ((∃ text taken', delivered.delivery = .text text ∧
          taken'.length = taken.length + ps.sum ∧ 0 ∉ ps ∧
          Abreast d lines tail taken' (done ++ [text]) delivered.splitter delivered.source) ∨
        endedTexts d lines = done ∧ TakesAll lines tail taken.length ps ∧ FindsEnd ps ∧
          ∀ text, delivered.delivery = .text text →
            delivered.splitter = {} ∧ delivered.source = ⟨[], .finished⟩) := by
  induction ls generalizing mode seen ahead taken pieces with
  | nil =>
    intro delivered
    cases hc : cut d mode seen ahead with
    | found text rest =>
      have hd : delivered = ⟨.text text, pieces, ⟨.code, [], rest⟩, ⟨[], ending⟩⟩ := by
        simp only [delivered, Splitter.search, hc]
      rw [hd]
      exact ⟨[], (List.append_nil _).symm, .nil,
        .inl ⟨text, taken, rfl, rfl, List.not_mem_nil, h.found hc⟩⟩
    | unfinished m seen' =>
      have hd : delivered = Splitter.atEnd m seen' pieces ending := by
        simp only [delivered, Splitter.search, hc]
        cases ending <;> rfl
      have hlines : taken = lines := by
        rw [← h.lines_eq, lineBytes, List.flatMap_nil, List.append_nil]
      have hended : endedTexts d taken = done := congrArg Passage.ended (h.ended hc)
      have htail := h.tail_eq
      have hitems : endedItems d taken = done.flatMap (Stream.ofText d) := by
        rw [endedItems, hended]
      subst hlines
      rw [hd]
      cases ending with
      | finished =>
        obtain rfl : tail = [] := htail.symm
        refine ⟨[0], rfl, ?_, .inr ⟨hended, ⟨[], 0, [], rfl, rfl, rfl⟩,
          ⟨[], rfl, List.not_mem_nil⟩, fun text _ => ⟨rfl, rfl⟩⟩⟩
        exact .atEnd List.not_mem_nil fun _ => hitems
      | failed begun message =>
        -- the bytes of the line that was begun are taken, but no text is delivered
        subst htail
        have hbegun : begun.Whole := h.begun
        have hline := Fresh.line hbegun hitems []
        rw [List.append_nil] at hline
        have hend : Fresh d (taken ++ begun.bytes) (taken.length + begun.pieces.sum)
            (done.flatMap (Stream.ofText d)) [0] := by
          rw [hbegun.sum_pieces]
          exact .atEnd h.unended fun _ => hitems
        have hpos : 0 ∉ begun.pieces := fun hmem =>
          absurd (hbegun.pieces_pos 0 hmem) (Nat.lt_irrefl 0)
        refine ⟨begun.pieces ++ [0], List.append_assoc .., hline.append hend,
          .inr ⟨hended, ?_, ⟨begun.pieces, rfl, hpos⟩, fun text ht => by cases ht⟩⟩
        have hsum : (begun.pieces ++ [0]).sum = begun.bytes.length := by
          rw [List.sum_append, List.sum_singleton, Nat.add_zero]
          exact hbegun.sum_pieces
        obtain ⟨k, back, hback⟩ := List.exists_cons_of_ne_nil
          (List.append_ne_nil_of_right_ne_nil begun.pieces (List.cons_ne_nil 0 []))
        rw [hback] at hsum ⊢
        exact ⟨[], k, back, rfl, rfl, hsum⟩
  | cons line ls ih =>
    intro delivered
    cases hc : cut d mode seen ahead with
    | found text rest =>
      have hd : delivered = ⟨.text text, pieces, ⟨.code, [], rest⟩, ⟨line :: ls, ending⟩⟩ := by
        simp only [delivered, Splitter.search, hc]
      rw [hd]
      exact ⟨[], (List.append_nil _).symm, .nil,
        .inl ⟨text, taken, rfl, rfl, List.not_mem_nil, h.found hc⟩⟩
    | unfinished m seen' =>
      have hd : delivered =
          Splitter.search d m seen' line.bytes ending (pieces ++ line.pieces) ls := by
        simp only [delivered, Splitter.search, hc]
      have hline := h.whole line List.mem_cons_self
      have hended : endedItems d taken = done.flatMap (Stream.ofText d) := by
        rw [endedItems, endedTexts, h.ended hc]
      have hpos : 0 ∉ line.pieces := fun hmem =>
        absurd (hline.pieces_pos 0 hmem) (Nat.lt_irrefl 0)
      have hfresh := Fresh.line hline hended (lineBytes ls ++ tail)
      have hall : taken ++ (line.bytes ++ (lineBytes ls ++ tail)) = lines ++ tail := by
        rw [← h.lines_eq]
        simp [lineBytes]
      have hlen : (taken ++ line.bytes).length = taken.length + line.pieces.sum := by
        rw [List.length_append, hline.sum_pieces]
      rw [hall] at hfresh
      obtain ⟨ps, hps, hmore, hresult⟩ := ih (h.unfinished hc) (pieces ++ line.pieces)
      rw [hlen] at hmore hresult
      rw [hd]
      refine ⟨line.pieces ++ ps, by rw [hps, List.append_assoc], hfresh.append hmore, ?_⟩
      rcases hresult with ⟨text, taken', htext, htaken, hnone, hstep⟩ | ⟨hdone, hall, hend, hlast⟩
      · refine .inl ⟨text, taken', htext, ?_, ?_, hstep⟩
        · rw [htaken, List.sum_append, Nat.add_assoc]
        · exact fun hmem => (List.mem_append.mp hmem).elim hpos hnone
      · exact .inr ⟨hdone, hall.cons, hend.append hpos, hlast⟩

/-- The next text of a splitter. -/
theorem next {s : Splitter} {source : Source} (h : Abreast d lines tail taken done s source) :
    let delivered := s.next d source
    Fresh d (lines ++ tail) taken.length (done.flatMap (Stream.ofText d)) delivered.pieces ∧
      ((∃ text taken', delivered.delivery = .text text ∧
          taken'.length = taken.length + delivered.pieces.sum ∧ 0 ∉ delivered.pieces ∧
          Abreast d lines tail taken' (done ++ [text]) delivered.splitter delivered.source) ∨
        endedTexts d lines = done ∧ TakesAll lines tail taken.length delivered.pieces ∧
          FindsEnd delivered.pieces ∧ ∀ text, delivered.delivery = .text text →
            delivered.splitter = {} ∧ delivered.source = ⟨[], .finished⟩) := by
  intro delivered
  have hsource : Abreast d lines tail taken done s ⟨source.lines, source.ending⟩ := h
  obtain ⟨ps, hps, hfresh, hresult⟩ := hsource.search []
  have hpieces : delivered.pieces = ps := hps
  rw [hpieces]
  exact ⟨hfresh, hresult⟩

end Abreast

/-! ### One reading -/

namespace Reader

/-- A reader that has finished or whose source is at its end. -/
def Spent (r : Reader) : Prop :=
  r.finished = true ∨ r.splitter = {} ∧ r.source = ⟨[], .finished⟩

theorem handOut_spent {r : Reader} (h : r.Spent) (pieces : List Nat) (item : Item)
    (rest : List Item) :
    (r.handOut pieces item rest).pieces = pieces ∧ (r.handOut pieces item rest).reader.Spent := by
  unfold handOut
  split
  · exact ⟨rfl, .inl rfl⟩
  · exact ⟨rfl, h⟩

/-- At the end of the source nothing more is taken. It is looked for once more if no item is at
    hand. -/
theorem fill_spent {r : Reader} (h : r.splitter = {} ∧ r.source = ⟨[], .finished⟩)
    (pieces : List Nat) (rounds : Nat) :
    ((r.fill pieces rounds).pieces = pieces ∨
      (r.fill pieces rounds).item = none ∧ (r.fill pieces rounds).pieces = pieces ++ [0]) ∧
      (r.fill pieces rounds).reader.Spent := by
  cases rounds with
  | zero => exact ⟨.inl rfl, .inl rfl⟩
  | succ rounds =>
    rw [fill]
    cases hp : r.pending with
    | cons item rest =>
      obtain ⟨hpieces, hspent⟩ := handOut_spent (.inr h) pieces item rest
      exact ⟨.inl hpieces, hspent⟩
    | nil =>
      -- nothing is held and no line is left, so the search finds the end at once
      have hnext : r.splitter.next r.dialect r.source = ⟨.finished, [0], {}, ⟨[], .finished⟩⟩ := by
        rw [h.1, h.2]
        rfl
      rw [hnext]
      exact ⟨.inr ⟨rfl, rfl⟩, .inl rfl⟩

end Reader

/-- A reading that takes nothing. It looks for input only if it has no item. -/
def Reading.Idle (r : Reading) : Prop :=
  r.pieces = [] ∨ r.item = none ∧ r.pieces = [0]

namespace Reader

theorem next_spent {r : Reader} (h : r.Spent) : r.next.Idle ∧ r.next.reader.Spent := by
  unfold next
  split
  · exact ⟨.inl rfl, h⟩
  · next hf => exact fill_spent (h.resolve_left hf) [] _

theorem readingsFor_spent {r : Reader} (h : r.Spent) (rounds : Nat) :
    ∀ reading ∈ r.readingsFor rounds, reading.Idle := by
  induction rounds generalizing r with
  | zero => exact fun _ hmem => absurd hmem List.not_mem_nil
  | succ rounds ih =>
    obtain ⟨hidle, hspent⟩ := next_spent h
    intro reading hmem
    simp only [readingsFor] at hmem
    cases hitem : r.next.item with
    | none =>
      rw [hitem, List.mem_singleton] at hmem
      rw [hmem]
      exact hidle
    | some item =>
      rw [hitem] at hmem
      -- this call, or one behind it, which finds the reader as spent
      rcases List.mem_cons.mp hmem with rfl | hmem
      · exact hidle
      · exact ih hspent reading hmem

/-- A reader at work: its splitter is abreast of its source, and of the items that were delivered
    those that were not handed out are at hand. -/
inductive AtWork (d : Dialect) (lines tail : List UInt8) : List UInt8 → List Item → Reader → Prop
  | intro {taken : List UInt8} {handed : List Item} {done : List (List UInt8)} {s : Splitter}
      {source : Source} {pending : List Item}
      (abreast : Abreast d lines tail taken done s source)
      (delivered : done.flatMap (Stream.ofText d) = handed ++ pending) :
      AtWork d lines tail taken handed ⟨d, source, s, pending, false⟩

end Reader

/-- How a reading comes to the end of the source. It finds it once, and once more if it has no
    item. -/
def Reading.Ends (r : Reading) (pieces : List Nat) : Prop :=
  FindsEnd pieces ∨ r.item = none ∧ ∃ ps, pieces = ps ++ [0] ∧ FindsEnd ps

theorem Reading.Ends.append {r : Reading} {ps qs : List Nat} (h : r.Ends qs) (hps : 0 ∉ ps) :
    r.Ends (ps ++ qs) := by
  rcases h with h | ⟨hnone, qs, rfl, h⟩
  · exact .inl (h.append hps)
  · exact .inr ⟨hnone, ps ++ qs, (List.append_assoc ..).symm, h.append hps⟩

/-- What a reading does that takes some pieces. It hands out the next item of the statements that
    end on the lines, or it comes to the end of the source when all of these items were handed out
    before. -/
def Reading.Prompt (d : Dialect) (lines tail taken : List UInt8) (handed : List Item)
    (pieces : List Nat) (reading : Reading) : Prop :=
  Fresh d (lines ++ tail) taken.length handed pieces ∧
    ((∃ item, reading.item = some item ∧ 0 ∉ pieces ∧ handed ++ [item] <+: endedItems d lines ∧
        ∀ statement, item = .ok statement → ∃ taken',
          taken'.length = taken.length + pieces.sum ∧
          reading.reader.AtWork d lines tail taken' (handed ++ [item])) ∨
      endedItems d lines = handed ∧ TakesAll lines tail taken.length pieces ∧
        reading.Ends pieces ∧ reading.reader.Spent)

namespace Reader

variable {lines tail taken : List UInt8} {done : List (List UInt8)} {handed : List Item}

/-- What is at hand is handed out, and nothing is taken. -/
theorem handOut_prompt {s : Splitter} {source : Source} {item : Item} {rest : List Item}
    (h : Abreast d lines tail taken done s source)
    (hitems : done.flatMap (Stream.ofText d) = handed ++ item :: rest) (pieces : List Nat) :
    (handOut ⟨d, source, s, item :: rest, false⟩ pieces item rest).pieces = pieces ++ [] ∧
      (handOut ⟨d, source, s, item :: rest, false⟩ pieces item rest).Prompt d lines tail taken
        handed [] := by
  -- what was handed out and this item are the first items of the lines
  have hprefix : handed ++ [item] <+: endedItems d lines := by
    obtain ⟨more, hmore⟩ := h.done_prefix
    rw [endedItems, ← hmore, List.flatMap_append, hitems]
    exact ⟨rest ++ more.flatMap (Stream.ofText d), by simp⟩
  cases item with
  | error e =>
    exact ⟨(List.append_nil _).symm, .nil,
      .inl ⟨_, rfl, List.not_mem_nil, hprefix, fun s hs => nomatch hs⟩⟩
  | ok statement =>
    refine ⟨(List.append_nil _).symm, .nil,
      .inl ⟨_, rfl, List.not_mem_nil, hprefix, fun s _ => ⟨taken, rfl, ?_⟩⟩⟩
    refine .intro h ?_
    rw [hitems, List.append_assoc]
    rfl

/-- If there is no further text, all items of the statements that ended were handed out. -/
theorem fill_prompt_of_no_text {s : Splitter} {source : Source}
    (h : Abreast d lines tail taken done s source)
    (hd : ∀ text, (s.next d source).delivery ≠ .text text) (pieces : List Nat) (rounds : Nat) :
    ∃ ps, (fill ⟨d, source, s, [], false⟩ pieces (rounds + 1)).pieces = pieces ++ ps ∧
      (fill ⟨d, source, s, [], false⟩ pieces (rounds + 1)).Prompt d lines tail taken
        (done.flatMap (Stream.ofText d)) ps := by
  obtain ⟨hfresh, ⟨text, -, htext, -⟩ | ⟨rfl, htakes, hend, -⟩⟩ := h.next
  · exact absurd htext (hd text)
  · rw [fill]
    cases hdelivery : (s.next d source).delivery with
    | text text => exact absurd hdelivery (hd text)
    | finished =>
      simp only [hdelivery]
      exact ⟨_, rfl, hfresh, .inr ⟨rfl, htakes, .inl hend, .inl rfl⟩⟩
    | failed message =>
      simp only [hdelivery]
      exact ⟨_, rfl, hfresh, .inr ⟨rfl, htakes, .inl hend, .inl rfl⟩⟩

/-- Texts are read until one of them has an item. -/
theorem fill_prompt {s : Splitter} {source : Source} {texts : List (List UInt8)}
    {failure : Option String} (hd : Deliveries d s source texts failure) {rounds : Nat}
    (hr : texts.length < rounds) (h : Abreast d lines tail taken done s source)
    {pending : List Item} (hitems : done.flatMap (Stream.ofText d) = handed ++ pending)
    (pieces : List Nat) :
    ∃ ps, (fill ⟨d, source, s, pending, false⟩ pieces rounds).pieces = pieces ++ ps ∧
      (fill ⟨d, source, s, pending, false⟩ pieces rounds).Prompt d lines tail taken handed ps := by
  induction hd generalizing rounds taken done handed pending pieces with
  | @finished s source hdelivery =>
    obtain ⟨rounds, rfl⟩ := Nat.exists_eq_succ_of_ne_zero (Nat.ne_zero_of_lt hr)
    cases pending with
    | cons item rest => exact ⟨[], handOut_prompt h hitems pieces⟩
    | nil =>
      rw [List.append_nil] at hitems
      subst hitems
      exact fill_prompt_of_no_text h (fun text ht => nomatch hdelivery.symm.trans ht) pieces rounds
  | @failed s source message hdelivery =>
    obtain ⟨rounds, rfl⟩ := Nat.exists_eq_succ_of_ne_zero (Nat.ne_zero_of_lt hr)
    cases pending with
    | cons item rest => exact ⟨[], handOut_prompt h hitems pieces⟩
    | nil =>
      rw [List.append_nil] at hitems
      subst hitems
      exact fill_prompt_of_no_text h (fun text ht => nomatch hdelivery.symm.trans ht) pieces rounds
  | @text s source text texts failure hdelivery rest ih =>
    obtain ⟨rounds, rfl⟩ := Nat.exists_eq_succ_of_ne_zero (Nat.ne_zero_of_lt hr)
    rw [fill]
    cases pending with
    | cons item rest => exact ⟨[], handOut_prompt h hitems pieces⟩
    | nil =>
      rw [List.append_nil] at hitems
      subst hitems
      simp only [hdelivery]
      obtain ⟨hfresh, ⟨text', taken', htext, htaken, hpos, hnext⟩ | ⟨rfl, htakes, hend, hlast⟩⟩ :=
        h.next
      · -- the statement ended on a line, and its items are at hand in the next round
        obtain rfl : text = text' := Delivery.text.inj (hdelivery.symm.trans htext)
        obtain ⟨ps, hps, hmore, hresult⟩ := ih (Nat.lt_of_succ_lt_succ hr) hnext
          (List.flatMap_append.trans (by rw [List.flatMap_singleton]))
          (pieces ++ (s.next d source).pieces)
        rw [htaken] at hmore
        refine ⟨(s.next d source).pieces ++ ps, by rw [hps, List.append_assoc],
          hfresh.append hmore, ?_⟩
        rcases hresult with ⟨item, hitem, hnone, hprefix, hstep⟩ | ⟨hended, htakes, hend, hspent⟩
        · refine .inl ⟨item, hitem, ?_, hprefix, fun statement hs => ?_⟩
          · exact fun hmem => (List.mem_append.mp hmem).elim hpos hnone
          · obtain ⟨taken'', htaken', hwork⟩ := hstep statement hs
            exact ⟨taken'', by rw [htaken', htaken, List.sum_append, Nat.add_assoc], hwork⟩
        · rw [htaken] at htakes
          exact .inr ⟨hended, htakes.cons, hend.append hpos, hspent⟩
      · -- the text is what no semicolon ends, and the source is at its end
        obtain ⟨hpieces | ⟨hitem, hpieces⟩, hspent⟩ := fill_spent
          (r := ⟨d, (s.next d source).source, (s.next d source).splitter,
            Stream.ofText d text, false⟩)
          (hlast text hdelivery) (pieces ++ (s.next d source).pieces) rounds
        · exact ⟨_, hpieces, hfresh, .inr ⟨rfl, htakes, .inl hend, hspent⟩⟩
        · exact ⟨_, hpieces.trans (List.append_assoc ..), hfresh.again hend,
            .inr ⟨rfl, htakes.again, .inr ⟨hitem, _, rfl, hend⟩, hspent⟩⟩

/-- A reading of a reader at work. -/
theorem AtWork.next {r : Reader} (h : AtWork d lines tail taken handed r) :
    r.next.Prompt d lines tail taken handed r.next.pieces := by
  obtain ⟨habreast, hitems⟩ := h
  rename_i s source pending
  obtain ⟨texts, failure, hd⟩ := deliveries_exist d s source
  have hlt : texts.length < s.size + source.size + 2 := Nat.lt_succ_of_le (texts_length_le hd)
  obtain ⟨ps, hps, hprompt⟩ := fill_prompt hd hlt habreast hitems []
  rw [← List.nil_append ps, ← hps] at hprompt
  exact hprompt

end Reader

/-! ### All readings -/

/-- Readings that take the bytes behind the first `n` of some lines and of what stands behind them.
    Each takes input only when the items of all statements that ended before were handed out. They
    hand out the items of the statements that end on the lines, up to an error among them; and
    before they come to the end of the source, they have handed out all of them. Behind the end
    readings are idle. -/
inductive InStep (d : Dialect) (lines tail : List UInt8) :
    Nat → List Item → List Reading → Prop
  | item {n : Nat} {handed : List Item} {r : Reading} {rs : List Reading} {item : Item}
      (fresh : Fresh d (lines ++ tail) n handed r.pieces) (item_eq : r.item = some item)
      (takes : 0 ∉ r.pieces)
      (ended : handed ++ [item] <+: endedItems d lines)
      (rest : ∀ statement, item = .ok statement →
        InStep d lines tail (n + r.pieces.sum) (handed ++ [item]) rs) :
      InStep d lines tail n handed (r :: rs)
  | last {n : Nat} {handed : List Item} {r : Reading} {rs : List Reading}
      (fresh : Fresh d (lines ++ tail) n handed r.pieces)
      (ended : endedItems d lines = handed) (takes : TakesAll lines tail n r.pieces)
      (ends : r.Ends r.pieces) (rest : ∀ q ∈ rs, q.Idle) :
      InStep d lines tail n handed (r :: rs)

namespace Reader

variable {lines tail taken : List UInt8} {handed : List Item}

theorem AtWork.readingsFor {r : Reader} (h : AtWork d lines tail taken handed r) {rounds : Nat}
    {items : List Item}
    (hr : (r.readingsFor rounds).map Reading.item = items.map some ++ [none]) :
    InStep d lines tail taken.length handed (r.readingsFor rounds) := by
  induction rounds generalizing r taken handed items with
  | zero => simp [Reader.readingsFor] at hr
  | succ rounds ih =>
    obtain ⟨hfresh, ⟨item, hitem, hpos, hprefix, hstep⟩ | ⟨hended, htakes, hends, hspent⟩⟩ :=
      h.next
    · simp only [Reader.readingsFor, hitem] at hr ⊢
      refine .item hfresh hitem hpos hprefix fun statement hs => ?_
      obtain ⟨taken', htaken, hwork⟩ := hstep statement hs
      rw [← htaken]
      cases items with
      | nil =>
        -- the readings end with one without an item, which this one is not
        rw [List.map_cons, hitem] at hr
        cases (List.cons.inj hr).1
      | cons item' items => exact ih hwork (List.cons.inj hr).2
    · simp only [Reader.readingsFor]
      cases hitem : r.next.item with
      | none =>
        exact .last hfresh hended htakes hends fun _ hmem => absurd hmem List.not_mem_nil
      | some item => exact .last hfresh hended htakes hends (readingsFor_spent hspent rounds)

end Reader

/-- The lines of a source that delivers buffers: all of its bytes at the end, and the bytes through
    the last newline before a failure. -/
def linesBefore (failure : Option String) (bytes : List UInt8) : List UInt8 :=
  match failure with
  | none => bytes
  | some _ => wholeLines bytes

theorem lineBytes_ofBuffers (buffers : List (List UInt8)) (failure : Option String) :
    lineBytes (Source.ofBuffers buffers failure).lines = linesBefore failure buffers.flatten := by
  have hbytes := bytes_after {} failure buffers
  rw [List.nil_append] at hbytes
  cases failure with
  | none =>
    rw [ending_after, Ending.bytes, List.append_nil] at hbytes
    exact hbytes
  | some message =>
    have hnone : newline ∉ ({} : Line).bytes := List.not_mem_nil
    obtain ⟨last, hending, hlast⟩ := ending_after_failed hnone message buffers
    have hlined := lined_after {} (some message) buffers
    rw [hending] at hlined hbytes
    have hends := hlined.endsLine (by rintro ⟨⟩)
    rw [linesBefore, ← hbytes]
    exact (wholeLines_append hends hlast).symm

/-- A reader of buffers is in step with their bytes. -/
theorem inStep_readings (d : Dialect) (buffers : List (List UInt8)) (failure : Option String) :
    ∃ tail, linesBefore failure buffers.flatten ++ tail = buffers.flatten ∧
      InStep d (linesBefore failure buffers.flatten) tail 0 []
        (Reader.start d (Source.ofBuffers buffers failure)).readings := by
  obtain ⟨hwhole, hbegun, hunended⟩ := whole_after .empty List.not_mem_nil failure buffers
  have habreast : Abreast d (linesBefore failure buffers.flatten)
      (Source.ofBuffers buffers failure).ending.begun.bytes [] [] {}
      (Source.ofBuffers buffers failure) :=
    ⟨rfl, lineBytes_ofBuffers buffers failure, rfl, lined_after {} failure buffers, hwhole, hbegun,
      hunended⟩
  refine ⟨_, ?_, (Reader.AtWork.intro habreast rfl).readingsFor (Reader.readings_eq _)⟩
  rw [← lineBytes_ofBuffers, Ending.bytes_begun]
  exact bytes_after {} failure buffers

end QueryAudit
