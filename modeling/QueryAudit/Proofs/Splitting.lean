import QueryAudit.Splitter

/-!
# Splitting line by line and splitting at once

The splitter reads a line whenever the bytes it has do not end a statement, and looks one byte ahead
only within what it has read. A newline is no part of a marker of two bytes, so nothing is missed at
the end of a line: looking at some lines and then at more is looking at all of them. What the
splitter delivers is therefore what one pass over the whole text cuts off, however the text is cut
into buffers.
-/

namespace QueryAudit

/-! ### One pass over a whole text -/

/-- What a pass over a text has open. -/
inductive Open where
  | code
  /-- Within quotes of the given kind. -/
  | quoted (quote : UInt8)
  /-- Behind a backslash within quotes. -/
  | escaped (quote : UInt8)
  | lineComment
  | blockComment
  deriving DecidableEq, Repr

/-- What is open behind a byte, given the byte after it, and whether that one is taken too as the
    second byte of a marker. -/
def Open.behind (d : Dialect) (o : Open) (b : UInt8) (next : Option UInt8) : Open × Bool :=
  match o with
  | .code =>
    if Mode.isQuote b then (.quoted b, false)
    else if b = 45 ∧ next = some 45 then (.lineComment, true)
    else if b = 35 ∧ d.hashComments then (.lineComment, false)
    else if b = 47 ∧ next = some 42 then (.blockComment, true)
    else (.code, false)
  | .quoted quote =>
    if b = quote then (.code, false)
    else if b = 92 ∧ d.backslashEscapes ∧ quote ≠ 96 then (.escaped quote, false)
    else (.quoted quote, false)
  | .escaped quote => (.quoted quote, false)
  | .lineComment => (if b = newline then .code else .lineComment, false)
  | .blockComment => if b = 42 ∧ next = some 47 then (.code, true) else (.blockComment, false)

/-- The markers of two bytes: a dash and a dash, a slash and a star, a star and a slash. -/
theorem Open.marker_cases {d : Dialect} {o : Open} {b : UInt8} {next : Option UInt8}
    (h : (o.behind d b next).2 = true) :
    b = 45 ∧ next = some 45 ∨ b = 47 ∧ next = some 42 ∨ b = 42 ∧ next = some 47 := by
  cases o with
  | code =>
    simp only [behind] at h
    split at h
    · cases h
    · split at h
      · next hdash => exact .inl hdash
      · split at h
        · cases h
        · split at h
          · next hslash => exact .inr (.inl hslash)
          · cases h
  | quoted quote =>
    simp only [behind] at h
    split at h
    · cases h
    · split at h <;> cases h
  | escaped quote => cases h
  | lineComment => cases h
  | blockComment =>
    simp only [behind] at h
    split at h
    · next hstar => exact .inr (.inr hstar)
    · cases h

/-- The statement texts of the rest of a text, `seen` being what was passed of the first of them,
    latest first. A semicolon in code ends a statement; the rest of the text is the last one unless
    it is empty. The text may be written in any letters, each of which stands for a byte. -/
def pass {α : Type} (byte : α → UInt8) (d : Dialect) (o : Open) (seen : List α) :
    List α → List (List α)
  | [] => if seen.isEmpty then [] else [seen.reverse]
  | b :: bs =>
    if o = .code ∧ byte b = Mode.semicolon then seen.reverse :: pass byte d .code [] bs
    else
      match bs with
      | [] => [(b :: seen).reverse]
      | c :: cs =>
        if (o.behind d (byte b) (some (byte c))).2 then
          pass byte d (o.behind d (byte b) (some (byte c))).1 (c :: b :: seen) cs
        else pass byte d (o.behind d (byte b) (some (byte c))).1 (b :: seen) (c :: cs)

/-- The statement texts of a text. -/
def pieces (d : Dialect) (text : List UInt8) : List (List UInt8) :=
  pass id d .code [] text

section Pass

variable {α : Type} {byte : α → UInt8} {d : Dialect} {o : Open}

/-- A semicolon in code ends a statement. -/
theorem pass_semicolon {b : α} (hb : byte b = Mode.semicolon) (seen bs : List α) :
    pass byte d .code seen (b :: bs) = seen.reverse :: pass byte d .code [] bs := by
  cases bs <;> simp [pass, hb]

/-- A letter that is taken alone. -/
theorem pass_alone {b : α} {bs : List α} (hs : ¬(o = .code ∧ byte b = Mode.semicolon))
    (hm : (o.behind d (byte b) (bs.head?.map byte)).2 = false) (seen : List α) :
    pass byte d o seen (b :: bs) =
      pass byte d (o.behind d (byte b) (bs.head?.map byte)).1 (b :: seen) bs := by
  cases bs with
  | nil =>
    simp only [pass, if_neg hs]
    rfl
  | cons c cs =>
    rw [List.head?_cons, Option.map_some] at hm ⊢
    rw [pass, if_neg hs, hm, if_neg Bool.false_ne_true]

/-- Two letters that are taken as one marker. -/
theorem pass_marker {b c : α} (hs : ¬(o = .code ∧ byte b = Mode.semicolon))
    (hm : (o.behind d (byte b) (some (byte c))).2 = true) (seen cs : List α) :
    pass byte d o seen (b :: c :: cs) =
      pass byte d (o.behind d (byte b) (some (byte c))).1 (c :: b :: seen) cs := by
  rw [pass, if_neg hs, hm, if_pos rfl]

end Pass

/-! ### Looking on -/

/-- Whether bytes end with a newline, if there are any. -/
def EndsLine (bytes : List UInt8) : Prop :=
  ∀ b, bytes.getLast? = some b → b = newline

theorem endsLine_nil : EndsLine [] := by
  intro b hb
  cases hb

theorem EndsLine.tail {b : UInt8} {bs : List UInt8} (h : EndsLine (b :: bs)) : EndsLine bs := by
  intro c hc
  cases bs with
  | nil => cases hc
  | cons x xs => exact h c (by rwa [List.getLast?_cons_cons])

theorem EndsLine.append {text more : List UInt8} (h : EndsLine text) (h' : EndsLine more) :
    EndsLine (text ++ more) := by
  intro b hb
  rw [List.getLast?_append] at hb
  cases hm : more.getLast? with
  | none =>
    rw [hm, Option.none_or] at hb
    exact h b hb
  | some c =>
    rw [hm, Option.some_or] at hb
    exact h' b (hm.trans hb)

/-- Behind a newline it makes no difference which byte comes next. -/
theorem Mode.next_newline (d : Dialect) (m : Mode) (next next' : Option UInt8) :
    m.next d newline next = m.next d newline next' := by
  cases m <;> rfl

/-- Look on in more bytes. -/
def Cut.resume (d : Dialect) (more : List UInt8) : Cut → Cut
  | .found text rest => .found text (rest ++ more)
  | .unfinished mode seen => cut d mode seen more

/-- No marker of two bytes begins in the first text and ends in the second. -/
def Apart (d : Dialect) (text more : List UInt8) : Prop :=
  ∀ b, text.getLast? = some b → ∀ m : Mode, m.next d b more.head? = m.next d b none

/-- A newline begins no marker. -/
theorem EndsLine.apart {d : Dialect} {text : List UInt8} (h : EndsLine text) (more : List UInt8) :
    Apart d text more := by
  intro b hb m
  rw [h b hb]
  exact m.next_newline d _ _

/-- A semicolon is no part of a marker. -/
theorem apart_semicolon {d : Dialect} (text more : List UInt8) :
    Apart d text (Mode.semicolon :: more) := by
  intro b _ m
  have hdash : some Mode.semicolon ≠ some 45 := by decide
  have hstar : some Mode.semicolon ≠ some 42 := by decide
  have hslash : some Mode.semicolon ≠ some 47 := by decide
  cases m <;> simp [Mode.next, Mode.afterCode, hdash, hstar, hslash]

theorem Apart.tail {d : Dialect} {b : UInt8} {text more : List UInt8}
    (h : Apart d (b :: text) more) : Apart d text more := by
  intro c hc
  cases text with
  | nil => cases hc
  | cons x xs => exact h c (by rwa [List.getLast?_cons_cons])

/-- Looking at bytes and then at more is looking at all of them, if no marker stands across. -/
theorem cut_append_of_apart {d : Dialect} (mode : Mode) (seen : List UInt8)
    {bytes more : List UInt8} (h : Apart d bytes more) :
    cut d mode seen (bytes ++ more) = (cut d mode seen bytes).resume d more := by
  induction bytes generalizing mode seen with
  | nil => rfl
  | cons b bs ih =>
    rw [List.cons_append, cut, cut]
    split
    · rfl
    · -- only the last byte looks ahead into what follows, and there it finds no marker
      have hn : mode.next d b (bs ++ more).head? = mode.next d b bs.head? := by
        cases bs with
        | nil => exact h b rfl mode
        | cons x xs => rfl
      rw [hn, ih _ _ h.tail]

/-- Looking at bytes that end with a newline and then at more is looking at all of them. -/
theorem cut_append (d : Dialect) (mode : Mode) (seen : List UInt8) {bytes : List UInt8}
    (h : EndsLine bytes) (more : List UInt8) :
    cut d mode seen (bytes ++ more) = (cut d mode seen bytes).resume d more :=
  cut_append_of_apart mode seen (h.apart more)

/-- A statement that was found is what was seen, the bytes up to a semicolon, and the rest. -/
theorem cut_found_length {d : Dialect} {mode : Mode} {seen bytes text rest : List UInt8}
    (h : cut d mode seen bytes = .found text rest) :
    text.length + 1 + rest.length = seen.length + bytes.length := by
  induction bytes generalizing mode seen with
  | nil => cases h
  | cons b bs ih =>
    rw [cut] at h
    split at h
    · cases h
      simp only [List.length_reverse, List.length_cons]
      omega
    · have := ih h
      simp only [List.length_cons] at this ⊢
      omega

theorem cut_unfinished_length {d : Dialect} {mode mode' : Mode} {seen seen' bytes : List UInt8}
    (h : cut d mode seen bytes = .unfinished mode' seen') :
    seen'.length = seen.length + bytes.length := by
  induction bytes generalizing mode seen with
  | nil =>
    cases h
    rfl
  | cons b bs ih =>
    rw [cut] at h
    split at h
    · cases h
    · rw [ih h, List.length_cons, List.length_cons]
      omega

/-! ### The pass, one statement at a time -/

/-- The mode of a splitter that has the same open. -/
def Open.mode : Open → Mode
  | .code => .code
  | .quoted quote => .quoted quote
  | .escaped quote => .escaped quote
  | .lineComment => .lineComment
  | .blockComment => .blockComment

theorem Open.mode_eq_code_iff (o : Open) : o.mode = .code ↔ o = .code := by
  cases o <;> simp [mode]

/-- A byte that is taken alone changes the mode in the same way. -/
theorem Open.next_mode_of_alone {d : Dialect} {o : Open} {b : UInt8} {next : Option UInt8}
    (h : (o.behind d b next).2 = false) :
    o.mode.next d b next = (o.behind d b next).1.mode := by
  cases o with
  | code =>
    simp only [behind, mode, Mode.next, Mode.afterCode] at h ⊢
    grind [mode]
  | quoted quote =>
    simp only [behind, mode, Mode.next, Mode.afterQuoted] at h ⊢
    grind [mode]
  | escaped quote => rfl
  | lineComment =>
    simp only [behind, mode, Mode.next]
    split <;> rfl
  | blockComment =>
    simp only [behind, mode, Mode.next] at h ⊢
    grind [mode]

/-- A marker of two bytes changes the mode in two steps, and the mode between them is not code. -/
theorem Open.next_mode_of_marker {d : Dialect} {o : Open} {b c : UInt8}
    (h : (o.behind d b (some c)).2 = true) (next : Option UInt8) :
    o.mode.next d b (some c) ≠ .code ∧
      (o.mode.next d b (some c)).next d c next = (o.behind d b (some c)).1.mode := by
  cases o with
  | code =>
    simp only [behind, mode, Mode.next, Mode.afterCode] at h ⊢
    grind [mode]
  | quoted quote =>
    simp only [behind] at h
    grind
  | escaped quote => cases h
  | lineComment => cases h
  | blockComment =>
    simp only [behind, mode, Mode.next] at h ⊢
    grind [mode]

/-- What a pass makes of the first look at a text. -/
def passCut (d : Dialect) : Cut → List (List UInt8)
  | .found text rest => text :: pass id d .code [] rest
  | .unfinished _ seen => if seen.isEmpty then [] else [seen.reverse]

/-- Without a byte behind it no byte is part of a marker. -/
theorem Open.behind_none (d : Dialect) (o : Open) (b : UInt8) :
    (o.behind d b none).2 = false := by
  refine Bool.eq_false_iff.mpr fun h => ?_
  rcases marker_cases h with ⟨-, hn⟩ | ⟨-, hn⟩ | ⟨-, hn⟩ <;> cases hn

/-- A byte that is taken alone is taken in the same way without a byte behind it. -/
theorem Open.behind_of_alone {d : Dialect} {o : Open} {b : UInt8} {next : Option UInt8}
    (h : (o.behind d b next).2 = false) : o.behind d b none = o.behind d b next := by
  cases o with
  | code =>
    simp only [behind] at h ⊢
    grind
  | blockComment =>
    simp only [behind] at h ⊢
    grind
  | quoted => rfl
  | escaped => rfl
  | lineComment => rfl

/-- A byte that ends no statement is passed. -/
theorem cut_cons {d : Dialect} {o : Open} {b : UInt8} (hs : ¬(o = .code ∧ b = Mode.semicolon))
    (seen bs : List UInt8) :
    cut d o.mode seen (b :: bs) = cut d (o.mode.next d b bs.head?) (b :: seen) bs := by
  rw [cut, if_neg]
  simpa [Open.mode_eq_code_iff] using hs

/-- A byte that is taken alone. -/
theorem cut_alone {d : Dialect} {o : Open} {b : UInt8} {bs : List UInt8}
    (hs : ¬(o = .code ∧ b = Mode.semicolon)) (hm : (o.behind d b bs.head?).2 = false)
    (seen : List UInt8) :
    cut d o.mode seen (b :: bs) = cut d (o.behind d b bs.head?).1.mode (b :: seen) bs := by
  rw [cut_cons hs, Open.next_mode_of_alone hm]

/-- Two bytes that are taken as one marker: between them the splitter is not in code. -/
theorem cut_marker {d : Dialect} {o : Open} {b c : UInt8}
    (hs : ¬(o = .code ∧ b = Mode.semicolon)) (hm : (o.behind d b (some c)).2 = true)
    (seen cs : List UInt8) :
    cut d o.mode seen (b :: c :: cs) =
      cut d (o.behind d b (some c)).1.mode (c :: b :: seen) cs := by
  obtain ⟨hcode, hnext⟩ := Open.next_mode_of_marker hm cs.head?
  rw [cut_cons hs, List.head?_cons, cut, decide_eq_false hcode, Bool.false_and,
    if_neg Bool.false_ne_true, hnext]

/-- A pass over a text is a look for the end of its first statement and a pass over the rest. -/
theorem pass_eq_cut (d : Dialect) (o : Open) (seen bytes : List UInt8) :
    pass id d o seen bytes = passCut d (cut d o.mode seen bytes) := by
  -- on the length, since a marker takes two bytes at once
  induction hn : bytes.length using Nat.strongRecOn generalizing o seen bytes with
  | ind n ih =>
    subst hn
    cases bytes with
    | nil => rfl
    | cons b bs =>
      by_cases hs : o = .code ∧ b = Mode.semicolon
      · obtain ⟨rfl, rfl⟩ := hs
        have hbyte : id Mode.semicolon = Mode.semicolon := rfl
        exact pass_semicolon hbyte seen bs
      · cases hm : (o.behind d b bs.head?).2 with
        | false =>
          have hid : bs.head?.map id = bs.head? := by rw [Option.map_id, id]
          rw [pass_alone hs (by rw [hid]; exact hm), hid, cut_alone hs hm]
          exact ih bs.length (Nat.lt_succ_self _) _ _ _ rfl
        | true =>
          cases bs with
          | nil =>
            rw [List.head?_nil, Open.behind_none] at hm
            cases hm
          | cons c cs =>
            rw [pass_marker hs hm, cut_marker hs hm]
            exact ih cs.length (by simp only [List.length_cons]; omega) _ _ _ rfl

/-! ### Lines -/

def lineBytes (lines : List Line) : List UInt8 :=
  lines.flatMap Line.bytes

/-- Bytes at hand, and lines to come: wherever more is to come, what is before it ends with a
    newline. -/
def Lined (ending : Ending) (ahead : List UInt8) : List Line → Prop
  | [] => ending ≠ .finished → EndsLine ahead
  | line :: lines => EndsLine ahead ∧ Lined ending line.bytes lines

/-- Of bytes at hand only the end matters. -/
theorem Lined.of_suffix {ending : Ending} {ahead rest : List UInt8} {lines : List Line}
    (h : Lined ending ahead lines) (hs : rest <:+ ahead) : Lined ending rest lines := by
  have ends (he : EndsLine ahead) : EndsLine rest := by
    intro b hb
    obtain ⟨front, rfl⟩ := hs
    refine he b ?_
    rw [List.getLast?_append, hb]
    rfl
  cases lines with
  | nil => exact fun hf => ends (h hf)
  | cons line lines => exact ⟨ends h.1, h.2⟩

/-- Bytes at hand may stand behind others that end with a newline. -/
theorem Lined.append_front {ending : Ending} {ahead front : List UInt8} {lines : List Line}
    (h : Lined ending ahead lines) (hf : EndsLine front) : Lined ending (front ++ ahead) lines := by
  cases lines with
  | nil => exact fun hne => hf.append (h hne)
  | cons line lines => exact ⟨hf.append h.1, h.2⟩

/-- The rest behind a statement is at the end of the bytes that were looked at. -/
theorem cut_found_suffix {d : Dialect} {mode : Mode} {seen bytes text rest : List UInt8}
    (h : cut d mode seen bytes = .found text rest) : rest <:+ bytes := by
  induction bytes generalizing mode seen with
  | nil => cases h
  | cons b bs ih =>
    rw [cut] at h
    split at h
    · cases h
      exact List.suffix_cons _ _
    · exact (ih h).trans (List.suffix_cons b bs)

namespace Splitter

/-- What a search that finds a statement in the bytes at hand answers. -/
theorem search_of_found {d : Dialect} {mode : Mode} {seen ahead text rest : List UInt8}
    (h : cut d mode seen ahead = .found text rest) (ending : Ending) (taken : List Nat)
    (lines : List Line) :
    search d mode seen ahead ending taken lines =
      ⟨.text text, taken, ⟨.code, [], rest⟩, ⟨lines, ending⟩⟩ := by
  cases lines <;> simp only [search, h]

/-- A search that finds no statement in the bytes at hand goes on in the next line. -/
theorem search_of_unfinished {d : Dialect} {mode mode' : Mode} {seen seen' ahead : List UInt8}
    (h : cut d mode seen ahead = .unfinished mode' seen') (ending : Ending) (taken : List Nat)
    (line : Line) (lines : List Line) :
    search d mode seen ahead ending taken (line :: lines) =
      search d mode' seen' line.bytes ending (taken ++ line.pieces) lines := by
  simp only [search, h]

/-- What a search that finds a statement in its bytes and lines answers: that statement, with the
    rest of the bytes and lines left. -/
theorem search_found {d : Dialect} {ending : Ending} {mode : Mode}
    {seen ahead text rest : List UInt8} {lines : List Line} (hl : Lined ending ahead lines)
    (h : cut d mode seen (ahead ++ lineBytes lines) = .found text rest) (taken : List Nat) :
    ∃ pieces ahead' lines',
      search d mode seen ahead ending taken lines =
        ⟨.text text, pieces, ⟨.code, [], ahead'⟩, ⟨lines', ending⟩⟩ ∧
      ahead' ++ lineBytes lines' = rest ∧ Lined ending ahead' lines' := by
  induction lines generalizing mode seen ahead taken with
  | nil =>
    simp only [lineBytes, List.flatMap_nil, List.append_nil] at h
    exact ⟨taken, rest, [], search_of_found h ending taken [], List.append_nil rest,
      hl.of_suffix (cut_found_suffix h)⟩
  | cons line lines ih =>
    rw [lineBytes, List.flatMap_cons, cut_append d mode seen hl.1] at h
    cases hc : cut d mode seen ahead with
    | found text' rest' =>
      rw [hc] at h
      cases h
      exact ⟨taken, rest', line :: lines, search_of_found hc ending taken _, rfl,
        hl.of_suffix (cut_found_suffix hc)⟩
    | unfinished mode' seen' =>
      -- looking on in the next line is looking on in all that follows
      rw [hc] at h
      rw [search_of_unfinished hc]
      exact ih hl.2 h (taken ++ line.pieces)

/-- What a search that finds no end of a statement answers. -/
def atEnd (mode : Mode) (seen : List UInt8) (taken : List Nat) : Ending → Delivered
  | .finished =>
    ⟨if seen.isEmpty then .finished else .text seen.reverse, taken ++ [0], {}, ⟨[], .finished⟩⟩
  | .failed begun message =>
    ⟨.failed message, taken ++ begun.pieces ++ [0], ⟨mode, seen, begun.bytes⟩,
      ⟨[], .failed {} message⟩⟩

/-- A search without lines that finds no statement is at the end of the source. -/
theorem search_nil_of_unfinished {d : Dialect} {mode mode' : Mode} {seen seen' ahead : List UInt8}
    (h : cut d mode seen ahead = .unfinished mode' seen') (ending : Ending) (taken : List Nat) :
    search d mode seen ahead ending taken [] = atEnd mode' seen' taken ending := by
  simp only [search, h]
  cases ending <;> rfl

/-- A search that finds no end of a statement in its bytes and lines comes to the end of the
    source. -/
theorem search_unfinished {d : Dialect} {ending : Ending} {mode mode' : Mode}
    {seen seen' ahead : List UInt8} {lines : List Line} (hl : Lined ending ahead lines)
    (h : cut d mode seen (ahead ++ lineBytes lines) = .unfinished mode' seen')
    (taken : List Nat) :
    ∃ pieces, search d mode seen ahead ending taken lines = atEnd mode' seen' pieces ending := by
  induction lines generalizing mode seen ahead taken with
  | nil =>
    simp only [lineBytes, List.flatMap_nil, List.append_nil] at h
    exact ⟨taken, search_nil_of_unfinished h ending taken⟩
  | cons line lines ih =>
    rw [lineBytes, List.flatMap_cons, cut_append d mode seen hl.1] at h
    cases hc : cut d mode seen ahead with
    | found text' rest' =>
      rw [hc] at h
      cases h
    | unfinished mode'' seen'' =>
      rw [hc] at h
      rw [search_of_unfinished hc]
      -- the bytes of the line are ahead now, in the mode at the end of those before
      exact ih hl.2 h (taken ++ line.pieces)

end Splitter

/-! ### All deliveries -/

/-- The texts that a splitter delivers one after the other, and the failure after them, if there is
    one. -/
inductive Deliveries (d : Dialect) :
    Splitter → Source → List (List UInt8) → Option String → Prop
  | finished {s : Splitter} {source : Source} (h : (s.next d source).delivery = .finished) :
      Deliveries d s source [] none
  | failed {s : Splitter} {source : Source} {message : String}
      (h : (s.next d source).delivery = .failed message) :
      Deliveries d s source [] (some message)
  | text {s : Splitter} {source : Source} {text : List UInt8} {texts : List (List UInt8)}
      {failure : Option String} (h : (s.next d source).delivery = .text text)
      (rest : Deliveries d (s.next d source).splitter (s.next d source).source texts failure) :
      Deliveries d s source (text :: texts) failure

/-- Nothing more is delivered at the end. -/
theorem Deliveries.drained (d : Dialect) : Deliveries d {} ⟨[], .finished⟩ [] none :=
  .finished rfl

/-- From the start of a statement on, a splitter over lines that end delivers what a pass over all
    of their bytes cuts off. -/
theorem deliveries_pass {d : Dialect} {ahead : List UInt8} {lines : List Line}
    (hl : Lined .finished ahead lines) :
    Deliveries d ⟨.code, [], ahead⟩ ⟨lines, .finished⟩ (pieces d (ahead ++ lineBytes lines))
      none := by
  -- on the number of bytes left, of which each statement takes its semicolon
  induction hn : (ahead ++ lineBytes lines).length using Nat.strongRecOn
    generalizing ahead lines with
  | ind n ih =>
    rw [pieces, pass_eq_cut, Open.mode]
    cases hc : cut d .code [] (ahead ++ lineBytes lines) with
    | found text rest =>
      obtain ⟨taken, ahead', lines', hs, hr, hl'⟩ :=
        Splitter.search_found hl hc []
      have hnext : Splitter.next d ⟨.code, [], ahead⟩ ⟨lines, .finished⟩ =
          ⟨.text text, taken, ⟨.code, [], ahead'⟩, ⟨lines', .finished⟩⟩ := hs
      have hshort := cut_found_length hc
      have hrest := ih rest.length (by simp only [List.length_nil] at hshort; omega) hl'
        (by rw [hr])
      rw [pieces, hr] at hrest
      exact .text (by rw [hnext]) (by rw [hnext]; exact hrest)
    | unfinished mode seen =>
      obtain ⟨taken, hs⟩ := Splitter.search_unfinished hl hc []
      have hnext : Splitter.next d ⟨.code, [], ahead⟩ ⟨lines, .finished⟩ =
          Splitter.atEnd mode seen taken .finished := hs
      rw [passCut]
      split
      · next hempty =>
        refine .finished ?_
        rw [hnext, Splitter.atEnd, if_pos hempty]
      · next hempty =>
        refine .text ?_ ?_
        · rw [hnext, Splitter.atEnd, if_neg hempty]
        · rw [hnext]
          exact .drained d

/-! ### Lines from buffers -/

/-- The bytes that are taken before a failure. -/
def Ending.bytes : Ending → List UInt8
  | .finished => []
  | .failed begun _ => begun.bytes

theorem Line.bytes_add (l : Line) (bytes : List UInt8) :
    (l.add bytes).bytes = l.bytes ++ bytes := by
  unfold Line.add
  split
  · next h => rw [List.isEmpty_iff.mp h, List.append_nil]
  · rfl

theorem bytes_cutLines (begun : Line) (held bytes : List UInt8) :
    lineBytes (cutLines begun held bytes).1 ++ (cutLines begun held bytes).2.bytes =
      begun.bytes ++ held.reverse ++ bytes := by
  induction bytes generalizing begun held with
  | nil => rw [cutLines, Line.bytes_add, List.append_nil]; rfl
  | cons b bs ih =>
    rw [cutLines]
    split
    · -- the line ends here, and the next one begins with nothing held
      rw [lineBytes, List.flatMap_cons, List.append_assoc]
      have hrest := ih {} []
      rw [lineBytes] at hrest
      rw [hrest, Line.bytes_add]
      simp
    · rw [ih, List.reverse_cons]
      simp

/-- Each line that ends within a buffer ends with a newline. -/
theorem endsLine_of_mem_cutLines {begun l : Line} {held bytes : List UInt8}
    (h : l ∈ (cutLines begun held bytes).1) : EndsLine l.bytes := by
  induction bytes generalizing begun held with
  | nil => cases h
  | cons b bs ih =>
    rw [cutLines] at h
    split at h
    · next hb =>
      rcases List.mem_cons.mp h with rfl | h
      · intro c hc
        rw [Line.bytes_add, List.reverse_cons, ← List.append_assoc,
          List.getLast?_append] at hc
        cases hc
        exact hb
      · exact ih h
    · exact ih h

theorem Lined.of_endsLine {ending : Ending} {ahead : List UInt8} {lines : List Line}
    (h : Lined ending [] lines) (ha : EndsLine ahead) : Lined ending ahead lines := by
  cases lines with
  | nil => exact fun _ => ha
  | cons line lines => exact ⟨ha, h.2⟩

theorem Lined.append {ending : Ending} {front lines : List Line}
    (hf : ∀ l ∈ front, EndsLine l.bytes) (h : Lined ending [] lines) :
    Lined ending [] (front ++ lines) := by
  induction front with
  | nil => exact h
  | cons l front ih =>
    refine ⟨endsLine_nil, ?_⟩
    exact (ih fun l hl => hf l (List.mem_cons_of_mem _ hl)).of_endsLine (hf l List.mem_cons_self)

/-- Lines that are read from buffers end with a newline wherever more is to come. -/
theorem lined_after (begun : Line) (failure : Option String) (buffers : List (List UInt8)) :
    Lined (Source.after begun failure buffers).ending []
      (Source.after begun failure buffers).lines := by
  induction buffers generalizing begun with
  | nil =>
    cases failure with
    | some message => exact fun _ => endsLine_nil
    | none =>
      rw [Source.after]
      split
      · exact fun _ => endsLine_nil
      · exact ⟨endsLine_nil, fun hf => absurd rfl hf⟩
  | cons buffer buffers ih => exact (ih _).append fun l hl => endsLine_of_mem_cutLines hl

/-- Reading buffers line by line takes all of their bytes in order. -/
theorem bytes_after (begun : Line) (failure : Option String) (buffers : List (List UInt8)) :
    lineBytes (Source.after begun failure buffers).lines ++
        (Source.after begun failure buffers).ending.bytes =
      begun.bytes ++ buffers.flatten := by
  induction buffers generalizing begun with
  | nil =>
    cases failure with
    | some message => simp [Source.after, lineBytes, Ending.bytes]
    | none =>
      rw [Source.after]
      split
      · next h => simp [lineBytes, Ending.bytes, List.isEmpty_iff.mp h]
      · simp [lineBytes, Ending.bytes]
  | cons buffer buffers ih =>
    have hcut := bytes_cutLines begun [] buffer
    rw [List.reverse_nil, List.append_nil] at hcut
    rw [Source.after, lineBytes, List.flatMap_append, List.append_assoc, List.flatten_cons,
      ← List.append_assoc begun.bytes, ← hcut, List.append_assoc, ← ih]
    rfl

theorem ending_after (begun : Line) (buffers : List (List UInt8)) :
    (Source.after begun none buffers).ending = .finished := by
  induction buffers generalizing begun with
  | nil => rfl
  | cons buffer buffers ih => exact ih _

/-- A splitter that reads buffers delivers what one pass over all of their bytes cuts off. -/
theorem deliveries_ofBuffers (d : Dialect) (buffers : List (List UInt8)) :
    Deliveries d {} (Source.ofBuffers buffers none) (pieces d buffers.flatten) none := by
  have hl := lined_after {} none buffers
  have hb := bytes_after {} none buffers
  rw [ending_after] at hl hb
  have hd := deliveries_pass (d := d) hl
  rw [Ending.bytes, List.append_nil, List.nil_append] at hb
  rw [List.nil_append, hb, ← ending_after {} buffers] at hd
  exact hd

/-! ### How much is delivered -/

/-- How many bytes are left behind a text that a search answers with: one less than there were
    before, for the semicolon, or none at all. -/
theorem Splitter.search_size {d : Dialect} {ending : Ending} {mode : Mode}
    {seen ahead text : List UInt8} {taken : List Nat} {lines : List Line}
    (h : (search d mode seen ahead ending taken lines).delivery = .text text) :
    text.length + 1 + ((search d mode seen ahead ending taken lines).splitter.size +
        (search d mode seen ahead ending taken lines).source.size) =
      seen.length + ahead.length + (lineBytes lines).length ∨
    text.length = seen.length + ahead.length + (lineBytes lines).length ∧
      (search d mode seen ahead ending taken lines).splitter = {} ∧
      (search d mode seen ahead ending taken lines).source = ⟨[], .finished⟩ := by
  induction lines generalizing mode seen ahead taken with
  | nil =>
    rw [search] at h ⊢
    cases hc : cut d mode seen ahead with
    | found text' rest =>
      rw [hc] at h
      cases h
      have hlen := cut_found_length hc
      -- the semicolon is neither in the text nor left
      left
      simp only [Splitter.size, Source.size, lineBytes, List.flatMap_nil, List.length_nil]
      omega
    | unfinished mode' seen' =>
      rw [hc] at h
      have hlen := cut_unfinished_length hc
      cases ending with
      | failed begun message => cases h
      | finished =>
        dsimp only at h ⊢
        split at h
        · cases h
        · cases h
          -- the last text has all the bytes, and no semicolon was taken
          right
          refine ⟨?_, rfl, rfl⟩
          rw [List.length_reverse, hlen]
          rfl
  | cons line lines ih =>
    rw [search] at h ⊢
    cases hc : cut d mode seen ahead with
    | found text' rest =>
      rw [hc] at h
      cases h
      have hlen := cut_found_length hc
      left
      simp only [Splitter.size, Source.size, lineBytes, List.length_nil]
      omega
    | unfinished mode' seen' =>
      rw [hc] at h
      have hlen := cut_unfinished_length hc
      dsimp only at h ⊢
      have hrest := ih h
      rw [hlen, Nat.add_assoc _ line.bytes.length] at hrest
      rw [lineBytes, List.flatMap_cons, List.length_append]
      exact hrest

/-- How many bytes are left behind a text that is delivered. -/
theorem Splitter.next_size {d : Dialect} {s : Splitter} {source : Source} {text : List UInt8}
    (h : (s.next d source).delivery = .text text) :
    text.length + 1 + ((s.next d source).splitter.size + (s.next d source).source.size) =
      s.size + source.size ∨
    text.length = s.size + source.size ∧
      (s.next d source).splitter = {} ∧ (s.next d source).source = ⟨[], .finished⟩ :=
  search_size h

/-- Nothing more is delivered at the end. -/
theorem Deliveries.eq_of_drained {d : Dialect} {texts : List (List UInt8)}
    {failure : Option String} (h : Deliveries d {} ⟨[], .finished⟩ texts failure) :
    texts = [] ∧ failure = none := by
  cases h with
  | finished => exact ⟨rfl, rfl⟩
  | failed h => cases h
  | text h => cases h

/-- Each text that is delivered takes a byte more than it has, except for the last one, and a
    failure takes none. -/
theorem Deliveries.size {d : Dialect} {s : Splitter} {source : Source}
    {texts : List (List UInt8)} {failure : Option String}
    (h : Deliveries d s source texts failure) :
    texts.flatten.length + texts.length + failure.toList.length ≤ s.size + source.size + 1 := by
  induction h with
  | finished h => simp
  | failed h => simp
  | @text s source text texts failure h rest ih =>
    rw [List.flatten_cons, List.length_append, List.length_cons]
    rcases Splitter.next_size h with hlen | ⟨hlen, hsplitter, hsource⟩
    · omega
    · -- a text without a semicolon is the last one
      rw [hsplitter, hsource] at rest
      obtain ⟨rfl, rfl⟩ := rest.eq_of_drained
      simp only [List.flatten_nil, Option.toList_none, List.length_nil]
      omega

/-- What a splitter delivers comes to an end. -/
theorem deliveries_exist (d : Dialect) (s : Splitter) (source : Source) :
    ∃ texts failure, Deliveries d s source texts failure := by
  induction hn : s.size + source.size using Nat.strongRecOn generalizing s source with
  | ind n ih =>
    cases hd : (s.next d source).delivery with
    | finished => exact ⟨[], none, .finished hd⟩
    | failed message => exact ⟨[], some message, .failed hd⟩
    | text text =>
      -- A semicolon makes what is left smaller. A last text leaves nothing, and needs no induction.
      rcases Splitter.next_size hd with hlen | ⟨-, hsplitter, hsource⟩
      · obtain ⟨texts, failure, hrest⟩ := ih _ (by omega) (s.next d source).splitter
          (s.next d source).source rfl
        exact ⟨text :: texts, failure, .text hd hrest⟩
      · refine ⟨[text], none, .text hd ?_⟩
        rw [hsplitter, hsource]
        exact .drained d

end QueryAudit
