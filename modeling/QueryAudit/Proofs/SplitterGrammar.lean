import QueryAudit.Proofs.Rejoining
import QueryAudit.Text.Utf8

/-!
# The lexical grammar of the splitter

To the splitter a statement is made of quoted runs, comments and single bytes. Its automaton leaves
code behind the first byte of a quoted run or a comment and comes back behind the last one, so it
is in code, with no semicolon passed, behind a row of such lexemes and nowhere else. A semicolon
thus ends a statement if and only if what stands before it is a row of lexemes.
-/

namespace QueryAudit

namespace Splitter

variable {d : Dialect}

/-! ### Lexemes -/

/-- Whether a backslash takes the next byte with it within quotes of a kind: never in back
    quotes. -/
def Escapes (d : Dialect) (quote : UInt8) : Prop :=
  d.backslashEscapes = true ∧ quote ≠ 96

/-- What may stand within quotes of a kind: no quote, unless a backslash takes it with it. -/
inductive Enclosed (d : Dialect) (quote : UInt8) : List UInt8 → Prop
  | nil : Enclosed d quote []
  | plain {b : UInt8} {body : List UInt8} (hb : b ≠ quote) (he : ¬(b = 92 ∧ Escapes d quote))
      (h : Enclosed d quote body) : Enclosed d quote (b :: body)
  | escaped (he : Escapes d quote) (b : UInt8) {body : List UInt8} (h : Enclosed d quote body) :
      Enclosed d quote (92 :: b :: body)

/-- A lexeme before a byte or the end: a quoted run, a comment from `--` or `#` through the end of
    its line, a comment from a slash and a star through the first star and slash behind them, or a
    byte that neither opens one of these nor ends a statement. -/
inductive Lexeme (d : Dialect) (next : Option UInt8) : List UInt8 → Prop
  | quoted {quote : UInt8} {body : List UInt8} (hq : Mode.isQuote quote = true)
      (h : Enclosed d quote body) : Lexeme d next (quote :: (body ++ [quote]))
  | dashes {body : List UInt8} (h : newline ∉ body) :
      Lexeme d next (45 :: 45 :: (body ++ [newline]))
  | hash {body : List UInt8} (hd : d.hashComments = true) (h : newline ∉ body) :
      Lexeme d next (35 :: (body ++ [newline]))
  | block {body : List UInt8} (h : ¬[42, 47] <:+: body) :
      Lexeme d next (47 :: 42 :: (body ++ [42, 47]))
  | single {b : UInt8} (hs : b ≠ Mode.semicolon) (hq : Mode.isQuote b = false)
      (hdash : ¬(b = 45 ∧ next = some 45)) (hhash : ¬(b = 35 ∧ d.hashComments = true))
      (hslash : ¬(b = 47 ∧ next = some 42)) : Lexeme d next [b]

/-- Lexemes one behind the other. -/
inductive Lexemes (d : Dialect) : List UInt8 → Prop
  | nil : Lexemes d []
  | append {l rest : List UInt8} (h : Lexeme d rest.head? l) (hs : Lexemes d rest) :
      Lexemes d (l ++ rest)

/-! ### Looking at one byte -/

theorem cut_code {b : UInt8} (hb : b ≠ Mode.semicolon) (seen bs : List UInt8) :
    cut d .code seen (b :: bs) = cut d (Mode.afterCode d b bs.head?) (b :: seen) bs := by
  rw [cut, if_neg (by simpa using hb)]
  rfl

theorem cut_quoted (quote : UInt8) (seen : List UInt8) (b : UInt8) (bs : List UInt8) :
    cut d (.quoted quote) seen (b :: bs) = cut d (Mode.afterQuoted d quote b) (b :: seen) bs := rfl

theorem cut_escaped (quote : UInt8) (seen : List UInt8) (b : UInt8) (bs : List UInt8) :
    cut d (.escaped quote) seen (b :: bs) = cut d (.quoted quote) (b :: seen) bs := rfl

theorem cut_lineComment (seen : List UInt8) (b : UInt8) (bs : List UInt8) :
    cut d .lineComment seen (b :: bs) =
      cut d (if b = newline then .code else .lineComment) (b :: seen) bs := rfl

theorem cut_blockComment (seen : List UInt8) (b : UInt8) (bs : List UInt8) :
    cut d .blockComment seen (b :: bs) =
      cut d (if b = 42 && bs.head? = some 47 then .blockCloser else .blockComment) (b :: seen) bs :=
  rfl

theorem afterCode_single {b : UInt8} {next : Option UInt8} (hq : Mode.isQuote b = false)
    (hdash : ¬(b = 45 ∧ next = some 45)) (hhash : ¬(b = 35 ∧ d.hashComments = true))
    (hslash : ¬(b = 47 ∧ next = some 42)) : Mode.afterCode d b next = .code := by
  rw [Mode.afterCode, if_neg (by simp [hq]), if_neg (by simpa using hdash),
    if_neg (by simpa using hhash), if_neg (by simpa using hslash)]

theorem afterCode_hash (hd : d.hashComments = true) (next : Option UInt8) :
    Mode.afterCode d 35 next = .lineComment := by
  simp [Mode.afterCode, Mode.isQuote, hd]

/-- What a byte of code opens, if anything. -/
theorem afterCode_cases (d : Dialect) (b : UInt8) (next : Option UInt8) :
    (Mode.isQuote b = true ∧ Mode.afterCode d b next = .quoted b) ∨
    (b = 45 ∧ next = some 45 ∧ Mode.afterCode d b next = .lineOpener) ∨
    (b = 35 ∧ d.hashComments = true ∧ Mode.afterCode d b next = .lineComment) ∨
    (b = 47 ∧ next = some 42 ∧ Mode.afterCode d b next = .blockOpener) ∨
    (Mode.isQuote b = false ∧ ¬(b = 45 ∧ next = some 45) ∧ ¬(b = 35 ∧ d.hashComments = true) ∧
      ¬(b = 47 ∧ next = some 42) ∧ Mode.afterCode d b next = .code) := by
  -- the automaton tries them in this order
  by_cases hq : Mode.isQuote b = true
  · exact .inl ⟨hq, if_pos hq⟩
  rw [Bool.not_eq_true] at hq
  by_cases hdash : b = 45 ∧ next = some 45
  · obtain ⟨rfl, rfl⟩ := hdash
    exact .inr (.inl ⟨rfl, rfl, rfl⟩)
  by_cases hhash : b = 35 ∧ d.hashComments = true
  · obtain ⟨rfl, hd⟩ := hhash
    exact .inr (.inr (.inl ⟨rfl, hd, afterCode_hash hd next⟩))
  by_cases hslash : b = 47 ∧ next = some 42
  · obtain ⟨rfl, rfl⟩ := hslash
    exact .inr (.inr (.inr (.inl ⟨rfl, rfl, rfl⟩)))
  · exact .inr (.inr (.inr (.inr
      ⟨hq, hdash, hhash, hslash, afterCode_single hq hdash hhash hslash⟩)))

theorem afterQuoted_self (d : Dialect) (quote : UInt8) :
    Mode.afterQuoted d quote quote = .code := if_pos rfl

theorem afterQuoted_plain {quote b : UInt8} (hb : b ≠ quote) (he : ¬(b = 92 ∧ Escapes d quote)) :
    Mode.afterQuoted d quote b = .quoted quote := by
  rw [Mode.afterQuoted, if_neg hb, if_neg]
  simpa [Escapes, and_assoc] using he

theorem afterQuoted_backslash {quote : UInt8} (hq : Mode.isQuote quote = true)
    (he : Escapes d quote) : Mode.afterQuoted d quote 92 = .escaped quote := by
  have hne : (92 : UInt8) ≠ quote := by
    rintro rfl
    exact absurd hq (by decide)
  rw [Mode.afterQuoted, if_neg hne, if_pos]
  simpa [Escapes] using he

/-! ### Behind a lexeme

The automaton goes over what is within quotes or in a comment and comes back to code behind the
closing bytes. -/

theorem cut_enclosed {quote : UInt8} (hq : Mode.isQuote quote = true) {body : List UInt8}
    (h : Enclosed d quote body) (seen more : List UInt8) :
    cut d (.quoted quote) seen (body ++ quote :: more) =
      cut d .code (quote :: (body.reverse ++ seen)) more := by
  induction h generalizing seen with
  | nil => rw [List.nil_append, cut_quoted, afterQuoted_self]; rfl
  | plain hb he h ih => rw [List.cons_append, cut_quoted, afterQuoted_plain hb he, ih]; simp
  | escaped he b h ih =>
    rw [List.cons_append, List.cons_append, cut_quoted, afterQuoted_backslash hq he, cut_escaped,
      ih]
    simp

theorem cut_line {body : List UInt8} (h : newline ∉ body) (seen more : List UInt8) :
    cut d .lineComment seen (body ++ newline :: more) =
      cut d .code (newline :: (body.reverse ++ seen)) more := by
  induction body generalizing seen with
  | nil => rw [List.nil_append, cut_lineComment, if_pos rfl]; rfl
  | cons b body ih =>
    rw [List.mem_cons, not_or] at h
    rw [List.cons_append, cut_lineComment, if_neg (Ne.symm h.1), ih h.2]
    simp

theorem cut_block {body : List UInt8} (h : ¬[42, 47] <:+: body) (seen more : List UInt8) :
    cut d .blockComment seen (body ++ 42 :: 47 :: more) =
      cut d .code (47 :: 42 :: (body.reverse ++ seen)) more := by
  induction body generalizing seen with
  | nil => rfl
  | cons b body ih =>
    -- a closer that begins here would be in the body, since none begins at its last byte
    have hcloser : ¬(b = 42 && (body ++ 42 :: 47 :: more).head? = some 47) = true := by
      rintro hb
      cases body with
      | nil => simp at hb
      | cons x xs =>
        obtain ⟨rfl, rfl⟩ : b = 42 ∧ x = 47 := by simpa using hb
        exact h (List.prefix_append [42, 47] xs).isInfix
    have hbody : ¬[42, 47] <:+: body := fun hin => h (hin.trans (List.suffix_cons b body).isInfix)
    rw [List.cons_append, cut_blockComment, if_neg hcloser, ih hbody]
    simp

/-- Behind a lexeme the automaton is in code again. -/
theorem cut_lexeme {rest l : List UInt8} (h : Lexeme d rest.head? l) (seen : List UInt8) :
    cut d .code seen (l ++ rest) = cut d .code (l.reverse ++ seen) rest := by
  cases h with
  | @quoted quote body hq h =>
    have hs : quote ≠ Mode.semicolon := by
      rintro rfl
      exact absurd hq (by decide)
    have hopen : Mode.afterCode d quote (body ++ quote :: rest).head? = .quoted quote := if_pos hq
    rw [List.cons_append, List.append_assoc, List.singleton_append, cut_code hs, hopen,
      cut_enclosed hq h]
    simp
  | @dashes body h =>
    have hopen : cut d .code seen (45 :: 45 :: (body ++ newline :: rest)) =
        cut d .lineComment (45 :: 45 :: seen) (body ++ newline :: rest) := rfl
    rw [List.cons_append, List.cons_append, List.append_assoc, List.singleton_append, hopen,
      cut_line h]
    simp
  | @hash body hd h =>
    rw [List.cons_append, List.append_assoc, List.singleton_append, cut_code (by decide),
      afterCode_hash hd, cut_line h]
    simp
  | @block body h =>
    have hopen : cut d .code seen (47 :: 42 :: (body ++ 42 :: 47 :: rest)) =
        cut d .blockComment (42 :: 47 :: seen) (body ++ 42 :: 47 :: rest) := by
      rfl
    rw [List.cons_append, List.cons_append, List.append_assoc, List.cons_append,
      List.singleton_append, hopen, cut_block h]
    simp
  | @single b hs hq hdash hhash hslash =>
    rw [List.singleton_append, cut_code hs, afterCode_single hq hdash hhash hslash]
    rfl

/-- A row of lexemes leaves code open, and no statement ends in it. -/
theorem cut_lexemes {text : List UInt8} (h : Lexemes d text) (seen : List UInt8) :
    cut d .code seen text = .unfinished .code (text.reverse ++ seen) := by
  induction h generalizing seen with
  | nil => rfl
  | append h hs ih => rw [cut_lexeme h, ih, List.reverse_append, List.append_assoc]

/-! ### Lexemes from the automaton

Where the automaton comes back to code from within quotes or from a comment, it passed the closing
bytes for the first time. -/

theorem exists_enclosed {quote : UInt8} {seen' : List UInt8} :
    ∀ {seen bs : List UInt8}, cut d (.quoted quote) seen bs = .unfinished .code seen' →
      ∃ body rest, bs = body ++ quote :: rest ∧ Enclosed d quote body ∧
        ∃ passed, cut d .code passed rest = .unfinished .code seen'
  | _, [], h => by cases h
  | seen, b :: bs, h => by
    rw [cut_quoted] at h
    by_cases hb : b = quote
    · subst hb
      rw [afterQuoted_self] at h
      exact ⟨[], bs, rfl, .nil, _, h⟩
    by_cases he : b = 92 ∧ Escapes d quote
    · obtain ⟨rfl, he⟩ := he
      have hmode : Mode.afterQuoted d quote 92 = .escaped quote := by
        rw [Mode.afterQuoted, if_neg hb, if_pos]
        simpa [Escapes] using he
      rw [hmode] at h
      cases bs with
      | nil =>
        -- a backslash at the end leaves the quotes open
        cases h
      | cons c cs =>
        rw [cut_escaped] at h
        obtain ⟨body, rest, rfl, hbody, hrest⟩ := exists_enclosed h
        exact ⟨92 :: c :: body, rest, rfl, .escaped he c hbody, hrest⟩
    · rw [afterQuoted_plain hb he] at h
      obtain ⟨body, rest, rfl, hbody, hrest⟩ := exists_enclosed h
      exact ⟨b :: body, rest, rfl, .plain hb he hbody, hrest⟩

theorem exists_line {seen seen' bs : List UInt8}
    (h : cut d .lineComment seen bs = .unfinished .code seen') :
    ∃ body rest, bs = body ++ newline :: rest ∧ newline ∉ body ∧
      ∃ passed, cut d .code passed rest = .unfinished .code seen' := by
  induction bs generalizing seen with
  | nil => cases h
  | cons b bs ih =>
    rw [cut_lineComment] at h
    split at h
    · next hb =>
      subst hb
      exact ⟨[], bs, rfl, List.not_mem_nil, _, h⟩
    · next hb =>
      obtain ⟨body, rest, rfl, hbody, hrest⟩ := ih h
      exact ⟨b :: body, rest, rfl, List.not_mem_cons_of_ne_of_not_mem (Ne.symm hb) hbody, hrest⟩

theorem exists_block {seen seen' bs : List UInt8}
    (h : cut d .blockComment seen bs = .unfinished .code seen') :
    ∃ body rest, bs = body ++ 42 :: 47 :: rest ∧ ¬[42, 47] <:+: body ∧
      ∃ passed, cut d .code passed rest = .unfinished .code seen' := by
  induction bs generalizing seen with
  | nil => cases h
  | cons b bs ih =>
    rw [cut_blockComment] at h
    split at h
    · next hb =>
      obtain ⟨rfl, hnext⟩ : b = 42 ∧ bs.head? = some 47 := by simpa using hb
      obtain ⟨rest, rfl⟩ := List.head?_eq_some_iff.mp hnext
      exact ⟨[], rest, rfl, by decide, _, h⟩
    · next hb =>
      obtain ⟨body, rest, rfl, hbody, hrest⟩ := ih h
      refine ⟨b :: body, rest, rfl, fun hin => ?_, hrest⟩
      -- were `*/` in the body from its first byte on, then the comment would have ended there
      rcases List.infix_cons_iff.mp hin with hprefix | hin
      · obtain ⟨rest', hrest'⟩ := hprefix
        cases hrest'
        exact hb rfl
      · exact hbody hin

/-- If the automaton is in code at the end, it began with a lexeme. -/
theorem exists_lexeme {b : UInt8} {seen seen' bs : List UInt8}
    (h : cut d .code seen (b :: bs) = .unfinished .code seen') :
    ∃ l rest, b :: bs = l ++ rest ∧ rest.length ≤ bs.length ∧ Lexeme d rest.head? l ∧
      ∃ passed, cut d .code passed rest = .unfinished .code seen' := by
  have hs : b ≠ Mode.semicolon := by
    rintro rfl
    cases h
  rw [cut_code hs] at h
  -- the first byte says which lexeme it is, and being in code at the end that it is closed
  rcases afterCode_cases d b bs.head? with ⟨hq, hmode⟩ | ⟨rfl, hnext, hmode⟩ | ⟨rfl, hd, hmode⟩ |
    ⟨rfl, hnext, hmode⟩ | ⟨hq, hdash, hhash, hslash, hmode⟩
  · rw [hmode] at h
    obtain ⟨body, rest, rfl, hbody, hrest⟩ := exists_enclosed h
    exact ⟨b :: (body ++ [b]), rest, by simp, by simp; omega, .quoted hq hbody, hrest⟩
  · rw [hmode] at h
    obtain ⟨cs, rfl⟩ := List.head?_eq_some_iff.mp hnext
    have hline : cut d .lineComment (45 :: 45 :: seen) cs = .unfinished .code seen' := h
    obtain ⟨body, rest, rfl, hbody, hrest⟩ := exists_line hline
    exact ⟨45 :: 45 :: (body ++ [newline]), rest, by simp, by simp; omega, .dashes hbody, hrest⟩
  · rw [hmode] at h
    obtain ⟨body, rest, rfl, hbody, hrest⟩ := exists_line h
    exact ⟨35 :: (body ++ [newline]), rest, by simp, by simp; omega, .hash hd hbody, hrest⟩
  · rw [hmode] at h
    obtain ⟨cs, rfl⟩ := List.head?_eq_some_iff.mp hnext
    have hblock : cut d .blockComment (42 :: 47 :: seen) cs = .unfinished .code seen' := h
    obtain ⟨body, rest, rfl, hbody, hrest⟩ := exists_block hblock
    exact ⟨47 :: 42 :: (body ++ [42, 47]), rest, by simp, by simp; omega, .block hbody, hrest⟩
  · rw [hmode] at h
    exact ⟨[b], bs, rfl, Nat.le_refl _, .single hs hq hdash hhash hslash, _, h⟩

/-- If the automaton is in code at the end, it passed a row of lexemes. -/
theorem lexemes_of_cut {seen seen' text : List UInt8}
    (h : cut d .code seen text = .unfinished .code seen') : Lexemes d text := by
  -- on the number of bytes, of which each lexeme takes some
  induction hn : text.length using Nat.strongRecOn generalizing seen text with
  | ind n ih =>
    cases text with
    | nil => exact .nil
    | cons b bs =>
      obtain ⟨l, rest, hsplit, hlen, hl, passed, hrest⟩ := exists_lexeme h
      rw [hsplit]
      refine .append hl (ih rest.length ?_ hrest rfl)
      rw [← hn, List.length_cons]
      omega

/-- Closed texts are rows of lexemes. -/
theorem lexemes_iff_closed {text : List UInt8} : Lexemes d text ↔ Closed d text :=
  ⟨fun h => ⟨_, cut_lexemes h []⟩, fun ⟨_, h⟩ => lexemes_of_cut h⟩

end Splitter

/-! ### Places -/

/-- From one place to another there is a row of lexemes, and then a semicolon. -/
def EndOf (d : Dialect) (w : List UInt8) (j i : Nat) : Prop :=
  j ≤ i ∧ w[i]? = some Mode.semicolon ∧ Splitter.Lexemes d (w.extract j i)

/-- Where texts begin and end that stand one behind the other from a place on, with a byte behind
    each. -/
def spans (start : Nat) : List (List UInt8) → List (Nat × Nat)
  | [] => []
  | text :: texts => (start, start + text.length) :: spans (start + text.length + 1) texts

/-- One of the texts stands between two places, and has a semicolon behind it. -/
def EndsAt (w : List UInt8) (start : Nat) (texts : List (List UInt8)) (j i : Nat) : Prop :=
  (j, i) ∈ spans start texts ∧ w[i]? = some Mode.semicolon

/-- A text is to begin at a place: the first one, or one behind the semicolon of a text. -/
def StartsAt (w : List UInt8) (start : Nat) (texts : List (List UInt8)) (j : Nat) : Prop :=
  j = start ∨ ∃ k i, EndsAt w start texts k i ∧ j = i + 1

/-- Texts are what the grammar makes of some bytes from a place on. -/
structure ByLexemes (d : Dialect) (w : List UInt8) (start : Nat) (texts : List (List UInt8)) :
    Prop where
  /-- They are the bytes of the places where they stand. -/
  texts_eq : texts = (spans start texts).map fun s => w.extract s.1 s.2
  /-- A semicolon ends a text if and only if there is a row of lexemes before it, from where a text
      is to begin. -/
  endsAt_iff : ∀ j i, EndsAt w start texts j i ↔ StartsAt w start texts j ∧ EndOf d w j i
  /-- If there is none, the rest of the bytes is the last text, unless it is empty. -/
  last : ∀ j, StartsAt w start texts j → (∀ i, ¬EndOf d w j i) →
    ∃ front, (∀ s ∈ front, EndsAt w start texts s.1 s.2) ∧
      spans start texts = front ++ if j = w.length then [] else [(j, w.length)]

section Places

variable {d : Dialect} {w : List UInt8} {start : Nat}

/-- The place of a semicolon by the bytes before and behind it. -/
theorem endOf_iff {j i : Nat} :
    EndOf d w j i ↔ ∃ text rest, w.drop j = text ++ Mode.semicolon :: rest ∧
      i = j + text.length ∧ Closed d text := by
  constructor
  · rintro ⟨hji, hsemicolon, hlex⟩
    obtain ⟨hi, hget⟩ := List.getElem?_eq_some_iff.mp hsemicolon
    refine ⟨w.extract j i, w.drop (i + 1), ?_, ?_, Splitter.lexemes_iff_closed.mp hlex⟩
    · -- the bytes from `j` on are those up to `i`, the semicolon at `i`, and the rest
      rw [← hget, ← List.drop_eq_getElem_cons hi, List.extract_eq_take_drop]
      have hdrop : w.drop i = (w.drop j).drop (i - j) := by
        rw [List.drop_drop, Nat.add_sub_cancel' hji]
      rw [hdrop, List.take_append_drop]
    · rw [List.extract_eq_take_drop, List.length_take, List.length_drop]
      omega
  · rintro ⟨text, rest, hdrop, rfl, hclosed⟩
    refine ⟨Nat.le_add_right _ _, ?_, ?_⟩
    · rw [← List.getElem?_drop, hdrop, List.getElem?_append_right (Nat.le_refl _), Nat.sub_self]
      rfl
    · rw [List.extract_eq_take_drop, Nat.add_sub_cancel_left, hdrop, List.take_left]
      exact Splitter.lexemes_iff_closed.mpr hclosed

theorem endsAt_cons {text : List UInt8} {texts : List (List UInt8)}
    (hs : w[start + text.length]? = some Mode.semicolon) {j i : Nat} :
    EndsAt w start (text :: texts) j i ↔
      j = start ∧ i = start + text.length ∨ EndsAt w (start + text.length + 1) texts j i := by
  simp only [EndsAt, spans, List.mem_cons, Prod.mk.injEq]
  constructor
  · rintro ⟨⟨rfl, rfl⟩ | hmem, hi⟩
    · exact .inl ⟨rfl, rfl⟩
    · exact .inr ⟨hmem, hi⟩
  · rintro (⟨rfl, rfl⟩ | ⟨hmem, hi⟩)
    · exact ⟨.inl ⟨rfl, rfl⟩, hs⟩
    · exact ⟨.inr hmem, hi⟩

theorem startsAt_cons {text : List UInt8} {texts : List (List UInt8)}
    (hs : w[start + text.length]? = some Mode.semicolon) {j : Nat} :
    StartsAt w start (text :: texts) j ↔
      j = start ∨ StartsAt w (start + text.length + 1) texts j := by
  simp only [StartsAt, endsAt_cons hs]
  constructor
  · rintro (rfl | ⟨k, i, ⟨rfl, rfl⟩ | hends, rfl⟩)
    · exact .inl rfl
    · exact .inr (.inl rfl)
    · exact .inr (.inr ⟨k, i, hends, rfl⟩)
  · rintro (rfl | rfl | ⟨k, i, hends, rfl⟩)
    · exact .inl rfl
    · exact .inr ⟨start, start + text.length, .inl ⟨rfl, rfl⟩, rfl⟩
    · exact .inr ⟨k, i, .inr hends, rfl⟩

theorem byLexemes_nil (h : w.drop start = []) (hstart : start ≤ w.length) :
    ByLexemes d w start [] := by
  have hends (j i : Nat) : ¬EndsAt w start [] j i := fun h => List.not_mem_nil h.1
  have hlen : start = w.length := Nat.le_antisymm hstart (List.drop_eq_nil_iff.mp h)
  refine ⟨rfl, fun j i => ⟨fun h => absurd h (hends j i), ?_⟩, ?_⟩
  · rintro ⟨rfl | ⟨k, i', hk, -⟩, hend⟩
    · obtain ⟨text, rest, hdrop, -⟩ := endOf_iff.mp hend
      rw [h] at hdrop
      simp at hdrop
    · exact absurd hk (hends k i')
  · rintro j (rfl | ⟨k, i', hk, -⟩) -
    · exact ⟨[], by simp, by rw [if_pos hlen]; rfl⟩
    · exact absurd hk (hends k i')

theorem byLexemes_last {rest : List UInt8} (h : w.drop start = rest) (hne : rest ≠ [])
    (hrest : Unended d rest) : ByLexemes d w start [rest] := by
  have hlen : start + rest.length = w.length := by
    have hpos := List.length_pos_iff.mpr hne
    rw [← h, List.length_drop] at hpos ⊢
    omega
  -- the last span goes to the end of the bytes, so no semicolon stands behind it
  have hends (j i : Nat) : ¬EndsAt w start [rest] j i := by
    rintro ⟨hmem, hi⟩
    obtain ⟨rfl, rfl⟩ : j = start ∧ i = start + rest.length := by simpa [spans] using hmem
    rw [hlen, List.getElem?_eq_none (Nat.le_refl _)] at hi
    cases hi
  have hend (i : Nat) : ¬EndOf d w start i := by
    intro hi
    obtain ⟨text, more, hdrop, -, hclosed⟩ := endOf_iff.mp hi
    exact unended_iff.mp hrest text more (h ▸ hdrop) hclosed
  refine ⟨?_, fun j i => ⟨fun h => absurd h (hends j i), ?_⟩, ?_⟩
  · rw [spans, List.map_cons, List.extract_eq_take_drop, Nat.add_sub_cancel_left, h,
      List.take_length]
    rfl
  · rintro ⟨rfl | ⟨k, i', hk, -⟩, hi⟩
    · exact absurd hi (hend i)
    · exact absurd hk (hends k i')
  · rintro j (rfl | ⟨k, i', hk, -⟩) -
    · refine ⟨[], by simp, ?_⟩
      have hpos := List.length_pos_iff.mpr hne
      rw [if_neg (by omega), spans, hlen]
      rfl
    · exact absurd hk (hends k i')

theorem byLexemes_cons {text more : List UInt8} {texts : List (List UInt8)}
    (h : w.drop start = text ++ Mode.semicolon :: more) (hclosed : Closed d text)
    (hmore : ByLexemes d w (start + text.length + 1) texts) :
    ByLexemes d w start (text :: texts) := by
  have hend : EndOf d w start (start + text.length) :=
    endOf_iff.mpr ⟨text, more, h, rfl, hclosed⟩
  have hs := hend.2.1
  refine ⟨?_, fun j i => ?_, fun j hj hno => ?_⟩
  · rw [spans, List.map_cons, ← hmore.texts_eq, List.extract_eq_take_drop,
      Nat.add_sub_cancel_left, h, List.take_left]
  · rw [endsAt_cons hs, startsAt_cons hs, hmore.endsAt_iff]
    constructor
    · rintro (⟨rfl, rfl⟩ | ⟨hstarts, hi⟩)
      · exact ⟨.inl rfl, hend⟩
      · exact ⟨.inr hstarts, hi⟩
    · rintro ⟨rfl | hstarts, hi⟩
      · -- from one place there is one end only, since closed texts are unique
        obtain ⟨text', rest', hdrop, rfl, hclosed'⟩ := endOf_iff.mp hi
        obtain ⟨rfl, -⟩ := hclosed.unique hclosed' (h.symm.trans hdrop)
        exact .inl ⟨rfl, rfl⟩
      · exact .inr ⟨hstarts, hi⟩
  · rcases (startsAt_cons hs).mp hj with rfl | hj
    · exact absurd hend (hno _)
    · obtain ⟨front, hfront, hspans⟩ := hmore.last j hj hno
      refine ⟨(start, start + text.length) :: front, ?_, ?_⟩
      · intro s hmem
        rw [endsAt_cons hs]
        rcases List.mem_cons.mp hmem with rfl | hmem
        · exact .inl ⟨rfl, rfl⟩
        · exact .inr (hfront s hmem)
      · rw [spans, hspans, List.cons_append]

theorem byLexemes_pieces (bytes : List UInt8) :
    ∀ {start : Nat}, start ≤ w.length → w.drop start = bytes →
      ByLexemes d w start (pieces d bytes) := by
  induction bytes using pieces_induction (d := d) with
  | nil => exact fun hstart h => byLexemes_nil h hstart
  | last rest hne hrest => exact fun _ h => byLexemes_last h hne hrest
  | ended text more hclosed ih =>
    intro start hstart h
    have hmore : w.drop (start + text.length + 1) = more := by
      rw [Nat.add_assoc, ← List.drop_drop, h]
      simp
    have hlen : start + text.length + 1 ≤ w.length := by
      have hlen := congrArg List.length h
      rw [List.length_drop, List.length_append, List.length_cons] at hlen
      omega
    exact byLexemes_cons h hclosed (ih hlen hmore)

end Places

/-- The texts that a splitter delivers, however its bytes are cut into buffers, are what the grammar
    makes of them: a semicolon ends a text that begins at a place if and only if this is the first
    place or behind the end of a text, and there is a row of lexemes from there to the semicolon;
    and from where there is none, the rest of the bytes is the last text, unless it is empty. -/
theorem splits_by_lexemes (d : Dialect) (buffers : List (List UInt8)) :
    ∃ texts, Splits d buffers texts ∧ ByLexemes d buffers.flatten 0 texts :=
  ⟨pieces d buffers.flatten, splits_pieces d buffers,
    byLexemes_pieces buffers.flatten (Nat.zero_le _) rfl⟩

/-- The star of an opener is no part of a closer. -/
example : pieces .generic (Utf8.encode "/*/;*/;a") =
    [Utf8.encode "/*/;*/", Utf8.encode "a"] := by
  decide +kernel

end QueryAudit
