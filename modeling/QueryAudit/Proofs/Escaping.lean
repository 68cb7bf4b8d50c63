import Mathlib.Data.List.Chain
import QueryAudit.Sql.Lexer
import QueryAudit.Sql.Literal

/-!
# Texts between quotes, written and read back

The lexer takes a doubled quote for one and, where the dialect has escapes, a backslash and the
character behind it for one character. So a text reads back if each quote in it is doubled, and each
backslash where there are escapes. Canonical text doubles a quote only if neither another quote nor
a backslash stands before it, and never doubles a backslash.
-/

namespace QueryAudit.Sql

/-- A character as it has to be written between quotes. -/
def writtenChar (escapes : Bool) (q c : Char) : List Char :=
  if c = q then [q, q] else if escapes && c = '\\' then ['\\', '\\'] else [c]

/-- A text as it has to be written between quotes. -/
def written (escapes : Bool) (q : Char) (text : List Char) : List Char :=
  text.flatMap (writtenChar escapes q)

/-- Texts without two quotes in a row and without a quote behind a backslash, and without any
    backslash if it would escape. -/
structure Rereads (escapes : Bool) (q : Char) (text : List Char) : Prop where
  apart : text.IsChain fun a b => b = q → a ≠ q ∧ a ≠ '\\'
  plain : escapes = true → '\\' ∉ text

variable {escapes : Bool} {q : Char}

theorem writtenChar_quote : writtenChar escapes q q = [q, q] :=
  if_pos rfl

theorem writtenChar_plain {c : Char} (hc : c ≠ q) (h : ¬(escapes && c = '\\') = true) :
    writtenChar escapes q c = [c] := by
  rw [writtenChar, if_neg hc, if_neg h]

theorem written_cons (c : Char) (text : List Char) :
    written escapes q (c :: text) = writtenChar escapes q c ++ written escapes q text :=
  List.flatMap_cons

/-! ### Reading what is written -/

namespace Lexer

theorem quotedBody_writtenChar (c : Char) (v done : List Char) (taken : Nat) :
    quotedBody escapes q done taken (writtenChar escapes q c ++ v) =
      quotedBody escapes q (c :: done) (taken + (writtenChar escapes q c).length) v := by
  -- a mark, an escape or a character that stands for itself
  rw [writtenChar]
  split
  · next hc =>
    subst hc
    rw [List.cons_append, List.cons_append, quotedBody, if_pos rfl]
    exact if_pos rfl
  · next hc =>
    split
    · next hesc =>
      obtain ⟨he, rfl⟩ : escapes = true ∧ c = '\\' := by simpa using hesc
      rw [List.cons_append, List.cons_append, quotedBody, if_neg hc, if_pos hesc]
      rfl
    · next hesc =>
      rw [List.singleton_append, quotedBody.eq_def]
      simp only [if_neg hc, if_neg hesc, List.length_singleton]

/-- A quote closes if no other quote follows. -/
theorem quotedBody_of_close {done v : List Char} {taken : Nat} (hv : v.head? ≠ some q) :
    quotedBody escapes q done taken (q :: v) = some (done.reverse, taken + 1) := by
  cases v with
  | nil => simp [quotedBody]
  | cons a v =>
    rw [List.head?_cons, ne_eq, Option.some.injEq] at hv
    rw [quotedBody, if_pos rfl]
    exact if_neg hv

/-- So it does behind a string with escapes. -/
theorem escapedBody_of_close {done v : List Char} {taken : Nat} (hv : v.head? ≠ some '\'') :
    escapedBody done taken ('\'' :: v) = some (done.reverse, taken + 1) := by
  cases v with
  | nil => simp [escapedBody]
  | cons a v =>
    rw [List.head?_cons, ne_eq, Option.some.injEq] at hv
    rw [escapedBody, if_pos rfl]
    exact if_neg hv

/-- A text that is written as it has to be reads back. -/
theorem quotedBody_written (text done : List Char) (taken : Nat) {v : List Char}
    (hv : v.head? ≠ some q) :
    quotedBody escapes q done taken (written escapes q text ++ q :: v) =
      some (done.reverse ++ text, taken + (written escapes q text).length + 1) := by
  induction text generalizing done taken with
  | nil => exact (quotedBody_of_close hv).trans (by rw [List.append_nil]; rfl)
  | cons c text ih =>
    rw [written_cons, List.append_assoc, quotedBody_writtenChar, ih, List.reverse_cons,
      List.append_assoc, List.length_append, Nat.add_assoc taken]
    rfl

end Lexer

theorem Rereads.nil : Rereads escapes q [] :=
  ⟨.nil, fun _ => List.not_mem_nil⟩

theorem Rereads.cons {c : Char} {text : List Char}
    (hbefore : text.head? = some q → c ≠ q ∧ c ≠ '\\') (hplain : escapes = true → c ≠ '\\')
    (h : Rereads escapes q text) : Rereads escapes q (c :: text) where
  apart := by
    cases text with
    | nil => exact .singleton c
    | cons b text =>
      exact List.isChain_cons_cons.mpr ⟨fun hb => hbefore (congrArg some hb), h.apart⟩
  plain he hmem := by
    rcases List.mem_cons.mp hmem with hc | hmem
    · exact hplain he hc.symm
    · exact h.plain he hmem

theorem Rereads.tail {c : Char} {text : List Char} (h : Rereads escapes q (c :: text)) :
    Rereads escapes q text :=
  ⟨h.apart.of_cons, fun he hmem => h.plain he (.tail c hmem)⟩

/-- What stands before a quote. -/
theorem Rereads.before {c : Char} {text : List Char} (h : Rereads escapes q (c :: text))
    (hq : text.head? = some q) : c ≠ q ∧ c ≠ '\\' := by
  obtain ⟨text, rfl⟩ := List.head?_eq_some_iff.mp hq
  exact (List.isChain_cons_cons.mp h.apart).1 rfl

/-- The canonical text of such a text is written as it has to be. -/
theorem Rereads.escapeQuotes_eq {text : List Char} (h : Rereads escapes q text) {previous : Char}
    (hprevious : text.head? = some q → previous ≠ '\\') :
    escapeQuotes q previous text = written escapes q text := by
  fun_induction escapeQuotes q previous text with
  | case1 => rfl
  | case2 => exact absurd rfl (hprevious rfl)
  | case3 => exact absurd rfl (h.before rfl).1
  -- a mark alone is doubled; what follows it is no mark
  | case4 previous _ d ds hd ih =>
    have hhead : (d :: ds).head? = some q → q ≠ '\\' := fun heq => absurd (Option.some.inj heq) hd
    rw [ih h.tail hhead, written_cons q, writtenChar_quote]
    rfl
  | case5 => rw [written_cons, writtenChar_quote]; rfl
  | case6 previous c cs hc ih =>
    have hplain : ¬(escapes && decide (c = '\\')) = true := by
      rw [Bool.and_eq_true, decide_eq_true_eq]
      rintro ⟨he, rfl⟩
      exact h.plain he (.head cs)
    rw [ih h.tail fun heq => (h.before heq).2, written_cons, writtenChar_plain hc hplain]
    rfl

/-! ### Reading canonical text -/

theorem length_written_cons (c : Char) (text : List Char) :
    (written escapes q (c :: text)).length =
      (writtenChar escapes q c).length + (written escapes q text).length := by
  rw [written_cons, List.length_append]

theorem length_writtenChar_quote : (writtenChar escapes q q).length = 2 := by
  rw [writtenChar_quote]
  rfl

theorem length_writtenChar_le (escapes : Bool) (q c : Char) :
    (writtenChar escapes q c).length ≤ 2 := by
  unfold writtenChar
  split
  · exact Nat.le_refl 2
  · split
    · exact Nat.le_refl 2
    · exact Nat.le_succ 1

theorem length_writtenChar_pos (escapes : Bool) (q c : Char) :
    1 ≤ (writtenChar escapes q c).length := by
  unfold writtenChar
  split
  · exact Nat.le_succ 1
  · split
    · exact Nat.le_succ 1
    · exact Nat.le_refl 1

/-- Canonical text is no longer than it has to be. -/
theorem length_escapeQuotes_le (escapes : Bool) (q previous : Char) (text : List Char) :
    (escapeQuotes q previous text).length ≤ (written escapes q text).length := by
  fun_induction escapeQuotes q previous text with
  | case1 => exact Nat.zero_le _
  | case2 | case3 | case4 =>
    simp only [length_written_cons, length_writtenChar_quote, List.length_cons] at *
    omega
  | case5 =>
    rw [length_written_cons, length_writtenChar_quote]
    exact Nat.le_refl 2
  | case6 previous c cs hc ih =>
    have := length_writtenChar_pos escapes q c
    rw [length_written_cons, List.length_cons]
    omega

/-- If it is as long, nothing is left out of it. -/
theorem rereads_of_length_escapeQuotes (hq : q ≠ '\\') {previous : Char} {text : List Char}
    (h : (written escapes q text).length ≤ (escapeQuotes q previous text).length) :
    (text.head? = some q → previous ≠ '\\') ∧ Rereads escapes q text := by
  fun_induction escapeQuotes q previous text with
  | case1 => exact ⟨nofun, .nil⟩
  | case2 cs =>
    -- a quote behind a backslash is not doubled
    have := length_escapeQuotes_le escapes q '\\' cs
    simp only [length_written_cons, length_writtenChar_quote, List.length_cons] at h
    omega
  | case3 previous _ ds =>
    -- of two quotes in a row only one is
    have := length_escapeQuotes_le escapes q q ds
    simp only [length_written_cons, length_writtenChar_quote, List.length_cons] at h
    omega
  | case4 previous hprevious d ds hd ih =>
    rw [length_written_cons, length_writtenChar_quote, List.length_cons, List.length_cons] at h
    obtain ⟨-, hrest⟩ := ih (by omega)
    have hbefore : (d :: ds).head? = some q → q ≠ q ∧ q ≠ '\\' :=
      fun heq => absurd (Option.some.inj heq) hd
    exact ⟨fun _ => hprevious, .cons hbefore (fun _ => hq) hrest⟩
  | case5 previous hprevious =>
    exact ⟨fun _ => hprevious, .cons nofun (fun _ => hq) .nil⟩
  | case6 previous c cs hc ih =>
    have hpos := length_writtenChar_pos escapes q c
    rw [length_written_cons, List.length_cons] at h
    obtain ⟨hhead, hrest⟩ := ih (by omega)
    refine ⟨fun heq => absurd (Option.some.inj heq) hc, .cons (fun heq => ⟨hc, hhead heq⟩) ?_ hrest⟩
    rintro rfl rfl
    -- a backslash is not doubled
    have hle := length_escapeQuotes_le true q '\\' cs
    have hdoubled : (writtenChar true q '\\').length = 2 := by rw [writtenChar, if_neg hc]; rfl
    omega

/-! ### What is found between quotes -/

/-- Whether a character stands for itself between quotes. -/
def isOrdinary (escapes : Bool) (q c : Char) : Bool :=
  c ≠ q && !(escapes && c = '\\')

theorem isOrdinary_quote : isOrdinary escapes q q = false := by
  simp [isOrdinary]

theorem not_isOrdinary_quote : ¬isOrdinary escapes q q = true :=
  Bool.eq_false_iff.mp isOrdinary_quote

theorem writtenChar_ordinary {c : Char} (h : isOrdinary escapes q c = true) :
    writtenChar escapes q c = [c] := by
  rw [isOrdinary, Bool.and_eq_true, decide_eq_true_eq, Bool.not_eq_true'] at h
  exact writtenChar_plain h.1 (Bool.eq_false_iff.mp h.2)

theorem length_writtenChar_extraordinary {c : Char} (h : isOrdinary escapes q c = false) :
    (writtenChar escapes q c).length = 2 := by
  by_cases hc : c = q
  · rw [hc, length_writtenChar_quote]
  · have hesc : (escapes && decide (c = '\\')) = true := by simpa [isOrdinary, hc] using h
    rw [writtenChar, if_neg hc, if_pos hesc]
    rfl

/-- Quotes and backslashes are written with one more character, and nothing else is. -/
theorem all_ordinary_of_length_written {text : List Char}
    (h : (written escapes q text).length ≤ text.length) :
    text.all (isOrdinary escapes q) = true := by
  -- each character takes one place at least, so none may take two
  have hpos (cs : List Char) : cs.length ≤ (written escapes q cs).length := by
    induction cs with
    | nil => exact Nat.le_refl 0
    | cons c cs ih =>
      have := length_writtenChar_pos escapes q c
      rw [length_written_cons, List.length_cons]
      omega
  induction text with
  | nil => rfl
  | cons c text ih =>
    rw [length_written_cons, List.length_cons] at h
    have hrest := hpos text
    have hone := length_writtenChar_pos escapes q c
    rw [List.all_cons, ih (by omega), Bool.and_true]
    by_contra hc
    have := length_writtenChar_extraordinary (Bool.eq_false_iff.mpr hc)
    omega

theorem written_of_all_ordinary {text : List Char}
    (h : text.all (isOrdinary escapes q) = true) : written escapes q text = text := by
  induction text with
  | nil => rfl
  | cons c text ih =>
    rw [List.all_cons, Bool.and_eq_true] at h
    rw [written_cons, writtenChar_ordinary h.1, ih h.2]
    rfl

/-- Canonical text has the ordinary characters of the text. -/
theorem countP_escapeQuotes (q previous : Char) (text : List Char) :
    (escapeQuotes q previous text).countP (isOrdinary escapes q) =
      text.countP (isOrdinary escapes q) := by
  have hquote : ¬isOrdinary escapes q q = true := not_isOrdinary_quote
  fun_induction escapeQuotes q previous text with
  | case1 => rfl
  | case2 cs ih => rw [List.countP_cons_of_neg hquote, List.countP_cons_of_neg hquote, ih]
  | case3 previous _ ds ih => simp only [List.countP_cons_of_neg hquote, ih]
  | case4 previous _ d ds _ ih => rw [List.countP_cons_of_neg hquote,
      List.countP_cons_of_neg hquote, List.countP_cons_of_neg hquote, ih]
  | case5 => simp only [List.countP_cons_of_neg hquote, List.countP_nil]
  | case6 previous c cs _ ih => rw [List.countP_cons, List.countP_cons, ih]

/-- An escape stands for an ordinary character if it is one itself. -/
theorem isOrdinary_unescape (hq : q = '\'' ∨ q = '"' ∨ q = '\x60') (c : Char) :
    isOrdinary escapes q (Lexer.unescape c) = isOrdinary escapes q c := by
  unfold Lexer.unescape
  rcases hq with rfl | rfl | rfl <;> split <;> simp [isOrdinary]

namespace Lexer

/-- What is found between quotes takes no fewer characters than it has to be written with, among
    them as many ordinary ones as it has. -/
theorem exists_of_quotedBody (hq : q = '\'' ∨ q = '"' ∨ q = '\x60') {done cs found : List Char}
    {taken n : Nat} (h : quotedBody escapes q done taken cs = some (found, n)) :
    ∃ text x v, found = done.reverse ++ text ∧ cs = x ++ q :: v ∧
      (written escapes q text).length ≤ x.length ∧
      x.countP (isOrdinary escapes q) = text.countP (isOrdinary escapes q) := by
  have hquote : ¬isOrdinary escapes q q = true := not_isOrdinary_quote
  fun_induction quotedBody escapes q done taken cs with
  | case1 => cases h
  | case2 done taken ds ih =>
    obtain ⟨text, x, v, rfl, rfl, hlen, hcount⟩ := ih h
    refine ⟨q :: text, q :: q :: x, v, by simp, rfl, ?_, ?_⟩
    · rw [length_written_cons, length_writtenChar_quote, List.length_cons, List.length_cons]
      omega
    · simp only [List.countP_cons_of_neg hquote, hcount]
  | case3 done taken e ds he =>
    cases h
    exact ⟨[], [], e :: ds, by simp, rfl, Nat.le_refl 0, rfl⟩
  | case4 done taken =>
    cases h
    exact ⟨[], [], [], by simp, rfl, Nat.le_refl 0, rfl⟩
  | case5 done taken c hc hesc e ds ih =>
    -- the backslash is no ordinary character, and the one behind it is if it stands for one
    obtain ⟨text, x, v, rfl, rfl, hlen, hcount⟩ := ih h
    have hslash : ¬isOrdinary escapes q c = true := by simp [isOrdinary, hesc]
    refine ⟨unescape e :: text, c :: e :: x, v, by simp, rfl, ?_, ?_⟩
    · have := length_writtenChar_le escapes q (unescape e)
      rw [length_written_cons, List.length_cons, List.length_cons]
      omega
    · rw [List.countP_cons_of_neg hslash, List.countP_cons, List.countP_cons,
        isOrdinary_unescape hq, hcount]
  | case6 => cases h
  | case7 done taken c cs hc hesc ih =>
    obtain ⟨text, x, v, rfl, rfl, hlen, hcount⟩ := ih h
    refine ⟨c :: text, c :: x, v, by simp, rfl, ?_, ?_⟩
    · rw [length_written_cons, writtenChar_plain hc hesc, List.length_singleton, List.length_cons]
      omega
    · rw [List.countP_cons, List.countP_cons, hcount]

/-- Let characters between quotes have the ordinary ones of a text, and let an ordinary character
    stand behind the closing quote, or none. If the text is found there, these characters are as
    many as the text has to be written with: the end that is found is not behind the closing quote,
    since there would be a further ordinary character. -/
theorem length_written_le_of_quotedBody (hq : q = '\'' ∨ q = '"' ∨ q = '\x60')
    {text body v cs : List Char}
    (hcount : body.countP (isOrdinary escapes q) = text.countP (isOrdinary escapes q))
    (hv : ∀ c ∈ v.head?, isOrdinary escapes q c = true) (hcs : cs <+: body ++ q :: v)
    {taken n : Nat} (h : quotedBody escapes q [] taken cs = some (text, n)) :
    (written escapes q text).length ≤ body.length := by
  obtain ⟨text', x, w, htext, rfl, hlen, hx⟩ := exists_of_quotedBody hq h
  rw [List.reverse_nil, List.nil_append] at htext
  subst htext
  obtain ⟨more, hmore⟩ := hcs
  rw [List.append_assoc, List.cons_append] at hmore
  -- otherwise the closing mark and an ordinary character are within what was found
  by_contra hlt
  obtain ⟨y, rfl⟩ : ∃ y, x = body ++ q :: y := by
    have hshort : body ++ [q] <+: body ++ q :: v := ⟨v, by simp⟩
    have hbody : body ++ [q] <+: x := by
      refine List.prefix_of_prefix_length_le hshort ⟨_, hmore⟩ ?_
      rw [List.length_append, List.length_singleton]
      omega
    obtain ⟨y, rfl⟩ := hbody
    exact ⟨y, by simp⟩
  have hback : v = y ++ q :: (w ++ more) := by simpa using hmore.symm
  subst hback
  rw [List.countP_append, List.countP_cons_of_neg not_isOrdinary_quote, hcount] at hx
  cases y with
  | nil =>
    have hquote := hv q rfl
    rw [isOrdinary_quote] at hquote
    cases hquote
  | cons c y =>
    rw [List.countP_cons_of_pos (hv c rfl)] at hx
    omega

/-- Only such a text reads back from its canonical text, or from a front of it with what stands
    behind it. -/
theorem rereads_of_quotedBody (hq : q = '\'' ∨ q = '"' ∨ q = '\x60') {previous : Char}
    {text v cs : List Char} (hv : ∀ c ∈ v.head?, isOrdinary escapes q c = true)
    (hcs : cs <+: escapeQuotes q previous text ++ q :: v) {taken n : Nat}
    (h : quotedBody escapes q [] taken cs = some (text, n)) : Rereads escapes q text := by
  have hne : q ≠ '\\' := by rcases hq with rfl | rfl | rfl <;> decide
  have hlen := length_written_le_of_quotedBody hq (countP_escapeQuotes q previous text) hv hcs h
  exact (rereads_of_length_escapeQuotes hne hlen).2

theorem head?_ne_of_ordinary {v : List Char} (hv : ∀ c ∈ v.head?, isOrdinary escapes q c = true) :
    v.head? ≠ some q := by
  intro h
  have hquote := hv q h
  rw [isOrdinary_quote] at hquote
  cases hquote

/-- Canonical text reads back, whatever stands behind it if it is no quote and escapes nothing, if
    and only if the text is such a text. -/
theorem quotedBody_escapeQuotes_iff (hq : q = '\'' ∨ q = '"' ∨ q = '\x60') {text v : List Char}
    (hv : ∀ c ∈ v.head?, isOrdinary escapes q c = true) (taken : Nat) :
    (∃ n, quotedBody escapes q [] taken (escapeQuotes q (Char.ofNat 0) text ++ q :: v) =
      some (text, n)) ↔ Rereads escapes q text := by
  constructor
  · rintro ⟨n, h⟩
    exact rereads_of_quotedBody hq hv List.prefix_rfl h
  · intro h
    have hnul : Char.ofNat 0 ≠ '\\' := by decide
    rw [h.escapeQuotes_eq fun _ => hnul, quotedBody_written _ _ _ (head?_ne_of_ordinary hv)]
    exact ⟨_, rfl⟩

/-- Text that is put between quotes as it is reads back if and only if all its characters are
    ordinary. -/
theorem quotedBody_unescaped_iff (hq : q = '\'' ∨ q = '"' ∨ q = '\x60') {text v : List Char}
    (hv : ∀ c ∈ v.head?, isOrdinary escapes q c = true) (taken : Nat) :
    (∃ n, quotedBody escapes q [] taken (text ++ q :: v) = some (text, n)) ↔
      text.all (isOrdinary escapes q) = true := by
  constructor
  · rintro ⟨n, h⟩
    exact all_ordinary_of_length_written
      (length_written_le_of_quotedBody hq rfl hv List.prefix_rfl h)
  · intro h
    have hread : quotedBody escapes q [] taken (written escapes q text ++ q :: v) =
        some (text, _) := quotedBody_written text [] taken (head?_ne_of_ordinary hv)
    rw [written_of_all_ordinary h] at hread
    exact ⟨_, hread⟩

/-- A string with escapes reads back in any case, if no quote follows. -/
theorem escapedBody_escapeGeneral (text done : List Char) (taken : Nat) {v : List Char}
    (hv : v.head? ≠ some '\'') :
    escapedBody done taken (text.flatMap escapeGeneral ++ '\'' :: v) =
      some (done.reverse ++ text, taken + (text.flatMap escapeGeneral).length + 1) := by
  induction text generalizing done taken with
  | nil => exact (escapedBody_of_close hv).trans (by rw [List.append_nil]; rfl)
  | cons c text ih =>
    -- a backslash before a character, or the character alone
    have hchar (w : List Char) : escapedBody done taken (escapeGeneral c ++ w) =
        escapedBody (c :: done) (taken + (escapeGeneral c).length) w := by
      unfold escapeGeneral
      split
      all_goals try rfl
      next h1 h2 _ _ _ =>
        rw [List.singleton_append, escapedBody.eq_def]
        simp only [if_neg h1, if_neg h2, List.length_singleton]
    rw [List.flatMap_cons, List.append_assoc, hchar, ih, List.reverse_cons, List.append_assoc,
      List.length_append, Nat.add_assoc taken]
    rfl

end Lexer

end QueryAudit.Sql
