import QueryAudit.Proofs.Passing
import QueryAudit.Sql.Render

/-!
# Strings and quoted names

A string and a quoted name are written alike in canonical text: between two marks, and escaped in
the same way. Which of them it is depends on the dialect and the mark. Wherever it stands, it is
read back as what it is if and only if its text is one that canonical text writes as it has to be;
what stands behind it does not matter, if it is no further mark and no backslash.
-/

namespace QueryAudit.Sql

/-- A string or a quoted name: the mark at either end, and the text between. -/
structure Quotation where
  mark : Char
  text : String
  isMark : mark = '\'' ∨ mark = '"' ∨ mark = '\x60'

namespace Quotation

variable (d : Dialect) (q : Quotation)

def isName : Bool :=
  d.isNameQuote q.mark

/-- Whether a backslash escapes; in names it does not. -/
def escapes : Bool :=
  d.backslashEscapes && !q.isName d

/-- The kind of a string. -/
def quoting : Quoting :=
  if q.mark = '\'' then .single else .double

def token : Token :=
  if q.isName d then .word ⟨q.text, some q.mark, .ordinary⟩ else .quoted q.quoting q.text

def expr : Expr :=
  if q.isName d then .column ⟨q.text, some q.mark⟩ else .literal (.quoted q.quoting q.text)

def withText (text : String) : Quotation :=
  { q with text }

/-- What stands between the marks in canonical text. -/
def canonical : List Char :=
  escapeQuotes q.mark (Char.ofNat 0) q.text.toList

/-- What has to stand between the marks. -/
def body : List Char :=
  written (q.escapes d) q.mark q.text.toList

/-- Whether canonical text has between the marks what has to stand there. -/
def Rereads : Prop :=
  Sql.Rereads (q.escapes d) q.mark q.text.toList

/-- A quotation as it has to be written. -/
def chars : List Char :=
  q.mark :: (q.body d ++ [q.mark])

/-- The canonical text of a quotation, as a name or as a string. -/
theorem toList_render : (q.expr d).render.toList = q.mark :: (q.canonical ++ [q.mark]) := by
  obtain ⟨mark, text, hmark⟩ := q
  have hquotes : (inQuotes mark text).toList =
      mark :: escapeQuotes mark (Char.ofNat 0) text.toList ++ [mark] := String.toList_ofList
  have hrender : (expr d ⟨mark, text, hmark⟩).render = inQuotes mark text := by
    rcases hmark with rfl | rfl | rfl <;> cases d <;> rfl
  rw [hrender, hquotes]
  rfl

theorem escapesIn_mark : escapesIn d q.mark = q.escapes d := by
  obtain ⟨mark, text, rfl | rfl | rfl⟩ := q <;> cases d <;> rfl

theorem isQuoteChar_mark : isQuoteChar q.mark = true := by
  obtain ⟨mark, text, rfl | rfl | rfl⟩ := q <;> rfl

theorem canonical_eq_body (h : q.Rereads d) : q.canonical = q.body d :=
  h.escapeQuotes_eq fun _ => by decide

theorem text_of_token_eq {text : String} (h : (q.withText text).token d = q.token d) :
    text = q.text := by
  unfold token at h
  cases hname : q.isName d with
  | true =>
    have hname' : (q.withText text).isName d = true := hname
    rw [if_pos hname, if_pos hname'] at h
    exact congrArg Word.text (Token.word.inj h)
  | false =>
    have hname' : (q.withText text).isName d = false := hname
    rw [hname, hname'] at h
    exact (Token.quoted.inj h).2

theorem text_of_expr_eq {text : String} (h : (q.withText text).expr d = q.expr d) :
    text = q.text := by
  unfold expr at h
  cases hname : q.isName d with
  | true =>
    have hname' : (q.withText text).isName d = true := hname
    rw [if_pos hname, if_pos hname'] at h
    exact congrArg Name.text (Expr.column.inj h)
  | false =>
    have hname' : (q.withText text).isName d = false := hname
    rw [hname, hname'] at h
    exact (Literal.quoted.inj (Expr.literal.inj h)).2

/-! ### One quotation -/

open Lexer

/-- A quotation is scanned as what is found between its marks. -/
theorem scan_mark (cs : List Char) :
    scan d q.mark cs =
      match quotedBody (q.escapes d) q.mark [] 1 cs with
      | some (text, n) => .token ((q.withText (String.ofList text)).token d) n
      | none => .fault (if q.isName d then .unclosedName q.mark else .unterminatedString) 0 := by
  obtain ⟨mark, text, rfl | rfl | rfl⟩ := q <;> cases d
  all_goals
    simp only [scan, scanOther, scanQuoted, scanName]
    rfl

/-- A quotation that is written as it has to be is scanned as itself. -/
theorem scan_body {v : List Char} (hv : v.head? ≠ some q.mark) :
    scan d q.mark (q.body d ++ q.mark :: v) = .token (q.token d) ((q.body d).length + 2) := by
  rw [scan_mark, body, quotedBody_written _ _ _ hv]
  dsimp only
  rw [List.reverse_nil, List.nil_append, String.ofList_toList, Nat.add_comm 1]
  rfl

/-- Canonical text of a quotation, wherever it stands: it is scanned as this quotation if and only
    if it is written as it has to be. -/
theorem scan_canonical_iff {v : List Char}
    (hv : ∀ c ∈ v.head?, isOrdinary (q.escapes d) q.mark c = true) :
    (∃ n, scan d q.mark (q.canonical ++ q.mark :: v) = .token (q.token d) n) ↔ q.Rereads d := by
  rw [Rereads, ← quotedBody_escapeQuotes_iff q.isMark hv 1]
  refine exists_congr fun n => ?_
  rw [scan_mark]
  cases hbody : quotedBody (q.escapes d) q.mark [] 1 (q.canonical ++ q.mark :: v) with
  | none =>
    rw [canonical] at hbody
    rw [hbody]
    exact ⟨nofun, nofun⟩
  | some found =>
    obtain ⟨text, m⟩ := found
    rw [canonical] at hbody
    rw [hbody]
    dsimp only
    constructor
    · -- the token names the text that was found
      intro h
      obtain ⟨htoken, rfl⟩ := Scan.token.inj h
      rw [← text_of_token_eq d q htoken, String.toList_ofList]
    · intro h
      obtain ⟨rfl, rfl⟩ := Prod.mk.inj (Option.some.inj h)
      rw [String.ofList_toList]
      rfl

/-- The splitter goes over a quotation that is written as it has to be. -/
theorem passed_chars (rest : List Char) : Passed d (q.chars d) rest := by
  rw [chars, body, ← escapesIn_mark]
  exact passed_written q.isQuoteChar_mark q.text.toList rest

/-! ### Texts between single quotes -/

/-- A text between single quotes, which is a string in every dialect. -/
def ofText (text : String) : Quotation :=
  ⟨'\'', text, .inl rfl⟩

variable (text : String)

theorem escapes_ofText : (ofText text).escapes d = d.backslashEscapes := by
  cases d <;> rfl

theorem token_ofText : (ofText text).token d = .quoted .single text := by
  cases d <;> rfl

theorem chars_ofText : (ofText text).chars d =
    '\'' :: (written d.backslashEscapes '\'' text.toList ++ ['\'']) := by
  rw [chars, body, escapes_ofText]
  rfl

theorem scan_ofText :
    scan d '\'' (written d.backslashEscapes '\'' text.toList ++ ['\'']) =
      .token (.quoted .single text) ((written d.backslashEscapes '\'' text.toList).length + 2) := by
  have hscan := (ofText text).scan_body d (v := []) nofun
  rw [body, escapes_ofText, token_ofText] at hscan
  exact hscan

end Quotation

/-! ### Other strings -/

namespace Lexer

variable {escapes : Bool} {q : Char} {v : List Char}

/-- The other strings are not escaped in canonical text. Behind what introduces it such a text is
    scanned as itself if and only if all its characters are ordinary. -/
theorem scanQuoted_unescaped_iff (hq : q = '\'' ∨ q = '"' ∨ q = '\x60')
    (hv : ∀ c ∈ v.head?, isOrdinary escapes q c = true) (quoting : Quoting) (opening : Nat)
    (text : String) :
    (∃ n, scanQuoted escapes quoting q opening (text.toList ++ q :: v) =
      .token (.quoted quoting text) n) ↔ text.toList.all (isOrdinary escapes q) = true := by
  rw [← quotedBody_unescaped_iff hq hv opening]
  refine exists_congr fun n => ?_
  rw [scanQuoted]
  cases quotedBody escapes q [] opening (text.toList ++ q :: v) with
  | none => exact ⟨nofun, nofun⟩
  | some found =>
    obtain ⟨chars, m⟩ := found
    constructor
    · intro h
      obtain ⟨htoken, rfl⟩ := Scan.token.inj h
      rw [← (Token.quoted.inj htoken).2, String.toList_ofList]
    · intro h
      obtain ⟨rfl, rfl⟩ := Prod.mk.inj (Option.some.inj h)
      dsimp only
      rw [String.ofList_toList]

/-- A string with escapes is scanned as itself, whatever its text. -/
theorem scanEscaped_escapeGeneral (text : String) (hv : v.head? ≠ some '\'') :
    ∃ n, scanEscaped (text.toList.flatMap escapeGeneral ++ '\'' :: v) =
      .token (.quoted .escaped text) n := by
  rw [scanEscaped, escapedBody_escapeGeneral _ _ _ hv]
  dsimp only
  rw [List.reverse_nil, List.nil_append, String.ofList_toList]
  exact ⟨_, rfl⟩

end Lexer

/-! ### Lists of quotations -/

namespace Quotation

open Lexer

variable (d : Dialect)

/-- Quotations that are written as they have to be, each with a comma and a blank behind it. -/
def leading (qs : List Quotation) : List Char :=
  qs.flatMap fun q => q.chars d ++ [',', ' ']

/-- The tokens of quotations with a comma behind each. -/
def commaTokens (qs : List Quotation) : List Token :=
  qs.flatMap fun q => [q.token d, .symbol .comma]

theorem passed_leading (qs : List Quotation) (rest : List Char) :
    Passed d (leading d qs) rest := by
  induction qs with
  | nil => exact fun _ => rfl
  | cons q qs ih =>
    have hcomma : Passed d [',', ' '] (leading d qs ++ rest) :=
      passed_of_plain (plain_of_harmless (by decide) _)
    have hfirst : Passed d (q.chars d ++ [',', ' ']) (leading d qs ++ rest) :=
      (q.passed_chars d _).append hcomma
    exact hfirst.append ih

/-- One quotation with a comma and a blank behind it, scanned from a place on. -/
theorem tokensFrom_chars (q : Quotation) (rounds : Nat) (done : List Located) (p : Position)
    (rest : List Char) :
    ∃ p' p'', tokensFrom d (rounds + 3) done p (q.chars d ++ ',' :: ' ' :: rest) =
      tokensFrom d rounds (⟨.symbol .comma, p', [.space]⟩ :: ⟨q.token d, p, []⟩ :: done) p''
        rest := by
  have hcomma : (',' :: ' ' :: rest).head? ≠ some q.mark := by
    obtain ⟨mark, text, rfl | rfl | rfl⟩ := q <;> simp
  have hchars : q.chars d ++ ',' :: ' ' :: rest =
      q.mark :: (q.body d ++ q.mark :: ',' :: ' ' :: rest) := by simp [chars]
  have hdrop : (q.mark :: (q.body d ++ q.mark :: ',' :: ' ' :: rest)).drop
      ((q.body d).length + 2) = ',' :: ' ' :: rest := by
    rw [List.drop_succ_cons, List.drop_append, Nat.add_sub_cancel_left]
    simp
  rw [hchars, tokensFrom, scan_body d q hcomma]
  dsimp only
  rw [hdrop]
  exact ⟨_, _, rfl⟩

theorem tokensFrom_leading (qs : List Quotation) {rounds : Nat} (done : List Located)
    (p : Position) (rest : List Char) (hr : (leading d qs ++ rest).length ≤ rounds) :
    ∃ (ts : List Located) (p' : Position) (rounds' : Nat), rest.length ≤ rounds' ∧
      ts.map Located.token = commaTokens d qs ∧
      tokensFrom d rounds done p (leading d qs ++ rest) =
        tokensFrom d rounds' (ts.reverse ++ done) p' rest := by
  induction qs generalizing rounds done p with
  | nil => exact ⟨[], p, rounds, hr, rfl, rfl⟩
  | cons q qs ih =>
    have htext :
        leading d (q :: qs) ++ rest = q.chars d ++ ',' :: ' ' :: (leading d qs ++ rest) := by
      simp [leading]
    rw [htext, List.length_append, List.length_cons, List.length_cons] at hr
    have hlen : 1 ≤ (q.chars d).length := Nat.succ_le_succ (Nat.zero_le _)
    -- a quotation, a comma and a blank take a round each
    obtain ⟨more, rfl⟩ : ∃ more, rounds = more + 3 := ⟨rounds - 3, by omega⟩
    obtain ⟨p', p'', hfirst⟩ := tokensFrom_chars d q more done p (leading d qs ++ rest)
    have hmore : (leading d qs ++ rest).length ≤ more := by omega
    obtain ⟨ts, p₀, rounds', hrounds, hts, hrest⟩ := ih _ p'' hmore
    refine ⟨⟨q.token d, p, []⟩ :: ⟨.symbol .comma, p', [.space]⟩ :: ts,
      p₀, rounds', hrounds, ?_, ?_⟩
    · simp only [List.map_cons, hts]
      rfl
    · rw [htext, hfirst, hrest]
      simp

/-- Scanning on keeps the tokens so far. -/
theorem tokens_of_tokensFrom {rounds : Nat} {done ts : List Located} {p : Position}
    {text : List Char} (h : tokensFrom d rounds done p text = .ok ts) :
    ∃ more, ts.map Located.token = (done.reverse.map Located.token) ++ more := by
  have hblank (b : Blank) (done : List Located) :
      (addBlank b done).map Located.token = done.map Located.token := by
    cases done <;> rfl
  fun_induction tokensFrom d rounds done p text with
  | case1 => exact ⟨[], by rw [← Except.ok.inj h, List.append_nil]⟩
  | case2 => exact ⟨[], by rw [← Except.ok.inj h, List.append_nil]⟩
  | case3 rounds done p c cs t n hscan ih =>
    obtain ⟨more, hmore⟩ := ih h
    exact ⟨t :: more, by simpa using hmore⟩
  | case4 rounds done p c cs b n hscan ih =>
    obtain ⟨more, hmore⟩ := ih h
    refine ⟨more, ?_⟩
    rw [hmore, List.map_reverse, hblank, ← List.map_reverse]
  | case5 => cases h

/-- The characters of a selection, given its list. -/
def selecting (list : List Char) : List Char :=
  "SELECT ".toList ++ list

/-- The word that a selection begins with. -/
def selectToken : Token :=
  .word (Word.bare "SELECT".toList)

theorem tokens_selecting (list : List Char) :
    tokens d (selecting list) =
      tokensFrom d (list.length + 5) [⟨selectToken, ⟨1, 1⟩, [.space]⟩] ⟨1, 8⟩ list := by
  cases d <;> rfl

/-- A list of quotations that are written as they have to be has their tokens. -/
theorem tokens_list (qs : List Quotation) (q : Quotation) :
    ∃ ts, tokens d (selecting (leading d qs ++ q.chars d)) = .ok ts ∧
      ts.map Located.token = selectToken :: (commaTokens d qs ++ [q.token d]) := by
  rw [tokens_selecting]
  obtain ⟨ts, p, rounds, hrounds, hts, hlist⟩ := tokensFrom_leading d qs
    [⟨selectToken, ⟨1, 1⟩, [.space]⟩] ⟨1, 8⟩ (q.chars d) (Nat.le_add_right _ 5)
  have hlast : (q.body d).length + 2 ≤ rounds := by
    rw [chars, List.length_cons, List.length_append, List.length_singleton] at hrounds
    exact hrounds
  obtain ⟨more, rfl⟩ : ∃ more, rounds = more + 2 := ⟨rounds - 2, by omega⟩
  have hdrop : (q.mark :: (q.body d ++ [q.mark])).drop ((q.body d).length + 2) = [] := by simp
  rw [hlist, chars, tokensFrom, scan_body d q (v := []) nofun]
  dsimp only
  rw [hdrop]
  refine ⟨_, rfl, ?_⟩
  simp [hts]

/-- If a list begins with quotations that are written as they have to be, and a mark opens behind
    them, then something is found behind this mark, and it is what the next token is. -/
theorem tokens_front (qs : List Quotation) (q : Quotation) {front : List Char} {ts : List Located}
    (h : tokens d (selecting (leading d qs ++ q.mark :: front)) = .ok ts) :
    ∃ text n more, quotedBody (q.escapes d) q.mark [] 1 front = some (text, n) ∧
      ts.map Located.token = selectToken ::
        (commaTokens d qs ++ (q.withText (String.ofList text)).token d :: more) := by
  rw [tokens_selecting] at h
  obtain ⟨ts', p, rounds, hrounds, hts, hlist⟩ := tokensFrom_leading d qs
    [⟨selectToken, ⟨1, 1⟩, [.space]⟩] ⟨1, 8⟩ (q.mark :: front) (Nat.le_add_right _ 5)
  obtain ⟨more, rfl⟩ : ∃ more, rounds = more + 1 := ⟨rounds - 1, by
    rw [List.length_cons] at hrounds
    omega⟩
  rw [hlist, tokensFrom, scan_mark] at h
  cases hbody : quotedBody (q.escapes d) q.mark [] 1 front with
  | none =>
    rw [hbody] at h
    cases h
  | some found =>
    obtain ⟨text, n⟩ := found
    rw [hbody] at h
    -- what stands behind this token only adds more of them
    obtain ⟨behind, hbehind⟩ := tokens_of_tokensFrom d h
    refine ⟨text, n, behind, rfl, ?_⟩
    rw [hbehind]
    simp [hts]

end Quotation
end QueryAudit.Sql
