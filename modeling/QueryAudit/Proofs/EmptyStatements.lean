import Mathlib.Data.List.Infix
import QueryAudit.Proofs.Descent
import QueryAudit.Proofs.Joining
import QueryAudit.Proofs.SplitterGrammar
import QueryAudit.Proofs.WholeText

/-!
# Empty statements

A text of spaces and comments is looked at twice: the splitter passes it up to its semicolon, and
the lexer makes no token of it. Where both do, it has no items, and nothing changes if it is put
between two statements together with its semicolon.

They do not agree on the number sign of MySQL. To the splitter it begins a comment; to the lexer it
is a symbol, with which no statement begins. A text with such a comment is therefore an error, and
nothing behind it is read. So is a comment whose bytes are not UTF-8.
-/

namespace QueryAudit

open Sql

/-! ### Spaces and comments -/

/-- A space, a tab, a newline, a carriage return, or a comment with its end. Those from `#` on count
    only where they are asked for. In a comment between a slash and a star and its end there is no
    other opener, also none that shares the star of the end. -/
inductive Gap (hashes : Bool) : List UInt8 → Prop
  | space {b : UInt8} (h : b = 32 ∨ b = 9 ∨ b = newline ∨ b = 13) : Gap hashes [b]
  | dashes {body : List UInt8} (h : newline ∉ body) :
      Gap hashes (45 :: 45 :: (body ++ [newline]))
  | hash {body : List UInt8} (hh : hashes = true) (h : newline ∉ body) :
      Gap hashes (35 :: (body ++ [newline]))
  | block {body : List UInt8} (hclose : ¬[42, 47] <:+: body)
      (hopen : ¬[47, 42] <:+: body ++ [42]) : Gap hashes (47 :: 42 :: (body ++ [42, 47]))

/-- Spaces and comments one behind the other. -/
inductive Gaps (hashes : Bool) : List UInt8 → Prop
  | nil : Gaps hashes []
  | append {l rest : List UInt8} (h : Gap hashes l) (hs : Gaps hashes rest) :
      Gaps hashes (l ++ rest)

variable {d : Dialect}

/-- To the splitter spaces and comments are lexemes. -/
theorem Gap.lexeme {l : List UInt8} (h : Gap d.hashComments l) (next : Option UInt8) :
    Splitter.Lexeme d next l := by
  cases h with
  | space h =>
    rcases h with rfl | rfl | rfl | rfl <;>
      exact .single (by decide) rfl (by rintro ⟨⟨⟩, -⟩) (by rintro ⟨⟨⟩, -⟩) (by rintro ⟨⟨⟩, -⟩)
  | dashes h => exact .dashes h
  | hash hh h => exact .hash hh h
  | block hclose hopen => exact .block hclose

theorem Gaps.lexemes {w : List UInt8} (h : Gaps d.hashComments w) : Splitter.Lexemes d w := by
  induction h with
  | nil => exact .nil
  | append h _ ih => exact .append (h.lexeme _) ih

/-- A row of spaces and comments has no comment from `#` on, or there is a first one. -/
theorem Gaps.exists_hash {hashes : Bool} {w : List UInt8} (h : Gaps hashes w) :
    Gaps false w ∨ hashes = true ∧ ∃ front back, w = front ++ 35 :: back ∧ Gaps false front := by
  induction h with
  | nil => exact .inl .nil
  | @append l rest h _ ih =>
    have hfront (hl : Gap false l) : Gaps false (l ++ rest) ∨ hashes = true ∧
        ∃ front back, l ++ rest = front ++ 35 :: back ∧ Gaps false front := by
      rcases ih with hrest | ⟨hh, front, back, rfl, hfront⟩
      · exact .inl (.append hl hrest)
      · exact .inr ⟨hh, l ++ front, back, (List.append_assoc ..).symm, .append hl hfront⟩
    cases h with
    | space h => exact hfront (.space h)
    | dashes h => exact hfront (.dashes h)
    | hash hh h => exact .inr ⟨hh, [], _, rfl, .nil⟩
    | block hclose hopen => exact hfront (.block hclose hopen)

/-! ### Characters of ASCII among others -/

namespace Utf8

variable {bytes : List UInt8} {chars : List Char}

/-- Bytes with a byte of ASCII among them spell characters with its character among them. -/
theorem Spells.exists_of_append {front back : List UInt8} {b : UInt8} (hb : b.toNat < 0x80)
    (h : Spells (front ++ b :: back) chars) :
    ∃ cs more, chars = cs ++ Char.ofNat b.toNat :: more ∧ Spells front cs ∧ Spells back more := by
  generalize hw : front ++ b :: back = w at h
  induction h generalizing front with
  | nil => simp at hw
  | @cons group rest c cs hc hs ih =>
    have hlater (mid : List UInt8) (hrest : mid ++ b :: back = rest) :
        ∃ cs' more, c :: cs = cs' ++ Char.ofNat b.toNat :: more ∧ Spells (group ++ mid) cs' ∧
          Spells back more := by
      obtain ⟨cs', more, rfl, hcs, hmore⟩ := ih hrest
      exact ⟨c :: cs', more, rfl, .cons hc hcs, hmore⟩
    rcases List.append_eq_append_iff.mp hw with ⟨mid, rfl, hmid⟩ | ⟨mid, rfl, hrest⟩
    · cases mid with
      | nil =>
        obtain ⟨cs', more, heq, hcs, hmore⟩ := hlater [] hmid
        rw [List.append_nil, List.append_nil] at hcs
        exact ⟨cs', more, heq, hcs, hmore⟩
      | cons x mid =>
        -- the byte is in the group, and is all of it
        obtain ⟨rfl, rfl⟩ := List.cons.inj hmid
        rcases hc.form with ⟨b', hgroup, -, rfl⟩ | ⟨-, hbeyond, -⟩
        · cases front with
          | nil =>
            cases hgroup
            exact ⟨[], cs, rfl, .nil, hs⟩
          | cons y front => simp at hgroup
        · have := hbeyond b (by simp)
          omega
    · exact hlater mid hrest.symm

/-- Bytes that begin with one of ASCII spell characters that begin with its character. -/
theorem Spells.exists_of_cons {b : UInt8} (hb : b.toNat < 0x80) (h : Spells (b :: bytes) chars) :
    ∃ cs, chars = Char.ofNat b.toNat :: cs ∧ Spells bytes cs := by
  have hfront : Spells ([] ++ b :: bytes) chars := h
  obtain ⟨_, cs, rfl, hnil, hs⟩ := hfront.exists_of_append hb
  rw [hnil.eq_nil_iff.mp rfl]
  exact ⟨cs, rfl, hs⟩

/-- Characters in a row are spelled by bytes in a row. -/
theorem Spells.exists_append {xs ys : List Char} (h : Spells bytes (xs ++ ys)) :
    ∃ front back, bytes = front ++ back ∧ Spells front xs ∧ Spells back ys := by
  induction xs generalizing bytes with
  | nil => exact ⟨[], bytes, rfl, .nil, h⟩
  | cons x xs ih =>
    cases h with
    | cons hc hs =>
      obtain ⟨front, back, rfl, hfront, hback⟩ := ih hs
      exact ⟨_, back, (List.append_assoc ..).symm, .cons hc hfront, hback⟩

/-- Characters of ASCII are spelled by their bytes. -/
theorem Spells.eq_map_byteOf (h : Spells bytes chars) (hx : ∀ c ∈ chars, c.toNat < 0x80) :
    bytes = chars.map byteOf := by
  induction h with
  | nil => rfl
  | cons hc _ ih =>
    obtain ⟨hchar, hchars⟩ := List.forall_mem_cons.mp hx
    rcases hc.form with ⟨b, rfl, hb, rfl⟩ | ⟨-, -, hbeyond⟩
    · rw [ih hchars, List.map_cons, byteOf_ofNat hb]
      rfl
    · omega

/-- Characters of ASCII stand among others only where their bytes stand among others. -/
theorem Spells.infix_of_infix (h : Spells bytes chars) {xs : List Char}
    (hx : ∀ x ∈ xs, x.toNat < 0x80) (hin : xs <:+: chars) : xs.map byteOf <:+: bytes := by
  obtain ⟨front, back, rfl⟩ := hin
  obtain ⟨_, bback, rfl, hfront, -⟩ := h.exists_append
  obtain ⟨bfront, bxs, rfl, -, hxs⟩ := hfront.exists_append
  exact ⟨bfront, bback, by rw [hxs.eq_map_byteOf hx]⟩

end Utf8

/-! ### What the lexer makes of them -/

namespace Sql.Lexer

/-- Characters are scanned to their end, and make some tokens, each with the blanks behind it. -/
def Tokenizes (d : Dialect) (chars : List Char) (ts : List (Token × List Blank)) : Prop :=
  ∃ ls, Lexes d chars ls ∧ contents ls = ts

theorem tokenizes_nil : Tokenizes d [] [] := ⟨[], .nil, rfl⟩

variable {ts : List (Token × List Blank)}

/-- A blank makes no token. -/
theorem tokenizes_blank {c : Char} {cs : List Char} {b : Blank} {n : Nat}
    (h : scan d c cs = .blank b n) :
    Tokenizes d (c :: cs) ts ↔ Tokenizes d ((c :: cs).drop n) ts := by
  have hn : (scan d c cs).length = some n := by rw [h]; rfl
  constructor
  · rintro ⟨ls, hls, rfl⟩
    cases hls with
    | @cons _ _ m ls hm hs =>
      cases hm.symm.trans hn
      exact ⟨ls, hs, by rw [h]; rfl⟩
  · rintro ⟨ls, hls, rfl⟩
    exact ⟨_, .cons hn hls, by rw [h]; rfl⟩

/-- A return makes no token, though it is taken together with a newline behind it. -/
theorem tokenizes_return (cs : List Char) :
    Tokenizes d ('\r' :: cs) ts ↔ Tokenizes d cs ts := by
  by_cases hnewline : cs.head? = some '\n'
  · obtain ⟨cs, rfl⟩ := List.head?_eq_some_iff.mp hnewline
    have hboth : scan d '\r' ('\n' :: cs) = .blank .newline 2 := rfl
    have hone : scan d '\n' cs = .blank .newline 1 := rfl
    rw [tokenizes_blank hboth, tokenizes_blank hone]
    rfl
  · have hscan : scan d '\r' cs = .blank .newline 1 := by
      show Scan.blank .newline (if cs.head? = some '\n' then 2 else 1) = _
      rw [if_neg hnewline]
    rw [tokenizes_blank hscan]
    rfl

/-- A comment through the end of its line makes no token. -/
theorem tokenizes_dashes {body : List Char} (h : '\n' ∉ body) (cs : List Char) :
    Tokenizes d ('-' :: '-' :: (body ++ '\n' :: cs)) ts ↔ Tokenizes d cs ts := by
  have hline : (body ++ '\n' :: cs).takeWhile (· != '\n') = body := by
    have hall : ∀ c ∈ body, (c != '\n') = true := by
      intro c hc
      simp only [bne_iff_ne]
      rintro rfl
      exact h hc
    rw [List.takeWhile_append_of_pos hall]
    exact List.append_nil body
  have htext : '-' :: '-' :: (body ++ '\n' :: cs).take (body.length + 1) =
      '-' :: '-' :: (body ++ ['\n']) := by
    rw [List.take_length_add_append]
    rfl
  -- the scan takes the comment with its newline
  have hscan : scan d '-' ('-' :: (body ++ '\n' :: cs)) =
      .blank (.comment (String.ofList ('-' :: '-' :: (body ++ ['\n'])))) (body.length + 3) := by
    show scanLineComment (body ++ '\n' :: cs) = _
    rw [scanLineComment, hline, htext]
    simp
  rw [tokenizes_blank hscan]
  simp

/-- A comment in which none begins and none ends is as long as it is for the splitter. -/
theorem commentLength_of_plain {last : Char} {body : List Char}
    (hopen : ¬['/', '*'] <:+: last :: (body ++ ['*'])) (hclose : ¬['*', '/'] <:+: last :: body)
    (taken : Nat) (cs : List Char) :
    commentLength 1 last taken (body ++ '*' :: '/' :: cs) = some (taken + body.length + 2) := by
  induction body generalizing last taken with
  | nil =>
    have hslash : ¬(last = '/' ∧ '*' = '*') := by
      rintro ⟨rfl, -⟩
      exact hopen List.infix_rfl
    rw [List.nil_append, commentLength, if_neg hslash, if_neg (by simp), commentLength,
      if_neg (by simp), if_pos ⟨rfl, rfl⟩, if_pos rfl]
    rfl
  -- neither an opener nor a closer stands in front, with the character before
  | cons c body ih =>
    have hslash : ¬(last = '/' ∧ c = '*') := by
      rintro ⟨rfl, rfl⟩
      exact hopen (List.prefix_append ['/', '*'] _).isInfix
    have hstar : ¬(last = '*' ∧ c = '/') := by
      rintro ⟨rfl, rfl⟩
      exact hclose (List.prefix_append ['*', '/'] _).isInfix
    rw [List.cons_append, commentLength, if_neg hslash, if_neg hstar,
      ih (fun h => hopen (List.infix_cons h)) (fun h => hclose (List.infix_cons h)),
      List.length_cons]
    congr 1
    omega

/-- Nor does a comment in which no other one begins. -/
theorem tokenizes_block {body : List Char} (hopen : ¬['/', '*'] <:+: body ++ ['*'])
    (hclose : ¬['*', '/'] <:+: body) (cs : List Char) :
    Tokenizes d ('/' :: '*' :: (body ++ '*' :: '/' :: cs)) ts ↔ Tokenizes d cs ts := by
  have hlength : commentLength 1 ' ' 2 (body ++ '*' :: '/' :: cs) = some (2 + body.length + 2) := by
    refine commentLength_of_plain (fun h => ?_) (fun h => ?_) 2 cs
    · exact hopen ((List.infix_cons_iff.mp h).resolve_left (by rintro ⟨_, ⟨⟩⟩))
    · exact hclose ((List.infix_cons_iff.mp h).resolve_left (by rintro ⟨_, ⟨⟩⟩))
  obtain ⟨b, hscan⟩ : ∃ b, scan d '/' ('*' :: (body ++ '*' :: '/' :: cs)) =
      .blank b (2 + body.length + 2) := by
    have hcomment : scan d '/' ('*' :: (body ++ '*' :: '/' :: cs)) =
        scanComment (body ++ '*' :: '/' :: cs) := rfl
    rw [hcomment, scanComment, hlength]
    exact ⟨_, rfl⟩
  rw [tokenizes_blank hscan, Nat.add_comm 2 body.length]
  simp

/-- Bytes of a space or a comment spell characters that make no token. -/
theorem tokenizes_gap {l rest : List UInt8} (h : Gap false l) {chars : List Char}
    (hs : Utf8.Spells (l ++ rest) chars) :
    ∃ cs, Utf8.Spells rest cs ∧ ∀ ts, Tokenizes d chars ts ↔ Tokenizes d cs ts := by
  cases h with
  | @space b h =>
    have hb : b.toNat < 0x80 := by rcases h with rfl | rfl | rfl | rfl <;> decide
    obtain ⟨cs, rfl, hrest⟩ := hs.exists_of_cons hb
    refine ⟨cs, hrest, fun ts => ?_⟩
    rcases h with rfl | rfl | rfl | rfl
    · exact tokenizes_blank (c := ' ') (b := .space) (n := 1) rfl
    · exact tokenizes_blank (c := '\t') (b := .tab) (n := 1) rfl
    · exact tokenizes_blank (c := '\n') (b := .newline) (n := 1) rfl
    · exact tokenizes_return cs
  | @dashes body h =>
    obtain ⟨_, rfl, hdash⟩ := hs.exists_of_cons (by decide)
    obtain ⟨_, rfl, hbody⟩ := hdash.exists_of_cons (by decide)
    rw [List.append_eq, List.append_assoc, List.singleton_append] at hbody
    obtain ⟨line, cs, rfl, hline, hrest⟩ := hbody.exists_of_append (by decide)
    refine ⟨cs, hrest, fun ts => tokenizes_dashes (fun hin => h ?_) cs⟩
    rw [← List.singleton_infix_iff] at hin ⊢
    have hbytes := hline.infix_of_infix (by simp) hin
    exact hbytes
  -- no byte of a comment is half of another character, so the openers and closers are the same
  | hash hh => cases hh
  | @block body hclose hopen =>
    obtain ⟨_, rfl, hstar⟩ := hs.exists_of_cons (by decide)
    obtain ⟨_, rfl, hbody⟩ := hstar.exists_of_cons (by decide)
    rw [List.append_eq, List.append_assoc] at hbody
    obtain ⟨inner, _, rfl, hinner, hend⟩ := hbody.exists_of_append (b := 42) (by decide)
    obtain ⟨cs, rfl, hrest⟩ := hend.exists_of_cons (by decide)
    have hstarred : Utf8.Spells (body ++ [42]) (inner ++ ['*']) :=
      hinner.append (Utf8.decode_eq_ok_iff.mp rfl)
    refine ⟨cs, hrest, fun ts => tokenizes_block (fun hin => hopen ?_) (fun hin => hclose ?_) cs⟩
    · exact hstarred.infix_of_infix (by simp) hin
    · exact hinner.infix_of_infix (by simp) hin

/-- Bytes of spaces and comments spell characters that make no token. -/
theorem tokenizes_gaps {w rest : List UInt8} (h : Gaps false w) {chars : List Char}
    (hs : Utf8.Spells (w ++ rest) chars) :
    ∃ cs, Utf8.Spells rest cs ∧ ∀ ts, Tokenizes d chars ts ↔ Tokenizes d cs ts := by
  induction h generalizing chars with
  | nil => exact ⟨chars, hs, fun _ => Iff.rfl⟩
  | append h _ ih =>
    rw [List.append_assoc] at hs
    obtain ⟨cs, hcs, hsame⟩ := tokenizes_gap (d := d) h hs
    obtain ⟨cs', hcs', hsame'⟩ := ih hcs
    exact ⟨cs', hcs', fun ts => (hsame ts).trans (hsame' ts)⟩

/-- The symbols that begin with a number sign. -/
def hashSymbols : List Symbol := [.sharp, .hashMinus, .hashArrow, .hashLongArrow]

/-- Where number signs begin comments for the splitter, they begin symbols for the lexer. -/
theorem scan_hash (hd : d.hashComments = true) (cs : List Char) :
    ∃ s ∈ hashSymbols, ∃ n, scan d '#' cs = .symbol s n := by
  have hscan : scan d '#' cs = scanHash d cs := rfl
  rw [hscan, scanHash.eq_def]
  split
  · exact ⟨.hashMinus, by decide, 2, rfl⟩
  · exact ⟨.hashLongArrow, by decide, 3, rfl⟩
  · exact ⟨.hashArrow, by decide, 2, rfl⟩
  · have hword : d.isWordStart '#' = false := by cases d <;> first | rfl | cases hd
    refine ⟨.sharp, by decide, 1, ?_⟩
    unfold scanSign
    split
    · rfl
    · rw [hword]
      rfl
    · rfl

theorem tokenizes_hash (hd : d.hashComments = true) {cs : List Char}
    {ts : List (Token × List Blank)} (h : Tokenizes d ('#' :: cs) ts) :
    ∃ s ∈ hashSymbols, ∃ behind more, ts = (.symbol s, behind) :: more := by
  obtain ⟨s, hs, n, hscan⟩ := scan_hash hd cs
  obtain ⟨ls, hls, rfl⟩ := h
  cases hls with
  | cons hn hrest =>
    rw [hscan]
    exact ⟨s, hs, _, _, rfl⟩

end Sql.Lexer

/-! ### What a reader makes of them -/

namespace Stream

theorem first_symbol {s : Symbol} (hs : s ≠ .lparen) (d : Dialect) {t : Located}
    (ht : t.token = .symbol s) (ts : List Located) :
    first (Grammar.parseStatement d) (t :: ts) =
      .error (.expected "an SQL statement" (some t)) := by
  rw [first, Grammar.parseStatement_symbol hs d ht]

/-- Tokens that begin with a symbol from a number sign on are an error. -/
theorem items_hash {s : Symbol} (hs : s ∈ Lexer.hashSymbols) (d : Dialect) {t : Located}
    (ht : t.token = .symbol s) (ts : List Located) :
    items d (t :: ts) =
      [.error (TextFault.grammatical (.expected "an SQL statement" (some t))).error] := by
  have hlparen : s ≠ .lparen := by
    rintro rfl
    exact absurd hs (by decide)
  have hsemi : t.isSemicolon = false := by
    rw [Located.isSemicolon, ht]
    refine decide_eq_false ?_
    rintro ⟨⟩
    exact absurd hs (by decide)
  rw [items, List.length_cons, itemsFor, afterSemicolons_of_not hsemi]
  simp only [first_symbol hlparen d ht]

end Stream

/-- Spaces and comments of which the lexer makes nothing: no comment begins with a number sign, and
    the bytes are UTF-8. -/
def Silent (w : List UInt8) : Prop :=
  Gaps false w ∧ ∃ chars, Utf8.decode w = .ok chars

/-- Spaces and comments of which the lexer makes nothing have no items. -/
theorem ofText_of_silent {w : List UInt8} (h : Silent w) : Stream.ofText d w = [] := by
  obtain ⟨hplain, chars, hchars⟩ := h
  have hspells := Utf8.decode_eq_ok_iff.mp hchars
  rw [← List.append_nil w] at hspells
  obtain ⟨cs, hnil, hsame⟩ := Lexer.tokenizes_gaps (d := d) hplain hspells
  rw [hnil.eq_nil_iff.mp rfl] at hsame
  obtain ⟨ls, hls, hcontents⟩ := (hsame []).mpr Lexer.tokenizes_nil
  rw [Stream.ofText_of_decode hchars]
  exact Stream.ofChars_of_nil hls hcontents

/-- Other spaces and comments are one error. -/
theorem ofText_of_not_silent {w : List UInt8} (h : Gaps d.hashComments w) (hnot : ¬Silent w) :
    ∃ message, Stream.ofText d w = [.error (.parse message)] := by
  cases hdecode : Utf8.decode w with
  | error fault => exact ⟨_, by rw [Stream.ofText, hdecode]; rfl⟩
  | ok chars =>
    rw [Stream.ofText_of_decode hdecode, Stream.ofChars]
    cases htokens : Lexer.tokens d chars with
    | error failure => exact ⟨_, rfl⟩
    | ok ts =>
      -- the first token is from a number sign on
      rcases h.exists_hash with hplain | ⟨hd, front, back, rfl, hfront⟩
      · exact absurd ⟨hplain, chars, hdecode⟩ hnot
      have hlexes := Lexer.lexes_of_tokens htokens
      obtain ⟨us, hus, hcontents⟩ := hlexes.tokens
      cases htokens.symm.trans hus
      obtain ⟨cs, hcs, hsame⟩ :=
        Lexer.tokenizes_gaps (d := d) hfront (Utf8.decode_eq_ok_iff.mp hdecode)
      obtain ⟨cs, rfl, -⟩ := hcs.exists_of_cons (by decide)
      obtain ⟨s, hs, behind, more, hfirst⟩ :=
        Lexer.tokenizes_hash hd ((hsame _).mp ⟨_, hlexes, rfl⟩)
      rw [hfirst] at hcontents
      obtain ⟨t, ts, rfl, ht, -⟩ := List.map_eq_cons_iff.mp hcontents
      exact ⟨_, Stream.items_hash hs d (congrArg Prod.fst ht) ts⟩

/-- A text that is empty or whose last byte is a semicolon that ends a statement. -/
def Terminated (d : Dialect) (text : List UInt8) : Prop :=
  text = [] ∨ ∃ front, text = front ++ [Mode.semicolon] ∧ Mode.behind d .code front = .code

/-- The items of all statement texts behind a text that is terminated. -/
theorem flatMap_pieces_terminated {text : List UInt8} (h : Terminated d text)
    (more : List UInt8) :
    (pieces d (text ++ more)).flatMap (Stream.ofText d) =
      (pieces d text).flatMap (Stream.ofText d) ++
        (pieces d more).flatMap (Stream.ofText d) := by
  rcases h with rfl | ⟨front, rfl, hcode⟩
  · rfl
  · rw [List.append_assoc, List.singleton_append, flatMap_pieces_join hcode,
      flatMap_pieces_join hcode, show pieces d [] = [] from rfl, List.flatMap_nil, List.append_nil]

/-- The items with spaces, comments and a semicolon between a text that is terminated and another
    one. -/
theorem textItems_gaps {text w : List UInt8} (h : Terminated d text)
    (hw : Gaps d.hashComments w) (more : List UInt8) :
    textItems d (text ++ (w ++ Mode.semicolon :: more)) =
      throughError ((pieces d text).flatMap (Stream.ofText d) ++
        (Stream.ofText d w ++ (pieces d more).flatMap (Stream.ofText d))) := by
  have hclosed := Splitter.lexemes_iff_closed.mp hw.lexemes
  rw [textItems, flatMap_pieces_terminated h, pieces_of_closed hclosed, List.flatMap_cons]

theorem textItems_closed {w : List UInt8} (h : Closed d w) :
    textItems d w = throughError (Stream.ofText d w) := by
  obtain ⟨seen, hseen⟩ := h
  rw [textItems, pieces_of_unended ⟨_, seen, hseen⟩]
  split
  · next hempty => rw [List.isEmpty_iff.mp hempty, Stream.ofText_nil, List.flatMap_nil]
  · rw [List.flatMap_singleton]

/-- Let spaces, comments and a semicolon stand between a text that is empty or ends with its
    semicolon and any other text, in whatever buffers. If the lexer makes nothing of them, then
    reader and audit are the same as without them. If not, they are an error by themselves, with
    which the reader ends behind the items of the first text, unless it has one before; nothing of
    the other text is read. -/
theorem empty_statements (d : Dialect) {front w back : List UInt8} (hfront : Terminated d front)
    (hw : Gaps d.hashComments w) (buffers without : List (List UInt8))
    (hbuffers : buffers.flatten = front ++ (w ++ Mode.semicolon :: back))
    (hwithout : without.flatten = front ++ back) :
    let itemsOf (buffers : List (List UInt8)) : List Item :=
      (Reader.start d (Source.ofBuffers buffers none)).items
    (Silent w → itemsOf buffers = itemsOf without ∧
      ∀ (catalog : Catalog) (config : Config),
        let outcomeOf (buffers : List (List UInt8)) : Outcome :=
          (audit catalog { config with dialect := d } (Source.ofBuffers buffers none) {}).outcome
        outcomeOf buffers = outcomeOf without) ∧
    (¬Silent w → ∃ message, itemsOf [w] = [.error (.parse message)] ∧
      itemsOf buffers =
        if hasError (itemsOf [front]) then itemsOf [front]
        else itemsOf [front] ++ [.error (.parse message)]) := by
  intro itemsOf
  -- the gap and its semicolon are one statement text of the whole
  have hjoined := textItems_gaps hfront hw back
  rw [← hbuffers] at hjoined
  constructor
  · intro hsilent
    have hitems : itemsOf buffers = itemsOf without := by
      simp only [itemsOf, items_ofBuffers]
      rw [hjoined, ofText_of_silent hsilent, List.nil_append, ← flatMap_pieces_terminated hfront,
        ← hwithout]
      rfl
    refine ⟨hitems, fun catalog config => ?_⟩
    simp only [outcome_audit]
    exact congrArg (Outcome.ofItems catalog { config with dialect := d }) hitems
  · intro hnot
    obtain ⟨message, herror⟩ := ofText_of_not_silent hw hnot
    refine ⟨message, ?_, ?_⟩
    · simp only [itemsOf, items_ofBuffers, List.flatten_cons, List.flatten_nil, List.append_nil]
      rw [textItems_closed (Splitter.lexemes_iff_closed.mp hw.lexemes), herror]
      rfl
    · simp only [itemsOf, items_ofBuffers, List.flatten_cons, List.flatten_nil, List.append_nil]
      rw [hjoined, herror, throughError_append]
      rfl

/-- Behind a selection with a semicolon in a string, spaces and two comments with semicolons in
    them, before an incomplete selection. -/
theorem empty_statements_between :
    let front := Utf8.encode "SELECT ';';"
    let w := Utf8.encode "\t-- ;\r\n/* ; */"
    let buffers :=
      [Utf8.encode "SELECT ';';\t-", Utf8.encode "- ;\r\n/* ; */;SEL", Utf8.encode "ECT"]
    let outcomeOf (buffers : List (List UInt8)) : Outcome :=
      (audit ⟨[⟨"t", ["a"]⟩]⟩ {} (Source.ofBuffers buffers none) {}).outcome
    Terminated .mysql front ∧ Gaps true w ∧ Silent w ∧
      buffers.flatten = front ++ (w ++ Mode.semicolon :: Utf8.encode "SELECT") ∧
      (Reader.start .mysql (Source.ofBuffers buffers none)).items.map Reader.isError =
        [false, true] ∧
      outcomeOf buffers = outcomeOf [front, Utf8.encode "SELECT"] := by
  intro front w buffers outcomeOf
  have hfront : Terminated .mysql front :=
    .inr ⟨Utf8.encode "SELECT ';'", by decide +kernel, by decide +kernel⟩
  have hw : w = [9] ++ (45 :: 45 :: ([32, 59, 13] ++ [newline]) ++
      (47 :: 42 :: ([32, 59, 32] ++ [42, 47]) ++ [])) := by decide +kernel
  -- a tab, a comment of dashes through its newline, and a block comment
  have hgaps (hashes : Bool) : Gaps hashes w := by
    rw [hw]
    exact .append (.space (by decide))
      (.append (.dashes (by decide)) (.append (.block (by decide) (by decide)) .nil))
  have hsilent : Silent w :=
    ⟨hgaps false, "\t-- ;\r\n/* ; */".toList, eq_ok_of_toOption (by decide +kernel)⟩
  have hbuffers : buffers.flatten = front ++ (w ++ Mode.semicolon :: Utf8.encode "SELECT") := by
    decide +kernel
  obtain ⟨hitems, houtcome⟩ := (empty_statements .mysql hfront (hgaps true) buffers
    [front, Utf8.encode "SELECT"] hbuffers (by simp)).1 hsilent
  refine ⟨hfront, hgaps true, hsilent, hbuffers, ?_, houtcome ⟨[⟨"t", ["a"]⟩]⟩ {}⟩
  dsimp only at hitems
  rw [hitems]
  decide +kernel

/-- A comment that begins with a number sign, before its semicolon and a selection, is an error in
    MySQL, and the selection is not read. -/
theorem hash_comment_is_error :
    let w := Utf8.encode "# c\n"
    let back := Utf8.encode "SELECT 1"
    let itemsOf (buffers : List (List UInt8)) : List Item :=
      (Reader.start .mysql (Source.ofBuffers buffers none)).items
    Terminated .mysql [] ∧ Gaps (Dialect.hashComments .mysql) w ∧
      itemsOf [[] ++ (w ++ Mode.semicolon :: back)] ≠ itemsOf [[] ++ back] := by
  intro w back itemsOf
  have hw : w = 35 :: ([32, 99] ++ [newline]) ++ [] := by decide +kernel
  have hgaps : Gaps (Dialect.hashComments .mysql) w := by
    rw [hw]
    exact .append (.hash rfl (by decide)) .nil
  refine ⟨.inl rfl, hgaps, fun h => ?_⟩
  have herror : (itemsOf [[] ++ (w ++ Mode.semicolon :: back)]).map Reader.isError = [true] := by
    decide +kernel
  have hread : (itemsOf [[] ++ back]).map Reader.isError = [false] := by decide +kernel
  rw [h, hread] at herror
  cases herror

end QueryAudit
