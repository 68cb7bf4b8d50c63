import QueryAudit.Proofs.Scanning

/-!
# Lexemes

The lexer goes through a text in scans, each of which takes a lexeme: the characters of a token or
of a blank. The tokens of a text are known from its lexemes but for the places where they start.
-/

namespace QueryAudit.Sql.Lexer

/-- A scan, the characters that it takes and those that it leaves. -/
structure Lexeme where
  scan : Scan
  text : List Char
  rest : List Char
  deriving DecidableEq

/-- The lexemes of a text, at most so many and only up to a fault. -/
def lexemesFor (d : Dialect) : Nat → List Char → List Lexeme
  | 0, _ => []
  | _ + 1, [] => []
  | rounds + 1, c :: cs =>
    match (scan d c cs).length with
    | none => []
    | some n =>
      ⟨scan d c cs, (c :: cs).take n, (c :: cs).drop n⟩ ::
        lexemesFor d rounds ((c :: cs).drop n)

/-- The lexemes of a text up to a fault. Each takes a character. -/
def lexemes (d : Dialect) (text : List Char) : List Lexeme :=
  lexemesFor d text.length text

/-- The lexemes of a text that is scanned to its end. -/
inductive Lexes (d : Dialect) : List Char → List Lexeme → Prop
  | nil : Lexes d [] []
  | cons {c : Char} {cs : List Char} {n : Nat} {ls : List Lexeme}
      (h : (scan d c cs).length = some n) (hs : Lexes d ((c :: cs).drop n) ls) :
      Lexes d (c :: cs) (⟨scan d c cs, (c :: cs).take n, (c :: cs).drop n⟩ :: ls)

/-! ### Tokens without their places -/

/-- A token and the blanks behind it. -/
def content (t : Located) : Token × List Blank :=
  (t.token, t.behind)

/-- The blanks before the first token. -/
def leadingBlanks : List Lexeme → List Blank
  | ⟨.blank b _, _, _⟩ :: ls => b :: leadingBlanks ls
  | _ => []

/-- The tokens of lexemes, each with the blanks behind it, the farthest first. -/
def contents : List Lexeme → List (Token × List Blank)
  | [] => []
  | ⟨.token t _, _, _⟩ :: ls => (t, (leadingBlanks ls).reverse) :: contents ls
  | _ :: ls => contents ls

/-- Keep blanks with the latest of the tokens so far. -/
def addBlanks (bs : List Blank) : List Located → List Located
  | [] => []
  | t :: ts => { t with behind := bs.reverse ++ t.behind } :: ts

theorem addBlanks_nil (ts : List Located) : addBlanks [] ts = ts := by
  cases ts <;> rfl

theorem addBlanks_cons (b : Blank) (bs : List Blank) (ts : List Located) :
    addBlanks bs (addBlank b ts) = addBlanks (b :: bs) ts := by
  cases ts with
  | nil => rfl
  | cons t ts => simp [addBlanks, addBlank]

theorem contents_append_token (front : List Lexeme) {t : Token} {n : Nat} {text rest : List Char}
    (back : List Lexeme) :
    contents (front ++ ⟨.token t n, text, rest⟩ :: back) =
      contents front ++ (t, (leadingBlanks back).reverse) :: contents back := by
  -- a token ends the blanks in front of it, so those behind it make no difference
  have hlead (ls : List Lexeme) :
      leadingBlanks (ls ++ ⟨.token t n, text, rest⟩ :: back) = leadingBlanks ls := by
    induction ls with
    | nil => rfl
    | cons l ls ih =>
      obtain ⟨t' | b | c, text', rest'⟩ := l
      · rfl
      · exact congrArg (b :: ·) ih
      · rfl
  induction front with
  | nil => rfl
  | cons l front ih =>
    obtain ⟨t' | b | c, text', rest'⟩ := l
    · rw [List.cons_append, contents, ih, hlead, contents]
      rfl
    · exact ih
    · exact ih

/-- Tokens depend on the scans of lexemes only. -/
theorem contents_congr {ls ls' : List Lexeme} (h : ls.map Lexeme.scan = ls'.map Lexeme.scan) :
    leadingBlanks ls = leadingBlanks ls' ∧ contents ls = contents ls' := by
  induction ls generalizing ls' with
  | nil =>
    rw [List.map_nil, eq_comm, List.map_eq_nil_iff] at h
    rw [h]
    exact ⟨rfl, rfl⟩
  | cons l ls ih =>
    obtain ⟨l', ls', rfl, hscan, hrest⟩ := List.map_eq_cons_iff.mp h.symm
    obtain ⟨hlead, hcontents⟩ := ih hrest.symm
    obtain ⟨s, text, rest⟩ := l
    obtain ⟨s', text', rest'⟩ := l'
    dsimp only at hscan
    subst hscan
    -- a token takes the blanks behind it, so both lists change at once
    cases s' with
    | token t n => simp only [leadingBlanks, contents, hlead, hcontents, and_self]
    | blank b n => simp only [leadingBlanks, contents, hlead, hcontents, and_self]
    | fault f n => simp only [leadingBlanks, contents, hcontents, and_self]

/-! ### From lexemes to tokens and back -/

section Tokens

variable {d : Dialect}

/-- A scan that leaves a shorter text leaves rounds enough for it. -/
theorem length_drop_le_of_takes {c : Char} {cs : List Char} {n rounds : Nat} (hn : 1 ≤ n)
    (hr : (c :: cs).length ≤ rounds + 1) : ((c :: cs).drop n).length ≤ rounds := by
  rw [List.length_drop]
  omega

/-- A text that is scanned to its end has the tokens of its lexemes. -/
theorem Lexes.tokensFrom {text : List Char} {ls : List Lexeme} (h : Lexes d text ls)
    {rounds : Nat} (hr : text.length ≤ rounds) (done : List Located) (p : Position) :
    ∃ ts, Lexer.tokensFrom d rounds done p text = .ok ts ∧
      ts.map content =
        (addBlanks (leadingBlanks ls) done).reverse.map content ++ contents ls := by
  induction h generalizing rounds done p with
  | nil =>
    refine ⟨done.reverse, ?_, ?_⟩
    · cases rounds <;> rfl
    · rw [show leadingBlanks [] = [] from rfl, addBlanks_nil, contents, List.append_nil]
  | @cons c cs n ls hscan hs ih =>
    obtain ⟨rounds, rfl⟩ := Nat.exists_eq_succ_of_ne_zero
      (Nat.ne_zero_of_lt (Nat.lt_of_lt_of_le (Nat.succ_pos cs.length) hr))
    have hrest := length_drop_le_of_takes ((scan_reads c).takes hscan) hr
    -- a token is one more of those found before, and a blank goes to the latest of them
    cases hsc : scan d c cs with
    | fault f offset =>
      rw [hsc] at hscan
      cases hscan
    | token t m =>
      rw [hsc] at hscan
      cases hscan
      obtain ⟨ts, hts, hcontents⟩ := ih hrest (⟨t, p, []⟩ :: done)
        (p.advance ((c :: cs).take n))
      refine ⟨ts, ?_, ?_⟩
      · rw [Lexer.tokensFrom, hsc]
        exact hts
      · rw [hcontents, show leadingBlanks (⟨.token t n, _, _⟩ :: ls) = [] from rfl, addBlanks_nil]
        simp [addBlanks, contents, content]
    | blank b m =>
      rw [hsc] at hscan
      cases hscan
      obtain ⟨ts, hts, hcontents⟩ := ih hrest (addBlank b done) (p.advance ((c :: cs).take n))
      refine ⟨ts, ?_, ?_⟩
      · rw [Lexer.tokensFrom, hsc]
        exact hts
      · rw [hcontents, addBlanks_cons]
        rfl

/-- A text that has tokens is scanned to its end. -/
theorem lexes_of_tokensFrom {rounds : Nat} {done ts : List Located} {p : Position}
    {text : List Char} (h : Lexer.tokensFrom d rounds done p text = .ok ts)
    (hr : text.length ≤ rounds) : Lexes d text (lexemesFor d rounds text) := by
  induction rounds generalizing done p text with
  | zero =>
    rw [List.length_eq_zero_iff.mp (Nat.le_zero.mp hr)]
    exact .nil
  | succ rounds ih =>
    cases text with
    | nil => exact .nil
    | cons c cs =>
      rw [Lexer.tokensFrom] at h
      cases hsc : scan d c cs with
      | fault f offset =>
        rw [hsc] at h
        cases h
      -- a token and a blank are stepped over alike
      | token t n =>
        rw [hsc] at h
        have hlen : (scan d c cs).length = some n := by rw [hsc]; rfl
        have hrest := length_drop_le_of_takes ((scan_reads c).takes hlen) hr
        rw [lexemesFor, hlen]
        exact .cons hlen (ih h hrest)
      | blank b n =>
        rw [hsc] at h
        have hlen : (scan d c cs).length = some n := by rw [hsc]; rfl
        have hrest := length_drop_le_of_takes ((scan_reads c).takes hlen) hr
        rw [lexemesFor, hlen]
        exact .cons hlen (ih h hrest)

/-- A text that is scanned to its end has the tokens of its lexemes. -/
theorem Lexes.tokens {text : List Char} {ls : List Lexeme} (h : Lexes d text ls) :
    ∃ ts, Lexer.tokens d text = .ok ts ∧ ts.map content = contents ls := by
  obtain ⟨ts, hts, hcontents⟩ := h.tokensFrom (Nat.le_refl text.length) [] {}
  exact ⟨ts, hts, hcontents⟩

/-- A text that has tokens is scanned to its end. -/
theorem lexes_of_tokens {text : List Char} {ts : List Located}
    (h : Lexer.tokens d text = .ok ts) : Lexes d text (lexemes d text) :=
  lexes_of_tokensFrom h (Nat.le_refl text.length)

end Tokens

/-! ### Lexemes between semicolons -/

def Lexeme.isSemicolon (l : Lexeme) : Bool :=
  match l.scan with
  | .token t _ => t = .symbol .semicolon
  | _ => false

def textOf (ls : List Lexeme) : List Char :=
  ls.flatMap Lexeme.text

/-- The lexemes between semicolons, `seen` being those of the first group, latest first. There is
    no last group if it is empty. -/
def groupsFrom (seen : List Lexeme) : List Lexeme → List (List Lexeme)
  | [] => if seen.isEmpty then [] else [seen.reverse]
  | l :: ls =>
    if l.isSemicolon then seen.reverse :: groupsFrom [] ls else groupsFrom (l :: seen) ls

/-- The lexemes between semicolons. -/
def groups (ls : List Lexeme) : List (List Lexeme) :=
  groupsFrom [] ls

/-- Whether a lexeme is something that the splitter does not know. -/
def Lexeme.isForeign (d : Dialect) (l : Lexeme) : Bool :=
  Lexer.isForeign d l.scan l.text l.rest.head?

section Groups

variable {d : Dialect} {text : List Char} {ls : List Lexeme}

theorem Lexes.textOf_eq (h : Lexes d text ls) : textOf ls = text := by
  induction h with
  | nil => rfl
  | @cons c cs n ls hscan hs ih =>
    rw [textOf, List.flatMap_cons]
    show (c :: cs).take n ++ textOf ls = c :: cs
    rw [ih, List.take_append_drop]

theorem isSemicolon_iff (l : Lexeme) :
    l.isSemicolon = true ↔ ∃ n, l.scan = .symbol .semicolon n := by
  obtain ⟨t | b | c, text, rest⟩ := l
  · simp [Lexeme.isSemicolon, Scan.symbol]
  · simp [Lexeme.isSemicolon, Scan.symbol]
  · simp [Lexeme.isSemicolon, Scan.symbol]

theorem Lexes.text_of_isSemicolon (h : Lexes d text ls) :
    ∀ l ∈ ls, l.isSemicolon = true → l.text = [';'] := by
  induction h with
  | nil => exact List.forall_mem_nil _
  | @cons c cs n ls hscan hs ih =>
    intro l hl hsemi
    rcases List.mem_cons.mp hl with rfl | hl
    · obtain ⟨m, hm⟩ := (isSemicolon_iff _).mp hsemi
      dsimp only at hm
      obtain ⟨rfl, rfl⟩ := scan_semicolon hm
      rw [hm] at hscan
      cases hscan
      rfl
    · exact ih l hl hsemi

/-- A lexeme that is not foreign is passed. -/
theorem Lexes.passed (h : Lexes d text ls) :
    ∀ l ∈ ls, l.isSemicolon = false → l.isForeign d = false → Passed d l.text l.rest := by
  induction h with
  | nil => exact List.forall_mem_nil _
  | @cons c cs n ls hscan hs ih =>
    intro l hl hsemi hforeign
    rcases List.mem_cons.mp hl with rfl | hl
    · refine (scan_reads c).passed hscan hforeign ?_
      intro m hm
      rw [(isSemicolon_iff _).mpr ⟨m, hm⟩] at hsemi
      cases hsemi
    · exact ih l hl hsemi hforeign

/-- What stands behind some lexemes is scanned to its end. -/
theorem Lexes.back {front back : List Lexeme} (h : Lexes d text (front ++ back)) :
    Lexes d (textOf back) back := by
  induction front generalizing text with
  | nil =>
    have htext : textOf back = text := h.textOf_eq
    rw [htext]
    exact h
  | cons l front ih =>
    cases h with
    | cons _ hs => exact ih hs

theorem Lexes.textOf_ne_nil (h : Lexes d text ls) (hls : ls ≠ []) : textOf ls ≠ [] := by
  rw [h.textOf_eq]
  cases h with
  | nil => exact absurd rfl hls
  | cons => exact List.cons_ne_nil _ _

/-- The text of a semicolon and of what stands behind it. -/
theorem Lexes.textOf_cons {l : Lexeme} (h : Lexes d text (l :: ls)) (hl : l.isSemicolon = true) :
    textOf (l :: ls) = ';' :: textOf ls := by
  rw [textOf, List.flatMap_cons, h.text_of_isSemicolon l (.head ls) hl]
  rfl

/-- The text before a semicolon and of what stands behind it. -/
theorem Lexes.textOf_append_cons {front back : List Lexeme} {l : Lexeme}
    (h : Lexes d text (front ++ l :: back)) (hl : l.isSemicolon = true) :
    textOf (front ++ l :: back) = textOf front ++ ';' :: textOf back := by
  rw [← h.back.textOf_cons hl]
  exact List.flatMap_append

/-- Lexemes have no semicolon, or a first one. -/
theorem first_isSemicolon (ls : List Lexeme) :
    (∀ l ∈ ls, l.isSemicolon = false) ∨
      ∃ front l back, ls = front ++ l :: back ∧ l.isSemicolon = true ∧
        ∀ a ∈ front, a.isSemicolon = false := by
  induction ls with
  | nil => exact .inl (List.forall_mem_nil _)
  | cons l ls ih =>
    cases hl : l.isSemicolon with
    | true => exact .inr ⟨[], l, ls, rfl, hl, List.forall_mem_nil _⟩
    | false =>
      -- no semicolon is added in front
      have hcons {as : List Lexeme} (has : ∀ a ∈ as, a.isSemicolon = false) :
          ∀ a ∈ l :: as, a.isSemicolon = false := by
        intro a ha
        rcases List.mem_cons.mp ha with rfl | ha
        · exact hl
        · exact has a ha
      rcases ih with hnone | ⟨front, l', back, rfl, hl', hfront⟩
      · exact .inl (hcons hnone)
      · exact .inr ⟨l :: front, l', back, rfl, hl', hcons hfront⟩

/-- Induction over lexemes from one semicolon to the next. -/
theorem semicolon_induction {motive : List Lexeme → Prop}
    (last : ∀ ls, (∀ l ∈ ls, l.isSemicolon = false) → motive ls)
    (next : ∀ front l back, (∀ a ∈ front, a.isSemicolon = false) → l.isSemicolon = true →
      motive back → motive (front ++ l :: back)) (ls : List Lexeme) : motive ls := by
  induction hn : ls.length using Nat.strongRecOn generalizing ls with
  | ind n ih =>
    subst hn
    rcases first_isSemicolon ls with hnone | ⟨front, l, back, rfl, hl, hfront⟩
    · exact last ls hnone
    · have hlen : back.length < (front ++ l :: back).length := by
        rw [List.length_append, List.length_cons]
        omega
      exact next front l back hfront hl (ih back.length hlen back rfl)

theorem groupsFrom_of_none (h : ∀ l ∈ ls, l.isSemicolon = false) (seen : List Lexeme) :
    groupsFrom seen ls = if (seen.reverse ++ ls).isEmpty then [] else [seen.reverse ++ ls] := by
  induction ls generalizing seen with
  | nil => rw [groupsFrom, List.append_nil, List.isEmpty_reverse]
  | cons l ls ih =>
    rw [groupsFrom, h l (.head ls), if_neg Bool.false_ne_true, ih fun a ha => h a (.tail l ha),
      List.reverse_cons, List.append_assoc]
    rfl

/-- Lexemes without a semicolon are one group, if there are any. -/
theorem groups_of_none (h : ∀ l ∈ ls, l.isSemicolon = false) :
    groups ls = if ls.isEmpty then [] else [ls] :=
  groupsFrom_of_none h []

theorem groupsFrom_of_first {front back : List Lexeme} {l : Lexeme}
    (h : ∀ a ∈ front, a.isSemicolon = false) (hl : l.isSemicolon = true) (seen : List Lexeme) :
    groupsFrom seen (front ++ l :: back) = (seen.reverse ++ front) :: groups back := by
  induction front generalizing seen with
  | nil =>
    rw [List.nil_append, groupsFrom, hl, if_pos rfl, List.append_nil]
    rfl
  | cons a front ih =>
    rw [List.cons_append, groupsFrom, h a (.head front), if_neg Bool.false_ne_true,
      ih fun b hb => h b (.tail a hb), List.reverse_cons, List.append_assoc]
    rfl

/-- Lexemes before the first semicolon are the first group. -/
theorem groups_of_first {front back : List Lexeme} {l : Lexeme}
    (h : ∀ a ∈ front, a.isSemicolon = false) (hl : l.isSemicolon = true) :
    groups (front ++ l :: back) = front :: groups back :=
  groupsFrom_of_first h hl []

theorem Lexes.passed_textOf {front back : List Lexeme} (h : Lexes d text (front ++ back))
    (hp : ∀ l ∈ front, Passed d l.text l.rest) : Passed d (textOf front) (textOf back) := by
  induction front generalizing text with
  | nil => exact fun seen => rfl
  | cons l front ih =>
    cases h with
    | @cons c cs n _ hscan hs =>
      have hrest : (c :: cs).drop n = textOf front ++ textOf back := by
        rw [← hs.textOf_eq]
        exact List.flatMap_append
      have hfirst := hp _ (.head front)
      rw [hrest] at hfirst
      exact hfirst.append (ih hs fun a ha => hp a (.tail _ ha))

/-- Lexemes of which a pass keeps those in front of each semicolon whole, and finds no end of a
    statement in those behind the last one. -/
inductive KeptWhole (d : Dialect) : List Lexeme → Prop
  | last {ls : List Lexeme} (hls : ∀ l ∈ ls, l.isSemicolon = false)
      (h : ls ≠ [] → pass byteOf d .code [] (textOf ls) = [textOf ls]) : KeptWhole d ls
  | next {front back : List Lexeme} {l : Lexeme} (hfront : ∀ a ∈ front, a.isSemicolon = false)
      (hl : l.isSemicolon = true) (h : Passed d (textOf front) (';' :: textOf back))
      (hback : KeptWhole d back) : KeptWhole d (front ++ l :: back)

/-- If all lexemes are passed, they are kept whole. -/
theorem Lexes.keptWhole (h : Lexes d text ls)
    (hp : ∀ l ∈ ls, l.isSemicolon = false → Passed d l.text l.rest) : KeptWhole d ls := by
  induction ls using semicolon_induction generalizing text with
  | last ls hls =>
    refine .last hls fun hne => ?_
    have htext := h.textOf_ne_nil hne
    rw [← List.append_nil ls] at h
    exact (h.passed_textOf fun a ha => hp a ha (hls a ha)).pass_eq_singleton htext
  | next front l back hfront hl ih =>
    have hpassed := h.passed_textOf fun a ha => hp a (List.mem_append_left _ ha) (hfront a ha)
    rw [h.back.textOf_cons hl] at hpassed
    rw [List.append_cons] at h
    exact .next hfront hl hpassed
      (ih h.back fun a ha => hp a (List.mem_append_right _ (.tail l ha)))

/-- A text is cut at its semicolons and nowhere else if and only if its lexemes are kept whole. -/
theorem Lexes.pass_eq_iff (h : Lexes d text ls) :
    pass byteOf d .code [] text = (groups ls).map textOf ↔ KeptWhole d ls := by
  rw [← h.textOf_eq]
  constructor
  · intro hpass
    induction ls using semicolon_induction generalizing text with
    | last ls hls =>
      refine .last hls fun hne => ?_
      rw [hpass, groups_of_none hls, List.isEmpty_eq_false_iff.mpr hne]
      rfl
    | next front l back hfront hl ih =>
      rw [h.textOf_append_cons hl, groups_of_first hfront hl, List.map_cons] at hpass
      -- the first statement text ends in front of the semicolon only if a pass is in code there
      have hpassed := passed_of_pass hpass
      rw [hpassed.pass_eq, List.cons.injEq] at hpass
      rw [List.append_cons] at h
      exact .next hfront hl hpassed (ih h.back hpass.2)
  · intro hkept
    induction hkept generalizing text with
    | @last ls hls hall =>
      rw [groups_of_none hls]
      cases ls with
      | nil => rfl
      | cons l ls => exact hall (List.cons_ne_nil l ls)
    | next hfront hl hpassed hback ih =>
      rw [h.textOf_append_cons hl, groups_of_first hfront hl, hpassed.pass_eq, List.map_cons]
      rw [List.append_cons] at h
      exact congrArg _ (ih h.back)

/-- Lexemes with the same scans have the same semicolons. -/
theorem not_isSemicolon_congr {ls ls' : List Lexeme}
    (h : ls'.map Lexeme.scan = ls.map Lexeme.scan) (hls : ∀ l ∈ ls, l.isSemicolon = false) :
    ∀ l ∈ ls', l.isSemicolon = false := by
  intro l hl
  have hmem : l.scan ∈ ls.map Lexeme.scan := h ▸ List.mem_map_of_mem hl
  obtain ⟨a, ha, hscan⟩ := List.mem_map.mp hmem
  have hiff : l.isSemicolon = true ↔ a.isSemicolon = true := by
    rw [isSemicolon_iff, isSemicolon_iff, hscan]
  rw [hls a ha] at hiff
  exact Bool.eq_false_iff.mpr fun h => Bool.false_ne_true (hiff.mp h)

/-- The text before a semicolon has the lexemes that it had before it. -/
theorem Lexes.front {front back : List Lexeme} {l : Lexeme}
    (h : Lexes d text (front ++ l :: back)) (hl : l.isSemicolon = true) :
    ∃ front', Lexes d (textOf front) front' ∧
      front'.map Lexeme.scan = front.map Lexeme.scan := by
  induction front generalizing text with
  | nil => exact ⟨[], .nil, rfl⟩
  | cons a front ih =>
    have hsemi := h.text_of_isSemicolon l (by simp) hl
    cases h with
    | @cons c cs n _ hscan hs =>
      obtain ⟨front', hfront, hscans⟩ := ih hs
      obtain ⟨m, rfl⟩ := Nat.exists_eq_succ_of_ne_zero
        (Nat.ne_zero_of_lt ((scan_reads c).takes hscan))
      -- what the scan leaves begins with the rest of the front and goes on with the semicolon
      have hdrop : cs.drop m = textOf front ++ ';' :: textOf back := by
        have := hs.textOf_eq
        rw [List.drop_succ_cons, textOf, List.append_eq, List.flatMap_append, List.flatMap_cons,
          hsemi] at this
        exact this.symm
      have hlen : (cs.take m).length = m := by
        have := congrArg List.length hdrop
        simp only [List.length_drop, List.length_append, List.length_cons] at this
        rw [List.length_take]
        omega
      have hcs : cs = (cs.take m ++ textOf front) ++ ';' :: textOf back := by
        rw [List.append_assoc, ← hdrop, List.take_append_drop]
      have hsame : scan d c (cs.take m ++ textOf front) = scan d c cs := by
        have hwhole := hscan
        rw [hcs] at hwhole
        have := (scan_reads c).before hwhole (by
          rw [List.length_append, List.length_singleton, hlen]
          omega)
        rw [this, ← hcs]
      have hrest : (c :: (cs.take m ++ textOf front)).drop (m + 1) = textOf front := by
        rw [List.drop_succ_cons]
        exact List.drop_left' hlen
      have hlexes : Lexes d (c :: (cs.take m ++ textOf front)) _ :=
        .cons (hsame ▸ hscan) (hrest.symm ▸ hfront)
      refine ⟨_, hlexes, ?_⟩
      rw [List.map_cons, List.map_cons, hscans, hsame]

end Groups

end QueryAudit.Sql.Lexer
