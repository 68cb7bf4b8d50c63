import Mathlib.Logic.Function.Iterate
import QueryAudit.Sql.Grammar.Command

/-!
# Rules take tokens before they come back

Each rule takes a token, and before it does it asks only rules of a lower order: a statement may
begin with a query, a query with a body and an expression with an operand, but operands, bodies and
relations begin with tokens of their own. So no rule is used inside another one more than three
times before a token is taken, and the uses that are counted for the tokens of a text never run out.
-/

namespace QueryAudit.Sql

/-- How many rules inside one another may be asked before a token is taken. -/
def Nonterminal.order {α : Type} : Nonterminal α → Nat
  | .operand | .body _ | .joined => 0
  | .subexpr _ | .interval | .query => 1
  | .statement => 2

theorem Nonterminal.order_le {α : Type} (x : Nonterminal α) : x.order ≤ 2 := by
  cases x <;> simp [order]

/-- Rules with the same answers for fewer than so many tokens, and those of a lower order for so
    many tokens as well. -/
def Rules.AgreeBelow (r r' : Rules) (order count : Nat) : Prop :=
  ∀ {α : Type} (x : Nonterminal α) d depth (ts : List Located),
    ts.length < count ∨ ts.length = count ∧ x.order < order →
      (r.of x).run d depth ts = (r'.of x).run d depth ts

namespace Parser

variable {α β : Type}

theorem length_rest_le (p : Parser α) {s : Setting} {ts rest : List Located} {a : α}
    (h : p s ts = .parsed a rest) : rest.length ≤ ts.length := by
  have hp := p.rest_suffix s ts
  rw [h] at hp
  exact hp.length_le

theorem bind_eq_parsed {p : Parser α} {f : α → Parser β} {s : Setting} {ts rest : List Located}
    {b : β} (h : (p >>= f) s ts = .parsed b rest) :
    ∃ a mid, p s ts = .parsed a mid ∧ f a s mid = .parsed b rest := by
  simp only [Bind.bind] at h
  cases ha : p s ts with
  | parsed a mid =>
    rw [ha] at h
    exact ⟨a, mid, rfl, h⟩
  | failed e mid =>
    rw [ha] at h
    cases h

/-- At some tokens a parser asks only rules of a lower order, unless it has taken a token. -/
def DescendsAt (order : Nat) (s : Setting) (ts : List Located) (p : Parser α) : Prop :=
  ∀ rules, s.rules.AgreeBelow rules order ts.length → p s ts = p { s with rules } ts

/-- A parser that descends and takes a token, at least for some answers. -/
structure StartsIf (order : Nat) (s : Setting) (ts : List Located) (p : Parser α)
    (P : α → Prop) : Prop where
  descends : DescendsAt order s ts p
  takes : ∀ {a rest}, p s ts = .parsed a rest → P a → rest.length < ts.length

/-- A parser that descends and takes a token wherever it has an answer. -/
abbrev StartsAt (order : Nat) (s : Setting) (ts : List Located) (p : Parser α) : Prop :=
  StartsIf order s ts p fun _ => True

variable {order : Nat} {s : Setting} {ts : List Located} {p : Parser α} {f : α → Parser β}
  {P : α → Prop} {Q : β → Prop}

namespace DescendsAt

theorem plainly (run : Dialect → List Located → Outcome α)
    (rest_suffix : ∀ d ts, (run d ts).rest <:+ ts) :
    DescendsAt order s ts (plainly run rest_suffix) :=
  fun _ _ => rfl

theorem pure (a : α) : DescendsAt order s ts (pure a) :=
  fun _ _ => rfl

theorem use {x : Nonterminal α} (hx : x.order < order) : DescendsAt order s ts (use x) :=
  fun _ h => h x s.dialect s.depth ts (.inr ⟨rfl, hx⟩)

/-- Behind a token that was taken all rules may be asked. -/
theorem bind (hp : DescendsAt order s ts p)
    (hf : ∀ a, p s ts = .parsed a ts → DescendsAt order s ts (f a)) :
    DescendsAt order s ts (p >>= f) := by
  intro rules h
  simp only [Bind.bind]
  rw [← hp rules h]
  cases ha : p s ts with
  | failed e rest => rfl
  | parsed a rest =>
    have hsuffix := p.rest_suffix s ts
    rw [ha] at hsuffix
    rcases Nat.lt_or_eq_of_le hsuffix.length_le with hlt | hlen
    · exact (f a).run_congr s rules rest fun x d depth ts' hts =>
        h x d depth ts' (.inl (Nat.lt_of_le_of_lt hts hlt))
    · obtain rfl := hsuffix.eq_of_length hlen
      exact hf a ha rules h

theorem deeper (h : ∀ depth, DescendsAt order { s with depth } ts p) :
    DescendsAt order s ts (deeper p) := by
  intro rules hrules
  obtain ⟨d, depth, r⟩ := s
  cases depth with
  | zero => rfl
  | succ depth => exact h depth rules hrules

end DescendsAt

namespace StartsIf

/-- A parser that may take nothing. -/
theorem never (h : DescendsAt order s ts p) : StartsIf order s ts p fun _ => False :=
  ⟨h, fun _ hfalse => hfalse.elim⟩

theorem pure {a : α} (ha : ¬P a) : StartsIf order s ts (pure a) P :=
  ⟨.pure a, fun h hP => by cases h; exact absurd hP ha⟩

/-- What follows an answer without a token has to start with one. -/
theorem bind_then (hp : StartsIf order s ts p P)
    (hf : ∀ a, ¬P a → p s ts = .parsed a ts → StartsIf order s ts (f a) Q) :
    StartsIf order s ts (p >>= f) Q where
  descends := hp.descends.bind fun a ha =>
    (hf a (fun hP => absurd (hp.takes ha hP) (Nat.lt_irrefl _)) ha).descends
  takes h hQ := by
    obtain ⟨a, mid, ha, hrest⟩ := bind_eq_parsed h
    have hsuffix := p.rest_suffix s ts
    rw [ha] at hsuffix
    rcases Nat.lt_or_eq_of_le hsuffix.length_le with hlt | hlen
    · exact Nat.lt_of_le_of_lt (length_rest_le _ hrest) hlt
    · obtain rfl := hsuffix.eq_of_length hlen
      have hP : ¬P a := fun hP => absurd (hp.takes ha hP) (Nat.lt_irrefl _)
      exact (hf a hP ha).takes hrest hQ

/-- What starts with a token may go on with anything. -/
theorem bind (hp : StartsAt order s ts p) : StartsIf order s ts (p >>= f) Q :=
  hp.bind_then fun _ hno => absurd trivial hno

theorem ite {c : Prop} [Decidable c] {x y : Parser α} (hx : c → StartsIf order s ts x P)
    (hy : ¬c → StartsIf order s ts y P) : StartsIf order s ts (if c then x else y) P := by
  split
  · next h => exact hx h
  · next h => exact hy h

/-- What is chosen by tokens starts with them. -/
theorem choose {c : Parser Bool} {x y : Parser α} (hc : StartsIf order s ts c (· = true))
    (hy : StartsIf order s ts y P) : StartsIf order s ts (do if ← c then x else y) P :=
  hc.bind_then fun _ hno _ => .ite (fun h => absurd h hno) fun _ => hy

theorem expected (what : String) : StartsIf order s ts (expected what) P :=
  ⟨.plainly _ _, nofun⟩

theorem unexpected (what : String) : StartsIf order s ts (unexpected what) P :=
  ⟨.plainly _ _, nofun⟩

theorem deeper (h : ∀ depth, StartsIf order { s with depth } ts p P) :
    StartsIf order s ts (deeper p) P where
  descends := .deeper fun depth => (h depth).descends
  takes ha hP := by
    rw [Parser.deeper] at ha
    dsimp only at ha
    split at ha
    · cases ha
    · exact (h _).takes ha hP

theorem attempt (h : StartsAt order s ts p) :
    StartsIf order s ts (attempt p) fun found => found ≠ none where
  descends rules hrules := by
    simp only [Parser.attempt, Parser.revise]
    rw [← h.descends rules hrules]
  takes ha hne := by
    simp only [Parser.attempt, Parser.revise] at ha
    cases hp : p s ts with
    | parsed b left =>
      rw [hp] at ha
      cases ha
      exact h.takes hp trivial
    | failed e left =>
      rw [hp] at ha
      cases ha
      exact absurd rfl hne

end StartsIf

/-! ### Looking at tokens and taking them -/

theorem startsAt_skip (hts : ts ≠ []) : StartsAt order s ts skip where
  descends := .bind (.plainly _ _) fun _ _ => .pure _
  takes h _ := by
    cases ts with
    | nil => exact absurd rfl hts
    | cons t ts =>
      cases h
      exact Nat.lt_succ_self _

/-- What looks at tokens and takes none. -/
theorem looks_has (feature : Dialect → Bool) :
    StartsIf order s ts (has feature) fun _ => False :=
  .never (.plainly _ _)

theorem looks_peek : StartsIf order s ts peek fun _ => False :=
  .never fun _ _ => rfl

theorem looks_peekKeyword : StartsIf order s ts peekKeyword fun _ => False :=
  .never (by cases ts <;> exact fun _ _ => rfl)

theorem looks_peekIs (symbol : Symbol) : StartsIf order s ts (peekIs symbol) fun _ => False :=
  .never fun _ _ => rfl

/-- Where a token is seen there is one to be taken. -/
theorem ne_nil_of_peek {t : Token} (h : peek s ts = .parsed (some t) ts) : ts ≠ [] := by
  rintro rfl
  cases h

/-- Where a keyword is seen there is a token to be taken. -/
theorem ne_nil_of_peekKeyword {k : Keyword} (h : peekKeyword s ts = .parsed k ts)
    (hk : k ≠ .ordinary) : ts ≠ [] := by
  rintro rfl
  cases h
  exact hk rfl

/-- A keyword that is found is taken. -/
theorem startsIf_keyword {k : Keyword} (hk : k ≠ .ordinary := by decide) :
    StartsIf order s ts (keyword k) (· = true) :=
  .bind_then looks_peekKeyword fun _ _ h => .ite
    (fun hfound => .bind (startsAt_skip (ne_nil_of_peekKeyword h (hfound ▸ hk))))
    fun _ => .pure Bool.false_ne_true

/-- A symbol that is found is taken. -/
theorem startsIf_accept (symbol : Symbol) :
    StartsIf order s ts (accept symbol) (· = true) := by
  refine (looks_peekIs symbol).bind_then fun found _ h => .ite (fun hfound => .bind ?_)
    fun _ => .pure Bool.false_ne_true
  refine startsAt_skip ?_
  rintro rfl
  cases h
  cases hfound

/-- Keywords that are found are taken. -/
theorem startsIf_keywords (k : Keyword) (ks : List Keyword) :
    StartsIf order s ts (keywords (k :: ks)) (· = true) where
  descends := .plainly _ _
  takes h hfound := by
    simp only [keywords, Parser.plainly] at h
    split at h
    · cases h
      cases ts with
      | nil => contradiction
      | cons t ts =>
        simp only [List.length_cons, List.drop_succ_cons, List.length_drop]
        omega
    · cases h
      cases hfound

theorem startsAt_expect (symbol : Symbol) : StartsAt order s ts (expect symbol) :=
  (startsIf_accept symbol).bind_then fun _ hno _ =>
    .ite (fun h => absurd h hno) fun _ => .expected _

theorem startsAt_expectKeyword {k : Keyword} (hk : k ≠ .ordinary := by decide) :
    StartsAt order s ts (expectKeyword k) :=
  (startsIf_keyword hk).bind_then fun _ hno _ => .ite (fun h => absurd h hno) fun _ => .expected _

theorem startsAt_inParens (p : Parser α) : StartsAt order s ts (inParens p) :=
  (startsAt_expect .lparen).bind

/-! ### Names, literals and types -/

theorem startsAt_name : StartsAt order s ts name := by
  refine .bind_then looks_peek fun t _ ht => ?_
  split
  · next hname =>
    cases t with
    | none => cases hname
    | some t => exact (startsAt_skip (ne_nil_of_peek ht)).bind
  · exact .unexpected _

theorem startsAt_qualifiedName : StartsAt order s ts qualifiedName :=
  .bind startsAt_name

theorem startsAt_literal : StartsAt order s ts literal := by
  refine .bind_then looks_peek fun t _ ht => ?_
  split
  · exact .unexpected _
  · have hskip : StartsAt order s ts skip := startsAt_skip (ne_nil_of_peek ht)
    refine (StartsIf.never (.plainly _ _)).bind_then fun d _ _ => ?_
    split
    · exact hskip.bind
    · exact .ite (fun _ => hskip.bind) fun _ => .unexpected _

theorem startsAt_dataTypeWithin (given : List Located) :
    StartsAt order s ts (dataTypeWithin given) := by
  cases given with
  | nil => exact .unexpected _
  | cons _ left =>
    refine .bind_then looks_peek fun t _ ht => ?_
    extract_lets goOn
    split
    · have hskip : StartsAt order s ts skip := startsAt_skip (ne_nil_of_peek ht)
      exact .ite (fun _ => hskip.bind) fun _ => .ite (fun _ => hskip.bind) fun _ =>
        .bind (.bind startsAt_qualifiedName)
    · exact .bind (.unexpected _)

theorem startsAt_dataType : StartsAt order s ts dataType :=
  .bind <| (StartsIf.never (.plainly _ _)).bind_then fun given _ _ => startsAt_dataTypeWithin given

theorem startsAt_structFields : StartsAt order s ts structFields :=
  (StartsIf.never fun _ _ => rfl).bind_then fun _ _ _ => .bind startsAt_expectKeyword

end Parser

namespace Grammar

open QueryAudit.Sql.Parser

variable {order : Nat} {s : Setting} {ts : List Located}

/-! ### Rules that begin with tokens -/

theorem startsAt_marked {symbol : Symbol} (hts : ts ≠ []) :
    StartsAt order s ts (marked symbol) := by
  have hskip : StartsAt order s ts skip := startsAt_skip hts
  unfold marked
  split
  · exact hskip.bind
  · exact hskip.bind
  · exact hskip.bind
  · exact hskip.bind
  · refine (looks_has _).bind_then fun known _ _ => ?_
    split
    · exact hskip.bind
    · exact .ite (fun _ => .bind startsAt_literal) fun _ => .unexpected _

theorem startsAt_uncollated : StartsAt order s ts uncollated := by
  refine .bind_then looks_peek fun t _ ht => ?_
  split
  · refine (looks_has _).bind_then fun known _ _ => ?_
    exact .ite (fun _ => .bind startsAt_structFields) fun _ =>
      .bind (startsAt_skip (ne_nil_of_peek ht))
  · exact startsAt_marked (ne_nil_of_peek ht)
  · refine (looks_has _).bind_then fun known _ _ => ?_
    exact .ite (fun _ => .bind startsAt_literal) fun _ => .unexpected _
  · exact .bind startsAt_literal
  · exact .bind startsAt_literal
  · exact .bind startsAt_literal
  · exact .bind startsAt_literal
  · exact .unexpected _

theorem startsAt_operandOf : StartsAt order s ts operandOf := by
  -- a type with a text behind it is tried first, and takes nothing if it is none
  have htyped : StartsAt order s ts typedText := .bind startsAt_dataType
  refine htyped.attempt.bind_then fun found hno _ => ?_
  cases found with
  | some e => exact absurd nofun hno
  | none => exact .bind startsAt_uncollated

theorem startsAt_relation : StartsAt order s ts relation := by
  refine .choose startsIf_keyword <| .choose startsIf_keyword <| .choose (startsIf_accept _) ?_
  refine .bind_then looks_peekKeyword fun k _ hk => (looks_has _).bind_then fun known _ _ => ?_
  refine .ite (fun h => ?_) fun _ => .choose startsIf_keyword (.bind startsAt_qualifiedName)
  have hunnest : k = .UNNEST := by
    simp only [Bool.and_eq_true, decide_eq_true_eq] at h
    exact h.1
  exact .bind (startsAt_skip (ne_nil_of_peekKeyword hk (by rw [hunnest]; decide)))

theorem startsAt_joinedOf : StartsAt order s ts joinedOf :=
  .bind startsAt_relation

theorem startsAt_simpleBody : StartsAt order s ts simpleBody := by
  refine .choose startsIf_keyword ((looks_peekIs .lparen).bind_then fun found _ _ => ?_)
  exact .ite (fun _ => .bind (startsAt_inParens _)) fun _ =>
    .choose startsIf_keyword (.choose startsIf_keyword (.expected _))

theorem startsAt_bodyOf (outer : Nat) : StartsAt order s ts (bodyOf outer) :=
  .bind startsAt_simpleBody

/-- The words for a lock are taken if there are any. -/
theorem startsIf_tableLocks : StartsIf order s ts tableLocks fun locks => locks ≠ none := by
  refine (looks_has _).bind_then fun known _ _ => .ite (fun _ => ?_) fun _ => .pure (· rfl)
  exact .choose (startsIf_keywords _ _) (.choose (startsIf_keywords _ _) (.pure (· rfl)))

/-! ### Rules that begin with other rules -/

variable {d : Dialect} {depth : Nat} (rules : Rules)

/-- A rule that is asked for starts with a token if the parser that it is does. -/
theorem startsAt_use {α : Type} {x : Nonterminal α} (hx : x.order < order)
    (h : StartsAt x.order ⟨d, depth, rules⟩ ts x.parser) :
    StartsAt order ⟨d, depth, rules.around⟩ ts (use x) :=
  ⟨.use hx, h.takes⟩

theorem startsAt_operand : StartsAt 1 ⟨d, depth, rules.around⟩ ts operand :=
  startsAt_use rules Nat.zero_lt_one startsAt_operandOf

theorem startsAt_subexprOf (outer : Rank) :
    StartsAt 1 ⟨d, depth, rules.around⟩ ts (subexprOf outer) :=
  (startsAt_operand rules).bind

theorem startsAt_intervalRule : StartsAt 1 ⟨d, depth, rules.around⟩ ts intervalRule :=
  .bind (startsAt_operand rules).bind

theorem startsAt_queryOf : StartsAt 1 ⟨d, depth, rules.around⟩ ts queryOf := by
  refine .deeper fun depth => ?_
  have hcommon : StartsIf 1 ⟨d, depth, rules.around⟩ ts commonQueries fun _ => False :=
    .choose startsIf_keyword (.pure id)
  have hbody : StartsAt 1 ⟨d, depth, rules.around⟩ ts (body 0) :=
    startsAt_use rules Nat.zero_lt_one (startsAt_bodyOf 0)
  exact hcommon.bind_then fun common _ _ =>
    .choose startsIf_keyword (.choose startsIf_keyword hbody.bind)

theorem startsAt_statementOf : StartsAt 2 ⟨d, depth, rules.around.around⟩ ts statementOf := by
  refine .deeper fun depth => ?_
  have hquery : StartsAt 2 ⟨d, depth, rules.around.around⟩ ts
      (do return Statement.query (← query)) :=
    .bind (startsAt_use rules.around Nat.one_lt_two (startsAt_queryOf rules))
  refine .bind_then looks_peekKeyword fun k _ hk => (looks_has _).bind_then fun comments _ _ => ?_
  have hskip (hne : k ≠ .ordinary) : StartsAt 2 ⟨d, depth, rules.around.around⟩ ts skip :=
    startsAt_skip (ne_nil_of_peekKeyword hk hne)
  refine .ite (fun h => ?_) fun _ => .bind_then startsIf_tableLocks fun locks hno _ => ?_
  · -- every other word is taken before a rule is asked for what follows it
    have hcomment : k = .COMMENT := by
      simp only [Bool.and_eq_true, decide_eq_true_eq] at h
      exact h.1
    exact .bind (hskip (by rw [hcomment]; decide))
  · cases locks with
    | some locks => exact absurd nofun hno
    | none =>
      dsimp only
      split
      · exact hquery
      · exact hquery
      · exact hquery
      · exact .bind (hskip (by decide))
      · exact .bind (hskip (by decide))
      · split
        · next rule hrule =>
          refine .bind (hskip fun hordinary => ?_)
          rw [hordinary] at hrule
          cases hrule
        · exact (looks_peekIs .lparen).bind_then fun found _ _ =>
            .ite (fun _ => hquery) fun _ => .unexpected _

/-- Every rule starts with a token, over rules that are as many above others as its order says. -/
theorem startsAt_rule {α : Type} (x : Nonterminal α) :
    StartsAt x.order ⟨d, depth, Rules.around^[x.order] rules⟩ ts x.parser :=
  match x with
  | .subexpr outer => startsAt_subexprOf rules outer
  | .operand => startsAt_operandOf
  | .interval => startsAt_intervalRule rules
  | .query => startsAt_queryOf rules
  | .body outer => startsAt_bodyOf outer
  | .joined => startsAt_joinedOf
  | .statement => startsAt_statementOf rules

end Grammar

/-! ### The uses that are counted -/

namespace Rules

theorem upTo_eq_iterate (uses : Nat) : upTo uses = around^[uses] nothing := by
  induction uses with
  | zero => rfl
  | succ uses ih => rw [upTo, ih, Function.iterate_succ_apply']

/-- What stands behind enough uses of the rules is never asked. -/
theorem run_around_iterate (rules rules' : Rules) {α : Type} {x : Nonterminal α} {d : Dialect}
    {depth uses : Nat} {ts : List Located} (h : 3 * ts.length + x.order < uses) :
    ((around^[uses] rules).of x).run d depth ts = ((around^[uses] rules').of x).run d depth ts := by
  induction uses generalizing α x d depth ts with
  | zero => exact absurd h (Nat.not_lt_zero _)
  | succ uses ih =>
    -- a rule asks for fewer tokens, each of which is worth three uses, or for rules of a lower
    -- order
    have hagree : (around^[uses] rules).AgreeBelow (around^[uses] rules') x.order ts.length := by
      intro _ y d' depth' ts' hbelow
      have hy := y.order_le
      have hfewer : 3 * ts'.length + y.order < uses := by omega
      exact ih hfewer
    obtain ⟨above, rfl⟩ : ∃ above, uses = x.order + above := ⟨uses - x.order, by omega⟩
    have hstarts : Parser.StartsAt x.order ⟨d, depth, around^[x.order] (around^[above] rules)⟩ ts
        x.parser := Grammar.startsAt_rule _ x
    rw [← Function.iterate_add_apply] at hstarts
    rw [Function.iterate_succ_apply', Function.iterate_succ_apply']
    exact hstarts.descends _ hagree

end Rules

namespace Grammar

/-- The uses that are counted for the tokens never run out: with more of them, and with any rules
    behind the last one, the answer is the same. -/
theorem parseStatement_eq (rules : Rules) {d : Dialect} {ts : List Located} {uses : Nat}
    (h : 3 * ts.length + 3 ≤ uses) :
    ((Rules.around^[uses] rules).of .statement).run d maxDepth ts = parseStatement d ts := by
  obtain ⟨more, rfl⟩ := Nat.exists_eq_add_of_le h
  rw [parseStatement, Rules.upTo_eq_iterate, Function.iterate_add_apply]
  exact Rules.run_around_iterate _ _ (Nat.lt_succ_self _)

/-- A statement leaves the end of the tokens. -/
theorem suffix_of_parseStatement {d : Dialect} {ts rest : List Located} {statement : Statement}
    (h : parseStatement d ts = .parsed statement rest) : rest <:+ ts := by
  have hrest := ((Rules.upTo (3 * ts.length + 3)).of .statement).rest_suffix d maxDepth ts
  rw [parseStatement] at h
  rwa [h] at hrest

theorem takes_parseStatement {d : Dialect} {ts rest : List Located} {statement : Statement}
    (h : parseStatement d ts = .parsed statement rest) : rest.length < ts.length := by
  have hstarts : Parser.StartsAt 2 ⟨d, maxDepth, (Rules.upTo (3 * ts.length)).around.around⟩ ts
      statementOf := startsAt_statementOf _
  exact hstarts.takes h trivial

/-- No statement begins with a symbol but a parenthesis. -/
theorem parseStatement_symbol {s : Symbol} (hs : s ≠ .lparen) (d : Dialect)
    {t : Located} (ht : t.token = .symbol s) (ts : List Located) :
    parseStatement d (t :: ts) = .failed (.expected "an SQL statement" (some t)) ts := by
  obtain ⟨token, p, behind⟩ := t
  cases ht
  cases d <;> cases s <;> first | rfl | exact absurd rfl hs

end Grammar

end QueryAudit.Sql
