import QueryAudit.Proofs.Quotations
import QueryAudit.Sql.Grammar.Command

/-!
# Operands that are read first

Whatever stands behind a string or a quoted name, an expression that begins with it is this string
or name and nothing else, or has it inside: operators, calls and collations make new expressions of
it, and no literal or column becomes another one.
-/

namespace QueryAudit.Sql

namespace Parser

variable {α β : Type}

/-- What a parser answers with at some tokens has a property. -/
def AnswersAt (s : Setting) (ts : List Located) (p : Parser α) (Q : α → Prop) : Prop :=
  ∀ a rest, p s ts = .parsed a rest → Q a

/-- Whatever a parser answers with has a property. -/
def Answers (p : Parser α) (Q : α → Prop) : Prop :=
  ∀ s ts, AnswersAt s ts p Q

namespace AnswersAt

variable {s : Setting} {ts ts' : List Located} {p : Parser α} {f : α → Parser β} {P : α → Prop}
  {Q : β → Prop} {a : α}

/-- An answer behind another one. -/
theorem bind (h : ∀ a rest, p s ts = .parsed a rest → AnswersAt s rest (f a) Q) :
    AnswersAt s ts (p >>= f) Q := by
  intro b rest hb
  simp only [Bind.bind] at hb
  cases ha : p s ts with
  | parsed a rest' =>
    rw [ha] at hb
    exact h a rest' ha b rest hb
  | failed e rest' =>
    rw [ha] at hb
    cases hb

/-- An answer behind one that is known. -/
theorem bind_parsed (h : p s ts = .parsed a ts') (hf : AnswersAt s ts' (f a) Q) :
    AnswersAt s ts (p >>= f) Q := by
  refine bind fun b rest hb => ?_
  rw [h] at hb
  cases hb
  exact hf

theorem bind_of (hp : AnswersAt s ts p P) (hf : ∀ a, P a → (f a).Answers Q) :
    AnswersAt s ts (p >>= f) Q :=
  bind fun a rest ha => hf a (hp a rest ha) s rest

theorem deeper (h : ∀ depth, AnswersAt { s with depth } ts p P) :
    AnswersAt s ts (deeper p) P := by
  intro a rest ha
  rw [Parser.deeper] at ha
  dsimp only at ha
  split at ha
  · cases ha
  · exact h _ a rest ha

end AnswersAt

namespace Answers

variable {p : Parser α} {f : α → Parser β} {P : α → Prop} {Q : β → Prop}

theorem bind_of (hp : p.Answers P) (hf : ∀ a, P a → (f a).Answers Q) : (p >>= f).Answers Q :=
  fun s ts => (hp s ts).bind_of hf

theorem bind (hf : ∀ a, (f a).Answers Q) : (p >>= f).Answers Q :=
  fun s _ => .bind fun a rest _ => hf a s rest

theorem pure {b : β} (h : Q b) : (pure b : Parser β).Answers Q := by
  rintro s ts _ _ ⟨⟩
  exact h

theorem fail (e : SyntaxError) : (fail e : Parser β).Answers Q :=
  fun _ _ _ _ h => nomatch h

theorem expected (what : String) : (expected what : Parser β).Answers Q :=
  fun _ _ _ _ h => nomatch h

theorem unexpected (what : String) : (unexpected what : Parser β).Answers Q :=
  fun _ _ _ _ h => nomatch h

theorem ite {c : Prop} [Decidable c] {x y : Parser β} (hx : x.Answers Q) (hy : y.Answers Q) :
    (if c then x else y).Answers Q := by
  split
  · exact hx
  · exact hy

theorem mono {R : β → Prop} {q : Parser β} (h : q.Answers Q) (hr : ∀ b, Q b → R b) :
    q.Answers R :=
  fun s ts b rest hb => hr b (h s ts b rest hb)

theorem right {R : β → Prop} {q : Parser β} (h : q.Answers Q) :
    q.Answers fun b => R b ∨ Q b :=
  fun s ts b rest hb => .inr (h s ts b rest hb)

theorem inParens (h : p.Answers P) : (inParens p).Answers P :=
  .bind fun _ => .bind_of h fun _ ha => .bind fun _ => .pure ha

theorem iterateFor {step : α → Parser (Option α)}
    (hstep : ∀ a, P a → (step a).Answers fun found => ∀ b, found = some b → P b)
    {rounds : List Located} {a : α} (h : P a) : (iterateFor step rounds a).Answers P := by
  induction rounds generalizing a with
  | nil =>
    refine .bind_of (hstep a h) fun found hfound => .pure ?_
    cases found with
    | none => exact h
    | some b => exact hfound b rfl
  | cons _ rounds ih =>
    refine .bind_of (hstep a h) fun found hfound => ?_
    cases found with
    | none => exact .pure h
    | some b => exact ih (hfound b rfl)

/-- What each step keeps holds at the end of a repetition. -/
theorem iterate {step : α → Parser (Option α)}
    (hstep : ∀ a, P a → (step a).Answers fun found => ∀ b, found = some b → P b) {a : α}
    (h : P a) : (iterate step a).Answers P :=
  .bind fun _ => .iterateFor hstep h

end Answers

/-- A parser that goes back for want of a value takes nothing. -/
theorem rewinding_none {p : Parser (Option α)} {s : Setting} {ts rest : List Located}
    (h : rewinding p s ts = .parsed none rest) : rest = ts := by
  cases hp : p s ts with
  | failed e left =>
    simp only [rewinding, revise, hp] at h
    cases h
  | parsed found left =>
    simp only [rewinding, revise, hp] at h
    cases found with
    | none =>
      cases h
      rfl
    | some a => cases h

/-- A parser that fails in an attempt takes nothing. -/
theorem attempt_none {p : Parser α} {s : Setting} {ts rest : List Located}
    (h : attempt p s ts = .parsed none rest) : rest = ts := by
  cases hp : p s ts with
  | failed e left =>
    simp only [attempt, revise, hp] at h
    cases h
    rfl
  | parsed a left =>
    simp only [attempt, revise, hp] at h
    cases h

/-- An attempt that succeeds answers as the parser does. -/
theorem AnswersAt.attempt {p : Parser α} {s : Setting} {ts : List Located} {P : α → Prop}
    (h : AnswersAt s ts p P) :
    AnswersAt s ts (attempt p) fun found => ∀ a, found = some a → P a := by
  rintro found rest hfound a rfl
  cases hp : p s ts with
  | failed e left =>
    simp only [Parser.attempt, revise, hp] at hfound
    cases hfound
  | parsed b left =>
    simp only [Parser.attempt, revise, hp] at hfound
    cases hfound
    exact h a rest hp

end Parser

namespace Grammar

open QueryAudit.Sql.Parser

/-! ### Operators make no atoms -/

/-- A literal or a column. -/
def IsAtom : Expr → Prop
  | .literal _ | .column _ => True
  | _ => False

/-- Neither a literal nor a column. -/
def NoAtom (e : Expr) : Prop :=
  ¬IsAtom e

theorem answers_rightOperand (left : Expr) (op : BinaryOp) (place : Option Position) (r : Rank) :
    (rightOperand left op place r).Answers NoAtom := by
  unfold rightOperand
  refine .bind fun quantifier => ?_
  split
  · refine .bind fun right => ?_
    dsimp only
    exact .ite (.pure nofun) (.bind fun _ => .pure nofun)
  · exact .bind fun right => .pure nofun

theorem answers_truthTest (e : Expr) : (truthTest e).Answers NoAtom := by
  unfold truthTest
  refine .bind fun _ => ?_
  extract_lets tested
  have htested (found : Option (Bool × TruthTest)) : (tested found).Answers NoAtom := by
    rcases found with _ | ⟨negated, test⟩
    · refine .bind fun _ => .ite (.bind fun _ => .pure nofun) ?_
      exact .bind fun _ => .ite (.bind fun _ => .pure nofun) (.expected _)
    · exact .pure nofun
  -- each of the eight words is looked for in turn, and all lead to the same continuation
  have htruth (found : Option (Bool × TruthTest)) :
      (pure found >>= tested).Answers NoAtom := .bind htested
  exact .ite (htruth _) <| .bind fun _ => .ite (htruth _) <| .bind fun _ => .ite (htruth _) <|
    .bind fun _ => .ite (htruth _) <| .bind fun _ => .ite (htruth _) <|
    .bind fun _ => .ite (htruth _) <| .bind fun _ => .ite (htruth _) <|
    .bind fun _ => .ite (htruth _) (htruth _)

theorem answers_elements (e : Expr) (negated : Bool) :
    (elements e negated).Answers NoAtom := by
  unfold elements
  refine .bind fun _ => .ite (.bind fun _ => .pure nofun) (.inParens (.bind fun _ => ?_))
  exact .ite (.bind fun _ => .pure nofun) (.bind fun _ => .pure nofun)

theorem answers_bounds (e : Expr) (negated : Bool) : (bounds e negated).Answers NoAtom := by
  unfold bounds
  exact .bind fun _ => .bind fun _ => .bind fun _ => .pure nofun

theorem answers_patternOf (e : Expr) (negated : Bool) (op : PatternOp) :
    (patternOf e negated op).Answers NoAtom := by
  unfold patternOf
  refine .bind fun _ => ?_
  dsimp only
  exact .ite (.bind fun _ => .pure nofun) (.bind fun _ => .pure nofun)

theorem answers_test (e : Expr) : (test e).Answers NoAtom := by
  unfold test
  exact .bind fun negated => .bind fun _ =>
    .ite (.bind fun _ => answers_patternOf e negated .regexp) <| .bind fun _ =>
    .ite (answers_patternOf e negated .rLike) <| .bind fun _ =>
    .ite (answers_elements e negated) <| .bind fun _ =>
    .ite (answers_bounds e negated) <| .bind fun _ =>
    .ite (answers_patternOf e negated .like) <| .bind fun _ =>
    .ite (answers_patternOf e negated .iLike) <| .bind fun _ =>
    .ite (answers_patternOf e negated .similarTo) (.expected _)

theorem answers_timeZone (e : Expr) : (timeZone e).Answers NoAtom := by
  unfold timeZone
  refine .bind fun found => ?_
  split
  · exact .bind fun _ => .pure nofun
  · exact .unexpected _

theorem answers_indexes (e : Expr) : (indexes e).Answers NoAtom := by
  unfold indexes
  exact .bind fun _ => .bind fun _ => .pure nofun

/-- Only a column takes look-ups, anything else stays what it is. -/
theorem answers_mapAccess (e : Expr) :
    (mapAccess e).Answers fun e' => e' = e ∨ NoAtom e' := by
  unfold mapAccess
  refine .bind fun _ => .bind fun _ => ?_
  split
  · exact .pure (.inr nofun)
  · exact .pure (.inr nofun)
  · exact .pure (.inl rfl)

theorem answers_symbolic (e : Expr) (s : Symbol) (place : Located) :
    (symbolic e s place).Answers fun e' => e' = e ∨ NoAtom e' := by
  unfold symbolic
  split
  · exact .bind fun _ => .pure (.inr nofun)
  · exact .pure (.inr nofun)
  · exact .bind fun _ => .ite (answers_indexes e).right (answers_mapAccess e)
  · exact .bind fun _ => .pure (.inr nofun)
  · split
    · exact .bind fun _ => .pure (.inr nofun)
    · exact .fail _

/-- An operator makes a new expression, which is no atom, or leaves its operand as it is. -/
theorem answers_infixed (e : Expr) (r : Rank) :
    (infixed e r).Answers fun e' => e' = e ∨ NoAtom e' := by
  unfold infixed
  refine .bind fun _ => .bind fun _ => .ite (.bind fun _ => .bind fun _ => .pure (.inr nofun)) <|
    .bind fun left => ?_
  split
  · exact .pure (.inl rfl)
  · next found _ =>
    refine .bind fun op => ?_
    split
    · exact (answers_rightOperand _ _ _ _).right
    · refine .ite (answers_test e).right <| .bind fun _ => ?_
      split
      · exact (answers_truthTest e).right
      · exact .bind fun _ => (answers_timeZone e).right
      · exact answers_symbolic _ _ _
      · exact .fail _

/-- A given expression, or neither a literal nor a column. -/
def OnlyAtom (atom e : Expr) : Prop :=
  IsAtom e → e = atom

theorem NoAtom.only {atom e : Expr} (h : NoAtom e) : OnlyAtom atom e :=
  fun he => absurd he h

theorem answers_climb (atom : Expr) (ranking : Parser Rank) (outer : Rank) {e : Expr}
    (h : OnlyAtom atom e) : (climb ranking outer e).Answers (OnlyAtom atom) := by
  unfold climb
  refine .iterate (fun a ha => .bind fun r => .ite ?_ (.pure nofun)) h
  refine .bind_of (answers_infixed a r) fun a' ha' => .pure ?_
  -- an operator that leaves its operand as it is keeps it the given expression
  rintro _ ⟨⟩
  rcases ha' with rfl | hno
  · exact ha
  · exact hno.only

/-! ### Words that are no types -/

/-- Not a type of one keyword. -/
def NotPlain (type : DataType) : Prop :=
  ∀ ks, type ≠ .plain ks

theorem answers_customType : customType.Answers NotPlain := by
  unfold customType
  exact .bind fun _ => .bind fun _ => .pure nofun

/-- A word that is no keyword is the name of a custom type, if it is one. -/
theorem answersAt_dataType {w : Word} (hw : w.keyword = .ordinary) (s : Setting) (p : Position)
    (bs : List Blank) (ts : List Located) :
    AnswersAt s (⟨.word w, p, bs⟩ :: ts) dataType NotPlain := by
  have hcustom : AnswersAt s (⟨.word w, p, bs⟩ :: ts) openDataType fun found =>
      NotPlain found.1 := by
    have hremaining : remaining s (⟨.word w, p, bs⟩ :: ts) =
        .parsed (⟨.word w, p, bs⟩ :: ts) (⟨.word w, p, bs⟩ :: ts) := rfl
    have hpeek : peek s (⟨.word w, p, bs⟩ :: ts) =
        .parsed (some (.word w)) (⟨.word w, p, bs⟩ :: ts) := rfl
    refine .bind_parsed hremaining ?_
    unfold dataTypeWithin
    refine .bind_parsed hpeek ?_
    extract_lets goOn
    have hgoOn (found : DataType × Bool) (h : NotPlain found.1) :
        (goOn found).Answers fun found => NotPlain found.1 := by
      obtain ⟨type, taken⟩ := found
      refine .bind_of (.iterate (fun a _ => .bind fun _ => ?_) h) fun _ h => .pure h
      exact .ite (.bind fun _ => .pure (by rintro _ ⟨⟩; exact nofun)) (.pure nofun)
    have hfound : (customType >>= fun type => pure (type, false) >>= goOn).Answers
        fun found => NotPlain found.1 :=
      .bind_of answers_customType fun _ htype => .bind_of (.pure htype) hgoOn
    dsimp only
    -- neither branch for keywords is taken, so the word names a custom type
    rw [hw, if_neg (by decide), if_neg (by decide)]
    exact hfound s _
  refine .bind_of hcustom fun found hfound => ?_
  exact .ite (.bind fun _ => .bind fun _ => .pure hfound) (.pure hfound)

theorem answersAt_typedText {w : Word} (hw : w.keyword = .ordinary) (s : Setting) (p : Position)
    (bs : List Blank) (ts : List Located) :
    AnswersAt s (⟨.word w, p, bs⟩ :: ts) typedText NoAtom := by
  refine .bind_of (answersAt_dataType hw s p bs ts) fun type htype => ?_
  split
  · exact absurd rfl (htype _)
  · exact .expected _
  · exact .bind fun _ => .pure nofun

/-! ### Names -/

theorem answers_call (function : List Name) : (call function).Answers NoAtom := by
  unfold call
  exact .bind fun _ => .bind fun _ => .bind fun _ => .bind fun _ => .bind fun _ => .bind fun _ =>
    .pure nofun

/-- A name stands for the column of this name, or has something behind it. -/
theorem answers_named (w : Word) :
    (named w).Answers (OnlyAtom (.column ⟨w.text, w.quote⟩)) := by
  unfold named
  refine .bind fun found => ?_
  split
  · exact (answers_call _).mono fun _ h => h.only
  · refine .bind fun parts => ?_
    obtain ⟨names, starred⟩ := parts
    refine .ite (.pure nofun) (.bind fun _ => .ite ?_ (.pure nofun))
    exact (answers_call _).mono fun _ h => h.only
  · exact .ite (.bind fun _ => .pure nofun) (.pure fun _ => rfl)

/-! ### A quotation at the front -/

/-- An operand and perhaps a collation behind it. -/
def collated (e : Expr) : Parser Expr := do
  if ← keyword .COLLATE then return .collate e (← qualifiedName) else return e

theorem answers_collated {atom e : Expr} (h : OnlyAtom atom e) :
    (collated e).Answers (OnlyAtom atom) := by
  unfold collated
  exact .bind fun _ => .ite (.bind fun _ => .pure nofun) (.pure h)

section Quotation

variable (q : Quotation) (p : Position) (bs : List Blank) (d : Dialect) (depth : Nat)
  (rules : Rules) (ts : List Located)

theorem operandOf_string (quoting : Quoting) (h : quoting = .single ∨ quoting = .double)
    (text : String) (s : Setting) :
    operandOf s (⟨.quoted quoting text, p, bs⟩ :: ts) =
      collated (.literal (.quoted quoting text)) s ts := by
  rcases s with ⟨_ | _ | _, depth, rules⟩ <;> rcases h with rfl | rfl <;> rfl

theorem uncollated_word {w : Word} (hw : w.keyword = .ordinary) (s : Setting) :
    uncollated s (⟨.word w, p, bs⟩ :: ts) = named w s ts := by
  obtain ⟨text, quote, k⟩ := w
  subst hw
  rcases s with ⟨_ | _ | _, depth, rules⟩ <;> rfl

theorem answersAt_operandOf :
    AnswersAt ⟨d, depth, rules⟩ (⟨q.token d, p, bs⟩ :: ts) operandOf (OnlyAtom (q.expr d)) := by
  -- a name may be a type before a text, a string is an operand at once
  cases hname : q.isName d with
  | true =>
    have htoken : q.token d = .word ⟨q.text, some q.mark, .ordinary⟩ := if_pos hname
    have hexpr : q.expr d = .column ⟨q.text, some q.mark⟩ := if_pos hname
    rw [htoken, hexpr]
    refine .bind fun found rest hfound => ?_
    have htyped := (answersAt_typedText (w := ⟨q.text, some q.mark, .ordinary⟩) rfl
      ⟨d, depth, rules⟩ p bs ts).attempt found rest hfound
    cases found with
    | some e => exact Answers.pure (htyped e rfl).only _ _
    | none =>
      -- the attempt at a type has left all tokens where they were
      rw [attempt_none hfound]
      refine .bind_of (P := OnlyAtom (.column ⟨q.text, some q.mark⟩)) ?_ fun e he =>
        answers_collated he
      intro e rest h
      rw [uncollated_word p bs ts rfl] at h
      exact answers_named _ _ _ e rest h
  | false =>
    have htoken : q.token d = .quoted q.quoting q.text := if_neg (by rw [hname]; exact nofun)
    have hexpr : q.expr d = .literal (.quoted q.quoting q.text) :=
      if_neg (by rw [hname]; exact nofun)
    have hquoting : q.quoting = .single ∨ q.quoting = .double := by
      unfold Quotation.quoting
      split
      · exact .inl rfl
      · exact .inr rfl
    rw [htoken, hexpr]
    intro e rest h
    rw [operandOf_string p bs ts q.quoting hquoting] at h
    exact answers_collated (fun _ => rfl) _ _ e rest h

theorem answersAt_expr :
    AnswersAt ⟨d, depth, rules.around.around⟩ (⟨q.token d, p, bs⟩ :: ts) expr
      (OnlyAtom (q.expr d)) := by
  refine .deeper fun depth => ?_
  have hsubexpr : AnswersAt ⟨d, depth, rules.around⟩ (⟨q.token d, p, bs⟩ :: ts)
      (subexprOf .lowest) (OnlyAtom (q.expr d)) :=
    .bind_of (answersAt_operandOf q p bs d depth rules ts) fun _ => answers_climb _ rank .lowest
  exact hsubexpr

end Quotation

end Grammar

theorem Quotation.isAtom_expr (q : Quotation) (d : Dialect) : Grammar.IsAtom (q.expr d) := by
  unfold Quotation.expr
  split <;> trivial

end QueryAudit.Sql
