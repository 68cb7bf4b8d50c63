import QueryAudit.Sql.Dialect
import QueryAudit.Sql.Literal
import QueryAudit.Sql.Rules

/-!
# Parsers

A parser looks at the tokens that are left, takes some of them from the front and answers with a
value or an error. What it leaves is part of the answer also when it fails, for some messages name
the token after a failed part. It knows the dialect, how many levels may still be nested, and the
rules for what its own rule contains. It asks them only about tokens that are left.

Where something repeats, the tokens that are left bound the rounds, since each round takes one.
-/

namespace QueryAudit.Sql

/-- What a parser knows beside the tokens. -/
structure Setting where
  dialect : Dialect
  /-- How many levels of statements, queries and expressions may still be opened. -/
  depth : Nat
  /-- The rules for what is inside. -/
  rules : Rules

/-- How deep statements, queries and expressions may be nested. -/
def maxDepth : Nat := 50

/-- A parser of values. What it leaves is the end of what it was given, and of the rules it needs
    no more than their answers for so many tokens. -/
structure Parser (α : Type) where
  run : Setting → List Located → Outcome α
  rest_suffix : ∀ s ts, (run s ts).rest <:+ ts
  run_congr : ∀ s rules ts, s.rules.AgreeOn rules ts.length → run s ts = run { s with rules } ts

namespace Parser

variable {α β : Type}

instance : CoeFun (Parser α) fun _ => Setting → List Located → Outcome α :=
  ⟨Parser.run⟩

instance : Monad Parser where
  pure a := ⟨fun _ ts => .parsed a ts, fun _ _ => List.suffix_rfl, fun _ _ _ _ => rfl⟩
  bind p f :=
    { run := fun s ts =>
        match p s ts with
        | .parsed a rest => f a s rest
        | .failed e rest => .failed e rest
      rest_suffix := by
        intro s ts
        have hp := p.rest_suffix s ts
        cases h : p s ts with
        | parsed a rest =>
          rw [h] at hp
          exact ((f a).rest_suffix s rest).trans hp
        | failed e rest =>
          rw [h] at hp
          exact hp
      run_congr := by
        intro s rules ts hagree
        have hp := p.rest_suffix s ts
        rw [← p.run_congr s rules ts hagree]
        cases h : p s ts with
        | parsed a rest =>
          rw [h] at hp
          exact (f a).run_congr s rules rest (hagree.mono hp.length_le)
        | failed e rest => rfl }

/-- Answer without looking at the rules. -/
def plainly (run : Dialect → List Located → Outcome α)
    (rest_suffix : ∀ d ts, (run d ts).rest <:+ ts) : Parser α :=
  ⟨fun s ts => run s.dialect ts, fun s ts => rest_suffix s.dialect ts, fun _ _ _ _ => rfl⟩

def revise (p : Parser α) (change : List Located → Outcome α → Outcome β)
    (rest_suffix : ∀ ts outcome, outcome.rest <:+ ts → (change ts outcome).rest <:+ ts) :
    Parser β :=
  ⟨fun s ts => change ts (p s ts), fun s ts => rest_suffix ts _ (p.rest_suffix s ts),
    fun s rules ts h => congrArg (change ts) (p.run_congr s rules ts h)⟩

/-- Fail where the parser stands. -/
def fail (error : SyntaxError) : Parser α :=
  plainly (fun _ ts => .failed error ts) fun _ _ => List.suffix_rfl

def dialect : Parser Dialect :=
  plainly (fun d ts => .parsed d ts) fun _ _ => List.suffix_rfl

/-- Whether the dialect has a feature. -/
def has (feature : Dialect → Bool) : Parser Bool :=
  plainly (fun d ts => .parsed (feature d) ts) fun _ _ => List.suffix_rfl

/-- The tokens that are left. -/
def remaining : Parser (List Located) :=
  plainly (fun _ ts => .parsed ts ts) fun _ _ => List.suffix_rfl

/-- Parse by a rule. -/
def use (x : Nonterminal α) : Parser α where
  run s ts := (s.rules.of x).run s.dialect s.depth ts
  rest_suffix s ts := (s.rules.of x).rest_suffix s.dialect s.depth ts
  run_congr s _ ts h := h x s.dialect s.depth ts (Nat.le_refl _)

/-- Parse one level deeper. -/
def deeper (p : Parser α) : Parser α where
  run s ts :=
    match s.depth with
    | 0 => .failed .tooDeep ts
    | depth + 1 => p { s with depth } ts
  rest_suffix s ts := by
    cases s.depth with
    | zero => exact List.suffix_rfl
    | succ depth => exact p.rest_suffix { s with depth } ts
  run_congr s rules ts h := by
    cases s with | mk d depth r
    cases depth with
    | zero => rfl
    | succ depth => exact p.run_congr ⟨d, depth, r⟩ rules ts h

/-! ### Looking at tokens -/

/-- The token some places further on. -/
def peekAt (n : Nat) : Parser (Option Token) := do
  return (← remaining)[n]?.map Located.token

/-- The next token. -/
def peek : Parser (Option Token) :=
  peekAt 0

/-- The keyword that the next token spells. -/
def peekKeyword : Parser Keyword := do
  match ← peek with
  | some t => return t.keyword
  | none => return .ordinary

/-- Whether the next token is a given symbol. -/
def peekIs (symbol : Symbol) : Parser Bool := do
  return (← peek) == some (.symbol symbol)

/-- The place of the next token. -/
def position : Parser (Option Position) := do
  return (← remaining).head?.map Located.position

/-! ### Taking tokens -/

/-- Take the next token, if there is one. -/
def next : Parser (Option Located) :=
  plainly (fun _ ts => .parsed ts.head? ts.tail) fun _ ts => ts.tail_suffix

/-- Take the next token whatever it is. -/
def skip : Parser Unit := do
  let _ ← next

/-- Take a symbol if it comes next. -/
def accept (symbol : Symbol) : Parser Bool := do
  if ← peekIs symbol then
    skip
    return true
  else return false

/-- Take a keyword if it comes next. -/
def keyword (k : Keyword) : Parser Bool := do
  if (← peekKeyword) = k then
    skip
    return true
  else return false

/-- Whether tokens begin with some keywords. -/
def startsWith : List Keyword → List Located → Bool
  | [], _ => true
  | _ :: _, [] => false
  | k :: ks, t :: ts => t.token.keyword = k && startsWith ks ts

/-- Take some keywords if all of them come next. -/
def keywords (ks : List Keyword) : Parser Bool :=
  plainly
    (fun _ ts =>
      if startsWith ks ts then .parsed true (ts.drop ks.length) else .parsed false ts)
    (by
      intro _ ts
      split
      · exact ts.drop_suffix ks.length
      · exact List.suffix_rfl)

/-- Take one of some keywords if it comes next. -/
def oneOf (ks : List Keyword) : Parser (Option Keyword) := do
  let k ← peekKeyword
  if ks.contains k then
    skip
    return some k
  else return none

/-- Take the first of some rows of keywords that comes next. -/
def oneOfRows : List (List Keyword) → Parser (Option (List Keyword))
  | [] => return none
  | ks :: rows => do if ← keywords ks then return some ks else oneOfRows rows

/-! ### Insisting on tokens -/

/-- Fail, naming the next token as found. -/
def expected (what : String) : Parser α :=
  plainly (fun _ ts => .failed (.expected what ts.head?) ts) fun _ _ => List.suffix_rfl

/-- Fail, naming the next token as found and taking it. -/
def unexpected (what : String) : Parser α :=
  plainly (fun _ ts => .failed (.expected what ts.head?) ts.tail) fun _ ts => ts.tail_suffix

/-- Insist on a symbol. -/
def expect (symbol : Symbol) : Parser Unit := do
  unless ← accept symbol do expected symbol.spelling

def expectKeyword (k : Keyword) : Parser Unit := do
  unless ← keyword k do expected k.spelling

/-- Insist on keywords one after the other. -/
def expectKeywords : List Keyword → Parser Unit
  | [] => return
  | k :: ks => do
    expectKeyword k
    expectKeywords ks

/-- Insist on one of some keywords. -/
def expectOneOf (ks : List Keyword) : Parser Keyword := do
  match ← oneOf ks with
  | some k => return k
  | none => expected ("one of " ++ " or ".intercalate (ks.map Keyword.spelling))

/-! ### Going back, repeating -/

/-- Parse if it succeeds; a failure takes nothing. -/
def attempt (p : Parser α) : Parser (Option α) :=
  p.revise
    (fun
      | _, .parsed a rest => .parsed (some a) rest
      | ts, .failed _ _ => .parsed none ts)
    (by
      intro ts outcome h
      cases outcome with
      | parsed a rest => exact h
      | failed e rest => exact List.suffix_rfl)

/-- Parse something or nothing; for nothing no token is taken. -/
def rewinding (p : Parser (Option α)) : Parser (Option α) :=
  p.revise
    (fun
      | ts, .parsed none _ => .parsed none ts
      | _, outcome => outcome)
    (by
      intro ts outcome h
      split
      · exact List.suffix_rfl
      · exact h)

/-- Repeat a step until it answers with nothing, once for each of some tokens and once more. -/
def iterateFor (step : α → Parser (Option α)) : List Located → α → Parser α
  | [], a => do return (← step a).getD a
  | _ :: rounds, a => do
    match ← step a with
    | some b => iterateFor step rounds b
    | none => return a

/-- Repeat a step until it answers with nothing. Each step has to take a token. -/
def iterate (step : α → Parser (Option α)) (a : α) : Parser α := do
  iterateFor step (← remaining) a

/-- Collect values until there is nothing more. -/
def many (p : Parser (Option α)) : Parser (List α) := do
  let found ← iterate (fun done => do return (← p).map (· :: done)) []
  return found.reverse

/-- Values with a comma between them, at least one. -/
def commaSeparated (p : Parser α) : Parser (List α) := do
  let first ← p
  let others ← many do
    if ← accept .comma then return some (← p) else return none
  return first :: others

/-- A value in parentheses. -/
def inParens (p : Parser α) : Parser α := do
  expect .lparen
  let a ← p
  expect .rparen
  return a

/-- A value behind a keyword, if the keyword comes next. -/
def after (k : Keyword) (p : Parser α) : Parser (Option α) := do
  if ← keyword k then return some (← p) else return none

/-- A value in parentheses, if a parenthesis comes next. -/
def optionalParens (p : Parser α) : Parser (Option α) := do
  if ← peekIs .lparen then return some (← inParens p) else return none

end Parser

end QueryAudit.Sql
