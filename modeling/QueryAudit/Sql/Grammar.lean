import QueryAudit.Sql.Grammar.DataType

/-!
# The recursive rules of the grammar

What rules that contain one another are used for in one another: expressions one level deeper, lists
of them, orderings, limits and queries in parentheses.
-/

namespace QueryAudit.Sql

namespace Grammar

open QueryAudit.Sql.Parser

/-- An expression whose operators bind tighter than a rank. -/
def subexpr (outer : Rank) : Parser Expr :=
  use (.subexpr outer)

def operand : Parser Expr :=
  use .operand

/-- An interval behind its keyword. -/
def interval : Parser Expr :=
  use .interval

def query : Parser Query :=
  use .query

/-- The body of a query whose combinations bind tighter than a rank. -/
def body (outer : Nat) : Parser Body :=
  use (.body outer)

/-- A relation, and what is joined to it. -/
def joined : Parser (Relation × Phrase) :=
  use .joined

def statement : Parser Statement :=
  use .statement

/-- An expression, one level deeper. -/
def expr : Parser Expr :=
  deeper (subexpr .lowest)

/-- Expressions with commas between them. -/
def exprs : Parser (List Expr) :=
  commaSeparated expr

def ordering : Parser Ordering := do
  let e ← expr
  let ascending ← oneOf [.ASC, .DESC]
  let nullsFirst ← do
    if ← keywords [.NULLS, .FIRST] then pure (some true)
    else if ← keywords [.NULLS, .LAST] then pure (some false)
    else pure none
  return ⟨e, ascending.map (· = .ASC), nullsFirst⟩

/-- Expressions to order by. -/
def orderings : Parser (List Ordering) :=
  commaSeparated ordering

/-- Expressions to order by behind their keywords, or none. -/
def optionalOrderings : Parser (List Ordering) := do
  if ← keywords [.ORDER, .BY] then orderings else return []

/-- A limit; `ALL` is none. -/
def limit : Parser (Option Expr) := do
  if ← keyword .ALL then return none else return some (← expr)

/-- A query in parentheses. -/
def queryInParens : Parser Query :=
  inParens query

/-- Whether a query begins here, by its first keyword. -/
def queryBegins : Parser Bool := do
  let k ← peekKeyword
  return k = .SELECT || k = .WITH

end Grammar

end QueryAudit.Sql
