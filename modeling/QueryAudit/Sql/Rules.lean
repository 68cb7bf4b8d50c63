import QueryAudit.Config
import QueryAudit.Sql.Phrase
import QueryAudit.Sql.SyntaxError

/-!
# Rules that contain one another

Expressions, queries and statements contain one another, so the parsers for them cannot be defined
one after the other. Each parser is handed rules for all of them instead, and asks these rules about
what is inside.
-/

namespace QueryAudit.Sql

/-- How tightly an operator binds; the higher, the tighter. -/
abbrev Rank := Nat

namespace Rank

/-- The rank of whatever is no operator. -/
def lowest : Rank := 0
/-- The rank of `OR`. -/
def or : Rank := 5
/-- The rank of `AND`. -/
def and : Rank := 10
/-- The rank of `NOT` before an operand. -/
def not : Rank := 15
/-- The rank of `IS`. -/
def is : Rank := 17
/-- The rank of pattern matching. -/
def like : Rank := 19
/-- The rank of `BETWEEN`, `IN` and comparisons. -/
def comparison : Rank := 20
/-- The rank of the bitwise or. -/
def pipe : Rank := 21
/-- The rank of the caret and of shifts. -/
def caret : Rank := 22
/-- The rank of the bitwise and. -/
def ampersand : Rank := 23
/-- The rank of `XOR`. -/
def xor : Rank := 24
def sum : Rank := 30
def product : Rank := 40
/-- The rank of casts, look-ups and other operators that follow an operand closely. -/
def access : Rank := 50

end Rank

/-- A relation of a `FROM` clause. The alias is kept apart, for it may come later. -/
structure Relation where
  /-- The name, if the relation is a table. -/
  table : Option (List Name) := none
  /-- Whether the relation is a join in parentheses. -/
  isJoin : Bool := false
  /-- What stands before the alias. -/
  before : Phrase
  /-- The words of the alias, if there is one. -/
  aliasWords : Option Phrase := none
  /-- What stands behind the alias. -/
  behind : Phrase := []

/-- A relation with its alias. -/
def Relation.phrase (r : Relation) : Phrase :=
  r.before ++ Phrase.behind " AS " r.aliasWords ++ r.behind

/-- What contains and is contained, by the type of its trees. -/
inductive Nonterminal : Type → Type where
  /-- An expression whose operators bind tighter than a rank. -/
  | subexpr (outer : Rank) : Nonterminal Expr
  | operand : Nonterminal Expr
  /-- An interval behind its keyword. -/
  | interval : Nonterminal Expr
  | query : Nonterminal Query
  /-- The body of a query whose combinations bind tighter than a rank. -/
  | body (outer : Nat) : Nonterminal Body
  /-- A relation, and what is joined to it. -/
  | joined : Nonterminal (Relation × Phrase)
  | statement : Nonterminal Statement

/-- The answer of a parser: a value or an error, with the tokens it leaves. -/
inductive Outcome (α : Type) where
  | parsed (value : α) (rest : List Located)
  | failed (error : SyntaxError) (rest : List Located)

/-- The tokens that an answer leaves. -/
def Outcome.rest {α : Type} : Outcome α → List Located
  | .parsed _ rest => rest
  | .failed _ rest => rest

/-- What a rule answers with in a dialect, by the levels that may still be opened and the tokens
    that are left. What it leaves is the end of these tokens. -/
structure Rule (α : Type) where
  run : Dialect → Nat → List Located → Outcome α
  rest_suffix : ∀ d depth ts, (run d depth ts).rest <:+ ts

/-- A rule for everything that contains and is contained. -/
structure Rules where
  of : {α : Type} → Nonterminal α → Rule α

/-- Rules that have the same answers for at most so many tokens. -/
def Rules.AgreeOn (r r' : Rules) (count : Nat) : Prop :=
  ∀ {α : Type} (x : Nonterminal α) d depth (ts : List Located), ts.length ≤ count →
    (r.of x).run d depth ts = (r'.of x).run d depth ts

theorem Rules.AgreeOn.mono {r r' : Rules} {count fewer : Nat} (h : r.AgreeOn r' count)
    (hle : fewer ≤ count) : r.AgreeOn r' fewer :=
  fun x d depth ts hts => h x d depth ts (Nat.le_trans hts hle)

end QueryAudit.Sql
