import QueryAudit.Proofs.Descent
import QueryAudit.Reader

/-!
# The statements of tokens

A statement takes tokens, so reading statements until no token is left comes to its end by itself:
the rounds that are counted for it never run out. That is so for any parser that takes tokens; the
parser of the grammar is one, whatever its statements are.
-/

namespace QueryAudit

open Sql

namespace Stream

/-- Where a parser has a statement it took tokens from the front, and the first of them was no
    semicolon. -/
def TakesStatements (parse : Parse) : Prop :=
  ∀ ⦃ts rest : List Located⦄ ⦃statement : Sql.Statement⦄, parse ts = .parsed statement rest →
    ∃ t taken, ts = t :: (taken ++ rest) ∧ t.token ≠ .symbol .semicolon

variable {parse : Parse}

theorem TakesStatements.suffix (hparse : TakesStatements parse) {ts rest : List Located}
    {statement : Sql.Statement} (h : parse ts = .parsed statement rest) : rest <:+ ts := by
  obtain ⟨t, taken, rfl, -⟩ := hparse h
  exact List.suffix_append (t :: taken) rest

theorem TakesStatements.length_lt (hparse : TakesStatements parse) {ts rest : List Located}
    {statement : Sql.Statement} (h : parse ts = .parsed statement rest) :
    rest.length < ts.length := by
  obtain ⟨t, taken, rfl, -⟩ := hparse h
  rw [List.length_cons, List.length_append]
  omega

end Stream

/-- A statement of the grammar takes tokens, and begins with no semicolon. -/
theorem Sql.Grammar.takesStatements (d : Dialect) :
    Stream.TakesStatements (Grammar.parseStatement d) := by
  intro ts rest statement h
  have hlt := Grammar.takes_parseStatement h
  obtain ⟨taken, rfl⟩ := Grammar.suffix_of_parseStatement h
  cases taken with
  | nil => exact absurd hlt (Nat.lt_irrefl _)
  | cons t taken =>
    refine ⟨t, taken, rfl, fun ht => ?_⟩
    rw [List.cons_append, Grammar.parseStatement_symbol (by decide) d ht] at h
    cases h

namespace Stream

variable {parse : Parse}

/-- Reading statements from tokens until no token is left or a statement is wrong. The rounds are
    not counted. -/
inductive Reads (parse : Parse) : List Located → List Item → Prop
  | ended {ts : List Located} (hts : afterSemicolons ts = []) : Reads parse ts []
  | wrong {ts : List Located} {e : SyntaxError} (hts : afterSemicolons ts ≠ [])
      (h : first parse (afterSemicolons ts) = .error e) :
      Reads parse ts [.error (TextFault.grammatical e).error]
  | statement {ts rest : List Located} {statement : Sql.Statement} {items : List Item}
      (hts : afterSemicolons ts ≠ []) (h : first parse (afterSemicolons ts) = .ok (statement, rest))
      (hrest : Reads parse rest items) : Reads parse ts (.ok (.classify statement) :: items)

/-- The statement at the front of tokens takes one of them. -/
theorem length_of_first (hparse : TakesStatements parse) {ts rest : List Located}
    {statement : Sql.Statement} (h : first parse ts = .ok (statement, rest)) :
    rest.length < ts.length := by
  unfold first at h
  split at h
  · cases h
  · next parsed rest' hparsed =>
    have hlt := hparse.length_lt hparsed
    split at h
    · cases h
      exact hlt
    · split at h
      · cases h
        exact hlt
      · cases h

theorem reads_itemsFor (hparse : TakesStatements parse) {rounds : Nat} {ts : List Located}
    (h : ts.length < rounds) : Reads parse ts (itemsFor parse rounds ts) := by
  induction rounds generalizing ts with
  | zero => exact absurd h (Nat.not_lt_zero _)
  | succ rounds ih =>
    have hle : (afterSemicolons ts).length ≤ ts.length := (List.dropWhile_suffix _).length_le
    rw [itemsFor]
    split
    · next hts => exact .ended hts
    · next t ts' hts =>
      have hne : afterSemicolons ts ≠ [] := hts ▸ List.cons_ne_nil t ts'
      split
      · next e herror => exact .wrong hne (hts ▸ herror)
      · next statement rest hok =>
        have hlt := length_of_first hparse hok
        rw [hts] at hle
        exact .statement hne (hts ▸ hok) (ih (by omega))

/-- The statements of tokens are read until no token is left or a statement is wrong. -/
theorem reads_items (d : Dialect) (ts : List Located) :
    Reads (Grammar.parseStatement d) ts (items d ts) :=
  reads_itemsFor (Grammar.takesStatements d) (Nat.lt_succ_self _)

end Stream

end QueryAudit
