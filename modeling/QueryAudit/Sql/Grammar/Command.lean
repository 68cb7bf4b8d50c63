import QueryAudit.Sql.Grammar.Copy
import QueryAudit.Sql.Grammar.Cursor
import QueryAudit.Sql.Grammar.Definition
import QueryAudit.Sql.Grammar.Operand
import QueryAudit.Sql.Grammar.Session
import QueryAudit.Sql.Grammar.Upkeep

/-!
# Grammar of statements

A statement is known by its first word. All rules are tied together here: the rule of each depth is
written over the rules one depth below.
-/

namespace QueryAudit.Sql.Grammar

open QueryAudit.Sql.Parser

/-- A statement that is explained instead of run, or a table that is described. -/
def explain (word : String) : Parser Phrase := do
  let analyze ← optionalWords [.ANALYZE]
  let verbose ← optionalWords [.VERBOSE]
  let format ←
    if ← keyword .FORMAT then
      match ← oneOf [.TEXT, .GRAPHVIZ, .JSON] with
      | some k => pure ("FORMAT " ++ k.spelling ++ " ")
      | none => unexpected "fileformat"
    else pure ""
  let k ← peekKeyword
  match ← attempt statement with
  | some statement =>
    if k = .EXPLAIN || k = .DESCRIBE then fail .explainInside
    return word ++ " " ++ analyze ++ verbose ++ format ++ statement.phrase
  | none => return word ++ " " ++ Phrase.path (← qualifiedName)

/-- A statement that is prepared to be run later. -/
def prepare : Parser Phrase := do
  let n ← name
  let types ← optionalParens (commaSeparated dataType)
  expectKeyword .AS
  let prepared ← statement
  let listed := types.map fun ts => Phrase.inParens (ts.map Phrase.type) ++ " "
  return "PREPARE " ++ Phrase.name n ++ " " ++ listed.getD [] ++ "AS " ++ prepared.phrase

/-- A statement that is neither a query nor an insertion, from behind its first word on. -/
def command (k : Keyword) : Option (Parser Phrase) :=
  match k with
  | .KILL => some kill
  | .FLUSH => some flush
  | .DESCRIBE => some (explain "DESCRIBE")
  | .EXPLAIN => some (explain "EXPLAIN")
  | .ANALYZE => some analyze
  | .TRUNCATE => some truncate
  | .ATTACH => some attach
  | .MSCK => some checkPartitions
  | .CREATE => some create
  | .CACHE => some cacheTable
  | .UNCACHE => some uncacheTable
  | .DROP => some drop
  | .DISCARD => some discard
  | .DECLARE => some declare
  | .FETCH => some fetchRows
  | .DELETE => some deletion
  | .UPDATE => some update
  | .ALTER => some alter
  | .CALL => some callProcedure
  | .COPY => some copy
  | .CLOSE => some close
  | .SET => some set
  | .SHOW => some question
  | .USE => some do return "USE " ++ Phrase.name (← name)
  | .GRANT => some grant
  | .REVOKE => some revoke
  | .START => some startTransaction
  | .BEGIN => some beginTransaction
  | .END | .COMMIT => some commit
  | .SAVEPOINT => some do return "SAVEPOINT " ++ Phrase.name (← name)
  | .RELEASE => some release
  | .ROLLBACK => some rollback
  | .ASSERT => some assertion
  | .DEALLOCATE => some deallocate
  | .EXECUTE => some execute
  | .PREPARE => some prepare
  | .MERGE => some merge
  | .PRAGMA => some pragma
  | _ => none

/-- A statement, one level deeper. -/
def statementOf : Parser Statement :=
  deeper do
    let k ← peekKeyword
    if k = .COMMENT && (← has Dialect.comments) then
      skip
      return .command (← comment).merged
    if let some locks ← tableLocks then return .command locks.merged
    match k with
    | .SELECT | .WITH | .VALUES => return .query (← query)
    | .INSERT =>
      skip
      insertion
    | .REPLACE =>
      skip
      replacing
    | k =>
      match command k with
      | some rule =>
        skip
        return .command (← rule).merged
      | none =>
        if ← peekIs .lparen then return .query (← query)
        else unexpected "an SQL statement"

end Grammar

def Nonterminal.parser {α : Type} : Nonterminal α → Parser α
  | .subexpr outer => Grammar.subexprOf outer
  | .operand => Grammar.operandOf
  | .interval => Grammar.intervalRule
  | .query => Grammar.queryOf
  | .body outer => Grammar.bodyOf outer
  | .joined => Grammar.joinedOf
  | .statement => Grammar.statementOf

namespace Rules

/-- The rules of the grammar, with rules for what is inside. -/
def around (rules : Rules) : Rules where
  of x :=
    { run := fun d depth ts => x.parser ⟨d, depth, rules⟩ ts
      rest_suffix := fun d depth ts => x.parser.rest_suffix ⟨d, depth, rules⟩ ts }

/-- Rules that read nothing. -/
def nothing : Rules where
  of _ := ⟨fun _ _ ts => .failed .tooDeep ts, fun _ _ _ => List.suffix_rfl⟩

/-- The rules of the grammar, used at most so many times inside one another. -/
def upTo : Nat → Rules
  | 0 => nothing
  | uses + 1 => around (upTo uses)

end Rules

/-- The statement at the front of tokens. A rule is used at most three times inside another one
    before a token is taken, so these uses never run out (`Grammar.parseStatement_eq`). -/
def Grammar.parseStatement (d : Dialect) (ts : List Located) : Outcome Statement :=
  ((Rules.upTo (3 * ts.length + 3)).of .statement).run d maxDepth ts

end QueryAudit.Sql
