import QueryAudit.Sql.Grammar.Operator

/-!
# Grammar of operands

An operand begins with a word, a literal, a sign or a parenthesis. Words are tried as the name of a
type with a text behind it first, then as a function with words of its own, and are names otherwise.
-/

namespace QueryAudit.Sql.Grammar

open QueryAudit.Sql.Parser

/-- A text or an interval with its type before it. -/
def typedText : Parser Expr := do
  match ← dataType with
  | .plain [.INTERVAL] => interval
  | .custom _ _ => expected "literal string"
  | type => return .typed type (← literalText)

/-- Whether a token can be a text with its character set before it. -/
def isIntroducible : Option Token → Bool
  | some (.quoted .single _) | some (.quoted .double _) | some (.quoted .hex _) => true
  | _ => false

/-- The names behind the first one of a qualified name, latest first, and whether a star ends it. -/
def pathParts (first : Name) : Parser (List Name × Bool) :=
  iterate (fun (names, starred) => do
    if starred then return none
    if ← accept .period then
      match ← peek with
      | some (.word w) =>
        skip
        return some (⟨w.text, w.quote⟩ :: names, false)
      | some (.quoted .single text) =>
        skip
        return some (⟨text, some '\''⟩ :: names, false)
      | some (.symbol .mul) =>
        if ← has Dialect.starInExpressions then
          skip
          return some (names, true)
        else unexpected "an identifier after '.'"
      | _ => unexpected "an identifier or a '*' after '.'"
    else return none) ([first], false)

/-- A qualified name, a call, a text behind its character set or a column. -/
def named (w : Word) : Parser Expr := do
  let word : Name := ⟨w.text, w.quote⟩
  match ← peek with
  | some (.symbol .lparen) => call [word]
  | some (.symbol .period) =>
    let (names, starred) ← pathParts word
    if starred then return .qualifiedStar names.reverse
    if ← peekIs .lparen then call names.reverse else return .path names.reverse
  | found =>
    if isIntroducible found && w.text.toList.head? = some '_' then
      return .introduced w.text (← literal)
    else return .column word

/-- `NOT` before an operand. -/
def negation : Parser Expr := do
  if ← keyword .EXISTS then existsQuery true
  else return .unary .not (← subexpr .not)

def worded (w : Word) : Parser Expr := do
  let word : Name := ⟨w.text, w.quote⟩
  match w.keyword with
  | .TRUE => return .literal (.boolean true)
  | .FALSE => return .literal (.boolean false)
  | .NULL => return .literal .null
  | .CURRENT_CATALOG | .CURRENT_USER | .SESSION_USER | .USER =>
    if ← has Dialect.sessionFunctions then
      return .call [word] ⟨true, false, none⟩ [] [] none .unwindowed
    else named w
  | .CURRENT_TIMESTAMP | .CURRENT_TIME | .CURRENT_DATE | .LOCALTIME | .LOCALTIMESTAMP =>
    momentCall word
  | .CASE => caseOf
  | .CONVERT => convert
  | .CAST => cast .cast
  | .TRY_CAST => cast .tryCast
  | .SAFE_CAST => cast .safeCast
  | .EXISTS => existsQuery false
  | .EXTRACT => extract
  | .CEIL => round .up
  | .FLOOR => round .down
  | .POSITION => if ← peekIs .lparen then positionOf else named w
  | .SUBSTRING => substring
  | .OVERLAY => overlay
  | .TRIM => trim
  | .INTERVAL => interval
  | .LISTAGG => listAgg
  | .ARRAY =>
    if ← accept .lbracket then array true
    else if ← peekIs .lparen then return .arrayQuery (← queryInParens)
    else named w
  | .ARRAY_AGG => arrayAgg
  | .NOT => negation
  | .MATCH => if ← has Dialect.fullTextSearch then matchAgainst else named w
  | _ => named w

/-- A query, an expression or several of them in parentheses, from behind the first one on. A field
    may be taken of it. -/
def parenthesized : Parser Expr := do
  let e ←
    if ← queryBegins then pure (Expr.subquery (← query))
    else
      match ← exprs with
      | [e] => pure (.nested e)
      | es => pure (.tuple es)
  expect .rparen
  if ← accept .period then
    match ← peek with
    | some (.word w) =>
      skip
      return .field e ⟨w.text, w.quote⟩
    | _ => unexpected "identifier"
  else return e

/-- The operator that a symbol is before an operand, in dialects with such operators. -/
def prefixOp : Symbol → Option UnaryOp
  | .doubleExclamation => some .prefixedFactorial
  | .squareRoot => some .squareRoot
  | .cubeRoot => some .cubeRoot
  | .at => some .absolute
  | .tilde => some .bitwiseNot
  | _ => none

/-- An operand that begins with a symbol. -/
def marked (s : Symbol) : Parser Expr := do
  match s with
  | .lbracket =>
    skip
    array false
  | .minus =>
    skip
    return .unary .minus (← subexpr .product)
  | .plus =>
    skip
    return .unary .plus (← subexpr .product)
  | .lparen =>
    skip
    parenthesized
  | s =>
    match if ← has Dialect.symbolicPrefixes then prefixOp s else none with
    | some op =>
      skip
      return .unary op (← subexpr .sum)
    | none =>
      if s = .colon || s = .at then return .literal (← literal)
      else unexpected "an expression:"

/-- An operand without a collation behind it. -/
def uncollated : Parser Expr := do
  match ← peek with
  | some (.word w) =>
    if w.keyword = .STRUCT && (← has Dialect.structs) then structOf
    else
      skip
      worded w
  | some (.symbol s) => marked s
  | some (.quoted .escaped _) =>
    if ← has Dialect.escapedStrings then return .literal (← literal)
    else unexpected "an expression:"
  | some (.quoted _ _) | some (.number _ _) | some (.dollar _ _) | some (.placeholder _) =>
    return .literal (← literal)
  | _ => unexpected "an expression:"

def operandOf : Parser Expr := do
  match ← attempt typedText with
  | some e => return e
  | none =>
    let e ← uncollated
    if ← keyword .COLLATE then return .collate e (← qualifiedName) else return e

/-- An expression whose operators bind tighter than a rank. -/
def subexprOf (outer : Rank) : Parser Expr := do
  climb rank outer (← operand)

/-- An interval behind its keyword. -/
def intervalRule : Parser Expr :=
  intervalOf do climb intervalRank .lowest (← operand)

end QueryAudit.Sql.Grammar
