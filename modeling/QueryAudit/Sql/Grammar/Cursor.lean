import QueryAudit.Sql.Grammar.Query

/-!
# Grammar of cursors

A cursor walks over the rows of a query; it is declared, fetched from and closed.
-/

namespace QueryAudit.Sql.Grammar

open QueryAudit.Sql.Parser

/-- The first of some rows of keywords that comes next, as words with a blank behind them. -/
def leadingWordsOf (rows : List (List Keyword)) : Parser String := do
  match ← oneOfRows rows with
  | some ks => return Keyword.spellings ks ++ " "
  | none => return ""

/-- A new cursor. -/
def declare : Parser Phrase := do
  let cursor ← name
  let binary ← leadingWordsOf [[.BINARY]]
  let sensitivity ← leadingWordsOf [[.INSENSITIVE], [.ASENSITIVE]]
  let scroll ← leadingWordsOf [[.SCROLL], [.NO, .SCROLL]]
  expectKeyword .CURSOR
  let hold ← do
    match ← oneOf [.WITH, .WITHOUT] with
    | some k =>
      expectKeyword .HOLD
      pure (k.spelling ++ " HOLD ")
    | none => pure ""
  expectKeyword .FOR
  let q ← query
  return "DECLARE " ++ Phrase.name cursor ++ " " ++ binary ++ sensitivity ++ scroll ++ "CURSOR "
    ++ hold ++ "FOR " ++ Phrase.query q

def fetchDirection : Parser Phrase := do
  match ← oneOf [.NEXT, .PRIOR, .FIRST, .LAST, .ABSOLUTE, .RELATIVE, .FORWARD, .BACKWARD, .ALL] with
  | none => return .literal (← numberLiteral)
  | some k =>
    if k = .ABSOLUTE || k = .RELATIVE then
      return k.spelling ++ " " ++ Phrase.literal (← numberLiteral)
    else if k = .FORWARD || k = .BACKWARD then
      if ← keyword .ALL then return k.spelling ++ " ALL"
      else return k.spelling ++ " " ++ Phrase.literal (← numberLiteral)
    else return k.spelling

/-- Rows fetched from a cursor. -/
def fetchRows : Parser Phrase := do
  let direction ← fetchDirection
  let _ ← expectOneOf [.FROM, .IN]
  let cursor ← name
  let target ← after .INTO qualifiedName
  return "FETCH " ++ direction ++ " IN " ++ Phrase.name cursor
    ++ Phrase.behind " INTO " (target.map Phrase.path)

/-- A cursor that is closed. -/
def close : Parser Phrase := do
  if ← keyword .ALL then return "CLOSE ALL"
  else return "CLOSE " ++ Phrase.name (← name)

end QueryAudit.Sql.Grammar
