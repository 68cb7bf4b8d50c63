import QueryAudit.Sql.Grammar.Query
import QueryAudit.Sql.Grammar.Storage

/-!
# Grammar of changes to rows

Insertions, updates, deletions and merges.
-/

namespace QueryAudit.Sql.Grammar

open QueryAudit.Sql.Parser

/-! ### Parts of changes -/

/-- A column with its new value. -/
def assignment : Parser Phrase := do
  let target ← namesBeforeEquals
  expect .eq
  return Phrase.path target ++ " = " ++ Phrase.expr (← expr)

/-- Columns with their new values. -/
def assignments : Parser Phrase := do
  return Phrase.commas (← commaSeparated assignment)

/-- What a change answers with. -/
def returning : Parser Phrase := do
  if ← keyword .RETURNING then
    return " RETURNING " ++ Phrase.commas (← commaSeparated selectItem)
  else return []

/-- A relation with what is joined to it, as a phrase. -/
def joinedPhrase : Parser Phrase := do
  let (r, joins) ← joined
  return r.phrase ++ joins

/-- The partitions that rows are written to. -/
def partitions : Parser Phrase := do
  if ← keyword .PARTITION then
    return "PARTITION (" ++ Phrase.exprs (← inParens exprs) ++ ")"
  else return []

/-! ### Insertions -/

/-- The rows that a row to be inserted may conflict with. -/
def conflictTarget : Parser Phrase := do
  if ← keywords [.ON, .CONSTRAINT] then
    return " ON CONSTRAINT " ++ Phrase.path (← qualifiedName)
  else if ← peekIs .lparen then return "(" ++ Phrase.names (← nameList) ++ ")"
  else return []

/-- What is done when a row exists already. -/
def onConflict : Parser Phrase := do
  unless ← keyword .ON do return []
  if ← keyword .CONFLICT then
    let target ← conflictTarget
    expectKeyword .DO
    if ← keyword .NOTHING then return " ON CONFLICT" ++ target ++ " DO NOTHING"
    expectKeywords [.UPDATE, .SET]
    let changes ← assignments
    let condition ← after .WHERE expr
    return " ON CONFLICT" ++ target ++ " DO UPDATE SET " ++ changes
      ++ Phrase.optionalExpr " WHERE " condition
  else
    expectKeywords [.DUPLICATE, .KEY, .UPDATE]
    return " ON DUPLICATE KEY UPDATE " ++ (← assignments)

/-- The words behind `INSERT` that say how rows are inserted. -/
def insertModifiers : Parser String := do
  if ← has Dialect.insertModifiers then
    let priority ← oneOf [.LOW_PRIORITY, .DELAYED, .HIGH_PRIORITY]
    let ignore ← keyword .IGNORE
    return (match priority with | none => "" | some k => " " ++ k.spelling)
      ++ (if ignore then " IGNORE" else "")
  else return ""

def insertedColumns : Parser (List Name) := do
  if ← has Dialect.emptyRows then possiblyEmptyNameList else optionalNameList

/-- Columns in parentheses. None are not written, but tell further columns from first ones. -/
def columnsPhrase (columns : List Name) : Phrase :=
  if columns.isEmpty then .emptyList else "(" ++ Phrase.names columns ++ ") "

/-- The rows to insert, with their columns and partitions. More columns may follow the
    partitions. -/
def insertedRows : Parser Phrase := do
  if ← keywords [.DEFAULT, .VALUES] then return "DEFAULT VALUES"
  let columns ← insertedColumns
  let partitions ← partitions
  let further ← optionalNameList
  let q ← query
  let partitions : Phrase := if partitions.isEmpty then [] else partitions ++ " "
  return columnsPhrase columns ++ partitions ++ columnsPhrase further ++ Phrase.query q

/-- Rows written to a directory, from behind its word on. -/
def insertionIntoDirectory (head : String) : Parser Phrase := do
  let path ← literalText
  let format ← if ← keywords [.STORED, .AS] then fileFormatWords else pure ""
  return head ++ " DIRECTORY " ++ Phrase.text .quoted path ++ format ++ " "
    ++ Phrase.query (← query)

/-- An insertion from behind its first word on. -/
def insertionBehind (word : String) : Parser Statement := do
  let modifiers ← insertModifiers
  let action ← oneOf [.INTO, .OVERWRITE]
  let locally ← keyword .LOCAL
  if ← keyword .DIRECTORY then
    return .command (← insertionIntoDirectory ("INSERT"
      ++ (if action = some .OVERWRITE then " OVERWRITE" else "")
      ++ (if locally then " LOCAL" else ""))).merged
  let worded ← keyword .TABLE
  let table ← qualifiedName
  let renamed ← if ← has Dialect.insertAlias then after .AS name else pure none
  let rows ← insertedRows
  let conflict ← onConflict
  let answer ← returning
  let head := word ++ modifiers
    ++ (match action with | none => "" | some k => " " ++ k.spelling)
    ++ (if worded then " TABLE " else " ")
  let phrase := head ++ Phrase.path table ++ Phrase.behind " AS " (renamed.map Phrase.name) ++ " "
    ++ rows ++ conflict ++ answer
  return .insert table phrase.merged

def insertion : Parser Statement :=
  insertionBehind "INSERT"

/-- An insertion that replaces rows, in dialects that have it. -/
def replacing : Parser Statement := do
  unless ← has Dialect.insertModifiers do fail (.replaceUnsupported (← position))
  insertionBehind "REPLACE"

/-! ### Updates, deletions and merges -/

/-- An update from behind its first word on. A dialect that reads from no further tables takes the
    word for them all the same. -/
def update : Parser Phrase := do
  let table ← joinedPhrase
  expectKeyword .SET
  let changes ← assignments
  let worded ← keyword .FROM
  let origin ← if worded && (← has Dialect.updateFrom) then joinedPhrase else pure []
  let condition ← after .WHERE expr
  let answer ← returning
  return "UPDATE " ++ table ++ " SET " ++ changes
    ++ Phrase.clause " FROM " origin ++ Phrase.optionalExpr " WHERE " condition ++ answer

/-- The words before the tables of a deletion. -/
def deletionHead : Parser Phrase := do
  if ← keyword .FROM then return "DELETE FROM "
  else
    let tables ← commaSeparated qualifiedName
    expectKeyword .FROM
    return "DELETE " ++ Phrase.commas (tables.map Phrase.path) ++ " FROM "

/-- A deletion from behind its first word on. -/
def deletion : Parser Phrase := do
  let head ← deletionHead
  let tables ← commaSeparated joinedPhrase
  let others ← after .USING (commaSeparated joinedPhrase)
  let condition ← after .WHERE expr
  let answer ← returning
  let order ← optionalOrderings
  let limit ← after .LIMIT limit
  return head ++ Phrase.commas tables ++ Phrase.behind " USING " (others.map Phrase.commas)
    ++ Phrase.optionalExpr " WHERE " condition ++ answer
    ++ Phrase.clause " ORDER BY " (Phrase.orderings order)
    ++ Phrase.optionalExpr " LIMIT " limit.join

/-- What a merge does with rows that match or do not. -/
def mergeAction (matched : Bool) : Parser Phrase := do
  match ← oneOf [.UPDATE, .INSERT, .DELETE] with
  | some .UPDATE =>
    unless matched do fail (.mergeAction "UPDATE in NOT MATCHED merge clause")
    expectKeyword .SET
    return "UPDATE SET " ++ (← assignments)
  | some .DELETE =>
    unless matched do fail (.mergeAction "DELETE in NOT MATCHED merge clause")
    return "DELETE"
  | some _ =>
    if matched then fail (.mergeAction "INSERT in MATCHED merge clause")
    let columns ← insertedColumns
    expectKeyword .VALUES
    let rows ← values
    return "INSERT (" ++ Phrase.names columns ++ ") " ++ Phrase.query { body := rows }
  | none => fail (.mergeAction "expected UPDATE, DELETE or INSERT in merge clause")

def mergeCase : Parser (Option Phrase) := do
  if (← peek).isNone || (← peekIs .semicolon) then return none
  expectKeyword .WHEN
  let negated ← keyword .NOT
  expectKeyword .MATCHED
  let condition ← after .AND expr
  expectKeyword .THEN
  let action ← mergeAction !negated
  return some ((if negated then "WHEN NOT MATCHED" else "WHEN MATCHED")
    ++ Phrase.optionalExpr " AND " condition ++ " THEN " ++ action)

/-- A merge from behind its first word on. -/
def merge : Parser Phrase := do
  let into ← keyword .INTO
  let table ← relation
  expectKeyword .USING
  let origin ← relation
  expectKeyword .ON
  let condition ← expr
  let cases ← many mergeCase
  return (if into then "MERGE INTO " else "MERGE ") ++ table.phrase ++ " USING " ++ origin.phrase
    ++ " ON " ++ Phrase.expr condition ++ " " ++ Phrase.joined " " cases

/-! ### Queries -/

/-- A query, one level deeper. Behind named queries it may also be an insertion or an update. -/
def queryOf : Parser Query :=
  deeper do
    let common := (← commonQueries).merged
    if ← keyword .INSERT then
      return { common, body := .change (← insertion).phrase }
    else if ← keyword .UPDATE then return { common, body := .change (← update).merged }
    else
      let body ← body 0
      return { common, body, tail := (← queryTail).merged }

end QueryAudit.Sql.Grammar
