import QueryAudit.Sql.Grammar.Table

/-!
# Grammar of upkeep

Statements that look after the server and its tables while others use them.
-/

namespace QueryAudit.Sql.Grammar

open QueryAudit.Sql.Parser

/-- A connection or query to end. -/
def kill : Parser Phrase := do
  let what ← oneOf [.CONNECTION, .QUERY, .MUTATION]
  let n ← naturalNumber
  if what = some .MUTATION && !(← has Dialect.mutations) then
    expected "Unsupported type for KILL, allowed: CONNECTION | QUERY"
  return "KILL " ++ (match what with | none => "" | some k => k.spelling ++ " ") ++ toString n

/-! ### Caches and logs -/

/-- What is said of tables whose caches are written out. -/
structure TableFlush where
  tables : List (List Name) := []
  readLock : Bool := false
  forExport : Bool := false

/-- One more remark on tables whose caches are written out. Keywords of no meaning here are passed
    over, and a token that is no word ends the remarks and is taken with them. -/
def tableFlushStep (f : TableFlush) : Parser (Option TableFlush) := do
  match ← peek with
  | some (.word w) =>
    match w.keyword with
    | .WITH =>
      skip
      return some { f with readLock := ← keywords [.READ, .LOCK] }
    | .FOR =>
      skip
      return some { f with forExport := ← keyword .EXPORT }
    | .ordinary => return some { f with tables := ← commaSeparated qualifiedName }
    | _ =>
      skip
      return some f
  | _ =>
    skip
    return none

/-- Caches and logs that are written out without more words. -/
def flushedKinds : List (List Keyword) :=
  [[.BINARY, .LOGS], [.ENGINE, .LOGS], [.ERROR, .LOGS], [.GENERAL, .LOGS], [.HOSTS],
   [.PRIVILEGES], [.OPTIMIZER_COSTS], [.SLOW, .LOGS], [.STATUS], [.USER_RESOURCES], [.LOGS]]

/-- Caches and logs that are written out. -/
def flushed : Parser Phrase := do
  match ← oneOfRows flushedKinds with
  | some ks => return Keyword.spellings ks
  | none =>
    if ← keywords [.RELAY, .LOGS] then
      if ← keywords [.FOR, .CHANNEL] then
        return "RELAY LOGS FOR CHANNEL " ++ Phrase.text .plain (Names.render (← qualifiedName))
      else return "RELAY LOGS"
    else if ← keyword .TABLES then
      let f ← iterate tableFlushStep {}
      return "TABLES" ++ Phrase.clause " " (Phrase.commas (f.tables.map Phrase.path))
        ++ (if f.readLock then " WITH READ LOCK" else "")
        ++ (if f.forExport then " FOR EXPORT" else "")
    else
      expected ("BINARY LOGS, ENGINE LOGS, ERROR LOGS, GENERAL LOGS, HOSTS, LOGS, PRIVILEGES, "
        ++ "OPTIMIZER_COSTS,RELAY LOGS [FOR CHANNEL channel], SLOW LOGS, STATUS, USER_RESOURCES")

/-- What is written out, from behind its first word on. -/
def flush : Parser Phrase := do
  unless ← has Dialect.flushing do
    fail (.conflictingOptions "Unsupported statement FLUSH" (← position))
  let place ← oneOf [.NO_WRITE_TO_BINLOG, .LOCAL]
  return "FLUSH " ++ (match place with | none => "" | some k => k.spelling ++ " ") ++ (← flushed)

/-! ### Locks -/

/-- How a table is locked. -/
def lockKind : Parser String := do
  match ← oneOfRows [[.READ, .LOCAL], [.READ], [.WRITE], [.LOW_PRIORITY, .WRITE]] with
  | some ks => return Keyword.spellings ks
  | none => expected "an lock type in LOCK TABLES"

def lockedTable : Parser Phrase := do
  let table ← name
  let renamed ← optionalAlias [.READ, .WRITE, .LOW_PRIORITY]
  return Phrase.name table ++ Phrase.behind " AS " (renamed.map Phrase.name) ++ " " ++ (← lockKind)

/-- Tables to lock, from behind the first words on. -/
def lockTables : Parser Phrase := do
  return "LOCK TABLES " ++ Phrase.commas (← commaSeparated lockedTable)

/-- Locks given up or taken, in dialects that have them: the whole statement. -/
def tableLocks : Parser (Option Phrase) := do
  unless ← has Dialect.tableLocks do return none
  if ← keywords [.LOCK, .TABLES] then return some (← lockTables)
  else if ← keywords [.UNLOCK, .TABLES] then return some "UNLOCK TABLES"
  else return none

/-! ### Partitions and rows at hand -/

/-- Partitions compared with the directories they are kept in. -/
def checkPartitions : Parser Phrase := do
  let repair ← optionalWords [.REPAIR]
  expectKeyword .TABLE
  let table ← qualifiedName
  let action ← attempt do
    let action ← oneOf [.ADD, .DROP, .SYNC]
    expectKeyword .PARTITIONS
    return action
  return "MSCK " ++ repair ++ "TABLE " ++ Phrase.path table
    ++ (match action.join with | none => "" | some k => " " ++ k.spelling ++ " PARTITIONS")

/-- The query that says which rows of a table are kept at hand, up to the end of the text. -/
def cachedRows : Parser Phrase := do
  match ← peek with
  | none => return []
  | some (.word _) =>
    let worded ← keyword .AS
    return (if worded then " AS " else " ") ++ Phrase.query (← query)
  | some _ => expected "a QUERY statement"

/-- Rows to be kept at hand, from behind the first word on. -/
def cacheTable : Parser Phrase := do
  let start ← remaining
  let flag : Phrase ← if (← peekKeyword) = .TABLE then pure [] else
    pure (Phrase.path (← qualifiedName) ++ " ")
  unless ← keyword .TABLE do
    let found := (← remaining).head?
    fail (.expected "a \x60TABLE\x60 keyword" (found <|> start.getLast?))
  let table ← qualifiedName
  let options ← descriptionOptions
  return "CACHE " ++ flag ++ "TABLE " ++ Phrase.path table ++ options ++ (← cachedRows)

/-- Rows no longer to be kept at hand, from behind the first word on. The text has to end here. -/
def uncacheTable : Parser Phrase := do
  unless ← keyword .TABLE do expected "a \x60TABLE\x60 keyword"
  let present ← ifPresent
  let table ← qualifiedName
  unless (← peek).isNone do expected "an \x60EOF\x60"
  return "UNCACHE TABLE " ++ present ++ Phrase.path table

/-- A further database under a name of its own. -/
def attach : Parser Phrase := do
  let worded ← optionalWords [.DATABASE]
  let file ← expr
  expectKeyword .AS
  return "ATTACH " ++ worded ++ Phrase.expr file ++ " AS " ++ Phrase.name (← name)

/-! ### Inner settings -/

/-- The value of an inner setting. -/
def pragmaValue : Parser Literal := do
  let start ← remaining
  match ← literal with
  | .quoted .single text => return .quoted .single text
  | .quoted .double text => return .quoted .double text
  | .number digits long => return .number digits long
  | .placeholder text => return .placeholder text
  | _ => fail (.expected "number or string or ? placeholder" start.head?)

/-- An inner setting, from behind its first word on. -/
def pragma : Parser Phrase := do
  let n ← qualifiedName
  let value : Phrase ← do
    if ← accept .lparen then
      let v ← pragmaValue
      expect .rparen
      pure ("(" ++ Phrase.literal v ++ ")")
    else if ← accept .eq then pure (" = " ++ Phrase.literal (← pragmaValue))
    else pure []
  return "PRAGMA " ++ Phrase.path n ++ value

end QueryAudit.Sql.Grammar
