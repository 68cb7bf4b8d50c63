import QueryAudit.Sql.Grammar.Role

/-!
# Grammar of definitions

Statements that create, alter and drop tables and other objects, and those that keep tables in
order.
-/

namespace QueryAudit.Sql.Grammar

open QueryAudit.Sql.Parser

/-! ### Creation -/

/-- A creation from behind its first word on. -/
def create : Parser Phrase := do
  let replacing ← optionalWords [.OR, .REPLACE]
  let altering ← optionalWords [.OR, .ALTER]
  let locally ← keyword .LOCAL
  let globally ← keyword .GLOBAL
  let transient ← optionalWords [.TRANSIENT]
  let temporary ← oneOf [.TEMP, .TEMPORARY]
  let temporary := if temporary.isSome then "TEMPORARY " else ""
  let scope := if globally then "GLOBAL " else if locally then "LOCAL " else ""
  let k ← peekKeyword
  if ← keyword .TABLE then createTable (replacing ++ scope ++ temporary ++ transient)
  else if k = .MATERIALIZED || k = .VIEW then createView replacing temporary
  else if ← keyword .EXTERNAL then createExternalTable replacing
  else if k = .FUNCTION then createFunction (replacing ++ temporary)
  else if k = .MACRO then createMacro (replacing ++ temporary)
  else if replacing ≠ "" then
    expected "[EXTERNAL] TABLE or [MATERIALIZED] VIEW or FUNCTION after CREATE OR REPLACE"
  else if ← keyword .EXTENSION then createExtension
  else if ← keyword .INDEX then createIndex false
  else if ← keywords [.UNIQUE, .INDEX] then createIndex true
  else if ← keyword .VIRTUAL then createVirtualTable
  else if ← keyword .SCHEMA then createSchema
  else if ← keyword .DATABASE then createDatabase
  else if ← keyword .ROLE then createRole
  else if ← keyword .SEQUENCE then createSequence temporary
  else if ← keyword .TYPE then createType
  else if ← keyword .PROCEDURE then createProcedure altering
  else expected "an object type after CREATE"

/-! ### Alteration -/

/-- The words of a message about a missing change of a column. -/
def columnChanges (typed : Bool) : String :=
  if typed then
    "SET/DROP NOT NULL, SET DEFAULT, SET DATA TYPE, or ADD GENERATED after ALTER COLUMN"
  else "SET/DROP NOT NULL, SET DEFAULT, or SET DATA TYPE after ALTER COLUMN"

/-- A change of a column's type, or of the sequence it is filled from. -/
def alterColumnType : Parser Phrase := do
  let typed ← has Dialect.columnTypes
  let long ← keywords [.SET, .DATA, .TYPE]
  let short ← if typed && !long then keyword .TYPE else pure false
  if long || short then
    let type ← dataType
    let conversion ← if typed then after .USING expr else pure none
    return "SET DATA TYPE " ++ Phrase.type type ++ Phrase.optionalExpr " USING " conversion
  if ← keywords [.ADD, .GENERATED] then
    let when ← trailingWordsOf [[.ALWAYS], [.BY, .DEFAULT]]
    expectKeywords [.AS, .IDENTITY]
    let options ← identityOptions
    return "ADD GENERATED" ++ when ++ " AS IDENTITY" ++ (options.map countingPhrase).getD []
  expected (columnChanges typed)

def alterColumn : Parser Phrase := do
  let _ ← keyword .COLUMN
  let n ← name
  let change : Phrase ← do
    if ← keywords [.SET, .NOT, .NULL] then pure "SET NOT NULL"
    else if ← keywords [.DROP, .NOT, .NULL] then pure "DROP NOT NULL"
    else if ← keywords [.SET, .DEFAULT] then pure ("SET DEFAULT " ++ Phrase.expr (← expr))
    else if ← keywords [.DROP, .DEFAULT] then pure "DROP DEFAULT"
    else alterColumnType
  return "ALTER COLUMN " ++ Phrase.name n ++ " " ++ change

/-- Expressions in parentheses as a phrase, parentheses included. -/
def exprsInParens : Parser Phrase := do
  return "(" ++ Phrase.exprs (← inParens exprs) ++ ")"

/-- What is dropped from a table. -/
def dropFromTable : Parser Phrase := do
  match ← oneOfRows [[.IF, .EXISTS, .PARTITION], [.PARTITION]] with
  | some ks => return "DROP " ++ Keyword.spellings ks ++ " " ++ (← exprsInParens)
  | none =>
    let constraint ← keyword .CONSTRAINT
    let primary ← if constraint then pure false else keywords [.PRIMARY, .KEY]
    if primary && (← has Dialect.indexedTables) then return "DROP PRIMARY KEY"
    unless constraint do
      let _ ← keyword .COLUMN
    let present ← ifPresent
    let n ← name
    let cascade ← trailingWords [.CASCADE]
    return (if constraint then "DROP CONSTRAINT " else "DROP COLUMN ") ++ present
      ++ Phrase.name n ++ cascade

/-- What gets a new name. -/
def renameInTable : Parser Phrase := do
  let constraint ← if ← has Dialect.renamedConstraints then keyword .CONSTRAINT else pure false
  if constraint then
    let n ← name
    expectKeyword .TO
    return "RENAME CONSTRAINT " ++ Phrase.name n ++ " TO " ++ Phrase.name (← name)
  if ← keyword .TO then return "RENAME TO " ++ Phrase.path (← qualifiedName)
  let _ ← keyword .COLUMN
  let n ← name
  expectKeyword .TO
  return "RENAME COLUMN " ++ Phrase.name n ++ " TO " ++ Phrase.name (← name)

def addToTable : Parser Phrase := do
  match ← tableConstraint with
  | some c => return "ADD " ++ c
  | none =>
    let missing ← ifMissing
    let partitions ← many do
      if (← peekKeyword) = .PARTITION then return some (← partitions) else return none
    if !partitions.isEmpty then
      return "ADD " ++ missing ++ Phrase.joined " " partitions
    let worded ← optionalWords [.COLUMN]
    let missing ←
      if ← has Dialect.missingColumns then
        let again ← ifMissing
        pure (if again = "" then missing else again)
      else pure ""
    return "ADD " ++ worded ++ missing ++ (← columnDefinition)

/-- A column with a new name, type and options. -/
def changeColumn : Parser Phrase := do
  let _ ← keyword .COLUMN
  let n ← name
  let new ← name
  let type ← dataType
  let options ← many columnOption
  return "CHANGE COLUMN " ++ Phrase.name n ++ " " ++ Phrase.name new ++ " " ++ Phrase.type type
    ++ Phrase.clause " " (Phrase.joined " " options)

/-- Rules and triggers of a table that are turned on or off. -/
def switchInTable (word : String) (rows : List (List Keyword)) (what : String) :
    Parser Phrase := do
  match ← oneOfRows rows with
  | none => expected (what ++ " after " ++ word)
  | some ks =>
    if ks.contains .SECURITY then return word ++ " " ++ Keyword.spellings ks
    else return word ++ " " ++ Keyword.spellings ks ++ " " ++ Phrase.name (← name)

/-- Partitions of a table that get new names. -/
def renamePartitions : Parser Phrase := do
  let old ← exprsInParens
  expectKeywords [.RENAME, .TO, .PARTITION]
  let new ← exprsInParens
  return "PARTITION " ++ old ++ " RENAME TO PARTITION " ++ new

/-- A change of a table. -/
def alterOperation : Parser Phrase := do
  match ← oneOf [.ADD, .RENAME, .DISABLE, .ENABLE, .DROP, .PARTITION, .CHANGE, .ALTER, .SWAP] with
  | some .ADD => addToTable
  | some .RENAME => renameInTable
  | some .DISABLE =>
    switchInTable "DISABLE" [[.ROW, .LEVEL, .SECURITY], [.RULE], [.TRIGGER]]
      "ROW LEVEL SECURITY, RULE, or TRIGGER"
  | some .ENABLE =>
    switchInTable "ENABLE"
      [[.ALWAYS, .RULE], [.ALWAYS, .TRIGGER], [.ROW, .LEVEL, .SECURITY], [.REPLICA, .RULE],
       [.REPLICA, .TRIGGER], [.RULE], [.TRIGGER]]
      "ALWAYS, REPLICA, ROW LEVEL SECURITY, RULE, or TRIGGER"
  | some .DROP => dropFromTable
  | some .PARTITION => renamePartitions
  | some .CHANGE => changeColumn
  | some .ALTER => alterColumn
  | some _ =>
    expectKeyword .WITH
    return "SWAP WITH " ++ Phrase.path (← qualifiedName)
  | none => expected "ADD, RENAME, PARTITION, SWAP or DROP after ALTER TABLE"

/-- An alteration from behind its first word on. -/
def alter : Parser Phrase := do
  match ← expectOneOf [.VIEW, .TABLE, .INDEX, .ROLE] with
  | .TABLE =>
    let present ← ifPresent
    let only ← optionalWords [.ONLY]
    let table ← qualifiedName
    let operations ← commaSeparated alterOperation
    return "ALTER TABLE " ++ present ++ only ++ Phrase.path table ++ " " ++ Phrase.commas operations
  | .INDEX =>
    let index ← qualifiedName
    unless ← keyword .RENAME do expected "RENAME after ALTER INDEX"
    unless ← keyword .TO do expected "TO after RENAME"
    return "ALTER INDEX " ++ Phrase.path index ++ " RENAME TO " ++ Phrase.path (← qualifiedName)
  | .VIEW =>
    let view ← qualifiedName
    let columns ← optionalNameList
    let options ← optionsBehind .WITH
    expectKeyword .AS
    let q ← query
    return "ALTER VIEW " ++ Phrase.path view ++ options ++ Phrase.listed columns ++ " AS "
      ++ Phrase.query q
  | _ => alterRole

/-! ### Removal and upkeep -/

/-- The kind of object to drop. -/
def droppedKind : Parser (Option Keyword) :=
  oneOf [.TABLE, .VIEW, .INDEX, .ROLE, .SCHEMA, .SEQUENCE, .STAGE]

/-- A function to drop. Its parameters tell it from others of its name. -/
def droppedFunction : Parser Phrase := do
  let function ← qualifiedName
  if ← accept .lparen then
    if ← accept .rparen then return .path function
    let parameters ← commaSeparated functionParameter
    expect .rparen
    return Phrase.path function ++ Phrase.inParens parameters
  else return .path function

def dropFunction : Parser Phrase := do
  let present ← ifPresent
  let functions ← commaSeparated droppedFunction
  let option ← trailingWordsOf [[.CASCADE], [.RESTRICT]]
  return "DROP FUNCTION " ++ present ++ Phrase.commas functions ++ option

/-- A removal from behind its first word on. -/
def drop : Parser Phrase := do
  let temporary ← if ← has Dialect.dropTemporary then optionalWords [.TEMPORARY] else pure ""
  match ← droppedKind with
  | none =>
    if ← keyword .FUNCTION then dropFunction
    else expected "TABLE, VIEW, INDEX, ROLE, SCHEMA, FUNCTION, STAGE or SEQUENCE after DROP"
  | some kind =>
    let present ← ifPresent
    let names ← commaSeparated qualifiedName
    let place ← position
    let cascade ← keyword .CASCADE
    let restrict ← keyword .RESTRICT
    let purge ← keyword .PURGE
    if cascade && restrict then
      fail (.conflictingOptions "Cannot specify both CASCADE and RESTRICT in DROP" place)
    if kind = .ROLE && (cascade || restrict || purge) then
      fail (.conflictingOptions "Cannot specify CASCADE, RESTRICT, or PURGE in DROP ROLE" place)
    return "DROP " ++ temporary ++ kind.spelling ++ " " ++ present
      ++ Phrase.commas (names.map Phrase.path) ++ (if cascade then " CASCADE" else "")
      ++ (if restrict then " RESTRICT" else "") ++ (if purge then " PURGE" else "")

/-- Removal of all rows, from behind its first word on. -/
def truncate : Parser Phrase := do
  let worded ← optionalWords [.TABLE]
  let table ← qualifiedName
  let partitions ← partitions
  return "TRUNCATE " ++ worded ++ Phrase.path table ++ Phrase.clause " " partitions

/-- What is found out about a table. -/
structure Analysis where
  partitions : Phrase := []
  statistics : Bool := false
  noScan : Bool := false
  metadata : Bool := false
  columns : Option (List Name) := none

/-- One option of what is found out about a table. -/
def analysisOption (a : Analysis) : Parser (Option Analysis) := do
  if (← peekKeyword) = .PARTITION then return some { a with partitions := ← partitions }
  else if ← keyword .NOSCAN then return some { a with noScan := true }
  else if ← keyword .FOR then
    expectKeyword .COLUMNS
    return some { a with columns := some ((← attempt (commaSeparated name)).getD []) }
  else if ← keyword .CACHE then
    expectKeyword .METADATA
    return some { a with metadata := true }
  else if ← keyword .COMPUTE then
    expectKeyword .STATISTICS
    return some { a with statistics := true }
  else return none

/-- An analysis of a table, from behind its first word on. -/
def analyze : Parser Phrase := do
  expectKeyword .TABLE
  let table ← qualifiedName
  let a ← iterate analysisOption {}
  let columns := a.columns.map fun ns => if ns.isEmpty then [] else " " ++ Phrase.names ns
  return "ANALYZE TABLE " ++ Phrase.path table ++ Phrase.clause " " a.partitions
    ++ (if a.statistics then " COMPUTE STATISTICS" else "") ++ (if a.noScan then " NOSCAN" else "")
    ++ (if a.metadata then " CACHE METADATA" else "") ++ Phrase.behind " FOR COLUMNS" columns

end QueryAudit.Sql.Grammar
