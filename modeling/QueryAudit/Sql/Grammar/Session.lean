import QueryAudit.Sql.Grammar.Query

/-!
# Grammar of sessions

Settings, transactions, prepared statements, privileges and questions about the database.
-/

namespace QueryAudit.Sql.Grammar

open QueryAudit.Sql.Parser

/-! ### Transactions -/

/-- How far a transaction sees others. -/
def isolationLevel : Parser String := do
  match ← oneOfRows
      [[.READ, .UNCOMMITTED], [.READ, .COMMITTED], [.REPEATABLE, .READ], [.SERIALIZABLE]] with
  | some ks => return Keyword.spellings ks
  | none => expected "isolation level"

/-- A mode of a transaction, if one comes next. -/
def transactionMode : Parser (Option String) := do
  if ← keywords [.ISOLATION, .LEVEL] then return some ("ISOLATION LEVEL " ++ (← isolationLevel))
  else if ← keywords [.READ, .ONLY] then return some "READ ONLY"
  else if ← keywords [.READ, .WRITE] then return some "READ WRITE"
  else return none

/-- The modes of a transaction. Commas between them may be left out. -/
def transactionModes : Parser (List String) := do
  let (modes, _) ← iterate (fun ((modes, required) : List String × Bool) => do
    match ← transactionMode with
    | some mode => return some (mode :: modes, ← accept .comma)
    | none => if required then expected "transaction mode" else return none) ([], false)
  return modes.reverse

/-- Words with the modes of a transaction behind them. -/
def withModes (head : String) : Parser Phrase := do
  let modes ← transactionModes
  return head ++ (if modes.isEmpty then "" else " " ++ commaList modes)

/-- A transaction by its longer name. -/
def startTransaction : Parser Phrase := do
  expectKeyword .TRANSACTION
  withModes "START TRANSACTION"

/-- A transaction by its shorter name. -/
def beginTransaction : Parser Phrase := do
  let modifier ←
    if ← has Dialect.transactionModifiers then oneOf [.DEFERRED, .IMMEDIATE, .EXCLUSIVE]
    else pure none
  let _ ← oneOf [.TRANSACTION, .WORK]
  withModes (match modifier with
    | none => "BEGIN TRANSACTION"
    | some k => "BEGIN " ++ k.spelling ++ " TRANSACTION")

/-- Whether another transaction follows at once. -/
def chained : Parser String := do
  let _ ← oneOf [.TRANSACTION, .WORK]
  if ← keyword .AND then
    let negated ← keyword .NO
    expectKeyword .CHAIN
    return if negated then "" else " AND CHAIN"
  else return ""

/-- The end of a transaction. -/
def commit : Parser Phrase := do
  return "COMMIT" ++ (← chained)

/-- The end of a transaction that undoes it, or a part of it. -/
def rollback : Parser Phrase := do
  let chain ← chained
  let savepoint : Phrase ←
    if ← keyword .TO then
      let _ ← keyword .SAVEPOINT
      pure (" TO SAVEPOINT " ++ Phrase.name (← name))
    else pure []
  return "ROLLBACK" ++ chain ++ savepoint

/-- A savepoint that is given up. -/
def release : Parser Phrase := do
  let _ ← keyword .SAVEPOINT
  return "RELEASE SAVEPOINT " ++ Phrase.name (← name)

/-! ### Settings -/

/-- Whether two texts differ in nothing but the case of ASCII letters. -/
def sameLetters (a b : String) : Bool :=
  a.toList.map Char.toLower = b.toList.map Char.toLower

/-- The role of a session, from behind its word on. -/
def setRole (scope : Option Keyword) : Parser Phrase := do
  let role : Phrase ← if ← keyword .NONE then pure "NONE" else pure (.name (← name))
  let scope := match scope with
    | some .LOCAL => " LOCAL"
    | some .SESSION => " SESSION"
    | _ => ""
  return "SET" ++ scope ++ " ROLE " ++ role

/-- The character set of a session. -/
def setNames : Parser Phrase := do
  if ← keyword .DEFAULT then return "SET NAMES DEFAULT"
  let charset ← literalText
  let collation ← after .COLLATE literalText
  return "SET NAMES " ++ Phrase.text .plain charset
    ++ Phrase.behind " COLLATE " (collation.map (Phrase.text .plain))

/-- An expression; any failure is reported as a missing value. -/
def settingValue (what : String) : Parser Expr :=
  expr.revise
    (fun
      | _, .parsed e rest => .parsed e rest
      | _, .failed _ rest => .failed (.expected what rest.head?) rest)
    (by
      intro ts outcome h
      cases outcome with
      | parsed e rest => exact h
      | failed e rest => exact h)

/-- A setting from behind its scope and variable on. -/
def setting (scope : Option Keyword) (target : List Name) : Parser Phrase := do
  let subject := Names.render target
  let locally := if scope = some .LOCAL then "LOCAL " else ""
  let assigned ← if ← accept .eq then pure true else keyword .TO
  if assigned then
    let values ← commaSeparated (settingValue "variable value")
    let scopeWord := if scope = some .HIVEVAR then "HIVEVAR:" else ""
    return "SET " ++ locally ++ scopeWord ++ Phrase.path target ++ " = " ++ Phrase.exprs values
  else if sameLetters subject "TIMEZONE" then
    return "SET " ++ locally ++ "TIME ZONE " ++ Phrase.expr (← settingValue "timezone value")
  else if subject = "CHARACTERISTICS" then
    expectKeywords [.AS, .TRANSACTION]
    withModes "SET SESSION CHARACTERISTICS AS TRANSACTION"
  else if subject = "TRANSACTION" && scope.isNone then
    if ← keyword .SNAPSHOT then return "SET TRANSACTION SNAPSHOT " ++ Phrase.literal (← literal)
    withModes "SET TRANSACTION"
  else expected "equals sign or TO"

/-- A setting from behind its first word on. -/
def set : Parser Phrase := do
  let scope ← oneOf [.SESSION, .LOCAL, .HIVEVAR]
  if scope = some .HIVEVAR then expect .colon
  else if ← keyword .ROLE then return ← setRole scope
  let target ← if ← keywords [.TIME, .ZONE] then pure [⟨"TIMEZONE", none⟩] else qualifiedName
  if sameLetters (Names.render target) "NAMES" && (← has Dialect.setNames) then setNames
  else setting scope target

/-! ### Questions -/

/-- What is to be shown, if not everything. -/
def showFilter : Parser Phrase := do
  if ← keyword .LIKE then return " LIKE " ++ Phrase.text .escaped (← literalText)
  else if ← keyword .ILIKE then return " ILIKE " ++ Phrase.text .doubled (← literalText)
  else if ← keyword .WHERE then return " WHERE " ++ Phrase.expr (← expr)
  else return []

def showColumns (modifiers : String) : Parser Phrase := do
  let _ ← expectOneOf [.FROM, .IN]
  let table ← qualifiedName
  let outer ← if (← oneOf [.FROM, .IN]).isSome then pure [← name] else pure []
  return "SHOW " ++ modifiers ++ "COLUMNS FROM " ++ Phrase.path (outer ++ table)
    ++ (← showFilter)

def showTables (modifiers : String) : Parser Phrase := do
  let database : Phrase ←
    if (← oneOf [.FROM, .IN]).isSome then pure (" FROM " ++ Phrase.name (← name)) else pure []
  return "SHOW " ++ modifiers ++ "TABLES" ++ database ++ (← showFilter)

/-- A question from behind its first word on. -/
def question : Parser Phrase := do
  let extended ← keyword .EXTENDED
  let full ← keyword .FULL
  let session ← keyword .SESSION
  let globally ← keyword .GLOBAL
  let modifiers := (if extended then "EXTENDED " else "") ++ (if full then "FULL " else "")
  if (← oneOf [.COLUMNS, .FIELDS]).isSome then showColumns modifiers
  else if ← keyword .TABLES then showTables modifiers
  else if ← keyword .FUNCTIONS then return "SHOW FUNCTIONS" ++ (← showFilter)
  else if extended || full then
    fail (.conflictingOptions
      "EXTENDED/FULL are not supported with this type of SHOW query" none)
  else if ← keyword .CREATE then
    let kind ← expectOneOf [.TABLE, .TRIGGER, .FUNCTION, .PROCEDURE, .EVENT, .VIEW]
    return "SHOW CREATE " ++ kind.spelling ++ " " ++ Phrase.path (← qualifiedName)
  else if ← keyword .COLLATION then return "SHOW COLLATION" ++ (← showFilter)
  else
    let all ← keyword .VARIABLES
    if all && (← has Dialect.showVariables) then
      return "SHOW" ++ (if globally then " GLOBAL" else "") ++ (if session then " SESSION" else "")
        ++ " VARIABLES" ++ (← showFilter)
    else
      let names ← namesBeforeEquals
      return if names.isEmpty then "SHOW" else "SHOW " ++ Phrase.separated " " names

/-! ### Prepared statements and calls -/

def callProcedure : Parser Phrase := do
  let procedure ← qualifiedName
  if ← peekIs .lparen then return "CALL " ++ Phrase.expr (← call procedure)
  else return "CALL " ++ Phrase.path procedure

/-- A prepared statement that is given up. -/
def deallocate : Parser Phrase := do
  let prepare ← keyword .PREPARE
  return "DEALLOCATE " ++ (if prepare then "PREPARE " else "") ++ Phrase.name (← name)

/-- A prepared statement that is run. -/
def execute : Parser Phrase := do
  let n ← name
  let values ← optionalParens exprs
  let values := values.map fun es => "(" ++ Phrase.exprs es ++ ")"
  return "EXECUTE " ++ Phrase.name n ++ values.getD []

/-- What a session gives up. -/
def discard : Parser Phrase := do
  match ← oneOf [.ALL, .PLANS, .SEQUENCES, .TEMP, .TEMPORARY] with
  | none => expected "ALL, PLANS, SEQUENCES, TEMP or TEMPORARY after DISCARD"
  | some .TEMPORARY => return "DISCARD TEMP"
  | some k => return "DISCARD " ++ k.spelling

/-- A condition that has to hold. -/
def assertion : Parser Phrase := do
  let condition ← expr
  let message ← after .AS expr
  return "ASSERT " ++ Phrase.expr condition ++ Phrase.optionalExpr " AS " message

def comment : Parser Phrase := do
  let present ← keywords [.IF, .EXISTS]
  expectKeyword .ON
  match ← oneOf [.COLUMN, .TABLE] with
  | none => unexpected "comment object_type"
  | some kind =>
    let object ← qualifiedName
    expectKeyword .IS
    let text : Phrase ←
      if ← keyword .NULL then pure "NULL" else pure (.text .quoted (← literalText))
    return "COMMENT " ++ (if present then "IF EXISTS " else "") ++ "ON " ++ kind.spelling ++ " "
      ++ Phrase.path object ++ " IS " ++ text

/-! ### Privileges -/

/-- A privilege, perhaps on some columns only. -/
def privilege : Parser Phrase := do
  match ← oneOf [.CONNECT, .CREATE, .DELETE, .EXECUTE, .INSERT, .REFERENCES, .SELECT, .TEMPORARY,
      .TRIGGER, .TRUNCATE, .UPDATE, .USAGE] with
  | none => unexpected "a privilege keyword"
  | some k =>
    if k = .INSERT || k = .REFERENCES || k = .SELECT || k = .UPDATE then
      return k.spelling ++ Phrase.listed (← optionalNameList)
    else return k.spelling

/-- Privileges, and the objects they are on. -/
def privileges : Parser Phrase := do
  let what : Phrase ←
    if ← keyword .ALL then
      let worded ← keyword .PRIVILEGES
      pure (if worded then "ALL PRIVILEGES" else "ALL")
    else pure (.commas (← commaSeparated privilege))
  expectKeyword .ON
  let head ← do
    if ← keywords [.ALL, .TABLES, .IN, .SCHEMA] then pure "ALL TABLES IN SCHEMA "
    else if ← keywords [.ALL, .SEQUENCES, .IN, .SCHEMA] then pure "ALL SEQUENCES IN SCHEMA "
    else
      match ← oneOf [.SEQUENCE, .SCHEMA, .TABLE] with
      | some .SEQUENCE => pure "SEQUENCE "
      | some .SCHEMA => pure "SCHEMA "
      | _ => pure ""
  let objects ← commaSeparated qualifiedName
  return what ++ " ON " ++ head ++ Phrase.commas (objects.map Phrase.path)

/-- Privileges that are given. -/
def grant : Parser Phrase := do
  let what ← privileges
  expectKeyword .TO
  let grantees ← commaSeparated name
  let further ← keywords [.WITH, .GRANT, .OPTION]
  let grantor ← if ← keywords [.GRANTED, .BY] then pure (some (← name)) else pure none
  return "GRANT " ++ what ++ " TO " ++ Phrase.names grantees
    ++ (if further then " WITH GRANT OPTION" else "")
    ++ Phrase.behind " GRANTED BY " (grantor.map Phrase.name)

/-- Privileges that are taken back. -/
def revoke : Parser Phrase := do
  let what ← privileges
  expectKeyword .FROM
  let grantees ← commaSeparated name
  let grantor ← if ← keywords [.GRANTED, .BY] then pure (some (← name)) else pure none
  let place ← position
  let cascade ← keyword .CASCADE
  let restrict ← keyword .RESTRICT
  if cascade && restrict then
    fail (.conflictingOptions "Cannot specify both CASCADE and RESTRICT in REVOKE" place)
  return "REVOKE " ++ what ++ " FROM " ++ Phrase.names grantees
    ++ Phrase.behind " GRANTED BY " (grantor.map Phrase.name)
    ++ (if cascade then " CASCADE" else " RESTRICT")

end QueryAudit.Sql.Grammar
