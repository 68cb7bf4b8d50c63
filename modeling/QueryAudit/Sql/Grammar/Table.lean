import QueryAudit.Sql.Grammar.Change

/-!
# Grammar of tables

A new table with its columns and constraints. What follows the columns is optional and comes in a
fixed order.
-/

namespace QueryAudit.Sql.Grammar

open QueryAudit.Sql.Parser

/-- Words behind a keyword if all of the keywords come next. -/
def optionalWords (ks : List Keyword) : Parser String := do
  return if ← keywords ks then Keyword.spellings ks ++ " " else ""

/-- Words with a blank before them if all of the keywords come next. -/
def trailingWords (ks : List Keyword) : Parser String := do
  return if ← keywords ks then " " ++ Keyword.spellings ks else ""

/-- The first of some rows of keywords that comes next, as words with a blank before them. -/
def trailingWordsOf (rows : List (List Keyword)) : Parser String := do
  match ← oneOfRows rows with
  | some ks => return " " ++ Keyword.spellings ks
  | none => return ""

/-- The keywords of a condition that an object is missing. -/
def ifMissing : Parser String :=
  optionalWords [.IF, .NOT, .EXISTS]

/-- The keywords of a condition that an object is there. -/
def ifPresent : Parser String :=
  optionalWords [.IF, .EXISTS]

/-- A text in single quotes. -/
def quotedText (what : String) : Parser String := do
  match ← peek with
  | some (.quoted .single text) =>
    skip
    return text
  | _ => unexpected what

/-- Options in parentheses behind a keyword, as a list. -/
def optionList (k : Keyword) : Parser (List Phrase) := do
  if ← keyword k then
    let option : Parser Phrase := do
      let n ← name
      expect .eq
      return Phrase.name n ++ " = " ++ Phrase.expr (← expr)
    inParens (commaSeparated option)
  else return []

/-- Options in parentheses behind a keyword. -/
def optionsBehind (k : Keyword) : Parser Phrase := do
  match ← optionList k with
  | [] => return []
  | options => return " " ++ k.spelling ++ " " ++ Phrase.inParens options

/-- Descriptive options: they follow their keyword without a blank. -/
def descriptionOptions : Parser Phrase := do
  match ← optionList .OPTIONS with
  | [] => return []
  | options => return " OPTIONS" ++ Phrase.inParens options

/-! ### Sequences -/

/-- A number behind keywords, with the words before it. The second word may be left out. -/
def counting (k : Keyword) (filler : Option Keyword) : Parser Phrase := do
  if ← keyword k then
    let filled ← match filler with
      | some f => trailingWords [f]
      | none => pure ""
    return " " ++ k.spelling ++ filled ++ " " ++ Phrase.literal (← numberLiteral)
  else return []

/-- A bound of a sequence, which may be none. -/
def sequenceBound (k : Keyword) : Parser Phrase := do
  if ← keyword k then return " " ++ k.spelling ++ " " ++ Phrase.literal (← numberLiteral)
  else return .words (← trailingWords [.NO, k])

/-- Whether a sequence starts again at its end. -/
def sequenceCycle : Parser String :=
  trailingWordsOf [[.NO, .CYCLE], [.CYCLE]]

/-- How a sequence counts. -/
def sequenceOptions : Parser Phrase := do
  let increment ← counting .INCREMENT (some .BY)
  let least ← sequenceBound .MINVALUE
  let greatest ← sequenceBound .MAXVALUE
  let start ← counting .START (some .WITH)
  let cache ← counting .CACHE none
  return increment ++ least ++ greatest ++ start ++ cache ++ (← sequenceCycle)

/-- How a column counts that is filled from a sequence, in parentheses, if it is said. -/
def identityOptions : Parser (Option Phrase) :=
  optionalParens sequenceOptions

/-- How a column counts, in parentheses. -/
def countingPhrase (options : Phrase) : Phrase :=
  " (" ++ options ++ " )"

/-! ### Columns -/

/-- What happens to a row when the row it refers to changes. -/
def referentialAction : Parser String := do
  match ← oneOfRows
      [[.RESTRICT], [.CASCADE], [.SET, .NULL], [.NO, .ACTION], [.SET, .DEFAULT]] with
  | some ks => return Keyword.spellings ks
  | none => expected "one of RESTRICT, CASCADE, SET NULL, NO ACTION or SET DEFAULT"

/-- What happens to a row when the row it refers to is deleted or updated. -/
def referentialActions : Parser String := do
  let (onDelete, onUpdate) ← iterate (fun ((onDelete, onUpdate) : String × String) => do
    if onDelete = "" then
      if ← keywords [.ON, .DELETE] then
        return some (" ON DELETE " ++ (← referentialAction), onUpdate)
    if onUpdate = "" then
      if ← keywords [.ON, .UPDATE] then
        return some (onDelete, " ON UPDATE " ++ (← referentialAction))
    return none) ("", "")
  return onDelete ++ onUpdate

/-- When a constraint is checked, and whether it is. -/
structure Checking where
  deferrable : String := ""
  initially : String := ""
  enforced : String := ""

/-- One more remark on the checking of a constraint. Each kind of remark is made once. -/
def checkingStep (c : Checking) : Parser (Option Checking) := do
  if c.deferrable = "" then
    match ← oneOfRows [[.NOT, .DEFERRABLE], [.DEFERRABLE]] with
    | some ks => return some { c with deferrable := " " ++ Keyword.spellings ks }
    | none => pure ()
  if c.initially = "" then
    if ← keyword .INITIALLY then
      match ← oneOf [.DEFERRED, .IMMEDIATE] with
      | some k => return some { c with initially := " INITIALLY " ++ k.spelling }
      | none => expected "one of DEFERRED or IMMEDIATE"
  if c.enforced = "" then
    match ← oneOfRows [[.ENFORCED], [.NOT, .ENFORCED]] with
    | some ks => return some { c with enforced := " " ++ Keyword.spellings ks }
    | none => pure ()
  return none

/-- When a constraint is checked, and whether it is, as words. -/
def checking : Parser String := do
  let c ← iterate checkingStep {}
  return c.deferrable ++ c.initially ++ c.enforced

/-- Where the value of a computed column is kept. -/
def keptValue : Parser String := do
  if ← keyword .STORED then return " STORED" else trailingWords [.VIRTUAL]

/-- A column filled from a sequence or computed from others, behind its first word. -/
def generated : Parser (Option Phrase) := do
  match ← oneOfRows [[.ALWAYS, .AS, .IDENTITY], [.BY, .DEFAULT, .AS, .IDENTITY]] with
  | some ks =>
    let options := (← identityOptions).getD []
    return some ("GENERATED " ++ Keyword.spellings ks
      ++ (if options.isEmpty then [] else countingPhrase options))
  | none =>
    if ← keywords [.ALWAYS, .AS] then
      unless ← peekIs .lparen do return none
      let e ← inParens expr
      let kept ← do
        if ← keyword .STORED then pure " STORED"
        else if ← has Dialect.virtualColumns then keptValue
        else expected "STORED"
      return some ("GENERATED ALWAYS AS (" ++ Phrase.expr e ++ ")" ++ kept)
    else return none

/-- An option of a column behind those that all dialects share. Its keywords are taken even if the
    dialect does without it. -/
def extendedColumnOption : Parser (Option Phrase) := do
  let extended ← has Dialect.indexedTables
  let counting ← keyword .AUTO_INCREMENT
  if counting && extended then return some "AUTO_INCREMENT"
  let counted ← keyword .AUTOINCREMENT
  if counted && (← has Dialect.countedColumns) then return some "AUTOINCREMENT"
  let following ← keywords [.ON, .UPDATE]
  if following && extended then return some ("ON UPDATE " ++ Phrase.expr (← expr))
  if ← keyword .GENERATED then return ← generated
  if (← has Dialect.descriptions) && (← peekKeyword) = .OPTIONS then
    return some ("OPTIONS" ++ Phrase.inParens (← optionList .OPTIONS))
  let computed ← keyword .AS
  if computed && (← has Dialect.virtualColumns) then
    let e ← inParens expr
    return some ("AS (" ++ Phrase.expr e ++ ")" ++ (← keptValue))
  return none

/-- An option of a column, if one comes next. -/
def columnOption : Parser (Option Phrase) := do
  if ← keywords [.CHARACTER, .SET] then
    return some ("CHARACTER SET " ++ Phrase.path (← qualifiedName))
  if ← keywords [.NOT, .NULL] then return some "NOT NULL"
  if ← keyword .COMMENT then
    return some ("COMMENT " ++ Phrase.text .escaped (← quotedText "string"))
  if ← keyword .NULL then return some "NULL"
  if ← keyword .DEFAULT then return some ("DEFAULT " ++ Phrase.expr (← expr))
  if ← keywords [.PRIMARY, .KEY] then return some ("PRIMARY KEY" ++ (← checking))
  if ← keyword .UNIQUE then return some ("UNIQUE" ++ (← checking))
  if ← keyword .REFERENCES then
    let table ← qualifiedName
    let columns ← optionalNameList
    let actions ← referentialActions
    return some ("REFERENCES " ++ Phrase.path table ++ Phrase.listed columns ++ actions
      ++ (← checking))
  if ← keyword .CHECK then return some ("CHECK (" ++ Phrase.expr (← inParens expr) ++ ")")
  extendedColumnOption

/-- The options of a column and the collation among them. -/
def columnOptions (collation : Phrase) : Parser (Phrase × Phrase) :=
  iterate (fun (collation, options) => do
    if ← keyword .CONSTRAINT then
      let n ← name
      match ← columnOption with
      | some o =>
        return some (collation, options ++ " CONSTRAINT " ++ Phrase.name n ++ " " ++ o)
      | none => expected "constraint details after CONSTRAINT <name>"
    else
      match ← columnOption with
      | some o => return some (collation, options ++ " " ++ o)
      | none =>
        if ← has Dialect.indexedTables then
          if ← keyword .COLLATE then
            return some (" COLLATE " ++ Phrase.path (← qualifiedName), options)
        return none) (collation, [])

/-- A column with its type and options. -/
def columnDefinition : Parser Phrase := do
  let n ← name
  let type ← dataType
  let collation ← after .COLLATE qualifiedName
  let (collation, options) ←
    columnOptions (Phrase.behind " COLLATE " (collation.map Phrase.path))
  return Phrase.name n ++ " " ++ Phrase.type type ++ collation ++ options

/-! ### Constraints -/

def constraintName : Option Name → Phrase
  | none => []
  | some n => "CONSTRAINT " ++ Phrase.name n ++ " "

/-- Refuse the name of a full text or spatial index, which stands before its first word. -/
def namedTextIndex (n : Name) : Parser Unit := do
  let place ← position
  fail (.expected "FULLTEXT or SPATIAL option without constraint name"
    (place.map fun p => ⟨.word ⟨n.render, none, .ordinary⟩, p, []⟩))

/-- A full text or spatial index of a table, behind its first word. -/
def textIndex (kind : Keyword) : Parser Phrase := do
  let worded ← oneOf [.INDEX, .KEY]
  let own ← attempt name
  let columns ← nameList
  return kind.spelling ++ (match worded with | none => "" | some k => " " ++ k.spelling)
    ++ Phrase.behind " " (own.map Phrase.name) ++ " (" ++ Phrase.names columns ++ ")"

/-- How an index is kept. -/
def indexMethod : Parser Keyword := do
  match ← oneOf [.BTREE, .HASH] with
  | some m => return m
  | none => expected "index type \x7bBTREE | HASH\x7d"

/-- An index of a table, behind its first word. -/
def tableIndex (kind : Keyword) : Parser Phrase := do
  let own ← if (← peekKeyword) = .USING then pure none else attempt name
  let method ← after .USING indexMethod
  let columns ← nameList
  return kind.spelling ++ Phrase.behind " " (own.map Phrase.name)
    ++ (match method with | none => "" | some m => " USING " ++ m.spelling)
    ++ " (" ++ Phrase.names columns ++ ")"

/-- A constraint of a table, if one comes next. A name before the first word of an index is
    ignored. -/
def tableConstraint : Parser (Option Phrase) := do
  let n ← after .CONSTRAINT name
  match ← peekKeyword with
  | .PRIMARY | .UNIQUE =>
    let primary ← keyword .PRIMARY
    unless primary do skip
    let _ ← keyword .KEY
    let own ← attempt name
    let columns ← nameList
    return some (constraintName (own <|> n) ++ (if primary then "PRIMARY KEY (" else "UNIQUE (")
      ++ Phrase.names columns ++ ")" ++ (← checking))
  | .FOREIGN =>
    skip
    expectKeyword .KEY
    let columns ← nameList
    expectKeyword .REFERENCES
    let table ← qualifiedName
    let referred ← nameList
    let actions ← referentialActions
    return some (constraintName n ++ "FOREIGN KEY (" ++ Phrase.names columns ++ ") REFERENCES "
      ++ Phrase.path table ++ "(" ++ Phrase.names referred ++ ")" ++ actions ++ (← checking))
  | .CHECK =>
    skip
    return some (constraintName n ++ "CHECK (" ++ Phrase.expr (← inParens expr) ++ ")")
  | k =>
    let indexed ← has Dialect.indexedTables
    if (k = .INDEX || k = .KEY) && indexed then
      skip
      return some (← tableIndex k)
    if (k = .FULLTEXT || k = .SPATIAL) && indexed then
      match n with
      | some n => namedTextIndex n
      | none => skip
      return some (← textIndex k)
    if n.isSome then unexpected "PRIMARY, UNIQUE, FOREIGN, or CHECK"
    return none

/-- Columns and constraints of a table in parentheses; a comma may stand behind the last one. -/
def tableElements : Parser (List Phrase × List Phrase) := do
  unless ← accept .lparen do return ([], [])
  if ← accept .rparen then return ([], [])
  let step : (List Phrase × List Phrase) × Bool →
      Parser (Option ((List Phrase × List Phrase) × Bool)) :=
    fun ((columns, constraints), closed) => do
      if closed then return none
      let elements ← do
        match ← tableConstraint with
        | some c => pure (columns, constraints ++ [c])
        | none =>
          match ← peek with
          | some (.word _) => pure (columns ++ [← columnDefinition], constraints)
          | _ => expected "column name or constraint definition"
      let comma ← accept .comma
      if ← accept .rparen then return some (elements, true)
      unless comma do expected "',' or ')' after column definition"
      return some (elements, false)
  return (← iterate step (([], []), false)).1

/-! ### The whole table -/

def plainWord : Parser String := do
  match ← peek with
  | some (.word w) =>
    skip
    return w.text
  | _ => unexpected "identifier"

/-- The text of a word behind keywords and an equals sign. -/
def wordSetting (ks : List Keyword) : Parser Phrase := do
  if ← keywords ks then
    expect .eq
    return " " ++ Keyword.spellings ks ++ "=" ++ Phrase.text .plain (← plainWord)
  else return []

def tableComment : Parser Phrase := do
  if ← keyword .COMMENT then
    let _ ← accept .eq
    return " COMMENT " ++ Phrase.text .quoted (← quotedText "comment")
  else return []

/-- Where the automatic numbers of a table begin. -/
def firstNumber : Parser String := do
  if ← keyword .AUTO_INCREMENT then
    let _ ← accept .eq
    return " AUTO_INCREMENT " ++ toString (← naturalNumber)
  else return ""

def tableOrder : Parser Phrase := do
  if ← keywords [.ORDER, .BY] then
    let names ← if ← peekIs .lparen then possiblyEmptyNameList else pure [← name]
    return " ORDER BY (" ++ Phrase.names names ++ ")"
  else return []

/-- How the rows of a table are divided, and its description. -/
def tableLayout : Parser Phrase := do
  unless ← has Dialect.descriptions do return []
  let division ← if ← keywords [.PARTITION, .BY] then pure (some (← expr)) else pure none
  let clusters : Phrase ←
    if ← keywords [.CLUSTER, .BY] then
      pure (" CLUSTER BY " ++ Phrase.names (← commaSeparated name))
    else pure []
  return Phrase.optionalExpr " PARTITION BY " division ++ clusters ++ (← descriptionOptions)

/-- What becomes of the rows of a temporary table at the end of a transaction. -/
def onCommit : Parser String :=
  trailingWordsOf
    [[.ON, .COMMIT, .DELETE, .ROWS], [.ON, .COMMIT, .PRESERVE, .ROWS], [.ON, .COMMIT, .DROP]]

/-- A name, or none. A token that is no name is passed over. -/
def nameIfAny : Parser (Option (List Name)) :=
  qualifiedName.revise
    (fun
      | _, .parsed names rest => .parsed (some names) rest
      | _, .failed _ rest => .parsed none rest)
    (by
      intro ts outcome h
      cases outcome with
      | parsed names rest => exact h
      | failed e rest => exact h)

/-- A name behind one of some keywords, or none. -/
def modelTable (ks : List Keyword) : Parser (Option (List Name)) := do
  if (← oneOf ks).isSome then nameIfAny else return none

/-- The name of the servers that keep a table: a word with its quotes, or a text without them. -/
def serverName : Parser String := do
  match ← peek with
  | some (.word w) =>
    skip
    return (Token.word w).spelling
  | some (.quoted .single text) =>
    skip
    return text
  | _ => unexpected "identifier or cluster literal"

/-- The servers that keep a table. A brace is written with a quotation mark outside of it. -/
def servers : Parser Phrase := do
  if ← keywords [.ON, .CLUSTER] then
    let text := (← serverName).toList.flatMap fun c =>
      if c = '\x7b' then ['\'', c] else if c = '\x7d' then [c, '\''] else [c]
    return " ON CLUSTER " ++ Phrase.text .plain (String.ofList text)
  else return []

/-- Columns and constraints of a table in parentheses. A table without any is written with empty
    parentheses, unless something else says what its columns are. -/
def elementsPhrase (elements : List Phrase) (copied : Bool) : Phrase :=
  if !elements.isEmpty then " " ++ Phrase.inParens elements else Phrase.wordsIf (!copied) " ()"

/-- The columns by which the rows of a table are divided into directories. -/
def directories : Parser Phrase := do
  if ← keywords [.PARTITIONED, .BY] then
    return " PARTITIONED BY " ++ Phrase.inParens (← inParens (commaSeparated columnDefinition))
  else return []

def createTable (modifiers : String) : Parser Phrase := do
  let missing ← ifMissing
  let table ← qualifiedName
  let servers ← servers
  let like ← modelTable [.LIKE, .ILIKE]
  let clone ← modelTable [.CLONE]
  let (columns, constraints) ← tableElements
  let unnumbered ← trailingWords [.WITHOUT, .ROWID]
  let directories ← directories
  let storage ← storage
  let options ← optionsBehind .WITH
  let properties ← optionsBehind .TBLPROPERTIES
  let engine ← wordSetting [.ENGINE]
  let start ← firstNumber
  let order ← tableOrder
  let layout ← tableLayout
  let q ← after .AS query
  let charset ← wordSetting [.DEFAULT, .CHARSET]
  let collation ← wordSetting [.COLLATE]
  let kept ← onCommit
  let strict ← trailingWords [.STRICT]
  let comment ← tableComment
  return "CREATE " ++ modifiers ++ "TABLE " ++ missing ++ Phrase.path table ++ servers
    ++ elementsPhrase (columns ++ constraints) (q.isSome || like.isSome || clone.isSome)
    ++ unnumbered ++ Phrase.behind " LIKE " (like.map Phrase.path)
    ++ Phrase.behind " CLONE " (clone.map Phrase.path)
    ++ directories ++ storage.phrase ++ properties ++ options
    ++ engine ++ comment ++ start ++ order ++ layout
    ++ Phrase.behind " AS " (q.map Phrase.query) ++ charset ++ collation ++ kept ++ strict

/-- A new table whose rows are kept in files of their own, from its word on. -/
def createExternalTable (replacing : String) : Parser Phrase := do
  expectKeyword .TABLE
  let missing ← ifMissing
  let table ← qualifiedName
  let (columns, constraints) ← tableElements
  let directories ← directories
  let storage ← storage
  let properties ← optionsBehind .TBLPROPERTIES
  return "CREATE " ++ replacing ++ "EXTERNAL TABLE " ++ missing ++ Phrase.path table
    ++ elementsPhrase (columns ++ constraints) false ++ directories ++ storage.phrase ++ properties

/-- A new table that a module computes, from its word on. -/
def createVirtualTable : Parser Phrase := do
  expectKeyword .TABLE
  let missing ← ifMissing
  let table ← qualifiedName
  expectKeyword .USING
  let provider ← name
  let arguments ← optionalNameList
  return "CREATE VIRTUAL TABLE " ++ missing ++ Phrase.path table ++ " USING "
    ++ Phrase.name provider ++ Phrase.listed arguments

end QueryAudit.Sql.Grammar
