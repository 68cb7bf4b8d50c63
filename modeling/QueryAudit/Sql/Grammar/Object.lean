import QueryAudit.Sql.Grammar.Table

/-!
# Grammar of objects

Views, indexes, schemas, sequences, types and routines, each from behind the words that say
what is created.
-/

namespace QueryAudit.Sql.Grammar

open QueryAudit.Sql.Parser

/-! ### Views and indexes -/

/-- A column of a view, perhaps with a description. -/
def viewColumn : Parser Phrase := do
  let n ← name
  let described ← if ← has Dialect.descriptions then descriptionOptions else pure []
  return Phrase.name n ++ described

/-- The columns of a view in parentheses, which may be empty, or none. -/
def viewColumns : Parser (List Phrase) := do
  if ← accept .lparen then
    if ← accept .rparen then return []
    let columns ← commaSeparated viewColumn
    expect .rparen
    return columns
  else return []

def createView (replacing temporary : String) : Parser Phrase := do
  let materialized ← optionalWords [.MATERIALIZED]
  expectKeyword .VIEW
  let missing ← if ← has Dialect.viewOptions then ifMissing else pure ""
  let view ← qualifiedName
  let columns ← viewColumns
  let options ← optionsBehind .WITH
  let clusters ←
    if ← keyword .CLUSTER then
      expectKeyword .BY
      optionalNameList
    else pure []
  let description ← if ← has Dialect.descriptions then descriptionOptions else pure []
  expectKeyword .AS
  let q ← query
  let unbound ←
    if ← has Dialect.viewOptions then trailingWords [.WITH, .NO, .SCHEMA, .BINDING] else pure ""
  let columns : Phrase := if columns.isEmpty then [] else " " ++ Phrase.inParens columns
  return "CREATE " ++ replacing ++ materialized ++ temporary ++ "VIEW " ++ missing
    ++ Phrase.path view ++ (if description.isEmpty then options else []) ++ columns
    ++ Phrase.clause " CLUSTER BY" (Phrase.listed clusters)
    ++ description ++ " AS " ++ Phrase.query q ++ unbound

def createIndex (unique : Bool) : Parser Phrase := do
  let concurrently ← optionalWords [.CONCURRENTLY]
  let missing ← ifMissing
  let unnamed ← if missing = "" then keyword .ON else pure false
  let index : Phrase ← if unnamed then pure [] else
    let n ← qualifiedName
    expectKeyword .ON
    pure (Phrase.path n ++ " ")
  let table ← qualifiedName
  let method ← after .USING name
  let columns ← inParens orderings
  let included ← after .INCLUDE (inParens (commaSeparated name))
  let nulls ←
    if ← keyword .NULLS then
      let negated ← keyword .NOT
      expectKeyword .DISTINCT
      pure (if negated then " NULLS NOT DISTINCT" else " NULLS DISTINCT")
    else pure ""
  let condition ← after .WHERE expr
  return "CREATE " ++ (if unique then "UNIQUE " else "") ++ "INDEX " ++ concurrently ++ missing
    ++ index ++ "ON " ++ Phrase.path table
    ++ Phrase.behind " USING " (method.map fun m => Phrase.name m ++ " ") ++ "("
    ++ Phrase.joined "," (columns.map Phrase.ordering) ++ ")"
    ++ Phrase.behind " INCLUDE (" (included.map fun ns => Phrase.separated "," ns ++ ")") ++ nulls
    ++ Phrase.optionalExpr " WHERE " condition

/-! ### Schemas, databases and extensions -/

def createSchema : Parser Phrase := do
  let missing ← ifMissing
  let schema : Phrase ←
    if ← keyword .AUTHORIZATION then pure ("AUTHORIZATION " ++ Phrase.name (← name)) else
      let n ← qualifiedName
      let owner ← after .AUTHORIZATION name
      pure (Phrase.path n ++ Phrase.behind " AUTHORIZATION " (owner.map Phrase.name))
  return "CREATE SCHEMA " ++ missing ++ schema

def createDatabase : Parser Phrase := do
  let missing ← keywords [.IF, .NOT, .EXISTS]
  let database ← qualifiedName
  let (location, managed) ← iterate (fun ((location, managed) : Phrase × Phrase) => do
    if ← keyword .LOCATION then
      return some (" LOCATION " ++ Phrase.text .quoted (← literalText), managed)
    else if ← keyword .MANAGEDLOCATION then
      return some (location, " MANAGEDLOCATION " ++ Phrase.text .quoted (← literalText))
    else return none) ([], [])
  return "CREATE DATABASE" ++ (if missing then " IF NOT EXISTS " else " ")
    ++ Phrase.path database ++ location ++ managed

def createExtension : Parser Phrase := do
  let missing ← ifMissing
  let n ← name
  let details : Phrase ←
    if ← keyword .WITH then
      let schema ← after .SCHEMA name
      let version ← after .VERSION name
      let cascade ← trailingWords [.CASCADE]
      pure (Phrase.behind " SCHEMA " (schema.map Phrase.name)
        ++ Phrase.behind " VERSION " (version.map Phrase.name) ++ cascade)
    else pure []
  return "CREATE EXTENSION " ++ missing ++ Phrase.name n ++ Phrase.clause " WITH" details

/-! ### Sequences and types -/

def createSequence (temporary : String) : Parser Phrase := do
  let missing ← ifMissing
  let sequence ← qualifiedName
  let type ← after .AS dataType
  let options ← sequenceOptions
  let owner : Phrase ←
    if ← keywords [.OWNED, .BY] then
      if ← keyword .NONE then pure " OWNED BY NONE"
      else pure (" OWNED BY " ++ Phrase.path (← qualifiedName))
    else pure []
  return "CREATE " ++ temporary ++ "SEQUENCE " ++ missing ++ Phrase.path sequence
    ++ Phrase.behind " AS " (type.map Phrase.type) ++ options ++ owner

/-- Items with commas between them up to a closing parenthesis; a comma may stand behind the last
    one. An item that is nothing is left out. -/
def listedUntilParen (item : Parser (Option Phrase)) (what : String) : Parser (List Phrase) := do
  let (items, _) ← iterate (fun ((items, closed) : List Phrase × Bool) => do
    if closed then return none
    let items := (← item).toList ++ items
    let comma ← accept .comma
    if ← accept .rparen then return some (items, true)
    unless comma do expected ("',' or ')' after " ++ what ++ " definition")
    return some (items, false)) ([], false)
  return items.reverse

def typeAttribute : Parser (Option Phrase) := do
  let n ← name
  let type ← dataType
  let collation ← after .COLLATE qualifiedName
  return some (Phrase.name n ++ " " ++ Phrase.type type
    ++ Phrase.behind " COLLATE " (collation.map Phrase.path))

def createType : Parser Phrase := do
  let type ← qualifiedName
  expectKeyword .AS
  let attributes ←
    if ← accept .lparen then
      if ← accept .rparen then pure [] else listedUntilParen typeAttribute "attribute"
    else pure []
  return "CREATE TYPE " ++ Phrase.path type ++ " AS " ++ Phrase.inParens attributes

/-! ### Routines -/

def functionParameter : Parser Phrase := do
  let mode ← oneOf [.IN, .OUT, .INOUT]
  let first ← dataType
  let typed : Phrase ← match first with
    | .custom (n :: _) _ => pure (Phrase.name n ++ " " ++ Phrase.type (← dataType))
    | type => pure (.type type)
  let given ← if ← keyword .DEFAULT then pure true else accept .eq
  let value ← if given then pure (some (← expr)) else pure none
  return (match mode with | none => "" | some k => k.spelling ++ " ") ++ typed
    ++ Phrase.optionalExpr " = " value

/-- What is said of a function behind its parameters. -/
structure FunctionDetails where
  language : Option Name := none
  behavior : Option Keyword := none
  definition : Option Phrase := none
  result : Option Expr := none

/-- The definition of a function as a text. A tag of its dollar marks is dropped. -/
def functionDefinition : Parser Phrase := do
  match ← peek with
  | some (.dollar text _) =>
    skip
    return .literal (.dollar text none)
  | _ => return .text .quoted (← literalText)

def functionDetail (d : FunctionDetails) : Parser (Option FunctionDetails) := do
  let once (known : Bool) (what : String) : Parser Unit :=
    if known then fail (.conflictingOptions (what ++ " specified more than once") none)
    else return
  match ← oneOf [.AS, .LANGUAGE, .IMMUTABLE, .STABLE, .VOLATILE, .RETURN] with
  | some .AS =>
    once d.definition.isSome "AS"
    return some { d with definition := some (← functionDefinition) }
  | some .LANGUAGE =>
    once d.language.isSome "LANGUAGE"
    return some { d with language := some (← name) }
  | some .RETURN =>
    once d.result.isSome "RETURN"
    return some { d with result := some (← expr) }
  | some k =>
    once d.behavior.isSome "IMMUTABLE | STABLE | VOLATILE"
    return some { d with behavior := some k }
  | none => return none

/-- Phrases in parentheses, or nothing if there are none. -/
def listedPhrase (items : List Phrase) : Phrase :=
  if items.isEmpty then [] else Phrase.inParens items

/-- A new function, from its word on. -/
def createFunction (modifiers : String) : Parser Phrase := do
  unless ← has Dialect.functionsAndRoles do expected "an object type after CREATE"
  expectKeyword .FUNCTION
  let function ← qualifiedName
  let parameters ← inParens do
    if ← peekIs .rparen then return [] else commaSeparated functionParameter
  let type ← after .RETURNS dataType
  let d ← iterate functionDetail {}
  return "CREATE " ++ modifiers ++ "FUNCTION " ++ Phrase.path function
    ++ listedPhrase parameters ++ Phrase.behind " RETURNS " (type.map Phrase.type)
    ++ Phrase.behind " LANGUAGE " (d.language.map Phrase.name)
    ++ (match d.behavior with | none => "" | some k => " " ++ k.spelling)
    ++ Phrase.behind " AS " d.definition ++ Phrase.optionalExpr " RETURN " d.result

/-- A parameter of a macro, perhaps with a value of its own. -/
def macroParameter : Parser Phrase := do
  let n ← name
  let given ← if ← accept .assign then pure true else accept .rightArrow
  if given then return Phrase.name n ++ " := " ++ Phrase.expr (← expr)
  else return .name n

/-- A new macro, from its word on. It stands for an expression or for a table. -/
def createMacro (modifiers : String) : Parser Phrase := do
  unless ← has Dialect.macros do expected "an object type after CREATE"
  expectKeyword .MACRO
  let n ← qualifiedName
  let parameters ← inParens do
    if ← peekIs .rparen then return [] else commaSeparated macroParameter
  expectKeyword .AS
  let definition : Phrase ←
    if ← keyword .TABLE then pure ("TABLE " ++ Phrase.query (← query))
    else pure (.expr (← expr))
  return "CREATE " ++ modifiers ++ "MACRO " ++ Phrase.path n ++ listedPhrase parameters ++ " AS "
    ++ definition

/-- Statements with semicolons between them, up to a closing word or the end. -/
def statements : Parser (List Statement) := do
  let (done, _) ← iterate (fun ((done, owing) : List Statement × Bool) => do
    let semicolons ← many do
      if ← accept .semicolon then return some () else return none
    let owing := owing && semicolons.isEmpty
    if (← peek).isNone || (owing && (← peekKeyword) = .END) then return none
    if owing then expected "end of statement"
    return some ((← statement) :: done, true)) ([], false)
  return done.reverse

/-- A parameter of a procedure, if a word comes next. -/
def procedureParameter : Parser (Option Phrase) := do
  match ← peek with
  | some (.word _) =>
    let n ← name
    return some (Phrase.name n ++ " " ++ Phrase.type (← dataType))
  | _ => return none

def createProcedure (altering : String) : Parser Phrase := do
  let procedure ← qualifiedName
  let parameters ←
    if ← accept .lparen then
      if ← accept .rparen then pure [] else listedUntilParen procedureParameter "parameter"
    else pure []
  expectKeywords [.AS, .BEGIN]
  let body ← statements
  expectKeyword .END
  return "CREATE " ++ altering ++ "PROCEDURE " ++ Phrase.path procedure
    ++ Phrase.clause " " (listedPhrase parameters) ++ " AS BEGIN "
    ++ Phrase.joined "; " (body.map Statement.phrase) ++ " END"

end QueryAudit.Sql.Grammar
