import QueryAudit.Sql.Grammar.Object
import QueryAudit.Sql.Grammar.Session

/-!
# Grammar of roles

A role has abilities, each of which has a contrary, and a few traits with a value. It may also come
with settings of its own.
-/

namespace QueryAudit.Sql.Grammar

open QueryAudit.Sql.Parser

/-! ### Creation -/

/-- Abilities of a role and their contraries, in the order in which they are written. -/
def roleAbilities : List (Keyword × Keyword) :=
  [(.SUPERUSER, .NOSUPERUSER), (.CREATEDB, .NOCREATEDB), (.CREATEROLE, .NOCREATEROLE),
   (.INHERIT, .NOINHERIT), (.LOGIN, .NOLOGIN), (.REPLICATION, .NOREPLICATION),
   (.BYPASSRLS, .NOBYPASSRLS)]

/-- How a message names an ability. -/
def abilityLabel (ability : Keyword × Keyword) : String :=
  ability.1.spelling ++ " or " ++ ability.2.spelling

/-- What a role can have beside its abilities, in the order in which it is written. -/
def roleTraits : List String :=
  ["CONNECTION LIMIT", "PASSWORD", "VALID UNTIL", "IN ROLE", "IN GROUP", "ROLE", "USER", "ADMIN"]

/-- What kind of value an option of a role has. -/
inductive RoleValue where
  /-- Words that the option is named by. -/
  | words (text : String)
  /-- A password, which may be none. -/
  | password
  | number
  | literal
  | names

def roleValue : RoleValue → Parser Phrase
  | .words text => return text
  | .password => do if ← keyword .NULL then return "NULL" else return .literal (← literal)
  | .number => return .literal (← numberLiteral)
  | .literal => return .literal (← literal)
  | .names => return .names (← commaSeparated name)

/-- The label of what a role is given, and the kind of its value. -/
def roleOption : Parser (Option (String × RoleValue)) := do
  let k ← peekKeyword
  match roleAbilities.find? fun a => a.1 = k || a.2 = k with
  | some ability =>
    skip
    return some (abilityLabel ability, .words k.spelling)
  | none =>
    match ← oneOf [.PASSWORD, .CONNECTION, .VALID, .IN, .ROLE, .USER, .ADMIN] with
    | some .PASSWORD => return some ("PASSWORD", .password)
    | some .CONNECTION =>
      expectKeyword .LIMIT
      return some ("CONNECTION LIMIT", .number)
    | some .VALID =>
      expectKeyword .UNTIL
      return some ("VALID UNTIL", .literal)
    | some .IN =>
      match ← oneOf [.ROLE, .GROUP] with
      | some group => return some ("IN " ++ group.spelling, .names)
      | none => expected "ROLE or GROUP after IN"
    | some k => return some (k.spelling, .names)
    | none => return none

/-- What a role is given, each label with its value and none twice. -/
def roleOptions : Parser (List (String × Phrase)) :=
  iterate (fun given => do
    let place ← position
    match ← roleOption with
    | none => return none
    | some (label, value) =>
      if (given.lookup label).isSome then
        fail (.conflictingOptions ("Found multiple " ++ label) place)
      return some ((label, ← roleValue value) :: given)) []

def createRole : Parser Phrase := do
  let missing ← ifMissing
  let names ← commaSeparated qualifiedName
  let _ ← keyword .WITH
  let given ← if ← has Dialect.functionsAndRoles then roleOptions else pure []
  let abilities := roleAbilities.flatMap fun a => Phrase.behind " " (given.lookup (abilityLabel a))
  let traits := roleTraits.flatMap fun label =>
    Phrase.behind (" " ++ label ++ " ") (given.lookup label)
  return "CREATE ROLE " ++ missing ++ Phrase.commas (names.map Phrase.path) ++ abilities ++ traits

/-! ### Alteration -/

/-- Something new that a role is given. -/
def newRoleOption : Parser Phrase := do
  match ← oneOf (roleAbilities.flatMap fun a => [a.1, a.2]) with
  | some k => return k.spelling
  | none =>
    match ← oneOf [.CONNECTION, .PASSWORD, .VALID] with
    | some .CONNECTION =>
      expectKeyword .LIMIT
      return "CONNECTION LIMIT " ++ (← roleValue .number)
    | some .PASSWORD => return "PASSWORD " ++ (← roleValue .password)
    | some _ =>
      expectKeyword .UNTIL
      return "VALID UNTIL " ++ (← roleValue .literal)
    | none => expected "option"

/-- The value of a setting of a role, behind the name of the setting. -/
def roleSetting : Parser Phrase := do
  if ← keywords [.FROM, .CURRENT] then return " FROM CURRENT"
  let assigned ← if ← accept .eq then pure true else keyword .TO
  unless assigned do expected "'TO' or '=' or 'FROM CURRENT'"
  if ← keyword .DEFAULT then return " TO DEFAULT"
  return " TO " ++ Phrase.expr (← settingValue "config value")

/-- A change of a role, behind its name. -/
def roleChange (database : Phrase) : Parser Phrase := do
  match ← oneOf [.RENAME, .SET, .RESET] with
  | some .RENAME =>
    unless ← keyword .TO do expected "TO after RENAME"
    return "RENAME TO " ++ Phrase.name (← name)
  | some .SET =>
    let setting ← qualifiedName
    return database ++ "SET " ++ Phrase.path setting ++ (← roleSetting)
  | some _ =>
    if ← keyword .ALL then return database ++ "RESET ALL"
    return database ++ "RESET " ++ Phrase.path (← qualifiedName)
  | none =>
    let _ ← keyword .WITH
    let options ← many (attempt newRoleOption)
    if options.isEmpty then expected "option"
    return "WITH " ++ Phrase.joined " " options

/-- A change of a role, from behind its first words on. Only settings are bound to a database. -/
def alterRole : Parser Phrase := do
  unless ← has Dialect.functionsAndRoles do fail .roleChange
  let role ← name
  let database ←
    if ← keywords [.IN, .DATABASE] then nameIfAny else pure none
  let bound := database.map fun names => Phrase.path names ++ " "
  return "ALTER ROLE " ++ Phrase.name role ++ " "
    ++ (← roleChange (Phrase.behind "IN DATABASE " bound))

end QueryAudit.Sql.Grammar
