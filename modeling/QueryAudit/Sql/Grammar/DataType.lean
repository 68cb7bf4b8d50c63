import QueryAudit.Sql.Grammar.Name

/-!
# Grammar of data types

A keyword names a type of some family, and every other name is a custom type. Types with angle
brackets may end together in `>>`; a type says whether it took the bracket of the type around it.
-/

namespace QueryAudit.Sql.Parser

/-- Types without parameters. -/
def plainTypes : List Keyword :=
  [.BOOLEAN, .BOOL, .REAL, .FLOAT4, .FLOAT64, .FLOAT8, .INT64, .UUID, .DATE, .INTERVAL, .JSON,
   .JSONB, .REGCLASS, .TEXT, .BYTEA]

def sizedTypes : List Keyword :=
  [.FLOAT, .CLOB, .BINARY, .VARBINARY, .BLOB, .BYTES, .DATETIME, .STRING,
   .NVARCHAR]

def integerTypes : List Keyword :=
  [.TINYINT, .INT2, .SMALLINT, .MEDIUMINT, .INT, .INT4, .INT8, .INTEGER, .BIGINT]

def exactTypes : List Keyword :=
  [.NUMERIC, .DECIMAL, .DEC, .BIGNUMERIC, .BIGDECIMAL]

def characterLength : Parser CharacterLength := do
  if ← keyword .MAX then return .maximum
  let n ← naturalNumber
  return .units n (← oneOf [.CHARACTERS, .OCTETS])

/-- The precision and scale of an exact number. -/
def exactSize : Parser ExactSize := do
  if ← accept .lparen then
    let p ← naturalNumber
    let size ← if ← accept .comma then pure (.scaled p (← naturalNumber)) else pure (.precision p)
    expect .rparen
    return size
  else return .none

/-- What a type of time says about its zone. -/
def zoneInfo : Parser ZoneInfo := do
  if ← keyword .WITH then
    expectKeywords [.TIME, .ZONE]
    return .withZone
  else if ← keyword .WITHOUT then
    expectKeywords [.TIME, .ZONE]
    return .withoutZone
  else return .none

/-- A character type that may be varying or large. -/
def characterType (k : Keyword) : Parser DataType := do
  if ← keyword .VARYING then
    return .character [k, .VARYING] (← optionalParens characterLength)
  else if ← keywords [.LARGE, .OBJECT] then
    return .sized [k, .LARGE, .OBJECT] (← optionalSize)
  else return .character [k] (← optionalParens characterLength)

/-- The values of an enumeration, in parentheses. -/
def valueTexts : Parser (List String) := do
  expect .lparen
  let item : Parser String := do
    match ← peek with
    | some (.quoted .single text) =>
      skip
      return text
    | _ => unexpected "a string"
  let first ← item
  let others ← many do
    if ← accept .comma then return some (← item) else return none
  unless ← accept .rparen do unexpected ", or \x7d"
  return first :: others

def typeModifier : Token → Option String
  | .word w => some (Token.word w).spelling
  | .number digits _ => some digits
  | .quoted .single text => some text
  | _ => none

/-- The modifiers of a custom type. Commas between them make no difference. -/
def typeModifiers : Parser (List String) := do
  if ← accept .lparen then
    let items ← many do
      let _ ← many do
        if ← accept .comma then return some () else return none
      match (← peek).bind typeModifier with
      | some m =>
        skip
        return some m
      | none => return none
    unless ← accept .rparen do unexpected "type modifiers"
    return items
  else return []

/-- A type of the given keyword, if it takes no other types. -/
def simpleType (k : Keyword) : Parser DataType := do
  if plainTypes.contains k then return .plain [k]
  else if sizedTypes.contains k then return .sized [k] (← optionalSize)
  else if integerTypes.contains k then
    let width ← optionalSize
    return .integer k width (← keyword .UNSIGNED)
  else if exactTypes.contains k then return .exact k (← exactSize)
  else
    match k with
    | .DOUBLE => return .plain (if ← keyword .PRECISION then [.DOUBLE, .PRECISION] else [.DOUBLE])
    | .VARCHAR => return .character [.VARCHAR] (← optionalParens characterLength)
    | .CHARACTER => characterType .CHARACTER
    | .CHAR => characterType .CHAR
    | .TIMESTAMP =>
      let precision ← optionalSize
      return .time .TIMESTAMP precision (← zoneInfo)
    | .TIME =>
      let precision ← optionalSize
      return .time .TIME precision (← zoneInfo)
    | .TIMESTAMPTZ => return .time .TIMESTAMP (← optionalSize) .suffix
    | .TIMETZ => return .time .TIME (← optionalSize) .suffix
    | _ => return .values k (← valueTexts)

/-- Keywords that name a type without other types in it. -/
def simpleTypes : List Keyword :=
  plainTypes ++ sizedTypes ++ integerTypes ++ exactTypes ++
    [.DOUBLE, .VARCHAR, .CHARACTER, .CHAR, .TIMESTAMP, .TIME, .TIMESTAMPTZ, .TIMETZ,
     .ENUM, .SET]

def customType : Parser DataType := do
  let n ← qualifiedName
  return .custom n (← typeModifiers)

/-- The closing angle bracket of a type, unless a type inside took it already. The answer says
    whether the bracket of the next type around was taken with it. -/
def closingAngle (taken : Bool) : Parser Bool := do
  if taken then return false
  else if ← accept .gt then return false
  else if ← accept .shiftRight then return true
  else expected ">"

/-- A data type nested at most as deep as there are given tokens, which are those that are left
    where it begins, and whether it took the bracket of the type around it. -/
def dataTypeWithin : List Located → Parser (DataType × Bool)
  | [] => unexpected "a data type name"
  | _ :: left => do
    let (type, taken) ← do
      match ← peek with
      | some (.word w) =>
        if w.keyword = .ARRAY then
          skip
          expect .lt
          let (element, taken) ← dataTypeWithin left
          pure (.angleArray element, ← closingAngle taken)
        else if simpleTypes.contains w.keyword then
          skip
          pure (← simpleType w.keyword, false)
        else pure (← customType, false)
      | _ => unexpected "a data type name"
    let type ← iterate (fun type => do
      if ← accept .lbracket then
        expect .rbracket
        return some (.squareArray type)
      else return none) type
    return (type, taken)

/-- A data type, and whether it took a bracket too many. -/
def openDataType : Parser (DataType × Bool) := do
  dataTypeWithin (← remaining)

def dataType : Parser DataType := do
  let (type, taken) ← openDataType
  if taken then fail (.unmatchedType type.render (← peek))
  return type

/-- Whether a word spells a keyword, quoted or not. -/
def spellsKeyword : Option Token → Bool
  | some (.word w) => Keyword.ofText w.text.toList ≠ .ordinary
  | _ => false

/-- A field of a structure, and whether its type took a bracket too many. A keyword begins the type
    of a field without a name. -/
def structField : Parser (Field × Bool) := do
  let fieldName ← if spellsKeyword (← peek) then pure none else pure (some (← name))
  let (type, taken) ← openDataType
  return (⟨fieldName, type⟩, taken)

/-- The fields of a structure behind its word, or none. A field that took an outer bracket has to
    be the last one. -/
def structFields : Parser (List Field × Bool) := do
  let start ← position
  expectKeyword .STRUCT
  if ← accept .lt then
    let (field, taken) ← structField
    let step : List Field × Bool → Parser (Option (List Field × Bool)) := fun (done, taken) => do
      if ← accept .comma then
        if taken then fail (.unmatchedStruct "definition" start)
        let (field, taken) ← structField
        return some (field :: done, taken)
      else return none
    let (fields, taken) ← iterate step ([field], taken)
    return (fields.reverse, ← closingAngle taken)
  else return ([], false)

end QueryAudit.Sql.Parser
