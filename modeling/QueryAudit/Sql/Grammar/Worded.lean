import QueryAudit.Sql.Grammar.Call

/-!
# Grammar of functions with words of their own

Functions whose arguments are separated by words instead of commas, choices, arrays and
structures. Each rule begins behind the word that names the function.
-/

namespace QueryAudit.Sql.Grammar

open QueryAudit.Sql.Parser

/-! ### Choices and conversions -/

/-- A choice by conditions. -/
def caseOf : Parser Expr := do
  let operand ← if ← keyword .WHEN then pure none else
    let e ← expr
    expectKeyword .WHEN
    pure (some e)
  let branch : Parser (Expr × Expr) := do
    let condition ← expr
    expectKeyword .THEN
    return (condition, ← expr)
  let first ← branch
  let others ← many (after .WHEN branch)
  let branches := first :: others
  let otherwise ← after .ELSE expr
  expectKeyword .END
  return .caseOf operand (branches.map Prod.fst) (branches.map Prod.snd) otherwise

def castFormat : Parser (Option CastFormat) := do
  if ← keyword .FORMAT then
    let format ← literal
    if ← keywords [.AT, .TIME, .ZONE] then return some ⟨format, some (← literal)⟩
    else return some ⟨format, none⟩
  else return none

def cast (op : CastOp) : Parser Expr :=
  inParens do
    let e ← expr
    expectKeyword .AS
    let type ← dataType
    return .cast op e type (← castFormat)

/-- A conversion to a type or character set. -/
def convert : Parser Expr :=
  inParens do
    let e ← expr
    if ← keyword .USING then return .convert e none (some (← qualifiedName))
    expect .comma
    let type ← dataType
    let charset ←
      if ← keywords [.CHARACTER, .SET] then pure (some (← qualifiedName)) else pure none
    return .convert e (some type) charset

/-- Whether a query has rows. -/
def existsQuery (negated : Bool) : Parser Expr := do
  return .existsQuery negated (← queryInParens)

/-! ### Texts -/

/-- The place of a text in another. -/
def positionOf : Parser Expr :=
  inParens do
    let e ← subexpr .comparison
    unless ← keyword .IN do fail (.positionOutside (← position))
    return .position e (← expr)

/-- An expression behind a keyword or a comma, if one of them comes next. -/
def afterWordOrComma (k : Keyword) : Parser (Option Expr) := do
  let introduced ← if ← keyword k then pure true else accept .comma
  if introduced then return some (← expr) else return none

/-- A part of a text. -/
def substring : Parser Expr :=
  inParens do
    let e ← expr
    let start ← afterWordOrComma .FROM
    return .substring e start (← afterWordOrComma .FOR)

/-- A text with a part of it replaced. -/
def overlay : Parser Expr :=
  inParens do
    let e ← expr
    expectKeyword .PLACING
    let what ← expr
    expectKeyword .FROM
    let start ← expr
    return .overlay e what start (← after .FOR expr)

/-- A text without some characters at its ends. -/
def trim : Parser Expr :=
  inParens do
    let side ← oneOf [.BOTH, .LEADING, .TRAILING]
    let e ← expr
    if ← keyword .FROM then return .trim side (some e) (← expr) []
    if ← accept .comma then
      if ← has Dialect.trimCharacters then return .trim none none e (← exprs)
    return .trim side none e []

/-! ### Times -/

def intervalFields : List Keyword :=
  [.YEAR, .MONTH, .WEEK, .DAY, .HOUR, .MINUTE, .SECOND, .CENTURY, .DECADE, .DOW, .DOY, .EPOCH,
   .ISODOW, .ISOYEAR, .JULIAN, .MICROSECOND, .MICROSECONDS, .MILLENIUM, .MILLENNIUM,
   .MILLISECOND, .MILLISECONDS, .NANOSECOND, .NANOSECONDS, .QUARTER, .TIMEZONE, .TIMEZONE_HOUR,
   .TIMEZONE_MINUTE]

def timeFields : List Keyword :=
  intervalFields ++
    [.DATE, .DAYOFWEEK, .DAYOFYEAR, .ISOWEEK, .TIME, .TIMEZONE_ABBR, .TIMEZONE_REGION]

def timeField : Parser Keyword := do
  match ← oneOf timeFields with
  | some k => return k
  | none => unexpected "date/time field"

/-- A field of a time. -/
def extract : Parser Expr :=
  inParens do
    let field ← timeField
    expectKeyword .FROM
    return .extract field (← expr)

/-- A number or time rounded. -/
def round (way : Rounding) : Parser Expr :=
  inParens do
    let e ← expr
    return .round way e (← after .TO timeField)

/-- The precisions of seconds, in one pair of parentheses. -/
def secondPrecisions : Parser (Option Nat × Option Nat) := do
  if ← accept .lparen then
    let p ← naturalNumber
    let f ← if ← accept .comma then pure (some (← naturalNumber)) else pure none
    expect .rparen
    return (some p, f)
  else return (none, none)

def intervalUnit : Parser IntervalUnit := do
  let k ← peekKeyword
  let leading ← if intervalFields.contains k then pure (some (← timeField)) else pure none
  if leading = some .SECOND then
    let (p, f) ← secondPrecisions
    return ⟨leading, p, none, f⟩
  else
    let p ← optionalSize
    if ← keyword .TO then
      let last ← timeField
      return ⟨leading, p, some last, ← if last = .SECOND then optionalSize else pure none⟩
    else return ⟨leading, p, none, none⟩

/-- An interval with the given rule for its value. -/
def intervalOf (value : Parser Expr) : Parser Expr := do
  let e ← value
  return .interval e (← intervalUnit)

/-! ### Aggregates -/

/-- Whether a token begins what replaces the end of a long text: `none` for neither that nor the
    words behind it. -/
def fillerBegins : Option Token → Option Bool
  | some (.quoted .single _) | some (.quoted .escaped _) | some (.quoted .national _)
  | some (.quoted .hex _) => some true
  | some t => if t.keyword = .WITH || t.keyword = .WITHOUT then some false else none
  | none => none

/-- What a concatenation does when it grows too long. -/
def overflow : Parser (Overflow × Option Expr) := do
  if ← keywords [.ON, .OVERFLOW] then
    if ← keyword .ERROR then return (.error, none)
    expectKeyword .TRUNCATE
    let filler ← match fillerBegins (← peek) with
      | some true => pure (some (← expr))
      | some false => pure none
      | none => expected "either filler, WITH, or WITHOUT in LISTAGG"
    match ← oneOf [.WITH, .WITHOUT] with
    | none => expected "either WITH or WITHOUT in LISTAGG"
    | some k =>
      expectKeyword .COUNT
      return (.truncate (k = .WITH), filler)
  else return (.unspecified, none)

/-- A concatenation of texts over rows. -/
def listAgg : Parser Expr := do
  expect .lparen
  let distinct ← distinct
  let e ← expr
  let separator ← if ← accept .comma then pure (some (← expr)) else pure none
  let (overflow, filler) ← overflow
  expect .rparen
  let withinGroup ←
    if ← keywords [.WITHIN, .GROUP] then
      inParens do
        expectKeywords [.ORDER, .BY]
        orderings
    else pure []
  return .listAgg distinct.holds e separator overflow filler withinGroup

/-- An array over rows. -/
def arrayAgg : Parser Expr :=
  inParens do
    let distinct ← keyword .DISTINCT
    let e ← expr
    let order ← optionalOrderings
    let limit ← after .LIMIT limit
    return .arrayAgg distinct e order limit.join

/-! ### Composite values -/

/-- An array behind its opening bracket. -/
def array (worded : Bool) : Parser Expr := do
  if ← accept .rbracket then return .array worded []
  let items ← exprs
  expect .rbracket
  return .array worded items

/-- A field of a structure. Typed fields have no names of their own. -/
def structItem (typed : Bool) : Parser Expr := do
  let e ← expr
  let place ← position
  if ← keyword .AS then
    if typed then fail (.typedField place)
    return .named e (← name)
  else return e

/-- A structure, from its word on. -/
def structOf : Parser Expr := do
  let (fields, taken) ← structFields
  if taken then fail (.unmatchedStruct "literal" (← position))
  inParens do
    return .struct (← commaSeparated (structItem !fields.isEmpty)) fields

/-! ### Full text search -/

/-- How a full text search reads its pattern. -/
def searchModifier : Parser (Option SearchModifier) := do
  if ← keywords [.IN, .NATURAL, .LANGUAGE, .MODE] then
    if ← keywords [.WITH, .QUERY, .EXPANSION] then return some .naturalLanguageWithExpansion
    return some .naturalLanguage
  else if ← keywords [.IN, .BOOLEAN, .MODE] then return some .boolean
  else if ← keywords [.WITH, .QUERY, .EXPANSION] then return some .withExpansion
  else return none

/-- A full text search. -/
def matchAgainst : Parser Expr := do
  let columns ← nameList
  expectKeyword .AGAINST
  inParens do
    let value ← literal
    return .matchAgainst columns value (← searchModifier)

end QueryAudit.Sql.Grammar
