import QueryAudit.Sql.Parser
import QueryAudit.Sql.Phrase

/-!
# Grammar of names, aliases and literals

Any word is a name, reserved or not, and so is a text in single or double quotes. As an alias
without `AS` a reserved word is refused, for it may begin the next clause.
-/

namespace QueryAudit.Sql.Parser

/-! ### Names -/

/-- The name that a token writes, if it is a word or a quoted text. -/
def nameOf : Token → Option Name
  | .word w => some ⟨w.text, w.quote⟩
  | .quoted .single text => some ⟨text, some '\''⟩
  | .quoted .double text => some ⟨text, some '"'⟩
  | _ => none

def name : Parser Name := do
  match (← peek).bind nameOf with
  | some n =>
    skip
    return n
  | none => unexpected "identifier"

/-- Names joined by a symbol, at least one. -/
def namesJoined (symbol : Symbol) : Parser (List Name) := do
  let first ← name
  let others ← many do
    if ← accept symbol then return some (← name) else return none
  return first :: others

def qualifiedName : Parser (List Name) :=
  namesJoined .period

/-- Names in parentheses. -/
def nameList : Parser (List Name) := do
  unless ← peekIs .lparen do expected "a list of columns in parentheses"
  inParens (commaSeparated name)

/-- Names in parentheses, or none. -/
def optionalNameList : Parser (List Name) := do
  return (← optionalParens (commaSeparated name)).getD []

/-- Names in parentheses, which may be empty, or none. -/
def possiblyEmptyNameList : Parser (List Name) := do
  if (← peekIs .lparen) && (← peekAt 1) == some (.symbol .rparen) then
    skip
    skip
    return []
  else optionalNameList

/-- The words before an equals sign, or all that are left. Whatever else stands between them is
    passed over. -/
def namesBeforeEquals : Parser (List Name) :=
  let before (ts : List Located) := ts.takeWhile fun t => t.token ≠ .symbol .eq
  let nameAt (t : Located) : Option Name :=
    match t.token with
    | .word w => some ⟨w.text, w.quote⟩
    | _ => none
  plainly (fun _ ts => .parsed ((before ts).filterMap nameAt) (ts.drop (before ts).length))
    fun _ ts => ts.drop_suffix _

/-! ### Aliases -/

/-- Words that are no alias without `AS`, whatever the alias is for. -/
def reservedForAliases : List Keyword :=
  [.WITH, .EXPLAIN, .ANALYZE, .SELECT, .WHERE, .GROUP, .SORT, .HAVING, .ORDER, .TOP, .LATERAL,
   .VIEW, .LIMIT, .OFFSET, .FETCH, .UNION, .EXCEPT, .INTERSECT, .CLUSTER, .DISTRIBUTE, .END]

/-- Words that are no alias of a column without `AS`. -/
def reservedForColumns : List Keyword :=
  reservedForAliases ++ [.FROM, .INTO]

/-- Words that are no alias of a table without `AS`. -/
def reservedForTables : List Keyword :=
  reservedForAliases ++
    [.PIVOT, .UNPIVOT, .ON, .JOIN, .INNER, .CROSS, .FULL, .LEFT, .RIGHT, .NATURAL, .USING, .OUTER,
     .SET, .QUALIFY, .WINDOW, .FOR, .PARTITION]

/-- An alias, if there is one. Behind `AS` every name is an alias. -/
def optionalAlias (reserved : List Keyword) : Parser (Option Name) := do
  let insisting ← keyword .AS
  match ← peek with
  | some t =>
    match nameOf t with
    | some n =>
      if insisting || !reserved.contains t.keyword then
        skip
        return some n
      else return none
    | none => if insisting then unexpected "an identifier after AS" else return none
  | none => if insisting then unexpected "an identifier after AS" else return none

/-- The words of an alias, with names of columns behind it. -/
def aliasWords (name : Name) (columns : List Name) : Phrase :=
  Phrase.name name ++ Phrase.listed columns

/-- An alias of a table with names for its columns, as words, if there is one. -/
def tableAlias : Parser (Option Phrase) := do
  match ← optionalAlias reservedForTables with
  | none => return none
  | some n => return some (aliasWords n (← optionalNameList))

/-! ### Literals -/

/-- Keywords that may be texts without quotes, like ordinary words. -/
def bareKeywords : List Keyword :=
  [.ordinary, .LOCATION, .TYPE, .DATE, .START, .END]

def wordLiteral (bareTexts : Bool) (w : Word) : Option Literal :=
  match w.keyword, w.quote with
  | .TRUE, _ => some (.boolean true)
  | .FALSE, _ => some (.boolean false)
  | .NULL, _ => some .null
  | _, some '"' => some (.quoted .double w.text)
  | _, some _ => none
  | k, none => if bareTexts && bareKeywords.contains k then some (.bare w.text) else none

/-- The literal that a single token is. -/
def literalOf (d : Dialect) : Token → Option Literal
  | .number digits long => some (.number digits long)
  | .quoted q text => some (.quoted q text)
  | .dollar text tag => some (.dollar text tag)
  | .placeholder text => some (.placeholder text)
  | .word w => wordLiteral d.bareTexts w
  | _ => none

/-- The name of a placeholder: a word or a number. -/
def placeholderName : Token → Option String
  | .word w => some w.text
  | .number digits false => some digits
  | _ => none

/-- What a literal was expected to be, when a token is none. -/
def literalWanted : Token → String
  | .word w => if w.quote.isSome then "A value?" else "a concrete value"
  | _ => "a value"

/-- A literal. A colon or an at sign before a name or number makes a placeholder. -/
def literal : Parser Literal := do
  match ← peek with
  | none => unexpected "a value"
  | some t =>
    match literalOf (← dialect) t with
    | some value =>
      skip
      return value
    | none =>
      if t = .symbol .colon || t = .symbol .at then
        skip
        match (← peek).bind placeholderName with
        | some n =>
          skip
          return .placeholder (t.spelling ++ n)
        | none => unexpected "placeholder"
      else unexpected (literalWanted t)

/-- The bound of natural numbers. -/
def numberBound : Nat := 18446744073709551616

/-- The natural number of 64 bits that digits write. -/
def numberOf (digits : String) : Option Nat :=
  let cs := digits.toList
  let n := cs.foldl (fun n c => n * 10 + (c.toNat - 48)) 0
  if cs.all Char.isDigit && !cs.isEmpty && n < numberBound then some n else none

/-- A natural number of 64 bits. -/
def naturalNumber : Parser Nat := do
  match ← peek with
  | some (.number digits _) =>
    skip
    match numberOf digits with
    | some n => return n
    | none => fail (.notANumber digits)
  | _ => unexpected "literal int"

/-- A natural number in parentheses, if there is one. -/
def optionalSize : Parser (Option Nat) :=
  optionalParens naturalNumber

/-- A text: an ordinary word or a string. -/
def literalText : Parser String := do
  match ← peek with
  | some (.word w) =>
    if w.keyword = .ordinary then
      skip
      return w.text
    else unexpected "literal string"
  | some (.quoted .single text) =>
    skip
    return text
  | some (.quoted .double text) =>
    skip
    return text
  | some (.quoted .escaped text) =>
    if ← has Dialect.escapedStrings then
      skip
      return text
    else unexpected "literal string"
  | _ => unexpected "literal string"

/-- A character, which is a text of one byte. -/
def literalChar : Parser Char := do
  let place ← position
  let text ← literalText
  match text.toList with
  | [c] => if c.utf8Size = 1 then return c else fail (.notAChar text place)
  | _ => fail (.notAChar text place)

/-- A literal number, or a placeholder for one. -/
def numberLiteral : Parser Literal := do
  let start ← remaining
  match ← literal with
  | .number digits long => return .number digits long
  | .placeholder text => return .placeholder text
  | _ => fail (.expected "literal number" start.head?)

end QueryAudit.Sql.Parser
