import QueryAudit.Sql.Grammar.Call

/-!
# Grammar of relations

What a `FROM` clause reads from: tables, queries, functions and joins.
-/

namespace QueryAudit.Sql.Grammar

open QueryAudit.Sql.Parser

/-! ### Queries and functions -/

/-- A query from behind its opening parenthesis on. -/
def derived (lateral : Bool) : Parser Relation := do
  let q ← query
  expect .rparen
  let before := (if lateral then "LATERAL (" else "(") ++ Phrase.query q ++ ")"
  return { before, aliasWords := ← tableAlias }

/-- Arguments from behind their opening parenthesis on. -/
def tableArguments : Parser (List Argument) := do
  if ← accept .rparen then return []
  let arguments ← commaSeparated argument
  expect .rparen
  return arguments

/-- A query or function that sees the relations before it. -/
def lateral : Parser Relation := do
  if ← accept .lparen then derived true
  else
    let function ← qualifiedName
    expect .lparen
    let arguments ← tableArguments
    let before := "LATERAL " ++ Phrase.path function ++ Phrase.arguments arguments
    return { before, aliasWords := ← tableAlias }

/-- A function whose value is a table. -/
def tableFunction : Parser Relation := do
  let e ← inParens expr
  return { before := "TABLE(" ++ Phrase.expr e ++ ")", aliasWords := ← tableAlias }

/-- The elements of arrays, perhaps with their offsets. -/
def unnested : Parser Relation := do
  let arrays ← inParens exprs
  let before := "UNNEST(" ++ Phrase.exprs arrays ++ ")"
  let aliasWords ← tableAlias
  if ← keyword .WITH then
    if ← keyword .OFFSET then
      let offset ← optionalAlias reservedForColumns
      let behind := " WITH OFFSET" ++ Phrase.behind " AS " (offset.map Phrase.name)
      return { before, aliasWords, behind }
  return { before, aliasWords }

/-! ### Documents as tables -/

/-- What a column of a document is when there is no value or no valid one. -/
def missingValue : Parser (Option Phrase) := do
  let value : Option Phrase ← do
    if ← keyword .NULL then pure (some "NULL")
    else if ← keyword .ERROR then pure (some "ERROR")
    else if ← keyword .DEFAULT then pure (some ("DEFAULT " ++ Phrase.literal (← literal)))
    else pure none
  if value.isSome then expectKeyword .ON
  return value

def documentColumn : Parser Phrase := do
  let n ← name
  let type ← dataType
  let existing ← keyword .EXISTS
  expectKeyword .PATH
  let path ← literal
  let (onEmpty, onError) ← iterate (fun ((onEmpty, onError) : Phrase × Phrase) => do
    match ← missingValue with
    | none => return none
    | some value =>
      if ← keyword .EMPTY then return some (" " ++ value ++ " ON EMPTY", onError)
      else
        expectKeyword .ERROR
        return some (onEmpty, " " ++ value ++ " ON ERROR")) ([], [])
  return Phrase.name n ++ " " ++ Phrase.type type ++ (if existing then " EXISTS" else "")
    ++ " PATH " ++ Phrase.literal path ++ onEmpty ++ onError

def documentTable : Parser Relation := do
  let before ← inParens do
    let e ← expr
    expect .comma
    let path ← literal
    expectKeyword .COLUMNS
    let columns ← inParens (commaSeparated documentColumn)
    return "JSON_TABLE(" ++ Phrase.expr e ++ ", " ++ Phrase.literal path ++ " COLUMNS"
      ++ Phrase.inParens columns ++ ")"
  return { before, aliasWords := ← tableAlias }

/-! ### Rotation -/

/-- Rows turned into columns. -/
def pivoted (r : Relation) : Parser Relation := do
  expect .lparen
  let function ← match ← next with
    | some ⟨.word w, _, _⟩ => pure w.text
    | _ => expected "an aggregate function name"
  let aggregate ← call [⟨function, none⟩]
  expectKeyword .FOR
  let column ← qualifiedName
  expectKeyword .IN
  let values ← inParens (commaSeparated literal)
  expect .rparen
  let before := r.phrase ++ " PIVOT(" ++ Phrase.expr aggregate ++ " FOR " ++ Phrase.path column
    ++ " IN " ++ Phrase.inParens (values.map Phrase.literal) ++ ")"
  return { before, aliasWords := ← tableAlias }

/-- Columns turned into rows. -/
def unpivoted (r : Relation) : Parser Relation := do
  expect .lparen
  let value ← name
  expectKeyword .FOR
  let n ← name
  expectKeyword .IN
  let columns ← nameList
  expect .rparen
  let before := r.phrase ++ " UNPIVOT(" ++ Phrase.name value ++ " FOR " ++ Phrase.name n ++ " IN ("
    ++ Phrase.names columns ++ "))"
  return { before, aliasWords := ← tableAlias }

/-- A relation with all its rotations. -/
def rotated (r : Relation) : Parser Relation :=
  iterate (fun r => do
    if ← keyword .PIVOT then return some (← pivoted r)
    else if ← keyword .UNPIVOT then return some (← unpivoted r)
    else return none) r

/-! ### Single relations -/

/-- A table by its name, or a function in its place. -/
def namedTable : Parser Relation := do
  let table ← qualifiedName
  let partitioned ← if ← has Dialect.tablePartitions then keyword .PARTITION else pure false
  let partitions ← if partitioned then inParens (commaSeparated name) else pure []
  let arguments ← if ← accept .lparen then pure (some (← tableArguments)) else pure none
  let aliasWords ← tableAlias
  let hinted := (← peekKeyword) = .WITH && (← peekAt 1) == some (.symbol .lparen)
  if hinted then skip
  let hints ← if hinted then inParens exprs else pure []
  let before := Phrase.path table ++ Phrase.clause "PARTITION" (Phrase.listed partitions)
    ++ (arguments.map Phrase.arguments).getD []
  let behind : Phrase := if hints.isEmpty then [] else " WITH (" ++ Phrase.exprs hints ++ ")"
  rotated { table := some table, before, aliasWords, behind }

/-- A relation in parentheses that is no query, from behind the opening one on: a join, or in some
    dialects a single relation, whose alias may stand outside. -/
def parenthesizedJoin : Parser Relation := do
  let (r, joins) ← joined
  if r.isJoin || !joins.isEmpty then
    expect .rparen
    let before := "(" ++ r.phrase ++ joins ++ ")"
    return { isJoin := true, before, aliasWords := ← tableAlias }
  else if ← has Dialect.parenthesizedTables then
    expect .rparen
    match ← tableAlias, r.aliasWords with
    | none, _ => return r
    | some outer, none => return { r with aliasWords := some outer }
    | some _, some inner => fail (.duplicateAlias inner.render)
  else expected "joined table"

def relation : Parser Relation := do
  if ← keyword .LATERAL then lateral
  else if ← keyword .TABLE then tableFunction
  else if ← accept .lparen then
    match ← attempt (derived false) with
    | some r => rotated r
    | none => parenthesizedJoin
  else if (← peekKeyword) = .UNNEST && (← has Dialect.unnestTables) then
    skip
    unnested
  else if ← keyword .JSON_TABLE then documentTable
  else namedTable

/-! ### Joins -/

/-- What joined rows have in common. -/
def joinCondition : Parser Phrase := do
  if ← keyword .ON then return " ON " ++ Phrase.expr (← expr)
  else if ← keyword .USING then return " USING(" ++ Phrase.names (← nameList) ++ ")"
  else return []

/-- The join behind `LEFT` or `RIGHT`. -/
def sidedJoin (side : Keyword) : Parser JoinOp := do
  let left := side = .LEFT
  match ← oneOf [.OUTER, .SEMI, .ANTI, .JOIN] with
  | some .JOIN => return if left then .leftOuter else .rightOuter
  | some .OUTER =>
    expectKeyword .JOIN
    return if left then .leftOuter else .rightOuter
  | some .SEMI =>
    expectKeyword .JOIN
    return if left then .leftSemi else .rightSemi
  | some .ANTI =>
    expectKeyword .JOIN
    return if left then .leftAnti else .rightAnti
  | _ => fail (.sideWithoutJoin side)

/-- The words of a join with a condition, if one comes next. -/
def conditionalJoin (natural : Bool) : Parser (Option JoinOp) := do
  match ← peekKeyword with
  | .INNER | .JOIN =>
    let _ ← keyword .INNER
    expectKeyword .JOIN
    return some .inner
  | .LEFT =>
    skip
    return some (← sidedJoin .LEFT)
  | .RIGHT =>
    skip
    return some (← sidedJoin .RIGHT)
  | .FULL =>
    skip
    let _ ← keyword .OUTER
    expectKeyword .JOIN
    return some .fullOuter
  | .OUTER => expected "LEFT, RIGHT, or FULL"
  | _ => if natural then expected "a join type after NATURAL" else return none

/-- The words of a join without a condition, if one comes next. -/
def unconditionalJoin : Parser (Option JoinOp) := do
  if ← keyword .CROSS then
    if ← keyword .JOIN then return some .cross
    else if ← keyword .APPLY then return some .crossApply
    else expected "JOIN or APPLY after CROSS"
  else if ← keyword .OUTER then
    expectKeyword .APPLY
    return some .outerApply
  else return none

/-- A join with the relation that is joined, if one comes next. -/
def join : Parser (Option Phrase) := do
  match ← unconditionalJoin with
  | some op =>
    let r ← relation
    return some (" " ++ op.spelling ++ " " ++ r.phrase)
  | none =>
    let natural ← keyword .NATURAL
    match ← conditionalJoin natural with
    | none => return none
    | some op =>
      let r ← relation
      let condition ← if natural then pure [] else joinCondition
      let spelling := (if natural then " NATURAL " else " ") ++ op.spelling ++ " "
      return some (spelling ++ r.phrase ++ condition)

def joinedOf : Parser (Relation × Phrase) := do
  let r ← relation
  let joins ← many join
  return (r, joins.flatten)

/-- An entry of a `FROM` clause. -/
def source : Parser Source := do
  let (r, joins) ← joined
  return ⟨r.table, r.phrase.merged, joins.merged⟩

end QueryAudit.Sql.Grammar
