import QueryAudit.Sql.Grammar

/-!
# Grammar of calls

Calls of functions with their arguments, filters and windows.
-/

namespace QueryAudit.Sql.Grammar

open QueryAudit.Sql.Parser

/-! ### Distinct rows -/

/-- Which rows count. -/
inductive Distinct where
  | everything
  | rows
  /-- One row for each value of some expressions. -/
  | on (keys : List Expr)

/-- Whether equal rows count once. -/
def Distinct.holds : Distinct → Bool
  | .everything => false
  | _ => true

/-- `ALL`, `DISTINCT` or neither. -/
def distinct : Parser Distinct := do
  let start ← position
  let all ← keyword .ALL
  if ← keyword .DISTINCT then
    if all then fail (.allAndDistinct start)
    if ← keyword .ON then
      expect .lparen
      if ← accept .rparen then return .on []
      let keys ← exprs
      expect .rparen
      return .on keys
    else return .rows
  else return .everything

/-! ### Arguments -/

/-- The name that a word or a text in single quotes is. -/
def starName : Option Token → Option Name
  | some (.word w) => some ⟨w.text, w.quote⟩
  | some (.quoted .single text) => some ⟨text, some '\''⟩
  | _ => none

/-- The names before a star, or nothing if no star follows the names. -/
def qualifiedStar : Parser (Option (List Name)) :=
  rewinding do
    match starName (← peek) with
    | none => return none
    | some first =>
      skip
      let step : List Name × Bool → Parser (Option (List Name × Bool)) := fun (names, _) => do
        if ← accept .period then
          if ← accept .mul then return some (names, true)
          match starName (← peek) with
          | some n =>
            skip
            return some (n :: names, false)
          | none => unexpected "an identifier or a '*' after '.'"
        else return none
      let rounds := fun (state : List Name × Bool) => do
        if state.2 then return none else step state
      let (names, starred) ← iterate rounds ([first], false)
      return if starred then some names.reverse else none

/-- An expression or a star, perhaps qualified. -/
def exprOrStar : Parser Expr := do
  if ← accept .mul then return .star
  match ← qualifiedStar with
  | some names => return .qualifiedStar names
  | none => expr

/-- The argument that an expression or star makes. -/
def argumentOf (parameter : Option Name) : Expr → Argument
  | .star => .star parameter
  | .qualifiedStar names => .qualifiedStar parameter names
  | e => .value parameter e

/-- An argument, perhaps with the name of its parameter. -/
def argument : Parser Argument := do
  if (← peekAt 1) == some (.symbol .rightArrow) then
    let parameter ← name
    expect .rightArrow
    return argumentOf (some parameter) (← exprOrStar)
  else return argumentOf none (← exprOrStar)

/-- Arguments and their order, through the closing parenthesis. -/
def arguments : Parser (List Argument × List Ordering) := do
  if ← accept .rparen then return ([], [])
  let arguments ← commaSeparated argument
  let order ← optionalOrderings
  expect .rparen
  return (arguments, order)

/-! ### Windows -/

/-- An end of a window's frame. -/
def frameBound : Parser Phrase := do
  if ← keywords [.CURRENT, .ROW] then return "CURRENT ROW"
  let count : Phrase ←
    if ← keyword .UNBOUNDED then pure "UNBOUNDED"
    else
      match ← peek with
      | some (.quoted .single _) => pure (.expr (← interval))
      | _ => pure (.expr (← expr))
  if ← keyword .PRECEDING then return count ++ " PRECEDING"
  else if ← keyword .FOLLOWING then return count ++ " FOLLOWING"
  else expected "PRECEDING or FOLLOWING"

def frame : Parser Phrase := do
  match ← oneOf [.ROWS, .RANGE, .GROUPS] with
  | none => unexpected "ROWS, RANGE, GROUPS"
  | some unit =>
    if ← keyword .BETWEEN then
      let first ← frameBound
      expectKeyword .AND
      let last ← frameBound
      return unit.spelling ++ " BETWEEN " ++ first ++ " AND " ++ last
    else return unit.spelling ++ " " ++ (← frameBound)

/-- Partition, order and frame of a window, through the closing parenthesis. -/
def windowSpec : Parser Window := do
  let partitionBy ← if ← keywords [.PARTITION, .BY] then exprs else pure []
  let orderBy ← optionalOrderings
  if ← accept .rparen then return .spec partitionBy orderBy []
  let frame ← frame
  expect .rparen
  return .spec partitionBy orderBy frame.merged

def window : Parser Window := do
  if ← keyword .OVER then
    if ← accept .lparen then windowSpec else return .named (← name)
  else return .unwindowed

/-! ### Calls -/

/-- The filter of a call. The word counts as taken even if no condition follows it. -/
def callFilter : Parser (Option Expr) := do
  if (← has Dialect.filtersAggregates) && (← peekKeyword) = .FILTER then
    skip
    if ← accept .lparen then
      if ← keyword .WHERE then
        let condition ← expr
        expect .rparen
        return some condition
  return none

/-- Whether nulls are respected or ignored, if a call says so. -/
def nullTreatment : Parser (Option Bool) := do
  match ← oneOf [.RESPECT, .IGNORE] with
  | none => return none
  | some k =>
    expectKeyword .NULLS
    return some (k = .RESPECT)

def call (function : List Name) : Parser Expr := do
  expect .lparen
  let distinct ← distinct
  let (arguments, order) ← arguments
  let filter ← callFilter
  let nulls ← nullTreatment
  let window ← window
  return .call function ⟨false, distinct.holds, nulls⟩ arguments order filter window

/-- A function that stands for a moment and may do without parentheses. -/
def momentCall (function : Name) : Parser Expr := do
  if ← accept .lparen then
    let (arguments, order) ← arguments
    return .call [function] {} arguments order none .unwindowed
  else return .call [function] ⟨true, false, none⟩ [] [] none .unwindowed

end QueryAudit.Sql.Grammar
