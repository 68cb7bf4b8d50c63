import QueryAudit.Sql.Grammar.Relation

/-!
# Grammar of queries

Selections with all their clauses, values, combinations of queries, and the clauses before and
behind a query's body.
-/

namespace QueryAudit.Sql.Grammar

open QueryAudit.Sql.Parser

/-! ### The select list -/

/-- A name, or names in parentheses. -/
def nameOrList : Parser Phrase := do
  if ← peekIs .lparen then return "(" ++ Phrase.names (← nameList) ++ ")"
  else return .name (← name)

/-- Columns of a star to leave out. -/
def starExcept : Parser Phrase := do
  let names ← if ← peekIs .lparen then nameList else pure [← name]
  return " EXCEPT (" ++ Phrase.names names ++ ")"

/-- A column with its new name. -/
def renamedColumn : Parser Phrase := do
  let n ← name
  expectKeyword .AS
  return Phrase.name n ++ " AS " ++ Phrase.name (← name)

/-- Columns of a star with new names. -/
def starRename : Parser Phrase := do
  if ← peekIs .lparen then
    return " RENAME " ++ Phrase.inParens (← inParens (commaSeparated renamedColumn))
  else return " RENAME " ++ (← renamedColumn)

/-- An expression in place of a column. -/
def replacement : Parser Phrase := do
  let e ← expr
  let worded ← keyword .AS
  return Phrase.expr e ++ (if worded then " AS " else " ") ++ Phrase.name (← name)

/-- Columns of a star with expressions in their place. -/
def starReplace : Parser Phrase := do
  unless ← peekIs .lparen do unexpected "( after REPLACE but"
  return " REPLACE " ++ Phrase.inParens (← inParens (commaSeparated replacement))

/-- What a star leaves out, renames and replaces. -/
def starOptions : Parser Phrase := do
  if ← has Dialect.starOptions then
    let exclude ← after .EXCLUDE nameOrList
    let except ← if ← keyword .EXCEPT then starExcept else pure []
    let rename ← if ← keyword .RENAME then starRename else pure []
    let replace ← if ← keyword .REPLACE then starReplace else pure []
    return Phrase.behind " EXCLUDE " exclude ++ except ++ rename ++ replace
  else return []

/-- A filter behind an aggregate in the select list, if one comes next. -/
def itemFilter : Parser (Option Expr) := do
  if ← has Dialect.filtersAggregates then
    rewinding do
      if ← keyword .FILTER then
        if ← accept .lparen then
          if ← keyword .WHERE then
            let condition ← expr
            expect .rparen
            return some condition
      return none
  else return none

def selectItem : Parser Phrase := do
  match ← exprOrStar with
  | .star => return "*" ++ (← starOptions)
  | .qualifiedStar names => return Phrase.path names ++ ".*" ++ (← starOptions)
  | e =>
    let e := match ← itemFilter with
      | some condition => Expr.filtered e condition
      | none => e
    let renamed ← optionalAlias reservedForColumns
    return Phrase.expr e ++ Phrase.behind " AS " (renamed.map Phrase.name)

/-! ### Clauses of a selection -/

/-- The words and keys behind `SELECT`. -/
def Distinct.phrase : Distinct → Phrase
  | .everything => []
  | .rows => " DISTINCT"
  | .on keys => " DISTINCT ON (" ++ Phrase.exprs keys ++ ")"

/-- How many rows to take from the top. -/
def top : Parser Phrase := do
  let count : Phrase ←
    if ← peekIs .lparen then pure (" TOP (" ++ Phrase.expr (← inParens expr) ++ ")")
    else do
      let count ← naturalNumber
      pure (" TOP " ++ toString count)
  let percent ← keyword .PERCENT
  let ties ← keywords [.WITH, .TIES]
  return count ++ Phrase.wordsIf percent " PERCENT" ++ Phrase.wordsIf ties " WITH TIES"

/-- The table that a selection is written to. -/
def intoTable : Parser Phrase := do
  let temporary ← oneOf [.TEMP, .TEMPORARY]
  let unlogged ← keyword .UNLOGGED
  let table ← keyword .TABLE
  let n ← qualifiedName
  return " INTO" ++ (if temporary.isSome then " TEMPORARY" else "")
    ++ (if unlogged then " UNLOGGED" else "") ++ (if table then " TABLE" else "")
    ++ " " ++ Phrase.path n

/-- Words that are no alias of a column of a lateral view. -/
def reservedForViews : List Keyword :=
  [.WHERE, .GROUP, .CLUSTER, .HAVING, .LATERAL]

/-- A lateral view, if one comes next. -/
def lateralView : Parser (Option Phrase) := do
  if ← keywords [.LATERAL, .VIEW] then
    let outer ← keyword .OUTER
    let e ← expr
    let n ← qualifiedName
    let columns ← commaSeparated (optionalAlias reservedForViews)
    let columns := columns.filterMap id
    let named : Phrase := if columns.isEmpty then [] else " AS " ++ Phrase.names columns
    return some (" LATERAL VIEW" ++ (if outer then " OUTER " else " ") ++ Phrase.expr e ++ " "
      ++ Phrase.path n ++ named)
  else return none

/-- Expressions in parentheses, perhaps none. -/
def groupSet : Parser (List Expr) := do
  expect .lparen
  if ← accept .rparen then return []
  let items ← exprs
  expect .rparen
  return items

/-- Expressions in parentheses, or one without them. -/
def groupSetOrExpr : Parser (List Expr) := do
  if ← peekIs .lparen then groupSet else return [← expr]

def groupItem : Parser Expr := do
  if ← has Dialect.groupingSets then
    if ← keywords [.GROUPING, .SETS] then
      return .grouping .groupingSets (← inParens (commaSeparated groupSet))
    if ← keyword .CUBE then
      return .grouping .cube (← inParens (commaSeparated groupSetOrExpr))
    if ← keyword .ROLLUP then
      return .grouping .rollup (← inParens (commaSeparated groupSetOrExpr))
  expr

def groupBy : Parser Phrase := do
  if ← keywords [.GROUP, .BY] then
    if ← keyword .ALL then return " GROUP BY ALL"
    return " GROUP BY " ++ Phrase.exprs (← commaSeparated groupItem)
  else return []

/-- A clause of expressions behind two keywords. -/
def exprsBy (k : Keyword) : Parser Phrase := do
  if ← keywords [k, .BY] then
    return " " ++ k.spelling ++ " BY " ++ Phrase.exprs (← exprs)
  else return []

/-- A clause of one expression behind a keyword. -/
def exprBehind (k : Keyword) : Parser Phrase := do
  return Phrase.optionalExpr (" " ++ k.spelling ++ " ") (← after k expr)

/-- Partition, order and frame of a window as a phrase. -/
def windowPhrase : Window → Phrase
  | .spec partitionBy orderBy frame =>
    Phrase.joined " " <| List.filter (fun p => !p.isEmpty)
      [Phrase.clause "PARTITION BY " (Phrase.exprs partitionBy),
        Phrase.clause "ORDER BY " (Phrase.orderings orderBy), frame]
  | _ => []

def namedWindow : Parser Phrase := do
  let n ← name
  expectKeyword .AS
  expect .lparen
  let window ← windowSpec
  return Phrase.name n ++ " AS (" ++ windowPhrase window ++ ")"

/-- The windows that calls may name. -/
def namedWindows : Parser Phrase := do
  if ← keyword .WINDOW then
    return " WINDOW " ++ Phrase.commas (← commaSeparated namedWindow)
  else return []

/-- A selection from behind `SELECT` on. -/
def select : Parser Body := do
  let distinct ← distinct
  let top ← after .TOP top
  let items ← commaSeparated selectItem
  let into ← after .INTO intoTable
  let sources ← after .FROM (commaSeparated source)
  let views ← many lateralView
  let condition ← after .WHERE expr
  let group ← groupBy
  let cluster ← exprsBy .CLUSTER
  let distribute ← exprsBy .DISTRIBUTE
  let sort ← exprsBy .SORT
  let having ← exprBehind .HAVING
  let windows ← namedWindows
  let qualify ← exprBehind .QUALIFY
  let head := "SELECT" ++ distinct.phrase ++ top.getD [] ++ " " ++ Phrase.commas items
    ++ into.getD []
  let tail := group ++ cluster ++ distribute ++ sort ++ having ++ windows ++ qualify
  return .select head.merged (sources.getD []) (Phrase.merged views.flatten) condition tail.merged

/-! ### Bodies -/

/-- A row of values; it may be empty in some dialects. -/
def valueRow : Parser (Bool × List Expr) := do
  let worded ← keyword .ROW
  expect .lparen
  if ← has Dialect.emptyRows then
    if ← accept .rparen then return (worded, [])
  let row ← exprs
  expect .rparen
  return (worded, row)

/-- Rows of values. If one row has its word, all of them are written with it. -/
def values : Parser Body := do
  let rows ← commaSeparated valueRow
  return .values (rows.any Prod.fst) (rows.map Prod.snd)

def wordText (what : String) : Option Located → Parser String
  | some ⟨.word w, _, _⟩ => return w.text
  | found => fail (.expected what found)

/-- A table in place of a selection. Three tokens are taken, whether or not a period is the second
    of them. -/
def wholeTable : Parser Body := do
  let first ← next
  let second ← next
  let third ← next
  if second.map Located.token == some (.symbol .period) then
    let schema ← wordText "Schema name" first
    return .table (some schema) (← wordText "Table name" third)
  else return .table none (← wordText "Table name" first)

/-- A body without combinations. -/
def simpleBody : Parser Body := do
  if ← keyword .SELECT then select
  else if ← peekIs .lparen then return .query (← queryInParens)
  else if ← keyword .VALUES then values
  else if ← keyword .TABLE then wholeTable
  else expected "SELECT, VALUES, or a subquery in the query body"

/-- The combination that a keyword stands for. -/
def setOpOf : Keyword → Option SetOp
  | .UNION => some .union
  | .EXCEPT => some .except
  | .INTERSECT => some .intersect
  | _ => none

/-- How tightly a combination binds. -/
def setRank : SetOp → Nat
  | .union | .except => 10
  | .intersect => 20

/-- Which rows a combination keeps. Only unions match columns by their names. -/
def setQuantifier (op : SetOp) : Parser SetQuantifier := do
  let byName : Parser Bool := if op = .union then keywords [.BY, .NAME] else pure false
  if ← keyword .DISTINCT then return if ← byName then .distinctByName else .distinct
  else if ← byName then return .byName
  else if ← keyword .ALL then return if ← byName then .allByName else .all
  else return .none

/-- The body of a query whose combinations bind tighter than a rank. -/
def bodyOf (outer : Nat) : Parser Body := do
  let first ← simpleBody
  iterate (fun left => do
    match setOpOf (← peekKeyword) with
    | none => return none
    | some op =>
      if setRank op ≤ outer then return none
      skip
      let quantifier ← setQuantifier op
      return some (.combined left op quantifier (← body (setRank op)))) first

/-! ### Clauses of a query -/

/-- A named query before a query. -/
def commonQuery : Parser Phrase := do
  let n ← name
  let columns ← if (← peekKeyword) = .AS then pure [] else optionalNameList
  expectKeyword .AS
  let q ← queryInParens
  let origin ← after .FROM name
  return aliasWords n columns ++ " AS (" ++ Phrase.query q ++ ")"
    ++ Phrase.behind " FROM " (origin.map Phrase.name)

/-- The named queries before a query. -/
def commonQueries : Parser Phrase := do
  if ← keyword .WITH then
    let recursive ← keyword .RECURSIVE
    let queries ← commaSeparated commonQuery
    return (if recursive then "WITH RECURSIVE " else "WITH ") ++ Phrase.commas queries ++ " "
  else return []

/-- A limit and an offset. -/
structure Extent where
  limit : Option Expr := none
  /-- The offset, with the word behind it. -/
  offset : Option (Expr × String) := none

def offset : Parser (Expr × String) := do
  let e ← expr
  match ← oneOf [.ROW, .ROWS] with
  | none => return (e, "")
  | some k => return (e, " " ++ k.spelling)

/-- One round of reading a limit and an offset, in this order. A comma after the limit turns it
    into the offset. -/
def extentRound (x : Extent) : Parser Extent := do
  let limit ←
    if x.limit.isNone then
      if ← keyword .LIMIT then limit else pure none
    else pure x.limit
  let offset ←
    if x.offset.isNone then
      if ← keyword .OFFSET then pure (some (← offset)) else pure none
    else pure x.offset
  match limit, offset with
  | some e, none =>
    if ← has Dialect.limitComma then
      if ← accept .comma then return ⟨some (← expr), some (e, "")⟩
    return ⟨limit, offset⟩
  | _, _ => return ⟨limit, offset⟩

/-- A limit and an offset, in either order. -/
def extent : Parser Phrase := do
  let x ← extentRound (← extentRound {})
  let offset := x.offset.map fun (e, rows) => Phrase.expr e ++ rows
  return Phrase.optionalExpr " LIMIT " x.limit ++ Phrase.behind " OFFSET " offset

def limitBy : Parser Phrase := do
  if ← has Dialect.limitBy then
    if ← keyword .BY then return " BY " ++ Phrase.exprs (← exprs)
  return []

/-- How many rows to fetch. -/
def fetch : Parser Phrase := do
  let _ ← expectOneOf [.FIRST, .NEXT]
  let count : Phrase ←
    match ← oneOf [.ROW, .ROWS] with
    | some _ => pure []
    | none =>
      let n ← literal
      let percent ← keyword .PERCENT
      let _ ← expectOneOf [.ROW, .ROWS]
      pure (Phrase.literal n ++ (if percent then " PERCENT " else " "))
  if ← keyword .ONLY then return " FETCH FIRST " ++ count ++ "ROWS ONLY"
  else if ← keywords [.WITH, .TIES] then return " FETCH FIRST " ++ count ++ "ROWS WITH TIES"
  else expected "one of ONLY or WITH TIES"

def lock : Parser Phrase := do
  let kind ← expectOneOf [.UPDATE, .SHARE]
  let table ← after .OF qualifiedName
  let waiting ← do
    if ← keyword .NOWAIT then pure " NOWAIT"
    else if ← keywords [.SKIP, .LOCKED] then pure " SKIP LOCKED"
    else pure ""
  return " FOR " ++ kind.spelling ++ Phrase.behind " OF " (table.map Phrase.path) ++ waiting

def documentRoot : Parser Phrase := do
  return ", ROOT(" ++ Phrase.text .quoted (← inParens literalText) ++ ")"

/-- The options of a result that is one document, each behind a comma. They may come in any order
    and are written in the order given here; a comma may also stand alone. -/
def documentOptions (options : List Keyword) : Parser Phrase := do
  let step : List Keyword × Phrase → Parser (Option (List Keyword × Phrase)) :=
    fun (chosen, root) => do
      unless ← accept .comma do return none
      match ← oneOf options with
      | none => return some (chosen, root)
      | some .ROOT => return some (chosen, ← documentRoot)
      | some k =>
        if k = .BINARY then expectKeyword .BASE64
        return some (k :: chosen, root)
  let (chosen, root) ← iterate step ([], [])
  return options.flatMap fun k =>
    if k = .ROOT then root
    else Phrase.wordsIf (chosen.contains k)
      (if k = .BINARY then ", BINARY BASE64" else ", " ++ k.spelling)

def documentForm (kind : Keyword) (forms : List Keyword) : Parser Keyword := do
  match ← oneOf forms with
  | some k => return k
  | none => fail (.documentForm kind forms)

/-- A result that is one document, if the words for it come next. -/
def documentResult : Parser (Option Phrase) := do
  if ← keyword .BROWSE then return some " FOR BROWSE"
  if ← keyword .JSON then
    let form ← documentForm .JSON [.AUTO, .PATH]
    let options ← documentOptions [.ROOT, .INCLUDE_NULL_VALUES, .WITHOUT_ARRAY_WRAPPER]
    return some (" FOR JSON " ++ form.spelling ++ options)
  if ← keyword .XML then
    let form ← documentForm .XML [.RAW, .AUTO, .EXPLICIT, .PATH]
    let element ←
      if form = .RAW || form = .PATH then optionalParens literalText else pure none
    let named := element.map fun text => "(" ++ Phrase.text .quoted text ++ ")"
    let options ← documentOptions [.BINARY, .TYPE, .ROOT, .ELEMENTS]
    return some (" FOR XML " ++ form.spelling ++ named.getD [] ++ options)
  return none

/-- Locks, then perhaps a document made of the rows. -/
def lockClauses : Parser Phrase := do
  let (clauses, _) ← iterate (fun ((done, finished) : Phrase × Bool) => do
    if finished then return none
    if ← keyword .FOR then
      match ← documentResult with
      | some words => return some (done ++ words, true)
      | none => return some (done ++ (← lock), false)
    else return none) ([], false)
  return clauses

/-- The clauses behind the body of a query. -/
def queryTail : Parser Phrase := do
  let order ← optionalOrderings
  let extent ← extent
  let limitBy ← limitBy
  let fetch ← after .FETCH fetch
  let locks ← lockClauses
  return Phrase.clause " ORDER BY " (Phrase.orderings order) ++ extent ++ limitBy
    ++ fetch.getD [] ++ locks

end QueryAudit.Sql.Grammar
