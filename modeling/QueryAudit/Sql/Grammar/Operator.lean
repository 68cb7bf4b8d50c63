import QueryAudit.Sql.Grammar.Worded

/-!
# Grammar of operators

What may follow an operand: operators between two operands, tests and matches, casts and look-ups.
-/

namespace QueryAudit.Sql.Grammar

open QueryAudit.Sql.Parser

/-! ### Ranks -/

def symbolRank : Symbol → Rank
  | .eq | .doubleEq | .neq | .lt | .ltEq | .gt | .gtEq | .spaceship
  | .tilde | .tildeAsterisk | .exclamationTilde | .exclamationTildeAsterisk
  | .doubleTilde | .doubleTildeAsterisk | .exclamationDoubleTilde
  | .exclamationDoubleTildeAsterisk => .comparison
  | .pipe => .pipe
  | .caret | .sharp | .shiftLeft | .shiftRight => .caret
  | .ampersand => .ampersand
  | .plus | .minus => .sum
  | .mul | .div | .intDiv | .mod | .concat => .product
  | .doubleColon | .colon | .exclamation | .lbracket | .overlap | .caretAt
  | .arrow | .longArrow | .hashArrow | .hashLongArrow | .atArrow | .arrowAt | .hashMinus
  | .atQuestion | .atAt => .access
  | _ => .lowest

/-- The rank of a word that tests or matches, also behind `NOT`. -/
def testRank : Keyword → Rank
  | .IN | .BETWEEN => .comparison
  | .LIKE | .ILIKE | .RLIKE | .REGEXP | .SIMILAR => .like
  | _ => .lowest

/-- The rank of a word, given the keywords of the next two tokens. -/
def wordRank (k second third : Keyword) : Rank :=
  match k with
  | .OR => .or
  | .AND => .and
  | .XOR => .xor
  | .IS => .is
  | .NOT => testRank second
  | .AT => if second = .TIME && third = .ZONE then .comparison else .lowest
  | .OPERATOR => .comparison
  | .DIV => .product
  | k => testRank k

/-- How tightly the next tokens bind as an operator. -/
def rank : Parser Rank := do
  let keywordAt (n : Nat) : Parser Keyword := do
    return ((← peekAt n).map Token.keyword).getD .ordinary
  match ← peek with
  | some (.symbol s) => return symbolRank s
  | some (.word w) => return wordRank w.keyword (← keywordAt 1) (← keywordAt 2)
  | _ => return .lowest

/-- How tightly the next tokens bind within the value of an interval, which conditions end. -/
def intervalRank : Parser Rank := do
  let k ← peekKeyword
  if k = .AND || k = .OR || k = .XOR then return .lowest else rank

/-! ### Operators between two operands -/

def binaryOfSymbol (d : Dialect) : Symbol → Option BinaryOp
  | .spaceship => some .spaceship
  | .eq | .doubleEq => some .eq
  | .neq => some .notEq
  | .gt => some .gt
  | .gtEq => some .gtEq
  | .lt => some .lt
  | .ltEq => some .ltEq
  | .plus => some .plus
  | .minus => some .minus
  | .mul => some .multiply
  | .div => some .divide
  | .mod => some .modulo
  | .concat => some .concat
  | .pipe => some .bitwiseOr
  | .ampersand => some .bitwiseAnd
  | .caret => some (if d.caretRaises then .exponent else .bitwiseXor)
  | .intDiv => if d.slashSlashDivides then some .slashSlash else none
  | .shiftLeft => if d.shifts then some .shiftLeft else none
  | .shiftRight => if d.shifts then some .shiftRight else none
  | .sharp => if d.hashOperator then some .hashXor else none
  | .overlap => if d.overlapOperator then some .overlap else none
  | .caretAt => if d.overlapOperator then some .startsWith else none
  | .tilde => some .regexMatch
  | .tildeAsterisk => some .regexIMatch
  | .exclamationTilde => some .regexNotMatch
  | .exclamationTildeAsterisk => some .regexNotIMatch
  | .doubleTilde => some .likeMatch
  | .doubleTildeAsterisk => some .iLikeMatch
  | .exclamationDoubleTilde => some .notLikeMatch
  | .exclamationDoubleTildeAsterisk => some .notILikeMatch
  | _ => none

/-- The parts of an operator's qualified name. Any token may be a part. -/
def operatorPath : Parser (List String) :=
  inParens do
    let part : Parser String := do return tokenName ((← next).map Located.token)
    let first ← part
    let others ← many do
      if ← accept .period then return some (← part) else return none
    return first :: others

/-- An operator between two operands, if one comes next. -/
def binaryOp : Parser (Option BinaryOp) := do
  match ← peek with
  | some (.symbol s) =>
    let op := binaryOfSymbol (← dialect) s
    if op.isSome then skip
    return op
  | some t =>
    match t.keyword with
    | .AND =>
      skip
      return some .and
    | .OR =>
      skip
      return some .or
    | .XOR =>
      skip
      return some .xor
    | .OPERATOR =>
      if ← has Dialect.namedOperators then
        skip
        return some (.named (← operatorPath))
      else return none
    | _ => return none
  | none => return none

/-- What follows an operator: its right operand, or elements to compare with. -/
def rightOperand (left : Expr) (op : BinaryOp) (place : Option Position)
    (rank : Rank) : Parser Expr := do
  match ← oneOf [.ANY, .ALL] with
  | some k =>
    let right ← inParens (subexpr rank)
    -- what is compared is read before the operator is judged
    unless op.isComparison do fail (.notComparison op place)
    return .quantified left op (if k = .ANY then .any else .all) right
  | none => return .binary left op (← subexpr rank)

/-! ### Tests and matches -/

/-- What `IS` tests for. -/
def truthTest (e : Expr) : Parser Expr := do
  let tested : Option (Bool × TruthTest) ← do
    if ← keyword .NULL then pure (some (false, .null))
    else if ← keywords [.NOT, .NULL] then pure (some (true, .null))
    else if ← keyword .TRUE then pure (some (false, .true))
    else if ← keywords [.NOT, .TRUE] then pure (some (true, .true))
    else if ← keyword .FALSE then pure (some (false, .false))
    else if ← keywords [.NOT, .FALSE] then pure (some (true, .false))
    else if ← keyword .UNKNOWN then pure (some (false, .unknown))
    else if ← keywords [.NOT, .UNKNOWN] then pure (some (true, .unknown))
    else pure none
  match tested with
  | some (negated, test) => return .truth e negated test
  | none =>
    if ← keywords [.DISTINCT, .FROM] then return .distinct e false (← expr)
    if ← keywords [.NOT, .DISTINCT, .FROM] then return .distinct e true (← expr)
    expected "[NOT] NULL or TRUE|FALSE or [NOT] DISTINCT FROM after IS"

/-- The elements behind `IN`. -/
def elements (e : Expr) (negated : Bool) : Parser Expr := do
  if ← keyword .UNNEST then return .inUnnest e negated (← inParens expr)
  inParens do
    if ← queryBegins then return .inQuery e negated (← query)
    else return .inList e negated (← exprs)

/-- The bounds behind `BETWEEN`. -/
def bounds (e : Expr) (negated : Bool) : Parser Expr := do
  let low ← subexpr .comparison
  expectKeyword .AND
  return .between e negated low (← subexpr .comparison)

/-- The escape character of a pattern. -/
def escapeChar : Parser (Option Char) :=
  after .ESCAPE literalChar

/-- A pattern, with an escape character where the match allows one. -/
def patternOf (e : Expr) (negated : Bool) (op : PatternOp) : Parser Expr := do
  let pattern ← subexpr .like
  let escape ← if op = .regexp || op = .rLike then pure none else escapeChar
  return .pattern e negated op pattern escape

/-- A test for elements or bounds, or a match, perhaps behind `NOT`. -/
def test (e : Expr) : Parser Expr := do
  let negated ← keyword .NOT
  if ← keyword .REGEXP then
    let _ ← keyword .RLIKE
    patternOf e negated .regexp
  else if ← keyword .RLIKE then patternOf e negated .rLike
  else if ← keyword .IN then elements e negated
  else if ← keyword .BETWEEN then bounds e negated
  else if ← keyword .LIKE then patternOf e negated .like
  else if ← keyword .ILIKE then patternOf e negated .iLike
  else if ← keywords [.SIMILAR, .TO] then patternOf e negated .similarTo
  else expected "IN or BETWEEN after NOT"

/-- A time zone behind `AT TIME ZONE`. -/
def timeZone (e : Expr) : Parser Expr := do
  match ← peek with
  | some (.quoted .single zone) =>
    skip
    return .atTimeZone e zone
  | _ => unexpected "Expected Token::SingleQuotedString after AT TIME ZONE"

/-! ### Look-ups -/

/-- The key of a map: a name or text stands for a text. -/
def mapKey : Parser Expr := do
  match ← peek with
  | some (.word w) =>
    if w.keyword ≠ .ordinary then unexpected "literal string, number or function"
    skip
    if ← peekIs .lparen then call [⟨w.text, none⟩]
    else return .literal (.quoted .single w.text)
  | some (.quoted .single text) =>
    skip
    return .literal (.quoted .single text)
  | some (.number digits _) =>
    skip
    return .literal (.number digits false)
  | _ => unexpected "literal string, number or function"

/-- Look-ups in a map, from behind the first bracket on. Closing brackets may be left out, and only
    a column takes the look-ups. -/
def mapAccess (e : Expr) : Parser Expr := do
  let key : Parser Expr := do
    let k ← mapKey
    let _ ← accept .rbracket
    return k
  let first ← key
  let others ← many do
    if ← accept .lbracket then return some (← key) else return none
  match e with
  | .column _ | .path _ => return .mapAccess e (first :: others)
  | _ => return e

/-- Indexes, from behind the first bracket on. -/
def indexes (e : Expr) : Parser Expr := do
  let index : Parser Expr := do
    let i ← expr
    expect .rbracket
    return i
  let first ← index
  let others ← many do
    if ← accept .lbracket then return some (← index) else return none
  return .index e (first :: others)

/-- The operator that reaches into a document, if a symbol is one. -/
def documentOp : Symbol → Option DocumentOp
  | .arrow => some .arrow
  | .longArrow => some .longArrow
  | .hashArrow => some .hashArrow
  | .hashLongArrow => some .hashLongArrow
  | .atArrow => some .atArrow
  | .arrowAt => some .arrowAt
  | .hashMinus => some .hashMinus
  | .atQuestion => some .atQuestion
  | .atAt => some .atAt
  | _ => none

/-! ### All operators -/

/-- Whether a keyword begins a test or a match. -/
def beginsTest (k : Keyword) : Bool :=
  k = .NOT || testRank k ≠ .lowest

/-- A symbol that is no operator between two operands. -/
def symbolic (e : Expr) (s : Symbol) (place : Located) : Parser Expr := do
  match s with
  | .doubleColon => return .cast .cast e (← dataType) none
  | .exclamation => return .unary .factorial e
  | .lbracket => if ← has Dialect.bracketIndexes then indexes e else mapAccess e
  | .colon => return .document e .colon (.literal (← literal))
  | s =>
    match documentOp s with
    | some op => return .document e op (← expr)
    | none => fail (.notInfix place)

/-- An operand, the operator behind it and what the operator needs. -/
def infixed (e : Expr) (rank : Rank) : Parser Expr := do
  if (← peekKeyword) = .DIV && (← has Dialect.divOperator) then
    skip
    return .binary e .divWord (← expr)
  match ← remaining with
  | [] => return e
  | found :: _ =>
    match ← binaryOp with
    | some op => rightOperand e op found.position rank
    | none =>
      let k := found.token.keyword
      if beginsTest k then test e
      else
        skip
        -- the token has been taken before it turns out to be no operator
        match k, found.token with
        | .IS, _ => truthTest e
        | .AT, _ =>
          expectKeywords [.TIME, .ZONE]
          timeZone e
        | _, .symbol s => symbolic e s found
        | _, _ => fail (.notInfix found)

/-- Take in operators as long as they bind tighter than a rank. -/
def climb (ranking : Parser Rank) (outer : Rank) (e : Expr) : Parser Expr :=
  iterate (fun e => do
    let r ← ranking
    if outer < r then return some (← infixed e r) else return none) e

end QueryAudit.Sql.Grammar
