import QueryAudit.Sql.Keyword
import QueryAudit.Sql.Token

/-!
# Operators

The operators of expressions, with their canonical spelling. Two spellings of one operator, such as
`<>` and `!=`, are one operator.
-/

namespace QueryAudit.Sql

/-- Operators before or after one operand. -/
inductive UnaryOp where
  | plus
  | minus
  | not
  | bitwiseNot
  | squareRoot
  | cubeRoot
  | factorial
  | prefixedFactorial
  | absolute
  deriving DecidableEq, Repr

/-- The canonical spelling of an operator on one operand. -/
def UnaryOp.spelling : UnaryOp → String
  | .plus => "+"
  | .minus => "-"
  | .not => "NOT"
  | .bitwiseNot => "~"
  | .squareRoot => "|/"
  | .cubeRoot => "||/"
  | .factorial => "!"
  | .prefixedFactorial => "!!"
  | .absolute => "@"

/-- Operators between two operands. -/
inductive BinaryOp where
  | plus | minus | multiply | divide | modulo | concat
  | gt | lt | gtEq | ltEq | spaceship | eq | notEq
  | and | or | xor
  | bitwiseOr | bitwiseAnd | bitwiseXor
  | slashSlash | divWord | exponent | hashXor | shiftLeft | shiftRight | overlap | startsWith
  | regexMatch | regexIMatch | regexNotMatch | regexNotIMatch
  | likeMatch | iLikeMatch | notLikeMatch | notILikeMatch
  /-- An operator given by its qualified name. -/
  | named (path : List String)
  deriving DecidableEq, Repr

/-- The canonical spelling of an operator between two operands. -/
def BinaryOp.spelling : BinaryOp → String
  | .plus => "+"
  | .minus => "-"
  | .multiply => "*"
  | .divide => "/"
  | .modulo => "%"
  | .concat => "||"
  | .gt => ">"
  | .lt => "<"
  | .gtEq => ">="
  | .ltEq => "<="
  | .spaceship => "<=>"
  | .eq => "="
  | .notEq => "<>"
  | .and => "AND"
  | .or => "OR"
  | .xor => "XOR"
  | .bitwiseOr => "|"
  | .bitwiseAnd => "&"
  | .bitwiseXor => "^"
  | .slashSlash => "//"
  | .divWord => "DIV"
  | .exponent => "^"
  | .hashXor => "#"
  | .shiftLeft => "<<"
  | .shiftRight => ">>"
  | .overlap => "&&"
  | .startsWith => "^@"
  | .regexMatch => "~"
  | .regexIMatch => "~*"
  | .regexNotMatch => "!~"
  | .regexNotIMatch => "!~*"
  | .likeMatch => "~~"
  | .iLikeMatch => "~~*"
  | .notLikeMatch => "!~~"
  | .notILikeMatch => "!~~*"
  | .named path => "OPERATOR(" ++ ".".intercalate path ++ ")"

/-- Whether an operator compares, and so may stand before `ANY` and `ALL`. -/
def BinaryOp.isComparison : BinaryOp → Bool
  | .gt | .lt | .gtEq | .ltEq | .eq | .notEq => true
  | _ => false

/-- Operators that reach into a document. -/
inductive DocumentOp where
  | arrow | longArrow | hashArrow | hashLongArrow | atArrow | arrowAt | hashMinus | atQuestion
  | atAt | colon
  deriving DecidableEq, Repr

/-- The canonical spelling of an operator that reaches into a document. -/
def DocumentOp.spelling : DocumentOp → String
  | .arrow => "->"
  | .longArrow => "->>"
  | .hashArrow => "#>"
  | .hashLongArrow => "#>>"
  | .atArrow => "@>"
  | .arrowAt => "<@"
  | .hashMinus => "#-"
  | .atQuestion => "@?"
  | .atAt => "@@"
  | .colon => ":"

/-- Whether a comparison has to hold for any or for all elements. -/
inductive Quantifier where
  | any
  | all
  deriving DecidableEq, Repr

def Quantifier.spelling : Quantifier → String
  | .any => "ANY"
  | .all => "ALL"

/-- What `IS` tests for. -/
inductive TruthTest where
  | null
  | true
  | false
  | unknown
  deriving DecidableEq, Repr

def TruthTest.spelling : TruthTest → String
  | .null => "NULL"
  | .true => "TRUE"
  | .false => "FALSE"
  | .unknown => "UNKNOWN"

/-- How a text is matched against a pattern. -/
inductive PatternOp where
  | like
  | iLike
  | similarTo
  | rLike
  | regexp
  deriving DecidableEq, Repr

/-- The keywords of a match. -/
def PatternOp.spelling : PatternOp → String
  | .like => "LIKE"
  | .iLike => "ILIKE"
  | .similarTo => "SIMILAR TO"
  | .rLike => "RLIKE"
  | .regexp => "REGEXP"

/-- The spellings of a cast. -/
inductive CastOp where
  | cast
  | tryCast
  | safeCast
  deriving DecidableEq, Repr

def CastOp.spelling : CastOp → String
  | .cast => "CAST"
  | .tryCast => "TRY_CAST"
  | .safeCast => "SAFE_CAST"

/-- Which way a number is rounded. -/
inductive Rounding where
  | up
  | down
  deriving DecidableEq, Repr

def Rounding.spelling : Rounding → String
  | .up => "CEIL"
  | .down => "FLOOR"

/-- How groups are formed from sets of expressions. -/
inductive GroupingOp where
  | groupingSets
  | cube
  | rollup
  deriving DecidableEq, Repr

def GroupingOp.spelling : GroupingOp → String
  | .groupingSets => "GROUPING SETS"
  | .cube => "CUBE"
  | .rollup => "ROLLUP"

/-- How a full text search reads its pattern. -/
inductive SearchModifier where
  | naturalLanguage
  | naturalLanguageWithExpansion
  | boolean
  | withExpansion
  deriving DecidableEq, Repr

def SearchModifier.spelling : SearchModifier → String
  | .naturalLanguage => "IN NATURAL LANGUAGE MODE"
  | .naturalLanguageWithExpansion => "IN NATURAL LANGUAGE MODE WITH QUERY EXPANSION"
  | .boolean => "IN BOOLEAN MODE"
  | .withExpansion => "WITH QUERY EXPANSION"

/-- How two queries are combined. -/
inductive SetOp where
  | union
  | except
  | intersect
  deriving DecidableEq, Repr

/-- The keyword of a combination. -/
def SetOp.spelling : SetOp → String
  | .union => "UNION"
  | .except => "EXCEPT"
  | .intersect => "INTERSECT"

/-- Which rows of a combination are kept, and how their columns are matched. -/
inductive SetQuantifier where
  | none
  | all
  | distinct
  | byName
  | allByName
  | distinctByName
  deriving DecidableEq, Repr

/-- The keywords of a set quantifier, with a blank before them. -/
def SetQuantifier.spelling : SetQuantifier → String
  | .none => ""
  | .all => " ALL"
  | .distinct => " DISTINCT"
  | .byName => " BY NAME"
  | .allByName => " ALL BY NAME"
  | .distinctByName => " DISTINCT BY NAME"

/-- How a table is joined. -/
inductive JoinOp where
  | inner
  | leftOuter
  | rightOuter
  | fullOuter
  | leftSemi
  | rightSemi
  | leftAnti
  | rightAnti
  | cross
  | crossApply
  | outerApply
  deriving DecidableEq, Repr

def JoinOp.spelling : JoinOp → String
  | .inner => "JOIN"
  | .leftOuter => "LEFT JOIN"
  | .rightOuter => "RIGHT JOIN"
  | .fullOuter => "FULL JOIN"
  | .leftSemi => "LEFT SEMI JOIN"
  | .rightSemi => "RIGHT SEMI JOIN"
  | .leftAnti => "LEFT ANTI JOIN"
  | .rightAnti => "RIGHT ANTI JOIN"
  | .cross => "CROSS JOIN"
  | .crossApply => "CROSS APPLY"
  | .outerApply => "OUTER APPLY"

end QueryAudit.Sql
