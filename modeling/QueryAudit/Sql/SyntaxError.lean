import QueryAudit.Sql.Operator
import QueryAudit.Text.Visible

/-!
# Errors of the grammar

Why tokens form no statement. Most errors name what was expected and the token found instead, with
its place; the end of the text has no place.
-/

namespace QueryAudit.Sql

/-- Why tokens form no statement. -/
inductive SyntaxError where
  /-- Something else was found, or the end of the text. -/
  | expected (what : String) (found : Option Located)
  /-- The end of a statement was expected. -/
  | trailing (found : Token)
  | tooDeep
  /-- A token has the rank of an operator but is none in this dialect. -/
  | notInfix (operator : Located)
  /-- `ANY` or `ALL` behind an operator that does not compare. -/
  | notComparison (operator : BinaryOp) (position : Option Position)
  | allAndDistinct (position : Option Position)
  /-- A number that is no 64-bit natural number. -/
  | notANumber (digits : String)
  /-- An escape that is not one character. -/
  | notAChar (text : String) (position : Option Position)
  /-- A side without a join behind it. -/
  | sideWithoutJoin (side : Keyword)
  | duplicateAlias (name : String)
  | replaceUnsupported (position : Option Position)
  | explainInside
  /-- A result that is one document in none of the forms of its kind. -/
  | documentForm (kind : Keyword) (forms : List Keyword)
  | unmatchedType (type : String) (found : Option Token)
  | unmatchedStruct (part : String) (position : Option Position)
  | typedField (position : Option Position)
  /-- The place of a text without the text it is looked for in. -/
  | positionOutside (position : Option Position)
  /-- A merge does with rows what it cannot do with them. -/
  | mergeAction (text : String)
  /-- Rows are copied into a query. -/
  | copyIntoQuery
  /-- Only some dialects change roles. -/
  | roleChange
  /-- Options of a statement that exclude one another, or one that is given twice. -/
  | conflictingOptions (text : String) (position : Option Position)
  deriving DecidableEq, Repr

/-- The place at the end of a message, if there is one. -/
def placeSuffix : Option Position → String
  | none => ""
  | some p => p.suffix

/-- How a missing or present token is named. -/
def tokenName : Option Token → String
  | none => "EOF"
  | some t => t.spelling

/-- The value of the digits a text begins with. -/
def leadingValue (text : String) : Nat :=
  (text.toList.takeWhile Char.isDigit).foldl (fun n c => n * 10 + (c.toNat - 48)) 0

/-- Why a text that begins with digits is no 64-bit natural number. It is read from the front, so a
    value that is too large comes before a character that is no digit. -/
def numberFault (text : String) : String :=
  if leadingValue text > 0xFFFFFFFFFFFFFFFF then "number too large to fit in target type"
  else "invalid digit found in string"

namespace SyntaxError

/-- The wording of an error without its subject. -/
def detail : SyntaxError → String
  | expected what found =>
    "Expected " ++ what ++ ", found: " ++ tokenName (found.map Located.token)
      ++ placeSuffix (found.map Located.position)
  | trailing found => "Expected end of statement, found: " ++ found.spelling
  | tooDeep => "recursion limit exceeded"
  | notInfix operator =>
    "No infix parser for token " ++ operator.token.label ++ operator.position.suffix
  | notComparison operator position =>
    "Expected one of [=, >, <, =>, =<, !=] as comparison operator, found: " ++ operator.spelling
      ++ placeSuffix position
  | allAndDistinct position => "Cannot specify both ALL and DISTINCT" ++ placeSuffix position
  | notANumber digits => "Could not parse '" ++ digits ++ "' as u64: " ++ numberFault digits
  | notAChar text position => "Expect a char, found " ++ Visible.quoted text ++ placeSuffix position
  | sideWithoutJoin side => "expected OUTER, SEMI, ANTI or JOIN after " ++ side.spelling
  | duplicateAlias name => "duplicate alias " ++ name
  | replaceUnsupported position => "Unsupported statement REPLACE" ++ placeSuffix position
  | explainInside => "Explain must be root of the plan"
  | documentForm kind forms =>
    "Expected FOR " ++ kind.spelling ++ " [" ++ " | ".intercalate (forms.map Keyword.spelling)
      ++ " ]"
  | unmatchedType type found =>
    "unmatched > after parsing data type " ++ type ++ tokenName found
  | unmatchedStruct part position => "unmatched > in STRUCT " ++ part ++ placeSuffix position
  | typedField position => "Typed syntax does not allow AS" ++ placeSuffix position
  | positionOutside position =>
    "Position function must include IN keyword" ++ placeSuffix position
  | mergeAction text => text
  | copyIntoQuery => "COPY ... FROM does not support query as a source"
  | roleChange => "ALTER ROLE is only support for PostgreSqlDialect, MsSqlDialect"
  | conflictingOptions text position => text ++ placeSuffix position

/-- The wording of an error. What follows a statement is no error of the grammar itself and goes
    without its subject. -/
def message : SyntaxError → String
  | trailing found => detail (trailing found)
  | e => "sql parser error: " ++ e.detail

end SyntaxError

end QueryAudit.Sql
