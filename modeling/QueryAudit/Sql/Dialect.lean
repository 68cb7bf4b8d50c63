import QueryAudit.Config
import QueryAudit.Text.Letters

/-!
# What the dialects differ in

Each difference between the dialects is a predicate of its own, so that lexer and grammar ask for a
feature and never for a dialect.
-/

namespace QueryAudit.Dialect

/-- Characters that begin a word. -/
def isWordStart (d : Dialect) (c : Char) : Bool :=
  Letters.isAlphabetic c || c = '_' ||
    match d with
    | .generic => c = '#' || c = '@'
    | .mysql => c = '$' || c = '@' || (0x80 ≤ c.toNat && c.toNat ≤ 0xFFFF)
    | .postgres => false

/-- Characters that continue a word. -/
def isWordPart (d : Dialect) (c : Char) : Bool :=
  isWordStart d c || c.isDigit || c = '$'

/-- Characters that open a quoted name. -/
def isNameQuote (d : Dialect) (c : Char) : Bool :=
  match d with
  | .mysql => c = '\x60'
  | _ => c = '"' || c = '\x60'

/-- Whether a backslash takes the next character with it inside a string. -/
def backslashEscapes : Dialect → Bool
  | .mysql => true
  | _ => false

/-- Whether `#` begins a comment for the splitter. -/
def hashComments : Dialect → Bool
  | .mysql => true
  | _ => false

/-- Whether a word may begin with digits. -/
def digitsBeginWords : Dialect → Bool
  | .mysql => true
  | _ => false

/-- Whether `B'…'` and `R'…'` are byte and raw strings. -/
def byteAndRawStrings : Dialect → Bool
  | .generic => true
  | _ => false

/-- Whether `//` divides integers. -/
def slashSlashDivides : Dialect → Bool
  | .generic => true
  | _ => false

/-- Whether `E'…'` is an expression. -/
def escapedStrings : Dialect → Bool
  | .mysql => false
  | _ => true

/-- Whether a word without quotes may be a text. -/
def bareTexts : Dialect → Bool
  | .generic => true
  | _ => false

/-- Whether a call may carry a `FILTER` clause. -/
def filtersAggregates : Dialect → Bool
  | .postgres => true
  | _ => false

/-- Whether grouping sets are expressions of their own. -/
def groupingSets : Dialect → Bool
  | .mysql => false
  | _ => true

/-- Whether `CURRENT_USER` and its like are calls without parentheses. -/
def sessionFunctions : Dialect → Bool
  | .mysql => false
  | _ => true

/-- Whether `MATCH (…) AGAINST (…)` is an expression. -/
def fullTextSearch : Dialect → Bool
  | .postgres => false
  | _ => true

/-- Whether `STRUCT(…)` is an expression. -/
def structs : Dialect → Bool
  | .generic => true
  | _ => false

/-- Whether a qualified name in an expression may end in a star. -/
def starInExpressions : Dialect → Bool
  | .postgres => true
  | _ => false

/-- Whether `~`, `!!`, `|/`, `||/` and `@` stand before an operand. -/
def symbolicPrefixes : Dialect → Bool
  | .postgres => true
  | _ => false

/-- Whether `^` raises to a power; otherwise it is a bitwise operator. -/
def caretRaises : Dialect → Bool
  | .postgres => true
  | _ => false

/-- Whether `<<` and `>>` are operators. -/
def shifts : Dialect → Bool
  | .mysql => false
  | _ => true

/-- Whether `#` is an operator. -/
def hashOperator : Dialect → Bool
  | .postgres => true
  | _ => false

/-- Whether `&&` and `^@` are operators. -/
def overlapOperator : Dialect → Bool
  | .mysql => false
  | _ => true

/-- Whether `OPERATOR(…)` names an operator. -/
def namedOperators : Dialect → Bool
  | .mysql => false
  | _ => true

/-- Whether `DIV` divides integers. -/
def divOperator : Dialect → Bool
  | .mysql => true
  | _ => false

/-- Whether `[…]` after an expression is an index; otherwise it is a look-up in a map. -/
def bracketIndexes : Dialect → Bool
  | .mysql => false
  | _ => true

/-- Whether `TRIM` takes a list of characters after a comma. -/
def trimCharacters : Dialect → Bool
  | .generic => true
  | _ => false

/-- Whether a star in a select list takes `EXCLUDE`, `EXCEPT`, `RENAME` and `REPLACE`. -/
def starOptions : Dialect → Bool
  | .generic => true
  | _ => false

/-- Whether `UNNEST(…)` stands in a `FROM` clause. -/
def unnestTables : Dialect → Bool
  | .mysql => false
  | _ => true

/-- Whether a single table may stand in parentheses. -/
def parenthesizedTables : Dialect → Bool
  | .generic => true
  | _ => false

/-- Whether a table name may be followed by its partitions. -/
def tablePartitions : Dialect → Bool
  | .postgres => false
  | _ => true

/-- Whether `LIMIT a, b` means an offset and a limit. -/
def limitComma : Dialect → Bool
  | .postgres => false
  | _ => true

/-- Whether `LIMIT n BY …` is allowed. -/
def limitBy : Dialect → Bool
  | .generic => true
  | _ => false

/-- Whether a row of values may be empty. -/
def emptyRows : Dialect → Bool
  | .mysql => true
  | _ => false

/-- Whether an insertion takes a priority, `IGNORE`, or the word `REPLACE` for `INSERT`. -/
def insertModifiers : Dialect → Bool
  | .postgres => false
  | _ => true

/-- Whether the target of an insertion may be renamed. -/
def insertAlias : Dialect → Bool
  | .postgres => true
  | _ => false

/-- Whether an update may read from further tables. -/
def updateFrom : Dialect → Bool
  | .mysql => false
  | _ => true

/-- Whether `SET NAMES` chooses a character set. -/
def setNames : Dialect → Bool
  | .postgres => false
  | _ => true

/-- Whether `SHOW VARIABLES` is a statement of its own. -/
def showVariables : Dialect → Bool
  | .postgres => false
  | _ => true

/-- Whether `DROP TEMPORARY` is allowed. -/
def dropTemporary : Dialect → Bool
  | .postgres => false
  | _ => true

/-- Whether `COMMENT ON` is a statement. -/
def comments : Dialect → Bool
  | .postgres => true
  | _ => false

/-- Whether `KILL MUTATION` is allowed. -/
def mutations : Dialect → Bool
  | .generic => true
  | _ => false

/-- Whether `FLUSH` is a statement. -/
def flushing : Dialect → Bool
  | .postgres => false
  | _ => true

/-- Whether tables are locked by a statement. -/
def tableLocks : Dialect → Bool
  | .mysql => true
  | _ => false

/-- Whether a transaction says as it begins which locks it takes. -/
def transactionModifiers : Dialect → Bool
  | .generic => true
  | _ => false

/-- Whether a table lists its indexes, and a column may count by itself or follow updates. -/
def indexedTables : Dialect → Bool
  | .postgres => false
  | _ => true

/-- Whether a column that counts by itself may be written in one word. -/
def countedColumns : Dialect → Bool
  | .generic => true
  | _ => false

/-- Whether a computed column may be computed anew whenever it is read. -/
def virtualColumns : Dialect → Bool
  | .postgres => false
  | _ => true

/-- Whether tables, views and columns take a list of descriptive options. -/
def descriptions : Dialect → Bool
  | .generic => true
  | _ => false

/-- Whether a view is created only if it is missing, and may be unbound from its schema. -/
def viewOptions : Dialect → Bool
  | .generic => true
  | _ => false

/-- Whether a column is added only if it is missing. -/
def missingColumns : Dialect → Bool
  | .mysql => false
  | _ => true

/-- Whether constraints get new names. -/
def renamedConstraints : Dialect → Bool
  | .postgres => true
  | _ => false

/-- Whether the type of a column is changed with a conversion, and a column is filled from a
    sequence later on. -/
def columnTypes : Dialect → Bool
  | .postgres => true
  | _ => false

/-- Whether macros are created. -/
def macros : Dialect → Bool
  | .generic => true
  | _ => false

/-- Whether functions are created, and roles come with abilities. -/
def functionsAndRoles : Dialect → Bool
  | .postgres => true
  | _ => false

end QueryAudit.Dialect
