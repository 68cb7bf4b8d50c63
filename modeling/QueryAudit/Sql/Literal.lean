import QueryAudit.Sql.Name
import QueryAudit.Sql.Token

/-!
# Literals

Numbers, quoted texts, placeholders, truth values and `NULL`.
-/

namespace QueryAudit.Sql

/-- A literal value. -/
inductive Literal where
  /-- Digits, with a mark for a long number. -/
  | number (digits : String) (long : Bool)
  | quoted (quoting : Quoting) (text : String)
  | dollar (text : String) (tag : Option String)
  | boolean (value : Bool)
  | null
  | placeholder (text : String)
  /-- A text without quotes. -/
  | bare (text : String)
  deriving DecidableEq, Repr

/-- How a character is written in a string with general escapes. -/
def escapeGeneral (c : Char) : List Char :=
  match c with
  | '\'' => ['\\', '\'']
  | '\\' => ['\\', '\\']
  | '\n' => ['\\', 'n']
  | '\t' => ['\\', 't']
  | '\r' => ['\\', 'r']
  | c => [c]

/-- The canonical text of a quoted text. Only plain strings and strings with general escapes are
    escaped. -/
def Quoting.render (q : Quoting) (text : String) : String :=
  match q with
  | .single => inQuotes '\'' text
  | .double => inQuotes '"' text
  | .escaped => "E'" ++ String.ofList (text.toList.flatMap escapeGeneral) ++ "'"
  | q => q.marks.1 ++ text ++ q.marks.2

/-- The canonical text of a literal. -/
def Literal.render : Literal → String
  | .number digits long => digits ++ (if long then "L" else "")
  | .quoted q text => q.render text
  | .dollar text tag => dollarQuote text tag
  | .boolean true => "true"
  | .boolean false => "false"
  | .null => "NULL"
  | .placeholder text => text
  | .bare text => text

end QueryAudit.Sql
