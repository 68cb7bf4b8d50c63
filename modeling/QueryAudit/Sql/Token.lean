import QueryAudit.Sql.Keyword
import QueryAudit.Sql.Position

/-!
# Tokens

The lexical units of a statement: words, numbers, quoted texts, placeholders and symbols. Blanks
and comments are no tokens; they are kept with the token before them.
-/

namespace QueryAudit.Sql

/-- Operators and punctuation. -/
inductive Symbol where
  | comma | doubleEq | eq | neq | lt | gt | ltEq | gtEq | spaceship
  | plus | minus | mul | div | intDiv | mod | concat
  | lparen | rparen | period | colon | doubleColon | assign | semicolon | backslash
  | lbracket | rbracket | lbrace | rbrace | ampersand | pipe | caret | rightArrow | sharp
  | tilde | tildeAsterisk | exclamationTilde | exclamationTildeAsterisk
  | doubleTilde | doubleTildeAsterisk | exclamationDoubleTilde | exclamationDoubleTildeAsterisk
  | shiftLeft | shiftRight | overlap | exclamation | doubleExclamation | at | caretAt
  | squareRoot | cubeRoot | arrow | longArrow | hashArrow | hashLongArrow
  | atArrow | arrowAt | hashMinus | atQuestion | atAt
  deriving DecidableEq, Repr

/-- How a symbol is written. -/
def Symbol.spelling : Symbol → String
  | .comma => ","
  | .doubleEq => "=="
  | .eq => "="
  | .neq => "<>"
  | .lt => "<"
  | .gt => ">"
  | .ltEq => "<="
  | .gtEq => ">="
  | .spaceship => "<=>"
  | .plus => "+"
  | .minus => "-"
  | .mul => "*"
  | .div => "/"
  | .intDiv => "//"
  | .mod => "%"
  | .concat => "||"
  | .lparen => "("
  | .rparen => ")"
  | .period => "."
  | .colon => ":"
  | .doubleColon => "::"
  | .assign => ":="
  | .semicolon => ";"
  | .backslash => "\\"
  | .lbracket => "["
  | .rbracket => "]"
  | .lbrace => "\x7b"
  | .rbrace => "\x7d"
  | .ampersand => "&"
  | .pipe => "|"
  | .caret => "^"
  | .rightArrow => "=>"
  | .sharp => "#"
  | .tilde => "~"
  | .tildeAsterisk => "~*"
  | .exclamationTilde => "!~"
  | .exclamationTildeAsterisk => "!~*"
  | .doubleTilde => "~~"
  | .doubleTildeAsterisk => "~~*"
  | .exclamationDoubleTilde => "!~~"
  | .exclamationDoubleTildeAsterisk => "!~~*"
  | .shiftLeft => "<<"
  | .shiftRight => ">>"
  | .overlap => "&&"
  | .exclamation => "!"
  | .doubleExclamation => "!!"
  | .at => "@"
  | .caretAt => "^@"
  | .squareRoot => "|/"
  | .cubeRoot => "||/"
  | .arrow => "->"
  | .longArrow => "->>"
  | .hashArrow => "#>"
  | .hashLongArrow => "#>>"
  | .atArrow => "@>"
  | .arrowAt => "<@"
  | .hashMinus => "#-"
  | .atQuestion => "@?"
  | .atAt => "@@"

/-- The name under which a symbol without an operator is reported. -/
def Symbol.label : Symbol → String
  | .intDiv => "DuckIntDiv"
  | .sharp => "Sharp"
  | .shiftLeft => "ShiftLeft"
  | .shiftRight => "ShiftRight"
  | .overlap => "Overlap"
  | .caretAt => "CaretAt"
  | s => s.spelling

/-- A name, a keyword or a quoted name. -/
structure Word where
  /-- The text without quotes, an inner quote undoubled. -/
  text : String
  /-- The opening quote, if the word is quoted. -/
  quote : Option Char
  /-- The keyword that an unquoted word spells. -/
  keyword : Keyword
  deriving DecidableEq, Repr

/-- The word that an unquoted text spells. -/
def Word.bare (text : List Char) : Word :=
  ⟨String.ofList text, none, Keyword.ofText text⟩

/-- A quoted name is never a keyword. -/
def Word.quoted (text : List Char) (quote : Char) : Word :=
  ⟨String.ofList text, some quote, .ordinary⟩

/-- The kinds of quoted text. -/
inductive Quoting where
  | single
  | double
  | national
  | escaped
  | hex
  | byteSingle
  | byteDouble
  | raw
  deriving DecidableEq, Repr

/-- What stands before a quoted text and at either end of it. -/
def Quoting.marks : Quoting → String × String
  | .single => ("'", "'")
  | .double => ("\"", "\"")
  | .national => ("N'", "'")
  | .escaped => ("E'", "'")
  | .hex => ("X'", "'")
  | .byteSingle => ("B'", "'")
  | .byteDouble => ("B\"", "\"")
  | .raw => ("R'", "'")

/-- A lexical unit. -/
inductive Token where
  | word (w : Word)
  /-- Digits, with a mark for a long number. -/
  | number (digits : String) (long : Bool)
  | quoted (quoting : Quoting) (text : String)
  /-- A text between dollar marks, which may carry a tag. -/
  | dollar (text : String) (tag : Option String)
  | placeholder (text : String)
  | symbol (s : Symbol)
  /-- A character that begins no other token. -/
  | stray (c : Char)
  deriving DecidableEq, Repr

/-- A text between dollar marks as it is written. -/
def dollarQuote (text : String) (tag : Option String) : String :=
  let mark := "$" ++ tag.getD "" ++ "$"
  mark ++ text ++ mark

/-- How a token is named in a message. Quotes inside quoted texts stay as they are. -/
def Token.spelling : Token → String
  | .word w =>
    match w.quote with
    | none => w.text
    | some q => q.toString ++ w.text ++ (if q = '[' then "]" else q.toString)
  | .number digits long => digits ++ (if long then "L" else "")
  | .quoted quoting text => quoting.marks.1 ++ text ++ quoting.marks.2
  | .dollar text tag => dollarQuote text tag
  | .placeholder text => text
  | .symbol s => s.spelling
  | .stray c => c.toString

/-- The keyword that a token spells, or `ordinary` for anything else. -/
def Token.keyword : Token → Keyword
  | .word w => w.keyword
  | _ => .ordinary

/-- How a token that lacks an operator is named. -/
def Token.label : Token → String
  | .word w =>
    "Word(Word \x7b value: \"" ++ w.text ++ "\", quote_style: None, keyword: "
      ++ w.keyword.spelling ++ " \x7d)"
  | .symbol s => s.label
  | t => t.spelling

/-- What stands between tokens. -/
inductive Blank where
  | space
  | tab
  | newline
  /-- A comment as it is written, with the newline that ends it. -/
  | comment (text : String)
  deriving DecidableEq, Repr

/-- How a blank is written. -/
def Blank.spelling : Blank → String
  | .space => " "
  | .tab => "\t"
  | .newline => "\n"
  | .comment text => text

/-- A token, the place where it starts, and the blanks behind it, the farthest first. -/
structure Located where
  token : Token
  position : Position
  behind : List Blank := []
  deriving DecidableEq, Repr

end QueryAudit.Sql
