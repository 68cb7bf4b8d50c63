import QueryAudit.Sql.DataType
import QueryAudit.Sql.Operator

/-!
# Syntax of expressions, queries and statements

Expressions are kept in full, for their columns are looked for. Of a query the sources and the
condition are kept apart, for they are what a statement is checked by. All other clauses, and all
statements that are no queries, are kept as a *phrase*: the words of their canonical text with what
they are about between them, such as names, texts, expressions and queries. A text that happens to
read like words of the syntax is thus told from them. A phrase is coarser than a tree with a field
for each clause: it says what the clauses say, but not where one of them ends.
-/

namespace QueryAudit.Sql

/-- How the text of a cast is formatted, with a time zone if one is given. -/
structure CastFormat where
  format : Literal
  zone : Option Literal
  deriving DecidableEq, Repr

/-- The unit in which an interval is measured, from the leading field to the last. -/
structure IntervalUnit where
  leading : Option Keyword := none
  leadingPrecision : Option Nat := none
  last : Option Keyword := none
  fractionPrecision : Option Nat := none
  deriving DecidableEq, Repr

/-- How a call is written and which nulls it sees. -/
structure CallStyle where
  /-- Whether the call is written without parentheses. -/
  bare : Bool := false
  /-- Whether equal arguments count once. -/
  distinct : Bool := false
  /-- Whether nulls are respected or ignored, if the call says so. -/
  respectNulls : Option Bool := none
  deriving DecidableEq, Repr

/-- What a concatenation of texts does when it grows too long. -/
inductive Overflow where
  | unspecified
  | error
  | truncate (withCount : Bool)
  deriving DecidableEq, Repr

/-- How a text is written in a phrase. -/
inductive Writing where
  /-- As it is. -/
  | plain
  /-- Between quotes, as it is. -/
  | quoted
  /-- Between quotes, a quote inside written twice. -/
  | escaped
  /-- Without quotes around it, a quote inside written twice. -/
  | doubled
  deriving DecidableEq, Repr

mutual

/-- An expression. -/
inductive Expr where
  /-- A column by its bare name. -/
  | column (name : Name)
  /-- A column by its qualified name. -/
  | path (names : List Name)
  | literal (value : Literal)
  /-- A text with the character set it is written in. -/
  | introduced (charset : String) (value : Literal)
  /-- A text with its type before it. -/
  | typed (type : DataType) (text : String)
  | star
  | qualifiedStar (names : List Name)
  /-- An expression in parentheses. -/
  | nested (e : Expr)
  | tuple (items : List Expr)
  /-- An array, with or without the word before its brackets. -/
  | array (worded : Bool) (items : List Expr)
  | struct (items : List Expr) (fields : List Field)
  /-- A field of a structure with its name. -/
  | named (e : Expr) (name : Name)
  | unary (op : UnaryOp) (e : Expr)
  | binary (left : Expr) (op : BinaryOp) (right : Expr)
  /-- A comparison with any or all elements. -/
  | quantified (left : Expr) (op : BinaryOp) (quantifier : Quantifier) (right : Expr)
  | document (left : Expr) (op : DocumentOp) (right : Expr)
  | truth (e : Expr) (negated : Bool) (test : TruthTest)
  | distinct (left : Expr) (negated : Bool) (right : Expr)
  | inList (e : Expr) (negated : Bool) (items : List Expr)
  | inQuery (e : Expr) (negated : Bool) (q : Query)
  | inUnnest (e : Expr) (negated : Bool) (items : Expr)
  | between (e : Expr) (negated : Bool) (low high : Expr)
  | pattern (e : Expr) (negated : Bool) (op : PatternOp) (pattern : Expr) (escape : Option Char)
  | cast (op : CastOp) (e : Expr) (type : DataType) (format : Option CastFormat)
  /-- A conversion. Without a character set the type may stand first. -/
  | convert (e : Expr) (type : Option DataType) (charset : Option (List Name))
      (typeFirst : Bool := false)
  | collate (e : Expr) (collation : List Name)
  | atTimeZone (e : Expr) (zone : String)
  | interval (e : Expr) (unit : IntervalUnit)
  | extract (field : Keyword) (e : Expr)
  | round (way : Rounding) (e : Expr) (field : Option Keyword)
  | position (e inside : Expr)
  /-- A part of a text, with words or with commas before its bounds. -/
  | substring (e : Expr) (start count : Option Expr) (commas : Bool := false)
  | trim (side : Option Keyword) (what : Option Expr) (e : Expr) (characters : List Expr)
  | overlay (e what start : Expr) (count : Option Expr)
  /-- A field of a composite value. -/
  | field (e : Expr) (key : Name)
  | mapAccess (e : Expr) (keys : List Expr)
  | index (e : Expr) (indexes : List Expr)
  | call (name : List Name) (style : CallStyle) (arguments : List Argument)
      (orderBy : List Ordering) (filter : Option Expr) (window : Window)
  /-- A concatenation of texts over rows. -/
  | listAgg (distinct : Bool) (e : Expr) (separator : Option Expr) (overflow : Overflow)
      (filler : Option Expr) (withinGroup : List Ordering)
  /-- An array over rows. One that is ordered as a group does not show its limit. -/
  | arrayAgg (distinct : Bool) (e : Expr) (orderBy : List Ordering) (limit : Option Expr)
      (withinGroup : Bool := false)
  /-- An aggregate over the rows that pass a filter. -/
  | filtered (e filter : Expr)
  /-- A choice by conditions; there are as many results as conditions. -/
  | caseOf (operand : Option Expr) (conditions results : List Expr) (otherwise : Option Expr)
  | grouping (op : GroupingOp) (sets : List (List Expr))
  | existsQuery (negated : Bool) (q : Query)
  | subquery (q : Query)
  | arrayQuery (q : Query)
  | matchAgainst (columns : List Name) (value : Literal) (modifier : Option SearchModifier)

/-- An expression to order by. -/
structure Ordering where
  e : Expr
  ascending : Option Bool := none
  nullsFirst : Option Bool := none

/-- An argument of a call, perhaps with the name of its parameter: an expression or a star. -/
inductive Argument where
  | value (parameter : Option Name) (e : Expr)
  | star (parameter : Option Name)
  | qualifiedStar (parameter : Option Name) (names : List Name)

/-- The window of a call. -/
inductive Window where
  | unwindowed
  | named (name : Name)
  | spec (partitionBy : List Expr) (orderBy : List Ordering) (frame : List Piece)

/-- A query: named queries before it, its body, and the clauses behind it. -/
structure Query where
  common : List Piece := []
  body : Body
  tail : List Piece := []

/-- The body of a query. -/
inductive Body where
  /-- A selection: the clauses before its sources, the sources, the lateral views, the condition,
      and the clauses behind it. -/
  | select (head : List Piece) (sources : List Source) (views : List Piece)
      (condition : Option Expr) (tail : List Piece)
  /-- A query in parentheses. -/
  | query (q : Query)
  | combined (left : Body) (op : SetOp) (quantifier : SetQuantifier) (right : Body)
  | values (explicitRow : Bool) (rows : List (List Expr))
  | table (schema : Option String) (name : String)
  /-- A change of rows in place of a selection. -/
  | change (phrase : List Piece)

/-- One entry of a `FROM` clause. -/
structure Source where
  /-- The name of the first relation, if it is a table. -/
  table : Option (List Name)
  /-- The first relation. -/
  relation : List Piece
  /-- What is joined to it. -/
  joins : List Piece

/-- A part of a phrase. -/
inductive Piece where
  /-- Words of the syntax. -/
  | word (text : String)
  /-- Names with a separator between them. -/
  | names (separator : String) (names : List Name)
  | literal (value : Literal)
  | type (type : DataType)
  | text (writing : Writing) (text : String)
  | expr (e : Expr)
  | query (q : Query)

end

deriving instance BEq for Expr, Ordering, Argument, Window, Query, Body, Source, Piece

/-- The parts of a clause. -/
abbrev Phrase := List Piece

/-- A statement. -/
inductive Statement where
  | query (q : Query)
  | insert (target : List Name) (phrase : Phrase)
  | command (phrase : Phrase)
  deriving BEq

/-- A statement as a phrase. -/
def Statement.phrase : Statement → Phrase
  | .query q => [.query q]
  | .insert _ phrase => phrase
  | .command phrase => phrase

end QueryAudit.Sql
