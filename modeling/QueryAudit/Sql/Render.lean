import QueryAudit.Sql.Syntax

/-!
# Canonical text

Every expression, query and statement has one canonical text: keywords in upper case, one blank
between words, lists separated by a comma and a blank. A query in an expression stands in
parentheses, and no other parentheses are added to those of the syntax.
-/

namespace QueryAudit.Sql

/-- Texts separated by a comma and a blank. -/
def commaList (items : List String) : String :=
  ", ".intercalate items

/-- `NOT` and a blank, if something is negated. -/
def notWord (negated : Bool) : String :=
  if negated then "NOT " else ""

/-- The canonical text of a cast format, with what separates it from the type. -/
def CastFormat.render : Option CastFormat → String
  | none => ""
  | some ⟨format, none⟩ => " FORMAT " ++ format.render
  | some ⟨format, some zone⟩ => " FORMAT " ++ format.render ++ " AT TIME ZONE " ++ zone.render

/-- The canonical text of an interval's unit. Seconds with both precisions share parentheses. -/
def IntervalUnit.render (u : IntervalUnit) : String :=
  match u.leading, u.leadingPrecision, u.fractionPrecision with
  | some .SECOND, some p, some f => s!" SECOND ({p}, {f})"
  | leading, p, f =>
    (match leading with | some k => " " ++ k.spelling | none => "")
      ++ (match p with | some p => s!" ({p})" | none => "")
      ++ (match u.last with | some k => " TO " ++ k.spelling | none => "")
      ++ (match f with | some f => s!" ({f})" | none => "")

/-- The words for how nulls are seen. -/
def CallStyle.nullWords (s : CallStyle) : String :=
  match s.respectNulls with
  | none => ""
  | some true => " RESPECT NULLS"
  | some false => " IGNORE NULLS"

/-- The name of a parameter before its argument. -/
def parameterWords : Option Name → String
  | none => ""
  | some n => n.render ++ " => "

/-- The words after an expression to order by. -/
def orderWords (ascending nullsFirst : Option Bool) : String :=
  (match ascending with | none => "" | some true => " ASC" | some false => " DESC")
    ++ (match nullsFirst with
      | none => "" | some true => " NULLS FIRST" | some false => " NULLS LAST")

/-- The canonical text of a key of a map: a text stands between double quotes, unescaped. -/
def keyWords (key : String) : Expr → String
  | .literal (.quoted .single text) => "\"" ++ text ++ "\""
  | _ => key

/-- Alternating conditions and results of a choice. -/
def branchWords : List String → List String → String
  | c :: cs, r :: rs => " WHEN " ++ c ++ " THEN " ++ r ++ branchWords cs rs
  | _, _ => ""

/-- A list in parentheses, which a single item may do without. -/
def groupWords (always : Bool) : List String → String
  | [item] => if always then "(" ++ item ++ ")" else item
  | items => "(" ++ commaList items ++ ")"

/-- The canonical text of a structure's type, before its values. -/
def structWords (fields : List Field) : String :=
  "STRUCT" ++
    (if fields.isEmpty then "" else "<" ++ ", ".intercalate (fields.map Field.render) ++ ">")

/-- The canonical text of a text in a phrase. -/
def Writing.render (w : Writing) (text : String) : String :=
  match w with
  | .plain => text
  | .quoted => "'" ++ text ++ "'"
  | .escaped => inQuotes '\'' text
  | .doubled => String.ofList (escapeQuotes '\'' (Char.ofNat 0) text.toList)

mutual

/-- The canonical text of an expression. -/
def Expr.render : Expr → String
  | .column name => name.render
  | .path names => Names.render names
  | .literal value => value.render
  | .introduced charset value => charset ++ " " ++ value.render
  | .typed type text => type.render ++ " " ++ inQuotes '\'' text
  | .star => "*"
  | .qualifiedStar names => Names.render names ++ ".*"
  | .nested e => "(" ++ e.render ++ ")"
  | .tuple items => "(" ++ commaList (Expr.renderList items) ++ ")"
  | .array worded items =>
    (if worded then "ARRAY" else "") ++ "[" ++ commaList (Expr.renderList items) ++ "]"
  | .struct items fields =>
    structWords fields ++ "(" ++ commaList (Expr.renderList items) ++ ")"
  | .named e name => e.render ++ " AS " ++ name.render
  | .unary .factorial e => e.render ++ "!"
  | .unary .not e => "NOT " ++ e.render
  | .unary op e => op.spelling ++ e.render
  | .binary left op right => left.render ++ " " ++ op.spelling ++ " " ++ right.render
  | .quantified left op quantifier right =>
    left.render ++ " " ++ op.spelling ++ " " ++ quantifier.spelling ++ "(" ++ right.render ++ ")"
  | .document left .colon right => left.render ++ ":" ++ right.render
  | .document left op right => left.render ++ " " ++ op.spelling ++ " " ++ right.render
  | .truth e negated test => e.render ++ " IS " ++ notWord negated ++ test.spelling
  | .distinct left negated right =>
    left.render ++ " IS " ++ notWord negated ++ "DISTINCT FROM " ++ right.render
  | .inList e negated items =>
    e.render ++ " " ++ notWord negated ++ "IN (" ++ commaList (Expr.renderList items) ++ ")"
  | .inQuery e negated q => e.render ++ " " ++ notWord negated ++ "IN (" ++ q.render ++ ")"
  | .inUnnest e negated items =>
    e.render ++ " " ++ notWord negated ++ "IN UNNEST(" ++ items.render ++ ")"
  | .between e negated low high =>
    e.render ++ " " ++ notWord negated ++ "BETWEEN " ++ low.render ++ " AND " ++ high.render
  | .pattern e negated op pattern escape =>
    e.render ++ " " ++ notWord negated ++ op.spelling ++ " " ++ pattern.render
      ++ (match escape with | none => "" | some c => " ESCAPE '" ++ c.toString ++ "'")
  | .cast op e type format =>
    op.spelling ++ "(" ++ e.render ++ " AS " ++ type.render ++ CastFormat.render format ++ ")"
  | .convert e none none _ => "CONVERT(" ++ e.render ++ ")"
  | .convert e none (some charset) _ =>
    "CONVERT(" ++ e.render ++ " USING " ++ Names.render charset ++ ")"
  | .convert e (some type) none false => "CONVERT(" ++ e.render ++ ", " ++ type.render ++ ")"
  | .convert e (some type) none true => "CONVERT(" ++ type.render ++ ", " ++ e.render ++ ")"
  | .convert e (some type) (some charset) _ =>
    "CONVERT(" ++ e.render ++ ", " ++ type.render ++ " CHARACTER SET " ++ Names.render charset
      ++ ")"
  | .collate e collation => e.render ++ " COLLATE " ++ Names.render collation
  | .atTimeZone e zone => e.render ++ " AT TIME ZONE '" ++ zone ++ "'"
  | .interval e unit => "INTERVAL " ++ e.render ++ unit.render
  | .extract field e => "EXTRACT(" ++ field.spelling ++ " FROM " ++ e.render ++ ")"
  | .round way e none => way.spelling ++ "(" ++ e.render ++ ")"
  | .round way e (some field) =>
    way.spelling ++ "(" ++ e.render ++ " TO " ++ field.spelling ++ ")"
  | .position e inside => "POSITION(" ++ e.render ++ " IN " ++ inside.render ++ ")"
  | .substring e start count commas =>
    "SUBSTRING(" ++ e.render ++ Expr.renderOption (if commas then ", " else " FROM ") start
      ++ Expr.renderOption (if commas then ", " else " FOR ") count ++ ")"
  | .trim side what e characters =>
    "TRIM(" ++ (match side with | none => "" | some k => k.spelling ++ " ")
      ++ (match what with | none => "" | some w => w.render ++ " FROM ")
      ++ e.render
      ++ (match characters with
        | [] => ""
        | c :: cs => ", " ++ commaList (c.render :: Expr.renderList cs)) ++ ")"
  | .overlay e what start count =>
    "OVERLAY(" ++ e.render ++ " PLACING " ++ what.render ++ " FROM " ++ start.render
      ++ Expr.renderOption " FOR " count ++ ")"
  | .field e key => e.render ++ "." ++ key.render
  | .mapAccess e keys => e.render ++ Expr.renderKeys keys
  | .index e indexes => e.render ++ Expr.renderIndexes indexes
  | .call name style arguments orderBy filter window =>
    if style.bare then Names.render name
    else
      Names.render name ++ "(" ++ (if style.distinct then "DISTINCT " else "")
        ++ commaList (Argument.renderList arguments)
        ++ (match orderBy with
          | [] => ""
          | o :: os => " ORDER BY " ++ commaList (o.render :: Ordering.renderList os))
        ++ ")"
        ++ (match filter with
          | none => ""
          | some f => " FILTER (WHERE " ++ f.render ++ ")")
        ++ style.nullWords ++ window.render
  | .listAgg distinct e separator overflow filler withinGroup =>
    "LISTAGG(" ++ (if distinct then "DISTINCT " else "") ++ e.render
      ++ Expr.renderOption ", " separator
      ++ (match overflow with
        | .unspecified => ""
        | .error => " ON OVERFLOW ERROR"
        | .truncate withCount =>
          " ON OVERFLOW TRUNCATE" ++ Expr.renderOption " " filler
            ++ (if withCount then " WITH COUNT" else " WITHOUT COUNT"))
      ++ ")"
      ++ (match withinGroup with
        | [] => ""
        | o :: os =>
          " WITHIN GROUP (ORDER BY " ++ commaList (o.render :: Ordering.renderList os) ++ ")")
  | .arrayAgg distinct e orderBy limit false =>
    "ARRAY_AGG(" ++ (if distinct then "DISTINCT " else "") ++ e.render
      ++ (match orderBy with
        | [] => ""
        | o :: os => " ORDER BY " ++ commaList (o.render :: Ordering.renderList os))
      ++ Expr.renderOption " LIMIT " limit ++ ")"
  | .arrayAgg distinct e orderBy _ true =>
    "ARRAY_AGG(" ++ (if distinct then "DISTINCT " else "") ++ e.render ++ ")"
      ++ (match orderBy with
        | [] => ""
        | o :: os =>
          " WITHIN GROUP (ORDER BY " ++ commaList (o.render :: Ordering.renderList os) ++ ")")
  | .filtered e filter => e.render ++ " FILTER (WHERE " ++ filter.render ++ ")"
  | .caseOf operand conditions results otherwise =>
    "CASE" ++ Expr.renderOption " " operand
      ++ branchWords (Expr.renderList conditions) (Expr.renderList results)
      ++ Expr.renderOption " ELSE " otherwise ++ " END"
  | .grouping op sets =>
    op.spelling ++ " (" ++ commaList (Expr.renderSets (op = .groupingSets) sets) ++ ")"
  | .existsQuery negated q => notWord negated ++ "EXISTS (" ++ q.render ++ ")"
  | .subquery q => "(" ++ q.render ++ ")"
  | .arrayQuery q => "ARRAY(" ++ q.render ++ ")"
  | .matchAgainst columns value modifier =>
    "MATCH (" ++ Names.list columns ++ ") AGAINST (" ++ value.render
      ++ (match modifier with | none => "" | some m => " " ++ m.spelling) ++ ")"

/-- The canonical texts of expressions. -/
def Expr.renderList : List Expr → List String
  | [] => []
  | e :: es => e.render :: Expr.renderList es

/-- The canonical text of an expression, if there is one, behind some words. -/
def Expr.renderOption (words : String) : Option Expr → String
  | none => ""
  | some e => words ++ e.render

/-- The canonical text of the keys of a map, each in brackets. -/
def Expr.renderKeys : List Expr → String
  | [] => ""
  | e :: es => "[" ++ keyWords e.render e ++ "]" ++ Expr.renderKeys es

/-- The canonical text of indexes, each in brackets. -/
def Expr.renderIndexes : List Expr → String
  | [] => ""
  | e :: es => "[" ++ e.render ++ "]" ++ Expr.renderIndexes es

/-- The canonical texts of lists of expressions in parentheses. -/
def Expr.renderSets (always : Bool) : List (List Expr) → List String
  | [] => []
  | set :: sets => groupWords always (Expr.renderList set) :: Expr.renderSets always sets

/-- The canonical text of an expression to order by. -/
def Ordering.render : Ordering → String
  | ⟨e, ascending, nullsFirst⟩ => e.render ++ orderWords ascending nullsFirst

/-- The canonical texts of expressions to order by. -/
def Ordering.renderList : List Ordering → List String
  | [] => []
  | o :: os => o.render :: Ordering.renderList os

/-- The canonical text of an argument. -/
def Argument.render : Argument → String
  | .value parameter e => parameterWords parameter ++ e.render
  | .star parameter => parameterWords parameter ++ "*"
  | .qualifiedStar parameter names => parameterWords parameter ++ Names.render names ++ ".*"

/-- The canonical texts of arguments. -/
def Argument.renderList : List Argument → List String
  | [] => []
  | a :: rest => a.render :: Argument.renderList rest

/-- The canonical text of a window, with the word before it. -/
def Window.render : Window → String
  | .unwindowed => ""
  | .named name => " OVER " ++ name.render
  | .spec partitionBy orderBy frame =>
    let partition := match partitionBy with
      | [] => ""
      | e :: es => "PARTITION BY " ++ commaList (e.render :: Expr.renderList es)
    let order := match orderBy with
      | [] => ""
      | o :: os => "ORDER BY " ++ commaList (o.render :: Ordering.renderList os)
    let words := [partition, order, Piece.renderList frame].filter (· ≠ "")
    " OVER (" ++ " ".intercalate words ++ ")"

/-- The canonical text of a query. -/
def Query.render : Query → String
  | ⟨common, body, tail⟩ =>
    Piece.renderList common ++ body.render ++ Piece.renderList tail

/-- The canonical text of the body of a query. -/
def Body.render : Body → String
  | .select head sources views condition tail =>
    Piece.renderList head
      ++ (match sources with
        | [] => ""
        | s :: rest => " FROM " ++ commaList (s.render :: Source.renderList rest))
      ++ Piece.renderList views
      ++ Expr.renderOption " WHERE " condition
      ++ Piece.renderList tail
  | .query q => "(" ++ q.render ++ ")"
  | .combined left op quantifier right =>
    left.render ++ " " ++ op.spelling ++ quantifier.spelling ++ " " ++ right.render
  | .values explicitRow rows =>
    "VALUES " ++ commaList (Expr.renderRows (if explicitRow then "ROW" else "") rows)
  | .table none name => "TABLE " ++ name
  | .table (some schema) name => "TABLE " ++ schema ++ "." ++ name
  | .change phrase => Piece.renderList phrase

/-- The canonical texts of rows of values, each behind a word. -/
def Expr.renderRows (word : String) : List (List Expr) → List String
  | [] => []
  | row :: rows =>
    (word ++ "(" ++ commaList (Expr.renderList row) ++ ")") :: Expr.renderRows word rows

/-- The canonical text of an entry of a `FROM` clause. -/
def Source.render : Source → String
  | ⟨_, relation, joins⟩ => Piece.renderList relation ++ Piece.renderList joins

/-- The canonical texts of entries of a `FROM` clause. -/
def Source.renderList : List Source → List String
  | [] => []
  | s :: rest => s.render :: Source.renderList rest

/-- The canonical text of a part of a phrase. -/
def Piece.render : Piece → String
  | .word text => text
  | .names separator names => Names.joined separator names
  | .literal value => value.render
  | .type type => type.render
  | .text writing text => writing.render text
  | .expr e => e.render
  | .query q => q.render

/-- The canonical text of a phrase. -/
def Piece.renderList : List Piece → String
  | [] => ""
  | p :: ps => p.render ++ Piece.renderList ps

end

/-- The canonical text of a phrase. -/
abbrev Phrase.render (phrase : Phrase) : String :=
  Piece.renderList phrase

/-- The canonical text of a statement. -/
def Statement.render : Statement → String
  | .query q => q.render
  | .insert _ phrase => Phrase.render phrase
  | .command phrase => Phrase.render phrase

end QueryAudit.Sql
