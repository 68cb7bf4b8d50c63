import QueryAudit.Proofs.CanonicalText
import QueryAudit.Proofs.MarkedText

/-!
# The columns in canonical text

The canonical text of an expression is written once more with its columns marked. Without the marks
it is the canonical text, and when the columns of an expression are blotted out the marks stay where
they are. There are words between any two columns.
-/

namespace QueryAudit.Sql

open Marked

/-! ### Marked text -/

/-- A key of a map with its columns marked: a text stands between double quotes, unescaped. -/
def keyMarks (key : Marked) : Expr → Marked
  | .literal (.quoted .single text) => words ("\"" ++ text ++ "\"")
  | _ => key

mutual

/-- The canonical text of an expression with its columns marked. Queries in it are words. -/
def Expr.marked : Expr → Marked
  | .column name => column name.render
  | .path names => column (Names.render names)
  | .literal value => words value.render
  | .introduced charset value => words (charset ++ " " ++ value.render)
  | .typed type text => words (type.render ++ " " ++ inQuotes '\'' text)
  | .star => words "*"
  | .qualifiedStar names => words (Names.render names ++ ".*")
  | .nested e => words "(" ++ e.marked ++ words ")"
  | .tuple items => words "(" ++ commas (Expr.markedList items) ++ words ")"
  | .array worded items =>
    words (if worded then "ARRAY" else "") ++ words "[" ++ commas (Expr.markedList items)
      ++ words "]"
  | .struct items fields =>
    words (structWords fields) ++ words "(" ++ commas (Expr.markedList items) ++ words ")"
  | .named e name => e.marked ++ words " AS " ++ words name.render
  | .unary .factorial e => e.marked ++ words "!"
  | .unary .not e => words "NOT " ++ e.marked
  | .unary op e => words op.spelling ++ e.marked
  | .binary left op right =>
    left.marked ++ words " " ++ words op.spelling ++ words " " ++ right.marked
  | .quantified left op quantifier right =>
    left.marked ++ words " " ++ words op.spelling ++ words " " ++ words quantifier.spelling
      ++ words "(" ++ right.marked ++ words ")"
  | .document left .colon right => left.marked ++ words ":" ++ right.marked
  | .document left op right =>
    left.marked ++ words " " ++ words op.spelling ++ words " " ++ right.marked
  | .truth e negated test =>
    e.marked ++ words " IS " ++ words (notWord negated) ++ words test.spelling
  | .distinct left negated right =>
    left.marked ++ words " IS " ++ words (notWord negated) ++ words "DISTINCT FROM "
      ++ right.marked
  | .inList e negated items =>
    e.marked ++ words " " ++ words (notWord negated) ++ words "IN ("
      ++ commas (Expr.markedList items) ++ words ")"
  | .inQuery e negated q =>
    e.marked ++ words " " ++ words (notWord negated) ++ words "IN (" ++ words q.render
      ++ words ")"
  | .inUnnest e negated items =>
    e.marked ++ words " " ++ words (notWord negated) ++ words "IN UNNEST(" ++ items.marked
      ++ words ")"
  | .between e negated low high =>
    e.marked ++ words " " ++ words (notWord negated) ++ words "BETWEEN " ++ low.marked
      ++ words " AND " ++ high.marked
  | .pattern e negated op pattern escape =>
    e.marked ++ words " " ++ words (notWord negated) ++ words op.spelling ++ words " "
      ++ pattern.marked
      ++ words (match escape with | none => "" | some c => " ESCAPE '" ++ c.toString ++ "'")
  | .cast op e type format =>
    words (op.spelling ++ "(") ++ e.marked ++ words " AS " ++ words type.render
      ++ words (CastFormat.render format) ++ words ")"
  | .convert e none none _ => words "CONVERT(" ++ e.marked ++ words ")"
  | .convert e none (some charset) _ =>
    words "CONVERT(" ++ e.marked ++ words " USING " ++ words (Names.render charset) ++ words ")"
  | .convert e (some type) none false =>
    words "CONVERT(" ++ e.marked ++ words ", " ++ words type.render ++ words ")"
  | .convert e (some type) none true =>
    words ("CONVERT(" ++ type.render ++ ", ") ++ e.marked ++ words ")"
  | .convert e (some type) (some charset) _ =>
    words "CONVERT(" ++ e.marked ++ words ", " ++ words type.render ++ words " CHARACTER SET "
      ++ words (Names.render charset) ++ words ")"
  | .collate e collation => e.marked ++ words " COLLATE " ++ words (Names.render collation)
  | .atTimeZone e zone => e.marked ++ words " AT TIME ZONE '" ++ words zone ++ words "'"
  | .interval e unit => words "INTERVAL " ++ e.marked ++ words unit.render
  | .extract field e =>
    words ("EXTRACT(" ++ field.spelling ++ " FROM ") ++ e.marked ++ words ")"
  | .round way e none => words (way.spelling ++ "(") ++ e.marked ++ words ")"
  | .round way e (some field) =>
    words (way.spelling ++ "(") ++ e.marked ++ words " TO " ++ words field.spelling ++ words ")"
  | .position e inside =>
    words "POSITION(" ++ e.marked ++ words " IN " ++ inside.marked ++ words ")"
  | .substring e start count commas =>
    words "SUBSTRING(" ++ e.marked ++ Expr.markedOption (if commas then ", " else " FROM ") start
      ++ Expr.markedOption (if commas then ", " else " FOR ") count ++ words ")"
  | .trim side what e characters =>
    words "TRIM(" ++ words (match side with | none => "" | some k => k.spelling ++ " ")
      ++ (match what with | none => [] | some w => w.marked ++ words " FROM ") ++ e.marked
      ++ Marked.clause ", " (Expr.markedList characters) ++ words ")"
  | .overlay e what start count =>
    words "OVERLAY(" ++ e.marked ++ words " PLACING " ++ what.marked ++ words " FROM "
      ++ start.marked ++ Expr.markedOption " FOR " count ++ words ")"
  | .field e key => e.marked ++ words "." ++ words key.render
  | .mapAccess e keys => e.marked ++ Expr.markedKeys keys
  | .index e indexes => e.marked ++ Expr.markedIndexes indexes
  | .call name style arguments orderBy filter window =>
    if style.bare then words (Names.render name)
    else
      words (Names.render name) ++ words "(" ++ words (if style.distinct then "DISTINCT " else "")
        ++ commas (Argument.markedList arguments)
        ++ Marked.clause " ORDER BY " (Ordering.markedList orderBy) ++ words ")"
        ++ (match filter with
          | none => []
          | some f => words " FILTER (WHERE " ++ f.marked ++ words ")")
        ++ words style.nullWords ++ window.marked
  | .listAgg distinct e separator overflow filler withinGroup =>
    words "LISTAGG(" ++ words (if distinct then "DISTINCT " else "") ++ e.marked
      ++ Expr.markedOption ", " separator
      ++ (match overflow with
        | .unspecified => []
        | .error => words " ON OVERFLOW ERROR"
        | .truncate withCount =>
          words " ON OVERFLOW TRUNCATE" ++ Expr.markedOption " " filler
            ++ words (if withCount then " WITH COUNT" else " WITHOUT COUNT"))
      ++ words ")" ++ Marked.groupClause (Ordering.markedList withinGroup)
  | .arrayAgg distinct e orderBy limit false =>
    words "ARRAY_AGG(" ++ words (if distinct then "DISTINCT " else "") ++ e.marked
      ++ Marked.clause " ORDER BY " (Ordering.markedList orderBy)
      ++ Expr.markedOption " LIMIT " limit ++ words ")"
  | .arrayAgg distinct e orderBy _ true =>
    words "ARRAY_AGG(" ++ words (if distinct then "DISTINCT " else "") ++ e.marked ++ words ")"
      ++ Marked.groupClause (Ordering.markedList orderBy)
  | .filtered e filter => e.marked ++ words " FILTER (WHERE " ++ filter.marked ++ words ")"
  | .caseOf operand conditions results otherwise =>
    words "CASE" ++ Expr.markedOption " " operand
      ++ Marked.branches (Expr.markedList conditions) (Expr.markedList results)
      ++ Expr.markedOption " ELSE " otherwise ++ words " END"
  | .grouping op sets =>
    words (op.spelling ++ " (") ++ commas (Expr.markedSets (op = .groupingSets) sets) ++ words ")"
  | .existsQuery negated q => words (notWord negated ++ "EXISTS (" ++ q.render ++ ")")
  | .subquery q => words ("(" ++ q.render ++ ")")
  | .arrayQuery q => words ("ARRAY(" ++ q.render ++ ")")
  | .matchAgainst columns value modifier =>
    words "MATCH (" ++ commas (columns.map fun name => column name.render) ++ words ") AGAINST ("
      ++ words value.render
      ++ words (match modifier with | none => "" | some m => " " ++ m.spelling) ++ words ")"

def Expr.markedList : List Expr → List Marked
  | [] => []
  | e :: es => e.marked :: Expr.markedList es

/-- An expression with its columns marked, if there is one, behind some words. -/
def Expr.markedOption (before : String) : Option Expr → Marked
  | none => []
  | some e => words before ++ e.marked

/-- The keys of a map with their columns marked, each in brackets. -/
def Expr.markedKeys : List Expr → Marked
  | [] => []
  | e :: es => words "[" ++ keyMarks e.marked e ++ words "]" ++ Expr.markedKeys es

/-- Indexes with their columns marked, each in brackets. -/
def Expr.markedIndexes : List Expr → Marked
  | [] => []
  | e :: es => words "[" ++ e.marked ++ words "]" ++ Expr.markedIndexes es

/-- Lists of expressions in parentheses with their columns marked. -/
def Expr.markedSets (always : Bool) : List (List Expr) → List Marked
  | [] => []
  | set :: sets => group always (Expr.markedList set) :: Expr.markedSets always sets

def Ordering.marked : Ordering → Marked
  | ⟨e, ascending, nullsFirst⟩ => e.marked ++ words (orderWords ascending nullsFirst)

/-- Each of some expressions to order by with its columns marked. -/
def Ordering.markedList : List Ordering → List Marked
  | [] => []
  | o :: os => o.marked :: Ordering.markedList os

def Argument.marked : Argument → Marked
  | .value parameter e => words (parameterWords parameter) ++ e.marked
  | .star parameter => words (parameterWords parameter ++ "*")
  | .qualifiedStar parameter names =>
    words (parameterWords parameter ++ Names.render names ++ ".*")

def Argument.markedList : List Argument → List Marked
  | [] => []
  | a :: rest => a.marked :: Argument.markedList rest

/-- A window with its columns marked. Its frame is words. -/
def Window.marked : Window → Marked
  | .unwindowed => []
  | .named name => words (" OVER " ++ name.render)
  | .spec partitionBy orderBy frame =>
    words " OVER (" ++ blanks [Marked.clause "PARTITION BY " (Expr.markedList partitionBy),
      Marked.clause "ORDER BY " (Ordering.markedList orderBy), wordsOrNone (Piece.renderList frame)]
      ++ words ")"

end

theorem Expr.marked_call (name : List Name) (style : CallStyle) (arguments : List Argument)
    (orderBy : List Ordering) (filter : Option Expr) (window : Window) :
    (Expr.call name style arguments orderBy filter window).marked =
      if style.bare then words (Names.render name)
      else
        words (Names.render name) ++ words "("
          ++ words (if style.distinct then "DISTINCT " else "")
          ++ commas (Argument.markedList arguments)
          ++ Marked.clause " ORDER BY " (Ordering.markedList orderBy) ++ words ")"
          ++ (match filter with
            | none => []
            | some f => words " FILTER (WHERE " ++ f.marked ++ words ")")
          ++ words style.nullWords ++ window.marked := by
  cases filter <;> rfl

/-! ### Columns blotted out -/

mutual

/-- An expression with its columns blotted out. Queries in it stay as they are. -/
def Expr.blanked : Expr → Expr
  | .column _ | .path _ => .column ⟨"", none⟩
  | .matchAgainst columns value modifier =>
    .matchAgainst (columns.map fun _ => ⟨"", none⟩) value modifier
  | .nested e => .nested e.blanked
  | .tuple items => .tuple (Expr.blankedList items)
  | .array worded items => .array worded (Expr.blankedList items)
  | .struct items fields => .struct (Expr.blankedList items) fields
  | .named e name => .named e.blanked name
  | .unary op e => .unary op e.blanked
  | .binary left op right => .binary left.blanked op right.blanked
  | .quantified left op quantifier right => .quantified left.blanked op quantifier right.blanked
  | .document left op right => .document left.blanked op right.blanked
  | .truth e negated test => .truth e.blanked negated test
  | .distinct left negated right => .distinct left.blanked negated right.blanked
  | .inList e negated items => .inList e.blanked negated (Expr.blankedList items)
  | .inQuery e negated q => .inQuery e.blanked negated q
  | .inUnnest e negated items => .inUnnest e.blanked negated items.blanked
  | .between e negated low high => .between e.blanked negated low.blanked high.blanked
  | .pattern e negated op pattern escape => .pattern e.blanked negated op pattern.blanked escape
  | .cast op e type format => .cast op e.blanked type format
  | .convert e type charset typeFirst => .convert e.blanked type charset typeFirst
  | .collate e collation => .collate e.blanked collation
  | .atTimeZone e zone => .atTimeZone e.blanked zone
  | .interval e unit => .interval e.blanked unit
  | .extract field e => .extract field e.blanked
  | .round way e field => .round way e.blanked field
  | .position e inside => .position e.blanked inside.blanked
  | .substring e start count commas =>
    .substring e.blanked (Expr.blankedOption start) (Expr.blankedOption count) commas
  | .trim side what e characters =>
    .trim side (Expr.blankedOption what) e.blanked (Expr.blankedList characters)
  | .overlay e what start count =>
    .overlay e.blanked what.blanked start.blanked (Expr.blankedOption count)
  | .field e key => .field e.blanked key
  | .mapAccess e keys => .mapAccess e.blanked (Expr.blankedList keys)
  | .index e indexes => .index e.blanked (Expr.blankedList indexes)
  | .call name style arguments orderBy filter window =>
    .call name style (Argument.blankedList arguments) (Ordering.blankedList orderBy)
      (Expr.blankedOption filter) window.blanked
  | .listAgg distinct e separator overflow filler withinGroup =>
    .listAgg distinct e.blanked (Expr.blankedOption separator) overflow
      (Expr.blankedOption filler) (Ordering.blankedList withinGroup)
  | .arrayAgg distinct e orderBy limit withinGroup =>
    .arrayAgg distinct e.blanked (Ordering.blankedList orderBy) (Expr.blankedOption limit)
      withinGroup
  | .filtered e filter => .filtered e.blanked filter.blanked
  | .caseOf operand conditions results otherwise =>
    .caseOf (Expr.blankedOption operand) (Expr.blankedList conditions) (Expr.blankedList results)
      (Expr.blankedOption otherwise)
  | .grouping op sets => .grouping op (Expr.blankedSets sets)
  | e => e

/-- Each of some expressions with its columns blotted out. -/
def Expr.blankedList : List Expr → List Expr
  | [] => []
  | e :: es => e.blanked :: Expr.blankedList es

/-- An expression with its columns blotted out, if there is one. -/
def Expr.blankedOption : Option Expr → Option Expr
  | none => none
  | some e => some e.blanked

/-- Each of some lists of expressions with their columns blotted out. -/
def Expr.blankedSets : List (List Expr) → List (List Expr)
  | [] => []
  | set :: sets => Expr.blankedList set :: Expr.blankedSets sets

/-- An expression to order by with its columns blotted out. -/
def Ordering.blanked : Ordering → Ordering
  | ⟨e, ascending, nullsFirst⟩ => ⟨e.blanked, ascending, nullsFirst⟩

/-- Each of some expressions to order by with its columns blotted out. -/
def Ordering.blankedList : List Ordering → List Ordering
  | [] => []
  | o :: os => o.blanked :: Ordering.blankedList os

/-- An argument with its columns blotted out. -/
def Argument.blanked : Argument → Argument
  | .value parameter e => .value parameter e.blanked
  | .star parameter => .star parameter
  | .qualifiedStar parameter names => .qualifiedStar parameter names

/-- Each of some arguments with its columns blotted out. -/
def Argument.blankedList : List Argument → List Argument
  | [] => []
  | a :: rest => a.blanked :: Argument.blankedList rest

/-- A window with the columns of its keys blotted out. -/
def Window.blanked : Window → Window
  | .unwindowed => .unwindowed
  | .named name => .named name
  | .spec partitionBy orderBy frame =>
    .spec (Expr.blankedList partitionBy) (Ordering.blankedList orderBy) frame

end

/-! ### Marks of clauses -/

section Clauses

variable {a b : Bool} {ms ns : List Marked} {ss : List String}

theorem shows_commas (h : ShowsEach ms ns ss) :
    Shows false (commas ms) (commas ns) (commaList ss) true :=
  h.joined (by decide)

theorem shows_clause {w : String} (hw : w ≠ "") (h : ShowsEach ms ns ss) :
    Shows true (Marked.clause w ms) (Marked.clause w ns) (clause w ss) true := by
  have hlist := shows_commas h
  cases h with
  | nil => exact .nothing
  | cons => exact hlist.before hw

theorem shows_groupClause (h : ShowsEach ms ns ss) :
    Shows true (Marked.groupClause ms) (Marked.groupClause ns) (groupClause ss) true := by
  have hlist := shows_commas h
  cases h with
  | nil => exact .nothing
  | cons => exact hlist.before (by decide) |>.behind (by decide)

theorem shows_branches {ms' ns' : List Marked} {ss' : List String} (h : ShowsEach ms ns ss)
    (h' : ShowsEach ms' ns' ss') :
    Shows true (Marked.branches ms ms') (Marked.branches ns ns') (branchWords ss ss') true := by
  induction h generalizing ms' ns' ss' with
  | nil => exact .nothing
  | cons h _ ih =>
    cases h' with
    | nil => exact .nothing
    | cons h' hs' =>
      exact h.before (by decide) |>.behind (by decide) |>.append h' |>.append (ih hs')

theorem shows_group (always : Bool) (h : ShowsEach ms ns ss) :
    Shows false (group always ms) (group always ns) (groupWords always ss) true := by
  have hlist := (shows_commas h).before (a := false) (w := "(") (by decide)
    |>.behind (c := true) (w := ")") (by decide)
  cases h with
  | nil => exact hlist
  | cons h hs =>
    cases hs with
    | cons => exact hlist
    | nil =>
      cases always with
      | true => exact h.before (by decide) |>.behind (by decide)
      | false => exact h

/-- The marks of a clause that may be missing. -/
def ShowsClause (m n : Marked) (s : String) : Prop :=
  m = [] ∧ n = [] ∧ s = "" ∨ m ≠ [] ∧ n ≠ [] ∧ s ≠ "" ∧ Shows false m n s true

theorem showsClause_clause {w : String} (hw : w ≠ "") (h : ShowsEach ms ns ss) :
    ShowsClause (Marked.clause w ms) (Marked.clause w ns) (clause w ss) := by
  have hshows := (shows_clause hw h).of_behind (a := false)
  cases h with
  | nil => exact .inl ⟨rfl, rfl, rfl⟩
  | cons =>
    refine .inr ⟨List.cons_ne_nil _ _, List.cons_ne_nil _ _, ?_, hshows⟩
    exact fun hs => hw (String.append_eq_empty_iff.mp hs).1

theorem showsClause_wordsOrNone (w : String) :
    ShowsClause (wordsOrNone w) (wordsOrNone w) w := by
  rw [wordsOrNone]
  split
  · next hw => exact .inl ⟨rfl, rfl, hw⟩
  · next hw => exact .inr ⟨List.cons_ne_nil _ _, List.cons_ne_nil _ _, hw, Shows.leaf w⟩

/-- Clauses that are missing are left out alike in the text and in its marks. -/
theorem ShowsClause.cons {m n : Marked} {s : String} (h : ShowsClause m n s)
    (hs : ShowsEach (ms.filter (· ≠ [])) (ns.filter (· ≠ [])) (ss.filter (· ≠ ""))) :
    ShowsEach ((m :: ms).filter (· ≠ [])) ((n :: ns).filter (· ≠ []))
      ((s :: ss).filter (· ≠ "")) := by
  rcases h with ⟨rfl, rfl, rfl⟩ | ⟨hm, hn, hs', h⟩
  · exact hs
  · simp only [List.filter_cons, hm, hn, hs', ne_eq, not_false_eq_true, decide_true, if_true]
    exact .cons h hs

theorem shows_keyMarks {e : Expr} (h : Shows false e.marked e.blanked.marked e.render true) :
    Shows false (keyMarks e.marked e) (keyMarks e.blanked.marked e.blanked)
      (keyWords e.render e) true := by
  cases e with
  | literal value =>
    cases value with
    | quoted quoting text =>
      cases quoting
      case single => exact .leaf _
      all_goals exact h
    | _ => exact h
  | _ => exact h

theorem showsEach_names : (names : List Name) →
    ShowsEach (names.map fun name => column name.render)
      ((names.map fun _ => (⟨"", none⟩ : Name)).map fun name => column name.render)
      (names.map Name.render)
  | [] => .nil
  | name :: names => .cons (.column name.render) (showsEach_names names)

end Clauses

/-! ### Marks of expressions -/

mutual

/-- The marks of an expression are those of its canonical text, and blotting out its columns does
    not move them. -/
theorem Expr.shows : (e : Expr) → Shows false e.marked e.blanked.marked e.render true
  | .column name => .column name.render
  | .path names => .column (Names.render names)
  | .literal _ => .leaf _
  | .introduced _ _ => .leaf _
  | .typed _ _ => .leaf _
  | .star => .leaf _
  | .qualifiedStar _ => .leaf _
  | .nested e => e.shows.before (by decide) |>.behind (by decide)
  | .tuple items => shows_commas (showsEach_exprs items) |>.before (by decide) |>.behind (by decide)
  | .array worded items =>
    .behind (.append (.behind (.leaf _) (by decide)) (shows_commas (showsEach_exprs items)))
      (by decide)
  | .struct items fields =>
    .behind (.append (.behind (.leaf _) (by decide)) (shows_commas (showsEach_exprs items)))
      (by decide)
  | .named e name => e.shows.behind (by decide) |>.worded _
  | .unary op e => by
    have he := e.shows
    cases op
    case factorial => exact he.behind (by decide)
    all_goals exact he.before (by decide)
  | .binary left op right =>
    left.shows.behind (by decide) |>.worded _ |>.behind (by decide) |>.append right.shows
  | .quantified left op quantifier right =>
    left.shows.behind (by decide) |>.worded _ |>.behind (by decide) |>.worded _
      |>.behind (by decide) |>.append right.shows |>.behind (by decide)
  | .document left op right => by
    have hleft := left.shows
    have hright := right.shows
    cases op
    case colon => exact hleft.behind (by decide) |>.append hright
    all_goals exact hleft.behind (by decide) |>.worded _ |>.behind (by decide) |>.append hright
  | .truth e negated test => e.shows.behind (by decide) |>.worded _ |>.worded _
  | .distinct left negated right =>
    left.shows.behind (by decide) |>.worded _ |>.behind (by decide) |>.append right.shows
  | .inList e negated items =>
    e.shows.behind (by decide) |>.worded _ |>.behind (by decide)
      |>.append (shows_commas (showsEach_exprs items)) |>.behind (by decide)
  | .inQuery e negated q =>
    e.shows.behind (by decide) |>.worded _ |>.behind (by decide) |>.worded _
      |>.behind (by decide)
  | .inUnnest e negated items =>
    e.shows.behind (by decide) |>.worded _ |>.behind (by decide) |>.append items.shows
      |>.behind (by decide)
  | .between e negated low high =>
    e.shows.behind (by decide) |>.worded _ |>.behind (by decide) |>.append low.shows
      |>.behind (by decide) |>.append high.shows
  | .pattern e negated op pattern escape =>
    e.shows.behind (by decide) |>.worded _ |>.worded _ |>.behind (by decide)
      |>.append pattern.shows |>.worded _
  | .cast op e type format =>
    e.shows.before (by cases op <;> decide) |>.behind (by decide) |>.worded _ |>.worded _
      |>.behind (by decide)
  | .convert e none none _ => e.shows.before (by decide) |>.behind (by decide)
  | .convert e none (some charset) _ =>
    e.shows.before (by decide) |>.behind (by decide) |>.worded _ |>.behind (by decide)
  | .convert e (some type) none false =>
    e.shows.before (by decide) |>.behind (by decide) |>.worded _ |>.behind (by decide)
  | .convert e (some type) none true =>
    e.shows.before (by simp) |>.behind (by decide)
  | .convert e (some type) (some charset) _ =>
    e.shows.before (by decide) |>.behind (by decide) |>.worded _ |>.behind (by decide)
      |>.worded _ |>.behind (by decide)
  | .collate e collation => e.shows.behind (by decide) |>.worded _
  | .atTimeZone e zone => e.shows.behind (by decide) |>.worded _ |>.behind (by decide)
  | .interval e unit => e.shows.before (by decide) |>.worded _
  | .extract field e => e.shows.before (by simp) |>.behind (by decide)
  | .round way e none => e.shows.before (by cases way <;> decide) |>.behind (by decide)
  | .round way e (some field) =>
    e.shows.before (by cases way <;> decide) |>.behind (by decide) |>.worded _
      |>.behind (by decide)
  | .position e inside =>
    e.shows.before (by decide) |>.behind (by decide) |>.append inside.shows |>.behind (by decide)
  | .substring e start count commas =>
    e.shows.before (by decide) |>.append (shows_option start (by cases commas <;> decide))
      |>.append (shows_option count (by cases commas <;> decide)) |>.behind (by decide)
  | .trim side what e characters => by
    have he := e.shows
    have hcharacters := shows_clause (w := ", ") (by decide) (showsEach_exprs characters)
    rw [Expr.render_trim]
    cases what with
    | none =>
      exact .behind (.append (.append (.append (.worded (.words _) _) .nothing) he) hcharacters)
        (by decide)
    | some w =>
      have hwhat := w.shows.behind (c := false) (w := " FROM ") (by decide)
      exact .behind (.append (.append (.append (.worded (.words _) _) hwhat) he) hcharacters)
        (by decide)
  | .overlay e what start count =>
    e.shows.before (by decide) |>.behind (by decide) |>.append what.shows |>.behind (by decide)
      |>.append start.shows |>.append (shows_option count (by decide)) |>.behind (by decide)
  | .field e key => e.shows.behind (by decide) |>.worded _
  | .mapAccess e keys => e.shows.append (shows_keys keys)
  | .index e indexes => e.shows.append (shows_indexes indexes)
  | .call name style arguments orderBy filter window => by
    have harguments := shows_commas (showsEach_arguments arguments)
    have horder := shows_clause (w := " ORDER BY ") (by decide) (showsEach_orderings orderBy)
    have hwindow := window.shows
    have hblanked : (Expr.call name style arguments orderBy filter window).blanked =
        .call name style (Argument.blankedList arguments) (Ordering.blankedList orderBy)
          (Expr.blankedOption filter) window.blanked := rfl
    rw [Expr.render_call, hblanked, Expr.marked_call, Expr.marked_call]
    split
    · exact .leaf _
    · refine .append (.worded (.append (.behind (c := true) (.append (.append (.worded
        (.behind (.leaf _) (by decide)) _) harguments) horder) (by decide)) ?_) _) hwindow
      cases filter with
      | none => exact .nothing
      | some f => exact f.shows.before (by decide) |>.behind (by decide)
  | .listAgg distinct e separator overflow filler withinGroup => by
    have he := e.shows
    have hseparator := shows_option (w := ", ") separator (by decide)
    have hfiller := shows_option (w := " ") filler (by decide)
    have hgroup := shows_groupClause (showsEach_orderings withinGroup)
    have hstart : Shows false _ _ _ true := .append (.append (.worded (.words "LISTAGG(")
      (if distinct then "DISTINCT " else "")) he) hseparator
    rw [Expr.render_listAgg]
    cases overflow with
    | unspecified => exact hstart.append .nothing |>.behind (by decide) |>.append hgroup
    | error =>
      exact hstart.append (.words " ON OVERFLOW ERROR") |>.behind (by decide) |>.append hgroup
    | truncate withCount =>
      have hcut := hfiller.of_behind (a := false) |>.before (a := true)
        (w := " ON OVERFLOW TRUNCATE") (by decide)
        |>.worded (if withCount then " WITH COUNT" else " WITHOUT COUNT")
      exact hstart.append hcut |>.behind (by decide) |>.append hgroup
  | .arrayAgg distinct e orderBy limit false => by
    have he := e.shows
    have horder := shows_clause (w := " ORDER BY ") (by decide) (showsEach_orderings orderBy)
    rw [Expr.render_arrayAgg]
    exact .behind (.append (.append (.append (.worded (.words _) _) he) horder)
      (shows_option limit (by decide))) (by decide)
  | .arrayAgg distinct e orderBy _ true => by
    have he := e.shows
    have hgroup := shows_groupClause (showsEach_orderings orderBy)
    rw [Expr.render_arrayAgg_group]
    exact .append (.behind (.append (.worded (.words _) _) he) (by decide)) hgroup
  | .filtered e filter =>
    e.shows.behind (by decide) |>.append filter.shows |>.behind (by decide)
  | .caseOf operand conditions results otherwise =>
    .behind (.append (.append (.append (.leaf _) (shows_option operand (by decide)))
      (shows_branches (showsEach_exprs conditions) (showsEach_exprs results)))
      (shows_option otherwise (by decide))) (by decide)
  | .grouping op sets =>
    (shows_commas (showsEach_sets _ sets)).before (by cases op <;> decide) |>.behind (by decide)
  | .existsQuery _ _ => .leaf _
  | .subquery _ => .leaf _
  | .arrayQuery _ => .leaf _
  | .matchAgainst columns value modifier =>
    (shows_commas (showsEach_names columns)).before (by decide) |>.behind (by decide)
      |>.worded _ |>.worded _ |>.behind (by decide)

theorem showsEach_exprs : (es : List Expr) →
    ShowsEach (Expr.markedList es) (Expr.markedList (Expr.blankedList es)) (Expr.renderList es)
  | [] => .nil
  | e :: es => .cons e.shows (showsEach_exprs es)

theorem shows_option {w : String} : (o : Option Expr) → w ≠ "" →
    Shows true (Expr.markedOption w o) (Expr.markedOption w (Expr.blankedOption o))
      (Expr.renderOption w o) true
  | none, _ => .nothing
  | some e, h => e.shows.before h

theorem shows_keys : (es : List Expr) →
    Shows true (Expr.markedKeys es) (Expr.markedKeys (Expr.blankedList es)) (Expr.renderKeys es)
      true
  | [] => .nothing
  | e :: es =>
    (shows_keyMarks e.shows).before (by decide) |>.behind (by decide) |>.append (shows_keys es)

theorem shows_indexes : (es : List Expr) →
    Shows true (Expr.markedIndexes es) (Expr.markedIndexes (Expr.blankedList es))
      (Expr.renderIndexes es) true
  | [] => .nothing
  | e :: es => e.shows.before (by decide) |>.behind (by decide) |>.append (shows_indexes es)

theorem showsEach_sets (always : Bool) : (sets : List (List Expr)) →
    ShowsEach (Expr.markedSets always sets) (Expr.markedSets always (Expr.blankedSets sets))
      (Expr.renderSets always sets)
  | [] => .nil
  | set :: sets =>
    .cons (shows_group always (showsEach_exprs set)) (showsEach_sets always sets)

theorem Ordering.shows : (o : Ordering) → Shows false o.marked o.blanked.marked o.render true
  | ⟨e, _, _⟩ => e.shows.worded _

theorem showsEach_orderings : (os : List Ordering) →
    ShowsEach (Ordering.markedList os) (Ordering.markedList (Ordering.blankedList os))
      (Ordering.renderList os)
  | [] => .nil
  | o :: os => .cons o.shows (showsEach_orderings os)

theorem Argument.shows : (a : Argument) → Shows false a.marked a.blanked.marked a.render true
  | .value _ e => .append (.words _) e.shows
  | .star _ => .leaf _
  | .qualifiedStar _ _ => .leaf _

theorem showsEach_arguments : (arguments : List Argument) →
    ShowsEach (Argument.markedList arguments) (Argument.markedList (Argument.blankedList arguments))
      (Argument.renderList arguments)
  | [] => .nil
  | a :: rest => .cons a.shows (showsEach_arguments rest)

theorem Window.shows : (w : Window) → Shows true w.marked w.blanked.marked w.render true
  | .unwindowed => .nothing
  | .named _ => .words _
  | .spec partitionBy orderBy frame => by
    have hpartition := showsEach_exprs partitionBy
    have horder := showsEach_orderings orderBy
    have hnone : ShowsEach (([] : List Marked).filter (· ≠ [])) (([] : List Marked).filter (· ≠ []))
        (([] : List String).filter (· ≠ "")) := .nil
    have hclauses := (showsClause_clause (w := "PARTITION BY ") (by decide) hpartition).cons
      ((showsClause_clause (w := "ORDER BY ") (by decide) horder).cons
        ((showsClause_wordsOrNone (Piece.renderList frame)).cons hnone))
    rw [Window.render_spec]
    exact (hclauses.joined (by decide)).before (by decide) |>.behind (by decide)

end

end QueryAudit.Sql
