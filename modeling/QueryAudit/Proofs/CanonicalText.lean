import QueryAudit.Proofs.Parts

/-!
# The newlines of canonical text

A newline of the canonical text of a statement is one of a part of the statement. Only keywords,
punctuation, numbers and blanks stand between the parts.
-/

namespace QueryAudit.Sql

/-! ### Texts of several parts -/

theorem newlinesFrom_keyWords {e : Expr} (h : NewlinesFrom e.render e.parts) :
    NewlinesFrom (keyWords e.render e) e.parts := by
  unfold keyWords
  split
  · next text =>
    exact .behind (.before (by decide) .part) (by decide)
  · exact h

theorem newlinesFrom_nothing : NewlinesFrom "" [] :=
  .word (by decide)

theorem newlinesFrom_branchWords {cs rs : List String} {ps qs : List (List String)}
    (hc : List.Forall₂ NewlinesFrom cs ps) (hr : List.Forall₂ NewlinesFrom rs qs) :
    NewlinesFrom (branchWords cs rs) (branchParts ps qs) := by
  induction hc generalizing rs qs with
  | nil => exact newlinesFrom_nothing
  | cons hc _ ih =>
    cases hr with
    | nil => exact newlinesFrom_nothing
    | cons hr hrs =>
      exact .append (.append (.behind (.before (by decide) hc) (by decide)) hr) (ih hrs)

theorem newlinesFrom_commaList {items : List String} {ps : List (List String)}
    (h : List.Forall₂ NewlinesFrom items ps) : NewlinesFrom (commaList items) ps.flatten :=
  .intercalate (by decide) h

theorem newlinesFrom_groupWords (always : Bool) {items : List String} {ps : List (List String)}
    (h : List.Forall₂ NewlinesFrom items ps) :
    NewlinesFrom (groupWords always items) ps.flatten := by
  have hlist := newlinesFrom_commaList h
  unfold groupWords
  split
  · rw [commaList, String.intercalate_singleton] at hlist
    split
    · exact .behind (.before (by decide) hlist) (by decide)
    · exact hlist
  · exact .behind (.before (by decide) hlist) (by decide)

/-- Texts with blanks between them, of which those that are empty are left out. -/
theorem newlinesFrom_blanks {texts : List String} {ps : List (List String)}
    (h : List.Forall₂ NewlinesFrom texts ps) :
    NewlinesFrom (" ".intercalate (texts.filter (· ≠ ""))) ps.flatten := by
  have hall : NewlinesFrom (" ".intercalate texts) ps.flatten := .intercalate (by decide) h
  rw [NewlinesFrom, hasNewline_intercalate_iff (by decide)] at hall ⊢
  rw [← hall]
  refine exists_congr fun t => and_congr_left fun ht => ?_
  rw [List.mem_filter]
  refine and_iff_left (decide_eq_true ?_)
  rintro rfl
  exact absurd ht (by decide)

/-! ### Clauses that may be missing -/

/-- Words and then texts separated by commas, if there are any. -/
def clause (words : String) : List String → String
  | [] => ""
  | items => words ++ commaList items

/-- The order of the rows of a group behind an aggregate, if there is one. -/
def groupClause : List String → String
  | [] => ""
  | items => " WITHIN GROUP (ORDER BY " ++ commaList items ++ ")"

theorem Expr.render_trim (side : Option Keyword) (what : Option Expr) (e : Expr)
    (characters : List Expr) :
    (Expr.trim side what e characters).render =
      "TRIM(" ++ (match side with | none => "" | some k => k.spelling ++ " ")
        ++ (match what with | none => "" | some w => w.render ++ " FROM ") ++ e.render
        ++ clause ", " (Expr.renderList characters) ++ ")" := by
  cases what <;> cases characters <;> rfl

theorem Expr.render_call (name : List Name) (style : CallStyle) (arguments : List Argument)
    (orderBy : List Ordering) (filter : Option Expr) (window : Window) :
    (Expr.call name style arguments orderBy filter window).render =
      if style.bare then Names.render name
      else
        Names.render name ++ "(" ++ (if style.distinct then "DISTINCT " else "")
          ++ commaList (Argument.renderList arguments)
          ++ clause " ORDER BY " (Ordering.renderList orderBy) ++ ")"
          ++ (match filter with | none => "" | some f => " FILTER (WHERE " ++ f.render ++ ")")
          ++ style.nullWords ++ window.render := by
  cases orderBy <;> cases filter <;> rfl

theorem Expr.render_listAgg (distinct : Bool) (e : Expr) (separator : Option Expr)
    (overflow : Overflow) (filler : Option Expr) (withinGroup : List Ordering) :
    (Expr.listAgg distinct e separator overflow filler withinGroup).render =
      "LISTAGG(" ++ (if distinct then "DISTINCT " else "") ++ e.render
        ++ Expr.renderOption ", " separator
        ++ (match overflow with
          | .unspecified => ""
          | .error => " ON OVERFLOW ERROR"
          | .truncate withCount =>
            " ON OVERFLOW TRUNCATE" ++ Expr.renderOption " " filler
              ++ (if withCount then " WITH COUNT" else " WITHOUT COUNT"))
        ++ ")" ++ groupClause (Ordering.renderList withinGroup) := by
  cases overflow <;> cases withinGroup <;> rfl

theorem Expr.render_arrayAgg (distinct : Bool) (e : Expr) (orderBy : List Ordering)
    (limit : Option Expr) :
    (Expr.arrayAgg distinct e orderBy limit false).render =
      "ARRAY_AGG(" ++ (if distinct then "DISTINCT " else "") ++ e.render
        ++ clause " ORDER BY " (Ordering.renderList orderBy)
        ++ Expr.renderOption " LIMIT " limit ++ ")" := by
  cases orderBy <;> rfl

theorem Expr.render_arrayAgg_group (distinct : Bool) (e : Expr) (orderBy : List Ordering)
    (limit : Option Expr) :
    (Expr.arrayAgg distinct e orderBy limit true).render =
      "ARRAY_AGG(" ++ (if distinct then "DISTINCT " else "") ++ e.render ++ ")"
        ++ groupClause (Ordering.renderList orderBy) := by
  cases orderBy <;> rfl

theorem Window.render_spec (partitionBy : List Expr) (orderBy : List Ordering)
    (frame : List Piece) :
    (Window.spec partitionBy orderBy frame).render =
      " OVER (" ++ " ".intercalate
        ([clause "PARTITION BY " (Expr.renderList partitionBy),
          clause "ORDER BY " (Ordering.renderList orderBy), Piece.renderList frame].filter
            (· ≠ "")) ++ ")" := by
  cases partitionBy <;> cases orderBy <;> rfl

theorem Body.render_select (head : List Piece) (sources : List Source) (views : List Piece)
    (condition : Option Expr) (tail : List Piece) :
    (Body.select head sources views condition tail).render =
      Piece.renderList head ++ clause " FROM " (Source.renderList sources)
        ++ Piece.renderList views ++ Expr.renderOption " WHERE " condition
        ++ Piece.renderList tail := by
  cases sources <;> rfl

theorem newlinesFrom_clause {words : String} (hw : ¬HasNewline words) {items : List String}
    {ps : List (List String)} (h : List.Forall₂ NewlinesFrom items ps) :
    NewlinesFrom (clause words items) ps.flatten := by
  have hlist := newlinesFrom_commaList h
  cases h with
  | nil => exact newlinesFrom_nothing
  | cons => exact hlist.before hw

theorem newlinesFrom_groupClause {items : List String} {ps : List (List String)}
    (h : List.Forall₂ NewlinesFrom items ps) : NewlinesFrom (groupClause items) ps.flatten := by
  have hlist := newlinesFrom_commaList h
  cases h with
  | nil => exact newlinesFrom_nothing
  | cons => exact hlist.before (by decide) |>.behind (by decide)

/-! ### Canonical text -/

mutual

/-- The newlines of the canonical text of an expression are those of its parts. -/
theorem Expr.newlinesFrom : (e : Expr) → NewlinesFrom e.render e.parts
  | .column name => name.newlinesFrom
  | .path names => newlinesFrom_names names
  | .literal value => value.newlinesFrom
  | .introduced _ value => .append (.behind .part (by decide)) value.newlinesFrom
  | .typed type text =>
    type.newlinesFrom.behind (by decide) |>.append (newlinesFrom_inQuotes (by decide) text)
  | .star => .word (by decide)
  | .qualifiedStar names => (newlinesFrom_names names).behind (by decide)
  | .nested e => e.newlinesFrom.before (by decide) |>.behind (by decide)
  | .tuple items =>
    (newlinesFrom_commaList (newlinesFrom_exprs items)).before (by decide)
      |>.behind (by decide)
  | .array worded items =>
    (newlinesFrom_commaList (newlinesFrom_exprs items)).before (by cases worded <;> decide)
      |>.behind (by decide)
  | .struct items fields =>
    (newlinesFrom_structWords fields).behind (by decide)
      |>.append (newlinesFrom_commaList (newlinesFrom_exprs items)) |>.behind (by decide)
  | .named e name => e.newlinesFrom.behind (by decide) |>.append name.newlinesFrom
  | .unary op e => by
    have he := e.newlinesFrom
    cases op
    case factorial => exact he.behind (by decide)
    all_goals exact he.before (by decide)
  | .binary left op right =>
    left.newlinesFrom.behind (by decide) |>.append op.newlinesFrom |>.behind (by decide)
      |>.append right.newlinesFrom
  | .quantified left op quantifier right =>
    left.newlinesFrom.behind (by decide) |>.append op.newlinesFrom |>.behind (by decide)
      |>.behind (by cases quantifier <;> decide) |>.behind (by decide)
      |>.append right.newlinesFrom |>.behind (by decide)
  | .document left op right => by
    have hleft := left.newlinesFrom
    have hright := right.newlinesFrom
    cases op
    case colon => exact hleft.behind (by decide) |>.append hright
    all_goals
      exact hleft.behind (by decide) |>.behind (by decide) |>.behind (by decide) |>.append hright
  | .truth e negated test =>
    e.newlinesFrom.behind (by decide) |>.behind (not_hasNewline_notWord negated)
      |>.behind (by cases test <;> decide)
  | .distinct left negated right =>
    left.newlinesFrom.behind (by decide) |>.behind (not_hasNewline_notWord negated)
      |>.behind (by decide) |>.append right.newlinesFrom
  | .inList e negated items =>
    e.newlinesFrom.behind (by decide) |>.behind (not_hasNewline_notWord negated)
      |>.behind (by decide) |>.append (newlinesFrom_commaList (newlinesFrom_exprs items))
      |>.behind (by decide)
  | .inQuery e negated q =>
    e.newlinesFrom.behind (by decide) |>.behind (not_hasNewline_notWord negated)
      |>.behind (by decide) |>.append q.newlinesFrom |>.behind (by decide)
  | .inUnnest e negated items =>
    e.newlinesFrom.behind (by decide) |>.behind (not_hasNewline_notWord negated)
      |>.behind (by decide) |>.append items.newlinesFrom |>.behind (by decide)
  | .between e negated low high =>
    e.newlinesFrom.behind (by decide) |>.behind (not_hasNewline_notWord negated)
      |>.behind (by decide) |>.append low.newlinesFrom |>.behind (by decide)
      |>.append high.newlinesFrom
  | .pattern e negated op pattern escape => by
    have hpattern := e.newlinesFrom.behind (w := " ") (by decide)
      |>.behind (not_hasNewline_notWord negated)
      |>.behind (w := op.spelling) (by cases op <;> decide)
      |>.behind (w := " ") (by decide) |>.append pattern.newlinesFrom
    cases escape with
    | none => exact hpattern.behind (by decide)
    | some c =>
      exact hpattern.append (.behind (.before (by decide) .part) (by decide))
  | .cast op e type format =>
    e.newlinesFrom.before (w := op.spelling ++ "(") (by cases op <;> decide)
      |>.behind (by decide) |>.append type.newlinesFrom |>.append (newlinesFrom_castFormat format)
      |>.behind (by decide)
  | .convert e none none _ => e.newlinesFrom.before (by decide) |>.behind (by decide)
  | .convert e none (some charset) _ =>
    e.newlinesFrom.before (by decide) |>.behind (by decide)
      |>.append (newlinesFrom_names charset) |>.behind (by decide)
  | .convert e (some type) none false =>
    e.newlinesFrom.before (by decide) |>.behind (by decide) |>.append type.newlinesFrom
      |>.behind (by decide)
  | .convert e (some type) none true =>
    type.newlinesFrom.before (by decide) |>.behind (by decide) |>.append e.newlinesFrom
      |>.behind (by decide)
  | .convert e (some type) (some charset) _ =>
    e.newlinesFrom.before (by decide) |>.behind (by decide) |>.append type.newlinesFrom
      |>.behind (by decide) |>.append (newlinesFrom_names charset) |>.behind (by decide)
  | .collate e collation =>
    e.newlinesFrom.behind (by decide) |>.append (newlinesFrom_names collation)
  | .atTimeZone e _ => e.newlinesFrom.behind (by decide) |>.append .part |>.behind (by decide)
  | .interval e unit => e.newlinesFrom.before (by decide) |>.behind unit.not_hasNewline
  | .extract field e =>
    e.newlinesFrom.before (not_hasNewline_append (not_hasNewline_append (by decide)
      field.not_hasNewline) (by decide)) |>.behind (by decide)
  | .round way e none =>
    e.newlinesFrom.before (by cases way <;> decide) |>.behind (by decide)
  | .round way e (some field) =>
    e.newlinesFrom.before (by cases way <;> decide) |>.behind (by decide)
      |>.behind field.not_hasNewline |>.behind (by decide)
  | .position e inside =>
    e.newlinesFrom.before (by decide) |>.behind (by decide) |>.append inside.newlinesFrom
      |>.behind (by decide)
  | .substring e start count commas =>
    e.newlinesFrom.before (by decide)
      |>.append (newlinesFrom_option start (by cases commas <;> decide))
      |>.append (newlinesFrom_option count (by cases commas <;> decide)) |>.behind (by decide)
  | .trim side what e characters => by
    have hwhat : NewlinesFrom (Expr.renderOption "" what) (Expr.partsOption what) :=
      newlinesFrom_option what (by decide)
    have he := e.newlinesFrom
    have hcharacters := newlinesFrom_exprs characters
    rw [Expr.render_trim]
    refine .behind (.append (.append (.before ?_ ?_) he)
      (newlinesFrom_clause (by decide) hcharacters)) (by decide)
    · cases side with
      | none => decide
      | some k =>
        exact not_hasNewline_append (by decide)
          (not_hasNewline_append k.not_hasNewline (by decide))
    · cases what with
      | none => exact newlinesFrom_nothing
      | some w => exact w.newlinesFrom.behind (by decide)
  | .overlay e what start count =>
    e.newlinesFrom.before (by decide) |>.behind (by decide) |>.append what.newlinesFrom
      |>.behind (by decide) |>.append start.newlinesFrom
      |>.append (newlinesFrom_option count (by decide)) |>.behind (by decide)
  | .field e key => e.newlinesFrom.behind (by decide) |>.append key.newlinesFrom
  | .mapAccess e keys => e.newlinesFrom.append (newlinesFrom_keys keys)
  | .index e indexes => e.newlinesFrom.append (newlinesFrom_indexes indexes)
  | .call name style arguments orderBy filter window => by
    have harguments := newlinesFrom_commaList (newlinesFrom_arguments arguments)
    have horder := newlinesFrom_orderings orderBy
    have hfilter : NewlinesFrom (Expr.renderOption " FILTER (WHERE " filter)
      (Expr.partsOption filter) := newlinesFrom_option filter (by decide)
    have hwindow := window.newlinesFrom
    rw [Expr.render_call, Expr.parts]
    split
    · exact newlinesFrom_names name
    · refine .append (.behind (.append (.behind (.append (.append
        (.behind (.behind (newlinesFrom_names name) (by decide)) ?_) harguments)
        (newlinesFrom_clause (by decide) horder)) (by decide)) ?_)
        style.not_hasNewline_nullWords) hwindow
      · split <;> decide
      · cases filter with
        | none => exact newlinesFrom_nothing
        | some f => exact hfilter.behind (by decide)
  | .listAgg distinct e separator overflow filler withinGroup => by
    have hstart : NewlinesFrom
        ("LISTAGG(" ++ (if distinct then "DISTINCT " else "") ++ e.render ++
          Expr.renderOption ", " separator)
        (e.parts ++ Expr.partsOption separator) :=
      e.newlinesFrom.before (by cases distinct <;> decide)
        |>.append (newlinesFrom_option separator (by decide))
    have hfiller : NewlinesFrom (Expr.renderOption " " filler) (Expr.partsOption filler) :=
      newlinesFrom_option filler (by decide)
    have hgroup := newlinesFrom_groupClause (newlinesFrom_orderings withinGroup)
    rw [Expr.render_listAgg]
    cases overflow with
    | unspecified =>
      exact hstart.append newlinesFrom_nothing |>.behind (by decide) |>.append hgroup
    | error =>
      have hwords : NewlinesFrom " ON OVERFLOW ERROR" [] := .word (by decide)
      exact hstart.append hwords |>.behind (by decide) |>.append hgroup
    | truncate withCount =>
      refine hstart.append ?_ |>.behind (by decide) |>.append hgroup
      exact hfiller.before (by decide) |>.behind (by cases withCount <;> decide)
  | .arrayAgg distinct e orderBy limit false => by
    have he := e.newlinesFrom
    have horder := newlinesFrom_orderings orderBy
    have hlimit : NewlinesFrom (Expr.renderOption " LIMIT " limit) (Expr.partsOption limit) :=
      newlinesFrom_option limit (by decide)
    rw [Expr.render_arrayAgg]
    exact .behind (.append (.append (.before (by cases distinct <;> decide) he)
      (newlinesFrom_clause (by decide) horder)) hlimit) (by decide)
  | .arrayAgg distinct e orderBy _ true => by
    have he := e.newlinesFrom
    have hgroup := newlinesFrom_groupClause (newlinesFrom_orderings orderBy)
    rw [Expr.render_arrayAgg_group]
    exact he.before (by cases distinct <;> decide) |>.behind (by decide) |>.append hgroup
  | .filtered e filter =>
    e.newlinesFrom.behind (by decide) |>.append filter.newlinesFrom |>.behind (by decide)
  | .caseOf operand conditions results otherwise =>
    (newlinesFrom_option operand (by decide)).before (by decide)
      |>.append (newlinesFrom_branchWords (newlinesFrom_exprs conditions)
        (newlinesFrom_exprs results))
      |>.append (newlinesFrom_option otherwise (by decide)) |>.behind (by decide)
  | .grouping op sets =>
    (newlinesFrom_commaList (newlinesFrom_sets _ sets)).before (by cases op <;> decide)
      |>.behind (by decide)
  | .existsQuery negated q =>
    q.newlinesFrom.before (by cases negated <;> decide) |>.behind (by decide)
  | .subquery q => q.newlinesFrom.before (by decide) |>.behind (by decide)
  | .arrayQuery q => q.newlinesFrom.before (by decide) |>.behind (by decide)
  | .matchAgainst columns value modifier => by
    refine .behind (.behind (.append (.behind (.before (by decide)
      (newlinesFrom_joined (by decide) columns)) (by decide)) value.newlinesFrom) ?_) (by decide)
    cases modifier with
    | none => decide
    | some m => cases m <;> decide

theorem newlinesFrom_exprs :
    (es : List Expr) → List.Forall₂ NewlinesFrom (Expr.renderList es) (Expr.partsList es)
  | [] => .nil
  | e :: es => .cons e.newlinesFrom (newlinesFrom_exprs es)

theorem newlinesFrom_option {words : String} :
    (o : Option Expr) → ¬HasNewline words →
      NewlinesFrom (Expr.renderOption words o) (Expr.partsOption o)
  | none, _ => newlinesFrom_nothing
  | some e, h => e.newlinesFrom.before h

theorem newlinesFrom_keys :
    (es : List Expr) → NewlinesFrom (Expr.renderKeys es) (Expr.partsList es).flatten
  | [] => .word (by decide)
  | e :: es =>
    (newlinesFrom_keyWords e.newlinesFrom).before (by decide) |>.behind (by decide)
      |>.append (newlinesFrom_keys es)

theorem newlinesFrom_indexes :
    (es : List Expr) → NewlinesFrom (Expr.renderIndexes es) (Expr.partsList es).flatten
  | [] => .word (by decide)
  | e :: es =>
    e.newlinesFrom.before (by decide) |>.behind (by decide) |>.append (newlinesFrom_indexes es)

theorem newlinesFrom_sets (always : Bool) : (sets : List (List Expr)) →
    List.Forall₂ NewlinesFrom (Expr.renderSets always sets) (Expr.partsSets sets)
  | [] => .nil
  | set :: sets =>
    .cons (newlinesFrom_groupWords always (newlinesFrom_exprs set)) (newlinesFrom_sets always sets)

theorem newlinesFrom_rows {word : String} : (rows : List (List Expr)) → ¬HasNewline word →
    List.Forall₂ NewlinesFrom (Expr.renderRows word rows) (Expr.partsSets rows)
  | [], _ => .nil
  | row :: rows, h =>
    .cons ((newlinesFrom_commaList (newlinesFrom_exprs row)).before
      (not_hasNewline_append h (by decide)) |>.behind (by decide)) (newlinesFrom_rows rows h)

theorem Ordering.newlinesFrom : (o : Ordering) → NewlinesFrom o.render o.parts
  | ⟨e, ascending, nullsFirst⟩ =>
    e.newlinesFrom.behind (not_hasNewline_orderWords ascending nullsFirst)

theorem newlinesFrom_orderings : (os : List Ordering) →
    List.Forall₂ NewlinesFrom (Ordering.renderList os) (Ordering.partsList os)
  | [] => .nil
  | o :: os => .cons o.newlinesFrom (newlinesFrom_orderings os)

theorem Argument.newlinesFrom : (a : Argument) → NewlinesFrom a.render a.parts
  | .value parameter e => (newlinesFrom_parameterWords parameter).append e.newlinesFrom
  | .star parameter => (newlinesFrom_parameterWords parameter).behind (by decide)
  | .qualifiedStar parameter names =>
    (newlinesFrom_parameterWords parameter).append (newlinesFrom_names names)
      |>.behind (by decide)

theorem newlinesFrom_arguments : (arguments : List Argument) →
    List.Forall₂ NewlinesFrom (Argument.renderList arguments) (Argument.partsList arguments)
  | [] => .nil
  | a :: rest => .cons a.newlinesFrom (newlinesFrom_arguments rest)

theorem Window.newlinesFrom : (w : Window) → NewlinesFrom w.render w.parts
  | .unwindowed => newlinesFrom_nothing
  | .named name => name.newlinesFrom.before (by decide)
  | .spec partitionBy orderBy frame => by
    have hpartition := newlinesFrom_exprs partitionBy
    have horder := newlinesFrom_orderings orderBy
    have hframe := newlinesFrom_phrase frame
    rw [Window.render_spec]
    exact .behind (.before (by decide) (newlinesFrom_blanks
      (.cons (newlinesFrom_clause (by decide) hpartition)
        (.cons (newlinesFrom_clause (by decide) horder) (.cons hframe .nil))))) (by decide)

/-- The newlines of the canonical text of a query are those of its parts. -/
theorem Query.newlinesFrom : (q : Query) → NewlinesFrom q.render q.parts
  | ⟨common, body, tail⟩ =>
    (newlinesFrom_phrase common).append body.newlinesFrom |>.append (newlinesFrom_phrase tail)

theorem Body.newlinesFrom : (b : Body) → NewlinesFrom b.render b.parts
  | .select head sources views condition tail => by
    have hsources := newlinesFrom_sources sources
    rw [Body.render_select]
    exact .append (.append (.append (.append (newlinesFrom_phrase head)
      (newlinesFrom_clause (by decide) hsources)) (newlinesFrom_phrase views))
      (newlinesFrom_option condition (by decide))) (newlinesFrom_phrase tail)
  | .query q => q.newlinesFrom.before (by decide) |>.behind (by decide)
  | .combined left op quantifier right =>
    left.newlinesFrom.behind (by decide) |>.behind (by cases op <;> decide)
      |>.behind (by cases quantifier <;> decide) |>.behind (by decide) |>.append right.newlinesFrom
  | .values explicitRow rows =>
    (newlinesFrom_commaList (newlinesFrom_rows rows (by cases explicitRow <;> decide))).before
      (by decide)
  | .table none _ => .before (by decide) .part
  | .table (some _) _ => .append (.behind (.before (by decide) .part) (by decide)) .part
  | .change phrase => newlinesFrom_phrase phrase

theorem Source.newlinesFrom : (s : Source) → NewlinesFrom s.render s.parts
  | ⟨_, relation, joins⟩ => (newlinesFrom_phrase relation).append (newlinesFrom_phrase joins)

theorem newlinesFrom_sources : (sources : List Source) →
    List.Forall₂ NewlinesFrom (Source.renderList sources) (Source.partsList sources)
  | [] => .nil
  | s :: rest => .cons s.newlinesFrom (newlinesFrom_sources rest)

theorem Piece.newlinesFrom : (p : Piece) → NewlinesFrom p.render p.parts
  | .word _ => .part
  | .names separator names => .intersperse separator (NewlinesFrom.each Name.newlinesFrom names)
  | .literal value => value.newlinesFrom
  | .type type => type.newlinesFrom
  | .text writing text => newlinesFrom_writing writing text
  | .expr e => e.newlinesFrom
  | .query q => q.newlinesFrom

/-- The newlines of the canonical text of a phrase are those of its parts. -/
theorem newlinesFrom_phrase : (phrase : List Piece) →
    NewlinesFrom (Piece.renderList phrase) (Piece.partsList phrase)
  | [] => newlinesFrom_nothing
  | p :: ps => p.newlinesFrom.append (newlinesFrom_phrase ps)

end

end QueryAudit.Sql

namespace QueryAudit

/-- The canonical text of a selection has a newline if and only if a part of its statement has
    one. -/
theorem hasNewline_render_iff (s : Selection) :
    HasNewline s.render ↔ ∃ t ∈ s.query.parts, HasNewline t :=
  s.query.newlinesFrom

end QueryAudit
