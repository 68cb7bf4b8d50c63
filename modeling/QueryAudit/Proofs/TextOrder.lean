import QueryAudit.Proofs.ColumnMarks
import QueryAudit.Proofs.ColumnSearch

/-!
# Columns in the order of the text

The walk over an expression finds its columns in the order in which they stand in the canonical
text. For each kind of expression this says that the expressions inside it are visited in the order
in which they are written. A few kinds do not write all of them: a call without parentheses has no
arguments in its text, and an array that is ordered as a group has no limit in it.
-/

namespace QueryAudit

open Sql

/-! ### The columns of marked clauses -/

namespace Marked

@[simp] theorem columns_joined (separator : String) (ms : List Marked) :
    columns (joined separator ms) = ms.flatMap columns := by
  induction ms with
  | nil => rfl
  | cons m ms ih =>
    cases ms with
    | nil => simp [joined]
    | cons n ms => simp [joined, ih]

@[simp] theorem columns_commas (ms : List Marked) : columns (commas ms) = ms.flatMap columns :=
  columns_joined ", " ms

@[simp] theorem columns_clause (before : String) (ms : List Marked) :
    columns (clause before ms) = ms.flatMap columns := by
  cases ms with
  | nil => rfl
  | cons m ms => simp [clause]

@[simp] theorem columns_groupClause (ms : List Marked) :
    columns (groupClause ms) = ms.flatMap columns := by
  cases ms with
  | nil => rfl
  | cons m ms => simp [groupClause]

@[simp] theorem columns_group (always : Bool) (ms : List Marked) :
    columns (group always ms) = ms.flatMap columns := by
  unfold group
  split
  · split <;> simp
  · simp

@[simp] theorem columns_wordsOrNone (w : String) : columns (wordsOrNone w) = [] := by
  unfold wordsOrNone
  split <;> rfl

@[simp] theorem columns_blanks (ms : List Marked) :
    columns (blanks ms) = ms.flatMap columns := by
  rw [blanks, columns_joined]
  induction ms with
  | nil => rfl
  | cons m ms ih =>
    by_cases hm : m = []
    · subst hm
      exact ih
    · simp only [List.filter_cons, hm, ne_eq, not_false_eq_true, decide_true, if_true,
        List.flatMap_cons, ih]

end Marked

namespace Sql

open Marked

/-- The columns of an expression in the order of its canonical text. -/
def Expr.shownColumns (e : Expr) : List String :=
  Marked.columns e.marked

@[simp] theorem columns_marked (e : Expr) : Marked.columns e.marked = e.shownColumns := rfl

@[simp] theorem columns_exprs (es : List Expr) :
    (Expr.markedList es).flatMap Marked.columns = es.flatMap Expr.shownColumns := by
  induction es with
  | nil => rfl
  | cons e es ih => rw [Expr.markedList, List.flatMap_cons, List.flatMap_cons, ih, columns_marked]

@[simp] theorem columns_option (before : String) (o : Option Expr) :
    Marked.columns (Expr.markedOption before o) = o.toList.flatMap Expr.shownColumns := by
  cases o with
  | none => rfl
  | some e => simp [Expr.markedOption]

@[simp] theorem columns_keyMarks (e : Expr) :
    Marked.columns (keyMarks e.marked e) = e.shownColumns := by
  unfold keyMarks
  split <;> rfl

@[simp] theorem columns_keys (es : List Expr) :
    Marked.columns (Expr.markedKeys es) = es.flatMap Expr.shownColumns := by
  induction es with
  | nil => rfl
  | cons e es ih => simp [Expr.markedKeys, ih]

@[simp] theorem columns_indexes (es : List Expr) :
    Marked.columns (Expr.markedIndexes es) = es.flatMap Expr.shownColumns := by
  induction es with
  | nil => rfl
  | cons e es ih => simp [Expr.markedIndexes, ih]

@[simp] theorem columns_sets (always : Bool) (sets : List (List Expr)) :
    (Expr.markedSets always sets).flatMap Marked.columns =
      sets.flatten.flatMap Expr.shownColumns := by
  induction sets with
  | nil => rfl
  | cons set sets ih =>
    rw [Expr.markedSets, List.flatMap_cons, columns_group, columns_exprs, ih, List.flatten_cons,
      List.flatMap_append]

@[simp] theorem columns_branches (cs rs : List Expr) :
    Marked.columns (Marked.branches (Expr.markedList cs) (Expr.markedList rs)) =
      (branches cs rs).flatMap Expr.shownColumns := by
  induction cs generalizing rs with
  | nil => rfl
  | cons c cs ih =>
    cases rs with
    | nil => rfl
    | cons r rs => simp [Expr.markedList, Marked.branches, branches, ih]

@[simp] theorem columns_orderings (os : List Ordering) :
    (Ordering.markedList os).flatMap Marked.columns =
      (Ordering.exprs os).flatMap Expr.shownColumns := by
  induction os with
  | nil => rfl
  | cons o os ih =>
    obtain ⟨e, ascending, nullsFirst⟩ := o
    rw [Ordering.markedList, List.flatMap_cons, ih, Ordering.marked, columns_append,
      columns_words, List.append_nil]
    rfl

@[simp] theorem columns_arguments (arguments : List Argument) :
    (Argument.markedList arguments).flatMap Marked.columns =
      (Argument.exprs arguments).flatMap Expr.shownColumns := by
  induction arguments with
  | nil => rfl
  | cons a rest ih => cases a <;> simp [Argument.markedList, Argument.marked, Argument.exprs, ih]

@[simp] theorem columns_window (w : Window) :
    Marked.columns w.marked = w.exprs.flatMap Expr.shownColumns := by
  cases w with
  | spec partitionBy orderBy frame => simp [Window.marked, Window.exprs]
  | _ => rfl

theorem columns_names (names : List Name) :
    (names.map fun name => column name.render).flatMap Marked.columns =
      names.map Name.render := by
  induction names with
  | nil => rfl
  | cons name names ih => exact congrArg (name.render :: ·) ih

/-! ### The columns that are shown -/

/-- Whether the canonical text of an expression shows all expressions directly inside it. A call
    without parentheses shows none, and an array that is ordered as a group does not show its
    limit. What fills up a concatenation belongs to cutting it off. -/
def Expr.ShowsAll : Expr → Prop
  | .call _ style arguments orderBy filter window =>
    style.bare = true → arguments = [] ∧ orderBy = [] ∧ filter = none ∧ window = .unwindowed
  | .arrayAgg _ _ _ limit withinGroup => withinGroup = true → limit = none
  | .listAgg _ _ _ overflow filler _ => filler = none ∨ ∃ withCount, overflow = .truncate withCount
  | _ => True

/-- An expression shows its own columns and those of the expressions inside it, in order. -/
theorem Expr.shownColumns_eq {e : Expr} (h : e.ShowsAll) :
    e.shownColumns = ownColumns e ++ e.children.flatMap Expr.shownColumns := by
  rw [Expr.shownColumns]
  -- only the expressions that may leave something unwritten need what is known of them
  cases e with
  | call name style arguments orderBy filter window =>
    rw [Expr.marked_call]
    split
    · next hbare =>
      obtain ⟨rfl, rfl, rfl, rfl⟩ := h hbare
      rfl
    · cases filter <;> simp [Expr.children, ownColumns]
  | arrayAgg distinct e orderBy limit withinGroup =>
    cases withinGroup with
    | false => simp [Expr.marked, Expr.children, ownColumns]
    | true =>
      obtain rfl := h rfl
      simp [Expr.marked, Expr.children, ownColumns]
  | listAgg distinct e separator overflow filler withinGroup =>
    rcases h with rfl | ⟨withCount, rfl⟩
    · cases overflow <;> simp [Expr.marked, Expr.children, ownColumns]
    · simp [Expr.marked, Expr.children, ownColumns]
  | trim side what e characters => cases what <;> simp [Expr.marked, Expr.children, ownColumns]
  | convert e type charset typeFirst =>
    cases type <;> cases charset <;> cases typeFirst <;>
      simp [Expr.marked, Expr.children, ownColumns]
  | round way e field => cases field <;> simp [Expr.marked, Expr.children, ownColumns]
  | unary op e => cases op <;> simp [Expr.marked, Expr.children, ownColumns]
  | document left op right => cases op <;> simp [Expr.marked, Expr.children, ownColumns]
  | matchAgainst columns value modifier =>
    simp [Expr.marked, Expr.children, ownColumns, columns_names]
  | _ => simp [Expr.marked, Expr.children, ownColumns]

/-! ### Blotting out and the walk -/

theorem blankedList_eq_map (es : List Expr) : Expr.blankedList es = es.map Expr.blanked := by
  induction es with
  | nil => rfl
  | cons e es ih => rw [Expr.blankedList, ih, List.map_cons]

theorem blankedOption_eq_map (o : Option Expr) : Expr.blankedOption o = o.map Expr.blanked := by
  cases o <;> rfl

theorem exprs_blanked_orderings (os : List Ordering) :
    Ordering.exprs (Ordering.blankedList os) = (Ordering.exprs os).map Expr.blanked := by
  induction os with
  | nil => rfl
  | cons o os ih =>
    obtain ⟨e, ascending, nullsFirst⟩ := o
    exact congrArg (e.blanked :: ·) ih

theorem exprs_blanked_arguments (arguments : List Argument) :
    Argument.exprs (Argument.blankedList arguments) =
      (Argument.exprs arguments).map Expr.blanked := by
  induction arguments with
  | nil => rfl
  | cons a rest ih =>
    cases a with
    | value parameter e => exact congrArg (e.blanked :: ·) ih
    | _ => exact ih

theorem exprs_blanked_window (w : Window) : w.blanked.exprs = w.exprs.map Expr.blanked := by
  cases w with
  | spec partitionBy orderBy frame =>
    simp [Window.blanked, Window.exprs, blankedList_eq_map, exprs_blanked_orderings]
  | _ => rfl

theorem branches_blanked (cs rs : List Expr) :
    branches (cs.map Expr.blanked) (rs.map Expr.blanked) = (branches cs rs).map Expr.blanked := by
  induction cs generalizing rs with
  | nil => rfl
  | cons c cs ih =>
    cases rs with
    | nil => rfl
    | cons r rs => simp [branches, ih]

theorem flatten_blankedSets (sets : List (List Expr)) :
    (Expr.blankedSets sets).flatten = sets.flatten.map Expr.blanked := by
  induction sets with
  | nil => rfl
  | cons set sets ih =>
    rw [Expr.blankedSets, List.flatten_cons, List.flatten_cons, List.map_append, ih,
      blankedList_eq_map]

/-- The walk goes the same way whatever the columns are. -/
theorem Expr.children_blanked (e : Expr) : e.blanked.children = e.children.map Expr.blanked := by
  cases e with
  | tuple items | array _ items | struct items _ => exact blankedList_eq_map items
  | inList e _ items | mapAccess e items | index e items =>
    exact congrArg (e.blanked :: ·) (blankedList_eq_map items)
  | substring | trim | overlay | call | listAgg | arrayAgg | caseOf | grouping =>
    simp [Expr.blanked, Expr.children, blankedList_eq_map, blankedOption_eq_map,
      exprs_blanked_orderings, exprs_blanked_arguments, exprs_blanked_window, branches_blanked,
      flatten_blankedSets, Option.toList_map]
  | _ => rfl

theorem Expr.showsAll_blanked (e : Expr) : e.blanked.ShowsAll ↔ e.ShowsAll := by
  cases e with
  | call name style arguments orderBy filter window =>
    cases arguments <;> cases orderBy <;> cases filter <;> cases window <;>
      simp [Expr.blanked, Expr.ShowsAll, Argument.blankedList, Ordering.blankedList,
        Expr.blankedOption, Window.blanked]
  | arrayAgg distinct e orderBy limit withinGroup =>
    simp [Expr.blanked, Expr.ShowsAll, blankedOption_eq_map]
  | listAgg distinct e separator overflow filler withinGroup =>
    simp [Expr.blanked, Expr.ShowsAll, blankedOption_eq_map]
  | _ => exact Iff.rfl

/-- An expression whose canonical text shows all expressions inside it, at any depth. -/
inductive Expr.Shown : Expr → Prop
  | intro {e : Expr} (here : e.ShowsAll) (inside : ∀ c ∈ e.children, c.Shown) : e.Shown

theorem Expr.Shown.of_children_nil {e : Expr} (here : e.ShowsAll) (h : e.children = []) :
    e.Shown :=
  .intro here (by rw [h]; exact nofun)

theorem Expr.Shown.blanked {e : Expr} (h : e.Shown) : e.blanked.Shown := by
  induction h with
  | @intro e here _ ih =>
    refine .intro (e.showsAll_blanked.mpr here) fun c hc => ?_
    rw [e.children_blanked] at hc
    obtain ⟨c, hmem, rfl⟩ := List.mem_map.mp hc
    exact ih c hmem

theorem Expr.Shown.of_blanked {b : Expr} (h : b.Shown) {e : Expr} (he : e.blanked = b) :
    e.Shown := by
  induction h generalizing e with
  | intro here _ ih =>
    subst he
    refine .intro (e.showsAll_blanked.mp here) fun c hc => ih c.blanked ?_ rfl
    rw [e.children_blanked]
    exact List.mem_map_of_mem hc

/-- An expression shows the columns that the walk finds, in the order of the walk. -/
theorem Expr.Shown.shownColumns {e : Expr} (h : e.Shown) :
    e.shownColumns = columns (some e) := by
  induction h with
  | @intro e here _ ih =>
    have hinside : e.children.flatMap Expr.shownColumns =
        e.children.flatMap (addColumns []) := List.flatMap_congr ih
    rw [Expr.shownColumns_eq here, hinside, columns, addColumns_nil]

end Sql

/-- Let the canonical text of an expression show all expressions inside it. Then some words make
    up the canonical text of every expression that is the same but for its columns, if the columns
    that the walk finds are put between them in the order of the walk. So the place of a column of
    the walk is the one at which this column is written, and the text changes there alone if the
    column is another one. In the text of the expression itself each column stands at its place,
    and it ends before the place of the next one. -/
theorem columns_in_text_order (e : Expr) (h : e.Shown) :
    ∃ before gaps,
      (∀ e', e'.blanked = e.blanked → gaps.length = (columns (some e')).length ∧
        e'.render = woven before (columns (some e')) gaps) ∧
      (∀ i c, (columns (some e))[i]? = some c →
        StandsAt c (placeOf before (columns (some e)) gaps i) e.render) ∧
      (∀ i j c, i < j → j < (columns (some e)).length → (columns (some e))[i]? = some c →
        placeOf before (columns (some e)) gaps i + c.length <
          placeOf before (columns (some e)) gaps j) := by
  have hwoven : ∀ e' : Expr, e'.blanked = e.blanked →
      (Marked.gaps e.marked).length = (columns (some e')).length ∧
        e'.render = woven (Marked.before e.marked) (columns (some e')) (Marked.gaps e.marked) := by
    intro e' he
    have hcolumns := (h.blanked.of_blanked he).shownColumns
    -- the gaps and what is before them are the same if only columns differ, so they fit both
    have hmarks : Marked.blanked e'.marked = Marked.blanked e.marked := by
      rw [e'.shows.blanked_eq, e.shows.blanked_eq, he]
    rw [← Marked.gaps_blanked e.marked, ← Marked.before_blanked e.marked, ← hmarks,
      Marked.gaps_blanked, Marked.before_blanked, ← hcolumns, ← e'.shows.text_eq]
    exact ⟨Marked.length_gaps e'.marked, Marked.text_eq_woven e'.marked⟩
  obtain ⟨hlen, htext⟩ := hwoven e rfl
  refine ⟨Marked.before e.marked, Marked.gaps e.marked, hwoven, fun i c hc => ?_, ?_⟩
  · rw [htext]
    exact standsAt_woven hlen hc
  · intro i j c hij hj hc
    exact placeOf_lt hlen e.shows.spaced.gap_ne hij hj hc

/-- A sum over a window, with a column trimmed off. -/
def trimmedSum : Expr :=
  .trim none (some (.column ⟨"b", none⟩))
    (.call [⟨"sum", none⟩] {} [.value none (.path [⟨"t", none⟩, ⟨"a", none⟩])] []
      (some (.column ⟨"f", none⟩)) (.spec [] [⟨.column ⟨"k", none⟩, none, none⟩] [])) []

theorem shown_trimmedSum : trimmedSum.Shown := by
  have hcolumn (name : Name) : (Expr.column name).Shown := .of_children_nil trivial rfl
  have hpath (names : List Name) : (Expr.path names).Shown := .of_children_nil trivial rfl
  refine .intro trivial fun c hc => ?_
  simp only [trimmedSum, Expr.children, Option.toList_some, List.singleton_append, List.mem_cons,
    List.not_mem_nil, or_false] at hc
  rcases hc with rfl | rfl
  · exact hcolumn _
  · refine .intro (fun h => absurd h Bool.false_ne_true) fun c hc => ?_
    simp only [Expr.children, Argument.exprs, Ordering.exprs, Window.exprs, List.map_nil,
      List.map_cons, Option.toList_some, List.nil_append, List.append_nil, List.cons_append,
      List.mem_cons, List.not_mem_nil, or_false] at hc
    rcases hc with rfl | rfl | rfl
    · exact hpath _
    · exact hcolumn _
    · exact hcolumn _

/-- What is trimmed off is written first, and a filter before the keys of a window. -/
theorem columns_in_text_order_of_trimmedSum :
    trimmedSum.Shown ∧
      trimmedSum.render = "TRIM(b FROM sum(t.a) FILTER (WHERE f) OVER (ORDER BY k))" ∧
      ∃ before gaps, trimmedSum.render = woven before ["b", "t.a", "f", "k"] gaps ∧
        StandsAt "t.a" (placeOf before ["b", "t.a", "f", "k"] gaps 1) trimmedSum.render ∧
        placeOf before ["b", "t.a", "f", "k"] gaps 1 + 3 <
          placeOf before ["b", "t.a", "f", "k"] gaps 2 := by
  have hcolumns : columns (some trimmedSum) = ["b", "t.a", "f", "k"] :=
    shown_trimmedSum.shownColumns.symm.trans (by decide +kernel)
  obtain ⟨before, gaps, hwoven, hstands, hlt⟩ := columns_in_text_order trimmedSum shown_trimmedSum
  have htext := (hwoven trimmedSum rfl).2
  rw [hcolumns] at htext hstands hlt
  exact ⟨shown_trimmedSum, by decide +kernel, before, gaps, htext, hstands 1 "t.a" rfl,
    hlt 1 2 "t.a" (by decide) (by decide) rfl⟩

end QueryAudit
