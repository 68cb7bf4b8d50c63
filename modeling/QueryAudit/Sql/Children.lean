import QueryAudit.Sql.Syntax

/-!
# The expressions inside an expression

The direct parts of an expression that are expressions themselves, in the order in which they stand
in its text. Queries inside an expression are statements of their own and are not looked into.
-/

namespace QueryAudit.Sql

def Ordering.exprs (os : List Ordering) : List Expr :=
  os.map Ordering.e

/-- The expressions among arguments. -/
def Argument.exprs : List Argument → List Expr
  | [] => []
  | .value _ e :: rest => e :: Argument.exprs rest
  | _ :: rest => Argument.exprs rest

def Window.exprs : Window → List Expr
  | .spec partitionBy orderBy _ => partitionBy ++ Ordering.exprs orderBy
  | _ => []

/-- Conditions and results of a choice in turn. -/
def branches : List Expr → List Expr → List Expr
  | c :: cs, r :: rs => c :: r :: branches cs rs
  | _, _ => []

/-- The expressions directly inside an expression, in the order of the text. -/
def Expr.children : Expr → List Expr
  | .column _ | .path _ | .matchAgainst _ _ _ => []
  | .literal _ | .introduced _ _ | .typed _ _ | .star | .qualifiedStar _ => []
  | .existsQuery _ _ | .subquery _ | .arrayQuery _ => []
  | .nested e | .named e _ | .unary _ e | .truth e _ _ | .inQuery e _ _ | .cast _ e _ _
  | .convert e _ _ _ | .collate e _ | .atTimeZone e _ | .interval e _ | .extract _ e
  | .round _ e _ | .field e _ => [e]
  | .binary l _ r | .quantified l _ _ r | .document l _ r | .distinct l _ r | .inUnnest l _ r
  | .pattern l _ _ r _ | .position l r | .filtered l r => [l, r]
  | .between e _ low high => [e, low, high]
  | .tuple items | .array _ items | .struct items _ => items
  | .inList e _ items | .mapAccess e items | .index e items => e :: items
  | .substring e start count _ => e :: (start.toList ++ count.toList)
  | .trim _ what e characters => what.toList ++ e :: characters
  | .overlay e what start count => e :: what :: start :: count.toList
  | .call _ _ arguments orderBy filter window =>
    Argument.exprs arguments ++ Ordering.exprs orderBy ++ filter.toList ++ window.exprs
  | .listAgg _ e separator _ filler withinGroup =>
    e :: (separator.toList ++ filler.toList ++ Ordering.exprs withinGroup)
  | .arrayAgg _ e orderBy limit _ => e :: (Ordering.exprs orderBy ++ limit.toList)
  | .caseOf operand conditions results otherwise =>
    operand.toList ++ branches conditions results ++ otherwise.toList
  | .grouping _ sets => sets.flatten

/-- A list to order by is larger than its expressions. -/
theorem Ordering.sizeOf_lt_of_mem_exprs {e : Expr} {os : List Ordering}
    (h : e ∈ Ordering.exprs os) : sizeOf e < sizeOf os := by
  obtain ⟨o, ho, rfl⟩ := List.mem_map.1 h
  have := List.sizeOf_lt_of_mem ho
  cases o; simp at *; omega

/-- A list of arguments is larger than its expressions. -/
theorem Argument.sizeOf_lt_of_mem_exprs {e : Expr} {as : List Argument}
    (h : e ∈ Argument.exprs as) : sizeOf e < sizeOf as := by
  induction as with
  | nil => simp [Argument.exprs] at h
  | cons a as ih =>
    cases a with
    | value p x =>
      rcases List.mem_cons.1 h with rfl | h
      · simp; omega
      · have := ih h; simp; omega
    | star p => have := ih h; simp; omega
    | qualifiedStar p ns => have := ih h; simp; omega

/-- A window is larger than its keys. -/
theorem Window.sizeOf_lt_of_mem_exprs {e : Expr} {w : Window} (h : e ∈ w.exprs) :
    sizeOf e < sizeOf w := by
  cases w with
  | spec partitionBy orderBy frame =>
    rcases List.mem_append.1 h with h | h
    · have := List.sizeOf_lt_of_mem h; simp; omega
    · have := Ordering.sizeOf_lt_of_mem_exprs h; simp; omega
  | _ => simp [Window.exprs] at h

/-- Conditions and results together are larger than each of them. -/
theorem sizeOf_lt_of_mem_branches {e : Expr} : {cs rs : List Expr} → e ∈ branches cs rs →
    sizeOf e < sizeOf cs + sizeOf rs
  | [], _, h => by simp [branches] at h
  | _ :: _, [], h => by simp [branches] at h
  | c :: cs, r :: rs, h => by
    simp only [branches, List.mem_cons] at h
    rcases h with rfl | rfl | h
    · simp; omega
    · simp; omega
    · have := sizeOf_lt_of_mem_branches h; simp; omega

/-- An optional expression is larger than the expression in it. -/
theorem sizeOf_lt_of_mem_toList {e : Expr} {o : Option Expr} (h : e ∈ o.toList) :
    sizeOf e < sizeOf o := by
  cases o with
  | none => simp at h
  | some x => simp at h; subst h; simp

/-- Lists of expressions are larger than each expression in one of them. -/
theorem sizeOf_lt_of_mem_flatten {e : Expr} {sets : List (List Expr)} (h : e ∈ sets.flatten) :
    sizeOf e < sizeOf sets := by
  obtain ⟨s, hs, he⟩ := List.mem_flatten.1 h
  have := List.sizeOf_lt_of_mem hs
  have := List.sizeOf_lt_of_mem he
  omega

/-- An expression is larger than those inside it. -/
theorem Expr.sizeOf_lt_of_mem_children {c e : Expr} (h : c ∈ e.children) : sizeOf c < sizeOf e := by
  have list (xs : List Expr) (h : c ∈ xs) := List.sizeOf_lt_of_mem h
  have option (o : Option Expr) (h : c ∈ o.toList) := sizeOf_lt_of_mem_toList h
  have order (os : List Ordering) (h : c ∈ Ordering.exprs os) := Ordering.sizeOf_lt_of_mem_exprs h
  have args (as : List Argument) (h : c ∈ Argument.exprs as) := Argument.sizeOf_lt_of_mem_exprs h
  have window (w : Window) (h : c ∈ w.exprs) := Window.sizeOf_lt_of_mem_exprs h
  have branch (cs rs : List Expr) (h : c ∈ branches cs rs) := sizeOf_lt_of_mem_branches h
  have sets (ss : List (List Expr)) (h : c ∈ ss.flatten) := sizeOf_lt_of_mem_flatten h
  cases e <;> simp only [children, List.mem_cons, List.mem_append, List.not_mem_nil, or_false] at h
  all_goals grind

end QueryAudit.Sql
