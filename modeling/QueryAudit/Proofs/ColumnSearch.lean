import QueryAudit.Columns
import QueryAudit.Verdict

/-!
# Searching a condition for a column

The walk that collects all columns of a condition, the search that stops at the first column that
passes a test, and the verdict on the columns of a table go through the same columns in the same
order. The walk carries the columns found before, and the search what it came to before, so both
are first freed of what they carry: the walk appends the columns of each expression, and the search
tests them.
-/

namespace QueryAudit

open Sql

/-- The names up to the first that passes a test, and that one too. -/
def upToHit (test : String → Bool) (names : List String) : List String :=
  names.takeWhile (fun name => !test name) ++ (names.find? test).toList

theorem upToHit_cons (test : String → Bool) (name : String) (names : List String) :
    upToHit test (name :: names) = if test name then [name] else name :: upToHit test names := by
  by_cases h : test name <;> simp [upToHit, h]

/-- The names up to the first hit are those at the front. -/
theorem take_length_upToHit (test : String → Bool) (names : List String) :
    names.take (upToHit test names).length = upToHit test names := by
  induction names with
  | nil => rfl
  | cons name names ih =>
    rw [upToHit_cons]
    split
    · rfl
    · rw [List.length_cons, List.take_succ_cons, ih]

/-- There is a hit among the names up to the first one if there is any. -/
theorem any_upToHit (test : String → Bool) (names : List String) :
    (upToHit test names).any test = names.any test := by
  induction names with
  | nil => rfl
  | cons name names ih => by_cases h : test name <;> simp [upToHit_cons, h, ih]

/-! ### The walk -/

/-- Names are added behind those found before: if that holds of each expression it holds of a walk
    over all of them. -/
theorem foldl_addColumns (cs : List Expr)
    (h : ∀ c ∈ cs, ∀ found, addColumns found c = found ++ addColumns [] c) (found : List String) :
    cs.foldl addColumns found = found ++ cs.flatMap (addColumns []) := by
  induction cs generalizing found with
  | nil => simp
  | cons c cs ih =>
    rw [List.foldl_cons, h c List.mem_cons_self, ih fun d hd => h d (List.mem_cons_of_mem _ hd),
      List.flatMap_cons, List.append_assoc]

/-- One step of the walk, without the proofs that it ends. -/
theorem addColumns_eq_foldl (found : List String) (e : Expr) :
    addColumns found e = e.children.foldl addColumns (found ++ ownColumns e) := by
  rw [addColumns]
  exact List.foldl_attach

/-- The walk leaves the columns found before as they are and appends those of the expression. -/
theorem addColumns_eq_append (found : List String) (e : Expr) :
    addColumns found e = found ++ addColumns [] e := by
  -- on the size, since the expressions inside are found in lists of several shapes
  induction hn : sizeOf e using Nat.strongRecOn generalizing found e with
  | ind n ih =>
    have hc : ∀ c ∈ e.children, ∀ found, addColumns found c = found ++ addColumns [] c := by
      intro c hc found
      exact ih _ (hn ▸ Expr.sizeOf_lt_of_mem_children hc) found c rfl
    rw [addColumns_eq_foldl, addColumns_eq_foldl [], foldl_addColumns _ hc, foldl_addColumns _ hc]
    simp

/-- The columns of an expression: its own, then those of the expressions inside it in order. -/
theorem addColumns_nil (e : Expr) :
    addColumns [] e = ownColumns e ++ e.children.flatMap (addColumns []) := by
  rw [addColumns_eq_foldl, foldl_addColumns _ fun c _ found => addColumns_eq_append found c]
  simp

/-! ### The search -/

namespace Search

variable (test : String → Bool)

theorem through_of_hit {s : Search} (h : s.hit.isSome) (names : List String) :
    s.through test names = s := by
  cases names <;> simp [through, h]

/-- Testing two lists is testing one and then the other. -/
theorem through_append (s : Search) (names more : List String) :
    s.through test (names ++ more) = (s.through test names).through test more := by
  induction names generalizing s with
  | nil => rfl
  | cons name names ih =>
    by_cases h : s.hit.isSome
    · rw [through_of_hit test h, through_of_hit test h, through_of_hit test h]
    · rw [List.cons_append, through, if_neg h, ih, through, if_neg h]

/-- What testing names comes to when there was no hit before. -/
theorem through_of_miss {s : Search} (h : s.hit = none) (names : List String) :
    s.through test names = ⟨names.find? test, s.probed ++ upToHit test names⟩ := by
  induction names generalizing s with
  | nil => cases s; simp_all [through, upToHit]
  | cons name names ih =>
    rw [through, if_neg (by simp [h]), upToHit_cons]
    by_cases ht : test name
    · simp only [ht, if_true]
      rw [through_of_hit test (by rfl), List.find?_cons_of_pos ht]
    · simp only [ht, Bool.false_eq_true, if_false]
      rw [ih rfl, List.find?_cons_of_neg ht]
      simp

end Search

variable (test : String → Bool)

/-- If a search in each expression tests its columns, a search in all of them tests all columns. -/
theorem foldl_searchFrom (cs : List Expr)
    (h : ∀ c ∈ cs, ∀ s : Search, searchFrom test s c = s.through test (addColumns [] c))
    (s : Search) :
    cs.foldl (searchFrom test) s = s.through test (cs.flatMap (addColumns [])) := by
  induction cs generalizing s with
  | nil => rfl
  | cons c cs ih =>
    rw [List.foldl_cons, h c List.mem_cons_self, ih fun d hd => h d (List.mem_cons_of_mem _ hd),
      List.flatMap_cons, Search.through_append]

/-- Searching on in an expression is testing its columns in order. -/
theorem searchFrom_eq_through (s : Search) (e : Expr) :
    searchFrom test s e = s.through test (addColumns [] e) := by
  induction hn : sizeOf e using Nat.strongRecOn generalizing s e with
  | ind n ih =>
    have hc : ∀ c ∈ e.children, ∀ s : Search,
        searchFrom test s c = s.through test (addColumns [] c) := by
      intro c hc s
      exact ih _ (hn ▸ Expr.sizeOf_lt_of_mem_children hc) s c rfl
    rw [searchFrom]
    split
    · -- nothing is tested behind a hit
      next h => rw [Search.through_of_hit test h]
    · rw [addColumns_nil, Search.through_append, ← foldl_searchFrom test _ hc]
      exact List.foldl_attach

/-- A search tests the columns of the condition up to the first hit. -/
theorem search_eq (condition : Option Expr) :
    search test condition =
      ⟨(columns condition).find? test, upToHit test (columns condition)⟩ := by
  cases condition with
  | none => rfl
  | some e =>
    rw [search, columns, searchFrom_eq_through, Search.through_of_miss test rfl, List.nil_append]

/-! ### The verdict -/

/-- A table that is not known has no indexed columns. -/
theorem Catalog.columns_lookup_of_not_known {catalog : Catalog} {table : String}
    (h : (catalog.lookup table).known = false) : (catalog.lookup table).columns = [] := by
  unfold Catalog.lookup at h ⊢
  split at h
  · cases h
  · rfl

/-- The columns of a table that is known are looked at up to the first indexed one. -/
theorem Indexes.inspect_eq (indexes : Indexes) (names : List String) :
    indexes.inspect names =
      ⟨if names.any indexes.contains then .covered else .uncovered,
        upToHit indexes.contains names⟩ := by
  induction names with
  | nil => rfl
  | cons name names ih =>
    rw [inspect, upToHit_cons, List.any_cons]
    split
    · next h => rw [h, Bool.true_or, if_pos rfl]
    · next h => rw [ih, Bool.eq_false_iff.mpr h, Bool.false_or]

/-- What looking at columns comes to, by the kind of the table. -/
theorem inspect_eq (catalog : Catalog) (table : String) (names : List String) :
    inspect catalog table names =
      if (catalog.lookup table).known then
        ⟨if names.any (catalog.lookup table).contains then .covered else .uncovered,
          upToHit (catalog.lookup table).contains names⟩
      else ⟨.unknownTable, []⟩ := by
  rw [inspect, Indexes.inspect_eq]

theorem check_eq (catalog : Catalog) (table : String) (names : List String) :
    check catalog table names =
      if (catalog.lookup table).known then
        if names.any (catalog.lookup table).contains then .covered else .uncovered
      else .unknownTable := by
  rw [check, inspect_eq]
  split <;> rfl

theorem examined_eq (catalog : Catalog) (table : String) (names : List String) :
    examined catalog table names =
      if (catalog.lookup table).known then
        (upToHit (catalog.lookup table).contains names).length
      else 0 := by
  rw [examined, inspect_eq]
  split <;> rfl

/-- A statement is covered if one of its columns is indexed; on a table that is not known none
    is. -/
theorem check_eq_covered_iff (catalog : Catalog) (table : String) (names : List String) :
    check catalog table names = .covered ↔
      (names.find? (catalog.lookup table).contains).isSome := by
  rw [List.find?_isSome, ← List.any_eq_true, check_eq]
  cases h : (catalog.lookup table).known with
  | false =>
    have hc := Catalog.columns_lookup_of_not_known h
    simp [Indexes.contains, hc]
  | true => cases names.any (catalog.lookup table).contains <;> simp

/-- The columns that are looked at decide the verdict. -/
theorem check_take_examined (catalog : Catalog) (table : String) (names : List String) :
    check catalog table (names.take (examined catalog table names)) =
      check catalog table names := by
  rw [check_eq, check_eq, examined_eq]
  split
  · rw [take_length_upToHit, any_upToHit]
  · rfl

/-- The search for the first column that passes a test finds the first such column of the whole
    walk and tests exactly the columns up to it. The verdict on the walk is that the statement is
    covered exactly if the search for an indexed column has a hit, and it looks at as many columns
    as that search tests, but at none if the table is not known; those alone decide it. -/
theorem search_agrees (condition : Option Expr) (catalog : Catalog) (table : String) :
    firstColumn? test condition = (columns condition).find? test ∧
    (search test condition).probed =
      (columns condition).takeWhile (fun name => !test name) ++
        ((columns condition).find? test).toList ∧
    (check catalog table (columns condition) = .covered ↔
      (firstColumn? (catalog.lookup table).contains condition).isSome) ∧
    (examined catalog table (columns condition) =
      if (catalog.lookup table).known then
        (search (catalog.lookup table).contains condition).probed.length
      else 0) ∧
    check catalog table ((columns condition).take (examined catalog table (columns condition))) =
      check catalog table (columns condition) := by
  refine ⟨?_, ?_, ?_, ?_, check_take_examined catalog table _⟩
  · rw [firstColumn?, search_eq]
  · rw [search_eq, upToHit]
  · rw [check_eq_covered_iff, firstColumn?, search_eq]
  · rw [examined_eq, search_eq]

end QueryAudit
