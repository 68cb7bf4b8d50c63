import QueryAudit.Proofs.ColumnSearch

/-!
# Catalogs by their records

Records are added to a catalog one at a time, each to the entry of its table. What is known of a
table in the end are the records that name it: it is known if there is one, and its columns are
theirs. So a verdict follows from the records alone, in whatever order and however often they were
given.
-/

namespace QueryAudit

namespace Catalog

/-- Pairs of a table and a column as records. -/
def rows (pairs : List (String × String)) : List (List String) :=
  pairs.map fun p => [p.1, p.2]

/-- The catalog of pairs of a table and a column. -/
def ofPairs (pairs : List (String × String)) : Catalog :=
  pairs.foldl (fun c p => c.add p.1 p.2) {}

/-! ### One record -/

theorem lookup_cons_self (e : Entry) (es : List Entry) :
    lookup ⟨e :: es⟩ e.table = ⟨true, e.columns⟩ := by
  simp [lookup]

theorem lookup_cons_of_ne (e : Entry) {t : String} (h : e.table ≠ t) (es : List Entry) :
    lookup ⟨e :: es⟩ t = lookup ⟨es⟩ t := by
  simp [lookup, h]

/-- A column is added to the entry of its table unless it is there. -/
theorem addTo_cons_self (e : Entry) (column : String) (es : List Entry) :
    ∃ columns, addTo e.table column (e :: es) = ⟨e.table, columns⟩ :: es ∧
      ∀ name, name ∈ columns ↔ column = name ∨ name ∈ e.columns := by
  rw [addTo, if_pos rfl]
  split
  · next hmem =>
    rw [List.contains_iff_mem] at hmem
    refine ⟨e.columns, rfl, fun name => ⟨.inr, ?_⟩⟩
    rintro (rfl | hname)
    · exact hmem
    · exact hname
  · refine ⟨e.columns ++ [column], rfl, fun name => ?_⟩
    rw [List.mem_append, List.mem_singleton, or_comm, eq_comm]

/-- A record makes its table known, and adds its column to those of this table. What is known of
    other tables stays. -/
theorem lookup_add (c : Catalog) (table column t : String) :
    (((c.add table column).lookup t).known = true ↔
      table = t ∨ (c.lookup t).known = true) ∧
    ∀ name, name ∈ ((c.add table column).lookup t).columns ↔
      table = t ∧ column = name ∨ name ∈ (c.lookup t).columns := by
  obtain ⟨es⟩ := c
  rw [add]
  -- only the entry of the table itself changes, or a new one is put behind all entries
  induction es with
  | nil =>
    have hnone : lookup ⟨[]⟩ t = ⟨false, []⟩ := rfl
    rw [addTo, hnone]
    by_cases ht : table = t
    · subst ht
      rw [lookup_cons_self ⟨table, [column]⟩]
      simp [eq_comm]
    · rw [lookup_cons_of_ne ⟨table, [column]⟩ ht, hnone]
      simp [ht]
  | cons e es ih =>
    by_cases he : e.table = table
    · subst he
      obtain ⟨columns, hadd, hcolumns⟩ := addTo_cons_self e column es
      rw [hadd]
      by_cases ht : e.table = t
      · subst ht
        rw [lookup_cons_self ⟨e.table, columns⟩, lookup_cons_self]
        simp [hcolumns]
      · rw [lookup_cons_of_ne ⟨e.table, columns⟩ ht, lookup_cons_of_ne e ht]
        simp [ht]
    · rw [addTo, if_neg he]
      by_cases ht : e.table = t
      · subst ht
        rw [lookup_cons_self, lookup_cons_self]
        simp [Ne.symm he]
      · rw [lookup_cons_of_ne e ht, lookup_cons_of_ne e ht]
        exact ih

/-! ### All records -/

theorem loadFrom_rows (c : Catalog) (number : Nat) (pairs : List (String × String)) :
    loadFrom c number (rows pairs) = .ok (pairs.foldl (fun c p => c.add p.1 p.2) c) := by
  induction pairs generalizing c number with
  | nil => rfl
  | cons p pairs ih => exact ih _ _

theorem load_rows (pairs : List (String × String)) : load (rows pairs) = .ok (ofPairs pairs) :=
  loadFrom_rows {} 1 pairs

/-- What is known of a table when pairs are added to a catalog. -/
theorem lookup_foldl_add (c : Catalog) (pairs : List (String × String)) (t : String) :
    (((pairs.foldl (fun c p => c.add p.1 p.2) c).lookup t).known = true ↔
      (∃ name, (t, name) ∈ pairs) ∨ (c.lookup t).known = true) ∧
    ∀ name, name ∈ ((pairs.foldl (fun c p => c.add p.1 p.2) c).lookup t).columns ↔
      (t, name) ∈ pairs ∨ name ∈ (c.lookup t).columns := by
  induction pairs generalizing c with
  | nil => simp
  | cons p pairs ih =>
    obtain ⟨table, column⟩ := p
    obtain ⟨hknown, hcolumns⟩ := lookup_add c table column t
    rw [List.foldl_cons, (ih _).1, hknown]
    simp only [(ih _).2, hcolumns, List.mem_cons, Prod.mk.injEq]
    constructor
    · grind
    · grind

/-- A table is known if a record names it. -/
theorem known_lookup_ofPairs (pairs : List (String × String)) (t : String) :
    ((ofPairs pairs).lookup t).known = true ↔ ∃ name, (t, name) ∈ pairs := by
  have hnone : (lookup {} t).known = false := rfl
  rw [ofPairs, (lookup_foldl_add {} pairs t).1, hnone]
  simp

/-- The columns of a table are those of its records. -/
theorem contains_lookup_ofPairs (pairs : List (String × String)) (t name : String) :
    ((ofPairs pairs).lookup t).contains name = true ↔ (t, name) ∈ pairs := by
  have hnone : (lookup {} t).columns = [] := rfl
  rw [Indexes.contains, List.contains_iff_mem, ofPairs, (lookup_foldl_add {} pairs t).2, hnone]
  simp

end Catalog

/-! ### Verdicts -/

section Verdicts

variable (pairs : List (String × String)) (table : String) (names : List String)

/-- A table is not known if no record names it. -/
theorem check_ofPairs_eq_unknownTable_iff :
    check (.ofPairs pairs) table names = .unknownTable ↔ ∀ name, (table, name) ∉ pairs := by
  rw [← not_exists, ← Catalog.known_lookup_ofPairs, check_eq]
  cases ((Catalog.ofPairs pairs).lookup table).known with
  | false => simp
  | true =>
    simp only [if_true, not_true_eq_false, iff_false]
    split <;> simp

/-- A statement is covered if one of its columns is in a record of its table. -/
theorem check_ofPairs_eq_covered_iff :
    check (.ofPairs pairs) table names = .covered ↔ ∃ name ∈ names, (table, name) ∈ pairs := by
  rw [check_eq_covered_iff, List.find?_isSome]
  simp only [Catalog.contains_lookup_ofPairs]

/-- A statement is not covered if there are records of its table, but of none of its columns. -/
theorem check_ofPairs_eq_uncovered_iff :
    check (.ofPairs pairs) table names = .uncovered ↔
      (∃ name, (table, name) ∈ pairs) ∧ ∀ name ∈ names, (table, name) ∉ pairs := by
  have hunknown := check_ofPairs_eq_unknownTable_iff pairs table names
  have hcovered := check_ofPairs_eq_covered_iff pairs table names
  have hknown : (∃ name, (table, name) ∈ pairs) ↔
      check (.ofPairs pairs) table names ≠ .unknownTable := by
    rw [ne_eq, hunknown, Classical.not_forall_not]
  have hnone : (∀ name ∈ names, (table, name) ∉ pairs) ↔
      check (.ofPairs pairs) table names ≠ .covered := by
    rw [ne_eq, hcovered, not_exists]
    simp only [not_and]
  -- there are three verdicts, so the third one is the one that is neither of the others
  rw [hknown, hnone]
  cases check (.ofPairs pairs) table names <;> simp

end Verdicts

/-- Verdicts depend neither on the order of records and columns nor on how often they are there. -/
theorem check_ofPairs_congr {pairs pairs' : List (String × String)} {names names' : List String}
    (hpairs : ∀ p, p ∈ pairs ↔ p ∈ pairs') (hnames : ∀ name, name ∈ names ↔ name ∈ names')
    (table : String) :
    check (.ofPairs pairs) table names = check (.ofPairs pairs') table names' := by
  -- each verdict says only which records and columns there are, so it is the same for both
  cases h : check (.ofPairs pairs') table names' with
  | covered =>
    rw [check_ofPairs_eq_covered_iff] at h ⊢
    simpa only [hpairs, hnames] using h
  | uncovered =>
    rw [check_ofPairs_eq_uncovered_iff] at h ⊢
    simpa only [hpairs, hnames] using h
  | unknownTable =>
    rw [check_ofPairs_eq_unknownTable_iff] at h ⊢
    simpa only [hpairs] using h

/-- More records leave covered what is covered. -/
theorem covered_of_subset {pairs more : List (String × String)} (h : pairs ⊆ more) {table : String}
    {names : List String} (hc : check (.ofPairs pairs) table names = .covered) :
    check (.ofPairs more) table names = .covered := by
  rw [check_ofPairs_eq_covered_iff] at hc ⊢
  obtain ⟨name, hname, hmem⟩ := hc
  exact ⟨name, hname, h hmem⟩

/-- A table that is not known with more records is not known with fewer of them. -/
theorem unknownTable_of_subset {pairs more : List (String × String)} (h : pairs ⊆ more)
    {table : String} {names : List String}
    (hu : check (.ofPairs more) table names = .unknownTable) :
    check (.ofPairs pairs) table names = .unknownTable := by
  rw [check_ofPairs_eq_unknownTable_iff] at hu ⊢
  exact fun name hmem => hu name (h hmem)

end QueryAudit
