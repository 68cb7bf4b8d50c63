import Mathlib.Data.Finset.Card
import QueryAudit.Proofs.Records

/-!
# What a catalog holds

A catalog has one entry for each table that was added, and an entry has each of its columns once. So
the numbers of tables and of columns are those of the different ones among the records. Records that
are no pairs make no catalog; the first of them is the one that is told of.
-/

namespace QueryAudit

namespace Catalog

/-- No table has two entries, and no entry has a column twice or none. -/
structure Distinct (c : Catalog) : Prop where
  tables : (c.entries.map Entry.table).Nodup
  columns : ∀ e ∈ c.entries, e.columns.Nodup
  nonempty : ∀ e ∈ c.entries, e.columns ≠ []

/-- The pairs of a table and a column that a catalog holds. -/
def pairs (c : Catalog) : List (String × String) :=
  c.entries.flatMap fun e => e.columns.map fun column => (e.table, column)

/-! ### One record -/

/-- An entry behind one more record was there before, or the column was added to what was known of
    its table. -/
theorem mem_addTo {table column : String} {es : List Entry} {e : Entry}
    (h : e ∈ addTo table column es) :
    e ∈ es ∨ ∃ columns, e = ⟨table, columns ++ [column]⟩ ∧ column ∉ columns ∧
      (columns = [] ∨ ⟨table, columns⟩ ∈ es) := by
  induction es with
  | nil =>
    rw [addTo, List.mem_singleton] at h
    exact .inr ⟨[], h, List.not_mem_nil, .inl rfl⟩
  | cons e' es ih =>
    rw [addTo] at h
    split at h
    · -- the entry of the table is the only one that can change
      next htable =>
      subst htable
      rcases List.mem_cons.mp h with rfl | h
      · split
        · exact .inl List.mem_cons_self
        · next hnew =>
          rw [List.contains_iff_mem] at hnew
          exact .inr ⟨e'.columns, rfl, hnew, .inr List.mem_cons_self⟩
      · exact .inl (List.mem_cons_of_mem e' h)
    · rcases List.mem_cons.mp h with rfl | h
      · exact .inl List.mem_cons_self
      · rcases ih h with h | ⟨columns, he, hnew, hold⟩
        · exact .inl (List.mem_cons_of_mem e' h)
        · exact .inr ⟨columns, he, hnew, hold.imp_right (List.mem_cons_of_mem e')⟩

/-- The tables behind one more record. -/
theorem tables_addTo (table column : String) (es : List Entry) :
    (addTo table column es).map Entry.table =
      if table ∈ es.map Entry.table then es.map Entry.table
      else es.map Entry.table ++ [table] := by
  induction es with
  | nil => rfl
  | cons e es ih =>
    rw [addTo]
    by_cases he : e.table = table
    · subst he
      rw [if_pos rfl, List.map_cons, List.map_cons, if_pos List.mem_cons_self]
      split <;> rfl
    · rw [if_neg he, List.map_cons, List.map_cons, ih]
      by_cases hmem : table ∈ es.map Entry.table
      · rw [if_pos hmem, if_pos (List.mem_cons_of_mem _ hmem)]
      · rw [if_neg hmem, if_neg (by simpa [Ne.symm he] using hmem), List.cons_append]

/-- The pairs behind one more record. -/
theorem mem_pairs_add (c : Catalog) (table column : String) (p : String × String) :
    p ∈ (c.add table column).pairs ↔ (table, column) = p ∨ p ∈ c.pairs := by
  obtain ⟨es⟩ := c
  rw [add, pairs, pairs]
  induction es with
  | nil => simp [addTo, eq_comm]
  | cons e es ih =>
    rw [addTo]
    split
    · next htable =>
      subst htable
      obtain ⟨columns, hadd, hcolumns⟩ := addTo_cons_self e column es
      rw [addTo, if_pos rfl, List.cons.injEq] at hadd
      rw [hadd.1, List.flatMap_cons, List.flatMap_cons, List.mem_append, List.mem_append]
      simp only [List.mem_map, hcolumns]
      -- the new column is among those of the entry already or is added to them
      grind
    · rw [List.flatMap_cons, List.flatMap_cons, List.mem_append, List.mem_append, ih]
      tauto

/-- A record keeps tables and columns apart. -/
theorem Distinct.add {c : Catalog} (h : c.Distinct) (table column : String) :
    (c.add table column).Distinct where
  tables := by
    rw [Catalog.add, tables_addTo]
    split
    · exact h.tables
    · next hnew =>
      rw [List.nodup_append]
      refine ⟨h.tables, List.nodup_singleton table, ?_⟩
      rintro t ht t' ht' rfl
      exact hnew (List.mem_singleton.mp ht' ▸ ht)
  columns := by
    intro e he
    rcases mem_addTo he with he | ⟨columns, rfl, hnew, hold⟩
    · exact h.columns e he
    · -- a column is added only to an entry that does not have it
      have hcolumns : columns.Nodup := by
        rcases hold with rfl | hold
        · exact List.nodup_nil
        · exact h.columns _ hold
      rw [List.nodup_append]
      refine ⟨hcolumns, List.nodup_singleton column, ?_⟩
      rintro name hname name' hname' rfl
      exact hnew (List.mem_singleton.mp hname' ▸ hname)
  nonempty := by
    intro e he
    rcases mem_addTo he with he | ⟨columns, rfl, -, -⟩
    · exact h.nonempty e he
    · simp

/-! ### All records -/

theorem distinct_empty : Distinct {} := ⟨List.nodup_nil, by simp, by simp⟩

theorem distinct_foldl_add {c : Catalog} (h : c.Distinct) (rows : List (String × String)) :
    (rows.foldl (fun c p => c.add p.1 p.2) c).Distinct := by
  induction rows generalizing c with
  | nil => exact h
  | cons p rows ih => exact ih (h.add p.1 p.2)

theorem mem_pairs_foldl_add (c : Catalog) (rows : List (String × String)) (p : String × String) :
    p ∈ (rows.foldl (fun c p => c.add p.1 p.2) c).pairs ↔ p ∈ rows ∨ p ∈ c.pairs := by
  induction rows generalizing c with
  | nil => simp
  | cons q rows ih =>
    rw [List.foldl_cons, ih, mem_pairs_add, List.mem_cons, eq_comm (a := (q.1, q.2))]
    tauto

section OfPairs

variable (rows : List (String × String))

theorem distinct_ofPairs : (ofPairs rows).Distinct :=
  distinct_foldl_add distinct_empty rows

/-- A catalog of pairs holds these pairs. -/
theorem mem_pairs_ofPairs (p : String × String) : p ∈ (ofPairs rows).pairs ↔ p ∈ rows := by
  rw [ofPairs, mem_pairs_foldl_add]
  exact or_iff_left List.not_mem_nil

end OfPairs

/-- A table is known if it has an entry. -/
theorem known_lookup_iff (c : Catalog) (t : String) :
    (c.lookup t).known = true ↔ t ∈ c.entries.map Entry.table := by
  rw [lookup, List.mem_map]
  cases hfind : c.entries.find? fun e => e.table = t with
  | none => simpa using hfind
  | some e =>
    have hmem := List.mem_of_find?_eq_some hfind
    have htable := List.find?_some hfind
    simp only [decide_eq_true_eq] at htable
    simp only [true_iff]
    exact ⟨e, hmem, htable⟩

/-- No pair is held twice. -/
theorem Distinct.nodup_pairs {c : Catalog} (h : c.Distinct) : c.pairs.Nodup := by
  rw [pairs, List.nodup_flatMap]
  constructor
  · intro e he
    exact (h.columns e he).map fun _ _ heq => congrArg Prod.snd heq
  · refine (List.pairwise_map.mp h.tables).imp fun hne => ?_
    rw [Function.onFun_apply, List.disjoint_left]
    intro p hp hp'
    obtain ⟨name, -, rfl⟩ := List.mem_map.mp hp
    obtain ⟨name', -, heq⟩ := List.mem_map.mp hp'
    exact hne (congrArg Prod.fst heq).symm

/-- The tables that are counted are the different ones among the pairs. -/
theorem tableCount_ofPairs (rows : List (String × String)) :
    (ofPairs rows).tableCount = (rows.map Prod.fst).toFinset.card := by
  have hsame : ((ofPairs rows).entries.map Entry.table).toFinset =
      (rows.map Prod.fst).toFinset := by
    ext t
    rw [List.mem_toFinset, List.mem_toFinset, ← known_lookup_iff, known_lookup_ofPairs]
    simp
  rw [← hsame, List.toFinset_card_of_nodup (distinct_ofPairs rows).tables, List.length_map,
    tableCount]

theorem columnCount_ofPairs (rows : List (String × String)) :
    (ofPairs rows).columnCount = rows.toFinset.card := by
  have hsame : (ofPairs rows).pairs.toFinset = rows.toFinset := by
    ext p
    rw [List.mem_toFinset, List.mem_toFinset, mem_pairs_ofPairs]
  rw [← hsame, List.toFinset_card_of_nodup (distinct_ofPairs rows).nodup_pairs, columnCount, pairs,
    List.length_flatMap, List.length_flatMap]
  simp only [List.length_map]

/-! ### Columns of a table -/

/-- Columns of a known table are those of one of its entries. -/
theorem columns_lookup_cases (c : Catalog) (t : String) :
    (c.lookup t = ⟨false, []⟩) ∨ ∃ e ∈ c.entries, c.lookup t = ⟨true, e.columns⟩ := by
  rw [lookup]
  cases hfind : c.entries.find? fun e => e.table = t with
  | none => exact .inl rfl
  | some e => exact .inr ⟨e, List.mem_of_find?_eq_some hfind, rfl⟩

/-- A table is known if and only if it has a column. -/
theorem Distinct.columns_eq_nil_iff {c : Catalog} (h : c.Distinct) (t : String) :
    (c.lookup t).columns = [] ↔ (c.lookup t).known = false := by
  rcases c.columns_lookup_cases t with hlookup | ⟨e, he, hlookup⟩
  · simp [hlookup]
  · simp [hlookup, h.nonempty e he]

theorem Distinct.nodup_columns {c : Catalog} (h : c.Distinct) (t : String) :
    (c.lookup t).columns.Nodup := by
  rcases c.columns_lookup_cases t with hlookup | ⟨e, he, hlookup⟩
  · rw [hlookup]
    exact List.nodup_nil
  · rw [hlookup]
    exact h.columns e he

end Catalog

/-- Columns without repetitions are in alphabetical order what they are as a set. -/
theorem Indexes.sorted_congr {i j : Indexes} (hi : i.columns.Nodup) (hj : j.columns.Nodup)
    (h : ∀ name, i.contains name = j.contains name) : i.sorted = j.sorted := by
  have hperm : i.columns.Perm j.columns := by
    rw [List.perm_ext_iff_of_nodup hi hj]
    intro name
    rw [← List.contains_iff_mem, ← List.contains_iff_mem]
    exact Bool.eq_iff_iff.mp (h name)
  have hle (a b : String) : (!decide (b < a)) = true ↔ a ≤ b := by
    rw [Bool.not_eq_true', decide_eq_false_iff_not, String.not_lt]
  have hsorted (columns : List String) :
      (columns.mergeSort fun a b => !decide (b < a)).Pairwise (· ≤ ·) := by
    refine (List.pairwise_mergeSort ?_ ?_ columns).imp fun hab => (hle _ _).mp hab
    · intro a b c hab hbc
      rw [hle] at hab hbc ⊢
      exact String.le_trans hab hbc
    · intro a b
      rw [Bool.or_eq_true, hle, hle]
      exact String.le_total a b
  -- a set has only one order
  refine List.Perm.eq_of_pairwise (fun a b _ _ => String.le_antisymm) (hsorted _) (hsorted _) ?_
  exact (List.mergeSort_perm _ _).trans (hperm.trans (List.mergeSort_perm _ _).symm)

namespace Catalog

/-! ### Records that are no pairs -/

/-- The first record that is no pair ends the loading. -/
theorem loadFrom_wrong (c : Catalog) (number : Nat) (front : List (String × String))
    {wrong : List String} (h : wrong.length ≠ 2) (back : List (List String)) :
    loadFrom c number (rows front ++ wrong :: back) =
      .error (.recordWidth (number + front.length) wrong.length) := by
  induction front generalizing c number with
  | nil =>
    rcases wrong with _ | ⟨a, _ | ⟨b, _ | ⟨d, wrong⟩⟩⟩
    · rfl
    · rfl
    · exact absurd rfl h
    · rfl
  | cons p front ih =>
    rw [List.length_cons, Nat.add_comm front.length 1, ← Nat.add_assoc]
    exact ih (c.add p.1 p.2) (number + 1)

/-- Records of two fields are pairs. -/
theorem exists_rows {records : List (List String)} (h : ∀ r ∈ records, r.length = 2) :
    ∃ front, records = rows front := by
  induction records with
  | nil => exact ⟨[], rfl⟩
  | cons r records ih =>
    obtain ⟨hr, hrecords⟩ := List.forall_mem_cons.mp h
    obtain ⟨table, column, rfl⟩ := List.length_eq_two.mp hr
    obtain ⟨front, rfl⟩ := ih hrecords
    exact ⟨(table, column) :: front, rfl⟩

/-- What a catalog tells of its records. -/
structure Holds (records : List (List String)) (c : Catalog) : Prop where
  known : ∀ t, (c.lookup t).known = true ↔ ∃ r ∈ records, r.head? = some t
  contains : ∀ t name, (c.lookup t).contains name = true ↔ [t, name] ∈ records
  empty : ∀ t, (c.lookup t).columns = [] ↔ (c.lookup t).known = false
  tableCount : c.tableCount = (records.filterMap List.head?).toFinset.card
  columnCount : c.columnCount = records.toFinset.card

theorem pair_mem_rows_iff (pairs : List (String × String)) (t name : String) :
    [t, name] ∈ rows pairs ↔ (t, name) ∈ pairs := by
  simp [rows]

theorem holds_ofPairs (pairs : List (String × String)) : Holds (rows pairs) (ofPairs pairs) where
  known t := by
    rw [known_lookup_ofPairs]
    simp [rows]
  contains t name := by rw [contains_lookup_ofPairs, pair_mem_rows_iff]
  empty := (distinct_ofPairs pairs).columns_eq_nil_iff
  tableCount := by
    have hfirst : (rows pairs).filterMap List.head? = pairs.map Prod.fst := by
      simp [rows, List.filterMap_map, Function.comp_def]
    rw [hfirst, tableCount_ofPairs]
  columnCount := by
    have hinjective : Function.Injective fun p : String × String => [p.1, p.2] := by
      intro p q hpq
      simpa [Prod.ext_iff] using hpq
    rw [columnCount_ofPairs, List.card_toFinset, List.card_toFinset, rows,
      List.dedup_map_of_injective hinjective, List.length_map]

/-- The catalog of records of two fields does not depend on their order, nor on how often they are
    there. -/
theorem lookup_ofPairs_congr {pairs others : List (String × String)}
    (h : ∀ p, p ∈ others ↔ p ∈ pairs) (t : String) :
    ((ofPairs others).lookup t).known = ((ofPairs pairs).lookup t).known ∧
      ((ofPairs others).lookup t).sorted = ((ofPairs pairs).lookup t).sorted := by
  constructor
  · rw [Bool.eq_iff_iff, known_lookup_ofPairs, known_lookup_ofPairs]
    simp only [h]
  · refine Indexes.sorted_congr ((distinct_ofPairs others).nodup_columns t)
      ((distinct_ofPairs pairs).nodup_columns t) fun name => ?_
    rw [Bool.eq_iff_iff, contains_lookup_ofPairs, contains_lookup_ofPairs, h]

theorem counts_ofPairs_congr {pairs others : List (String × String)}
    (h : ∀ p, p ∈ others ↔ p ∈ pairs) :
    (ofPairs others).tableCount = (ofPairs pairs).tableCount ∧
      (ofPairs others).columnCount = (ofPairs pairs).columnCount := by
  constructor
  · have hfirst : (others.map Prod.fst).toFinset = (pairs.map Prod.fst).toFinset := by
      ext t
      simp [h]
    rw [tableCount_ofPairs, tableCount_ofPairs, hfirst]
  · have hsame : others.toFinset = pairs.toFinset := by
      ext p
      rw [List.mem_toFinset, List.mem_toFinset, h]
    rw [columnCount_ofPairs, columnCount_ofPairs, hsame]

end Catalog

/-- Records make no catalog if and only if one of them is no pair; then the first such record is
    told of, with its number counted from one and the number of its fields. Otherwise there is a
    catalog, and it holds the records: a table is known if a record begins with it, its columns are
    those that stand behind it in a record, and it has none only if it is not known; the tables and
    the columns that are counted are the different ones. Any other records that are the same but for
    their order and repetitions make a catalog with the same lookups and counts. -/
theorem catalog_of_records (records : List (List String)) :
    ((∃ e, Catalog.load records = .error e) ↔ ∃ r ∈ records, r.length ≠ 2) ∧
    (∀ front wrong back, records = front ++ wrong :: back → (∀ r ∈ front, r.length = 2) →
      wrong.length ≠ 2 →
      Catalog.load records = .error (.recordWidth (front.length + 1) wrong.length)) ∧
    ((∀ r ∈ records, r.length = 2) → ∃ c, Catalog.load records = .ok c ∧ c.Holds records ∧
      ∀ others : List (List String), (∀ r, r ∈ others ↔ r ∈ records) →
        ∃ c', Catalog.load others = .ok c' ∧
          (∀ t, (c'.lookup t).known = (c.lookup t).known ∧
            (c'.lookup t).sorted = (c.lookup t).sorted) ∧
          c'.tableCount = c.tableCount ∧ c'.columnCount = c.columnCount) := by
  have hwrong (front : List (List String)) (wrong : List String) (back : List (List String))
      (heq : records = front ++ wrong :: back) (hfront : ∀ r ∈ front, r.length = 2)
      (hlength : wrong.length ≠ 2) :
      Catalog.load records = .error (.recordWidth (front.length + 1) wrong.length) := by
    obtain ⟨pairs, rfl⟩ := Catalog.exists_rows hfront
    rw [heq, Catalog.load, Catalog.loadFrom_wrong {} 1 pairs hlength, Catalog.rows,
      List.length_map, Nat.add_comm]
  refine ⟨⟨?_, ?_⟩, hwrong, ?_⟩
  · rintro ⟨e, he⟩
    by_contra hnone
    push Not at hnone
    obtain ⟨pairs, rfl⟩ := Catalog.exists_rows hnone
    rw [Catalog.load_rows] at he
    cases he
  · rintro ⟨r, hr, hlength⟩
    -- the first record of another width is the one that is named
    have hsome : (records.find? fun r => r.length ≠ 2).isSome := by
      rw [List.find?_isSome]
      exact ⟨r, hr, by simpa using hlength⟩
    obtain ⟨wrong, hfind⟩ := Option.isSome_iff_exists.mp hsome
    obtain ⟨hbad, front, back, heq, hfront⟩ := List.find?_eq_some_iff_append.mp hfind
    exact ⟨_, hwrong front wrong back heq (by simpa using hfront) (by simpa using hbad)⟩
  · intro hpairs
    obtain ⟨pairs, rfl⟩ := Catalog.exists_rows hpairs
    refine ⟨.ofPairs pairs, Catalog.load_rows pairs, Catalog.holds_ofPairs pairs, ?_⟩
    intro others hothers
    have hwidth : ∀ r ∈ others, r.length = 2 := fun r hr => hpairs r ((hothers r).mp hr)
    obtain ⟨more, rfl⟩ := Catalog.exists_rows hwidth
    -- both lists of pairs have the same members, in whatever order
    have hsame (p : String × String) : p ∈ more ↔ p ∈ pairs := by
      have hrow := hothers [p.1, p.2]
      rwa [Catalog.pair_mem_rows_iff, Catalog.pair_mem_rows_iff] at hrow
    exact ⟨.ofPairs more, Catalog.load_rows more, Catalog.lookup_ofPairs_congr hsame,
      Catalog.counts_ofPairs_congr hsame⟩

end QueryAudit
