import QueryAudit.Error

/-!
# Catalogs of indexed columns

A catalog says for each table which columns are indexed. It is made of records, each of them a table
and a column, in any order and with repetitions. Names match exactly.
-/

namespace QueryAudit

/-- The indexed columns of one table, none of them twice. -/
structure Entry where
  table : String
  columns : List String
  deriving DecidableEq, Repr

/-- Tables with their indexed columns, in the order of their first records. -/
structure Catalog where
  entries : List Entry := []
  deriving DecidableEq, Repr

/-- What is known of a table. A table that is not known has no columns. -/
structure Indexes where
  known : Bool
  columns : List String
  deriving DecidableEq, Repr

/-- Whether a column is indexed. -/
def Indexes.contains (i : Indexes) (column : String) : Bool :=
  i.columns.contains column

/-- The indexed columns in alphabetical order. -/
def Indexes.sorted (i : Indexes) : List String :=
  i.columns.mergeSort fun a b => !decide (b < a)

namespace Catalog

/-- Add a column to the entry of its table. -/
def addTo (table column : String) : List Entry → List Entry
  | [] => [⟨table, [column]⟩]
  | e :: es =>
    if e.table = table then
      (if e.columns.contains column then e else { e with columns := e.columns ++ [column] }) :: es
    else e :: addTo table column es

def add (c : Catalog) (table column : String) : Catalog :=
  ⟨addTo table column c.entries⟩

/-- Load on, the next record having a number. -/
def loadFrom (c : Catalog) (number : Nat) : List (List String) → Except Error Catalog
  | [] => .ok c
  | [table, column] :: records => loadFrom (c.add table column) (number + 1) records
  | record :: _ => .error (.recordWidth number record.length)

/-- The catalog of some records, or the first record that is no pair, counted from one. -/
def load (records : List (List String)) : Except Error Catalog :=
  loadFrom {} 1 records

/-- What is known of a table. -/
def lookup (c : Catalog) (table : String) : Indexes :=
  match c.entries.find? fun e => e.table = table with
  | some e => ⟨true, e.columns⟩
  | none => ⟨false, []⟩

/-- The number of tables. -/
def tableCount (c : Catalog) : Nat :=
  c.entries.length

/-- The number of different pairs. -/
def columnCount (c : Catalog) : Nat :=
  (c.entries.flatMap Entry.columns).length

end Catalog

end QueryAudit
