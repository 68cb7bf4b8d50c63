import QueryAudit.Sql.Children
import QueryAudit.Sql.Render

/-!
# Columns of a condition

The columns that a condition mentions, as they are written, in the order of its text. They are found
by a walk over the condition that visits each expression before those inside it. A search for one
column that passes a test goes the same way and stops at the first hit.
-/

namespace QueryAudit

open Sql

/-- The columns that an expression is by itself. -/
def ownColumns : Expr → List String
  | .column name => [name.render]
  | .path names => [Names.render names]
  | .matchAgainst names _ _ => names.map Name.render
  | _ => []

/-- Add the columns of an expression to those found before. -/
def addColumns (found : List String) (e : Expr) : List String :=
  e.children.attach.foldl (fun found c => addColumns found c.1) (found ++ ownColumns e)
termination_by sizeOf e
decreasing_by exact Expr.sizeOf_lt_of_mem_children c.2

/-- The columns of a condition, duplicates kept. No condition has no columns. -/
def columns : Option Expr → List String
  | none => []
  | some e => addColumns [] e

/-- What a search came to. -/
structure Search where
  /-- The first column that passed the test. -/
  hit : Option String := none
  /-- The columns that were tested, in order. -/
  probed : List String := []
  deriving DecidableEq, Repr

/-- Test names until one passes. -/
def Search.through (test : String → Bool) (s : Search) : List String → Search
  | [] => s
  | name :: names =>
    if s.hit.isSome then s
    else
      Search.through test ⟨if test name then some name else none, s.probed ++ [name]⟩ names

/-- Search on in an expression, unless there was a hit before. -/
def searchFrom (test : String → Bool) (s : Search) (e : Expr) : Search :=
  if s.hit.isSome then s
  else
    e.children.attach.foldl (fun s c => searchFrom test s c.1) (s.through test (ownColumns e))
termination_by sizeOf e
decreasing_by exact Expr.sizeOf_lt_of_mem_children c.2

/-- Search a condition for the first column that passes a test. -/
def search (test : String → Bool) : Option Expr → Search
  | none => {}
  | some e => searchFrom test {} e

/-- The first column of a condition that passes a test. -/
def firstColumn? (test : String → Bool) (condition : Option Expr) : Option String :=
  (search test condition).hit

end QueryAudit
