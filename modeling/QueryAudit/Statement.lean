import QueryAudit.Error
import QueryAudit.Sql.Render

/-!
# Classified statements

What an audit has to know of a statement: whether it is a selection, the table it reads from first
and the condition on its rows.
-/

namespace QueryAudit

/-- A selection, with the text of the first relation it reads from. -/
structure Selection where
  table : String
  query : Sql.Query
  deriving BEq

/-- A statement by its class. -/
inductive Statement where
  | select (s : Selection)
  /-- An insertion into a table. -/
  | insert (table : String) (statement : Sql.Statement)
  | other (statement : Sql.Statement)
  deriving BEq

/-- The table of a selection that reads from none. -/
def noTable : String := "dual"

def Selection.condition (s : Selection) : Option Sql.Expr :=
  match s.query.body with
  | .select _ _ _ condition _ => condition
  | _ => none

/-- The canonical text of a selection. -/
def Selection.render (s : Selection) : String :=
  s.query.render

/-- The text of the first relation of a plain selection: the name of a table, and the whole text of
    anything else. A combination of queries has no first relation. -/
def firstRelation (q : Sql.Query) : Option String :=
  match q.body with
  | .select _ [] _ _ _ => some noTable
  | .select _ (source :: _) _ _ _ =>
    match source.table with
    | some name => some (Sql.Names.render name)
    | none => some (Sql.Phrase.render source.relation)
  | _ => none

namespace Statement

def classify (statement : Sql.Statement) : Statement :=
  match statement with
  | .insert target phrase => .insert (Sql.Names.render target) (.insert target phrase)
  | .query q =>
    match firstRelation q with
    | some table => .select ⟨table, q⟩
    | none => .other (.query q)
  | statement => .other statement

/-- The canonical text of a statement. -/
def render : Statement → String
  | .select s => s.render
  | .insert _ statement => statement.render
  | .other statement => statement.render

/-- The selection that a statement is; any other statement is rejected. -/
def selection : Statement → Except Error Selection
  | .select s => .ok s
  | statement => .error (.notASelection statement.render)

end Statement

end QueryAudit
