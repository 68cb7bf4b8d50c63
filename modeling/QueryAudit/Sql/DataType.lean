import QueryAudit.Sql.Literal

/-!
# Data types

A type is named by keywords, and its family says which parameters it takes; every other name is a
custom type.
-/

namespace QueryAudit.Sql

/-- The length of a character type. -/
inductive CharacterLength where
  /-- A number, counted in the unit if one is given. -/
  | units (length : Nat) (unit : Option Keyword)
  | maximum
  deriving DecidableEq, Repr

/-- The precision and scale of an exact number. -/
inductive ExactSize where
  | none
  | precision (p : Nat)
  | scaled (p s : Nat)
  deriving DecidableEq, Repr

/-- What a type of time says about its zone. -/
inductive ZoneInfo where
  | none
  | withZone
  | withoutZone
  /-- The zone is part of the type's name. -/
  | suffix
  deriving DecidableEq, Repr

/-- A data type. -/
inductive DataType where
  /-- A type without parameters. -/
  | plain (name : List Keyword)
  /-- A type with an optional size. -/
  | sized (name : List Keyword) (size : Option Nat)
  /-- An integer type with an optional display width. -/
  | integer (name : Keyword) (width : Option Nat) (unsigned : Bool)
  /-- A character type with an optional length. -/
  | character (name : List Keyword) (length : Option CharacterLength)
  /-- An exact number. -/
  | exact (name : Keyword) (size : ExactSize)
  /-- A time or timestamp. -/
  | time (name : Keyword) (precision : Option Nat) (zone : ZoneInfo)
  /-- A type given by its values. -/
  | values (name : Keyword) (items : List String)
  /-- Any other name, with its modifiers. -/
  | custom (name : List Name) (modifiers : List String)
  /-- An array type written with angle brackets. -/
  | angleArray (element : DataType)
  /-- An array type written with square brackets. -/
  | squareArray (element : DataType)
  deriving BEq, Repr

/-- A number in parentheses, if there is one. -/
def sizeWords : Option Nat → String
  | none => ""
  | some n => s!"({n})"

/-- The canonical text of a character length. -/
def CharacterLength.render : CharacterLength → String
  | .maximum => "MAX"
  | .units n none => toString n
  | .units n (some unit) => toString n ++ " " ++ unit.spelling

/-- The canonical text of a precision and scale. -/
def ExactSize.render : ExactSize → String
  | .none => ""
  | .precision p => s!"({p})"
  | .scaled p s => s!"({p},{s})"

/-- The canonical text of a time type. A zone that is part of the name stands before the
    precision, any other after it. -/
def ZoneInfo.render (name : Keyword) (precision : Option Nat) : ZoneInfo → String
  | .none => name.spelling ++ sizeWords precision
  | .withZone => name.spelling ++ sizeWords precision ++ " WITH TIME ZONE"
  | .withoutZone => name.spelling ++ sizeWords precision ++ " WITHOUT TIME ZONE"
  | .suffix => name.spelling ++ "TZ" ++ sizeWords precision

/-- The canonical text of a type. -/
def DataType.render : DataType → String
  | .plain name => Keyword.spellings name
  | .sized name size => Keyword.spellings name ++ sizeWords size
  | .integer name width unsigned =>
    name.spelling ++ sizeWords width ++ (if unsigned then " UNSIGNED" else "")
  | .character name none => Keyword.spellings name
  | .character name (some length) => Keyword.spellings name ++ "(" ++ length.render ++ ")"
  | .exact name size => name.spelling ++ size.render
  | .time name precision zone => zone.render name precision
  | .values name items =>
    name.spelling ++ "(" ++ ", ".intercalate (items.map (inQuotes '\'')) ++ ")"
  | .custom name modifiers =>
    Names.render name
      ++ (if modifiers.isEmpty then "" else "(" ++ ", ".intercalate modifiers ++ ")")
  | .angleArray element => "ARRAY<" ++ element.render ++ ">"
  | .squareArray element => element.render ++ "[]"

/-- A field of a structure: its type, perhaps with a name. -/
structure Field where
  name : Option Name
  type : DataType
  deriving BEq, Repr

/-- The canonical text of a field. -/
def Field.render (f : Field) : String :=
  (match f.name with | none => "" | some n => n.render ++ " ") ++ f.type.render

end QueryAudit.Sql
