/-!
# Names

A name is kept as it was written: its text and the quote around it. A qualified name is a list of
names joined by periods.
-/

namespace QueryAudit.Sql

/-- The text between two quotes. A quote is written twice, and two in a row are also written as
    two; a quote after a backslash is left alone, since it counts as escaped already. -/
def escapeQuotes (quote previous : Char) : List Char → List Char
  | [] => []
  | c :: cs =>
    if c = quote then
      if previous = '\\' then c :: escapeQuotes quote previous cs
      else
        match cs with
        | d :: ds =>
          if d = quote then c :: c :: escapeQuotes quote c ds
          else c :: c :: escapeQuotes quote c (d :: ds)
        | [] => [c, c]
    else c :: escapeQuotes quote c cs

/-- A text in quotes. -/
def inQuotes (quote : Char) (text : String) : String :=
  String.ofList (quote :: escapeQuotes quote (Char.ofNat 0) text.toList ++ [quote])

/-- A name as it was written. -/
structure Name where
  /-- The text without quotes. -/
  text : String
  /-- The opening quote, if there is one. -/
  quote : Option Char := none
  deriving DecidableEq, Repr, Inhabited

/-- The canonical text of a name. Brackets close with their counterpart and escape nothing. -/
def Name.render (n : Name) : String :=
  match n.quote with
  | none => n.text
  | some '[' => "[" ++ n.text ++ "]"
  | some q => inQuotes q n.text

/-- The canonical texts of names with a separator between them. -/
def Names.joined (separator : String) (names : List Name) : String :=
  separator.intercalate (names.map Name.render)

/-- The canonical text of a qualified name. -/
def Names.render (names : List Name) : String :=
  joined "." names

/-- The canonical text of a list of names. -/
def Names.list (names : List Name) : String :=
  joined ", " names

end QueryAudit.Sql
