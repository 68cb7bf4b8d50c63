import QueryAudit.Sql.Grammar

/-!
# Grammar of storage

In which files the rows of a table are kept: their format, how a row is laid out in them, and where
they are.
-/

namespace QueryAudit.Sql.Grammar

open QueryAudit.Sql.Parser

def fileFormats : List Keyword :=
  [.AVRO, .JSONFILE, .ORC, .PARQUET, .RCFILE, .SEQUENCEFILE, .TEXTFILE]

def fileFormat : Parser Keyword := do
  match ← oneOf fileFormats with
  | some k => return k
  | none => unexpected "fileformat"

def formatWords (format : Keyword) : String :=
  " STORED AS " ++ format.spelling

/-- The format of files behind its keywords, as words. -/
def fileFormatWords : Parser String := do
  return formatWords (← fileFormat)

/-- How the rows of a table are put into files. -/
inductive StorageFormat where
  | file (format : Keyword)
  /-- The names of what reads and what writes rows. -/
  | codecs (input output : Expr)

/-- What is said of the files of a table. -/
structure Storage where
  /-- The words for the layout of a row. -/
  row : Phrase := []
  format : Option StorageFormat := none
  location : Option String := none

/-- The layout of a row in a file, from behind its first word on. -/
def rowLayout : Parser Phrase := do
  expectKeyword .FORMAT
  match ← oneOf [.SERDE, .DELIMITED] with
  | some .SERDE => return " ROW FORMAT SERDE " ++ Phrase.text .quoted (← literalText)
  | _ => return " ROW FORMAT DELIMITED"

/-- One more remark on the files of a table. -/
def storageStep (s : Storage) : Parser (Option Storage) := do
  match ← oneOf [.ROW, .STORED, .LOCATION] with
  | some .ROW => return some { s with row := ← rowLayout }
  | some .STORED =>
    expectKeyword .AS
    if ← keyword .INPUTFORMAT then
      let input ← expr
      expectKeyword .OUTPUTFORMAT
      return some { s with format := some (.codecs input (← expr)) }
    else return some { s with format := some (.file (← fileFormat)) }
  | some _ => return some { s with location := some (← literalText) }
  | none => return none

/-- What is said of the files of a table. -/
def storage : Parser Storage :=
  iterate storageStep {}

/-- How the rows of a table are put into files, as a phrase. -/
def StorageFormat.phrase : StorageFormat → Phrase
  | .file format => formatWords format
  | .codecs input output =>
    " STORED AS INPUTFORMAT " ++ Phrase.expr input ++ " OUTPUTFORMAT " ++ Phrase.expr output

/-- What is said of the files of a table, as a phrase. -/
def Storage.phrase (s : Storage) : Phrase :=
  s.row ++ (s.format.map StorageFormat.phrase).getD []
    ++ Phrase.behind " LOCATION " (s.location.map (Phrase.text .quoted))

end QueryAudit.Sql.Grammar
