import QueryAudit.Sql.Grammar.Query

/-!
# Grammar of copies

Rows copied from a file into a table, or from a table or query into a file. The options come in
two styles, in parentheses and, as they were written before, one behind the other. Rows from the
standard input follow the statement itself: their values are separated by tabs and newlines, and a
backslash and a period end them.
-/

namespace QueryAudit.Sql.Grammar

open QueryAudit.Sql.Parser

/-! ### Options -/

/-- An option that is turned on unless it says otherwise. -/
def copySwitch (k : Keyword) : Parser Phrase := do
  let value ← oneOf [.TRUE, .FALSE]
  return k.spelling ++ (if value = some .FALSE then " FALSE" else "")

/-- A character between quotes. -/
def quotedChar : Parser Phrase := do
  return .text .quoted (← literalChar).toString

/-- A text between quotes. -/
def quotedLiteral : Parser Phrase := do
  return .text .escaped (← literalText)

/-- An option in parentheses. -/
def copyOption : Parser Phrase := do
  match ← oneOf [.FORMAT, .FREEZE, .DELIMITER, .NULL, .HEADER, .QUOTE, .ESCAPE, .FORCE_QUOTE,
      .FORCE_NOT_NULL, .FORCE_NULL, .ENCODING] with
  | none => expected "option"
  | some .FORMAT => return "FORMAT " ++ Phrase.name (← name)
  | some k =>
    if k = .FREEZE || k = .HEADER then copySwitch k
    else if k = .DELIMITER || k = .QUOTE || k = .ESCAPE then
      return k.spelling ++ " " ++ (← quotedChar)
    else if k = .NULL || k = .ENCODING then return k.spelling ++ " " ++ (← quotedLiteral)
    else return k.spelling ++ " (" ++ Phrase.names (← nameList) ++ ")"

/-- An option of comma-separated rows outside of parentheses. -/
def plainCsvOption : Parser Phrase := do
  match ← oneOf [.HEADER, .QUOTE, .ESCAPE, .FORCE] with
  | some .HEADER => return "HEADER"
  | some .FORCE =>
    match ← oneOfRows [[.NOT, .NULL], [.QUOTE]] with
    | some ks =>
      return "FORCE " ++ Keyword.spellings ks ++ " " ++ Phrase.names (← commaSeparated name)
    | none => expected "csv option"
  | some k =>
    let _ ← keyword .AS
    return k.spelling ++ " " ++ (← quotedChar)
  | none => expected "csv option"

/-- An option outside of parentheses. -/
def plainCopyOption : Parser Phrase := do
  match ← oneOf [.BINARY, .DELIMITER, .NULL, .CSV] with
  | some .BINARY => return "BINARY"
  | some .CSV => return "CSV " ++ Phrase.joined " " (← many (attempt plainCsvOption))
  | some .DELIMITER =>
    let _ ← keyword .AS
    return "DELIMITER " ++ (← quotedChar)
  | some _ =>
    let _ ← keyword .AS
    return "NULL " ++ (← quotedLiteral)
  | none => expected "option"

/-! ### Rows -/

/-- The values of rows as far as they are read, the last first, and the text of the value at
    hand. A missing value is none. -/
structure Rows where
  values : List (Option String) := []
  content : String := ""

/-- Go on with a blank. A tab or newline ends the value at hand, all else belongs to it. -/
def Rows.addBlank (r : Rows) (b : Blank) : Rows :=
  if b = .tab || b = .newline then ⟨some r.content :: r.values, ""⟩
  else { r with content := r.content ++ b.spelling }

/-- Go on with the blanks behind a token. -/
def Rows.addBehind (r : Rows) (t : Located) : Rows :=
  t.behind.reverse.foldl Rows.addBlank r

/-- Go on with a token that belongs to the value at hand. -/
def Rows.add (r : Rows) (t : Located) : Rows :=
  { r with content := r.content ++ t.token.spelling }.addBehind t

/-- Go on with a token behind a backslash: the letter for a missing value, or one of no meaning. -/
def Rows.addEscaped (r : Rows) (t : Located) : Rows :=
  let missing : Bool := match t.token with
    | .word w => w.text = "N"
    | _ => false
  { r with values := if missing then none :: r.values else r.values }.addBehind t

/-- The values up to a backslash and a period, and the tokens behind them. Blanks behind a
    backslash are passed over, and so is a value that nothing ends. -/
def Rows.readFrom (r : Rows) : List Located → List (Option String) × List Located
  | [] => (r.values.reverse, [])
  | t :: ts =>
    if t.token ≠ .symbol .backslash then (r.add t).readFrom ts
    else
      match ts with
      | [] => (r.values.reverse, [])
      | u :: us =>
        if u.token = .symbol .period then (r.values.reverse, us) else (r.addEscaped u).readFrom us

/-- Rows end within the tokens that they are read from. -/
theorem Rows.readFrom_suffix (r : Rows) (ts : List Located) : (r.readFrom ts).2 <:+ ts := by
  fun_induction Rows.readFrom r ts with
  | case1 => exact List.suffix_rfl
  | case2 r t ts _ ih => exact ih.trans (List.suffix_cons t ts)
  | case3 => exact List.nil_suffix
  | case4 r t _ u us => exact (List.suffix_cons u us).trans (List.suffix_cons t (u :: us))
  | case5 r t _ u us _ ih =>
    exact ih.trans ((List.suffix_cons u us).trans (List.suffix_cons t (u :: us)))

/-- The values of the rows behind the semicolon of a copy. -/
def rows : Parser (List (Option String)) :=
  (expect .semicolon).revise
    (fun
      | _, .failed e rest => .failed e rest
      | ts, .parsed _ rest =>
        let begun := (ts.head?.map ({} : Rows).addBehind).getD {}
        let (values, rest) := begun.readFrom rest
        .parsed values rest)
    (by
      intro ts outcome h
      cases outcome with
      | parsed _ rest => exact (Rows.readFrom_suffix _ rest).trans h
      | failed e rest => exact h)

/-- A value of a row, where a missing one is marked. -/
def rowValue : Option String → Phrase
  | none => "\\N"
  | some text => .text .plain text

/-- Rows as they follow a copy. -/
def rowsPhrase (values : List (Option String)) : Phrase :=
  if values.isEmpty then [] else ";\n" ++ Phrase.joined "\t" (values.map rowValue) ++ "\n\\."

/-! ### Copies -/

/-- What is copied, and whether it can be copied into. -/
def copySubject : Parser (Phrase × Bool) := do
  if ← peekIs .lparen then return ("(" ++ Phrase.query (← queryInParens) ++ ")", false)
  let table ← qualifiedName
  return (Phrase.path table ++ Phrase.listed (← optionalNameList), true)

/-- The file, program or stream at the other end, and whether rows are to follow the statement. -/
def copyEnd : Parser (Phrase × Bool) := do
  match ← oneOf [.STDIN, .STDOUT, .PROGRAM] with
  | some .STDIN => return ("STDIN", true)
  | some .STDOUT => return ("STDOUT", false)
  | some _ => return ("PROGRAM " ++ (← quotedLiteral), false)
  | none => return (← quotedLiteral, false)

/-- A copy from behind its first word on. -/
def copy : Parser Phrase := do
  let (subject, writable) ← copySubject
  let direction ← do
    match ← oneOf [.FROM, .TO] with
    | some k => pure k
    | none => expected "FROM or TO"
  if direction = .FROM && !writable then fail .copyIntoQuery
  let (other, rowsFollow) ← copyEnd
  let _ ← keyword .WITH
  let options ← optionalParens (commaSeparated copyOption)
  let plain ← many (attempt plainCopyOption)
  let values ← if rowsFollow then rows else pure []
  return "COPY " ++ subject ++ " " ++ direction.spelling ++ " " ++ other
    ++ Phrase.behind " " (options.map Phrase.inParens)
    ++ plain.flatMap (Phrase.clause " ") ++ rowsPhrase values

end QueryAudit.Sql.Grammar
