import QueryAudit.Audit
import QueryAudit.Extraction
import QueryAudit.Files

/-!
# Command line

The program has two commands. One audits statements against an index list, the other extracts their
tables and columns. Statements come from a file, or else from standard input. Reports go to
standard output, everything else to standard error.
-/

namespace QueryAudit

/-- What the program is asked to do. -/
inductive Command where
  | check (index : String) (input : Option String) (config : Config)
  | extract (input : Option String) (dialect : Dialect)
  deriving DecidableEq, Repr

/-- Why arguments give no command. -/
inductive Misuse where
  /-- Help is asked for. -/
  | help
  | wrong
  deriving DecidableEq, Repr

namespace CommandLine

/-- The word that a command begins with. -/
inductive Verb where
  | check
  | extract
  deriving DecidableEq, Repr

/-- What can be chosen behind a verb. -/
inductive Choice where
  | index
  | input
  | dialect
  | summary
  | style
  deriving DecidableEq, Repr

def Verb.offers : Verb → Choice → Bool
  | .check, _ => true
  | .extract, c => c = .input || c = .dialect

def Choice.name : Choice → String
  | .index => "index"
  | .input => "input"
  | .dialect => "dialect"
  | .summary => "summary"
  | .style => "style"

def Choice.all : List Choice := [.index, .input, .dialect, .summary, .style]

def dialectNamed? : String → Option Dialect
  | "generic" => some .generic
  | "mysql" => some .mysql
  | "postgres" => some .postgres
  | _ => none

/-- The table style with a name. -/
def styleNamed? : String → Option TableStyle
  | "modern" => some .modern
  | "ascii" => some .ascii
  | "plain" => some .plain
  | _ => none

/-- What was chosen so far. -/
structure Chosen where
  index : Option String := none
  input : Option String := none
  dialect : Option Dialect := none
  summary : Option Bool := none
  style : Option TableStyle := none
  deriving DecidableEq, Repr

/-- Fill a place that is still free with a value that is valid. -/
def fill {α : Type} (place value : Option α) : Except Misuse (Option α) :=
  match place, value with
  | none, some v => .ok (some v)
  | _, _ => .error .wrong

/-- A path; the empty text is none. -/
def path? (text : String) : Option String :=
  if text = "" then none else some text

/-- Choose a value. Nothing is chosen twice. -/
def Chosen.set (c : Chosen) (choice : Choice) (value : String) : Except Misuse Chosen :=
  match choice with
  | .index => (fill c.index (path? value)).map fun v => { c with index := v }
  | .input => (fill c.input (path? value)).map fun v => { c with input := v }
  | .dialect => (fill c.dialect (dialectNamed? value)).map fun v => { c with dialect := v }
  | .style => (fill c.style (styleNamed? value)).map fun v => { c with style := v }
  | .summary => .error .wrong

/-- Choose a summary; it takes no value. -/
def Chosen.setSummary (c : Chosen) : Except Misuse Chosen :=
  (fill c.summary (some true)).map fun v => { c with summary := v }

/-- How an argument reads by itself. -/
inductive Reads where
  /-- A choice, with its value if that is attached. -/
  | choice (c : Choice) (value : Option String)
  | help
  /-- The end of the options. -/
  | fence
  | unknown
  deriving DecidableEq, Repr

/-- A text up to its first equals sign, and what is behind that. -/
def splitValue (cs : List Char) : String × Option String :=
  let name := String.ofList (cs.takeWhile (· ≠ '='))
  match cs.dropWhile (· ≠ '=') with
  | [] => (name, none)
  | _ :: value => (name, some (String.ofList value))

/-- Read an argument behind its two dashes. -/
def readLong (v : Verb) (cs : List Char) : Reads :=
  let (name, value) := splitValue cs
  if name = "help" && value.isNone then .help
  else
    match Choice.all.find? fun c => c.name = name && v.offers c with
    | some c => .choice c value
    | none => .unknown

/-- Read an argument behind its one dash. A value may follow the letter at once or behind an equals
    sign. -/
def readShort (v : Verb) : List Char → Reads
  | 'h' :: _ => .help
  | 'i' :: rest =>
    if v.offers .index then
      match rest with
      | [] => .choice .index none
      | '=' :: value => .choice .index (some (String.ofList value))
      | value => .choice .index (some (String.ofList value))
    else .unknown
  | _ => .unknown

def readArgument (v : Verb) (argument : String) : Reads :=
  match argument.toList with
  | ['-', '-'] => .fence
  | '-' :: '-' :: name => readLong v name
  | '-' :: letters => readShort v letters
  | _ => .unknown

/-- Whether an argument may be the value of the one before it. -/
def isValue (argument : String) : Bool :=
  argument = "-" || !argument.startsWith "-"

/-- Read the arguments behind a verb. -/
def choose (v : Verb) (chosen : Chosen) : List String → Except Misuse Chosen
  | [] => .ok chosen
  | argument :: rest =>
    match readArgument v argument with
    | .help => .error .help
    | .unknown => .error .wrong
    -- there is nothing that could stand behind two dashes
    | .fence => if rest.isEmpty then .ok chosen else .error .wrong
    | .choice .summary none =>
      match chosen.setSummary with
      | .error m => .error m
      | .ok chosen => choose v chosen rest
    | .choice c (some value) =>
      match chosen.set c value with
      | .error m => .error m
      | .ok chosen => choose v chosen rest
    | .choice c none =>
      match rest with
      | [] => .error .wrong
      | value :: rest =>
        if isValue value then
          match chosen.set c value with
          | .error m => .error m
          | .ok chosen => choose v chosen rest
        else .error .wrong

/-- What a wish for help comes to: it names a verb, or help itself, or nothing. -/
def helpAbout : List String → Misuse
  | [] | ["check"] | ["extract"] | ["help"] => .help
  | _ => .wrong

/-- The configuration that was chosen. -/
def Chosen.config (c : Chosen) : Config :=
  { dialect := c.dialect.getD .mysql
    summary := c.summary.getD false
    style := c.style.getD .modern }

end CommandLine

namespace Command

open CommandLine

/-- The command that arguments give. -/
def parse : List String → Except Misuse Command
  | "check" :: rest =>
    match choose .check {} rest with
    | .error m => .error m
    | .ok chosen =>
      match chosen.index with
      | some index => .ok (.check index chosen.input chosen.config)
      | none => .error .wrong
  | "extract" :: rest =>
    match choose .extract {} rest with
    | .error m => .error m
    | .ok chosen => .ok (.extract chosen.input chosen.config.dialect)
  | "help" :: rest => .error (helpAbout rest)
  | argument :: _ =>
    .error (if argument = "--help" || argument.startsWith "-h" then .help else .wrong)
  | [] => .error .wrong

/-- The paths that a command opens, in order. -/
def paths : Command → List String
  | .check index input _ => index :: input.toList
  | .extract input _ => input.toList

/-- Whether a command takes its statements from standard input. -/
def readsStandardInput : Command → Bool
  | .check _ input _ => input.isNone
  | .extract input _ => input.isNone

end Command

/-- What a run of the program leaves behind. -/
structure Completed where
  status : Nat
  output : Output
  /-- What was noted, in order. -/
  notes : List Note := []
  /-- What is noted behind that, if an audit came to its end. -/
  closing : Option Closing := none
  deriving DecidableEq, Repr

namespace CommandLine

/-- End a run with an error. -/
def failed (output : Output) (why : String) : Completed where
  status := 1
  output := (output.writeLine .diag ("error: " ++ why)).state

/-- The statements a command reads: those at its path, or else standard input. -/
def statements (opened : String → Opening) (standardInput : Source) :
    Option String → Except String Source
  | none => .ok standardInput
  | some path =>
    match (opened path).statements with
    | .ok source => .ok source
    | .error why => .error ("failed to open statements file " ++ path ++ ": " ++ why)

/-- End a run with a result. -/
def completed {α : Type} (output : Output) : Except Error α → Completed
  | .ok _ => { status := 0, output }
  | .error e => failed output e.message

/-- The closing note on the counts of an audit. -/
def closingOf (counts : Counts) : Closing :=
  ⟨counts.total, counts.flagged⟩

/-- What paths open, when only some of them were opened. -/
def openedAmong (opened : List (String × Opening)) (path : String) : Opening :=
  (opened.lookup path).getD .missing

/-- The paths that are opened for arguments. -/
def pathsFor (arguments : List String) : List String :=
  ((Command.parse arguments).toOption.map Command.paths).getD []

/-- Whether standard input is read for arguments. -/
def readsInputFor (arguments : List String) : Bool :=
  ((Command.parse arguments).toOption.map Command.readsStandardInput).getD false

/-- How the program is used. -/
def usage : String :=
  "Find SELECT statements that no index can serve\n\n"
    ++ "check -i <INDEX> [--input <FILE>] [--dialect <DIALECT>] [--summary] [--style <STYLE>]\n"
    ++ "extract [--input <FILE>] [--dialect <DIALECT>]\n\n"
    ++ "DIALECT is generic, mysql or postgres; STYLE is modern, ascii or plain."

/-- What arguments that give no command come to. -/
def misused : Misuse → Completed
  | .help => { status := 0, output := (({} : Output).writeLine .out usage).state }
  | .wrong => { status := 2, output := (({} : Output).writeLine .diag usage).state }

end CommandLine

open CommandLine in
/-- What a command comes to, given what paths open. The index list is loaded before statements are
    looked for. -/
def Command.run (opened : String → Opening) (standardInput : Source) : Command → Completed
  | .check index input config =>
    match (opened index).load index with
    | .error e => failed {} ("failed to load index list " ++ index ++ ": " ++ e.message)
    | .ok (catalog, note) =>
      match statements opened standardInput input with
      | .error why => { failed {} why with notes := [note] }
      | .ok source =>
        let done := audit catalog config source {}
        { completed done.output done.result with
          notes := note :: done.notes
          closing := done.result.toOption.map closingOf }
  | .extract input dialect =>
    match statements opened standardInput input with
    | .error why => failed {} why
    | .ok source =>
      let done := QueryAudit.extract dialect source {}
      completed done.output done.result

/-- The program. -/
def run (opened : String → Opening) (standardInput : Source) (arguments : List String) :
    Completed :=
  match Command.parse arguments with
  | .error m => CommandLine.misused m
  | .ok command => command.run opened standardInput

end QueryAudit
