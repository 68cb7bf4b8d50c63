import QueryAudit.Splitter
import QueryAudit.Sql.Grammar.Command
import QueryAudit.Sql.Lexer
import QueryAudit.Statement
import QueryAudit.Text.Utf8

/-!
# Reading statements

Statements are read one at a time. Each statement text is decoded and split into tokens on its own,
and input is taken only through the line on which the statement ends. Texts without a token are
passed over. Nothing is read behind the first error.
-/

namespace QueryAudit

/-- A statement, or why there is none. -/
abbrev Item := Except Error Statement

/-- Why a text has no statement where one should be. -/
inductive TextFault where
  | utf8 (fault : Utf8.Fault)
  | lexical (failure : Sql.Lexer.Failure)
  | grammatical (error : Sql.SyntaxError)
  deriving Repr

def TextFault.message : TextFault → String
  | .utf8 fault => "statement is not valid UTF-8: " ++ fault.message
  | .lexical failure =>
    "sql parser error: " ++ failure.cause.message ++ failure.position.suffix
  | .grammatical error => error.message

def TextFault.error (fault : TextFault) : Error :=
  .parse ("SQL parse error: " ++ fault.message)

namespace Stream

open Sql

/-- The tokens behind leading semicolons. -/
def afterSemicolons (ts : List Located) : List Located :=
  ts.dropWhile fun t => t.token = .symbol .semicolon

/-- What reads a statement at the front of tokens. -/
abbrev Parse := List Located → Outcome Sql.Statement

/-- The statement at the front of tokens, and the tokens behind it. A semicolon or the end of the
    text has to follow. -/
def first (parse : Parse) (ts : List Located) :
    Except SyntaxError (Sql.Statement × List Located) :=
  match parse ts with
  | .failed e _ => .error e
  | .parsed statement rest =>
    match rest with
    | [] => .ok (statement, rest)
    | t :: _ =>
      if t.token = .symbol .semicolon then .ok (statement, rest) else .error (.trailing t.token)

/-- The statements of tokens, through the first error. Each statement takes a token, so the number
    of tokens bounds the rounds. -/
def itemsFor (parse : Parse) : Nat → List Located → List Item
  | 0, _ => []
  | rounds + 1, ts =>
    match afterSemicolons ts with
    | [] => []
    | t :: ts =>
      match first parse (t :: ts) with
      | .error e => [.error (TextFault.grammatical e).error]
      | .ok (statement, rest) => .ok (.classify statement) :: itemsFor parse rounds rest

/-- The statements of tokens, through the first error. -/
def items (d : Dialect) (ts : List Located) : List Item :=
  itemsFor (Grammar.parseStatement d) (ts.length + 1) ts

/-- The statements of a text, through the first error. -/
def ofText (d : Dialect) (text : List UInt8) : List Item :=
  match Utf8.decode text with
  | .error fault => [.error (TextFault.utf8 fault).error]
  | .ok chars =>
    match Lexer.tokens d chars with
    | .error failure => [.error (TextFault.lexical failure).error]
    | .ok ts => items d ts

end Stream

/-- A source being read. -/
structure Reader where
  dialect : Dialect
  source : Source
  splitter : Splitter := {}
  /-- Items that were read but not handed out. -/
  pending : List Item := []
  /-- Whether nothing more is to be read. -/
  finished : Bool := false

/-- An item, if there was one, how many bytes each read took for it, and the reader behind it. -/
structure Reading where
  item : Option Item
  pieces : List Nat
  reader : Reader

namespace Reader

/-- A reader at the start of a source. -/
def start (d : Dialect) (source : Source) : Reader :=
  { dialect := d, source }

/-- Whether an item is an error. -/
def isError : Item → Bool
  | .error _ => true
  | .ok _ => false

/-- Hand out an item; an error is the last one. -/
def handOut (r : Reader) (pieces : List Nat) (item : Item) (rest : List Item) : Reading :=
  if isError item then
    ⟨some item, pieces, { r with pending := [], finished := true }⟩
  else ⟨some item, pieces, { r with pending := rest }⟩

/-- Read texts until one of them has an item, at most so many of them. -/
def fill (r : Reader) (pieces : List Nat) : Nat → Reading
  | 0 => ⟨none, pieces, { r with finished := true }⟩
  | rounds + 1 =>
    match r.pending with
    | item :: rest => r.handOut pieces item rest
    | [] =>
      let d := r.splitter.next r.dialect r.source
      let r := { r with splitter := d.splitter, source := d.source }
      let pieces := pieces ++ d.pieces
      match d.delivery with
      | .finished => ⟨none, pieces, { r with finished := true }⟩
      | .failed message => r.handOut pieces (.error (.io message)) []
      | .text bytes => fill { r with pending := Stream.ofText r.dialect bytes } pieces rounds

/-- How many bytes are not handed out yet. -/
def size (r : Reader) : Nat :=
  r.splitter.size + r.source.size

/-- The next item. Each text takes a byte, so the number of bytes bounds the texts to look at. -/
def next (r : Reader) : Reading :=
  if r.finished then ⟨none, [], r⟩ else r.fill [] (r.size + 2)

/-- All readings through the first one without an item, at most so many. -/
def readingsFor (r : Reader) : Nat → List Reading
  | 0 => []
  | rounds + 1 =>
    let reading := r.next
    match reading.item with
    | none => [reading]
    | some _ => reading :: readingsFor reading.reader rounds

/-- All readings through the first one without an item. Each statement takes a byte, and one more
    reading may be an error, another one finds the end. -/
def readings (r : Reader) : List Reading :=
  r.readingsFor (r.pending.length + r.size + 2)

def items (r : Reader) : List Item :=
  r.readings.filterMap Reading.item

end Reader

end QueryAudit
