import QueryAudit.Config
import QueryAudit.Source
import QueryAudit.Sql.Dialect

/-!
# Cutting input into statements

A statement ends at a semicolon outside quotes and comments. The cut is made on bytes, with a mode
that says what the bytes so far leave open and one byte of lookahead. Lines are read only as far as
the statement that is asked for requires.

In MySQL a backslash takes the next byte with it in single and double quotes, and `#` begins a
comment; comments do not nest.
-/

namespace QueryAudit

/-- What the bytes so far leave open. -/
inductive Mode where
  | code
  /-- Within quotes of the given kind. -/
  | quoted (quote : UInt8)
  /-- Behind a backslash within quotes. -/
  | escaped (quote : UInt8)
  | lineComment
  | blockComment
  /-- Before the second dash of a comment's opener. -/
  | lineOpener
  /-- Before the star of a comment's opener. -/
  | blockOpener
  /-- Before the slash of a comment's closer. -/
  | blockCloser
  deriving DecidableEq, Repr, Inhabited

namespace Mode

/-- The byte that ends a statement. -/
def semicolon : UInt8 := 59

/-- Bytes that open quotes: single, double and back quotes. -/
def isQuote (b : UInt8) : Bool :=
  b = 39 || b = 34 || b = 96

/-- The mode behind a byte of code. -/
def afterCode (d : Dialect) (b : UInt8) (next : Option UInt8) : Mode :=
  if isQuote b then .quoted b
  -- `--`, `#` and `/*`
  else if b = 45 && next = some 45 then .lineOpener
  else if b = 35 && d.hashComments then .lineComment
  else if b = 47 && next = some 42 then .blockOpener
  else .code

/-- The mode behind a byte within quotes. -/
def afterQuoted (d : Dialect) (quote b : UInt8) : Mode :=
  if b = quote then .code
  -- a backslash between back quotes is a character like any other
  else if b = 92 && d.backslashEscapes && quote ≠ 96 then .escaped quote
  else .quoted quote

/-- The mode behind a byte, given the byte after it. -/
def next (d : Dialect) (m : Mode) (b : UInt8) (next : Option UInt8) : Mode :=
  match m with
  | .code => afterCode d b next
  | .quoted quote => afterQuoted d quote b
  | .escaped quote => .quoted quote
  | .lineComment => if b = newline then .code else .lineComment
  | .blockComment => if b = 42 && next = some 47 then .blockCloser else .blockComment
  | .lineOpener => .lineComment
  | .blockOpener => .blockComment
  | .blockCloser => .code

end Mode

/-- Bytes that were read but not handed out. -/
structure Splitter where
  mode : Mode := .code
  /-- The bytes of the statement at hand, latest first. -/
  seen : List UInt8 := []
  /-- The bytes behind them that were read. -/
  ahead : List UInt8 := []
  deriving DecidableEq, Repr

/-- What looking at all bytes that were read comes to. -/
inductive Cut where
  /-- A statement ended; the rest is still ahead. -/
  | found (text : List UInt8) (rest : List UInt8)
  /-- More has to be read. -/
  | unfinished (mode : Mode) (seen : List UInt8)
  deriving DecidableEq, Repr

/-- Look at the bytes ahead, up to the end of a statement. -/
def cut (d : Dialect) (mode : Mode) (seen : List UInt8) : List UInt8 → Cut
  | [] => .unfinished mode seen
  | b :: bs =>
    if mode = .code && b = Mode.semicolon then .found seen.reverse bs
    else cut d (mode.next d b bs.head?) (b :: seen) bs

/-- What asking for a statement text comes to. -/
inductive Delivery where
  | text (bytes : List UInt8)
  | finished
  | failed (message : String)
  deriving DecidableEq, Repr

/-- A delivery, how many bytes each read took for it, and what is left. The read that finds the end
    of the source or fails took none. -/
structure Delivered where
  delivery : Delivery
  pieces : List Nat
  splitter : Splitter
  source : Source
  deriving DecidableEq, Repr

namespace Splitter

/-- Look for the end of a statement in the bytes ahead and then in the lines to come. Text behind
    the last semicolon is handed out at the end, whatever it leaves open. -/
def search (d : Dialect) (mode : Mode) (seen ahead : List UInt8) (ending : Ending)
    (pieces : List Nat) : List Line → Delivered
  | [] =>
    match cut d mode seen ahead with
    | .found text rest => ⟨.text text, pieces, ⟨.code, [], rest⟩, ⟨[], ending⟩⟩
    | .unfinished mode seen =>
      match ending with
      | .finished =>
        -- bytes behind the last semicolon are a text, whatever they leave open
        ⟨if seen.isEmpty then .finished else .text seen.reverse, pieces ++ [0], {}, ⟨[], ending⟩⟩
      -- the bytes of the line that was begun are kept, but not looked at
      | .failed begun message =>
        ⟨.failed message, pieces ++ begun.pieces ++ [0], ⟨mode, seen, begun.bytes⟩,
          ⟨[], .failed {} message⟩⟩
  | line :: lines =>
    match cut d mode seen ahead with
    | .found text rest => ⟨.text text, pieces, ⟨.code, [], rest⟩, ⟨line :: lines, ending⟩⟩
    | .unfinished mode seen =>
      search d mode seen line.bytes ending (pieces ++ line.pieces) lines

/-- The next statement text, without its semicolon. -/
def next (d : Dialect) (s : Splitter) (source : Source) : Delivered :=
  search d s.mode s.seen s.ahead source.ending [] source.lines

/-- How many bytes were read but not handed out. -/
def size (s : Splitter) : Nat :=
  s.seen.length + s.ahead.length

end Splitter

end QueryAudit
