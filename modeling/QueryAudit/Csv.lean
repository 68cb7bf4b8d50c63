import QueryAudit.Catalog
import QueryAudit.Text.Utf8

/-!
# Comma-separated records

Records end at a line feed, a carriage return or both; fields are separated by commas. A field that
begins with a double quote goes on to the next single one, and two double quotes inside it stand for
one; what follows the closing quote belongs to the field as it is. Empty lines are no records, and a
byte order mark at the very front is passed over.
-/

namespace QueryAudit.Csv

/-- A place in a text: lines count from one, bytes from zero. -/
structure Place where
  line : Nat := 1
  byte : Nat := 0
  deriving DecidableEq, Repr

/-- The place after one more byte. -/
def Place.next (p : Place) (b : UInt8) : Place :=
  ⟨if b = 10 then p.line + 1 else p.line, p.byte + 1⟩

/-- A record, and the place where reading it began. -/
structure Record where
  fields : List (List UInt8)
  start : Place
  deriving DecidableEq, Repr

/-- Where reading stands. -/
inductive Mode where
  /-- Before a record. -/
  | record
  /-- Before a field. -/
  | field
  /-- In a field. -/
  | bare
  /-- In a quoted field. -/
  | quoted
  /-- Behind a quote in a quoted field. -/
  | closing
  deriving DecidableEq, Repr

/-- What was read of a record. -/
structure State where
  mode : Mode := .record
  /-- The bytes of the field at hand, latest first. -/
  field : List UInt8 := []
  /-- The fields before it, latest first. -/
  fields : List (List UInt8) := []
  start : Place := {}
  place : Place := {}
  deriving DecidableEq, Repr

namespace State

/-- The record that ends here. -/
def finished (s : State) : Record :=
  ⟨(s.field.reverse :: s.fields).reverse, s.start⟩

/-- The state before the next record. -/
def restarted (s : State) : State :=
  { start := s.place, place := s.place }

/-- The state with a further byte in the field. -/
def push (s : State) (mode : Mode) (b : UInt8) : State :=
  { s with mode, field := b :: s.field }

/-- The state behind a comma. -/
def separated (s : State) : State :=
  { s with mode := .field, field := [], fields := s.field.reverse :: s.fields }

end State

/-- Whether a byte ends a record. -/
def isTerminator (b : UInt8) : Bool :=
  b = 10 || b = 13

/-- What one byte does outside quotes: the state behind it, and the record that it ends. -/
def outside (s : State) (b : UInt8) : State × Option Record :=
  if isTerminator b then (s.restarted, some s.finished)
  -- a comma
  else if b = 44 then (s.separated, none)
  else (s.push .bare b, none)

/-- What one byte does: the state behind it, and the record that it ends. -/
def step (before : State) (b : UInt8) : State × Option Record :=
  let s := { before with place := before.place.next b }
  match s.mode with
  -- an empty line is no record
  | .record =>
    if isTerminator b then (s, none)
    else if b = 34 then ({ s with mode := .quoted }, none)
    else outside s b
  | .field => if b = 34 then ({ s with mode := .quoted }, none) else outside s b
  | .bare => outside s b
  | .quoted => if b = 34 then ({ s with mode := .closing }, none) else (s.push .quoted b, none)
  -- two quotes stand for one; behind a single one the field goes on as it is
  | .closing => if b = 34 then (s.push .quoted b, none) else outside s b

/-- The records from a state on. The end of the text ends a record that was begun. -/
def recordsFrom (s : State) : List UInt8 → List Record
  | [] => if s.mode = .record then [] else [s.finished]
  | b :: bs =>
    match step s b with
    | (s, some r) => r :: recordsFrom s bs
    | (s, none) => recordsFrom s bs

def byteOrderMark : List UInt8 := [0xEF, 0xBB, 0xBF]

def records (text : List UInt8) : List Record :=
  if byteOrderMark.isPrefixOf text then
    -- places count the three bytes of the mark
    recordsFrom { place := ⟨1, 3⟩ } (text.drop 3)
  else recordsFrom {} text

/-- A field that is no text. -/
structure Fault where
  /-- The number of the record, counted from zero. -/
  record : Nat
  start : Place
  /-- The number of the field, counted from zero. -/
  field : Nat
  /-- The number of bytes of the field that are text. -/
  valid : Nat
  deriving DecidableEq, Repr

def Fault.message (f : Fault) : String :=
  s!"CSV parse error: record {f.record} (line {f.start.line}, field: {f.field}, "
    ++ s!"byte: {f.start.byte}): invalid utf-8: invalid UTF-8 in field {f.field} near byte index "
    ++ toString f.valid

/-- The index of the first byte that is not part of a text. -/
def faultIndex : Utf8.Fault → Nat
  | .invalid index _ => index
  | .incomplete index => index

/-- Decode fields on, the next one having a number. -/
def decodeFrom (number : Nat) (r : Record) (field : Nat) :
    List (List UInt8) → Except Fault (List String)
  | [] => .ok []
  | bytes :: rest =>
    match Utf8.decode bytes with
    | .error fault => .error ⟨number, r.start, field, faultIndex fault⟩
    | .ok text =>
      match decodeFrom number r (field + 1) rest with
      | .ok texts => .ok (String.ofList text :: texts)
      | .error fault => .error fault

/-- The fields of a record as text, the record having a number counted from zero. -/
def decode (number : Nat) (r : Record) : Except Fault (List String) :=
  decodeFrom number r 0 r.fields

/-- A failure to read an index list. -/
def unreadable (why : String) : Error :=
  .catalog ("invalid index list: " ++ why)

/-- Load on, the next record having a number counted from zero. -/
def loadFrom (c : Catalog) (number : Nat) : List Record → Except Error Catalog
  | [] => .ok c
  | r :: rs =>
    match decode number r with
    | .error fault => .error (unreadable fault.message)
    | .ok [table, column] => loadFrom (c.add table column) (number + 1) rs
    -- this error counts records from one, faults count them from zero
    | .ok fields => .error (.recordWidth (number + 1) fields.length)

/-- The catalog of a text without headings. -/
def catalog (text : List UInt8) : Except Error Catalog :=
  loadFrom {} 0 (records text)

end QueryAudit.Csv
