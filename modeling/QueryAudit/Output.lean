import QueryAudit.Error
import QueryAudit.Text.Utf8

/-!
# Output

A run has two channels, one for its reports and one for its diagnostics. Each ends in a sink, which
may accept only so many bytes. A text that does not fit is written as far as it does, and the
writing fails. A sink takes its bytes when they are written, so a flush has nothing to fail at.

What is read, written and flushed is recorded in order. Where a last line has no newline, the end of
the input is met twice, once within the line and once behind it; only the second read is recorded.
-/

namespace QueryAudit

/-- One of the two ways out of a run. -/
inductive Channel where
  | out
  | diag
  deriving DecidableEq, Repr

def Channel.name : Channel → String
  | .out => "out"
  | .diag => "diag"

/-- A place that collects bytes. -/
structure Sink where
  written : List UInt8 := []
  /-- How many bytes are accepted in all. -/
  limit : Option Nat := none
  /-- Whether bytes of some write were refused. -/
  refused : Bool := false
  deriving DecidableEq, Repr

namespace Sink

/-- The bytes at the front of `bytes` that are accepted. -/
def accepted (s : Sink) (bytes : List UInt8) : List UInt8 :=
  match s.limit with
  | none => bytes
  | some n => bytes.take (n - s.written.length)

/-- Whether all of some bytes are accepted. -/
def fits (s : Sink) (bytes : List UInt8) : Bool :=
  (s.accepted bytes).length = bytes.length

/-- The sink with the bytes that it accepts of `bytes`. -/
def write (s : Sink) (bytes : List UInt8) : Sink :=
  { s with
    written := s.written ++ s.accepted bytes
    refused := s.refused || !s.fits bytes }

end Sink

/-- What happens to input and output. -/
inductive Event where
  /-- So many bytes were taken at once, or none because the input was at its end or failed. -/
  | read (count : Nat)
  | write (channel : Channel) (bytes : List UInt8)
  | flush (channel : Channel)
  deriving DecidableEq, Repr

/-- A state, and the failure that ended the work on it. -/
structure Attempt (α : Type) where
  state : α
  failure : Option Error := none
  deriving Repr

/-- Work on, unless there was a failure. -/
def Attempt.andThen {α : Type} (a : Attempt α) (work : α → Attempt α) : Attempt α :=
  match a.failure with
  | some _ => a
  | none => work a.state

/-- Both sinks, and what happened so far. -/
structure Output where
  out : Sink := {}
  diag : Sink := {}
  history : List Event := []
  deriving DecidableEq, Repr

namespace Output

/-- What happened, but for the reads that took nothing. -/
def events (o : Output) : List Event :=
  o.history.filter (· ≠ .read 0)

def sink (o : Output) : Channel → Sink
  | .out => o.out
  | .diag => o.diag

/-- Change the sink of a channel. -/
def setSink (o : Output) (s : Sink) : Channel → Output
  | .out => { o with out := s }
  | .diag => { o with diag := s }

def record (o : Output) (e : Event) : Output :=
  { o with history := o.history ++ [e] }

/-- Record that input was taken, piece by piece. -/
def recordReads (o : Output) (pieces : List Nat) : Output :=
  { o with history := o.history ++ pieces.map .read }

/-- The error of writing to a channel that accepts no more. -/
def full (c : Channel) : Error :=
  .io (c.name ++ " is full")

/-- Write bytes, as far as they are accepted. -/
def writeBytes (o : Output) (c : Channel) (bytes : List UInt8) : Attempt Output :=
  let s := o.sink c
  let kept := s.accepted bytes
  let o := o.setSink (s.write bytes) c
  -- a write of which nothing is accepted leaves no event
  ⟨if kept.isEmpty then o else o.record (.write c kept),
    if s.fits bytes then none else some (full c)⟩

def writeLine (o : Output) (c : Channel) (text : String) : Attempt Output :=
  o.writeBytes c (Utf8.encode (text.push '\n'))

def flush (o : Output) (c : Channel) : Output :=
  o.record (.flush c)

end Output

end QueryAudit
