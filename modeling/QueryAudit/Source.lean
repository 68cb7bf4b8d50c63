/-!
# Byte sources

Input arrives in buffers of any size and is taken line by line: a reading goes on through the next
newline, over as many buffers as that takes. After the last buffer the source is at its end, or
every further reading fails.
-/

namespace QueryAudit

/-- The byte that ends a line. -/
def newline : UInt8 := 10

/-- Bytes taken together, and how many of them each buffer gave. -/
structure Line where
  bytes : List UInt8 := []
  pieces : List Nat := []
  deriving DecidableEq, Repr

/-- Take bytes of a further buffer. -/
def Line.add (l : Line) (bytes : List UInt8) : Line :=
  if bytes.isEmpty then l else ⟨l.bytes ++ bytes, l.pieces ++ [bytes.length]⟩

/-- What is behind the last line. -/
inductive Ending where
  | finished
  /-- A failure, and what was taken before it. -/
  | failed (begun : Line) (message : String)
  deriving DecidableEq, Repr

/-- What is still to be read. -/
structure Source where
  lines : List Line
  ending : Ending
  deriving DecidableEq, Repr

/-- The lines that end within a buffer, the first of them already begun, and the line that is
    begun last. `held` are the bytes of it in this buffer, latest first. -/
def cutLines (begun : Line) (held : List UInt8) : List UInt8 → List Line × Line
  | [] => ([], begun.add held.reverse)
  | b :: bs =>
    if b = newline then
      let (lines, last) := cutLines {} [] bs
      (begun.add (b :: held).reverse :: lines, last)
    else cutLines begun (b :: held) bs

/-- Read on, with a line already begun. At the end a line needs no newline. -/
def Source.after (begun : Line) (failure : Option String) : List (List UInt8) → Source
  | [] =>
    match failure with
    | some message => ⟨[], .failed begun message⟩
    | none => ⟨if begun.bytes.isEmpty then [] else [begun], .finished⟩
  | buffer :: buffers =>
    let (lines, last) := cutLines begun [] buffer
    let rest := Source.after last failure buffers
    ⟨lines ++ rest.lines, rest.ending⟩

/-- A source that delivers some buffers and then ends or fails. -/
def Source.ofBuffers (buffers : List (List UInt8)) (failure : Option String) : Source :=
  Source.after {} failure buffers

/-- A source that delivers bytes at once. -/
def Source.ofBytes (bytes : List UInt8) : Source :=
  Source.ofBuffers [bytes] none

/-- How many bytes there are in the lines to come. -/
def Source.size (s : Source) : Nat :=
  (s.lines.flatMap Line.bytes).length

end QueryAudit
