/-!
# UTF-8

Decoding of bytes one at a time, by the ranges of the standard: the first byte of a character fixes
how many bytes follow and which range the next one lies in. A fault names the index of the first
byte of the character that could not be completed.
-/

namespace QueryAudit.Utf8

/-- Why bytes are not UTF-8. -/
inductive Fault where
  /-- The `length` bytes from `index` on begin no character. -/
  | invalid (index length : Nat)
  /-- The bytes end within the character that starts at `index`. -/
  | incomplete (index : Nat)
  deriving DecidableEq, Repr

def Fault.message : Fault → String
  | .invalid index length =>
    s!"invalid utf-8 sequence of {length} bytes from index {index}"
  | .incomplete index => s!"incomplete utf-8 byte sequence from index {index}"

/-- A character of which some bytes have been read. -/
structure Partial where
  /-- How many bytes are still to come, at least one. -/
  owed : Nat
  /-- The least value the next byte may have. -/
  low : UInt8
  /-- The greatest value the next byte may have. -/
  high : UInt8
  /-- The bits read so far. -/
  bits : Nat
  /-- How many bytes have been read. -/
  taken : Nat
  deriving DecidableEq, Repr

/-- What one byte does to the decoder. -/
inductive Progress where
  | complete (c : Char)
  | pending (p : Partial)
  | refused
  deriving DecidableEq, Repr

/-- What the first byte of a character says about the rest. -/
def lead (b : UInt8) : Progress :=
  if b < 0x80 then .complete (Char.ofNat b.toNat)
  -- a byte that only continues a character, or one that would spell a character of one byte
  else if b < 0xC2 then .refused
  else if b < 0xE0 then .pending ⟨1, 0x80, 0xBF, b.toNat - 0xC0, 1⟩
  else if b < 0xF0 then
    -- neither characters of two bytes nor surrogates
    .pending ⟨2, if b = 0xE0 then 0xA0 else 0x80, if b = 0xED then 0x9F else 0xBF,
      b.toNat - 0xE0, 1⟩
  else if b < 0xF5 then
    -- neither characters of three bytes nor anything beyond U+10FFFF
    .pending ⟨3, if b = 0xF0 then 0x90 else 0x80, if b = 0xF4 then 0x8F else 0xBF,
      b.toNat - 0xF0, 1⟩
  else .refused

/-- One further byte of a character. -/
def Partial.next (p : Partial) (b : UInt8) : Progress :=
  if p.low ≤ b ∧ b ≤ p.high then
    let bits := p.bits * 64 + (b.toNat - 0x80)
    if p.owed = 1 then .complete (Char.ofNat bits)
    else .pending ⟨p.owed - 1, 0x80, 0xBF, bits, p.taken + 1⟩
  else .refused

/-- Decode on, with the characters before `index` given latest first and perhaps a character
    begun there. -/
def decodeFrom (done : List Char) (index : Nat) :
    Option Partial → List UInt8 → Except Fault (List Char)
  | none, [] => .ok done.reverse
  | some _, [] => .error (.incomplete index)
  | none, b :: bs =>
    match lead b with
    | .complete c => decodeFrom (c :: done) (index + 1) none bs
    | .pending p => decodeFrom done index (some p) bs
    | .refused => .error (.invalid index 1)
  | some p, b :: bs =>
    match p.next b with
    | .complete c => decodeFrom (c :: done) (index + p.taken + 1) none bs
    | .pending q => decodeFrom done index (some q) bs
    | .refused => .error (.invalid index p.taken)

/-- The characters of `bytes`, or the first place where they are not UTF-8. -/
def decode (bytes : List UInt8) : Except Fault (List Char) :=
  decodeFrom [] 0 none bytes

/-- The character that stands for bytes that are not UTF-8. -/
def replacement : Char := '\uFFFD'

/-- What a byte adds between two characters of a text with replacements. -/
def lossyLead (done : List Char) (b : UInt8) : List Char × Option Partial :=
  match lead b with
  | .complete c => (c :: done, none)
  | .pending p => (done, some p)
  | .refused => (replacement :: done, none)

/-- Decode on, writing one replacement character for each fault. -/
def decodeLossyFrom (done : List Char) : Option Partial → List UInt8 → List Char
  | none, [] => done.reverse
  | some _, [] => (replacement :: done).reverse
  | none, b :: bs => decodeLossyFrom (lossyLead done b).1 (lossyLead done b).2 bs
  | some p, b :: bs =>
    match p.next b with
    | .complete c => decodeLossyFrom (c :: done) none bs
    | .pending q => decodeLossyFrom done (some q) bs
    | .refused =>
      decodeLossyFrom (lossyLead (replacement :: done) b).1
        (lossyLead (replacement :: done) b).2 bs

/-- The text of `bytes`, with a replacement character for each run that begins no character. -/
def decodeLossy (bytes : List UInt8) : String :=
  String.ofList (decodeLossyFrom [] none bytes)

/-- The bytes of a text. -/
def encode (text : String) : List UInt8 :=
  text.toUTF8.toList

end QueryAudit.Utf8
