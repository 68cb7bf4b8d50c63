import QueryAudit.Sql.Dialect
import QueryAudit.Sql.Token

/-!
# The lexer

A scan looks at the front of a text and answers with a token or a blank, which may be a comment,
and with the number of characters it takes. The tokens of a text are the scans one after the other,
each with the place where it starts and the blanks behind it.

Strings come out unescaped: a doubled quote stands for one, and where the dialect has backslash
escapes they are resolved.
-/

namespace QueryAudit.Sql.Lexer

/-- Why a text has no tokens. -/
inductive Fault where
  | unterminatedString
  | unterminatedEscapedString
  | unterminatedDollar
  /-- No dollar mark closes a text with a tag. -/
  | noClosingDollar
  /-- Something else than the tag closes a text with a tag. -/
  | otherTag (tag : String)
  /-- The tag that closes a text is not followed by a dollar mark. -/
  | openDollar
  | unclosedComment
  | unclosedName (close : Char)
  deriving DecidableEq, Repr

def Fault.message : Fault → String
  | .unterminatedString => "Unterminated string literal"
  | .unterminatedEscapedString => "Unterminated encoded string literal"
  | .unterminatedDollar => "Unterminated dollar-quoted string"
  | .noClosingDollar => "Unterminated dollar-quoted, expected $"
  | .otherTag tag => "Unterminated dollar-quoted string at or near \"" ++ tag ++ "\""
  | .openDollar => "Unterminated dollar-quoted string, expected $"
  | .unclosedComment => "Unexpected EOF while in a multi-line comment"
  | .unclosedName close => "Expected close delimiter '" ++ close.toString ++ "' before EOF."

/-- What stands at the front of a text: a token, a blank, or a fault that is reported a number of
    characters further on. -/
inductive Scan where
  | token (t : Token) (length : Nat)
  | blank (b : Blank) (length : Nat)
  | fault (cause : Fault) (offset : Nat)
  deriving DecidableEq, Repr

def Scan.symbol (s : Symbol) (length : Nat) : Scan :=
  .token (.symbol s) length

/-! ### Quoted texts -/

/-- What a character after a backslash stands for. -/
def unescape (c : Char) : Char :=
  match c with
  | '0' => Char.ofNat 0
  | 'b' => Char.ofNat 8
  | 'n' => '\n'
  | 'r' => '\r'
  | 't' => '\t'
  | 'Z' => Char.ofNat 26
  | c => c

/-- The text up to the closing quote and the number of characters through it. A doubled quote
    stands for one; a backslash takes the next character with it where `escapes` holds. -/
def quotedBody (escapes : Bool) (quote : Char) (done : List Char) (taken : Nat) :
    List Char → Option (List Char × Nat)
  | [] => none
  | c :: cs =>
    if c = quote then
      match cs with
      | d :: ds =>
        if d = quote then quotedBody escapes quote (quote :: done) (taken + 2) ds
        else some (done.reverse, taken + 1)
      | [] => some (done.reverse, taken + 1)
    else if escapes && c = '\\' then
      match cs with
      | d :: ds => quotedBody escapes quote (unescape d :: done) (taken + 2) ds
      | [] => none
    else quotedBody escapes quote (c :: done) (taken + 1) cs

/-- A quoted text after some introducing characters, the opening quote being the last of them. -/
def scanQuoted (escapes : Bool) (quoting : Quoting) (quote : Char) (opening : Nat)
    (body : List Char) : Scan :=
  match quotedBody escapes quote [] opening body with
  | some (text, length) => .token (.quoted quoting (String.ofList text)) length
  -- the fault is at the opening quote, the last of the introducing characters
  | none => .fault .unterminatedString (opening - 1)

def scanName (quote : Char) (body : List Char) : Scan :=
  match quotedBody false quote [] 1 body with
  | some (text, length) => .token (.word (Word.quoted text quote)) length
  | none => .fault (.unclosedName quote) 0

/-! ### Strings with escapes -/

/-- What a character after a backslash stands for in a string with escapes. -/
def controlEscape (c : Char) : Char :=
  match c with
  | 'n' => '\n'
  | 'r' => '\r'
  | 't' => '\t'
  | c => c

/-- The text up to the closing quote of a string with escapes and the number of characters through
    it. -/
def escapedBody (done : List Char) (taken : Nat) : List Char → Option (List Char × Nat)
  | [] => none
  | c :: cs =>
    if c = '\'' then
      match cs with
      | d :: ds =>
        if d = '\'' then escapedBody (d :: done) (taken + 2) ds
        else some (done.reverse, taken + 1)
      | [] => some (done.reverse, taken + 1)
    else if c = '\\' then
      match cs with
      | d :: ds => escapedBody (controlEscape d :: done) (taken + 2) ds
      | [] => none
    else escapedBody (c :: done) (taken + 1) cs

/-- A string with escapes, `body` being what follows `E'`. -/
def scanEscaped (body : List Char) : Scan :=
  match escapedBody [] 2 body with
  | some (text, length) => .token (.quoted .escaped (String.ofList text)) length
  | none => .fault .unterminatedEscapedString 0

/-! ### Comments -/

/-- The number of characters through the end of a comment. Comments nest: an opener inside, or one
    made of the last character of a closer and a star, raises the depth. -/
def commentLength (depth : Nat) (last : Char) (taken : Nat) : List Char → Option Nat
  | [] => none
  | c :: cs =>
    if last = '/' ∧ c = '*' then commentLength (depth + 1) c (taken + 1) cs
    else if last = '*' ∧ c = '/' then
      if depth = 1 then some (taken + 1) else commentLength (depth - 1) c (taken + 1) cs
    else commentLength depth c (taken + 1) cs

/-- A comment between `/*` and its end, `body` being what follows the opener. -/
def scanComment (body : List Char) : Scan :=
  match commentLength 1 ' ' 2 body with
  | some length =>
    .blank (.comment (String.ofList ('/' :: '*' :: body.take (length - 2)))) length
  -- a comment that nothing closes is a fault at the end of the text
  | none => .fault .unclosedComment (body.length + 2)

/-- A comment through the end of its line, `body` being what follows the two dashes. -/
def scanLineComment (body : List Char) : Scan :=
  let line := body.takeWhile (· != '\n')
  let text := '-' :: '-' :: body.take (line.length + 1)
  .blank (.comment (String.ofList text)) text.length

/-! ### Dollar marks -/

/-- The text up to two dollar marks in a row; `held` says that the last character was a dollar
    mark, which belongs to the text if another character follows. -/
def dollarBody (done : List Char) (held : Bool) (taken : Nat) :
    List Char → Option (List Char × Nat)
  | [] => none
  | c :: cs =>
    if held then
      if c = '$' then some (done.reverse, taken + 1)
      else dollarBody (c :: '$' :: done) false (taken + 1) cs
    else if c = '$' then dollarBody done true (taken + 1) cs
    else dollarBody (c :: done) false (taken + 1) cs

/-- How many characters of a text it takes to find a tag and a dollar mark at its front, or to see
    that they are not there, which includes the character that differs from the tag. -/
def closeTag (tag : List Char) (taken : Nat) : List Char → List Char → Except (Fault × Nat) Nat
  | [], '$' :: _ => .ok (taken + 1)
  | [], _ => .error (.openDollar, taken)
  | _ :: _, [] => .error (.otherTag (String.ofList tag), taken)
  | t :: ts, c :: cs =>
    if c = t then closeTag tag (taken + 1) ts cs
    else .error (.otherTag (String.ofList tag), taken + 1)

/-- A text after a dollar mark, a tag and another dollar mark. It ends at the next dollar mark,
    behind which the tag and a dollar mark have to follow. -/
def scanTagged (tag body : List Char) : Scan :=
  let opening := tag.length + 2
  let text := body.takeWhile (· != '$')
  match body.drop text.length with
  | [] => .fault .noClosingDollar (opening + text.length)
  | _ :: rest =>
    match closeTag tag (opening + text.length + 1) tag rest with
    | .ok length => .token (.dollar (String.ofList text)
        (if tag.isEmpty then none else some (String.ofList tag))) length
    | .error (cause, offset) => .fault cause offset

/-- A text between dollar marks or a placeholder, `rest` being what follows the first mark. -/
def scanDollar (rest : List Char) : Scan :=
  match rest with
  | '$' :: body =>
    match dollarBody [] false 2 body with
    | some (text, length) => .token (.dollar (String.ofList text) none) length
    | none => .fault .unterminatedDollar (body.length + 2)
  | _ =>
    -- a tag if another dollar mark follows, and else the name of a placeholder
    let tag := rest.takeWhile fun c =>
      Letters.isAlphabetic c || Letters.isNumeric c || c = '_'
    match rest.drop tag.length with
    | '$' :: body => scanTagged tag body
    | _ => .token (.placeholder (String.ofList ('$' :: tag))) (tag.length + 1)

/-! ### Words and numbers -/

/-- A word that starts with given characters, `rest` being what follows them. -/
def scanWord (d : Dialect) (first rest : List Char) : Scan :=
  let more := rest.takeWhile d.isWordPart
  .token (.word (Word.bare (first ++ more))) (first.length + more.length)

/-- The exponent at the front of a text: its characters, empty if no digit belongs to it, and
    whether it looks like one at all. -/
def exponent (text : List Char) : List Char × Bool :=
  match text with
  | e :: rest =>
    if e = 'e' || e = 'E' then
      let sign := rest.take 1 |>.filter fun c => c = '+' || c = '-'
      let digits := (rest.drop sign.length).takeWhile Char.isDigit
      -- `e` and `e+` without a digit look like an exponent and are none
      (if digits.isEmpty then [] else e :: sign ++ digits, true)
    else ([], false)
  | [] => ([], false)

/-- A number, a period, or in some dialects a word that begins with digits. -/
def scanNumber (d : Dialect) (text : List Char) : Scan :=
  let whole := text.takeWhile Char.isDigit
  let rest := text.drop whole.length
  if whole = ['0'] ∧ rest.head? = some 'x' then
    let digits := (rest.drop 1).takeWhile Letters.isHexDigit
    .token (.quoted .hex (String.ofList digits)) (2 + digits.length)
  else
    let point := rest.take 1 |>.filter (· = '.')
    let fraction := (rest.drop point.length).takeWhile Char.isDigit
    let plain := whole ++ point ++ fraction
    -- a period without a digit on either side
    if plain = ['.'] then .symbol .period 1
    else
      let rest := text.drop plain.length
      let (power, powerLike) := exponent rest
      let digits := plain ++ power
      let rest := rest.drop power.length
      -- no word begins with digits and what looks like an exponent
      let word := if d.digitsBeginWords && !powerLike then rest.takeWhile d.isWordPart else []
      if !word.isEmpty then
        .token (.word (Word.bare (digits ++ word))) (digits.length + word.length)
      else if rest.head? = some 'L' then
        .token (.number (String.ofList digits) true) (digits.length + 1)
      else .token (.number (String.ofList digits) false) digits.length

/-! ### Symbols -/

/-- A sign that may begin a word, `written` being what was read with it and `rest` what follows. -/
def scanSign (d : Dialect) (sign : Char) (written rest : List Char) (s : Symbol) : Scan :=
  match rest with
  -- in front of a blank a sign is a symbol in every dialect
  | ' ' :: _ => .symbol s written.length
  | c :: cs =>
    if d.isWordStart sign then scanWord d (written ++ [c]) cs else .symbol s written.length
  | [] => .symbol s written.length

/-- A token that starts with `!`. -/
def scanExclamation : List Char → Scan
  | '=' :: _ => .symbol .neq 2
  | '!' :: _ => .symbol .doubleExclamation 2
  | '~' :: '~' :: '*' :: _ => .symbol .exclamationDoubleTildeAsterisk 4
  | '~' :: '~' :: _ => .symbol .exclamationDoubleTilde 3
  | '~' :: '*' :: _ => .symbol .exclamationTildeAsterisk 3
  | '~' :: _ => .symbol .exclamationTilde 2
  | _ => .symbol .exclamation 1

/-- A token that starts with `<`. -/
def scanLess : List Char → Scan
  | '=' :: '>' :: _ => .symbol .spaceship 3
  | '=' :: _ => .symbol .ltEq 2
  | '>' :: _ => .symbol .neq 2
  | '<' :: _ => .symbol .shiftLeft 2
  | '@' :: _ => .symbol .arrowAt 2
  | _ => .symbol .lt 1

/-- A token that starts with `|`. -/
def scanPipe : List Char → Scan
  | '/' :: _ => .symbol .squareRoot 2
  | '|' :: '/' :: _ => .symbol .cubeRoot 3
  | '|' :: _ => .symbol .concat 2
  | _ => .symbol .pipe 1

/-- A token that starts with `-`. -/
def scanMinus : List Char → Scan
  | '-' :: body => scanLineComment body
  | '>' :: '>' :: _ => .symbol .longArrow 3
  | '>' :: _ => .symbol .arrow 2
  | _ => .symbol .minus 1

/-- A token that starts with `/`. -/
def scanSlash (d : Dialect) : List Char → Scan
  | '*' :: body => scanComment body
  | '/' :: _ => if d.slashSlashDivides then .symbol .intDiv 2 else .symbol .div 1
  | _ => .symbol .div 1

/-- A token that starts with `~`. -/
def scanTilde : List Char → Scan
  | '*' :: _ => .symbol .tildeAsterisk 2
  | '~' :: '*' :: _ => .symbol .doubleTildeAsterisk 3
  | '~' :: _ => .symbol .doubleTilde 2
  | _ => .symbol .tilde 1

/-- A token that starts with `#`. -/
def scanHash (d : Dialect) : List Char → Scan
  | '-' :: _ => .symbol .hashMinus 2
  | '>' :: '>' :: _ => .symbol .hashLongArrow 3
  | '>' :: _ => .symbol .hashArrow 2
  | rest => scanSign d '#' ['#'] rest .sharp

/-- A token that starts with `@`. -/
def scanAt (d : Dialect) : List Char → Scan
  | '>' :: _ => .symbol .atArrow 2
  | '?' :: _ => .symbol .atQuestion 2
  | '@' :: rest => scanSign d '@' ['@', '@'] rest .atAt
  | rest => scanSign d '@' ['@'] rest .at

/-- One of two symbols, by whether the given character comes next. -/
def scanPair (second : Char) (long short : Symbol) : List Char → Scan
  | c :: _ => if c = second then .symbol long 2 else .symbol short 1
  | [] => .symbol short 1

/-- A token that starts with `=`. -/
def scanEquals : List Char → Scan
  | '>' :: _ => .symbol .rightArrow 2
  | '=' :: _ => .symbol .doubleEq 2
  | _ => .symbol .eq 1

/-- A token that starts with `>`. -/
def scanGreater : List Char → Scan
  | '=' :: _ => .symbol .gtEq 2
  | '>' :: _ => .symbol .shiftRight 2
  | _ => .symbol .gt 1

/-- A token that starts with `:`. -/
def scanColon : List Char → Scan
  | ':' :: _ => .symbol .doubleColon 2
  | '=' :: _ => .symbol .assign 2
  | _ => .symbol .colon 1

/-- A letter that introduces a quoted text if a quote follows, and else begins a word. -/
def scanIntroduced (d : Dialect) (c : Char) (rest : List Char) : Scan :=
  let word := scanWord d [c] rest
  match rest with
  | '\'' :: body =>
    if c = 'N' || c = 'n' then scanQuoted d.backslashEscapes .national '\'' 2 body
    else if c = 'X' || c = 'x' then scanQuoted d.backslashEscapes .hex '\'' 2 body
    else if c = 'E' || c = 'e' then scanEscaped body
    else if d.byteAndRawStrings && (c = 'B' || c = 'b') then
      scanQuoted d.backslashEscapes .byteSingle '\'' 2 body
    else if d.byteAndRawStrings && (c = 'R' || c = 'r') then
      scanQuoted d.backslashEscapes .raw '\'' 2 body
    else word
  | '"' :: body =>
    if d.byteAndRawStrings && (c = 'B' || c = 'b') then
      scanQuoted d.backslashEscapes .byteDouble '"' 2 body
    else if d.byteAndRawStrings && (c = 'R' || c = 'r') then
      scanQuoted d.backslashEscapes .raw '"' 2 body
    else word
  | _ => word

/-- A token that starts with a character without a rule of its own. -/
def scanOther (d : Dialect) (c : Char) (rest : List Char) : Scan :=
  if d.isNameQuote c then scanName c rest
  else if c = '"' then scanQuoted d.backslashEscapes .double '"' 1 rest
  else if d.isWordStart c then scanIntroduced d c rest
  else if c = '$' then scanDollar rest
  else if Letters.isBlank c then .blank .space 1
  else .token (.stray c) 1

/-- What stands at the front of a text that starts with `c`. -/
def scan (d : Dialect) (c : Char) (rest : List Char) : Scan :=
  match c with
  | ' ' => .blank .space 1
  | '\t' => .blank .tab 1
  | '\n' => .blank .newline 1
  | '\r' => .blank .newline (if rest.head? = some '\n' then 2 else 1)
  | '\'' => scanQuoted d.backslashEscapes .single '\'' 1 rest
  | '.' => scanNumber d (c :: rest)
  | '(' => .symbol .lparen 1
  | ')' => .symbol .rparen 1
  | ',' => .symbol .comma 1
  | '-' => scanMinus rest
  | '/' => scanSlash d rest
  | '+' => .symbol .plus 1
  | '*' => .symbol .mul 1
  | '%' => .symbol .mod 1
  | '|' => scanPipe rest
  | '=' => scanEquals rest
  | '!' => scanExclamation rest
  | '<' => scanLess rest
  | '>' => scanGreater rest
  | ':' => scanColon rest
  | ';' => .symbol .semicolon 1
  | '\\' => .symbol .backslash 1
  | '[' => .symbol .lbracket 1
  | ']' => .symbol .rbracket 1
  | '&' => scanPair '&' .overlap .ampersand rest
  | '^' => scanPair '@' .caretAt .caret rest
  | '\x7b' => .symbol .lbrace 1
  | '\x7d' => .symbol .rbrace 1
  | '~' => scanTilde rest
  | '#' => scanHash d rest
  | '@' => scanAt d rest
  | '?' =>
    let digits := rest.takeWhile Letters.isNumeric
    .token (.placeholder (String.ofList ('?' :: digits))) (digits.length + 1)
  | c => if c.isDigit then scanNumber d (c :: rest) else scanOther d c rest

/-! ### All tokens -/

/-- A fault and the place it is reported at. -/
structure Failure where
  cause : Fault
  position : Position
  deriving DecidableEq, Repr

/-- Keep a blank with the latest of the tokens so far, which are given latest first. Blanks before
    the first token are dropped. -/
def addBlank (b : Blank) : List Located → List Located
  | [] => []
  | t :: ts => { t with behind := b :: t.behind } :: ts

/-- Scan on from a place, with the tokens so far given latest first. Each round takes at least one
    character, so the length of the text bounds the rounds. -/
def tokensFrom (d : Dialect) :
    Nat → List Located → Position → List Char → Except Failure (List Located)
  | 0, done, _, _ => .ok done.reverse
  | _ + 1, done, _, [] => .ok done.reverse
  | rounds + 1, done, p, c :: cs =>
    match scan d c cs with
    | .token t n =>
      tokensFrom d rounds (⟨t, p, []⟩ :: done) (p.advance ((c :: cs).take n)) ((c :: cs).drop n)
    | .blank b n =>
      tokensFrom d rounds (addBlank b done) (p.advance ((c :: cs).take n)) ((c :: cs).drop n)
    | .fault cause offset => .error ⟨cause, p.advance ((c :: cs).take offset)⟩

def tokens (d : Dialect) (text : List Char) : Except Failure (List Located) :=
  tokensFrom d text.length [] {} text

end QueryAudit.Sql.Lexer
