import QueryAudit.Text.Width.Class

/-!
# Width on a terminal

How many columns a text takes when it is shown. Mostly each character adds its own columns, but
some sequences are shown as one sign: emoji with a selector or a skin tone, emoji joined by a
zero-width joiner, and ligatures of a few scripts. What a character adds depends on what follows
it, so a text is read from its end.
-/

namespace QueryAudit.Width

/-- What the characters behind a place begin with, as far as the character before them may join
    it. `joined` says that a zero-width joiner comes first. -/
inductive Sign where
  | plain
  /-- A skin tone. -/
  | tone
  /-- One regional indicator. -/
  | flagLetter
  /-- Several regional indicators. -/
  | flagLetters
  | emoji
  /-- A joiner and an emoji. -/
  | joinedEmoji
  /-- A keycap, a joiner and an emoji. -/
  | joinedKeycap
  /-- One regional indicator, a joiner and an emoji. -/
  | joinedFlagLetter
  /-- Regional indicators in pairs, a joiner and an emoji. -/
  | joinedFlags
  /-- An odd number of regional indicators from three on, a joiner and an emoji. -/
  | joinedFlagsAndLetter
  /-- The end of a tag of which so many letters are read, a joiner and an emoji. -/
  | tagLetters (count : Nat)
  /-- The same with digits. -/
  | tagDigits (count : Nat)
  /-- The Arabic letter alef. -/
  | alef
  /-- The Hebrew letter lamed. -/
  | lamed (joined : Bool)
  /-- The Buginese letter ya. -/
  | ya (joined : Bool)
  /-- The Buginese vowel sign i and a joined ya. -/
  | vowelYa
  /-- A Tifinagh consonant. -/
  | consonant (joined : Bool)
  /-- The Tifinagh joiner and a consonant. -/
  | joinerConsonant
  /-- A second half of a Lisu tone. -/
  | lisuTone
  /-- The Old Turkic letter i. -/
  | orkhonI (joined : Bool)
  /-- A Khmer letter that may be written below another. -/
  | khmerLetter
  /-- The Kirat Rai vowel sign e. -/
  | vowelE
  /-- The Kirat Rai vowel sign ai. -/
  | vowelAi
  deriving DecidableEq, Repr

/-- A sign of a script, which keeps the selectors in front of it apart from itself. -/
def Sign.isLetter : Sign → Bool
  | .alef | .lamed _ | .ya _ | .vowelYa | .consonant _ | .joinerConsonant | .lisuTone
  | .orkhonI _ | .khmerLetter => true
  | _ => false

/-- A sign of a script that forms ligatures over marks which take no column. -/
def Sign.seesThrough (s : Sign) : Bool :=
  s.isLetter && s ≠ .alef

/-- A joiner in front of a sign of a script. -/
def Sign.join : Sign → Sign
  | .lamed _ => .lamed true
  | .ya _ => .ya true
  | .consonant _ => .consonant true
  | .orkhonI _ => .orkhonI true
  | s => s

/-- What is behind a character: a sign, and the selectors in front of it. -/
structure Behind where
  sign : Sign := .plain
  /-- The selector that asks for the emoji form. -/
  emojiForm : Bool := false
  /-- The selector that asks for the text form. -/
  textForm : Bool := false
  /-- The selector that asks for the wide form of a quotation mark. -/
  wideForm : Bool := false
  deriving DecidableEq, Repr

/-- An emoji joined behind a place, to which an emoji with its selector may be joined. -/
def Behind.isJoined (b : Behind) : Bool :=
  b.sign = .joinedEmoji || b.sign = .joinedKeycap

/-- The selector for the emoji form in front of what is behind. -/
def Behind.askEmoji (b : Behind) : Behind :=
  if b.sign.isLetter || b.isJoined then ⟨b.sign, true, b.textForm, b.wideForm⟩
  else ⟨.plain, true, false, false⟩

/-- The selector for the text form in front of what is behind. -/
def Behind.askText (b : Behind) : Behind :=
  if b.sign.isLetter then ⟨b.sign, b.emojiForm, true, b.wideForm⟩
  else ⟨.plain, false, true, false⟩

/-- The selector for the wide form in front of what is behind. -/
def Behind.askWide (b : Behind) : Behind :=
  if b.sign.isLetter then ⟨b.sign, b.emojiForm, b.textForm, true⟩
  else ⟨.plain, false, false, true⟩

/-- What is behind once the selector for the emoji form has met a character without one. -/
def Behind.dropEmoji (b : Behind) : Behind :=
  if b.sign.isLetter then ⟨b.sign, false, b.textForm, b.wideForm⟩ else {}

/-! ### Characters of their own -/

/-- A code point from one to another. -/
def between (low high : Nat) (c : Char) : Bool :=
  low ≤ c.toNat && c.toNat ≤ high

/-- A regional indicator, two of which make a flag. -/
def isFlagLetter : Char → Bool :=
  between 0x1F1E6 0x1F1FF

def isTone : Char → Bool :=
  between 0x1F3FB 0x1F3FF

def isTifinagh (c : Char) : Bool :=
  between 0x2D31 0x2D65 c || c.toNat = 0x2D6F

/-- A Khmer letter that may be written below another. -/
def isKhmerLetter (c : Char) : Bool :=
  inRanges c.toNat
    [(0x1780, 0x1782), (0x1784, 0x1787), (0x1789, 0x178C), (0x178E, 0x1793), (0x1795, 0x1798),
     (0x179B, 0x179D), (0x17A0, 0x17A0), (0x17A2, 0x17A2), (0x17A7, 0x17A7), (0x17AB, 0x17AC),
     (0x17AF, 0x17AF)]

/-- An Arabic letter of the shape of alef. -/
def isAlef (c : Char) : Bool :=
  inRanges c.toNat
    [(0x622, 0x623), (0x625, 0x625), (0x627, 0x627), (0x671, 0x673), (0x675, 0x675),
     (0x773, 0x774), (0x870, 0x882)]

/-- An Arabic letter of the shape of lam. -/
def isLam (c : Char) : Bool :=
  inRanges c.toNat
    [(0x644, 0x644), (0x6B5, 0x6B8), (0x76A, 0x76A), (0x8A6, 0x8A6), (0x8C7, 0x8C7)]

/-- The columns of a character alone, and the sign it is for the character before it. -/
def alone (c : Char) : Int × Behind :=
  if isFlagLetter c then (1, { sign := .flagLetter })
  else if isTone c then (2, { sign := .tone })
  else if isEmoji c then (2, { sign := .emoji })
  else if c.toNat = 0xFE0F then (0, { emojiForm := true })
  else if c.toNat = 0xFE0E then (0, { textForm := true })
  else if c.toNat = 0xFE01 then (0, { wideForm := true })
  else if isAlef c then (1, { sign := .alef })
  else if c.toNat = 0x5DC then (1, { sign := .lamed false })
  else if c.toNat = 0x1A10 then (1, { sign := .ya false })
  else if isTifinagh c then (1, { sign := .consonant false })
  else if between 0xA4FC 0xA4FD c then (1, { sign := .lisuTone })
  else if c.toNat = 0x10C03 then (1, { sign := .orkhonI false })
  else if isKhmerLetter c then (1, { sign := .khmerLetter })
  else if c.toNat = 0x16D67 then (1, { sign := .vowelE })
  else if c.toNat = 0x16D68 then (1, { sign := .vowelAi })
  else if c.toNat = 0x17D8 then (3, {})
  else if isZero c then (0, {})
  else if isWide c then (2, {})
  else (1, {})

/-! ### Characters in front of a sign -/

/-- What a regional indicator adds in front of a sign. -/
def addFlagLetter : Sign → Option (Int × Sign)
  | .flagLetter | .flagLetters => some (1, .flagLetters)
  | .joinedEmoji => some (1, .joinedFlagLetter)
  | .joinedFlagLetter | .joinedFlagsAndLetter => some (-1, .joinedFlags)
  | .joinedFlags => some (3, .joinedFlagsAndLetter)
  | _ => none

/-- What a part of a tag adds in front of a sign: the end of the tag, letters and digits of it,
    and the flag that is tagged. -/
def addTag (c : Char) : Sign → Option (Int × Sign)
  | .joinedEmoji => if c.toNat = 0xE007F then some (0, .tagLetters 0) else none
  | .tagLetters n =>
    if between 0xE0061 0xE007A c && n < 6 then some (0, .tagLetters (n + 1))
    else if between 0xE0030 0xE0039 c && n < 5 then some (0, .tagDigits 1)
    else if c.toNat = 0x1F3F4 && 3 ≤ n then some (0, .emoji)
    else none
  | .tagDigits n =>
    if between 0xE0030 0xE0039 c && n < 3 then some (0, .tagDigits (n + 1))
    else if c.toNat = 0x1F3F4 && n = 3 then some (0, .emoji)
    else none
  | _ => none

/-- What a character adds in front of an emoji, or of a part of one. -/
def addEmoji (c : Char) (s : Sign) : Option (Int × Sign) :=
  if s = .tone && takesTone c then some (0, .emoji)
  else if isFlagLetter c && (addFlagLetter s).isSome then addFlagLetter s
  else if c.toNat = 0x200D && [.emoji, .flagLetters, .joinedFlags, .joinedFlagsAndLetter,
      .tone].contains s then
    some (0, .joinedEmoji)
  else if s = .joinedEmoji && c.toNat = 0x20E3 then some (0, .joinedKeycap)
  else if s = .joinedEmoji && isTone c then some (0, .tone)
  else if (addTag c s).isSome then addTag c s
  else if s = .joinedEmoji && isEmoji c then some (0, .emoji)
  else none

/-- What a character adds that forms a ligature with a sign of a script. -/
def addLetter (c : Char) (s : Sign) : Option (Int × Sign) :=
  match s with
  | .alef =>
    if isLam c then some (0, .plain)
    else if isJoinTransparent c then some (0, .alef)
    else none
  | .lamed true => if c.toNat = 0x5D0 then some (0, .plain) else none
  | .khmerLetter => if c.toNat = 0x17D2 then some (-1, .plain) else none
  | .ya true => if c.toNat = 0x1A17 then some (0, .vowelYa) else none
  | .vowelYa => if c.toNat = 0x1A15 then some (0, .plain) else none
  | .consonant joined =>
    if c.toNat = 0x2D7F then some (1, .joinerConsonant)
    else if joined && isTifinagh c then some (0, .plain)
    else none
  | .joinerConsonant => if isTifinagh c then some (-1, .plain) else none
  | .lisuTone => if between 0xA4F8 0xA4FB c then some (0, .plain) else none
  | .orkhonI true => if c.toNat = 0x10C32 then some (0, .plain) else none
  | .vowelE =>
    if c.toNat = 0x16D63 || c.toNat = 0x16D69 then some (0, .plain)
    else if c.toNat = 0x16D67 then some (0, .vowelAi)
    else if c.toNat = 0x16D68 then some (1, .vowelE)
    else none
  | .vowelAi => if c.toNat = 0x16D63 then some (0, .plain) else none
  | _ => none

/-- What a character beyond U+00A0 adds in front of a sign without selectors. -/
def addToSign (c : Char) (s : Sign) : Int × Behind :=
  if s.seesThrough && c.toNat = 0x200D then (0, { sign := s.join })
  else if s.seesThrough && isPassedOver c then (0, { sign := s })
  else
    match addLetter c s with
    | some (n, t) => (n, { sign := t })
    | none =>
      match addEmoji c s with
      | some (n, t) => (n, { sign := t })
      | none => alone c

/-- A quotation mark that has a wide form. -/
def isWideQuote (c : Char) : Bool :=
  between 0x2018 0x2019 c || between 0x201C 0x201D c

/-- The columns a character adds, and what is behind the character before it. -/
def add (c : Char) (behind : Behind) : Int × Behind :=
  if behind.emojiForm && takesSelector c then
    (if behind.isJoined then 0 else 2, { sign := .emoji })
  else
    let b := if behind.emojiForm then behind.dropEmoji else behind
    if c.toNat ≤ 0xA0 then (1, {})
    else if b = {} then alone c
    else if c.toNat = 0xFE0F then (0, b.askEmoji)
    else if c.toNat = 0xFE0E then (0, b.askText)
    else if b.textForm && narrowsAsText c then (1, {})
    else if c.toNat = 0xFE01 then (0, Behind.askWide ⟨b.sign, b.emojiForm, false, b.wideForm⟩)
    else if b.wideForm && isWideQuote c then (2, {})
    else addToSign c b.sign

/-- The columns a text on one line takes. -/
def ofText (text : List Char) : Nat :=
  (text.foldr (fun c (columns, behind) =>
    let (more, next) := add c behind
    (columns + more, next)) ((0 : Int), ({} : Behind))).1.toNat

end QueryAudit.Width
