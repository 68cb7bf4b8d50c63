import QueryAudit.Sql.Render

/-!
# Phrases

A phrase is put together from words of the syntax and from what they are about. Words alone stand
for a phrase. Where a phrase is kept, words in a row are one piece, so that it does not matter in
how many steps it was put together.
-/

namespace QueryAudit.Sql.Phrase

/-! ### Single pieces -/

/-- Words of the syntax; no words are nothing. -/
def words (text : String) : Phrase :=
  if text = "" then [] else [.word text]

instance : Coe String Phrase := ⟨words⟩

/-- Words if they are wanted. -/
def wordsIf (wanted : Bool) (text : String) : Phrase :=
  if wanted then words text else []

def name (n : Name) : Phrase :=
  [.names "." [n]]

/-- A qualified name. -/
def path (names : List Name) : Phrase :=
  [.names "." names]

/-- Names with a separator between them. -/
def separated (separator : String) (names : List Name) : Phrase :=
  [.names separator names]

/-- Names with commas between them. -/
def names (ns : List Name) : Phrase :=
  separated ", " ns

/-- A list that is there but empty and not written, unlike one that is missing. -/
def emptyList : Phrase :=
  names []

def literal (value : Literal) : Phrase :=
  [.literal value]

def type (t : DataType) : Phrase :=
  [.type t]

def text (writing : Writing) (content : String) : Phrase :=
  [.text writing content]

def expr (e : Expr) : Phrase :=
  [.expr e]

def query (q : Query) : Phrase :=
  [.query q]

/-! ### Several phrases -/

/-- Phrases with words between them. -/
def joined (separator : String) : List Phrase → Phrase
  | [] => []
  | [p] => p
  | p :: q :: ps => p ++ words separator ++ joined separator (q :: ps)

/-- Phrases with commas between them. -/
def commas (phrases : List Phrase) : Phrase :=
  joined ", " phrases

/-- Phrases with commas between them, in parentheses. -/
def inParens (phrases : List Phrase) : Phrase :=
  "(" ++ commas phrases ++ ")"

/-- Words and a phrase behind them, unless the phrase is empty. -/
def clause (text : String) (phrase : Phrase) : Phrase :=
  if phrase.isEmpty then [] else text ++ phrase

/-- Words and a phrase behind them, if there is one. -/
def behind (text : String) : Option Phrase → Phrase
  | none => []
  | some p => text ++ p

/-- Names in parentheses behind a blank, unless there are none. -/
def listed (ns : List Name) : Phrase :=
  if ns.isEmpty then [] else " (" ++ names ns ++ ")"

/-! ### Parts of expressions -/

/-- Expressions with commas between them. -/
def exprs (es : List Expr) : Phrase :=
  commas (es.map expr)

/-- Words and an expression behind them, if there is one. -/
def optionalExpr (text : String) (e : Option Expr) : Phrase :=
  behind text (e.map expr)

def ordering : Ordering → Phrase
  | ⟨e, ascending, nullsFirst⟩ => expr e ++ orderWords ascending nullsFirst

/-- Expressions to order by, with commas between them. -/
def orderings (os : List Ordering) : Phrase :=
  commas (os.map ordering)

/-- The name of a parameter before its argument. -/
def parameter : Option Name → Phrase
  | none => []
  | some n => name n ++ " => "

def argument : Argument → Phrase
  | .value p e => parameter p ++ expr e
  | .star p => parameter p ++ "*"
  | .qualifiedStar p ns => parameter p ++ path ns ++ ".*"

/-- Arguments in parentheses. -/
def arguments (args : List Argument) : Phrase :=
  inParens (args.map argument)

/-! ### Equal phrases -/

/-- Put a piece before a phrase, words to words. -/
def prepend : Piece → Phrase → Phrase
  | .word a, .word b :: rest => .word (a ++ b) :: rest
  | p, rest => p :: rest

/-- A phrase with words in a row as one piece. -/
def merged (phrase : Phrase) : Phrase :=
  phrase.foldr prepend []

end QueryAudit.Sql.Phrase
