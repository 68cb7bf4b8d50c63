import QueryAudit.Text.Json

/-!
# Reading JSON text

A JSON text stands for a value: nothing, a truth value, a number, a text, a list or an object.
Blanks may stand around every value and mark. In a text a backslash begins an escape, characters
below U+0020 do not occur, and a character beyond the basic plane may be written as two escaped
units. What is written as JSON is read back, whatever characters are in its texts.
-/

namespace QueryAudit.Json

/-! ### Values and how they are read -/

/-- A JSON value. A number is kept as it is written, and the fields of an object in their order. -/
inductive Value where
  | null
  | boolean (value : Bool)
  | number (digits : String)
  | text (value : String)
  | array (items : List Value)
  | object (fields : List (String × Value))

/-- What reads something at the front of a text and leaves the rest. -/
abbrev Rule (α : Type) := List Char → Option (α × List Char)

/-- Pass over blanks. -/
def afterBlanks (cs : List Char) : List Char :=
  cs.dropWhile fun c => c = ' ' || c = '\t' || c = '\n' || c = '\r'

/-- The value of a hexadecimal digit. -/
def hexValue (c : Char) : Option Nat :=
  if '0' ≤ c ∧ c ≤ '9' then some (c.toNat - 48)
  else if 'a' ≤ c ∧ c ≤ 'f' then some (c.toNat - 87)
  else if 'A' ≤ c ∧ c ≤ 'F' then some (c.toNat - 55)
  else none

/-- Four hexadecimal digits. -/
def unit : Rule Nat
  | a :: b :: c :: d :: cs => do
    let a ← hexValue a
    let b ← hexValue b
    let c ← hexValue c
    let d ← hexValue d
    some (((a * 16 + b) * 16 + c) * 16 + d, cs)
  | _ => none

/-- The character of one unit, or of two if the first one asks for a second. -/
def units (cs : List Char) : Option (Char × List Char) := do
  let (n, cs) ← unit cs
  if 0xD800 ≤ n ∧ n < 0xDC00 then
    match cs with
    | '\\' :: 'u' :: cs =>
      let (m, cs) ← unit cs
      if 0xDC00 ≤ m ∧ m < 0xE000 then
        some (Char.ofNat (0x10000 + (n - 0xD800) * 0x400 + (m - 0xDC00)), cs)
      else none
    | _ => none
  else if 0xDC00 ≤ n ∧ n < 0xE000 then none
  else some (Char.ofNat n, cs)

/-- The character of an escape, behind its backslash. -/
def escaped : Rule Char
  | '"' :: cs => some ('"', cs)
  | '\\' :: cs => some ('\\', cs)
  | '/' :: cs => some ('/', cs)
  | 'b' :: cs => some (Char.ofNat 8, cs)
  | 'f' :: cs => some (Char.ofNat 12, cs)
  | 'n' :: cs => some ('\n', cs)
  | 'r' :: cs => some ('\r', cs)
  | 't' :: cs => some ('\t', cs)
  | 'u' :: cs => units cs
  | _ => none

def character : Rule Char
  | '\\' :: cs => escaped cs
  | c :: cs => if c.toNat < 32 then none else some (c, cs)
  | [] => none

/-- The characters of a text through its closing quote, at most so many. -/
def charactersFor : Nat → Rule (List Char)
  | 0, _ => none
  | rounds + 1, cs =>
    if cs.head? = some '"' then some ([], cs.tail)
    else do
      let (c, cs) ← character cs
      let (more, cs) ← charactersFor rounds cs
      some (c :: more, cs)

/-- A text behind its opening quote. -/
def text (cs : List Char) : Option (String × List Char) := do
  let (found, cs) ← charactersFor cs.length cs
  some (String.ofList found, cs)

/-- One of some marks, if it is there. -/
def optional (marks : List Char) : List Char → List Char × List Char
  | c :: cs => if c ∈ marks then ([c], cs) else ([], c :: cs)
  | [] => ([], [])

def digits (cs : List Char) : Option (List Char × List Char) :=
  let found := cs.takeWhile Char.isDigit
  if found.isEmpty then none else some (found, cs.drop found.length)

/-- Digits that begin with a zero only if there are no others. -/
def integer : Rule (List Char)
  | '0' :: cs => some (['0'], cs)
  | cs => digits cs

/-- Digits if there is a mark before them. -/
def digitsBehind (mark cs : List Char) : Option (List Char × List Char) :=
  if mark.isEmpty then some ([], cs) else digits cs

/-- A number: an integer, perhaps with a fraction and an exponent. -/
def number (cs : List Char) : Option (Value × List Char) := do
  let (minus, cs) := optional ['-'] cs
  let (whole, cs) ← integer cs
  let (point, cs) := optional ['.'] cs
  let (fraction, cs) ← digitsBehind point cs
  let (mark, cs) := optional ['e', 'E'] cs
  let (sign, cs) := optional (if mark.isEmpty then [] else ['+', '-']) cs
  let (exponent, cs) ← digitsBehind mark cs
  some (.number (String.ofList (minus ++ whole ++ point ++ fraction ++ mark ++ sign ++ exponent)),
    cs)

/-- At least one item, with commas between items, through a closing mark. There are at most so
    many. -/
def itemsFor {α : Type} (item : Rule α) (close : Char) : Nat → Rule (List α)
  | 0, _ => none
  | rounds + 1, cs => do
    let (first, cs) ← item cs
    match afterBlanks cs with
    | [] => none
    | c :: cs =>
      if c = close then some ([first], cs)
      else if c = ',' then do
        let (others, cs) ← itemsFor item close rounds cs
        some (first :: others, cs)
      else none

/-- Items through a closing mark, perhaps none. -/
def items {α : Type} (item : Rule α) (close : Char) (cs : List Char) :
    Option (List α × List Char) :=
  if (afterBlanks cs).head? = some close then some ([], (afterBlanks cs).tail)
  else itemsFor item close cs.length cs

/-- A field of an object: a name and a value. -/
def field {α : Type} (value : Rule α) (cs : List Char) : Option ((String × α) × List Char) :=
  match afterBlanks cs with
  | '"' :: cs => do
    let (name, cs) ← text cs
    match afterBlanks cs with
    | ':' :: cs => do
      let (v, cs) ← value cs
      some ((name, v), cs)
    | _ => none
  | _ => none

/-- A value in which lists and objects are nested at most so deep. -/
def value : Nat → Rule Value
  | 0, _ => none
  | depth + 1, cs =>
    match afterBlanks cs with
    | '"' :: cs => do
      let (s, cs) ← text cs
      some (.text s, cs)
    | '[' :: cs => do
      let (found, cs) ← items (value depth) ']' cs
      some (.array found, cs)
    | '\x7b' :: cs => do
      let (found, cs) ← items (field (value depth)) '\x7d' cs
      some (.object found, cs)
    | 'n' :: 'u' :: 'l' :: 'l' :: cs => some (.null, cs)
    | 't' :: 'r' :: 'u' :: 'e' :: cs => some (.boolean true, cs)
    | 'f' :: 'a' :: 'l' :: 's' :: 'e' :: cs => some (.boolean false, cs)
    | cs => number cs

/-- The value of a JSON text, with nothing but blanks behind it. No value is nested deeper than its
    text is long. -/
def decode (cs : List Char) : Option Value := do
  let (v, rest) ← value cs.length cs
  if afterBlanks rest = [] then some v else none

/-! ### Texts -/

theorem hexValue_hexDigit {n : Nat} (h : n < 16) : hexValue (hexDigit n) = some n := by
  have hall : ∀ n < 16, hexValue (hexDigit n) = some n := by decide
  exact hall n h

/-- A character below U+0020 is read back from its unit. -/
theorem units_escape {c : Char} (h : c.toNat < 32) (rest : List Char) :
    units ('0' :: '0' :: hexDigit (c.toNat / 16) :: hexDigit (c.toNat % 16) :: rest) =
      some (c, rest) := by
  have hzero : hexValue '0' = some 0 := by decide
  have hunit : unit ('0' :: '0' :: hexDigit (c.toNat / 16) :: hexDigit (c.toNat % 16) :: rest) =
      some (c.toNat, rest) := by
    have hsum : ((0 * 16 + 0) * 16 + c.toNat / 16) * 16 + c.toNat % 16 = c.toNat := by omega
    rw [unit, hzero, hexValue_hexDigit (by omega), hexValue_hexDigit (by omega)]
    simp only [Option.bind_eq_bind, Option.bind_some, hsum]
  rw [units, hunit]
  simp only [Option.bind_eq_bind, Option.bind_some]
  rw [if_neg (by omega), if_neg (by omega), Char.ofNat_toNat]

/-- An escaped character is read back. -/
theorem character_escape (c : Char) (rest : List Char) :
    character (escape c ++ rest) = some (c, rest) := by
  unfold escape
  split
  · rfl
  · rfl
  · rfl
  · rfl
  · rfl
  · next hquote hbackslash _ _ _ =>
    split
    · next h =>
      rw [← Char.ofNat_toNat c, h]
      rfl
    split
    · next h =>
      rw [← Char.ofNat_toNat c, h]
      rfl
    split
    · -- any other control character is written as a unit of four digits
      next h => exact units_escape h rest
    · next h =>
      rw [List.singleton_append, character, if_neg h]
      exact hbackslash

/-- No escape begins with a quote. -/
theorem head?_escape_append (c : Char) (rest : List Char) :
    (escape c ++ rest).head? ≠ some '"' := by
  unfold escape
  repeat' split
  all_goals simp_all

theorem length_le_flatMap_escape (cs : List Char) : cs.length ≤ (cs.flatMap escape).length := by
  have hone (c : Char) : 1 ≤ (escape c).length := by
    unfold escape
    repeat' split
    all_goals simp
  induction cs with
  | nil => exact Nat.le_refl 0
  | cons c cs ih =>
    rw [List.flatMap_cons, List.length_append, List.length_cons, Nat.add_comm]
    exact Nat.add_le_add (hone c) ih

theorem charactersFor_escaped (cs rest : List Char) {rounds : Nat} (h : cs.length < rounds) :
    charactersFor rounds (cs.flatMap escape ++ '"' :: rest) = some (cs, rest) := by
  induction cs generalizing rounds with
  | nil =>
    obtain ⟨rounds, rfl⟩ := Nat.exists_eq_succ_of_ne_zero (Nat.ne_zero_of_lt h)
    rfl
  | cons c cs ih =>
    obtain ⟨rounds, rfl⟩ := Nat.exists_eq_succ_of_ne_zero (Nat.ne_zero_of_lt h)
    rw [List.flatMap_cons, List.append_assoc, charactersFor, if_neg (head?_escape_append c _),
      character_escape]
    simp only [Option.bind_eq_bind, Option.bind_some, ih (Nat.lt_of_succ_lt_succ h)]

/-- A text behind its opening quote is read back, whatever stands behind it. -/
theorem text_escaped (s : String) (rest : List Char) :
    text (s.toList.flatMap escape ++ '"' :: rest) = some (s, rest) := by
  have hlen : s.toList.length < (s.toList.flatMap escape ++ '"' :: rest).length := by
    have := length_le_flatMap_escape s.toList
    rw [List.length_append, List.length_cons]
    omega
  rw [text, charactersFor_escaped _ _ hlen]
  simp only [Option.bind_eq_bind, Option.bind_some, String.ofList_toList]

/-! ### Values -/

/-- A text that is read as a value at some depth, whatever stands behind it. -/
def Reads (depth : Nat) (written : String) (v : Value) : Prop :=
  ∀ rest, value depth (written.toList ++ rest) = some (v, rest)

theorem toList_quote_append (s : String) (rest : List Char) :
    (quote s).toList ++ rest = '"' :: (s.toList.flatMap escape ++ '"' :: rest) := by
  rw [quote, String.toList_ofList]
  simp

theorem reads_quote (depth : Nat) (s : String) : Reads (depth + 1) (quote s) (.text s) := by
  intro rest
  rw [toList_quote_append]
  show (text (s.toList.flatMap escape ++ '"' :: rest)).bind _ = _
  rw [text_escaped]
  rfl

/-- Items with commas between them are read back, if each of them is. -/
theorem itemsFor_intercalate {α β : Type} {item : Rule β} {close : Char} {written : α → List Char}
    {read : α → β} (hclose : ∀ rest, afterBlanks (close :: rest) = close :: rest)
    (hcomma : close ≠ ',') {x : α} {xs : List α}
    (h : ∀ y ∈ x :: xs, ∀ rest, item (written y ++ rest) = some (read y, rest))
    (rest : List Char) {rounds : Nat} (hr : xs.length < rounds) :
    itemsFor item close rounds ([','].intercalate ((x :: xs).map written) ++ close :: rest) =
      some ((x :: xs).map read, rest) := by
  obtain ⟨rounds, rfl⟩ := Nat.exists_eq_succ_of_ne_zero (Nat.ne_zero_of_lt hr)
  induction xs generalizing x rounds with
  | nil =>
    rw [List.map_singleton, List.intercalate_singleton, itemsFor, h x (.head _)]
    simp only [Option.bind_eq_bind, Option.bind_some, hclose, if_true, List.map_singleton]
  | cons y ys ih =>
    have hrounds : ys.length < rounds := Nat.lt_of_succ_lt_succ hr
    obtain ⟨rounds, rfl⟩ := Nat.exists_eq_succ_of_ne_zero (Nat.ne_zero_of_lt hrounds)
    -- each item takes a round, and the comma behind it none
    have hothers := ih (fun z hz => h z (.tail _ hz)) rounds hrounds
    have hblank (cs : List Char) : afterBlanks (',' :: cs) = ',' :: cs := rfl
    rw [List.map_cons, List.intercalate_cons_of_ne_nil (by simp), List.append_assoc,
      List.append_assoc, itemsFor, h x (.head _)]
    simp only [Option.bind_eq_bind, Option.bind_some, List.singleton_append, hblank,
      if_neg hcomma.symm, if_true, hothers]
    rfl

theorem length_le_intercalate {α : Type} (written : α → List Char) (xs : List α) :
    xs.length ≤ ([','].intercalate (xs.map written)).length + 1 := by
  induction xs with
  | nil => exact Nat.zero_le _
  | cons x xs ih =>
    cases xs with
    | nil => exact Nat.le_add_left 1 _
    | cons y ys =>
      rw [List.map_cons, List.intercalate_cons_of_ne_nil (by simp), List.length_append,
        List.length_append, List.length_singleton]
      simp only [List.length_cons] at ih ⊢
      omega

/-- Items through a closing mark are read back, if each of them is and none begins with the
    mark. -/
theorem items_intercalate {α β : Type} {item : Rule β} {close : Char} {written : α → List Char}
    {read : α → β} (hclose : ∀ rest, afterBlanks (close :: rest) = close :: rest)
    (hcomma : close ≠ ',')
    (hnone : ∀ cs, (afterBlanks cs).head? = some close → item cs = none) {xs : List α}
    (h : ∀ x ∈ xs, ∀ rest, item (written x ++ rest) = some (read x, rest)) (rest : List Char) :
    items item close ([','].intercalate (xs.map written) ++ close :: rest) =
      some (xs.map read, rest) := by
  cases xs with
  | nil =>
    rw [List.map_nil, List.intercalate_nil, List.nil_append, items, hclose, List.head?_cons,
      if_pos rfl]
    rfl
  | cons x xs =>
    -- the first item is read, so that it does not begin with the mark
    have hfirst (more : List Char) : (afterBlanks (written x ++ more)).head? ≠ some close := by
      intro hhead
      have hread := h x (.head _) more
      rw [hnone _ hhead] at hread
      cases hread
    have hfront : ∃ more, [','].intercalate ((x :: xs).map written) ++ close :: rest =
        written x ++ more := by
      cases xs with
      | nil =>
        rw [List.map_singleton, List.intercalate_singleton]
        exact ⟨_, rfl⟩
      | cons y ys =>
        rw [List.map_cons, List.intercalate_cons_of_ne_nil (by simp), List.append_assoc]
        exact ⟨_, List.append_assoc _ _ _⟩
    obtain ⟨more, hmore⟩ := hfront
    have hlen := length_le_intercalate written (x :: xs)
    rw [items, hmore, if_neg (hfirst more), ← hmore]
    refine itemsFor_intercalate hclose hcomma h rest ?_
    rw [List.length_append, List.length_cons]
    simp only [List.length_cons] at hlen
    omega

/-- No value begins with a mark that closes a list. -/
theorem value_of_close {depth : Nat} {cs : List Char}
    (h : (afterBlanks cs).head? = some ']') : value depth cs = none := by
  cases depth with
  | zero => rfl
  | succ depth =>
    obtain ⟨more, hmore⟩ : ∃ more, afterBlanks cs = ']' :: more := by
      cases hcs : afterBlanks cs with
      | nil =>
        rw [hcs] at h
        cases h
      | cons c more =>
        rw [hcs] at h
        cases h
        exact ⟨more, rfl⟩
    rw [value, hmore]
    rfl

theorem field_of_close {α : Type} {rule : Rule α} {cs : List Char}
    (h : (afterBlanks cs).head? = some '\x7d') : field rule cs = none := by
  rw [field]
  split
  · next hcs =>
    rw [hcs] at h
    cases h
  · rfl

/-- A list is read back, if each of its items is. -/
theorem reads_array {α : Type} {depth : Nat} {written : α → String} {read : α → Value}
    {xs : List α} (h : ∀ x ∈ xs, Reads depth (written x) (read x)) :
    Reads (depth + 1) (array (xs.map written)) (.array (xs.map read)) := by
  intro rest
  have htext : (array (xs.map written)).toList ++ rest =
      '[' :: ([','].intercalate (xs.map fun x => (written x).toList) ++ ']' :: rest) := by
    simp [array, String.toList_intercalate, Function.comp_def]
  have hclose (rest : List Char) : afterBlanks (']' :: rest) = ']' :: rest := rfl
  rw [htext]
  show (items (value depth) ']' _).bind _ = _
  rw [items_intercalate hclose (by decide) (fun _ => value_of_close) h]
  rfl

/-- A field as it is written: its name, and then the text of its value. -/
def writtenField (name value : String) : List Char :=
  (quote name).toList ++ ':' :: value.toList

theorem field_writtenField {depth : Nat} {written : String} {v : Value}
    (h : Reads depth written v) (name : String) (rest : List Char) :
    field (value depth) (writtenField name written ++ rest) = some ((name, v), rest) := by
  rw [writtenField, List.append_assoc, toList_quote_append]
  show (text _).bind _ = _
  rw [text_escaped]
  show (value depth (written.toList ++ rest)).bind _ = _
  rw [h rest]
  rfl

/-- An object is read back, if each of its values is. -/
theorem reads_object {depth : Nat} {fields : List (String × String × Value)}
    (h : ∀ f ∈ fields, Reads depth f.2.1 f.2.2) :
    Reads (depth + 1) (object (fields.map fun f => (f.1, f.2.1)))
      (.object (fields.map fun f => (f.1, f.2.2))) := by
  intro rest
  have htext : (object (fields.map fun f => (f.1, f.2.1))).toList ++ rest =
      '\x7b' :: ([','].intercalate (fields.map fun f => writtenField f.1 f.2.1) ++
        '\x7d' :: rest) := by
    simp [object, writtenField, String.toList_intercalate, Function.comp_def]
  have hclose (rest : List Char) : afterBlanks ('\x7d' :: rest) = '\x7d' :: rest := rfl
  have hfield (f : String × String × Value) (hf : f ∈ fields) (rest : List Char) :
      field (value depth) (writtenField f.1 f.2.1 ++ rest) = some ((f.1, f.2.2), rest) :=
    field_writtenField (h f hf) f.1 rest
  rw [htext]
  show (items (field (value depth)) '\x7d' _).bind _ = _
  rw [items_intercalate hclose (by decide) (fun _ => field_of_close) hfield]
  rfl

/-- A text that is read as a value at a depth it is long enough for has this value. -/
theorem decode_of_reads {written : String} {v : Value}
    (h : Reads written.toList.length written v) : decode written.toList = some v := by
  have hread := h []
  rw [List.append_nil] at hread
  rw [decode, hread]
  rfl

/-- Blanks and numbers are read too, and escapes that are never written. -/
example : decode " [-1.5e+3 ,true,\"\\n\\ud83d\\ude00\"]\n".toList =
    some (.array [.number "-1.5e+3", .boolean true, .text "\n😀"]) := rfl

/-- A comma has to be followed by an item. -/
example : decode "[null,]".toList = none := rfl

end QueryAudit.Json
