import Mathlib.Data.List.Forall2
import QueryAudit.Proofs.Lines
import QueryAudit.Sql.Render

/-!
# The parts of a statement

Canonical text is put together from what a statement says, which are its names, literals, types and
texts, and from words of the syntax, which separate them. No word of the syntax has a newline in it
and neither has any number. Comments and the layout of the input are no parts.
-/

namespace QueryAudit.Sql

/-- A text has a newline if and only if one of some parts has one. -/
def NewlinesFrom (text : String) (parts : List String) : Prop :=
  HasNewline text ↔ ∃ t ∈ parts, HasNewline t

namespace NewlinesFrom

variable {s t w : String} {ps qs : List String}

theorem part : NewlinesFrom s [s] := by
  simp [NewlinesFrom]

theorem word (h : ¬HasNewline w) : NewlinesFrom w [] := by
  simp [NewlinesFrom, h]

theorem append (hs : NewlinesFrom s ps) (ht : NewlinesFrom t qs) :
    NewlinesFrom (s ++ t) (ps ++ qs) := by
  rw [NewlinesFrom] at hs ht ⊢
  rw [hasNewline_append_iff, hs, ht]
  simp only [List.mem_append, or_and_right, exists_or]

/-- Words before a text. -/
theorem before (h : ¬HasNewline w) (hs : NewlinesFrom s ps) : NewlinesFrom (w ++ s) ps :=
  append (word h) hs

/-- Words behind a text. -/
theorem behind (hs : NewlinesFrom s ps) (h : ¬HasNewline w) : NewlinesFrom (s ++ w) ps := by
  rw [NewlinesFrom] at hs ⊢
  rw [hasNewline_append_iff, hs]
  simp [h]

/-- Texts with words between them. -/
theorem intercalate {separator : String} (h : ¬HasNewline separator) {texts : List String}
    {parts : List (List String)} (ht : List.Forall₂ NewlinesFrom texts parts) :
    NewlinesFrom (separator.intercalate texts) parts.flatten := by
  rw [NewlinesFrom, hasNewline_intercalate_iff h]
  induction ht with
  | nil => simp
  | cons hs _ ih =>
    rw [NewlinesFrom] at hs
    rw [List.flatten_cons]
    simp only [List.mem_cons, List.mem_append, or_and_right, exists_or, exists_eq_left]
    rw [ih, hs]

/-- Texts with any separator between them. -/
theorem intersperse (separator : String) {texts : List String} {parts : List (List String)}
    (ht : List.Forall₂ NewlinesFrom texts parts) :
    NewlinesFrom (separator.intercalate texts) (parts.intersperse [separator]).flatten := by
  induction ht with
  | nil =>
    have hnone : NewlinesFrom "" [] := word (by decide)
    exact hnone
  | cons hs ht ih =>
    cases ht with
    | nil =>
      rw [String.intercalate_singleton]
      simpa using hs
    | cons ht hts =>
      rw [String.intercalate_cons_cons]
      simpa using append (append hs part) ih

/-- A part without a newline makes no difference. -/
theorem more (hs : NewlinesFrom s ps) (h : ¬HasNewline w) : NewlinesFrom s (ps ++ [w]) := by
  rw [NewlinesFrom] at hs ⊢
  rw [hs]
  simp [or_and_right, exists_or, h]

/-- The same of each element of a list. -/
theorem each {α : Type} {text : α → String} {parts : α → List String}
    (h : ∀ a, NewlinesFrom (text a) (parts a)) (as : List α) :
    List.Forall₂ NewlinesFrom (as.map text) (as.map parts) := by
  induction as with
  | nil => exact .nil
  | cons a as ih => exact .cons (h a) ih

end NewlinesFrom

/-! ### The parts of a statement -/

/-- The text of a name and its quote. -/
def Name.parts (n : Name) : List String :=
  n.text :: n.quote.toList.map Char.toString

def Names.parts (names : List Name) : List String :=
  (names.map Name.parts).flatten

/-- The text of a literal. In strings with general escapes newlines are escaped. -/
def Literal.parts : Literal → List String
  | .number digits _ => [digits]
  | .quoted .escaped _ => []
  | .quoted _ text => [text]
  | .dollar text tag => tag.toList ++ [text]
  | .boolean _ => []
  | .null => []
  | .placeholder text => [text]
  | .bare text => [text]

/-- The names and texts in a type. -/
def DataType.parts : DataType → List String
  | .values _ items => items
  | .custom name modifiers => Names.parts name ++ modifiers
  | .angleArray element => element.parts
  | .squareArray element => element.parts
  | _ => []

def Field.parts (f : Field) : List String :=
  f.name.toList.flatMap Name.parts ++ f.type.parts

/-- The names in an operator. -/
def BinaryOp.parts : BinaryOp → List String
  | .named path => path
  | _ => []

def CastFormat.parts : Option CastFormat → List String
  | none => []
  | some ⟨format, none⟩ => format.parts
  | some ⟨format, some zone⟩ => format.parts ++ zone.parts

/-- The parts of conditions and results in turn. -/
def branchParts : List (List String) → List (List String) → List String
  | c :: cs, r :: rs => c ++ r ++ branchParts cs rs
  | _, _ => []

def parameterParts : Option Name → List String
  | none => []
  | some n => n.parts

mutual

/-- The parts of an expression: the texts of its names, literals and types, in the order of its
    canonical text. -/
def Expr.parts : Expr → List String
  | .column name => name.parts
  | .path names => Names.parts names
  | .literal value => value.parts
  | .introduced charset value => charset :: value.parts
  | .typed type text => type.parts ++ [text]
  | .star => []
  | .qualifiedStar names => Names.parts names
  | .nested e => e.parts
  | .tuple items => (Expr.partsList items).flatten
  | .array _ items => (Expr.partsList items).flatten
  | .struct items fields => (fields.map Field.parts).flatten ++ (Expr.partsList items).flatten
  | .named e name => e.parts ++ name.parts
  | .unary _ e => e.parts
  | .binary left op right => left.parts ++ op.parts ++ right.parts
  | .quantified left op _ right => left.parts ++ op.parts ++ right.parts
  | .document left _ right => left.parts ++ right.parts
  | .truth e _ _ => e.parts
  | .distinct left _ right => left.parts ++ right.parts
  | .inList e _ items => e.parts ++ (Expr.partsList items).flatten
  | .inQuery e _ q => e.parts ++ q.parts
  | .inUnnest e _ items => e.parts ++ items.parts
  | .between e _ low high => e.parts ++ low.parts ++ high.parts
  | .pattern e _ _ pattern none => e.parts ++ pattern.parts
  | .pattern e _ _ pattern (some escape) => e.parts ++ pattern.parts ++ [escape.toString]
  | .cast _ e type format => e.parts ++ type.parts ++ CastFormat.parts format
  | .convert e none none _ => e.parts
  | .convert e none (some charset) _ => e.parts ++ Names.parts charset
  | .convert e (some type) none false => e.parts ++ type.parts
  | .convert e (some type) none true => type.parts ++ e.parts
  | .convert e (some type) (some charset) _ => e.parts ++ type.parts ++ Names.parts charset
  | .collate e collation => e.parts ++ Names.parts collation
  | .atTimeZone e zone => e.parts ++ [zone]
  | .interval e _ => e.parts
  | .extract _ e => e.parts
  | .round _ e _ => e.parts
  | .position e inside => e.parts ++ inside.parts
  | .substring e start count _ => e.parts ++ Expr.partsOption start ++ Expr.partsOption count
  | .trim _ what e characters =>
    Expr.partsOption what ++ e.parts ++ (Expr.partsList characters).flatten
  | .overlay e what start count =>
    e.parts ++ what.parts ++ start.parts ++ Expr.partsOption count
  | .field e key => e.parts ++ key.parts
  | .mapAccess e keys => e.parts ++ (Expr.partsList keys).flatten
  | .index e indexes => e.parts ++ (Expr.partsList indexes).flatten
  | .call name style arguments orderBy filter window =>
    if style.bare then Names.parts name
    else
      Names.parts name ++ (Argument.partsList arguments).flatten
        ++ (Ordering.partsList orderBy).flatten ++ Expr.partsOption filter ++ window.parts
  | .listAgg _ e separator overflow filler withinGroup =>
    e.parts ++ Expr.partsOption separator
      ++ (match overflow with
        | .truncate _ => Expr.partsOption filler
        | _ => [])
      ++ (Ordering.partsList withinGroup).flatten
  | .arrayAgg _ e orderBy limit false =>
    e.parts ++ (Ordering.partsList orderBy).flatten ++ Expr.partsOption limit
  | .arrayAgg _ e orderBy _ true => e.parts ++ (Ordering.partsList orderBy).flatten
  | .filtered e filter => e.parts ++ filter.parts
  | .caseOf operand conditions results otherwise =>
    Expr.partsOption operand ++ branchParts (Expr.partsList conditions) (Expr.partsList results)
      ++ Expr.partsOption otherwise
  | .grouping _ sets => (Expr.partsSets sets).flatten
  | .existsQuery _ q => q.parts
  | .subquery q => q.parts
  | .arrayQuery q => q.parts
  | .matchAgainst columns value _ => Names.parts columns ++ value.parts

def Expr.partsList : List Expr → List (List String)
  | [] => []
  | e :: es => e.parts :: Expr.partsList es

/-- The parts of an expression, if there is one. -/
def Expr.partsOption : Option Expr → List String
  | none => []
  | some e => e.parts

/-- The parts of each of some lists of expressions. -/
def Expr.partsSets : List (List Expr) → List (List String)
  | [] => []
  | set :: sets => (Expr.partsList set).flatten :: Expr.partsSets sets

def Ordering.parts : Ordering → List String
  | ⟨e, _, _⟩ => e.parts

def Ordering.partsList : List Ordering → List (List String)
  | [] => []
  | o :: os => o.parts :: Ordering.partsList os

def Argument.parts : Argument → List String
  | .value parameter e => parameterParts parameter ++ e.parts
  | .star parameter => parameterParts parameter
  | .qualifiedStar parameter names => parameterParts parameter ++ Names.parts names

def Argument.partsList : List Argument → List (List String)
  | [] => []
  | a :: rest => a.parts :: Argument.partsList rest

def Window.parts : Window → List String
  | .unwindowed => []
  | .named name => name.parts
  | .spec partitionBy orderBy frame =>
    [(Expr.partsList partitionBy).flatten, (Ordering.partsList orderBy).flatten,
      Piece.partsList frame].flatten

def Query.parts : Query → List String
  | ⟨common, body, tail⟩ => Piece.partsList common ++ body.parts ++ Piece.partsList tail

def Body.parts : Body → List String
  | .select head sources views condition tail =>
    Piece.partsList head ++ (Source.partsList sources).flatten ++ Piece.partsList views
      ++ Expr.partsOption condition ++ Piece.partsList tail
  | .query q => q.parts
  | .combined left _ _ right => left.parts ++ right.parts
  | .values _ rows => (Expr.partsSets rows).flatten
  | .table none name => [name]
  | .table (some schema) name => [schema, name]
  | .change phrase => Piece.partsList phrase

/-- The parts of an entry of a `FROM` clause. -/
def Source.parts : Source → List String
  | ⟨_, relation, joins⟩ => Piece.partsList relation ++ Piece.partsList joins

def Source.partsList : List Source → List (List String)
  | [] => []
  | s :: rest => s.parts :: Source.partsList rest

/-- The parts of a part of a phrase. Its words are taken as they are. -/
def Piece.parts : Piece → List String
  | .word text => [text]
  | .names separator names => ((names.map Name.parts).intersperse [separator]).flatten
  | .literal value => value.parts
  | .type type => type.parts
  | .text _ text => [text]
  | .expr e => e.parts
  | .query q => q.parts

/-- The parts of a phrase. -/
def Piece.partsList : List Piece → List String
  | [] => []
  | p :: ps => p.parts ++ Piece.partsList ps

end

/-! ### Words of the syntax -/

theorem Keyword.not_hasNewline (k : Keyword) : ¬HasNewline k.spelling := by
  cases k <;> decide

theorem not_hasNewline_notWord (negated : Bool) : ¬HasNewline (notWord negated) := by
  cases negated <;> decide

theorem not_hasNewline_orderWords (ascending nullsFirst : Option Bool) :
    ¬HasNewline (orderWords ascending nullsFirst) := by
  rcases ascending with - | - | - <;> rcases nullsFirst with - | - | - <;> decide

theorem CallStyle.not_hasNewline_nullWords (style : CallStyle) : ¬HasNewline style.nullWords := by
  unfold nullWords
  split <;> decide

theorem not_hasNewline_toString (n : Nat) : ¬HasNewline (toString n) := by
  intro h
  rw [HasNewline, Nat.toString_eq_repr, Nat.toList_repr] at h
  have hdigit := Nat.isDigit_of_mem_toDigits (by decide) (by decide) h
  cases hdigit

theorem not_hasNewline_append {s t : String} (hs : ¬HasNewline s) (ht : ¬HasNewline t) :
    ¬HasNewline (s ++ t) := by
  rw [hasNewline_append_iff]
  exact fun h => h.elim hs ht

theorem IntervalUnit.not_hasNewline (u : IntervalUnit) : ¬HasNewline u.render := by
  have hsize (p : Nat) : ¬HasNewline s!" ({p})" :=
    not_hasNewline_append (not_hasNewline_append (by decide) (not_hasNewline_toString p))
      (by decide)
  unfold render
  -- seconds have both precisions in one pair of parentheses
  split
  · next p f _ _ _ =>
    exact not_hasNewline_append (not_hasNewline_append (not_hasNewline_append
      (not_hasNewline_append (by decide) (not_hasNewline_toString p)) (by decide))
      (not_hasNewline_toString f)) (by decide)
  · refine not_hasNewline_append (not_hasNewline_append (not_hasNewline_append ?_ ?_) ?_) ?_
    · split
      · exact not_hasNewline_append (by decide) (Keyword.not_hasNewline _)
      · decide
    · split
      · exact hsize _
      · decide
    · split
      · exact not_hasNewline_append (by decide) (Keyword.not_hasNewline _)
      · decide
    · split
      · exact hsize _
      · decide

theorem Keyword.not_hasNewline_spellings (ks : List Keyword) : ¬HasNewline (spellings ks) := by
  rw [spellings, hasNewline_intercalate_iff (by decide)]
  rintro ⟨text, htext, h⟩
  obtain ⟨k, -, rfl⟩ := List.mem_map.mp htext
  exact k.not_hasNewline h

theorem not_hasNewline_sizeWords (size : Option Nat) : ¬HasNewline (sizeWords size) := by
  cases size with
  | none => decide
  | some n =>
    exact not_hasNewline_append (not_hasNewline_append (by decide) (not_hasNewline_toString n))
      (by decide)

theorem CharacterLength.not_hasNewline (length : CharacterLength) : ¬HasNewline length.render := by
  rcases length with ⟨n, - | unit⟩ | -
  · exact not_hasNewline_toString n
  · exact not_hasNewline_append (not_hasNewline_append (not_hasNewline_toString n) (by decide))
      unit.not_hasNewline
  · decide

theorem ExactSize.not_hasNewline (size : ExactSize) : ¬HasNewline size.render := by
  cases size with
  | none => decide
  | precision p =>
    exact not_hasNewline_append (not_hasNewline_append (by decide) (not_hasNewline_toString p))
      (by decide)
  | scaled p s =>
    exact not_hasNewline_append (not_hasNewline_append (not_hasNewline_append
      (not_hasNewline_append (by decide) (not_hasNewline_toString p)) (by decide))
      (not_hasNewline_toString s)) (by decide)

theorem ZoneInfo.not_hasNewline (name : Keyword) (precision : Option Nat) (zone : ZoneInfo) :
    ¬HasNewline (zone.render name precision) := by
  have hname := name.not_hasNewline
  have hsize := not_hasNewline_sizeWords precision
  cases zone with
  | none => exact not_hasNewline_append hname hsize
  | withZone => exact not_hasNewline_append (not_hasNewline_append hname hsize) (by decide)
  | withoutZone => exact not_hasNewline_append (not_hasNewline_append hname hsize) (by decide)
  | suffix => exact not_hasNewline_append (not_hasNewline_append hname (by decide)) hsize

/-! ### Quotes, names, literals and types -/

/-- Between quotes only quotes are added. -/
theorem count_escapeQuotes (quote : Char) {c : Char} (hc : c ≠ quote) (previous : Char)
    (cs : List Char) : (escapeQuotes quote previous cs).count c = cs.count c := by
  have hquote : ¬quote = c := fun h => hc h.symm
  fun_induction escapeQuotes quote previous cs <;> simp_all [List.count_cons]

theorem newlinesFrom_inQuotes {quote : Char} (h : '\n' ≠ quote) (text : String) :
    NewlinesFrom (inQuotes quote text) [text] := by
  have hcount := count_escapeQuotes quote h (Char.ofNat 0) text.toList
  rw [NewlinesFrom, inQuotes, hasNewline_ofList_iff]
  simp only [List.mem_append, List.mem_cons, List.not_mem_nil, or_false, exists_eq_left, h,
    false_or]
  rw [← List.count_pos_iff, hcount, List.count_pos_iff]
  rfl

theorem Name.newlinesFrom (n : Name) : NewlinesFrom n.render n.parts := by
  obtain ⟨text, quote⟩ := n
  cases quote with
  | none => exact .part
  | some q =>
    unfold Name.render
    split
    · next h => cases h
    · next h =>
      cases h
      have hbrackets : NewlinesFrom ("[" ++ text ++ "]") [text] :=
        .behind (.before (by decide) .part) (by decide)
      exact hbrackets.more (by decide)
    · next h =>
      cases h
      by_cases hq : '\n' = q
      · -- no name has such quotes, but they would show
        subst hq
        simp [NewlinesFrom, Name.parts, inQuotes, HasNewline]
      · exact (newlinesFrom_inQuotes hq text).more (by simpa [HasNewline] using hq)

theorem newlinesFrom_joined {separator : String} (h : ¬HasNewline separator) (names : List Name) :
    NewlinesFrom (Names.joined separator names) (Names.parts names) :=
  .intercalate h (NewlinesFrom.each Name.newlinesFrom names)

theorem newlinesFrom_names (names : List Name) :
    NewlinesFrom (Names.render names) (Names.parts names) :=
  newlinesFrom_joined (by decide) names

theorem newline_notMem_escapeGeneral (c : Char) : '\n' ∉ escapeGeneral c := by
  unfold escapeGeneral
  split
  all_goals first | decide | skip
  next hnewline _ _ =>
    rw [List.mem_singleton]
    exact fun h => hnewline h.symm

theorem newlinesFrom_dollarQuote (text : String) (tag : Option String) :
    NewlinesFrom (dollarQuote text tag) (tag.toList ++ [text]) := by
  cases tag with
  | none => exact .behind (.before (by decide) .part) (by decide)
  | some tag =>
    have hdollar : ¬HasNewline "$" := by decide
    rw [NewlinesFrom, dollarQuote]
    simp only [Option.getD_some, hasNewline_append_iff, hdollar, false_or, or_false,
      Option.toList_some, List.cons_append, List.nil_append, List.mem_cons, List.not_mem_nil,
      exists_eq_or_imp, exists_eq_left]
    exact ⟨fun h => h.elim id .inl, .inl⟩

theorem Literal.newlinesFrom (value : Literal) : NewlinesFrom value.render value.parts := by
  cases value with
  | number digits long => exact .behind .part (by cases long <;> decide)
  | quoted quoting text =>
    cases quoting
    case single => exact newlinesFrom_inQuotes (by decide) text
    case double => exact newlinesFrom_inQuotes (by decide) text
    case escaped =>
      -- a newline is written as an escape there
      have hnone : ¬HasNewline (String.ofList (text.toList.flatMap escapeGeneral)) := by
        rw [hasNewline_ofList_iff, List.mem_flatMap]
        rintro ⟨c, -, hc⟩
        exact newline_notMem_escapeGeneral c hc
      exact .word (not_hasNewline_append (not_hasNewline_append (by decide) hnone) (by decide))
    all_goals exact .behind (.before (by decide) .part) (by decide)
  | dollar text tag => exact newlinesFrom_dollarQuote text tag
  | boolean value => cases value <;> exact .word (by decide)
  | null => exact .word (by decide)
  | placeholder text => exact .part
  | bare text => exact .part

theorem DataType.newlinesFrom (type : DataType) : NewlinesFrom type.render type.parts := by
  induction type with
  | plain name => exact .word (Keyword.not_hasNewline_spellings name)
  | sized name size =>
    exact .word (not_hasNewline_append (Keyword.not_hasNewline_spellings name)
      (not_hasNewline_sizeWords size))
  | integer name width unsigned =>
    exact .word (not_hasNewline_append (not_hasNewline_append name.not_hasNewline
      (not_hasNewline_sizeWords width)) (by cases unsigned <;> decide))
  | character name length =>
    cases length with
    | none => exact .word (Keyword.not_hasNewline_spellings name)
    | some length =>
      exact .word (not_hasNewline_append (not_hasNewline_append (not_hasNewline_append
        (Keyword.not_hasNewline_spellings name) (by decide)) length.not_hasNewline) (by decide))
  | exact name size => exact .word (not_hasNewline_append name.not_hasNewline size.not_hasNewline)
  | time name precision zone => exact .word (zone.not_hasNewline name precision)
  | values name items =>
    -- each of the values is a text between quotes, in which newlines stay
    have hitems : List.Forall₂ NewlinesFrom (items.map (inQuotes '\'')) (items.map fun t => [t]) :=
      NewlinesFrom.each (newlinesFrom_inQuotes (by decide)) items
    have hcomma : ¬HasNewline ", " := by decide
    have hlist := NewlinesFrom.intercalate hcomma hitems
    have hparts : (items.map fun t => [t]).flatten = items := List.flatMap_singleton' items
    rw [hparts] at hlist
    exact hlist.before (not_hasNewline_append name.not_hasNewline (by decide))
      |>.behind (by decide)
  | custom name modifiers =>
    refine (newlinesFrom_names name).append ?_
    cases modifiers with
    | nil => exact .word (by decide)
    | cons m ms =>
      exact .behind (.before (by decide) (hasNewline_intercalate_iff (by decide) _)) (by decide)
  | angleArray element ih => exact ih.before (by decide) |>.behind (by decide)
  | squareArray element ih => exact ih.behind (by decide)

theorem Field.newlinesFrom (f : Field) : NewlinesFrom f.render f.parts := by
  obtain ⟨name, type⟩ := f
  cases name with
  | none =>
    have hnone : ¬HasNewline "" := by decide
    exact type.newlinesFrom.before hnone
  | some n =>
    refine .append (.behind ?_ (by decide)) type.newlinesFrom
    simpa using n.newlinesFrom

theorem newlinesFrom_writing (w : Writing) (text : String) :
    NewlinesFrom (w.render text) [text] := by
  cases w with
  | plain => exact .part
  | quoted => exact .behind (.before (by decide) .part) (by decide)
  | escaped => exact newlinesFrom_inQuotes (by decide) text
  | doubled =>
    have hcount := count_escapeQuotes '\'' (c := '\n') (by decide) (Char.ofNat 0) text.toList
    rw [NewlinesFrom, Writing.render, hasNewline_ofList_iff, ← List.count_pos_iff, hcount,
      List.count_pos_iff]
    simp [HasNewline]

theorem BinaryOp.newlinesFrom (op : BinaryOp) : NewlinesFrom op.spelling op.parts := by
  cases op
  case named path =>
    have hpath : NewlinesFrom (".".intercalate path) path :=
      hasNewline_intercalate_iff (by decide) path
    exact hpath.before (by decide) |>.behind (by decide)
  all_goals exact .word (by decide)

theorem newlinesFrom_castFormat (format : Option CastFormat) :
    NewlinesFrom (CastFormat.render format) (CastFormat.parts format) := by
  rcases format with - | ⟨format, - | zone⟩
  · exact .word (by decide)
  · exact format.newlinesFrom.before (by decide)
  · exact format.newlinesFrom.before (by decide) |>.behind (by decide)
      |>.append zone.newlinesFrom

theorem newlinesFrom_parameterWords (parameter : Option Name) :
    NewlinesFrom (parameterWords parameter) (parameterParts parameter) := by
  cases parameter with
  | none => exact .word (by decide)
  | some name => exact name.newlinesFrom.behind (by decide)

theorem newlinesFrom_structWords (fields : List Field) :
    NewlinesFrom (structWords fields) (fields.map Field.parts).flatten := by
  refine .before (by decide) ?_
  cases fields with
  | nil => exact .word (by decide)
  | cons f fields =>
    exact .behind (.before (by decide)
      (.intercalate (by decide) (NewlinesFrom.each Field.newlinesFrom (f :: fields)))) (by decide)

end QueryAudit.Sql
