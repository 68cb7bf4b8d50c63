import QueryAudit.Proofs.ColumnSearch
import QueryAudit.Proofs.Rejoining
import QueryAudit.Proofs.Rereading

/-!
# Texts between quotes are inert

A text that is written between quotes as it has to be, with each quote doubled and, where it would
escape, each backslash, is nothing but a text to all that look at it: the splitter stays within the
quotes, the lexer makes one token of it, and the parser compares a column with it. Whatever the text
is, the statement ends where it would end with any other one, and what stands behind it is read as
if it stood alone.
-/

namespace QueryAudit

open Sql Lexer

/-- The characters of a selection by a comparison, given those behind the opening quote. -/
def comparingWith (cs : List Char) : List Char :=
  "SELECT * FROM t WHERE c = ".toList ++ '\'' :: cs

/-- A selection by a comparison with a text, which is written as it has to be. -/
def comparing (d : Dialect) (text : String) : String :=
  String.ofList (comparingWith (written d.backslashEscapes '\'' text.toList ++ ['\'']))

/-- The selection by a comparison with a text. -/
def comparison (text : String) : Selection where
  table := "t"
  query := {
    body := .select [.word "SELECT *"] [⟨some [⟨"t", none⟩], [.names "." [⟨"t", none⟩]], []⟩] []
      (some (.binary (.column ⟨"c", none⟩) .eq (.literal (.quoted .single text)))) [] }

variable {d : Dialect}

/-! ### Splitting -/

/-- Characters that are passed before a semicolon are a closed text. -/
theorem closed_of_passed {chars : List Char} (h : Passed d chars [';']) :
    Closed d (Utf8.encode (String.ofList chars)) := by
  have hbytes : Utf8.encode (String.ofList (chars ++ [';'])) =
      Utf8.encode (String.ofList chars) ++ [Mode.semicolon] := by
    rw [Utf8.encode_eq, Utf8.encode_eq, String.toList_ofList, String.toList_ofList,
      List.flatMap_append]
    rfl
  have hdecode := Utf8.decode_encode (String.ofList (chars ++ [';']))
  have hpieces := decode_pieces (d := d) hdecode
  rw [String.toList_ofList, h.pass_eq] at hpieces
  obtain ⟨text, hsingle, htext⟩ := List.map_eq_singleton_iff.mp hpieces
  rcases eq_of_pieces_eq_singleton hsingle with hwhole | ⟨hfront, hclosed⟩
  · -- the characters of the whole text are one more
    rw [← hwhole, hdecode, String.toList_ofList, Except.ok.injEq] at htext
    simp at htext
  · rw [hbytes] at hfront
    rwa [List.append_cancel_right hfront]

theorem passed_comparingWith {cs rest : List Char} (h : Passed d ('\'' :: cs) rest) :
    Passed d (comparingWith cs) rest := by
  have hplain : Passed d "SELECT * FROM t WHERE c = ".toList ('\'' :: cs ++ rest) :=
    passed_of_plain (plain_of_harmless (by decide) _)
  exact hplain.append h

theorem closed_comparing (d : Dialect) (text : String) :
    Closed d (Utf8.encode (comparing d text)) := by
  refine closed_of_passed (passed_comparingWith ?_)
  rw [← escapesIn_of_ne (d := d) (q := '\'') (by decide)]
  exact passed_written rfl text.toList [';']

/-! ### Reading -/

/-- The tokens of a selection by a comparison with a text. -/
def comparisonTokens (text : String) : List Located :=
  [⟨.word (Word.bare "SELECT".toList), ⟨1, 1⟩, [.space]⟩, ⟨.symbol .mul, ⟨1, 8⟩, [.space]⟩,
    ⟨.word (Word.bare "FROM".toList), ⟨1, 10⟩, [.space]⟩,
    ⟨.word (Word.bare "t".toList), ⟨1, 15⟩, [.space]⟩,
    ⟨.word (Word.bare "WHERE".toList), ⟨1, 17⟩, [.space]⟩,
    ⟨.word (Word.bare "c".toList), ⟨1, 23⟩, [.space]⟩,
    ⟨.symbol .eq, ⟨1, 25⟩, [.space]⟩, ⟨.quoted .single text, ⟨1, 27⟩, []⟩]

theorem tokens_comparingWith (cs : List Char) :
    tokens d (comparingWith cs) =
      tokensFrom d (cs.length + 13) (comparisonTokens "").dropLast.reverse ⟨1, 27⟩
        ('\'' :: cs) := by
  -- fourteen scans take the twenty-six characters before the quote, and each takes a round
  cases d <;> rfl

set_option maxRecDepth 4000 in
theorem items_comparison (text : String) :
    Stream.items d (comparisonTokens text) = [.ok (.select (comparison text))] := by
  -- the parser never looks into the text of a quoted token, so it computes with any
  cases d <;> rfl

theorem ofText_comparing (d : Dialect) (text : String) :
    Stream.ofText d (Utf8.encode (comparing d text)) = [.ok (.select (comparison text))] := by
  let cs := written d.backslashEscapes '\'' text.toList ++ ['\'']
  have hdrop :
      ('\'' :: cs).drop ((written d.backslashEscapes '\'' text.toList).length + 2) = [] := by
    simp [cs]
  have htokens : tokens d (comparingWith cs) = .ok (comparisonTokens text) := by
    rw [tokens_comparingWith, tokensFrom, Quotation.scan_ofText]
    dsimp only
    rw [hdrop]
    rfl
  rw [Stream.ofText_of_decode (Utf8.decode_encode _), comparing, String.toList_ofList,
    Stream.ofChars, htokens]
  exact items_comparison text

theorem columns_comparison (text : String) : columns (comparison text).condition = ["c"] := by
  show addColumns [] (.binary (.column ⟨"c", none⟩) .eq (.literal (.quoted .single text))) = _
  rw [addColumns_nil]
  simp [ownColumns, Expr.children, addColumns_nil, Name.render]

/-- Let a text be compared with a column, written between quotes as it has to be, and let a
    semicolon and anything else stand behind it, in whatever buffers. However the text is made up,
    the splitter delivers this selection and then what it delivers of the rest alone, and a reader
    hands out the selection, from the same table and by the same column and with the text as it is,
    and then what it hands out for the rest alone. -/
theorem contents_are_inert (d : Dialect) (text : String) (buffers more : List (List UInt8))
    (h : buffers.flatten =
      Utf8.encode (comparing d text) ++ Mode.semicolon :: more.flatten) :
    (∃ texts, Splits d more texts ∧ Splits d buffers (Utf8.encode (comparing d text) :: texts)) ∧
    ∃ s : Selection, s.table = "t" ∧
      s.condition = some (.binary (.column ⟨"c", none⟩) .eq (.literal (.quoted .single text))) ∧
      columns s.condition = ["c"] ∧
      (Reader.start d (Source.ofBuffers buffers none)).items =
        .ok (.select s) :: (Reader.start d (Source.ofBuffers more none)).items := by
  -- the selection ends with the semicolon, whatever its text
  have hpieces : pieces d buffers.flatten =
      Utf8.encode (comparing d text) :: pieces d more.flatten := by
    rw [h, pieces_of_closed (closed_comparing d text)]
  refine ⟨⟨pieces d more.flatten, splits_pieces d more, ?_⟩, comparison text, rfl, rfl,
    columns_comparison text, ?_⟩
  · rw [← hpieces]
    exact splits_pieces d buffers
  · rw [items_ofBuffers, items_ofBuffers, textItems, hpieces, List.flatMap_cons, ofText_comparing]
    rfl

/-- A text with a quote, a semicolon, both openers of comments, a newline and, at its end, a
    backslash, cut into buffers in its midst, before an incomplete selection. -/
theorem contents_are_inert_openers :
    let text := "'; -- /*\n#\\"
    let rest := Utf8.encode "SELECT"
    let buffers := [Utf8.encode "SELECT * FROM t WHERE c = '''; -", Utf8.encode "- /*\n#\\\\';SEL",
      Utf8.encode "ECT"]
    buffers.flatten = Utf8.encode (comparing .mysql text) ++ Mode.semicolon :: [rest].flatten ∧
      ∃ s : Selection, s.table = "t" ∧ columns s.condition = ["c"] ∧
        (Reader.start .mysql (Source.ofBuffers buffers none)).items.map Reader.isError =
          [false, true] := by
  intro text rest buffers
  have hbuffers : buffers.flatten =
      Utf8.encode (comparing .mysql text) ++ Mode.semicolon :: [rest].flatten := by
    decide +kernel
  obtain ⟨-, s, htable, -, hcolumns, hitems⟩ :=
    contents_are_inert .mysql text buffers [rest] hbuffers
  have hrest : (Reader.start .mysql (Source.ofBuffers [rest] none)).items.map Reader.isError =
      [true] := by decide +kernel
  refine ⟨hbuffers, s, htable, hcolumns, ?_⟩
  rw [hitems, List.map_cons, hrest]
  rfl

end QueryAudit
