import QueryAudit.Proofs.Encoding
import QueryAudit.Proofs.SelectLists
import QueryAudit.Proofs.WholeText

/-!
# Reading canonical text

A selection of strings and quoted names can be written so that it is read as this selection. Its
canonical text is read as this selection, and as nothing else, if and only if no text in it has two
of its marks in a row, a mark behind a backslash or, where there are escapes, a backslash. Any other
canonical text is read as something else: another statement, several, or an error. It is the
rendering that is at fault.
-/

namespace QueryAudit

open Sql Lexer

/-- The selection of some strings and quoted names. -/
def selectionOfQuotations (d : Dialect) (qs : List Quotation) : Statement :=
  .classify (.query { body := Grammar.ofExprs (qs.map fun q => q.expr d) })

variable {d : Dialect}

theorem selectionOfQuotations_inj {qs : List Quotation} {statement : Sql.Statement}
    (h : Statement.classify statement = selectionOfQuotations d qs) :
    statement = .query { body := Grammar.ofExprs (qs.map fun q => q.expr d) } := by
  cases statement with
  | query q =>
    rw [Statement.classify] at h
    -- the query itself is a part of the selection, so the statement is given back by it
    cases hfirst : firstRelation q with
    | none =>
      rw [hfirst] at h
      cases h
    | some table =>
      rw [hfirst] at h
      have hquery := congrArg Selection.query (Statement.select.inj h)
      exact congrArg Sql.Statement.query hquery
  | insert target phrase => cases h
  | command phrase => cases h

/-! ### Canonical text -/

theorem toList_render_exprs (es : List Expr) :
    (Phrase.render (Phrase.exprs es)).toList =
      [',', ' '].intercalate (es.map fun e => e.render.toList) := by
  induction es with
  | nil => rfl
  | cons e es ih =>
    -- a comma is written behind each expression but the last
    cases es with
    | nil =>
      have hone : Phrase.render (Phrase.exprs [e]) = e.render ++ "" := rfl
      rw [hone, String.append_empty, List.map_singleton, List.intercalate_singleton]
    | cons e' es =>
      have hcons : Phrase.render (Phrase.exprs (e :: e' :: es)) =
          e.render ++ (", " ++ Phrase.render (Phrase.exprs (e' :: es))) := by
        rw [Phrase.exprs, List.map_cons, Phrase.commas_cons _ (by simp)]
        rfl
      rw [hcons, String.toList_append, String.toList_append, ih]
      simp only [List.map_cons, List.intercalate_cons_cons, List.append_assoc]
      rfl

theorem toList_render_selectionOfQuotations (qs : List Quotation) :
    (selectionOfQuotations d qs).render.toList = Quotation.selecting ([',', ' '].intercalate
      (qs.map fun q => q.mark :: (q.canonical ++ [q.mark]))) := by
  have hrender : (selectionOfQuotations d qs).render =
      "SELECT " ++ Phrase.render (Phrase.exprs (qs.map fun q => q.expr d)) := by
    show "" ++ ("SELECT " ++ Phrase.render (Phrase.exprs (qs.map fun q => q.expr d)) ++ "" ++ "" ++
      "" ++ "") ++ "" = _
    simp only [String.append_empty, String.empty_append]
  have hitems : (qs.map fun q => q.expr d).map (fun e => e.render.toList) =
      qs.map fun q => q.mark :: (q.canonical ++ [q.mark]) := by
    rw [List.map_map]
    exact List.map_congr_left fun q _ => q.toList_render d
  rw [hrender, String.toList_append, toList_render_exprs, hitems]
  rfl

/-- A list around one of its members. -/
theorem intercalate_split {α : Type} (separator : List α) (xs : List (List α)) (y : List α)
    (zs : List (List α)) : separator.intercalate (xs ++ y :: zs) =
      xs.flatMap (· ++ separator) ++ (y ++ zs.flatMap (separator ++ ·)) := by
  induction xs with
  | nil =>
    induction zs generalizing y with
    | nil => simp
    | cons z zs ih =>
      rw [List.nil_append, List.intercalate_cons_cons, ← List.nil_append (z :: zs), ih]
      simp
  | cons x xs ih =>
    rw [List.cons_append, List.intercalate_cons_of_ne_nil (by simp), ih]
    simp

/-! ### The pieces of a text -/

theorem textItems_of_decode {bytes : List UInt8} {chars : List Char}
    (h : Utf8.decode bytes = .ok chars) :
    textItems d bytes =
      throughError ((pass byteOf d .code [] chars).flatMap (Stream.ofChars d)) := by
  rw [textItems, Stream.flatMap_ofText (decode_pieces h)]

theorem items_encode (text : String) :
    (Reader.start d (Source.ofBuffers [Utf8.encode text] none)).items =
      throughError ((pass byteOf d .code [] text.toList).flatMap (Stream.ofChars d)) := by
  rw [items_ofBuffers, List.flatten_singleton, textItems_of_decode (Utf8.decode_encode text)]

theorem passed_selecting {list : List Char} {rest : List Char} (h : Passed d list rest) :
    Passed d (Quotation.selecting list) rest := by
  have hselect : Passed d "SELECT ".toList (list ++ rest) :=
    passed_of_plain (plain_of_harmless (by decide) _)
  exact hselect.append h

/-- The first piece of a selection goes at least as far as an opening mark behind quotations that
    are written as they have to be. -/
theorem exists_of_pass_selecting (good : List Quotation) (q : Quotation) (cs : List Char) :
    ∃ front more, pass byteOf d .code []
        (Quotation.selecting (Quotation.leading d good ++ q.mark :: cs)) =
      Quotation.selecting (Quotation.leading d good ++ q.mark :: front) :: more ∧
        front <+: cs := by
  have hpassed : Passed d (Quotation.selecting (Quotation.leading d good)) (q.mark :: cs) :=
    passed_selecting (Quotation.passed_leading d good _)
  have htext (cs : List Char) : Quotation.selecting (Quotation.leading d good ++ q.mark :: cs) =
      Quotation.selecting (Quotation.leading d good) ++ q.mark :: cs :=
    (List.append_assoc ..).symm
  obtain ⟨front, more, hpass, hfront⟩ := exists_front_of_pass (d := d)
    (o := .quoted (byteOf q.mark))
    (List.cons_ne_nil q.mark ((Quotation.selecting (Quotation.leading d good)).reverse ++ [])) cs
  refine ⟨front, more, ?_, hfront⟩
  -- the good quotations leave the automaton in code, so the mark opens a literal there
  rw [htext, hpassed, pass_open q.isQuoteChar_mark, hpass, htext]
  simp

/-! ### Reading what is written -/

/-- The tokens of a list, from the word before it on. -/
theorem exists_of_listTokens {qs : List Quotation} {q : Quotation} {more : List Token}
    {ts : List Located} (h : ts.map Located.token =
      Quotation.selectToken :: (Quotation.commaTokens d qs ++ q.token d :: more)) :
    ∃ p' bs' front p bs rest,
      ts = Grammar.selectAhead p' bs' (front ++ ⟨q.token d, p, bs⟩ :: rest) ∧
      front.map Located.token = Quotation.commaTokens d qs ∧ rest.map Located.token = more := by
  obtain ⟨⟨_, p', bs'⟩, list, rfl, hselect, hlist⟩ := List.map_eq_cons_iff.mp h
  obtain ⟨front, last, rfl, hfront, hlast⟩ := List.map_eq_append_iff.mp hlist
  obtain ⟨⟨_, p, bs⟩, rest, rfl, htoken, hrest⟩ := List.map_eq_cons_iff.mp hlast
  cases hselect
  cases htoken
  exact ⟨p', bs', front, p, bs, rest, rfl, hfront, hrest⟩

theorem isSemicolon_select (p : Position) (bs : List Blank) :
    Located.isSemicolon ⟨Quotation.selectToken, p, bs⟩ = false :=
  rfl

theorem ofChars_quotations (qs : List Quotation) (q : Quotation) :
    Stream.ofChars d (Quotation.selecting (Quotation.leading d qs ++ q.chars d)) =
      [.ok (selectionOfQuotations d (qs ++ [q]))] := by
  obtain ⟨ts, htokens, hts⟩ := Quotation.tokens_list d qs q
  obtain ⟨p', bs', front, p, bs, rest, rfl, hfront, hrest⟩ := exists_of_listTokens hts
  obtain rfl := List.map_eq_nil_iff.mp hrest
  have hparse := Grammar.parseStatement_quotations d qs q hfront p p' bs bs'
  have hfirst := Stream.first_of_parsed hparse nofun
  rw [Stream.ofChars, htokens]
  dsimp only
  rw [Stream.items, Grammar.selectAhead,
    Stream.itemsFor_statement (isSemicolon_select p' bs') hfirst, Stream.itemsFor_nil]
  rfl

/-- Quotations that are written as they have to be, with commas between them, are read as the
    selection of these. -/
theorem items_quotations (qs : List Quotation) (q : Quotation) :
    (Reader.start d (Source.ofBuffers [Utf8.encode (String.ofList (Quotation.selecting
      (Quotation.leading d qs ++ q.chars d)))] none)).items =
        [.ok (selectionOfQuotations d (qs ++ [q]))] := by
  have hpassed : Passed d (Quotation.leading d qs ++ q.chars d) [] :=
    (Quotation.passed_leading d qs _).append (q.passed_chars d [])
  have hpass := (passed_selecting hpassed).pass_eq_singleton
    (List.append_ne_nil_of_left_ne_nil (List.cons_ne_nil _ _) _)
  rw [items_encode, String.toList_ofList, hpass, List.flatMap_singleton, ofChars_quotations]
  rfl

/-! ### Reading what is not -/

/-- If tokens that begin with some quotations are read as a selection that begins with these, too,
    then it has the next quotation of the tokens behind them, or none. -/
theorem text_of_items {good rest : List Quotation} {q : Quotation} {text : String}
    {p p' : Position} {bs bs' : List Blank} {front behind : List Located}
    (hfront : front.map Located.token = Quotation.commaTokens d good) {others more : List Item}
    (h : throughError (Stream.items d (Grammar.selectAhead p' bs'
        (front ++ ⟨(q.withText text).token d, p, bs⟩ :: behind)) ++ others) =
      .ok (selectionOfQuotations d (good ++ q :: rest)) :: more) : text = q.text := by
  rw [Stream.items, Grammar.selectAhead] at h
  cases hfirst : Stream.first (Grammar.parseStatement d) (⟨Quotation.selectToken, p', bs'⟩ ::
      (front ++ ⟨(q.withText text).token d, p, bs⟩ :: behind)) with
  | error e =>
    rw [Stream.itemsFor, Stream.afterSemicolons_of_not (isSemicolon_select p' bs')] at h
    dsimp only at h
    rw [hfirst] at h
    cases h
  | ok parsed =>
    obtain ⟨statement, left⟩ := parsed
    rw [Stream.itemsFor_statement (isSemicolon_select p' bs') hfirst] at h
    have hitem := Except.ok.inj (List.cons.inj h).1
    have hparse := (Stream.parsed_of_first hfirst).1
    rw [selectionOfQuotations_inj hitem, List.map_append, List.map_cons] at hparse
    -- the atom behind the common items is the one that the next token stands for
    have hatom := Grammar.atom_of_parseStatement d good (q.withText text) hfront p p' bs bs' behind
      (q.isAtom_expr d) hparse
    exact q.text_of_expr_eq d hatom.symm

/-- If a selection is read first that begins with the quotations that a text begins with, then the
    text of the next one is found behind its opening mark. -/
theorem quotedBody_of_items {good rest : List Quotation} {q : Quotation} {front : List Char}
    {others more : List Item}
    (h : throughError (Stream.ofChars d
        (Quotation.selecting (Quotation.leading d good ++ q.mark :: front)) ++ others) =
      .ok (selectionOfQuotations d (good ++ q :: rest)) :: more) :
    ∃ n, quotedBody (q.escapes d) q.mark [] 1 front = some (q.text.toList, n) := by
  rw [Stream.ofChars] at h
  cases htokens : tokens d
      (Quotation.selecting (Quotation.leading d good ++ q.mark :: front)) with
  | error failure =>
    rw [htokens] at h
    cases h
  | ok ts =>
    rw [htokens] at h
    -- the text of the token is what was read between its marks, so both texts are the same
    obtain ⟨text, n, _, hbody, hts⟩ := Quotation.tokens_front d good q htokens
    obtain ⟨p', bs', ahead, p, bs, behind, rfl, hahead, -⟩ := exists_of_listTokens hts
    refine ⟨n, ?_⟩
    rw [← text_of_items hahead h, String.toList_ofList]
    exact hbody

/-! ### Reading again -/

/-- If each member of a list has a property provided that those before it have it, all members
    have it. -/
theorem forall_mem_of_first {α : Type} {P : α → Prop} {xs : List α}
    (h : ∀ front x rest, xs = front ++ x :: rest → (∀ y ∈ front, P y) → P x) : ∀ x ∈ xs, P x := by
  induction xs with
  | nil => exact fun x hx => nomatch hx
  | cons x xs ih =>
    have hx : P x := h [] x xs rfl fun y hy => nomatch hy
    have hxs : ∀ y ∈ xs, P y := ih fun front y rest hxs hfront =>
      h (x :: front) y rest (congrArg (x :: ·) hxs) (List.forall_mem_cons.mpr ⟨hx, hfront⟩)
    exact List.forall_mem_cons.mpr ⟨hx, hxs⟩

theorem leading_eq_canonical {good : List Quotation} (h : ∀ q ∈ good, q.Rereads d) :
    Quotation.leading d good =
      (good.map fun q => q.mark :: (q.canonical ++ [q.mark])).flatMap (· ++ [',', ' ']) := by
  rw [Quotation.leading, List.flatMap_map]
  refine List.flatMap_congr fun q hq => ?_
  rw [Quotation.chars, ← q.canonical_eq_body d (h q hq)]

/-- What stands behind a quotation of a list is ordinary. -/
theorem isOrdinary_behind (q : Quotation) (rest : List (List Char)) :
    ∀ c ∈ (rest.flatMap ([',', ' '] ++ ·)).head?, isOrdinary (q.escapes d) q.mark c = true := by
  cases rest with
  | nil => nofun
  | cons cs rest =>
    rintro _ ⟨⟩
    obtain ⟨mark, text, rfl | rfl | rfl⟩ := q <;> simp [isOrdinary]

/-- The canonical text of a selection of quotations, around one of them. -/
theorem toList_render_split {good : List Quotation} (hgood : ∀ q ∈ good, q.Rereads d)
    (q : Quotation) (rest : List Quotation) :
    (selectionOfQuotations d (good ++ q :: rest)).render.toList =
      Quotation.selecting (Quotation.leading d good ++ q.mark :: (q.canonical ++ q.mark ::
        (rest.map fun q => q.mark :: (q.canonical ++ [q.mark])).flatMap ([',', ' '] ++ ·))) := by
  rw [toList_render_selectionOfQuotations, List.map_append, List.map_cons, intercalate_split,
    leading_eq_canonical hgood]
  simp only [List.cons_append, List.append_assoc, List.nil_append]

/-- Let some strings and quoted names be selected. They can be written so that they are read as
    this selection. Its canonical text is read as this selection, and as nothing else, if and only
    if each of them is written in it as it has to be. -/
theorem quotations_reread_iff (d : Dialect) (qs : List Quotation) (hqs : qs ≠ []) :
    let s := selectionOfQuotations d qs
    let readAgain (canonical : String) :=
      (Reader.start d (Source.ofBuffers [Utf8.encode canonical] none)).items = [.ok s]
    readAgain (String.ofList
        (Quotation.selecting ([',', ' '].intercalate (qs.map fun q => q.chars d)))) ∧
      (readAgain s.render ↔ ∀ q ∈ qs, q.Rereads d) := by
  intro s readAgain
  have hwritten : readAgain (String.ofList
      (Quotation.selecting ([',', ' '].intercalate (qs.map fun q => q.chars d)))) := by
    obtain ⟨front, last, rfl⟩ : ∃ front last, qs = front ++ [last] :=
      ⟨_, _, (List.dropLast_concat_getLast hqs).symm⟩
    have hlist : [',', ' '].intercalate ((front ++ [last]).map fun q => q.chars d) =
        Quotation.leading d front ++ last.chars d := by
      rw [List.map_append, List.map_singleton, intercalate_split, List.flatMap_nil,
        List.append_nil, List.flatMap_map]
      rfl
    rw [hlist]
    exact items_quotations front last
  refine ⟨hwritten, fun h => forall_mem_of_first fun good q rest hsplit hgood => ?_, fun h => ?_⟩
  · -- the first piece alone decides what the first item is
    subst hsplit
    obtain ⟨front, pieces, hpass, hfront⟩ := exists_of_pass_selecting (d := d) good q
      (q.canonical ++ q.mark ::
        (rest.map fun q => q.mark :: (q.canonical ++ [q.mark])).flatMap ([',', ' '] ++ ·))
    have hitems : throughError (Stream.ofChars d
        (Quotation.selecting (Quotation.leading d good ++ q.mark :: front)) ++
          pieces.flatMap (Stream.ofChars d)) = [.ok s] := by
      rw [← List.flatMap_cons, ← hpass, ← toList_render_split hgood, ← items_encode]
      exact h
    obtain ⟨n, hbody⟩ := quotedBody_of_items hitems
    exact rereads_of_quotedBody q.isMark (isOrdinary_behind q _) hfront hbody
  · have hlist : qs.map (fun q => q.mark :: (q.canonical ++ [q.mark])) =
        qs.map fun q => q.chars d :=
      List.map_congr_left fun q hq => by rw [Quotation.chars, q.canonical_eq_body d (h q hq)]
    have hcanonical : s.render = String.ofList
        (Quotation.selecting ([',', ' '].intercalate (qs.map fun q => q.chars d))) := by
      rw [← hlist, ← toList_render_selectionOfQuotations (d := d), String.ofList_toList]
    rw [hcanonical]
    exact hwritten

/-! ### One text -/

def selectionOfText (text : String) : Statement :=
  .classify (selectionOf (.quoted .single text))

/-- The characters of a selection of a text, given those behind the opening quote. -/
def selecting (cs : List Char) : List Char :=
  "SELECT '".toList ++ cs

theorem selectionOfQuotations_text (d : Dialect) (text : String) :
    selectionOfQuotations d [.ofText text] = selectionOfText text := by
  cases d <;> rfl

theorem selecting_chars (d : Dialect) (text : String) :
    Quotation.selecting ((Quotation.ofText text).chars d) =
      selecting (written d.backslashEscapes '\'' text.toList ++ ['\'']) := by
  rw [Quotation.chars_ofText]
  rfl

theorem toList_render_selectionOfText (text : String) :
    (selectionOfText text).render.toList =
      selecting (escapeQuotes '\'' (Char.ofNat 0) text.toList ++ ['\'']) := by
  rw [← selectionOfQuotations_text .generic, toList_render_selectionOfQuotations,
    List.map_singleton, List.intercalate_singleton]
  rfl

theorem items_selecting (d : Dialect) (text : String) :
    (Reader.start d (Source.ofBuffers [Utf8.encode (String.ofList
      (selecting (written d.backslashEscapes '\'' text.toList ++ ['\''])))] none)).items =
        [.ok (selectionOfText text)] := by
  rw [← selecting_chars, ← selectionOfQuotations_text d]
  exact items_quotations [] (.ofText text)

/-- Let a text be selected. It can be written so that it is read as this selection. Its canonical
    text is read as this selection, and as nothing else, if and only if the text has no two quotes
    in a row, no quote behind a backslash and, where there are escapes, no backslash. -/
theorem selection_rereads_iff (d : Dialect) (text : String) :
    let s := selectionOfText text
    let readAgain (canonical : String) :=
      (Reader.start d (Source.ofBuffers [Utf8.encode canonical] none)).items = [.ok s]
    readAgain (String.ofList
        (selecting (written d.backslashEscapes '\'' text.toList ++ ['\'']))) ∧
      (readAgain s.render ↔ Rereads d.backslashEscapes '\'' text.toList) := by
  intro s readAgain
  refine ⟨items_selecting d text, ?_⟩
  obtain ⟨-, hrender⟩ := quotations_reread_iff d [.ofText text] (List.cons_ne_nil _ _)
  dsimp only at hrender
  rw [selectionOfQuotations_text, List.forall_mem_singleton, Quotation.Rereads,
    Quotation.escapes_ofText] at hrender
  exact hrender

/-- A text that ends in a backslash is selected, and the canonical text of this selection is an
    error. -/
theorem canonical_backslash_unread :
    let s := selectionOfText "a\\"
    (Reader.start .mysql (Source.ofBuffers [Utf8.encode "SELECT 'a\\\\'"] none)).items = [.ok s] ∧
      (Reader.start .mysql (Source.ofBuffers [Utf8.encode s.render] none)).items.map
        Reader.isError = [true] := by
  intro s
  have hread := items_selecting .mysql "a\\"
  have htext : String.ofList
      (selecting (written Dialect.mysql.backslashEscapes '\'' "a\\".toList ++ ['\''])) =
        "SELECT 'a\\\\'" := by decide
  rw [htext] at hread
  exact ⟨hread, by decide +kernel⟩

end QueryAudit
