import QueryAudit.Proofs.Characters
import QueryAudit.Proofs.Lexemes
import QueryAudit.Proofs.Reading

/-!
# Reading statement by statement and reading a text at once

A text that has tokens and only statements can be read at once. If the grammar takes each statement
for the same one without the tokens behind its semicolon, reading statement by statement comes to
the same statements, cut at the same semicolons, if and only if the splitter keeps what stands
between them whole. It does if it passes what it does not know.

The lexer knows comments inside comments, texts between dollar marks and strings with escapes, and
words in which a dash, a quote or a number sign stands. The splitter does not, so that it may find a
semicolon inside of them or miss one behind them.
-/

namespace QueryAudit

open Sql Lexer

/-- Whether a token is a semicolon. -/
def Sql.Located.isSemicolon (t : Located) : Bool :=
  t.token = .symbol .semicolon

namespace Stream

/-- The tokens at each place from which a statement of some tokens is read, through the end or the
    first error. -/
def startsFor (parse : Parse) : Nat → List Located → List (List Located)
  | 0, _ => []
  | rounds + 1, ts =>
    match afterSemicolons ts with
    | [] => []
    | t :: ts =>
      (t :: ts) ::
        match first parse (t :: ts) with
        | .error _ => []
        | .ok (_, rest) => startsFor parse rounds rest

/-- The tokens at each place from which a statement of some tokens is read. -/
def starts (d : Dialect) (ts : List Located) : List (List Located) :=
  startsFor (Grammar.parseStatement d) (ts.length + 1) ts

/-- Whether the statement at the front of tokens, if there is one, leaves all that stands behind the
    next semicolon, except for more semicolons, and is the same wherever the tokens before it stand
    alone. -/
def KeepsToItself (d : Dialect) (ts : List Located) : Prop :=
  ∀ statement rest, first (Grammar.parseStatement d) ts = .ok (statement, rest) →
    afterSemicolons rest = afterSemicolons (ts.dropWhile (!·.isSemicolon)) ∧
      ∀ alone, alone.map content = (ts.takeWhile (!·.isSemicolon)).map content →
        first (Grammar.parseStatement d) alone = .ok (statement, [])

variable {d : Dialect} {parse : Parse}

/-! ### One statement -/

/-- A statement is read where a semicolon or the end of the text follows. -/
theorem first_of_parsed {ts rest : List Located} {statement : Sql.Statement}
    (h : parse ts = .parsed statement rest)
    (hrest : ∀ t ∈ rest.head?, t.isSemicolon = true) : first parse ts = .ok (statement, rest) := by
  rw [first, h]
  cases rest with
  | nil => rfl
  | cons t more =>
    have ht : t.isSemicolon = true := hrest t rfl
    exact if_pos (of_decide_eq_true ht)

/-- What it takes for a statement to be read. -/
theorem parsed_of_first {ts rest : List Located} {statement : Sql.Statement}
    (h : first parse ts = .ok (statement, rest)) :
    parse ts = .parsed statement rest ∧
      ∀ t ∈ rest.head?, t.isSemicolon = true := by
  unfold first at h
  split at h
  · cases h
  · next parsed left hparsed =>
    split at h
    · cases h
      exact ⟨hparsed, fun t ht => absurd ht (Option.not_mem_none t)⟩
    · next t more =>
      split at h
      · next ht =>
        cases h
        refine ⟨hparsed, ?_⟩
        rintro _ ⟨⟩
        exact decide_eq_true ht
      · cases h

/-! ### Semicolons between statements -/

theorem afterSemicolons_cons {t : Located} (ht : t.isSemicolon = true) (ts : List Located) :
    afterSemicolons (t :: ts) = afterSemicolons ts :=
  List.dropWhile_cons_of_pos ht

theorem afterSemicolons_of_not {t : Located} (ht : t.isSemicolon = false) (ts : List Located) :
    afterSemicolons (t :: ts) = t :: ts :=
  List.dropWhile_cons_of_neg (by rw [← Located.isSemicolon, ht]; exact Bool.false_ne_true)

/-- Semicolons before a statement make no difference. -/
theorem itemsFor_congr {ts ts' : List Located} (h : afterSemicolons ts = afterSemicolons ts')
    (rounds : Nat) : itemsFor parse rounds ts = itemsFor parse rounds ts' := by
  cases rounds with
  | zero => rfl
  | succ rounds => rw [itemsFor, itemsFor, h]

theorem startsFor_congr {ts ts' : List Located} (h : afterSemicolons ts = afterSemicolons ts')
    (rounds : Nat) : startsFor parse rounds ts = startsFor parse rounds ts' := by
  cases rounds with
  | zero => rfl
  | succ rounds => rw [startsFor, startsFor, h]

theorem itemsFor_nil (rounds : Nat) : itemsFor parse rounds [] = [] := by
  cases rounds <;> rfl

/-- A statement and what is read behind it. -/
theorem itemsFor_statement {t : Located} (ht : t.isSemicolon = false) {ts rest : List Located}
    {statement : Sql.Statement} (h : first parse (t :: ts) = .ok (statement, rest)) (rounds : Nat) :
    itemsFor parse (rounds + 1) (t :: ts) =
      .ok (.classify statement) :: itemsFor parse rounds rest := by
  rw [itemsFor, afterSemicolons_of_not ht]
  dsimp only
  rw [h]

theorem startsFor_statement {t : Located} (ht : t.isSemicolon = false) {ts rest : List Located}
    {statement : Sql.Statement} (h : first parse (t :: ts) = .ok (statement, rest)) (rounds : Nat) :
    startsFor parse (rounds + 1) (t :: ts) = (t :: ts) :: startsFor parse rounds rest := by
  rw [startsFor, afterSemicolons_of_not ht]
  dsimp only
  rw [h]

/-- If there are only statements, there is one at the front. -/
theorem first_of_items {t : Located} (ht : t.isSemicolon = false) {ts : List Located}
    {rounds : Nat} {statements : List Statement}
    (h : itemsFor parse (rounds + 1) (t :: ts) = statements.map .ok) :
    ∃ statement rest more, first parse (t :: ts) = .ok (statement, rest) ∧
      statements = .classify statement :: more ∧ itemsFor parse rounds rest = more.map .ok := by
  cases hfirst : first parse (t :: ts) with
  | error e =>
    rw [itemsFor, afterSemicolons_of_not ht] at h
    dsimp only at h
    rw [hfirst] at h
    cases statements with
    | nil => cases h
    | cons s more => cases h
  | ok found =>
    obtain ⟨statement, rest⟩ := found
    rw [itemsFor_statement ht hfirst] at h
    cases statements with
    | nil => cases h
    | cons s more =>
      rw [List.map_cons, List.cons.injEq, Except.ok.injEq] at h
      exact ⟨statement, rest, more, rfl, by rw [h.1], h.2⟩

/-! ### Texts of single statements -/

/-- The statements of decoded text, through the first error. -/
def ofChars (d : Dialect) (chars : List Char) : List Item :=
  match Lexer.tokens d chars with
  | .error failure => [.error (TextFault.lexical failure).error]
  | .ok ts => items d ts

theorem ofText_of_decode {text : List UInt8} {chars : List Char}
    (h : Utf8.decode text = .ok chars) : ofText d text = ofChars d chars := by
  rw [ofText, h]
  rfl

/-- The statements of texts are those of the characters that they decode to. -/
theorem flatMap_ofText {texts : List (List UInt8)} {chars : List (List Char)}
    (h : texts.map Utf8.decode = chars.map .ok) :
    texts.flatMap (ofText d) = chars.flatMap (ofChars d) := by
  induction texts generalizing chars with
  | nil =>
    rw [List.map_nil, eq_comm, List.map_eq_nil_iff] at h
    rw [h]
    rfl
  | cons text texts ih =>
    obtain ⟨cs, chars, rfl, hcs, hrest⟩ := List.map_eq_cons_iff.mp h.symm
    rw [List.flatMap_cons, List.flatMap_cons, ofText_of_decode hcs.symm, ih hrest.symm]

/-- Lexemes without a semicolon make tokens without one. -/
theorem contents_of_not_isSemicolon {ls : List Lexeme} (h : ∀ l ∈ ls, l.isSemicolon = false)
    {ts : List Located} (hts : ts.map content = contents ls) :
    ∀ t ∈ ts, t.isSemicolon = false := by
  have hcontents : ∀ x ∈ contents ls, x.1 ≠ .symbol .semicolon := by
    clear hts
    induction ls with
    | nil => exact List.forall_mem_nil _
    | cons l ls ih =>
      have ih := ih fun a ha => h a (.tail l ha)
      have hl := h l (.head ls)
      -- blanks and comments make no token
      obtain ⟨t | b | c, text, rest⟩ := l
      · intro x hx
        rcases List.mem_cons.mp hx with rfl | hx
        · simpa [Lexeme.isSemicolon] using hl
        · exact ih x hx
      · exact ih
      · exact ih
  intro t ht
  have := hcontents (content t) (hts ▸ List.mem_map_of_mem ht)
  simpa [Located.isSemicolon, content] using this

/-- A text whose tokens are a statement by themselves. -/
theorem ofChars_of_first {chars : List Char} {ls : List Lexeme} (h : Lexes d chars ls)
    (hls : ∀ l ∈ ls, l.isSemicolon = false) (hne : contents ls ≠ []) {statement : Sql.Statement}
    (halone : ∀ alone, alone.map content = contents ls →
      first (Grammar.parseStatement d) alone = .ok (statement, [])) :
    ofChars d chars = [.ok (.classify statement)] := by
  obtain ⟨ts, hts, hcontents⟩ := h.tokens
  have hsemi := contents_of_not_isSemicolon hls hcontents
  cases ts with
  | nil => exact absurd hcontents.symm hne
  | cons t ts =>
    rw [ofChars, hts]
    show itemsFor (Grammar.parseStatement d) (ts.length + 1 + 1) (t :: ts) = _
    rw [itemsFor_statement (hsemi t (.head ts)) (halone _ hcontents), itemsFor_nil]

/-- A text without tokens has no statements. -/
theorem ofChars_of_nil {chars : List Char} {ls : List Lexeme} (h : Lexes d chars ls)
    (hnil : contents ls = []) : ofChars d chars = [] := by
  obtain ⟨ts, hts, hcontents⟩ := h.tokens
  rw [hnil, List.map_eq_nil_iff] at hcontents
  subst hcontents
  rw [ofChars, hts]
  rfl

/-! ### Statements between semicolons -/

/-- The tokens before a semicolon. -/
theorem takeWhile_dropWhile_front {us rest : List Located} (hus : ∀ t ∈ us, t.isSemicolon = false)
    (hrest : ∀ t, rest.head? = some t → t.isSemicolon = true) :
    (us ++ rest).takeWhile (!·.isSemicolon) = us ∧
      (us ++ rest).dropWhile (!·.isSemicolon) = rest := by
  have hpos : ∀ t ∈ us, (!t.isSemicolon) = true := fun t ht => by rw [hus t ht]; rfl
  rw [List.takeWhile_append_of_pos hpos, List.dropWhile_append_of_pos hpos]
  cases rest with
  | nil => exact ⟨List.append_nil us, rfl⟩
  | cons t rest =>
    have ht := hrest t rfl
    simp [ht]

/-- The tokens before a semicolon make a statement or none, as they do when they stand alone, and
    reading goes on at the semicolon. -/
theorem items_front {front front' : List Lexeme} (h : Lexes d (textOf front) front')
    (hscans : front'.map Lexeme.scan = front.map Lexeme.scan)
    (hfront : ∀ l ∈ front', l.isSemicolon = false) {us rest : List Located}
    (hus : us.map content = contents front)
    (hrest : ∀ t, rest.head? = some t → t.isSemicolon = true) {rounds : Nat}
    (hr : (us ++ rest).length < rounds) {statements : List Statement}
    (hitems : itemsFor (Grammar.parseStatement d) rounds (us ++ rest) = statements.map .ok)
    (hown : ∀ vs ∈ startsFor (Grammar.parseStatement d) rounds (us ++ rest), KeepsToItself d vs) :
    ∃ mine more rounds', statements = mine ++ more ∧
      ofChars d (textOf front) = mine.map .ok ∧ rest.length < rounds' ∧
      itemsFor (Grammar.parseStatement d) rounds' rest = more.map .ok ∧
      ∀ vs ∈ startsFor (Grammar.parseStatement d) rounds' rest, KeepsToItself d vs := by
  have hsame : contents front' = contents front := (contents_congr hscans).2
  cases us with
  | nil =>
    -- there is no statement between these semicolons
    have hnil : contents front' = [] := hsame.trans hus.symm
    exact ⟨[], statements, rounds, rfl, ofChars_of_nil h hnil, hr, hitems, hown⟩
  | cons t us =>
    have hsemi := contents_of_not_isSemicolon hfront (hus.trans hsame.symm)
    obtain ⟨rounds, rfl⟩ := Nat.exists_eq_succ_of_ne_zero (Nat.ne_zero_of_lt hr)
    rw [List.cons_append] at hitems hown
    obtain ⟨statement, rest', more, hfirst, rfl, hmore⟩ :=
      first_of_items (hsemi t (.head us)) hitems
    have hstarts := startsFor_statement (hsemi t (.head us)) hfirst rounds
    -- it ends where these tokens end, since it keeps to itself
    obtain ⟨htake, hdrop⟩ := takeWhile_dropWhile_front hsemi hrest
    obtain ⟨hrest', halone⟩ :=
      hown (t :: (us ++ rest)) (by rw [hstarts]; exact .head _) statement rest' hfirst
    rw [← List.cons_append, hdrop] at hrest'
    rw [← List.cons_append, htake, hus] at halone
    rw [itemsFor_congr hrest'] at hmore
    rw [startsFor_congr hrest'] at hstarts
    refine ⟨[.classify statement], more, rounds, rfl, ?_, ?_, hmore, ?_⟩
    · refine ofChars_of_first h hfront ?_ ?_
      · rw [hsame, ← hus]
        exact List.cons_ne_nil _ _
      · rw [hsame]
        exact halone
    · rw [List.length_append, List.length_cons] at hr
      omega
    · intro vs hvs
      refine hown vs ?_
      rw [hstarts]
      exact .tail _ hvs

/-- The tokens before and behind a semicolon. -/
theorem exists_map_content_eq {front back : List Lexeme} {l : Lexeme} (hl : l.isSemicolon = true)
    {ts : List Located} (hts : ts.map content = contents (front ++ l :: back)) :
    ∃ us t vs, ts = us ++ t :: vs ∧ us.map content = contents front ∧ t.isSemicolon = true ∧
      vs.map content = contents back := by
  obtain ⟨n, hscan⟩ := (isSemicolon_iff l).mp hl
  obtain ⟨scan, text, rest⟩ := l
  dsimp only at hscan
  subst hscan
  rw [Scan.symbol, contents_append_token] at hts
  obtain ⟨us, vs, rfl, hus, hvs⟩ := List.map_eq_append_iff.mp hts
  obtain ⟨t, vs, rfl, ht, hvs⟩ := List.map_eq_cons_iff.mp hvs
  refine ⟨us, t, vs, rfl, hus, ?_, hvs⟩
  rw [Located.isSemicolon, show t.token = .symbol .semicolon from congrArg Prod.fst ht]
  rfl

/-- If all statements keep to themselves, the statements of the texts between semicolons are those
    of the whole text. -/
theorem items_groupsFor {text : List Char} {ls : List Lexeme} (h : Lexes d text ls)
    {ts : List Located} (hts : ts.map content = contents ls) {rounds : Nat}
    (hr : ts.length < rounds) {statements : List Statement}
    (hitems : itemsFor (Grammar.parseStatement d) rounds ts = statements.map .ok)
    (hown : ∀ us ∈ startsFor (Grammar.parseStatement d) rounds ts, KeepsToItself d us) :
    (groups ls).flatMap (fun g => ofChars d (textOf g)) = statements.map .ok := by
  induction ls using semicolon_induction generalizing text ts rounds statements with
  | last ls hls =>
    have hwhole : Lexes d (textOf ls) ls := by rwa [h.textOf_eq]
    rw [← List.append_nil ts] at hr hitems hown
    have hend : ∀ t, ([] : List Located).head? = some t → t.isSemicolon = true := by
      intro t ht
      cases ht
    obtain ⟨mine, more, rounds', rfl, hmine, -, hmore, -⟩ :=
      items_front hwhole rfl hls hts hend hr hitems hown
    rw [itemsFor_nil, eq_comm, List.map_eq_nil_iff] at hmore
    subst hmore
    rw [groups_of_none hls, List.append_nil, ← hmine]
    cases ls with
    | nil => rfl
    | cons l ls => exact List.append_nil _
  | next front l back hfront hl ih =>
    -- the tokens of the text in front of the semicolon are a statement or none
    obtain ⟨front', hlexes, hscans⟩ := h.front hl
    obtain ⟨us, t, vs, rfl, hus, ht, hback⟩ := exists_map_content_eq hl hts
    obtain ⟨mine, more, rounds', rfl, hmine, hr', hmore, hown'⟩ :=
      items_front hlexes hscans (not_isSemicolon_congr hscans hfront) hus
        (by rintro _ ⟨⟩; exact ht) hr hitems hown
    rw [itemsFor_congr (afterSemicolons_cons ht vs)] at hmore
    rw [startsFor_congr (afterSemicolons_cons ht vs)] at hown'
    rw [List.append_cons] at h
    have hrest := ih h.back hback (Nat.lt_of_succ_lt hr') hmore hown'
    rw [groups_of_first hfront hl, List.flatMap_cons, hrest, List.map_append]
    exact congrArg (· ++ _) hmine

end Stream

/-- Statements only are all items. -/
theorem throughError_map_ok (statements : List Statement) :
    throughError (statements.map .ok) = statements.map .ok := by
  induction statements with
  | nil => rfl
  | cons s statements ih => exact congrArg (Except.ok s :: ·) ih

/-- The pieces of a text are those between the semicolons that are tokens if and only if a pass
    keeps them whole. -/
theorem pieces_eq_iff {d : Dialect} {text : List UInt8} {chars : List Char} {ts : List Located}
    (hutf8 : Utf8.decode text = .ok chars) (htokens : Lexer.tokens d chars = .ok ts) :
    (pieces d text).map Utf8.decode = (groups (lexemes d chars)).map (fun g => .ok (textOf g)) ↔
      KeptWhole d (lexemes d chars) := by
  have hmap : (groups (lexemes d chars)).map
      (fun g => (.ok (textOf g) : Except Utf8.Fault (List Char))) =
        ((groups (lexemes d chars)).map textOf).map .ok := List.map_map.symm
  rw [← (lexes_of_tokens htokens).pass_eq_iff, decode_pieces hutf8, hmap]
  exact List.map_inj_right fun _ _ => Except.ok.inj

/-- A pass keeps everything whole if it goes over what the splitter does not know. -/
theorem keptWhole_of_passed {d : Dialect} {chars : List Char} {ts : List Located}
    (htokens : Lexer.tokens d chars = .ok ts)
    (hforeign : ∀ l ∈ lexemes d chars, l.isForeign d = true → Passed d l.text l.rest) :
    KeptWhole d (lexemes d chars) := by
  have hlexes := lexes_of_tokens htokens
  refine hlexes.keptWhole fun l hl hsemi => ?_
  by_cases hf : l.isForeign d = true
  · exact hforeign l hl hf
  · exact hlexes.passed l hl hsemi (Bool.eq_false_iff.mpr hf)

/-- A comment with another one inside is one comment to the lexer and not to the splitter. -/
example :
    let text := "SELECT 1 /* a /* b */ ; */ FROM t".toList
    (groups (lexemes .generic text)).length = 1 ∧
      (pieces .generic (text.map byteOf)).length = 2 := by decide +kernel

/-- The items of a text are the statements of the whole, if its pieces are those between the
    semicolons that are tokens and all statements keep to themselves. -/
theorem textItems_of_pieces {d : Dialect} {text : List UInt8} {chars : List Char}
    {ts : List Located} {statements : List Statement} (htokens : Lexer.tokens d chars = .ok ts)
    (hwhole : Stream.items d ts = statements.map .ok)
    (hpieces : (pieces d text).map Utf8.decode =
      (groups (lexemes d chars)).map fun g => .ok (textOf g))
    (hown : ∀ us ∈ Stream.starts d ts, Stream.KeepsToItself d us) :
    textItems d text = statements.map .ok := by
  have hlexes := lexes_of_tokens htokens
  obtain ⟨us, hus, hcontents⟩ := hlexes.tokens
  rw [htokens, Except.ok.injEq] at hus
  subst hus
  have hitems : (pieces d text).flatMap (Stream.ofText d) = statements.map .ok := by
    rw [Stream.flatMap_ofText (hpieces.trans List.map_map.symm), List.flatMap_map]
    exact Stream.items_groupsFor hlexes hcontents (Nat.lt_succ_self _) hwhole hown
  rw [textItems, hitems, throughError_map_ok]

/-- Let all statements of a text that can be read at once keep to themselves. Then the text is read
    to the same statements one by one and cut at the semicolons that are tokens, if and only if a
    pass keeps everything between them whole; it does if it goes over what the splitter does not
    know. -/
theorem reader_of_whole (d : Dialect) (buffers : List (List UInt8)) {chars : List Char}
    {ts : List Located} {statements : List Statement}
    (hutf8 : Utf8.decode buffers.flatten = .ok chars) (htokens : Lexer.tokens d chars = .ok ts)
    (hwhole : Stream.items d ts = statements.map .ok)
    (hown : ∀ us ∈ Stream.starts d ts, Stream.KeepsToItself d us) :
    ((Reader.start d (Source.ofBuffers buffers none)).readings.map Reading.item =
          statements.map (fun s => some (.ok s)) ++ [none] ∧
        (pieces d buffers.flatten).map Utf8.decode =
          (groups (lexemes d chars)).map (fun g => .ok (textOf g)) ↔
      KeptWhole d (lexemes d chars)) ∧
    ((∀ l ∈ lexemes d chars, l.isForeign d = true → Passed d l.text l.rest) →
      KeptWhole d (lexemes d chars)) := by
  have hpieces := pieces_eq_iff hutf8 htokens
  refine ⟨⟨fun h => hpieces.mp h.2, fun hkept => ⟨?_, hpieces.mpr hkept⟩⟩,
    keptWhole_of_passed htokens⟩
  rw [Reader.readings_eq, items_ofBuffers,
    textItems_of_pieces htokens hwhole (hpieces.mpr hkept) hown, List.map_map]
  rfl

/-- A result that is some value if it is one. -/
theorem eq_ok_of_toOption {ε α : Type} {x : Except ε α} {a : α} (h : x.toOption = some a) :
    x = .ok a := by
  cases x with
  | error e => cases h
  | ok b =>
    cases h
    rfl

/-- The tokens of a selection of a text and of another one of a number. -/
def twoSelections : List Located :=
  [⟨.word (Word.bare "SELECT".toList), ⟨1, 1⟩, [.space]⟩, ⟨.quoted .escaped "a;b", ⟨1, 8⟩, []⟩,
    ⟨.symbol .semicolon, ⟨1, 14⟩, [.space]⟩,
    ⟨.word (Word.bare "SELECT".toList), ⟨1, 16⟩, [.space]⟩, ⟨.number "2" false, ⟨1, 23⟩, []⟩]

def selectionOf (value : Literal) : Sql.Statement :=
  .query { body := .select [.word "SELECT ", .expr (.literal value)] [] [] none [] }

/-- Two tokens that make a statement, wherever they stand, keep to themselves. -/
theorem keepsToItself_two {d : Dialect} {t t' : Located} {rest : List Located}
    {statement : Sql.Statement} (ht : t.isSemicolon = false) (ht' : t'.isSemicolon = false)
    (hrest : ∀ r, rest.head? = some r → r.isSemicolon = true)
    (hfirst : Stream.first (Grammar.parseStatement d) (t :: t' :: rest) = .ok (statement, rest))
    (halone : ∀ p p', Stream.first (Grammar.parseStatement d)
      [{ t with position := p }, { t' with position := p' }] = .ok (statement, [])) :
    Stream.KeepsToItself d (t :: t' :: rest) := by
  have hboth : ∀ r ∈ [t, t'], r.isSemicolon = false := by simp [ht, ht']
  obtain ⟨htake, hdrop⟩ := Stream.takeWhile_dropWhile_front hboth hrest
  intro statement' rest' h
  -- read alone, the two tokens differ in their positions only
  rw [hfirst] at h
  cases h
  refine ⟨congrArg Stream.afterSemicolons hdrop.symm, ?_⟩
  intro alone hcontents
  rw [show t :: t' :: rest = [t, t'] ++ rest from rfl, htake] at hcontents
  obtain ⟨⟨_, p, _⟩, alone, rfl, ⟨⟩, htail⟩ := List.map_eq_cons_iff.mp hcontents
  obtain ⟨⟨_, p', _⟩, alone, rfl, ⟨⟩, hnil⟩ := List.map_eq_cons_iff.mp htail
  rw [List.map_eq_nil_iff.mp hnil]
  exact halone p p'

theorem first_twoSelections : Stream.first (Grammar.parseStatement .generic) twoSelections =
    .ok (selectionOf (.quoted .escaped "a;b"), twoSelections.drop 2) := by rfl

theorem first_secondSelection :
    Stream.first (Grammar.parseStatement .generic) (twoSelections.drop 3) =
      .ok (selectionOf (.number "2" false), []) := by rfl

theorem starts_twoSelections :
    Stream.starts .generic twoSelections = [twoSelections, twoSelections.drop 3] := by rfl

theorem keepsToItself_twoSelections :
    ∀ us ∈ Stream.starts .generic twoSelections, Stream.KeepsToItself .generic us := by
  intro us hus
  rw [starts_twoSelections] at hus
  rcases List.mem_cons.mp hus with rfl | hus
  · refine keepsToItself_two rfl rfl ?_ first_twoSelections fun _ _ => rfl
    rintro _ ⟨⟩
    rfl
  · rw [List.mem_singleton.mp hus]
    refine keepsToItself_two rfl rfl ?_ first_secondSelection fun _ _ => rfl
    rintro _ ⟨⟩

/-- The string is all that the splitter does not know of this text, and it is passed. -/
theorem passed_quoted_semicolon :
    ∀ l ∈ lexemes .generic "SELECT E'a;b'; SELECT 2".toList,
      l.isForeign .generic = true → Passed .generic l.text l.rest := by
  have hstring : (lexemes .generic "SELECT E'a;b'; SELECT 2".toList).filter
      (·.isForeign .generic) = [⟨.token (.quoted .escaped "a;b") 6, "E'a;b'".toList,
        "; SELECT 2".toList⟩] := by decide +kernel
  have hquoted : Passed .generic ('\'' :: ("a;b".toList ++ ['\''])) "; SELECT 2".toList :=
    passed_quoted rfl rfl _
  intro l hl hf
  have hmem := List.mem_filter.mpr ⟨hl, hf⟩
  rw [hstring, List.mem_singleton] at hmem
  rw [hmem]
  exact Passed.append (x := ['E']) (passed_of_plain rfl) hquoted

theorem reader_of_whole_quoted_semicolon :
    (Reader.start .generic (Source.ofBuffers
        ["SELECT E'a;".toList.map byteOf, "b'; SELECT 2".toList.map byteOf] none)).readings.map
      Reading.item =
        [some (.ok (.classify (selectionOf (.quoted .escaped "a;b")))),
          some (.ok (.classify (selectionOf (.number "2" false)))), none] := by
  have hutf8 : Utf8.decode
      ["SELECT E'a;".toList.map byteOf, "b'; SELECT 2".toList.map byteOf].flatten =
        .ok "SELECT E'a;b'; SELECT 2".toList := eq_ok_of_toOption (by decide +kernel)
  have htokens : tokens .generic "SELECT E'a;b'; SELECT 2".toList = .ok twoSelections :=
    eq_ok_of_toOption (by decide +kernel)
  have hwhole : Stream.items .generic twoSelections =
      [.classify (selectionOf (.quoted .escaped "a;b")),
        .classify (selectionOf (.number "2" false))].map .ok := by rfl
  obtain ⟨hiff, hpassed⟩ :=
    reader_of_whole .generic _ hutf8 htokens hwhole keepsToItself_twoSelections
  rw [(hiff.mpr (hpassed passed_quoted_semicolon)).1]
  rfl

end QueryAudit
