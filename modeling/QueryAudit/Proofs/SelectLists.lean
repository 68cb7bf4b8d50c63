import QueryAudit.Proofs.Answers

/-!
# Lists of strings and quoted names

A selection of strings and quoted names is parsed as the selection of these. Where the tokens of a
selection begin with some quotations and a comma behind each, any selection of expressions that is
parsed has these quotations first, and then what the next quotation is, if it has a literal or a
column there at all.
-/

namespace QueryAudit.Sql

namespace Parser

variable {α β : Type} {p : Parser α} {f : α → Parser β} {s : Setting} {ts ts' : List Located}
  {a : α}

/-- Parsing goes on behind an answer that is known. -/
theorem bind_of_parsed (h : p s ts = .parsed a ts') : (p >>= f) s ts = f a s ts' := by
  simp only [Bind.bind, h]

/-- Where a level may still be opened, parsing goes on inside. -/
theorem deeper_succ (p : Parser α) (d : Dialect) (depth : Nat) (rules : Rules)
    (ts : List Located) : deeper p ⟨d, depth + 1, rules⟩ ts = p ⟨d, depth, rules⟩ ts :=
  rfl

theorem AnswersAt.deeper_succ {d : Dialect} {depth : Nat} {rules : Rules} {P : α → Prop}
    (h : AnswersAt ⟨d, depth, rules⟩ ts p P) :
    AnswersAt ⟨d, depth + 1, rules⟩ ts (Parser.deeper p) P :=
  h

/-- A repetition goes on behind a step that is known. -/
theorem iterateFor_of_parsed {step : α → Parser (Option α)} {a b : α}
    (h : step a s ts = .parsed (some b) ts') (round : Located) (rounds : List Located) :
    iterateFor step (round :: rounds) a s ts = iterateFor step rounds b s ts' := by
  rw [iterateFor]
  exact bind_of_parsed h

end Parser

namespace Phrase

/-- Words before words before a phrase are put before it together. -/
theorem prepend_prepend (a b : String) (phrase : Phrase) :
    prepend (.word a) (prepend (.word b) phrase) = prepend (.word (a ++ b)) phrase := by
  cases phrase with
  | nil => rfl
  | cons piece rest =>
    cases piece with
    | word c => simp only [prepend, String.append_assoc]
    | _ => rfl

theorem commas_cons (first : Phrase) {others : List Phrase} (h : others ≠ []) :
    commas (first :: others) = first ++ .word ", " :: commas others := by
  obtain ⟨second, others, rfl⟩ := List.exists_cons_of_ne_nil h
  show first ++ [.word ", "] ++ _ = _
  simp [commas]

/-- Expressions with commas between them are a phrase that is merged already, behind any words. -/
theorem prepend_merged_exprs (word : String) {es : List Expr} (h : es ≠ []) :
    prepend (.word word) (merged (exprs es)) = .word word :: exprs es := by
  induction es generalizing word with
  | nil => exact absurd rfl h
  | cons e es ih =>
    by_cases hes : es = []
    · subst hes
      rfl
    · have hexprs : exprs (e :: es) = .expr e :: .word ", " :: exprs es :=
        commas_cons _ (by simpa using hes)
      have hmerged : merged (exprs (e :: es)) =
          prepend (.expr e) (prepend (.word ", ") (merged (exprs es))) := by
        rw [hexprs]
        rfl
      -- words are merged with words only, and an expression stands between any two of them here
      rw [hmerged, ih ", " hes, hexprs]
      rfl

end Phrase

namespace Grammar

open QueryAudit.Sql.Parser

/-! ### Phrases of select lists -/

/-- A phrase that begins with no empty words and, if it begins with a literal or a column, with a
    given one. -/
def Opens (atom : Expr) (phrase : Phrase) : Prop :=
  ∃ piece rest, phrase = piece :: rest ∧ piece ≠ .word "" ∧
    ∀ e, piece = .expr e → OnlyAtom atom e

theorem Opens.append {atom : Expr} {phrase : Phrase} (h : Opens atom phrase) (more : Phrase) :
    Opens atom (phrase ++ more) := by
  obtain ⟨piece, rest, rfl, hpiece⟩ := h
  exact ⟨piece, rest ++ more, rfl, hpiece⟩

theorem Opens.commas {atom : Expr} {phrase : Phrase} (h : Opens atom phrase)
    (others : List Phrase) : Opens atom (Phrase.commas (phrase :: others)) := by
  cases others with
  | nil => exact h
  | cons q qs => exact (h.append _).append _

/-- A selection of expressions. -/
def ofExprs (es : List Expr) : Body :=
  .select (.word "SELECT " :: Phrase.exprs es) [] [] none []

/-- An atom behind words is the one that the phrase behind these words opens with. -/
theorem atom_of_prepend {atom e : Expr} (he : IsAtom e) {phrase more : Phrase}
    (h : Opens atom phrase) {word : String}
    (hm : Phrase.prepend (.word word) (Phrase.merged phrase) = .word word :: .expr e :: more) :
    e = atom := by
  obtain ⟨piece, rest, rfl, hne, hpiece⟩ := h
  have hmerged : Phrase.merged (piece :: rest) = Phrase.prepend piece (Phrase.merged rest) := rfl
  rw [hmerged] at hm
  cases piece with
  | word t =>
    -- these words would be one piece with those before them
    obtain ⟨u, tail, htail⟩ : ∃ u tail, Phrase.prepend (.word t) (Phrase.merged rest) =
        .word (t ++ u) :: tail := by
      rw [Phrase.prepend.eq_def]
      split
      · next heq _ =>
        cases heq
        exact ⟨_, _, rfl⟩
      · exact ⟨"", _, by rw [String.append_empty]⟩
    rw [htail] at hm
    have hwords : word ++ (t ++ u) = word ++ "" := by
      rw [String.append_empty]
      exact Piece.word.inj (List.cons.inj hm).1
    rw [String.append_right_inj, String.append_eq_empty_iff] at hwords
    exact absurd (congrArg Piece.word hwords.1) hne
  | expr e' =>
    have heq : e' = e := Piece.expr.inj (List.cons.inj (List.cons.inj hm).2).1
    exact heq ▸ hpiece e' rfl (heq ▸ he)
  | _ => cases hm

/-- Behind expressions that a list has in common with a phrase, it has an atom only if the phrase
    opens with it there. -/
theorem atom_of_merged {atom e : Expr} (he : IsAtom e) {phrase : Phrase} (h : Opens atom phrase)
    (others : List Phrase) (into : Phrase) (good es : List Expr) {word : String}
    (hm : Phrase.prepend (.word word)
        (Phrase.merged (Phrase.commas (good.map Phrase.expr ++ phrase :: others) ++ into)) =
      .word word :: Phrase.exprs (good ++ e :: es)) : e = atom := by
  -- the words of a comma stand between the items, so merging keeps each item apart
  induction good generalizing word with
  | nil =>
    obtain ⟨more, hmore⟩ : ∃ more, Phrase.exprs (e :: es) = .expr e :: more := by
      cases es with
      | nil => exact ⟨_, rfl⟩
      | cons => exact ⟨_, rfl⟩
    rw [List.nil_append, hmore] at hm
    exact atom_of_prepend he ((h.commas others).append into) hm
  | cons g good ih =>
    have hlist : Phrase.commas ((g :: good).map Phrase.expr ++ phrase :: others) ++ into =
        .expr g :: .word ", " ::
          (Phrase.commas (good.map Phrase.expr ++ phrase :: others) ++ into) := by
      rw [List.map_cons, List.cons_append, Phrase.commas_cons _ (by simp)]
      rfl
    have hexprs : Phrase.exprs (g :: good ++ e :: es) =
        .expr g :: .word ", " :: Phrase.exprs (good ++ e :: es) :=
      Phrase.commas_cons _ (by simp)
    rw [hlist, hexprs] at hm
    exact ih (List.cons.inj (List.cons.inj hm).2).2

/-! ### Items of select lists -/

section Items

variable (q : Quotation) (p : Position) (bs : List Blank) (s : Setting) (ts : List Located)

theorem answersAt_exprOrStar {atom : Expr}
    (h : AnswersAt s (⟨q.token s.dialect, p, bs⟩ :: ts) expr (OnlyAtom atom)) :
    AnswersAt s (⟨q.token s.dialect, p, bs⟩ :: ts) exprOrStar (OnlyAtom atom) := by
  have hmul : accept .mul s (⟨q.token s.dialect, p, bs⟩ :: ts) =
      .parsed false (⟨q.token s.dialect, p, bs⟩ :: ts) := by
    obtain ⟨d, depth, rules⟩ := s
    obtain ⟨mark, text, rfl | rfl | rfl⟩ := q <;> cases d <;> rfl
  refine .bind_parsed hmul (.bind fun found rest hfound => ?_)
  cases found with
  | some names => exact Answers.pure nofun s rest
  | none =>
    rw [rewinding_none hfound]
    exact h

theorem answersAt_selectItem {atom : Expr}
    (h : AnswersAt s (⟨q.token s.dialect, p, bs⟩ :: ts) expr (OnlyAtom atom)) :
    AnswersAt s (⟨q.token s.dialect, p, bs⟩ :: ts) selectItem (Opens atom) := by
  refine .bind_of (answersAt_exprOrStar q p bs s ts h) fun e he => ?_
  split
  · exact .bind fun options => .pure ⟨.word "*", options, rfl, by simp, nofun⟩
  · next names => exact .bind fun options => .pure ⟨.names "." names, _, rfl, nofun, nofun⟩
  · refine .bind fun filter => .bind fun renamed => .pure ⟨.expr _, _, rfl, nofun, ?_⟩
    intro e' heq
    rw [Piece.expr.injEq] at heq
    subst heq
    cases filter with
    | some condition => exact nofun
    | none => exact he

end Items

section List

variable (d : Dialect) (depth : Nat) (rules : Rules)

/-- A quotation is an item of its own in front of a comma, ... -/
theorem selectItem_comma (q : Quotation) (p p' : Position) (bs bs' : List Blank)
    (ts : List Located) :
    selectItem ⟨d, depth + 1, rules.around.around⟩
        (⟨q.token d, p, bs⟩ :: ⟨.symbol .comma, p', bs'⟩ :: ts) =
      .parsed (Phrase.expr (q.expr d)) (⟨.symbol .comma, p', bs'⟩ :: ts) := by
  obtain ⟨mark, text, rfl | rfl | rfl⟩ := q <;> cases d <;> rfl

/-- ... and where nothing else follows. -/
theorem selectItem_last (q : Quotation) (p : Position) (bs : List Blank) :
    selectItem ⟨d, depth + 1, rules.around.around⟩ [⟨q.token d, p, bs⟩] =
      .parsed (Phrase.expr (q.expr d)) [] := by
  obtain ⟨mark, text, rfl | rfl | rfl⟩ := q <;> cases d <;> rfl

/-- The next item of a list, if a comma comes before it. -/
def anotherItem : Parser (Option Phrase) := do
  if ← accept .comma then return some (← selectItem) else return none

/-- The items of a list, with the next one if there is one. -/
def withAnother (done : List Phrase) : Parser (Option (List Phrase)) := do
  return (← anotherItem).map (· :: done)

theorem anotherItem_comma {s : Setting} {ts ts' : List Located} {phrase : Phrase}
    (h : selectItem s ts = .parsed phrase ts') (p : Position) (bs : List Blank) :
    anotherItem s (⟨.symbol .comma, p, bs⟩ :: ts) = .parsed (some phrase) ts' := by
  have hcomma : accept .comma s (⟨.symbol .comma, p, bs⟩ :: ts) = .parsed true ts := rfl
  refine (bind_of_parsed hcomma).trans ?_
  exact bind_of_parsed h

theorem withAnother_comma {s : Setting} {ts ts' : List Located} {phrase : Phrase}
    (h : selectItem s ts = .parsed phrase ts') (p : Position) (bs : List Blank)
    (done : List Phrase) :
    withAnother done s (⟨.symbol .comma, p, bs⟩ :: ts) = .parsed (some (phrase :: done)) ts' :=
  bind_of_parsed (anotherItem_comma h p bs)

/-- The quotations of a list, as its items. -/
def quotedItems (qs : List Quotation) : List Phrase :=
  (qs.map fun q => q.expr d).map Phrase.expr

theorem exists_of_commaTokens {q : Quotation} {qs : List Quotation} {ts : List Located}
    (h : ts.map Located.token = Quotation.commaTokens d (q :: qs)) :
    ∃ p bs p' bs' ts', ts = ⟨q.token d, p, bs⟩ :: ⟨.symbol .comma, p', bs'⟩ :: ts' ∧
      ts'.map Located.token = Quotation.commaTokens d qs := by
  obtain ⟨⟨_, p, bs⟩, behind, rfl, hq, hbehind⟩ := List.map_eq_cons_iff.mp h
  obtain ⟨⟨_, p', bs'⟩, ts', rfl, hcomma, hts'⟩ := List.map_eq_cons_iff.mp hbehind
  cases hq
  cases hcomma
  exact ⟨p, bs, p', bs', ts', rfl, hts'⟩

/-- From a comma on, the rounds of a repetition take one quotation each. -/
theorem iterateFor_commaTokens (qs : List Quotation) {ts : List Located}
    (hts : ts.map Located.token = Quotation.commaTokens d qs) {rounds : List Located}
    (hr : qs.length ≤ rounds.length) (p : Position) (bs : List Blank) (done : List Phrase)
    (rest : List Located) :
    ∃ p' bs', iterateFor withAnother rounds done ⟨d, depth + 1, rules.around.around⟩
        (⟨.symbol .comma, p, bs⟩ :: (ts ++ rest)) =
      iterateFor withAnother (rounds.drop qs.length) ((quotedItems d qs).reverse ++ done)
        ⟨d, depth + 1, rules.around.around⟩ (⟨.symbol .comma, p', bs'⟩ :: rest) := by
  induction qs generalizing ts rounds p bs done with
  | nil =>
    obtain rfl := List.map_eq_nil_iff.mp hts
    exact ⟨p, bs, rfl⟩
  | cons q qs ih =>
    obtain ⟨p₁, bs₁, p₂, bs₂, ts, rfl, hqs⟩ := exists_of_commaTokens d hts
    obtain ⟨round, rounds, rfl⟩ := List.exists_cons_of_length_pos (Nat.lt_of_lt_of_le
      (Nat.succ_pos qs.length) hr)
    have hitem := withAnother_comma
      (selectItem_comma d depth rules q p₁ p₂ bs₁ bs₂ (ts ++ rest)) p bs done
    obtain ⟨p', bs', hrest⟩ := ih hqs (Nat.le_of_succ_le_succ hr) p₂ bs₂
      (Phrase.expr (q.expr d) :: done)
    refine ⟨p', bs', ?_⟩
    -- a round takes a comma and the quotation behind it, and stops before the next comma
    refine (iterateFor_of_parsed hitem round rounds).trans (hrest.trans ?_)
    simp [quotedItems]

/-- What is collected is kept. -/
theorem answers_iterateFor_withAnother (rounds : List Located) (done : List Phrase) :
    (iterateFor withAnother rounds done).Answers fun found => ∃ more, found = more ++ done := by
  refine .iterateFor (fun found hfound => ?_) ⟨[], rfl⟩
  obtain ⟨more, rfl⟩ := hfound
  refine .bind fun item => .pure ?_
  rintro _ hitem
  obtain ⟨phrase, -, rfl⟩ := Option.map_eq_some_iff.mp hitem
  exact ⟨phrase :: more, rfl⟩

/-- From a comma on, the next round puts before the items what the next item opens with. -/
theorem answersAt_iterateFor_comma {atom : Expr} {s : Setting} {ts : List Located}
    (h : AnswersAt s ts selectItem (Opens atom)) (p : Position) (bs : List Blank)
    (round : Located) (rounds : List Located) (done : List Phrase) :
    AnswersAt s (⟨.symbol .comma, p, bs⟩ :: ts) (iterateFor withAnother (round :: rounds) done)
      fun found => ∃ phrase more, Opens atom phrase ∧ found = more ++ phrase :: done := by
  have hcomma : accept .comma s (⟨.symbol .comma, p, bs⟩ :: ts) = .parsed true ts := rfl
  have hitem : AnswersAt s (⟨.symbol .comma, p, bs⟩ :: ts) anotherItem fun item =>
      ∃ phrase, Opens atom phrase ∧ item = some phrase :=
    .bind_parsed hcomma (h.bind_of fun phrase hphrase => .pure ⟨phrase, hphrase, rfl⟩)
  have hround : AnswersAt s (⟨.symbol .comma, p, bs⟩ :: ts) (withAnother done) fun found =>
      ∃ phrase, Opens atom phrase ∧ found = some (phrase :: done) := by
    refine hitem.bind_of fun item hitem => .pure ?_
    obtain ⟨phrase, hphrase, rfl⟩ := hitem
    exact ⟨phrase, hphrase, rfl⟩
  refine hround.bind_of fun found hfound => ?_
  obtain ⟨phrase, hphrase, rfl⟩ := hfound
  refine (answers_iterateFor_withAnother rounds (phrase :: done)).mono fun found hfound => ?_
  obtain ⟨more, rfl⟩ := hfound
  exact ⟨phrase, more, hphrase, rfl⟩

theorem iterateFor_end (rounds : List Located) (done : List Phrase) (s : Setting) :
    iterateFor withAnother rounds done s [] = .parsed done [] := by
  cases rounds <;> rfl

/-- The items behind the first quotation of several, before the last one. Rounds are left. -/
theorem iterate_commaTokens (qs : List Quotation) {ts : List Located}
    (hts : ts.map Located.token = Quotation.commaTokens d qs) (p : Position) (bs : List Blank)
    (last : Located) (rest : List Located) :
    ∃ round rounds p' bs', iterate withAnother [] ⟨d, depth + 1, rules.around.around⟩
        (⟨.symbol .comma, p, bs⟩ :: (ts ++ last :: rest)) =
      iterateFor withAnother (round :: rounds) (quotedItems d qs).reverse
        ⟨d, depth + 1, rules.around.around⟩ (⟨.symbol .comma, p', bs'⟩ :: last :: rest) := by
  -- a quotation and its comma are two tokens, so there are more rounds than quotations
  have hcount : ts.length = qs.length * 2 := by
    rw [← List.length_map (f := Located.token), hts]
    simp [Quotation.commaTokens, List.length_flatMap]
  let all : List Located := ⟨.symbol .comma, p, bs⟩ :: (ts ++ last :: rest)
  have hlen : qs.length < all.length := by
    simp only [all, List.length_cons, List.length_append]
    omega
  obtain ⟨p', bs', hrounds⟩ := iterateFor_commaTokens d depth rules qs hts (Nat.le_of_lt hlen) p bs
    [] (last :: rest)
  rw [List.drop_eq_getElem_cons hlen, List.append_nil] at hrounds
  exact ⟨_, _, p', bs', hrounds⟩

/-- A list of quotations is a list of these items. -/
theorem commaSeparated_quotations (qs : List Quotation) (q : Quotation) {ts : List Located}
    (hts : ts.map Located.token = Quotation.commaTokens d qs) (p : Position) (bs : List Blank) :
    commaSeparated selectItem ⟨d, depth + 1, rules.around.around⟩ (ts ++ [⟨q.token d, p, bs⟩]) =
      .parsed (quotedItems d (qs ++ [q])) [] := by
  cases qs with
  | nil =>
    obtain rfl := List.map_eq_nil_iff.mp hts
    exact bind_of_parsed (selectItem_last d depth rules q p bs)
  | cons q₁ qs =>
    obtain ⟨p₁, bs₁, p₂, bs₂, ts, rfl, hqs⟩ := exists_of_commaTokens d hts
    have hfirst := selectItem_comma d depth rules q₁ p₁ p₂ bs₁ bs₂ (ts ++ [⟨q.token d, p, bs⟩])
    have hmany : many anotherItem ⟨d, depth + 1, rules.around.around⟩
        (⟨.symbol .comma, p₂, bs₂⟩ :: (ts ++ [⟨q.token d, p, bs⟩])) =
          .parsed (quotedItems d (qs ++ [q])) [] := by
      obtain ⟨round, rounds, p', bs', hothers⟩ := iterate_commaTokens d depth rules qs hqs p₂ bs₂
        ⟨q.token d, p, bs⟩ []
      have hlast := withAnother_comma (selectItem_last d depth rules q p bs) p' bs'
        (quotedItems d qs).reverse
      have hfound := (hothers.trans (iterateFor_of_parsed hlast round rounds)).trans
        (iterateFor_end _ _ _)
      -- the items are collected with the last one first
      have hitems : (Phrase.expr (q.expr d) :: (quotedItems d qs).reverse).reverse =
          quotedItems d (qs ++ [q]) := by simp [quotedItems]
      rw [← hitems]
      exact bind_of_parsed hfound
    exact (bind_of_parsed hfirst).trans (bind_of_parsed hmany)

/-- A list that begins with quotations has these as items, and then one that opens with what the
    next token is. -/
theorem answersAt_items (qs : List Quotation) (q : Quotation) {ts : List Located}
    (hts : ts.map Located.token = Quotation.commaTokens d qs) (p : Position) (bs : List Blank)
    (rest : List Located) :
    AnswersAt ⟨d, depth + 1, rules.around.around⟩ (ts ++ ⟨q.token d, p, bs⟩ :: rest)
      (commaSeparated selectItem) fun items =>
        ∃ phrase others, Opens (q.expr d) phrase ∧
          items = quotedItems d qs ++ phrase :: others := by
  let s : Setting := ⟨d, depth + 1, rules.around.around⟩
  have hitem : AnswersAt s (⟨q.token d, p, bs⟩ :: rest) selectItem (Opens (q.expr d)) :=
    answersAt_selectItem q p bs s rest (answersAt_expr q p bs d (depth + 1) rules rest)
  cases qs with
  | nil =>
    obtain rfl := List.map_eq_nil_iff.mp hts
    exact hitem.bind_of fun phrase hphrase => .bind fun others =>
      .pure ⟨phrase, others, hphrase, rfl⟩
  | cons q₁ qs =>
    obtain ⟨p₁, bs₁, p₂, bs₂, ts, rfl, hqs⟩ := exists_of_commaTokens d hts
    have hfirst := selectItem_comma d depth rules q₁ p₁ p₂ bs₁ bs₂
      (ts ++ ⟨q.token d, p, bs⟩ :: rest)
    have hmany : AnswersAt s (⟨.symbol .comma, p₂, bs₂⟩ :: (ts ++ ⟨q.token d, p, bs⟩ :: rest))
        (many anotherItem) fun items => ∃ phrase others, Opens (q.expr d) phrase ∧
          items = quotedItems d qs ++ phrase :: others := by
      obtain ⟨round, rounds, p', bs', hothers⟩ := iterate_commaTokens d depth rules qs hqs p₂ bs₂
        ⟨q.token d, p, bs⟩ rest
      -- what follows the next quotation is not known, so only the items up to it are
      have hfound : AnswersAt s (⟨.symbol .comma, p₂, bs₂⟩ :: (ts ++ ⟨q.token d, p, bs⟩ :: rest))
          (iterate withAnother []) fun found => ∃ phrase more, Opens (q.expr d) phrase ∧
            found = more ++ phrase :: (quotedItems d qs).reverse := by
        intro found left hfound
        rw [hothers] at hfound
        exact answersAt_iterateFor_comma hitem p' bs' round rounds _ found left hfound
      refine hfound.bind_of fun found hfound => .pure ?_
      obtain ⟨phrase, more, hphrase, rfl⟩ := hfound
      exact ⟨phrase, more.reverse, hphrase, by simp⟩
    refine .bind_parsed hfirst (hmany.bind_of fun items hitems => .pure ?_)
    obtain ⟨phrase, others, hphrase, rfl⟩ := hitems
    exact ⟨phrase, others, hphrase, rfl⟩

end List

/-! ### Selections -/

theorem merged_select (items into : Phrase) :
    Phrase.merged (Phrase.words "SELECT" ++ Phrase.words " " ++ items ++ into) =
      Phrase.prepend (.word "SELECT ") (Phrase.merged (items ++ into)) := by
  rw [List.append_assoc]
  exact Phrase.prepend_prepend "SELECT" " " _

/-- A body that has only a given atom behind some expressions, if it is a selection of expressions
    that has an atom there. -/
def OnlySelects (good : List Expr) (atom : Expr) (body : Body) : Prop :=
  ∀ e es, IsAtom e → body = ofExprs (good ++ e :: es) → e = atom

section Selection

variable (d : Dialect) (depth : Nat) (rules : Rules) (qs : List Quotation) (q : Quotation)
  {ts : List Located} (hts : ts.map Located.token = Quotation.commaTokens d qs) (p p' : Position)
  (bs bs' : List Blank) (rest : List Located)

include hts in
theorem exists_head : ∃ q₀ p₀ bs₀ more,
    ts ++ ⟨q.token d, p, bs⟩ :: rest = ⟨Quotation.token d q₀, p₀, bs₀⟩ :: more := by
  cases qs with
  | nil =>
    obtain rfl := List.map_eq_nil_iff.mp hts
    exact ⟨q, p, bs, rest, rfl⟩
  | cons q₀ qs =>
    obtain ⟨p₀, bs₀, _, _, _, rfl, -⟩ := exists_of_commaTokens d hts
    exact ⟨q₀, p₀, bs₀, _, rfl⟩

theorem distinct_quotation (ts : List Located) (s : Setting) :
    distinct s (⟨q.token d, p, bs⟩ :: ts) = .parsed .everything (⟨q.token d, p, bs⟩ :: ts) := by
  obtain ⟨mark, text, rfl | rfl | rfl⟩ := q <;> cases d <;> rfl

theorem top_quotation (ts : List Located) (s : Setting) :
    after .TOP top s (⟨q.token d, p, bs⟩ :: ts) = .parsed none (⟨q.token d, p, bs⟩ :: ts) := by
  obtain ⟨mark, text, rfl | rfl | rfl⟩ := q <;> cases d <;> rfl

include hts in
theorem select_quotations :
    select ⟨d, depth + 1, rules.around.around⟩ (ts ++ [⟨q.token d, p, bs⟩]) =
      .parsed (ofExprs ((qs ++ [q]).map fun q => q.expr d)) [] := by
  obtain ⟨q₀, p₀, bs₀, more, hhead⟩ := exists_head d qs q hts p bs []
  have hitems := commaSeparated_quotations d depth rules qs q hts p bs
  rw [hhead] at hitems ⊢
  refine (bind_of_parsed (distinct_quotation d q₀ p₀ bs₀ more _)).trans ?_
  refine (bind_of_parsed (top_quotation d q₀ p₀ bs₀ more _)).trans ?_
  refine (bind_of_parsed hitems).trans ?_
  have hphrase : Phrase.merged (Phrase.words "SELECT" ++ Phrase.words " " ++
      Phrase.commas (quotedItems d (qs ++ [q])) ++ []) =
        .word "SELECT " :: Phrase.exprs ((qs ++ [q]).map fun q => q.expr d) := by
    rw [merged_select, List.append_nil]
    exact Phrase.prepend_merged_exprs "SELECT " (by simp)
  rw [ofExprs, ← hphrase]
  -- behind the items there is no token, so no clause is found
  cases d <;> rfl

include hts in
theorem answersAt_select :
    AnswersAt ⟨d, depth + 1, rules.around.around⟩ (ts ++ ⟨q.token d, p, bs⟩ :: rest) select
      (OnlySelects (qs.map fun q => q.expr d) (q.expr d)) := by
  obtain ⟨q₀, p₀, bs₀, more, hhead⟩ := exists_head d qs q hts p bs rest
  have hitems := answersAt_items d depth rules qs q hts p bs rest
  rw [hhead] at hitems ⊢
  refine .bind_parsed (distinct_quotation d q₀ p₀ bs₀ more _)
    (.bind_parsed (top_quotation d q₀ p₀ bs₀ more _) ?_)
  refine hitems.bind_of fun items hitems => ?_
  obtain ⟨phrase, others, hphrase, rfl⟩ := hitems
  -- what the clauses behind the items come to is left open: the items are fixed by now
  refine .bind fun into => .bind fun _ => .bind fun _ => .bind fun _ => .bind fun _ =>
    .bind fun _ => .bind fun _ => .bind fun _ => .bind fun _ => .bind fun _ => .bind fun _ =>
    .pure fun e es he hl => ?_
  rw [ofExprs, Body.select.injEq] at hl
  have hmerged := (merged_select _ _).symm.trans hl.1
  exact atom_of_merged he hphrase others _ _ es hmerged

/-- The tokens of a selection, given those of its list. -/
def selectAhead (list : List Located) : List Located :=
  ⟨Quotation.selectToken, p', bs'⟩ :: list

include hts in
theorem bodyOf_quotations (outer : Nat) :
    bodyOf outer ⟨d, depth + 1, rules.around.around⟩
        (selectAhead p' bs' (ts ++ [⟨q.token d, p, bs⟩])) =
      .parsed (ofExprs ((qs ++ [q]).map fun q => q.expr d)) [] := by
  have hselect : keyword .SELECT ⟨d, depth + 1, rules.around.around⟩
      (selectAhead p' bs' (ts ++ [⟨q.token d, p, bs⟩])) =
        .parsed true (ts ++ [⟨q.token d, p, bs⟩]) := rfl
  have hfirst : simpleBody ⟨d, depth + 1, rules.around.around⟩
      (selectAhead p' bs' (ts ++ [⟨q.token d, p, bs⟩])) =
        .parsed (ofExprs ((qs ++ [q]).map fun q => q.expr d)) [] :=
    (bind_of_parsed hselect).trans (select_quotations d depth rules qs q hts p bs)
  exact bind_of_parsed hfirst

include hts in
theorem answersAt_bodyOf (outer : Nat) :
    AnswersAt ⟨d, depth + 1, rules.around.around⟩
      (selectAhead p' bs' (ts ++ ⟨q.token d, p, bs⟩ :: rest)) (bodyOf outer)
      (OnlySelects (qs.map fun q => q.expr d) (q.expr d)) := by
  let s : Setting := ⟨d, depth + 1, rules.around.around⟩
  have hselect : keyword .SELECT s (selectAhead p' bs' (ts ++ ⟨q.token d, p, bs⟩ :: rest)) =
      .parsed true (ts ++ ⟨q.token d, p, bs⟩ :: rest) := rfl
  have hfirst : AnswersAt s (selectAhead p' bs' (ts ++ ⟨q.token d, p, bs⟩ :: rest)) simpleBody
      (OnlySelects (qs.map fun q => q.expr d) (q.expr d)) :=
    .bind_parsed hselect (answersAt_select d depth rules qs q hts p bs rest)
  refine hfirst.bind_of fun body hbody => .iterate (fun left _ => .bind fun k => ?_) hbody
  -- if the body is combined with another one, it is no selection of its own any more
  split
  · exact .pure nofun
  · refine .ite (.pure nofun) (.bind fun _ => .bind fun quantifier => .bind fun right => .pure ?_)
    rintro _ ⟨⟩
    nofun

/-- A query that begins with `SELECT` is a body and the clauses behind it, one level deeper. -/
theorem queryOf_selectAhead (list : List Located) :
    queryOf ⟨d, depth + 1, rules⟩ (selectAhead p' bs' list) =
      (do
        let body ← body 0
        return { body, tail := (← queryTail).merged } : Parser Query)
        ⟨d, depth, rules⟩ (selectAhead p' bs' list) := by
  let s : Setting := ⟨d, depth, rules⟩
  have hcommon : commonQueries s (selectAhead p' bs' list) =
      .parsed [] (selectAhead p' bs' list) := rfl
  have hinsert : keyword .INSERT s (selectAhead p' bs' list) =
      .parsed false (selectAhead p' bs' list) := rfl
  have hupdate : keyword .UPDATE s (selectAhead p' bs' list) =
      .parsed false (selectAhead p' bs' list) := rfl
  rw [queryOf, deeper_succ]
  exact (bind_of_parsed hcommon).trans ((bind_of_parsed hinsert).trans (bind_of_parsed hupdate))

include hts in
theorem queryOf_quotations :
    queryOf ⟨d, depth + 2, rules.around.around.around⟩
        (selectAhead p' bs' (ts ++ [⟨q.token d, p, bs⟩])) =
      .parsed { body := ofExprs ((qs ++ [q]).map fun q => q.expr d) } [] := by
  have hbody : body 0 ⟨d, depth + 1, rules.around.around.around⟩
      (selectAhead p' bs' (ts ++ [⟨q.token d, p, bs⟩])) =
        .parsed (ofExprs ((qs ++ [q]).map fun q => q.expr d)) [] :=
    bodyOf_quotations d depth rules qs q hts p p' bs bs' 0
  rw [queryOf_selectAhead]
  refine (bind_of_parsed hbody).trans ?_
  -- nothing is left for the clauses of a query, in any dialect
  cases d <;> rfl

include hts in
theorem answersAt_queryOf :
    AnswersAt ⟨d, depth + 2, rules.around.around.around⟩
      (selectAhead p' bs' (ts ++ ⟨q.token d, p, bs⟩ :: rest)) queryOf fun query =>
        OnlySelects (qs.map fun q => q.expr d) (q.expr d) query.body := by
  have hbody : AnswersAt ⟨d, depth + 1, rules.around.around.around⟩
      (selectAhead p' bs' (ts ++ ⟨q.token d, p, bs⟩ :: rest)) (body 0)
      (OnlySelects (qs.map fun q => q.expr d) (q.expr d)) :=
    answersAt_bodyOf d depth rules qs q hts p p' bs bs' rest 0
  intro query left h
  rw [queryOf_selectAhead] at h
  exact hbody.bind_of (Q := fun query : Query => OnlySelects _ _ query.body)
    (fun body hbody => .bind fun tail => .pure hbody) query left h

theorem parseStatement_selectAhead (list : List Located) :
    parseStatement d (selectAhead p' bs' list) =
      deeper (do return .query (← query))
        ⟨d, maxDepth, (Rules.upTo (3 * list.length + 1)).around.around.around.around⟩
        (selectAhead p' bs' list) := by
  have hrule : parseStatement d (selectAhead p' bs' list) =
      statementOf ⟨d, maxDepth, (Rules.upTo (3 * list.length + 1)).around.around.around.around⟩
        (selectAhead p' bs' list) := rfl
  rw [hrule]
  cases d <;> rfl

include hts in
/-- A selection of quotations is parsed as this selection, to its end. -/
theorem parseStatement_quotations :
    parseStatement d (selectAhead p' bs' (ts ++ [⟨q.token d, p, bs⟩])) =
      .parsed (.query { body := ofExprs ((qs ++ [q]).map fun q => q.expr d) }) [] := by
  rw [parseStatement_selectAhead]
  exact bind_of_parsed (queryOf_quotations d 47 _ qs q hts p p' bs bs')

include hts in
/-- Behind quotations that a selection of expressions has in common with the tokens it is parsed
    from, it has a literal or a column only if the next token is this one. -/
theorem atom_of_parseStatement {e : Expr} (he : IsAtom e) {es : List Expr} {left : List Located}
    (h : parseStatement d (selectAhead p' bs' (ts ++ ⟨q.token d, p, bs⟩ :: rest)) =
      .parsed (.query { body := ofExprs ((qs.map fun q => q.expr d) ++ e :: es) }) left) :
    e = q.expr d := by
  rw [parseStatement_selectAhead] at h
  -- a query is parsed with one level less and one use of the rules less than a statement
  have hquery (rules : Rules) : AnswersAt ⟨d, 49, rules.around.around.around.around⟩
      (selectAhead p' bs' (ts ++ ⟨q.token d, p, bs⟩ :: rest)) query fun query =>
        OnlySelects (qs.map fun q => q.expr d) (q.expr d) query.body :=
    answersAt_queryOf d 47 rules qs q hts p p' bs bs' rest
  have hstatement (rules : Rules) : AnswersAt ⟨d, maxDepth, rules.around.around.around.around⟩
      (selectAhead p' bs' (ts ++ ⟨q.token d, p, bs⟩ :: rest))
      (deeper do return Statement.query (← query)) fun statement => ∀ query,
        statement = .query query →
          OnlySelects (qs.map fun q => q.expr d) (q.expr d) query.body := by
    refine .deeper_succ ((hquery rules).bind_of fun query hquery => .pure ?_)
    rintro _ ⟨⟩
    exact hquery
  exact hstatement _ _ left h _ rfl e es he rfl

end Selection

end Grammar
end QueryAudit.Sql
