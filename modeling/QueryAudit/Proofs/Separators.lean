import Mathlib.Data.List.TakeWhile
import QueryAudit.Proofs.EmptyStatements
import QueryAudit.Proofs.Progress

/-!
# Semicolons between statements

The tokens of a text are read as statements with semicolons between them: any number of semicolons
at the front and at the end, and at least one behind each statement before another one. How many
tokens a statement takes is for its parser to say, which may pass semicolons on its way; a semicolon
or the end of the text has to follow where it stops. Where the tokens are not of this form, the
statements through the last one that a semicolon ends are read, and then it is an error that no
statement can be read from what follows, or that more follows the statement there.

Of the parser nothing matters here but that it takes tokens for a statement and begins none at a
semicolon.
-/

namespace QueryAudit

namespace Stream

open Sql

variable {parse : Parse}

/-! ### The form of tokens -/

def Semicolons (ts : List Located) : Prop :=
  ∀ t ∈ ts, t.isSemicolon = true

/-- Statements with at least one semicolon behind each, from the first token of the first of them
    on, and what is left behind them. The parser takes just its own tokens for each. -/
inductive Ended (parse : Parse) : List Located → List Sql.Statement → List Located → Prop
  | none (rest : List Located) : Ended parse rest [] rest
  | cons {taken semicolons more rest : List Located} {statement : Sql.Statement}
      {statements : List Sql.Statement}
      (h : parse (taken ++ (semicolons ++ more)) =
        .parsed statement (semicolons ++ more))
      (hs : Semicolons semicolons) (hne : semicolons ≠ [])
      (hmore : Ended parse more statements rest) :
      Ended parse (taken ++ (semicolons ++ more)) (statement :: statements) rest

/-- Any number of semicolons, and statements with at least one semicolon behind each before what is
    left. -/
inductive Begins (parse : Parse) : List Located → List Sql.Statement → List Located → Prop
  | intro {lead body rest : List Located} {statements : List Sql.Statement}
      (hs : Semicolons lead) (h : Ended parse body statements rest) :
      Begins parse (lead ++ body) statements rest

/-- Statements with semicolons between them: any number of semicolons at the front and behind the
    last statement, and at least one behind each of the others. -/
inductive Separated (parse : Parse) : List Located → List Sql.Statement → Prop
  | none {ts : List Located} (hs : Semicolons ts) : Separated parse ts []
  | some {ts last tail : List Located} {statements : List Sql.Statement}
      {statement : Sql.Statement} (h : Begins parse ts statements (last ++ tail))
      (hlast : parse (last ++ tail) = .parsed statement tail)
      (hs : Semicolons tail) : Separated parse ts (statements ++ [statement])

/-- No statement is read from tokens that begin with no semicolon: the parser fails, or a token
    that is no semicolon stands behind the statement. -/
inductive Stuck (parse : Parse) : List Located → String → Prop
  | unread {t : Located} {ts left : List Located} {e : SyntaxError} (ht : t.isSemicolon = false)
      (h : parse (t :: ts) = .failed e left) : Stuck parse (t :: ts) e.message
  | trailing {ts more : List Located} {t : Located} {statement : Sql.Statement}
      (h : parse ts = .parsed statement (t :: more))
      (ht : t.isSemicolon = false) :
      Stuck parse ts ("Expected end of statement, found: " ++ t.token.spelling)

def itemsOf (statements : List Sql.Statement) : List Item :=
  (statements.map Statement.classify).map .ok

/-! ### Where a statement may begin -/

/-- Tokens that begin with something other than a semicolon. -/
def AtStatement (ts : List Located) : Prop :=
  ∃ t more, ts = t :: more ∧ t.isSemicolon = false

theorem AtStatement.afterSemicolons {ts : List Located} (h : AtStatement ts) :
    afterSemicolons ts = ts := by
  obtain ⟨t, more, rfl, ht⟩ := h
  exact afterSemicolons_of_not ht more

theorem AtStatement.ne_nil {ts : List Located} (h : AtStatement ts) : ts ≠ [] := by
  obtain ⟨t, more, rfl, -⟩ := h
  exact List.cons_ne_nil t more

/-- No statement is read from a semicolon on. -/
theorem TakesStatements.atStatement (hparse : TakesStatements parse) {ts rest : List Located}
    {statement : Sql.Statement} (h : parse ts = .parsed statement rest) : AtStatement ts := by
  obtain ⟨t, taken, rfl, ht⟩ := hparse h
  exact ⟨t, taken ++ rest, rfl, decide_eq_false ht⟩

theorem Stuck.atStatement (hparse : TakesStatements parse) {ts : List Located} {message : String}
    (h : Stuck parse ts message) : AtStatement ts := by
  cases h with
  | unread ht => exact ⟨_, _, rfl, ht⟩
  | trailing h => exact hparse.atStatement h

theorem Ended.atStatement (hparse : TakesStatements parse) {body rest : List Located}
    {statements : List Sql.Statement} (h : Ended parse body statements rest)
    (hrest : AtStatement rest) : AtStatement body := by
  cases h with
  | none => exact hrest
  | cons h => exact hparse.atStatement h

theorem Ended.suffix {body rest : List Located} {statements : List Sql.Statement}
    (h : Ended parse body statements rest) : rest <:+ body := by
  induction h with
  | none => exact List.suffix_rfl
  | cons _ _ _ _ ih => exact ih.trans ((List.suffix_append _ _).trans (List.suffix_append _ _))

/-! ### Semicolons at the front -/

theorem afterSemicolons_append {lead : List Located} (hs : Semicolons lead) (ts : List Located) :
    afterSemicolons (lead ++ ts) = afterSemicolons ts :=
  List.dropWhile_append_of_pos hs

theorem afterSemicolons_eq_nil_iff {ts : List Located} :
    afterSemicolons ts = [] ↔ Semicolons ts :=
  List.dropWhile_eq_nil_iff

/-- Tokens are some semicolons and what stands behind them. -/
theorem exists_semicolons (ts : List Located) :
    ∃ lead, Semicolons lead ∧ ts = lead ++ afterSemicolons ts :=
  ⟨_, fun _ => List.mem_takeWhile_imp, List.takeWhile_append_dropWhile.symm⟩

theorem atStatement_afterSemicolons {ts : List Located} (h : afterSemicolons ts ≠ []) :
    AtStatement (afterSemicolons ts) := by
  have hhead := List.head_dropWhile_not _ h
  exact ⟨_, _, (List.cons_head_tail h).symm, hhead⟩

/-! ### One statement -/

/-- Where no statement is read, and why. -/
theorem stuck_of_first {ts : List Located} {e : SyntaxError} (hts : AtStatement ts)
    (h : first parse ts = .error e) : Stuck parse ts e.message := by
  unfold first at h
  -- either no statement is parsed, or a token that is no semicolon stands behind it
  split at h
  · next e' left hfailed =>
    cases h
    obtain ⟨t, more, rfl, ht⟩ := hts
    exact .unread ht hfailed
  · next statement left hparsed =>
    split at h
    · cases h
    · next t more =>
      split at h
      · cases h
      · next ht =>
        cases h
        exact .trailing hparsed (decide_eq_false ht)

theorem Stuck.first {ts : List Located} {message : String} (h : Stuck parse ts message) :
    ∃ e : SyntaxError, first parse ts = .error e ∧ e.message = message := by
  cases h with
  | unread _ h => exact ⟨_, by rw [Stream.first, h], rfl⟩
  | @trailing _ _ t _ h ht =>
    refine ⟨.trailing t.token, ?_, rfl⟩
    rw [Stream.first, h]
    exact if_neg (of_decide_eq_false ht)

/-! ### How tokens are read -/

/-- Semicolons at the front make no difference. -/
theorem Reads.congr {ts ts' : List Located} {items : List Item}
    (h : afterSemicolons ts = afterSemicolons ts') (hr : Reads parse ts items) :
    Reads parse ts' items := by
  cases hr with
  | ended hts => exact .ended (h ▸ hts)
  | wrong hts herror => exact .wrong (h ▸ hts) (h ▸ herror)
  | statement hts hok hrest => exact .statement (h ▸ hts) (h ▸ hok) hrest

/-- Tokens are read in one way. -/
theorem Reads.unique {ts : List Located} {items items' : List Item} (h : Reads parse ts items)
    (h' : Reads parse ts items') : items = items' := by
  induction h generalizing items' with
  | ended hts =>
    cases h' with
    | ended => rfl
    | wrong hts' => exact absurd hts hts'
    | statement hts' => exact absurd hts hts'
  | wrong hts herror =>
    cases h' with
    | ended hts' => exact absurd hts' hts
    | wrong _ herror' =>
      cases herror.symm.trans herror'
      rfl
    | statement _ hok => cases herror.symm.trans hok
  | statement hts hok _ ih =>
    cases h' with
    | ended hts' => exact absurd hts' hts
    | wrong _ herror => cases hok.symm.trans herror
    | statement _ hok' hrest =>
      cases hok.symm.trans hok'
      rw [ih hrest]

/-- A statement that is read, and what follows it. -/
theorem reads_parsed (hparse : TakesStatements parse) {ts rest : List Located}
    {statement : Sql.Statement} {items : List Item} (h : parse ts = .parsed statement rest)
    (hrest : ∀ t ∈ rest.head?, t.isSemicolon = true) (hr : Reads parse rest items) :
    Reads parse ts (.ok (.classify statement) :: items) := by
  have hts := hparse.atStatement h
  refine .statement ?_ ?_ hr
  · rw [hts.afterSemicolons]
    exact hts.ne_nil
  · rw [hts.afterSemicolons]
    exact first_of_parsed h hrest

theorem Semicolons.head {semicolons more : List Located} (hs : Semicolons semicolons)
    (h : semicolons = [] → more = []) :
    ∀ t ∈ (semicolons ++ more).head?, t.isSemicolon = true := by
  cases semicolons with
  | nil =>
    rw [h rfl]
    exact fun t ht => absurd ht (Option.not_mem_none t)
  | cons t semicolons =>
    rintro _ ⟨⟩
    exact hs t List.mem_cons_self

/-- Statements that semicolons end are read, and then what is left. -/
theorem Ended.reads (hparse : TakesStatements parse) {body rest : List Located}
    {statements : List Sql.Statement} {items : List Item}
    (h : Ended parse body statements rest) (hr : Reads parse rest items) :
    Reads parse body (itemsOf statements ++ items) := by
  induction h with
  | none => exact hr
  | cons h hs hne _ ih =>
    refine reads_parsed hparse h (hs.head fun hnil => absurd hnil hne) ?_
    exact (ih hr).congr (afterSemicolons_append hs _).symm

theorem Begins.reads (hparse : TakesStatements parse) {ts rest : List Located}
    {statements : List Sql.Statement} {items : List Item}
    (h : Begins parse ts statements rest) (hr : Reads parse rest items) :
    Reads parse ts (itemsOf statements ++ items) := by
  obtain ⟨hs, h⟩ := h
  exact (h.reads hparse hr).congr (afterSemicolons_append hs _).symm

/-- Statements with semicolons between them are read without an error. -/
theorem Separated.reads (hparse : TakesStatements parse) {ts : List Located}
    {statements : List Sql.Statement} (h : Separated parse ts statements) :
    Reads parse ts (itemsOf statements) := by
  cases h with
  | none hs => exact .ended (afterSemicolons_eq_nil_iff.mpr hs)
  | @some _ tail _ _ h hlast hs =>
    have hend : Reads parse tail [] := .ended (afterSemicolons_eq_nil_iff.mpr hs)
    have hhead : ∀ t ∈ (tail ++ []).head?, t.isSemicolon = true := hs.head fun _ => rfl
    rw [List.append_nil] at hhead
    rw [itemsOf, List.map_append, List.map_append]
    exact h.reads hparse (reads_parsed hparse hlast hhead hend)

/-- Where no statement is read, there is one error. -/
theorem Stuck.reads (hparse : TakesStatements parse) {ts : List Located} {message : String}
    (h : Stuck parse ts message) :
    Reads parse ts [.error (.parse ("SQL parse error: " ++ message))] := by
  have hts := h.atStatement hparse
  obtain ⟨e, herror, rfl⟩ := h.first
  refine .wrong ?_ ?_
  · rw [hts.afterSemicolons]
    exact hts.ne_nil
  · rw [hts.afterSemicolons]
    exact herror

/-! ### All tokens -/

/-- No statement was read yet. -/
theorem begins_afterSemicolons (parse : Parse) (ts : List Located) :
    Begins parse ts [] (afterSemicolons ts) := by
  obtain ⟨lead, hlead, hts⟩ := exists_semicolons ts
  have hbegins : Begins parse (lead ++ afterSemicolons ts) [] (afterSemicolons ts) :=
    .intro hlead (.none _)
  rwa [← hts] at hbegins

/-- One more statement at the front. -/
theorem Begins.cons (hparse : TakesStatements parse) {ts rest left : List Located}
    {statement : Sql.Statement} {statements : List Sql.Statement}
    (h : parse (afterSemicolons ts) = .parsed statement rest)
    (hhead : ∀ t ∈ rest.head?, t.isSemicolon = true) (hb : Begins parse rest statements left)
    (hleft : AtStatement left) : Begins parse ts (statement :: statements) left := by
  obtain ⟨lead, hlead, hts⟩ := exists_semicolons ts
  obtain ⟨taken, htaken⟩ := hparse.suffix h
  cases hb with
  | @intro semicolons body _ _ hs hended =>
    -- a semicolon has to follow, and the next statement begins with none
    have hne : semicolons ≠ [] := by
      rintro rfl
      obtain ⟨t, more, rfl, ht⟩ := hended.atStatement hparse hleft
      exact Bool.false_ne_true (ht.symm.trans (hhead t rfl))
    rw [hts]
    refine .intro hlead ?_
    rw [← htaken] at h ⊢
    exact .cons h hs hne hended

/-- Tokens are statements with semicolons between them, or they begin with such statements before
    one that cannot be read. -/
theorem separated_or_stuck (hparse : TakesStatements parse) (ts : List Located) :
    (∃ found, Separated parse ts found) ∨
      ∃ found rest message, Begins parse ts found rest ∧ Stuck parse rest message := by
  -- along the way in which they are read
  have hreads := reads_itemsFor hparse (Nat.lt_succ_self ts.length)
  generalize itemsFor parse _ ts = read at hreads
  induction hreads with
  | ended hts => exact .inl ⟨[], .none (afterSemicolons_eq_nil_iff.mp hts)⟩
  | @wrong ts e hts herror =>
    exact .inr ⟨[], afterSemicolons ts, e.message, begins_afterSemicolons parse ts,
      stuck_of_first (atStatement_afterSemicolons hts) herror⟩
  | @statement ts rest statement _ hts hok _ ih =>
    obtain ⟨hparsed, hhead⟩ := parsed_of_first hok
    rcases ih with ⟨found, hseparated⟩ | ⟨found, left, message, hbegins, hstuck⟩
    · cases hseparated with
      | none hs =>
        obtain ⟨taken, htaken⟩ := hparse.suffix hparsed
        have hbegins := begins_afterSemicolons parse ts
        rw [← htaken] at hparsed hbegins
        exact .inl ⟨[] ++ [statement], .some hbegins hparsed hs⟩
      | some h hlast hs =>
        have hbegins := h.cons hparse hparsed hhead (hparse.atStatement hlast)
        exact .inl ⟨_ :: _ ++ [_], .some hbegins hlast hs⟩
    · exact .inr ⟨statement :: found, left, message,
        hbegins.cons hparse hparsed hhead (hstuck.atStatement hparse), hstuck⟩

/-- Tokens that are read without an error are statements with semicolons between them. -/
theorem separated_of_reads (hparse : TakesStatements parse) {ts : List Located}
    {read : List Statement} (h : Reads parse ts (read.map .ok)) :
    ∃ statements, Separated parse ts statements ∧ read = statements.map .classify := by
  rcases separated_or_stuck hparse ts with
    ⟨statements, hs⟩ | ⟨statements, rest, message, hb, hstuck⟩
  · have hread := h.unique (hs.reads hparse)
    exact ⟨statements, hs, List.map_injective_iff.mpr (fun _ _ => Except.ok.inj) hread⟩
  · have herror := List.mem_append_right (itemsOf statements)
      (List.mem_singleton_self (.error (.parse ("SQL parse error: " ++ message)) : Item))
    rw [← h.unique (hb.reads hparse (hstuck.reads hparse))] at herror
    obtain ⟨s, -, hs⟩ := List.mem_map.mp herror
    cases hs

/-- Statements that semicolons end are among those before an error, if the tokens differ at most in
    semicolons at the front. -/
theorem Ended.longest (hparse : TakesStatements parse) {body body' rest rest' : List Located}
    {found found' : List Sql.Statement} {message : String}
    (h : Ended parse body found rest) (hstuck : Stuck parse rest message)
    (h' : Ended parse body' found' rest') (hbody : afterSemicolons body' = afterSemicolons body) :
    found' <+: found ∧ rest <:+ rest' := by
  induction h' generalizing body found with
  | none rest' =>
    refine ⟨List.nil_prefix, h.suffix.trans ?_⟩
    rw [← (h.atStatement hparse (hstuck.atStatement hparse)).afterSemicolons, ← hbody]
    exact List.dropWhile_suffix _
  | @cons taken' semicolons' more' rest' statement' found' hparsed' hs' hne' hmore' ih =>
    rw [(hparse.atStatement hparsed').afterSemicolons,
      (h.atStatement hparse (hstuck.atStatement hparse)).afterSemicolons] at hbody
    rw [hbody] at hparsed'
    cases h with
    | none =>
      -- here a statement can be read
      obtain ⟨e, herror, -⟩ := hstuck.first
      rw [first_of_parsed hparsed' (hs'.head fun hnil => absurd hnil hne')] at herror
      cases herror
    | @cons taken semicolons more _ statement found hparsed hs hne hmore =>
      rw [hparsed, Outcome.parsed.injEq] at hparsed'
      obtain ⟨rfl, hrest⟩ := hparsed'
      have hafter := congrArg afterSemicolons hrest
      rw [afterSemicolons_append hs, afterSemicolons_append hs'] at hafter
      obtain ⟨hfound, hrest⟩ := ih hmore hafter.symm
      exact ⟨List.cons_prefix_cons.mpr ⟨rfl, hfound⟩, hrest⟩

/-- The statements before an error are as many as there are. -/
theorem Begins.longest (hparse : TakesStatements parse) {ts rest rest' : List Located}
    {found found' : List Sql.Statement} {message : String}
    (h : Begins parse ts found rest) (hstuck : Stuck parse rest message)
    (h' : Begins parse ts found' rest') : found' <+: found ∧ rest <:+ rest' := by
  cases h with
  | @intro lead body _ _ hs h =>
    generalize hts : lead ++ body = ts at h'
    cases h' with
    | @intro lead' body' _ _ hs' h' =>
      have hbody := congrArg afterSemicolons hts
      rw [afterSemicolons_append hs, afterSemicolons_append hs'] at hbody
      exact h.longest hparse hstuck h' hbody.symm

/-- The statements of tokens are read without an error if and only if the tokens are these
    statements with semicolons between them. All other tokens begin with statements that semicolons
    end, as many as there are, and no statement is read from what follows: then these statements
    are read, one error says why there is no other one, and nothing is read behind it. The rounds
    that are counted never run out, and neither do the uses of rules that are counted for a
    statement. -/
theorem statements_by_semicolons (d : Dialect) (ts : List Located) :
    (∀ read : List Statement, items d ts = read.map .ok ↔
      ∃ statements, Separated (Grammar.parseStatement d) ts statements ∧
        read = statements.map .classify) ∧
    ((∃ statements, Separated (Grammar.parseStatement d) ts statements) ∨
      ∃ statements rest message, Begins (Grammar.parseStatement d) ts statements rest ∧
        Stuck (Grammar.parseStatement d) rest message ∧
        (∀ statements' rest', Begins (Grammar.parseStatement d) ts statements' rest' →
          statements' <+: statements ∧ rest <:+ rest') ∧
        items d ts = (statements.map .classify).map .ok ++
          [.error (.parse ("SQL parse error: " ++ message))]) ∧
    Reads (Grammar.parseStatement d) ts (items d ts) ∧
    (∀ rounds, ts.length < rounds → itemsFor (Grammar.parseStatement d) rounds ts = items d ts) ∧
    ∀ rules uses, 3 * ts.length + 3 ≤ uses →
      ((Rules.around^[uses] rules).of .statement).run d maxDepth ts =
        Grammar.parseStatement d ts := by
  have hparse := Grammar.takesStatements d
  have hreads := reads_items d ts
  refine ⟨fun read => ⟨fun hread => ?_, ?_⟩, ?_, hreads, fun rounds hrounds => ?_,
    fun rules uses huses => Grammar.parseStatement_eq rules huses⟩
  · -- a reading of statements alone ends at the end of the tokens
    rw [hread] at hreads
    exact separated_of_reads hparse hreads
  · rintro ⟨statements, h, rfl⟩
    exact hreads.unique (h.reads hparse)
  · rcases separated_or_stuck hparse ts with h | ⟨statements, rest, message, h, hstuck⟩
    · exact .inl h
    · exact .inr ⟨statements, rest, message, h, hstuck, fun _ _ h' => h.longest hparse hstuck h',
        hreads.unique (h.reads hparse (hstuck.reads hparse))⟩
  · exact (reads_itemsFor hparse hrounds).unique hreads

/-- The semicolons in the body of a procedure are no separators. -/
example : (ofText .generic (Utf8.encode
    ";CREATE PROCEDURE p AS BEGIN SELECT 1; SELECT 2 END;; SELECT 3 SELECT 4")).map
      Reader.isError = [false, true] := by
  decide +kernel

end Stream

end QueryAudit
