import QueryAudit.Proofs.CanonicalText
import QueryAudit.Proofs.ColumnSearch
import QueryAudit.Proofs.Outcome
import QueryAudit.Proofs.Rereading

/-!
# The lines of reports

An audit writes the canonical text of each flagged selection and a newline behind it. The text is
written as it is, so that a newline in a name, a literal or another part of the statement cuts it
into several lines. The lines are one for each flagged selection if and only if no part of these has
a newline, and whoever writes the statements can put any line among the reports.
-/

namespace QueryAudit

open Sql Lexer

/-- The selections that are reported: those that are not covered. -/
def flaggedOf (catalog : Catalog) (ss : List Selection) : List Selection :=
  ss.filter fun s => Audit.verdict catalog s ≠ .covered

/-- The counts of an audit have the reported selections in them. -/
theorem flagged_tally (catalog : Catalog) (ss : List Selection) :
    (tally catalog ss).flagged = (flaggedOf catalog ss).length := by
  rw [flaggedOf, ← List.countP_eq_length_filter, Counts.flagged, tally]
  induction ss with
  | nil => rfl
  | cons s ss ih =>
    simp only [List.countP_cons] at ih ⊢
    rw [← ih]
    cases Audit.verdict catalog s <;> simp <;> omega

/-- What an audit writes is the lines of the flagged selections before the item that ended it, and
    no line has bytes of two of them. There is a newline for each flagged selection and one for
    each newline in the canonical texts. So cutting after every newline gives one line for each
    flagged selection, and the newlines are as many as the result counts, if and only if no name,
    literal or other part of a flagged selection has a newline in it. -/
theorem report_lines (catalog : Catalog) (config : Config) (source : Source) :
    let flagged := flaggedOf catalog (selectionsOf (Reader.start config.dialect source).items)
    let done := audit catalog config source {}
    let out := done.output.out.written
    let unbroken := ∀ s ∈ flagged, ∀ text ∈ s.query.parts, ¬HasNewline text
    linesOf out = flagged.flatMap (fun s => linesOf (lineBytesOf s.render)) ∧
    out.count newline = flagged.length + (flagged.map fun s => s.render.toList.count '\n').sum ∧
    (linesOf out = flagged.map (fun s => lineBytesOf s.render) ↔ unbroken) ∧
    ∀ counts, done.result = .ok counts →
      counts.flagged = flagged.length ∧ (out.count newline = counts.flagged ↔ unbroken) := by
  intro flagged done out unbroken
  have houtcome := outcome_audit catalog config source
  have hwritten : out = flagged.flatMap fun s => lineBytesOf s.render :=
    congrArg Outcome.out houtcome
  -- words, blanks and punctuation have no newline, so it is a part of the query that has one
  have hparts : (∀ s ∈ flagged, ¬HasNewline s.render) ↔ unbroken := by
    refine forall₂_congr fun s _ => ?_
    rw [hasNewline_render_iff]
    simp only [not_exists, not_and]
  refine ⟨?_, ?_, ?_, fun counts hcounts => ?_⟩
  · rw [hwritten, linesOf_lines]
  · rw [hwritten, count_newline_lines]
  · rw [hwritten, linesOf_lines_eq_iff, hparts]
  · have hflagged : counts.flagged = flagged.length := by
      rw [← flagged_tally]
      have hok := (congrArg Outcome.result houtcome).symm.trans hcounts
      simp only [Outcome.ofItems] at hok
      split at hok
      · cases hok
        rfl
      · cases hok
    refine ⟨hflagged, ?_⟩
    rw [hflagged, hwritten, count_newline_lines_eq_iff, hparts]

/-- One selection is flagged and counted, and there are two lines, since its literal has a
    newline. -/
theorem flagged_selection_spans_lines :
    ∃ catalog, Catalog.load [["t", "a"]] = .ok catalog ∧
      let source := Source.ofBuffers [Utf8.encode "SELECT a FROM t WHERE b = 'x\ny'"] none
      let done := audit catalog {} source {}
      done.result = .ok { uncovered := 1 } ∧
      linesOf done.output.out.written =
        [lineBytesOf "SELECT a FROM t WHERE b = 'x", lineBytesOf "y'"] :=
  ⟨_, rfl, by decide +kernel⟩

/-! ### Forged lines -/

/-- A text that has some texts as its lines, behind a first line that is empty. -/
def onLines (texts : List String) : String :=
  String.ofList ('\n' :: texts.flatMap fun t => t.toList ++ ['\n'])

theorem escapeQuotes_of_notMem {quote : Char} {cs : List Char} (h : quote ∉ cs)
    (previous : Char) : escapeQuotes quote previous cs = cs := by
  induction cs generalizing previous with
  | nil => rfl
  | cons c cs ih =>
    have hc : c ≠ quote := fun he => h (he ▸ List.mem_cons_self)
    rw [escapeQuotes.eq_def]
    simp only [if_neg hc]
    rw [ih fun hcs => h (List.mem_cons_of_mem c hcs)]

/-- The selection of a text has no condition, so that every catalog flags it. -/
theorem flaggedOf_selectionOfText (catalog : Catalog) (text : String) :
    ∃ s, selectionOfText text = .select s ∧ flaggedOf catalog [s] = [s] := by
  obtain ⟨s, hs, hnone⟩ : ∃ s, selectionOfText text = .select s ∧ s.condition = none :=
    ⟨_, rfl, rfl⟩
  have hverdict : Audit.verdict catalog s ≠ .covered := by
    rw [Audit.verdict, hnone, columns, ne_eq, check_eq_covered_iff]
    exact Bool.false_ne_true
  have hfilter : flaggedOf catalog [s] = [s] := by
    rw [flaggedOf, List.filter_singleton, decide_eq_true hverdict]
    rfl
  exact ⟨s, hs, hfilter⟩

/-- The canonical text of a selection of lines has them on lines of their own. -/
theorem lineBytesOf_selectionOfText {texts : List String}
    (hquote : ∀ t ∈ texts, '\'' ∉ t.toList) :
    lineBytesOf (selectionOfText (onLines texts)).render =
      ("SELECT '" :: texts ++ ["'"]).flatMap lineBytesOf := by
  have hnone : '\'' ∉ '\n' :: texts.flatMap fun t => t.toList ++ ['\n'] := by
    rw [List.mem_cons, List.mem_flatMap]
    rintro (h | ⟨t, ht, h⟩)
    · exact absurd h (by decide)
    · rw [List.mem_append, List.mem_singleton] at h
      exact h.elim (hquote t ht) (by decide)
  rw [flatMap_lineBytesOf, lineBytesOf, Utf8.encode_eq, String.toList_push,
    toList_render_selectionOfText, onLines, String.toList_ofList, escapeQuotes_of_notMem hnone]
  refine congrArg (List.flatMap String.utf8EncodeChar) ?_
  have hselecting (cs : List Char) : selecting cs = "SELECT '".toList ++ cs := rfl
  rw [hselecting, List.flatMap_append, List.flatMap_cons, List.flatMap_singleton]
  simp only [List.append_assoc, List.cons_append, List.nil_append]
  rfl

/-- Any lines without a quote can be put among the reports, whatever the catalog and the dialect:
    there is a text of a single selection, which is flagged, for which they are written as lines of
    their own. -/
theorem forged_lines (catalog : Catalog) (config : Config) (texts : List String)
    (hquote : ∀ t ∈ texts, '\'' ∉ t.toList) (hline : ∀ t ∈ texts, ¬HasNewline t) :
    ∃ input : String,
      let done := audit catalog config (Source.ofBuffers [Utf8.encode input] none) {}
      (∃ counts, done.result = .ok counts ∧ counts.flagged = 1) ∧
      linesOf done.output.out.written = ("SELECT '" :: texts ++ ["'"]).map lineBytesOf := by
  let escapes := config.dialect.backslashEscapes
  let input := String.ofList (selecting (written escapes '\'' (onLines texts).toList ++ ['\'']))
  obtain ⟨s, hs, hflagged⟩ := flaggedOf_selectionOfText catalog (onLines texts)
  have hitems : (Reader.start config.dialect (Source.ofBuffers [Utf8.encode input] none)).items =
      [.ok (.select s)] := by
    rw [← hs]
    exact items_selecting config.dialect (onLines texts)
  refine ⟨input, ?_⟩
  intro done
  have houtcome := outcome_audit catalog config (Source.ofBuffers [Utf8.encode input] none)
  rw [hitems] at houtcome
  have hwritten : done.output.out.written = ("SELECT '" :: texts ++ ["'"]).flatMap lineBytesOf := by
    rw [← lineBytesOf_selectionOfText hquote]
    have hreports : done.output.out.written =
        (flaggedOf catalog [s]).flatMap fun s => lineBytesOf s.render :=
      congrArg Outcome.out houtcome
    rw [hreports, hflagged, List.flatMap_singleton, hs]
    rfl
  refine ⟨⟨tally catalog [s], congrArg Outcome.result houtcome, ?_⟩, ?_⟩
  · rw [flagged_tally, hflagged, List.length_singleton]
  · -- no line but the first and the last is more than the text that was put into the literal
    rw [hwritten]
    refine (linesOf_lines_eq_iff id _).mpr ?_
    simp only [List.cons_append, List.mem_cons, List.mem_append, List.not_mem_nil, or_false, id]
    rintro t (rfl | ht | rfl)
    · decide
    · exact hline t ht
    · decide

end QueryAudit
