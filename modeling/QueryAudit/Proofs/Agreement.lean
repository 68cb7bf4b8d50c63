import QueryAudit.Proofs.Extracting
import QueryAudit.Proofs.Outcome

/-!
# Audits beside extractions

An audit and an extraction of one source go through the same items, and up to the first item that
is no selection they go side by side: each verdict is the one on the columns of the record that
stands in the same place. There the audit ends. The extraction ends with it and for the same reason,
unless the item is an insertion, which has a record like the selections before it.
-/

namespace QueryAudit

/-- The verdicts that were noted, in order. -/
def verdictsIn (notes : List Note) : List Verdict :=
  notes.filterMap fun
    | .checked _ _ v => some v
    | _ => none

def Selection.record (s : Selection) : Extract :=
  ⟨s.table, columns s.condition⟩

variable (catalog : Catalog)

/-! ### What an audit notes and counts -/

theorem verdictsIn_notesOf (ss : List Selection) :
    verdictsIn (notesOf catalog ss) = ss.map (Audit.verdict catalog) := by
  induction ss with
  | nil => rfl
  | cons s ss ih =>
    have hcons : notesOf catalog (s :: ss) = notesOf catalog [s] ++ notesOf catalog ss :=
      notesOf_append catalog [s] ss
    have hone : verdictsIn (notesOf catalog [s]) = [Audit.verdict catalog s] := by
      rw [notesOf, List.flatMap_singleton]
      split <;> rfl
    rw [hcons, verdictsIn, List.filterMap_append, ← verdictsIn, ← verdictsIn, hone, ih]
    rfl

/-- Each selection counts once. -/
theorem total_tally (ss : List Selection) : (tally catalog ss).total = ss.length := by
  induction ss with
  | nil => rfl
  | cons s ss ih =>
    have hcons : tally catalog (s :: ss) = (tally catalog [s]).plus (tally catalog ss) :=
      tally_append catalog [s] ss
    have hone : (tally catalog [s]).total = 1 := by
      cases h : Audit.verdict catalog s <;> simp [tally, Counts.total, h]
    rw [hcons, List.length_cons, ← ih]
    simp only [Counts.total, Counts.plus] at hone ⊢
    omega

/-! ### Selections and what follows them -/

/-- Items are the selections at their front, and behind them, if anything, an item that is none. -/
theorem exists_split (items : List Item) :
    ∃ rest, items = selectionItems (selectionsOf items) ++ rest ∧ selectionsOf rest = [] := by
  induction items with
  | nil => exact ⟨[], rfl, rfl⟩
  | cons item items ih =>
    rcases item with e | (s | ⟨table, statement⟩ | statement)
    · exact ⟨_, rfl, rfl⟩
    · obtain ⟨rest, hrest, hnone⟩ := ih
      exact ⟨rest, congrArg (.ok (.select s) :: ·) hrest, hnone⟩
    · exact ⟨_, rfl, rfl⟩
    · exact ⟨_, rfl, rfl⟩

theorem stopOf_selections_append (ss : List Selection) (rest : List Item) :
    stopOf (selectionItems ss ++ rest) = stopOf rest := by
  induction ss with
  | nil => rfl
  | cons s ss ih => exact ih

theorem recordsOf_selections_append (ss : List Selection) (rest : List Item) :
    recordsOf (selectionItems ss ++ rest) = ss.map Selection.record ++ recordsOf rest := by
  induction ss with
  | nil => rfl
  | cons s ss ih => exact congrArg (s.record :: ·) ih

theorem haltOf_selections_append (ss : List Selection) (rest : List Item) :
    haltOf (selectionItems ss ++ rest) = haltOf rest := by
  induction ss with
  | nil => rfl
  | cons s ss ih => exact ih

theorem getElem?_selections_append (ss : List Selection) (rest : List Item) :
    (selectionItems ss ++ rest)[ss.length]? = rest.head? := by
  rw [List.getElem?_append_right (by simp [selectionItems])]
  simp [selectionItems, List.head?_eq_getElem?]

theorem drop_selections_append (ss : List Selection) (item : Item) (rest : List Item) :
    (selectionItems ss ++ item :: rest).drop (ss.length + 1) = rest := by
  have hlen : (selectionItems ss).length = ss.length := List.length_map _
  rw [← hlen, ← List.drop_drop, List.drop_left]
  rfl

/-! ### Side by side -/

/-- Let one source be audited and extracted from. Each statement that the audit checks has a record,
    and its verdict is the one on the table and columns of this record. If the audit comes to the
    end, so does the extraction, with as many records as there are verdicts. If an insertion ends
    the audit, the next record has its table and no columns, and the extraction goes on with the
    items behind it. If anything else does, there are no more records, and both fail alike. -/
theorem extraction_agrees (catalog : Catalog) (config : Config) (source : Source) :
    let items := (Reader.start config.dialect source).items
    let records := recordsOf items
    let audited := audit catalog config source {}
    let extracted := extract config.dialect source {}
    let verdicts := verdictsIn audited.notes
    let checked := verdicts.length
    extracted.output.out.written = recordLines records ∧
    checked ≤ records.length ∧
    verdicts = (records.take checked).map (fun x => check catalog x.table x.columns) ∧
    match items[checked]? with
    | none =>
      (∃ counts, audited.result = .ok counts ∧ counts.total = checked) ∧
        extracted.result = .ok checked ∧ records.length = checked
    | some (.ok (.insert table statement)) =>
      audited.result = .error (.notASelection statement.render) ∧
        records = records.take checked ++ ⟨table, []⟩ :: recordsOf (items.drop (checked + 1)) ∧
        extracted.result =
          match haltOf (items.drop (checked + 1)) with
          | none => .ok records.length
          | some e => .error e
    | some _ =>
      records.length = checked ∧
        ∃ e, audited.result = .error e ∧ extracted.result = .error e := by
  intro items records audited extracted verdicts checked
  have houtcome := outcome_audit catalog config source
  have hnotes : audited.notes = notesOf catalog (selectionsOf items) :=
    congrArg Outcome.notes houtcome
  obtain ⟨hwritten, -, hextracted⟩ := extract_eq_batch config.dialect source
  obtain ⟨rest, hsplit, hnone⟩ := exists_split items
  generalize hss : selectionsOf items = ss at hsplit
  have hverdicts : verdicts = ss.map (Audit.verdict catalog) := by
    simp only [verdicts, audited]
    rw [hnotes, verdictsIn_notesOf, hss]
  have hchecked : checked = ss.length := by
    simp only [checked]
    rw [hverdicts, List.length_map]
  have hrecords : records = ss.map Selection.record ++ recordsOf rest := by
    simp only [records]
    rw [hsplit, recordsOf_selections_append]
  have hfront : records.take checked = ss.map Selection.record := by
    rw [hrecords, hchecked, List.take_left' (List.length_map _)]
  have hnext : items[checked]? = rest.head? := by
    rw [hsplit, hchecked, getElem?_selections_append]
  have haudited : audited.result =
      match stopOf rest with
      | none => .ok (tally catalog ss)
      | some e => .error e := by
    rw [← hss, ← stopOf_selections_append ss rest, ← hsplit]
    exact congrArg Outcome.result houtcome
  have hhalted : extracted.result =
      match haltOf rest with
      | none => .ok records.length
      | some e => .error e := by
    rw [← haltOf_selections_append ss rest, ← hsplit]
    exact hextracted
  refine ⟨hwritten, ?_, ?_, ?_⟩
  · rw [hchecked, hrecords, List.length_append, List.length_map]
    exact Nat.le_add_right _ _
  · rw [hfront, hverdicts, List.map_map]
    rfl
  · rw [hnext, hhalted, haudited]
    have hlen (h : recordsOf rest = []) : records.length = checked := by
      rw [hrecords, h, List.append_nil, List.length_map, hchecked]
    rcases rest with - | ⟨e | (s | ⟨table, statement⟩ | statement), rest⟩
    · exact ⟨⟨_, rfl, (total_tally catalog ss).trans hchecked.symm⟩,
        congrArg Except.ok (hlen rfl), hlen rfl⟩
    · exact ⟨hlen rfl, e, rfl, rfl⟩
    · cases hnone
    · -- the extraction goes on behind the insertion
      have hdrop : items.drop (checked + 1) = rest := by
        rw [hsplit, hchecked, drop_selections_append]
      simp only [List.head?_cons]
      rw [hdrop, hfront]
      exact ⟨rfl, hrecords, rfl⟩
    · exact ⟨hlen rfl, _, rfl, rfl⟩

end QueryAudit
