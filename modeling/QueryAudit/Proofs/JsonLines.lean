import QueryAudit.Proofs.Extracting
import QueryAudit.Proofs.JsonText
import QueryAudit.Proofs.Lines

/-!
# Extractions as lines of JSON

An extraction writes one line for each record. Whatever characters are in the names of a record,
there is no newline in its text, and its text is JSON for an object of its table and its columns. So
what was written can be cut into lines again, and each line decodes to its record, also when the
extraction was ended by an error.
-/

namespace QueryAudit

/-- A record as a JSON value. -/
def Extract.value (x : Extract) : Json.Value :=
  .object [("table", .text x.table), ("columns", .array (x.columns.map .text))]

/-- The JSON value of the bytes of a line. -/
def decodeLine (bytes : List UInt8) : Option Json.Value :=
  match Utf8.decode bytes with
  | .ok chars => Json.decode chars
  | .error _ => none

/-! ### No newline -/

namespace Json

theorem newline_notMem_escape (c : Char) : '\n' ∉ escape c := by
  have hdigit : ∀ n < 16, '\n' ≠ hexDigit n := by decide
  unfold escape
  split
  · decide
  · decide
  · decide
  · decide
  · decide
  · -- neither a control character, which is written in digits, nor any other is a newline
    next hnewline _ _ =>
    split
    · decide
    split
    · decide
    split
    · next h =>
      simp only [List.mem_cons, List.not_mem_nil, or_false, not_or]
      exact ⟨by decide, by decide, by decide, by decide, hdigit _ (by omega), hdigit _ (by omega)⟩
    · rw [List.mem_singleton]
      exact fun h => hnewline h.symm

theorem not_hasNewline_quote (s : String) : ¬HasNewline (quote s) := by
  rw [quote, hasNewline_ofList_iff]
  simp only [List.mem_append, List.mem_cons, List.mem_flatMap, List.not_mem_nil, or_false, not_or,
    not_exists, not_and]
  exact ⟨⟨by decide, fun c _ => newline_notMem_escape c⟩, by decide⟩

theorem not_hasNewline_array {items : List String} (h : ∀ i ∈ items, ¬HasNewline i) :
    ¬HasNewline (array items) := by
  rw [array, hasNewline_append_iff, hasNewline_append_iff, hasNewline_intercalate_iff (by decide)]
  rintro ((hopen | ⟨i, hi, hline⟩) | hclose)
  · exact absurd hopen (by decide)
  · exact h i hi hline
  · exact absurd hclose (by decide)

theorem not_hasNewline_object {fields : List (String × String)}
    (h : ∀ f ∈ fields, ¬HasNewline f.2) : ¬HasNewline (object fields) := by
  rw [object, hasNewline_append_iff, hasNewline_append_iff, hasNewline_intercalate_iff (by decide)]
  rintro ((hopen | ⟨i, hi, hline⟩) | hclose)
  · exact absurd hopen (by decide)
  · obtain ⟨f, hf, rfl⟩ := List.mem_map.mp hi
    rw [hasNewline_append_iff, hasNewline_append_iff] at hline
    rcases hline with (hname | hcolon) | hvalue
    · exact not_hasNewline_quote f.1 hname
    · exact absurd hcolon (by decide)
    · exact h f hf hvalue
  · exact absurd hclose (by decide)

end Json

namespace Extract

theorem not_hasNewline_render (x : Extract) : ¬HasNewline x.render := by
  refine Json.not_hasNewline_object fun f hf => ?_
  rcases List.mem_cons.mp hf with rfl | hf
  · exact Json.not_hasNewline_quote x.table
  · rw [List.mem_singleton] at hf
    subst hf
    refine Json.not_hasNewline_array fun i hi => ?_
    obtain ⟨name, -, rfl⟩ := List.mem_map.mp hi
    exact Json.not_hasNewline_quote name

/-! ### Decoding -/

/-- The fields of a record, each with its text and its value. -/
def fields (x : Extract) : List (String × String × Json.Value) :=
  [("table", Json.quote x.table, .text x.table),
    ("columns", Json.array (x.columns.map Json.quote), .array (x.columns.map .text))]

theorem render_eq (x : Extract) : x.render = Json.object (x.fields.map fun f => (f.1, f.2.1)) :=
  rfl

theorem value_eq (x : Extract) : x.value = .object (x.fields.map fun f => (f.1, f.2.2)) :=
  rfl

/-- The text of a record is read as the record at any depth that an object and a list in it
    leave. -/
theorem reads_render (x : Extract) (depth : Nat) : Json.Reads (depth + 3) x.render x.value := by
  have hfields : ∀ f ∈ x.fields, Json.Reads (depth + 2) f.2.1 f.2.2 := by
    intro f hf
    rcases List.mem_cons.mp hf with rfl | hf
    · exact Json.reads_quote (depth + 1) x.table
    · rw [List.mem_singleton] at hf
      rw [hf]
      exact Json.reads_array fun name _ => Json.reads_quote depth name
  rw [render_eq, value_eq]
  exact Json.reads_object hfields

/-- Two braces and the comma between the fields. -/
theorem three_le_length_render (x : Extract) : 3 ≤ x.render.toList.length := by
  have htext : x.render.toList =
      '\x7b' :: ((Json.quote "table" ++ ":" ++ Json.quote x.table).toList ++
        ',' :: (Json.quote "columns" ++ ":" ++ Json.array (x.columns.map Json.quote)).toList ++
        ['\x7d']) := by
    simp [Extract.render, Json.object]
  rw [htext]
  simp only [List.length_cons, List.length_append, List.length_nil]
  omega

/-- The text of a record decodes to the record, whatever characters are in its names. -/
theorem decode_render (x : Extract) : Json.decode x.render.toList = some x.value := by
  obtain ⟨depth, hdepth⟩ := Nat.exists_eq_add_of_le' x.three_le_length_render
  refine Json.decode_of_reads ?_
  rw [hdepth]
  exact x.reads_render depth

/-- The line of a record decodes to the record. -/
theorem decodeLine_encode (x : Extract) : decodeLine (Utf8.encode x.render) = some x.value := by
  rw [decodeLine, Utf8.decode_encode]
  exact x.decode_render

end Extract

/-- The lines of records, cut after every newline. -/
theorem linesOf_recordLines (records : List Extract) :
    linesOf (recordLines records) = records.map fun x => lineBytesOf x.render :=
  (linesOf_lines_eq_iff Extract.render records).mpr fun x _ => x.not_hasNewline_render

/-- What an extraction has written is cut after every newline into complete lines, each of them
    text without a newline and the newline behind it. There is a line for each selection and
    insertion before the first other item, in order, and without its newline it decodes to an
    object of two fields, the table of the statement and the columns of its condition; an insertion
    has no columns. The result is the number of lines, unless an item ended the extraction. -/
theorem extracted_lines_decode (d : Dialect) (source : Source) :
    let items := (Reader.start d source).items
    let done := extract d source {}
    let lines := linesOf done.output.out.written
    (∀ line ∈ lines, line.getLast? = some newline ∧ newline ∉ line.dropLast) ∧
    lines.map (fun line => decodeLine line.dropLast) =
      (recordsOf items).map (fun x => some (.object
        [("table", .text x.table), ("columns", .array (x.columns.map .text))])) ∧
    done.result =
      match haltOf items with
      | none => .ok lines.length
      | some e => .error e := by
  intro items done lines
  obtain ⟨hwritten, -, hresult⟩ := extract_eq_batch d source
  have hlines : lines = (recordsOf items).map fun x => lineBytesOf x.render := by
    simp only [lines, done]
    rw [hwritten, linesOf_recordLines]
  -- a line is what was rendered, and its newline
  have hbody (x : Extract) : (lineBytesOf x.render).dropLast = Utf8.encode x.render := by
    rw [lineBytesOf_eq, List.dropLast_concat]
  refine ⟨?_, ?_, ?_⟩
  · intro line hline
    rw [hlines] at hline
    obtain ⟨x, -, rfl⟩ := List.mem_map.mp hline
    rw [hbody, newline_mem_encode_iff, lineBytesOf_eq, List.getLast?_concat]
    exact ⟨rfl, x.not_hasNewline_render⟩
  · rw [hlines, List.map_map]
    refine List.map_congr_left fun x _ => ?_
    rw [Function.comp_apply, hbody]
    exact x.decodeLine_encode
  · rw [hlines, List.length_map]
    exact hresult

end QueryAudit
