import QueryAudit.Csv
import QueryAudit.Proofs.Encoding
import QueryAudit.Proofs.Spelling

/-!
# Records as they are written

A field is written as it is, or between double quotes with those in it twice. Fields have commas
between them, and records end at line feeds, with or without a carriage return before; empty lines
may stand anywhere. Reading such a text gives back the records, so a catalog is the same whether it
is loaded from a text or from its records.
-/

namespace QueryAudit

/-! ### Bytes of characters -/

namespace Utf8

/-- The bytes of a character spell it. -/
theorem spellsChar_encodeChar (c : Char) : SpellsChar (String.utf8EncodeChar c) c := by
  have hdecode := decode_encode (String.ofList [c])
  rw [encode_eq, String.toList_ofList, List.flatMap_singleton] at hdecode
  generalize String.utf8EncodeChar c = bytes at hdecode ⊢
  cases decode_eq_ok_iff.mp hdecode with
  | cons hc hs =>
    cases hs
    rwa [List.append_nil]

/-- A byte of ASCII stands in no character but its own. -/
theorem ne_of_mem_encodeChar {a b : UInt8} {c : Char} (h : b ∈ String.utf8EncodeChar c)
    (ha : a.toNat < 0x80) (hc : c ≠ Char.ofNat a.toNat) : b ≠ a := by
  rintro rfl
  rcases (spellsChar_encodeChar c).form with ⟨b', hbytes, -, hown⟩ | ⟨-, hbeyond, -⟩
  · rw [hbytes, List.mem_singleton] at h
    exact hc (h ▸ hown)
  · have := hbeyond b h
    omega

/-- Bytes that begin like a character decode to a text that begins with it. -/
theorem head?_of_decode {c : Char} {bytes : List UInt8} {chars : List Char}
    (h : decode (String.utf8EncodeChar c ++ bytes) = .ok chars) : chars.head? = some c := by
  rw [decode, (spellsChar_encodeChar c).decodes] at h
  obtain ⟨cs, rfl, -⟩ := spells_of_decodeFrom h
  rfl

end Utf8

namespace Csv

/-! ### Ways to write records -/

/-- Text with each double quote twice. -/
def doubled (text : List Char) : List Char :=
  text.flatMap fun c => if c = '"' then ['"', '"'] else [c]

/-- Whether a character may stand in a field without quotes. -/
def IsPlain (c : Char) : Prop :=
  c ≠ ',' ∧ c ≠ '"' ∧ c ≠ '\r' ∧ c ≠ '\n'

/-- The ways to write a field. -/
inductive WritesField : String → List Char → Prop
  | quoted (field : String) : WritesField field ('"' :: (doubled field.toList ++ ['"']))
  | bare {field : String} (h : ∀ c ∈ field.toList, IsPlain c) : WritesField field field.toList

/-- The ways to write the fields of a record, of which there is at least one. -/
inductive WritesRecord : List String → List Char → Prop
  | last {field : String} {text : List Char} (h : WritesField field text) :
      WritesRecord [field] text
  | more {field : String} {fields : List String} {text rest : List Char}
      (h : WritesField field text) (hs : WritesRecord fields rest) :
      WritesRecord (field :: fields) (text ++ ',' :: rest)

/-- The ends of a line. -/
inductive LineEnd : List Char → Prop
  | lineFeed : LineEnd ['\n']
  | both : LineEnd ['\r', '\n']

/-- The ways to write records. What is written of a record is not empty, so a line that is empty
    is none; the last line may be without an end. -/
inductive Writes : List (List String) → List Char → Prop
  | nil : Writes [] []
  | last {fields : List String} {text : List Char} (h : WritesRecord fields text)
      (hne : text ≠ []) : Writes [fields] text
  | blank {records : List (List String)} {ending rest : List Char} (he : LineEnd ending)
      (hs : Writes records rest) : Writes records (ending ++ rest)
  | record {fields : List String} {records : List (List String)} {text ending rest : List Char}
      (h : WritesRecord fields text) (hne : text ≠ []) (he : LineEnd ending)
      (hs : Writes records rest) : Writes (fields :: records) (text ++ (ending ++ rest))

/-- What is written of a record does not begin with the end of a line. -/
theorem WritesRecord.first {fields : List String} {text : List Char} (h : WritesRecord fields text)
    (hne : text ≠ []) : ∃ c cs, text = c :: cs ∧ c ≠ '\r' ∧ c ≠ '\n' := by
  have hfield {field : String} {text : List Char} (hw : WritesField field text) :
      text = [] ∨ ∃ c cs, text = c :: cs ∧ c ≠ '\r' ∧ c ≠ '\n' := by
    cases hw with
    | quoted => exact .inr ⟨'"', _, rfl, by decide, by decide⟩
    | bare hplain =>
      cases hchars : field.toList with
      | nil => exact .inl rfl
      | cons c cs =>
        have hc := hplain c (hchars ▸ List.mem_cons_self)
        exact .inr ⟨c, cs, rfl, hc.2.2.1, hc.2.2.2⟩
  -- a text that begins with an empty field begins with a comma, or it has no characters
  cases h with
  | last hw =>
    rcases hfield hw with rfl | hfirst
    · exact absurd rfl hne
    · exact hfirst
  | more hw hs =>
    rcases hfield hw with rfl | ⟨c, cs, rfl, hc⟩
    · exact ⟨',', _, rfl, by decide, by decide⟩
    · exact ⟨c, _, rfl, hc⟩

theorem WritesRecord.ne_nil {fields : List String} {text : List Char}
    (h : WritesRecord fields text) : fields ≠ [] := by
  cases h <;> exact List.cons_ne_nil _ _

/-- A record can be written with all of its fields in quotes. -/
theorem exists_writesRecord {fields : List String} (h : fields ≠ []) :
    ∃ text, WritesRecord fields ('"' :: text) := by
  induction fields with
  | nil => exact absurd rfl h
  | cons field fields ih =>
    by_cases hfields : fields = []
    · subst hfields
      exact ⟨_, .last (.quoted field)⟩
    · obtain ⟨text, hs⟩ := ih hfields
      exact ⟨_, .more (.quoted field) hs⟩

/-- Records can be written if each of them has a field, and then without a byte order mark. -/
theorem exists_writes_iff {records : List (List String)} :
    (∃ text, Writes records text ∧ text.head? ≠ some '\uFEFF') ↔
      ∀ fields ∈ records, fields ≠ [] := by
  constructor
  · rintro ⟨text, h, -⟩
    induction h with
    | nil => simp
    | last h => simpa using h.ne_nil
    | blank _ _ ih => exact ih
    | record h _ _ _ ih => exact List.forall_mem_cons.mpr ⟨h.ne_nil, ih⟩
  · intro h
    induction records with
    | nil => exact ⟨[], .nil, by simp⟩
    | cons fields records ih =>
      obtain ⟨hfields, hrecords⟩ := List.forall_mem_cons.mp h
      obtain ⟨rest, hs, -⟩ := ih hrecords
      -- a field in quotes can have any text, so every record can be written
      obtain ⟨text, hw⟩ := exists_writesRecord hfields
      exact ⟨_, .record hw (List.cons_ne_nil _ _) .lineFeed hs, by simp⟩

/-! ### What bytes are read as -/

/-- Bytes behind what was read of a record are read as records with these fields, wherever they
    stand. -/
def Gives (mode : Mode) (field : List UInt8) (fields : List (List UInt8)) (bytes : List UInt8)
    (found : List (List (List UInt8))) : Prop :=
  ∀ start place, (recordsFrom ⟨mode, field, fields, start, place⟩ bytes).map Record.fields = found

/-- Whether a byte stands for itself in a field without quotes. -/
def PlainByte (b : UInt8) : Prop :=
  b ≠ 10 ∧ b ≠ 13 ∧ b ≠ 44 ∧ b ≠ 34

namespace Gives

variable {mode : Mode} {field : List UInt8} {fields : List (List UInt8)} {bytes : List UInt8}
  {found : List (List (List UInt8))} {b : UInt8}

theorem nil : Gives .record [] [] [] [] := fun _ _ => rfl

/-- The end of the text ends a record that was begun. -/
theorem last (hm : mode ≠ .record) :
    Gives mode field fields [] [fields.reverse ++ [field.reverse]] := by
  intro start place
  simp [recordsFrom, hm, State.finished]

/-- A byte that ends no record. -/
theorem of_step {mode' : Mode} {field' : List UInt8} {fields' : List (List UInt8)}
    (hstep : ∀ start place, step ⟨mode, field, fields, start, place⟩ b =
      (⟨mode', field', fields', start, place.next b⟩, none))
    (h : Gives mode' field' fields' bytes found) : Gives mode field fields (b :: bytes) found := by
  intro start place
  rw [recordsFrom, hstep]
  exact h start (place.next b)

/-- A byte that stands for itself. -/
theorem push (hb : PlainByte b) (hm : mode ≠ .quoted)
    (h : Gives .bare (b :: field) fields bytes found) :
    Gives mode field fields (b :: bytes) found := by
  refine of_step (fun start place => ?_) h
  obtain ⟨hfeed, hreturn, hcomma, hquote⟩ := hb
  cases mode <;> simp_all [step, outside, isTerminator, State.push]

/-- A comma ends a field. -/
theorem comma (hm : mode ≠ .quoted) (h : Gives .field [] (field.reverse :: fields) bytes found) :
    Gives mode field fields (44 :: bytes) found := by
  refine of_step (fun start place => ?_) h
  cases mode <;> simp_all [step, outside, isTerminator, State.separated]

/-- The end of an empty line is passed over. -/
theorem blank (hb : isTerminator b = true) (h : Gives .record [] [] bytes found) :
    Gives .record [] [] (b :: bytes) found :=
  of_step (fun start place => by simp [step, hb]) h

/-- A quote before a field opens it. -/
theorem opened (h : Gives .quoted field fields bytes found) :
    Gives .field field fields (34 :: bytes) found :=
  of_step (fun start place => by simp [step]) h

/-- A byte in quotes stands for itself unless it is a quote. -/
theorem inside (hb : b ≠ 34) (h : Gives .quoted (b :: field) fields bytes found) :
    Gives .quoted field fields (b :: bytes) found :=
  of_step (fun start place => by simp [step, hb, State.push]) h

/-- A quote in quotes closes them, if there is no second one. -/
theorem closed (h : Gives .closing field fields bytes found) :
    Gives .quoted field fields (34 :: bytes) found :=
  of_step (fun start place => by simp [step]) h

/-- Two quotes in quotes stand for one. -/
theorem twice (h : Gives .quoted (34 :: field) fields bytes found) :
    Gives .quoted field fields (34 :: 34 :: bytes) found :=
  closed (of_step (fun start place => by simp [step, State.push]) h)

/-- The end of a line ends a record that was begun. -/
theorem terminator (hb : isTerminator b = true) (hrecord : mode ≠ .record)
    (hquoted : mode ≠ .quoted) (h : Gives .record [] [] bytes found) :
    Gives mode field fields (b :: bytes) ((fields.reverse ++ [field.reverse]) :: found) := by
  intro start place
  have hquote : b ≠ 34 := by
    rintro rfl
    cases hb
  have hstep : step ⟨mode, field, fields, start, place⟩ b =
      (⟨.record, [], [], place.next b, place.next b⟩,
        some ⟨fields.reverse ++ [field.reverse], start⟩) := by
    cases mode <;> simp_all [step, outside, State.restarted, State.finished]
  rw [recordsFrom, hstep]
  exact congrArg ((fields.reverse ++ [field.reverse]) :: ·) (h _ _)

/-- A byte that ends no line is read before a record as it is before a field. -/
theorem of_field (hb : isTerminator b = false) (h : Gives .field [] [] (b :: bytes) found) :
    Gives .record [] [] (b :: bytes) found := by
  intro start place
  have hstep : step ⟨.record, [], [], start, place⟩ b = step ⟨.field, [], [], start, place⟩ b := by
    simp [step, outside, hb, State.separated, State.push]
  rw [← h start place, recordsFrom, recordsFrom, hstep]

/-- Bytes that stand for themselves. -/
theorem pushAll {front : List UInt8} (hb : ∀ b ∈ front, PlainByte b)
    (h : ∀ mode, mode ≠ .record → mode ≠ .quoted →
      Gives mode (front.reverse ++ field) fields bytes found)
    (hrecord : mode ≠ .record) (hquoted : mode ≠ .quoted) :
    Gives mode field fields (front ++ bytes) found := by
  induction front generalizing mode field with
  | nil => exact h mode hrecord hquoted
  | cons b front ih =>
    obtain ⟨hfirst, hrest⟩ := List.forall_mem_cons.mp hb
    refine push hfirst hquoted (ih hrest ?_ (by simp) (by simp))
    intro mode' hrecord' hquoted'
    have := h mode' hrecord' hquoted'
    rwa [List.reverse_cons, List.append_assoc, List.singleton_append] at this

theorem insideAll {front : List UInt8} (hb : ∀ b ∈ front, b ≠ 34)
    (h : Gives .quoted (front.reverse ++ field) fields bytes found) :
    Gives .quoted field fields (front ++ bytes) found := by
  induction front generalizing field with
  | nil => exact h
  | cons b front ih =>
    obtain ⟨hfirst, hrest⟩ := List.forall_mem_cons.mp hb
    refine inside hfirst (ih hrest ?_)
    rwa [List.reverse_cons, List.append_assoc, List.singleton_append] at h

end Gives

/-! ### What is written is read -/

def bytesOf (chars : List Char) : List UInt8 :=
  chars.flatMap String.utf8EncodeChar

theorem encode_ofList (chars : List Char) : Utf8.encode (String.ofList chars) = bytesOf chars := by
  rw [Utf8.encode_eq, String.toList_ofList, bytesOf]

/-- A byte of a character that may stand without quotes stands for itself. -/
theorem IsPlain.plainByte {c : Char} (hc : IsPlain c) {b : UInt8}
    (hb : b ∈ String.utf8EncodeChar c) : PlainByte b := by
  obtain ⟨hcomma, hquote, hreturn, hfeed⟩ := hc
  exact ⟨Utf8.ne_of_mem_encodeChar hb (by decide) hfeed,
    Utf8.ne_of_mem_encodeChar hb (by decide) hreturn,
    Utf8.ne_of_mem_encodeChar hb (by decide) hcomma,
    Utf8.ne_of_mem_encodeChar hb (by decide) hquote⟩

section Written

variable {bytes : List UInt8} {found : List (List (List UInt8))} {fields : List (List UInt8)}

/-- The text of a field in quotes is read up to the closing one. -/
theorem gives_doubled (text : List Char) {field : List UInt8}
    (h : Gives .closing ((bytesOf text).reverse ++ field) fields bytes found) :
    Gives .quoted field fields (bytesOf (doubled text) ++ 34 :: bytes) found := by
  induction text generalizing field with
  | nil => exact .closed h
  | cons c text ih =>
    rw [bytesOf, List.flatMap_cons, List.reverse_append, List.append_assoc] at h
    rw [doubled, List.flatMap_cons, bytesOf, List.flatMap_append, List.append_assoc]
    split
    · next hc =>
      subst hc
      exact .twice (ih h)
    · next hc =>
      rw [List.flatMap_singleton]
      exact .insideAll (fun b hb => Utf8.ne_of_mem_encodeChar hb (by decide) hc) (ih h)

/-- What is written of a field is read as it, if what follows ends it. -/
theorem WritesField.gives {field : String} {text : List Char} (h : WritesField field text)
    (hrest : ∀ mode, mode ≠ .record → mode ≠ .quoted →
      Gives mode (Utf8.encode field).reverse fields bytes found) :
    Gives .field [] fields (bytesOf text ++ bytes) found := by
  rw [Utf8.encode_eq] at hrest
  cases h with
  | quoted =>
    have hclosing := hrest .closing (by simp) (by simp)
    have hbytes : bytesOf ('"' :: (doubled field.toList ++ ['"'])) =
        34 :: (bytesOf (doubled field.toList) ++ [34]) := by
      rw [bytesOf, List.flatMap_cons, List.flatMap_append]
      rfl
    rw [hbytes, List.cons_append, List.append_assoc, List.singleton_append]
    -- a quote behind the text could still be the first of two, so the reader is closing there
    refine .opened (gives_doubled field.toList ?_)
    rwa [List.append_nil]
  | bare hplain =>
    refine Gives.pushAll ?_ ?_ (by simp) (by simp)
    · intro b hb
      obtain ⟨c, hc, hbc⟩ := List.mem_flatMap.mp hb
      exact (hplain c hc).plainByte hbc
    · intro mode hrecord hquoted
      rw [List.append_nil]
      exact hrest mode hrecord hquoted

/-- What is written of a record is read as its fields, if what follows ends it. -/
theorem WritesRecord.gives {fs : List String} {text : List Char} (h : WritesRecord fs text)
    (hrest : ∀ mode field before, mode ≠ .record → mode ≠ .quoted →
      before.reverse ++ [field.reverse] = fields.reverse ++ fs.map Utf8.encode →
      Gives mode field before bytes found) :
    Gives .field [] fields (bytesOf text ++ bytes) found := by
  induction h generalizing fields with
  | last hw =>
    refine hw.gives fun mode hrecord hquoted => hrest mode _ fields hrecord hquoted ?_
    rw [List.reverse_reverse, List.map_singleton]
  | @more field fs text rest hw hs ih =>
    have hbytes : bytesOf (text ++ ',' :: rest) = bytesOf text ++ 44 :: bytesOf rest := by
      rw [bytesOf, List.flatMap_append, List.flatMap_cons]
      rfl
    rw [hbytes, List.append_assoc, List.cons_append]
    refine hw.gives fun mode hrecord hquoted => .comma hquoted (ih ?_)
    intro mode' field' before hrecord' hquoted' heq
    refine hrest mode' field' before hrecord' hquoted' ?_
    rw [heq, List.reverse_cons, List.reverse_reverse, List.append_assoc, List.map_cons,
      List.singleton_append]

/-- A record is read from the beginning of its line. -/
theorem WritesRecord.gives_record {fs : List String} {text : List Char} (h : WritesRecord fs text)
    (hne : text ≠ [])
    (hrest : ∀ mode field before, mode ≠ .record → mode ≠ .quoted →
      before.reverse ++ [field.reverse] = fs.map Utf8.encode →
      Gives mode field before bytes found) :
    Gives .record [] [] (bytesOf text ++ bytes) found := by
  have hfield : Gives .field [] [] (bytesOf text ++ bytes) found := h.gives hrest
  obtain ⟨c, cs, rfl, hreturn, hfeed⟩ := h.first hne
  obtain ⟨b, bs, hbs⟩ := List.exists_cons_of_ne_nil (Utf8.spellsChar_encodeChar c).ne_nil
  have hbytes : bytesOf (c :: cs) ++ bytes = b :: (bs ++ bytesOf cs ++ bytes) := by
    rw [bytesOf, List.flatMap_cons, hbs]
    rfl
  -- a line ending at the front would be taken for a blank line
  have hb : isTerminator b = false := by
    have hmem : b ∈ String.utf8EncodeChar c := hbs ▸ List.mem_cons_self
    have hb10 : b ≠ 10 := Utf8.ne_of_mem_encodeChar hmem (by decide) hfeed
    have hb13 : b ≠ 13 := Utf8.ne_of_mem_encodeChar hmem (by decide) hreturn
    rw [isTerminator, decide_eq_false hb10, decide_eq_false hb13, Bool.or_false]
  rw [hbytes] at hfield ⊢
  exact hfield.of_field hb

/-- What is written of records is read as their fields. -/
theorem Writes.gives {records : List (List String)} {text : List Char} (h : Writes records text) :
    Gives .record [] [] (bytesOf text) (records.map (·.map Utf8.encode)) := by
  induction h with
  | nil => exact .nil
  | last h hne =>
    rw [← List.append_nil (bytesOf _)]
    refine h.gives_record hne fun mode field before hrecord _ heq => ?_
    rw [List.map_singleton, ← heq]
    exact .last hrecord
  | blank he _ ih =>
    rw [bytesOf, List.flatMap_append]
    cases he with
    | lineFeed => exact .blank rfl ih
    | both => exact .blank rfl (.blank rfl ih)
  | record h hne he _ ih =>
    rw [bytesOf, List.flatMap_append, List.flatMap_append, List.map_cons]
    refine h.gives_record hne fun mode field before hrecord hquoted heq => ?_
    rw [← heq]
    cases he with
    | lineFeed => exact .terminator rfl hrecord hquoted ih
    | both => exact .terminator rfl hrecord hquoted (.blank rfl ih)

end Written

/-! ### Loading -/

theorem decodeFrom_encode (number : Nat) (r : Record) (field : Nat) (fields : List String) :
    decodeFrom number r field (fields.map Utf8.encode) = .ok fields := by
  induction fields generalizing field with
  | nil => rfl
  | cons text fields ih =>
    rw [List.map_cons, decodeFrom, Utf8.decode_encode]
    simp only [ih, String.ofList_toList]

/-- Records that were read are loaded as those that were written. -/
theorem loadFrom_of_fields (c : Catalog) (number : Nat) {read : List Record}
    {records : List (List String)}
    (h : read.map Record.fields = records.map (·.map Utf8.encode)) :
    loadFrom c number read = Catalog.loadFrom c (number + 1) records := by
  induction records generalizing c number read with
  | nil =>
    rw [List.map_nil, List.map_eq_nil_iff] at h
    rw [h]
    rfl
  | cons fields records ih =>
    rw [List.map_cons, List.map_eq_cons_iff] at h
    obtain ⟨r, rs, rfl, hfields, hrest⟩ := h
    have hdecode : decode number r = .ok fields := by
      rw [decode, hfields, decodeFrom_encode]
    rw [loadFrom, hdecode]
    -- a record of two fields is added; the first of another width ends the list in both
    rcases fields with _ | ⟨table, _ | ⟨column, _ | ⟨third, fields⟩⟩⟩
    · rfl
    · rfl
    · exact ih _ _ hrest
    · rfl

/-- Text without a byte order mark is read from its first byte on. -/
theorem records_bytesOf {text : List Char} (h : text.head? ≠ some '\uFEFF') :
    records (bytesOf text) = recordsFrom {} (bytesOf text) := by
  rw [records, if_neg]
  intro hmark
  obtain ⟨rest, hrest⟩ := List.isPrefixOf_iff_prefix.mp hmark
  have hdecode := Utf8.decode_encode (String.ofList text)
  rw [encode_ofList, ← hrest, String.toList_ofList] at hdecode
  exact h (Utf8.head?_of_decode (c := '\uFEFF') hdecode)

end Csv

/-- Records can be written as a text if and only if each of them has a field. However they are
    written, if the text does not begin with a byte order mark, it makes the same catalog as the
    records, or fails as they do. -/
theorem catalog_of_written (records : List (List String)) :
    ((∃ text, Csv.Writes records text ∧ text.head? ≠ some '\uFEFF') ↔
      ∀ fields ∈ records, fields ≠ []) ∧
    ∀ text, Csv.Writes records text → text.head? ≠ some '\uFEFF' →
      Csv.catalog (Utf8.encode (String.ofList text)) = Catalog.load records := by
  refine ⟨Csv.exists_writes_iff, fun text h hmark => ?_⟩
  rw [Csv.encode_ofList, Csv.catalog, Csv.records_bytesOf hmark, Catalog.load]
  exact Csv.loadFrom_of_fields {} 0 (h.gives {} {})

example :
    (Csv.catalog (Utf8.encode "\nt,a\r\n\r\n\"t\",\"x,\"\"\n\"\nü,")).toOption =
      some ⟨[⟨"t", ["a", "x,\"\n"]⟩, ⟨"ü", [""]⟩]⟩ := by
  decide +kernel

end QueryAudit
