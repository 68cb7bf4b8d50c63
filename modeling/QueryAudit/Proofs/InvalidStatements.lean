import QueryAudit.Proofs.Characters
import QueryAudit.Proofs.DecodingFaults
import QueryAudit.Proofs.Joining
import QueryAudit.Proofs.Rejoining

/-!
# Bytes that are not UTF-8

A text is cut at semicolons, which are bytes of ASCII and so no part of any other character. So a
text decodes if all of its statement texts do; and where it fails to, it is the first statement
text that fails, and at the same byte. The reader hands out what is before that statement and then
the failure of decoding it, and has no such failure for any other statement.
-/

namespace QueryAudit

open Csv (faultIndex)
open Sql Utf8

variable {d : Dialect}

/-! ### Statement texts that do not decode -/

theorem toNat_semicolon_lt : Mode.semicolon.toNat < 0x80 := by decide

/-- A joined text fails to decode where the first of its texts does that does not decode. -/
theorem decodeFrom_joined_error {texts : List (List UInt8)} {rest : List UInt8} {done : List Char}
    {index : Nat} {fault : Fault}
    (h : decodeFrom done index none (joined texts ++ rest) = .error fault) :
    ∃ before text after fault', texts ++ [rest] = before ++ text :: after ∧
      (∀ t ∈ before, ∃ chars, decode t = .ok chars) ∧ decode text = .error fault' ∧
      joined before ++ text <+: joined texts ++ rest ∧
      faultIndex fault = index + (joined before).length + faultIndex fault' := by
  induction texts generalizing done index with
  | nil =>
    obtain ⟨fault', hfault, hplace⟩ := decodeFrom_error_shift standing_none h [] 0
    exact ⟨[], rest, [], fault', rfl, by simp, hfault, List.prefix_rfl,
      by simp only [joined, List.flatMap_nil, List.length_nil]; omega⟩
  | cons t texts ih =>
    rw [joined_cons, List.append_assoc, List.cons_append] at h ⊢
    cases hd : decode t with
    | error fault' =>
      obtain ⟨moved, hmoved, hplace⟩ := decodeFrom_error_shift standing_none hd done index
      obtain ⟨found, hfound, hsame⟩ := decodeFrom_error_ascii standing_none
        toNat_semicolon_lt hmoved (joined texts ++ rest)
      rw [h] at hfound
      cases hfound
      exact ⟨[], t, texts ++ [rest], fault', rfl, by simp, hd, List.prefix_append _ _,
        by simp only [joined, List.flatMap_nil, List.length_nil]; omega⟩
    | ok chars =>
      -- behind its semicolon decoding begins a character as at the start of a text
      rw [(decode_eq_ok_iff.mp hd).decodeFrom_append] at h
      obtain ⟨before, text, after, fault', htexts, hbefore, hfault, hprefix, hplace⟩ := ih h
      refine ⟨t :: before, text, after, fault', congrArg (t :: ·) htexts,
        List.forall_mem_cons.mpr ⟨⟨chars, hd⟩, hbefore⟩, hfault, ?_, ?_⟩
      · rw [joined_cons, List.append_assoc, List.cons_append]
        exact (List.prefix_append_right_inj t).mpr ((List.prefix_cons_inj _).mpr hprefix)
      · rw [joined_cons, List.length_append, List.length_cons, hplace]
        omega

/-- The first statement text that does not decode: those before it are closed, and the text fails
    to decode in it. -/
theorem pieces_of_error {bytes : List UInt8} {fault : Fault} (h : decode bytes = .error fault) :
    ∃ before text after fault', pieces d bytes = before ++ text :: after ∧
      (∀ t ∈ before, Closed d t) ∧ (∀ t ∈ before, ∃ chars, decode t = .ok chars) ∧
      decode text = .error fault' ∧ joined before ++ text <+: bytes ∧
      faultIndex fault = (joined before).length + faultIndex fault' := by
  obtain ⟨ended, last, hpieces, rfl, hended, -⟩ := pieces_eq_joined d bytes
  obtain ⟨before, text, after, fault', htexts, hbefore, hfault, hprefix, hplace⟩ :=
    decodeFrom_joined_error h
  rw [Nat.zero_add] at hplace
  have hclosed (hfront : before <+: ended) : ∀ t ∈ before, Closed d t :=
    fun t ht => hended t (hfront.subset ht)
  rcases List.eq_nil_or_concat after with rfl | ⟨others, other, rfl⟩
  · -- the rest does not decode, so it is not empty
    obtain ⟨rfl, htext⟩ := List.append_inj' htexts rfl
    obtain rfl := List.singleton_inj.mp htext
    cases last with
    | none => cases hfault
    | some rest =>
      exact ⟨ended, rest, [], fault', hpieces, hclosed List.prefix_rfl, hbefore, hfault,
        hprefix, hplace⟩
  · have hsplit : ended = before ++ text :: others ∧ [last.getD []] = [other] := by
      refine List.append_inj' ?_ rfl
      rw [htexts, List.concat_eq_append, List.append_assoc]
      rfl
    refine ⟨before, text, others ++ last.toList, fault', ?_,
      hclosed (hsplit.1 ▸ List.prefix_append _ _), hbefore, hfault, hprefix, hplace⟩
    rw [hpieces, hsplit.1, List.append_assoc]
    rfl

/-- A text decodes if and only if its statement texts do. -/
theorem decodes_iff_pieces (d : Dialect) (bytes : List UInt8) :
    (∃ chars, decode bytes = .ok chars) ↔
      ∀ text ∈ pieces d bytes, ∃ chars, decode text = .ok chars := by
  constructor
  · rintro ⟨chars, h⟩ text htext
    have hmem : decode text ∈ (pieces d bytes).map decode := List.mem_map_of_mem htext
    rw [decode_pieces h] at hmem
    obtain ⟨cs, -, hcs⟩ := List.mem_map.mp hmem
    exact ⟨cs, hcs.symm⟩
  · intro h
    cases hd : decode bytes with
    | ok chars => exact ⟨chars, rfl⟩
    | error fault =>
      obtain ⟨before, text, after, fault', hpieces, -, -, hfault, -⟩ := pieces_of_error (d := d) hd
      obtain ⟨chars, hchars⟩ := h text (hpieces ▸ by simp)
      rw [hfault] at hchars
      cases hchars

/-! ### Their items -/

/-- The item for a text that does not decode. -/
def invalidItem (fault : Fault) : Item :=
  .error (TextFault.utf8 fault).error

/-- Texts differ if their fronts do. -/
theorem append_ne_append_of_take {a b : String} {n : Nat} (ha : n ≤ a.toList.length)
    (hb : n ≤ b.toList.length) (h : a.toList.take n ≠ b.toList.take n) (x y : String) :
    a ++ x ≠ b ++ y := by
  intro heq
  have hfront := congrArg (fun text => text.toList.take n) heq
  simp only [String.toList_append, List.take_append_of_le_length ha,
    List.take_append_of_le_length hb] at hfront
  exact h hfront

/-- An error of the grammar is said to be one, unless something follows a statement. -/
theorem Sql.SyntaxError.message_cases (cause : SyntaxError) :
    cause.message = "sql parser error: " ++ cause.detail ∨
      ∃ found : Token, cause.message = "Expected end of statement, found: " ++ found.spelling := by
  unfold SyntaxError.message
  split
  · next found =>
    refine .inr ⟨found, ?_⟩
    unfold SyntaxError.detail
    rfl
  · exact .inl rfl

/-- No other fault of a text is worded like one of decoding. -/
theorem TextFault.eq_utf8_of_error_eq {fault : TextFault} {f : Fault}
    (h : fault.error = (TextFault.utf8 f).error) : ∃ g, fault = .utf8 g := by
  have hmessage : fault.message = "statement is not valid UTF-8: " ++ f.message := by
    rw [TextFault.error, TextFault.error, Error.parse.injEq, String.append_right_inj] at h
    exact h
  have hparser (text : String) :
      "sql parser error: " ++ text ≠ "statement is not valid UTF-8: " ++ f.message :=
    append_ne_append_of_take (n := 2) (by decide) (by decide) (by decide) _ _
  unfold TextFault.message at hmessage
  cases fault with
  | utf8 g => exact ⟨g, rfl⟩
  | lexical failure =>
    dsimp only at hmessage
    rw [String.append_assoc] at hmessage
    exact absurd hmessage (hparser _)
  | grammatical cause =>
    dsimp only at hmessage
    -- one of the messages of the grammar has no prefix, but it begins otherwise, too
    rcases cause.message_cases with hcause | ⟨found, hcause⟩
    · exact absurd (hcause.symm.trans hmessage) (hparser _)
    · refine absurd (hcause.symm.trans hmessage) ?_
      exact append_ne_append_of_take (n := 1) (by decide) (by decide) (by decide) _ _

/-- A text that decodes has no item that says otherwise. -/
theorem invalidItem_notMem_ofText {text : List UInt8} {chars : List Char}
    (h : decode text = .ok chars) (fault : Fault) :
    invalidItem fault ∉ Stream.ofText d text := by
  intro hmem
  obtain ⟨found, herror, hutf8⟩ := Stream.fault_of_mem_ofText hmem
  obtain ⟨g, rfl⟩ := TextFault.eq_utf8_of_error_eq herror.symm
  rw [hutf8 g rfl] at h
  cases h

/-- Texts that decode have no item that says otherwise. -/
theorem invalidItem_notMem_textItems {bytes : List UInt8}
    (h : ∀ text ∈ pieces d bytes, ∃ chars, decode text = .ok chars) (fault : Fault) :
    invalidItem fault ∉ textItems d bytes := by
  intro hmem
  obtain ⟨text, htext, hitem⟩ := List.mem_flatMap.mp ((throughError_isPrefix _).mem hmem)
  obtain ⟨chars, hchars⟩ := h text htext
  exact invalidItem_notMem_ofText hchars fault hitem

/-- The items through a statement text that does not decode: those before it, and then the one for
    it, unless there is an error before. -/
theorem textItems_of_pieces_error {bytes : List UInt8} {before after : List (List UInt8)}
    {text : List UInt8} {fault : Fault} (hpieces : pieces d bytes = before ++ text :: after)
    (hclosed : ∀ t ∈ before, Closed d t) (hfault : decode text = .error fault) :
    pieces d (joined before) = before ∧
      textItems d bytes =
        if hasError (textItems d (joined before)) then textItems d (joined before)
        else textItems d (joined before) ++ [invalidItem fault] := by
  have hfront : pieces d (joined before) = before := by
    have := pieces_joined hclosed (unended_nil d)
    simpa using this
  have htext : Stream.ofText d text = [invalidItem fault] := by
    rw [Stream.ofText, hfault]
    rfl
  refine ⟨hfront, ?_⟩
  rw [textItems, hpieces, textItems, hfront, List.flatMap_append, List.flatMap_cons, htext,
    throughError_append]
  rfl

/-- However bytes are cut into buffers, they decode if and only if each text does that a splitter
    delivers, and then no item of a reader says that a text does not. If they do not decode, let
    the failure be behind the longest front that decodes. The first text that does not decode is
    the one in which this place is, and decoding it fails there. Let input end with the semicolon
    before this text: no item of it says that a text does not decode; and the whole input has the
    same items and then the one for this text, unless there was an error before. -/
theorem invalid_statement (d : Dialect) (buffers : List (List UInt8)) :
    let itemsOf (buffers : List (List UInt8)) : List Item :=
      (Reader.start d (Source.ofBuffers buffers none)).items
    ∃ texts, Splits d buffers texts ∧
      ((∃ chars, decode buffers.flatten = .ok chars) ↔
        ∀ text ∈ texts, ∃ chars, decode text = .ok chars) ∧
      ((∃ chars, decode buffers.flatten = .ok chars) →
        ∀ fault, invalidItem fault ∉ itemsOf buffers) ∧
      ∀ fault, decode buffers.flatten = .error fault →
        ValidUpTo buffers.flatten (faultIndex fault) ∧
        ∃ before text after fault', texts = before ++ text :: after ∧
          (∀ t ∈ before, ∃ chars, decode t = .ok chars) ∧ decode text = .error fault' ∧
          joined before ++ text <+: buffers.flatten ∧ faultIndex fault' < text.length ∧
          faultIndex fault = (joined before).length + faultIndex fault' ∧
          ∀ front : List (List UInt8), front.flatten = joined before →
            (∀ f, invalidItem f ∉ itemsOf front) ∧
            itemsOf buffers =
              if hasError (itemsOf front) then itemsOf front
              else itemsOf front ++ [invalidItem fault'] := by
  intro itemsOf
  have hvalid := decodes_iff_pieces d buffers.flatten
  refine ⟨pieces d buffers.flatten, splits_pieces d buffers, hvalid, ?_, ?_⟩
  · intro h fault
    simp only [itemsOf, items_ofBuffers]
    exact invalidItem_notMem_textItems (hvalid.mp h) fault
  intro fault h
  refine ⟨validUpTo_of_error h, ?_⟩
  obtain ⟨before, text, after, fault', hpieces, hclosed, hbefore, hfault, hprefix, hplace⟩ :=
    pieces_of_error (d := d) h
  refine ⟨before, text, after, fault', hpieces, hbefore, hfault, hprefix,
    (validUpTo_of_error hfault).lt_length, hplace, ?_⟩
  -- the texts before make up an input of their own, with the items that they have in the whole
  intro front hfront
  obtain ⟨hjoined, hitems⟩ := textItems_of_pieces_error hpieces hclosed hfault
  simp only [itemsOf, items_ofBuffers, hfront]
  refine ⟨fun f => invalidItem_notMem_textItems ?_ f, hitems⟩
  rw [hjoined]
  exact hbefore

end QueryAudit
