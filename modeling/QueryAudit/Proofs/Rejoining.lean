import QueryAudit.Proofs.Passage

/-!
# Splitting and joining again

The texts that a splitter delivers are the bytes between the semicolons that it stops at. Put one
behind the other, each with its semicolon, they are the bytes that were read; only what is behind
the last semicolon is without one. The other way round, texts that leave nothing open and have no
semicolon in code can be joined with semicolons, and are delivered as they were.
-/

namespace QueryAudit

variable {d : Dialect}

/-! ### Deliveries are unique -/

theorem Deliveries.unique {s : Splitter} {source : Source} {texts texts' : List (List UInt8)}
    {failure failure' : Option String} (h : Deliveries d s source texts failure)
    (h' : Deliveries d s source texts' failure') : texts' = texts ∧ failure' = failure := by
  -- the next delivery of a splitter is one value, so two runs cannot differ in its kind
  induction h generalizing texts' failure' with
  | finished hd =>
    cases h' with
    | finished => exact ⟨rfl, rfl⟩
    | failed hd' => rw [hd] at hd'; cases hd'
    | text hd' => rw [hd] at hd'; cases hd'
  | failed hd =>
    cases h' with
    | finished hd' => rw [hd] at hd'; cases hd'
    | failed hd' => rw [hd] at hd'; cases hd'; exact ⟨rfl, rfl⟩
    | text hd' => rw [hd] at hd'; cases hd'
  | text hd rest ih =>
    cases h' with
    | finished hd' => rw [hd] at hd'; cases hd'
    | failed hd' => rw [hd] at hd'; cases hd'
    | text hd' rest' =>
      rw [hd] at hd'
      cases hd'
      obtain ⟨rfl, rfl⟩ := ih rest'
      exact ⟨rfl, rfl⟩

/-- A splitter over buffers delivers these texts and nothing else, and does not fail. -/
def Splits (d : Dialect) (buffers texts : List (List UInt8)) : Prop :=
  ∀ texts' failure, Deliveries d {} (Source.ofBuffers buffers none) texts' failure ↔
    texts' = texts ∧ failure = none

/-- A splitter delivers the statement texts of its bytes. -/
theorem splits_pieces (d : Dialect) (buffers : List (List UInt8)) :
    Splits d buffers (pieces d buffers.flatten) := by
  intro texts failure
  have hd := deliveries_ofBuffers d buffers
  constructor
  · exact hd.unique
  · rintro ⟨rfl, rfl⟩
    exact hd

/-! ### Texts in which no statement ends -/

/-- No statement ends in a text. -/
def Unended (d : Dialect) (text : List UInt8) : Prop :=
  ∃ mode seen, cut d .code [] text = .unfinished mode seen

/-- No statement ends in a text, and it leaves code open. -/
def Closed (d : Dialect) (text : List UInt8) : Prop :=
  ∃ seen, cut d .code [] text = .unfinished .code seen

theorem seen_of_cut_unfinished {mode mode' : Mode} {seen seen' bytes : List UInt8}
    (h : cut d mode seen bytes = .unfinished mode' seen') : seen' = bytes.reverse ++ seen := by
  induction bytes generalizing mode seen with
  | nil =>
    cases h
    rfl
  | cons b bs ih =>
    rw [cut] at h
    split at h
    · cases h
    · rw [ih h, List.reverse_cons, List.append_assoc, List.singleton_append]

/-- No marker of two bytes has a semicolon as its second one. -/
theorem Mode.next_before_semicolon (d : Dialect) (m : Mode) (b : UInt8) (bs more : List UInt8) :
    m.next d b (bs ++ semicolon :: more).head? = m.next d b bs.head? := by
  cases bs with
  | nil => exact apart_semicolon [b] more b rfl m
  | cons x xs => rfl

/-- The bytes of a statement that is found are the first ones up to a semicolon in code. -/
theorem exists_of_cut_found {mode : Mode} {seen bytes text rest : List UInt8}
    (h : cut d mode seen bytes = .found text rest) :
    ∃ front, text = seen.reverse ++ front ∧ bytes = front ++ Mode.semicolon :: rest ∧
      ∃ seen', cut d mode seen front = .unfinished .code seen' := by
  induction bytes generalizing mode seen with
  | nil => cases h
  | cons b bs ih =>
    rw [cut] at h
    split at h
    · next hs =>
      obtain ⟨rfl, rfl⟩ : mode = .code ∧ b = Mode.semicolon := by simpa using hs
      cases h
      exact ⟨[], (List.append_nil _).symm, rfl, seen, rfl⟩
    · next hs =>
      obtain ⟨front, rfl, rfl, seen', hfront⟩ := ih h
      -- the byte behind `b` matters only as a second half of a marker, and `;` is none
      rw [mode.next_before_semicolon] at hfront
      refine ⟨b :: front, ?_, rfl, seen', ?_⟩
      · rw [List.reverse_cons, List.append_assoc, List.singleton_append]
      · rw [cut, if_neg hs, hfront]

/-- A statement that is found is a closed text before a semicolon. -/
theorem cut_eq_found_iff {bytes text rest : List UInt8} :
    cut d .code [] bytes = .found text rest ↔
      bytes = text ++ Mode.semicolon :: rest ∧ Closed d text := by
  constructor
  · intro h
    obtain ⟨front, rfl, rfl, hfront⟩ := exists_of_cut_found h
    exact ⟨rfl, hfront⟩
  · rintro ⟨rfl, seen, h⟩
    have hseen := seen_of_cut_unfinished h
    rw [List.append_nil] at hseen
    rw [cut_append_of_apart .code [] (apart_semicolon text rest), h, hseen]
    simp [Cut.resume, cut]

/-- A text is without an end of a statement if no closed text stands before a semicolon in it. -/
theorem unended_iff {bytes : List UInt8} :
    Unended d bytes ↔ ∀ text rest, bytes = text ++ Mode.semicolon :: rest → ¬Closed d text := by
  constructor
  · rintro ⟨mode, seen, h⟩ text rest hbytes hclosed
    rw [cut_eq_found_iff.mpr ⟨hbytes, hclosed⟩] at h
    cases h
  · intro h
    cases hc : cut d .code [] bytes with
    | found text rest =>
      obtain ⟨hbytes, hclosed⟩ := cut_eq_found_iff.mp hc
      exact absurd hclosed (h text rest hbytes)
    | unfinished mode seen => exact ⟨mode, seen, hc⟩

/-- A statement ends in one place. -/
theorem Closed.unique {text text' rest rest' : List UInt8} (h : Closed d text)
    (h' : Closed d text')
    (heq : text ++ Mode.semicolon :: rest = text' ++ Mode.semicolon :: rest') :
    text = text' ∧ rest = rest' := by
  have hcut : cut d .code [] (text ++ Mode.semicolon :: rest) = .found text rest :=
    cut_eq_found_iff.mpr ⟨rfl, h⟩
  rw [cut_eq_found_iff.mpr ⟨heq, h'⟩] at hcut
  cases hcut
  exact ⟨rfl, rfl⟩

/-! ### Statement texts one by one -/

/-- A closed text before a semicolon is the first statement text. -/
theorem pieces_of_closed {text : List UInt8} (h : Closed d text) (more : List UInt8) :
    pieces d (text ++ Mode.semicolon :: more) = text :: pieces d more := by
  rw [pieces, pass_eq_cut, Open.mode, cut_eq_found_iff.mpr ⟨rfl, h⟩]
  rfl

/-- A text in which no statement ends is one statement text, unless it is empty. -/
theorem pieces_of_unended {rest : List UInt8} (h : Unended d rest) :
    pieces d rest = if rest.isEmpty then [] else [rest] := by
  obtain ⟨mode, seen, hcut⟩ := h
  have hseen := seen_of_cut_unfinished hcut
  rw [List.append_nil] at hseen
  rw [pieces, pass_eq_cut, Open.mode, hcut, passCut, hseen, List.reverse_reverse,
    List.isEmpty_reverse]

/-- The statement texts of a text one by one: closed ones before semicolons, and a last one in which
    no statement ends. -/
theorem pieces_induction {P : List UInt8 → List (List UInt8) → Prop} (nil : P [] [])
    (last : ∀ rest, rest ≠ [] → Unended d rest → P rest [rest])
    (ended : ∀ text more, Closed d text → P more (pieces d more) →
      P (text ++ Mode.semicolon :: more) (text :: pieces d more))
    (bytes : List UInt8) : P bytes (pieces d bytes) := by
  -- on the number of bytes, of which each statement takes its semicolon
  induction hn : bytes.length using Nat.strongRecOn generalizing bytes with
  | ind n ih =>
    cases hc : cut d .code [] bytes with
    | found text more =>
      obtain ⟨rfl, hclosed⟩ := cut_eq_found_iff.mp hc
      rw [pieces_of_closed hclosed]
      refine ended text more hclosed (ih more.length ?_ more rfl)
      rw [← hn, List.length_append, List.length_cons]
      omega
    | unfinished mode seen =>
      rw [pieces_of_unended ⟨mode, seen, hc⟩]
      cases bytes with
      | nil => exact nil
      | cons b bs => exact last _ (List.cons_ne_nil b bs) ⟨mode, seen, hc⟩

/-! ### Joining -/

/-- Texts with a semicolon behind each. -/
def joined (texts : List (List UInt8)) : List UInt8 :=
  texts.flatMap (· ++ [Mode.semicolon])

theorem joined_cons (text : List UInt8) (texts : List (List UInt8)) :
    joined (text :: texts) = text ++ Mode.semicolon :: joined texts := by
  rw [joined, List.flatMap_cons, List.append_assoc]
  rfl

/-- The statement texts of a text are the closed ones with a semicolon behind each, and the rest. -/
theorem pieces_eq_joined (d : Dialect) (bytes : List UInt8) :
    ∃ (ended : List (List UInt8)) (last : Option (List UInt8)),
      pieces d bytes = ended ++ last.toList ∧ bytes = joined ended ++ last.getD [] ∧
      (∀ text ∈ ended, Closed d text) ∧ ∀ text ∈ last, text ≠ [] ∧ Unended d text := by
  induction bytes using pieces_induction (d := d) with
  | nil => exact ⟨[], none, rfl, rfl, by simp, by simp⟩
  | last rest hne h => exact ⟨[], some rest, rfl, rfl, by simp, by simp [hne, h]⟩
  | ended text more h ih =>
    obtain ⟨ended, last, hpieces, hmore, hended, hlast⟩ := ih
    refine ⟨text :: ended, last, ?_, ?_, List.forall_mem_cons.mpr ⟨h, hended⟩, hlast⟩
    · rw [hpieces, List.cons_append]
    · rw [joined_cons, List.append_assoc, List.cons_append, ← hmore]

/-- A single statement text is the whole text, or the text before a semicolon at the end. -/
theorem eq_of_pieces_eq_singleton {bytes text : List UInt8} (h : pieces d bytes = [text]) :
    bytes = text ∨ bytes = text ++ [Mode.semicolon] ∧ Closed d text := by
  obtain ⟨ended, last, hpieces, hbytes, hended, -⟩ := pieces_eq_joined d bytes
  rw [h, eq_comm] at hpieces
  -- one piece is either the last one, without a semicolon, or the only one with it
  cases ended with
  | nil =>
    cases last with
    | none => cases hpieces
    | some rest =>
      cases hpieces
      exact .inl hbytes
  | cons first ended =>
    obtain ⟨rfl, hrest⟩ := List.cons.inj hpieces
    obtain ⟨rfl, hlast⟩ := List.append_eq_nil_iff.mp hrest
    obtain rfl := Option.toList_eq_nil_iff.mp hlast
    exact .inr ⟨by simpa [joined] using hbytes, hended _ List.mem_cons_self⟩

/-- Closed texts with a semicolon behind each, and a rest in which no statement ends, are the
    statement texts of all of these bytes. -/
theorem pieces_joined {texts : List (List UInt8)} (h : ∀ text ∈ texts, Closed d text)
    {rest : List UInt8} (hrest : Unended d rest) :
    pieces d (joined texts ++ rest) = texts ++ if rest.isEmpty then [] else [rest] := by
  induction texts with
  | nil => exact pieces_of_unended hrest
  | cons text texts ih =>
    obtain ⟨htext, htexts⟩ := List.forall_mem_cons.mp h
    rw [joined_cons, List.append_assoc, List.cons_append, pieces_of_closed htext, ih htexts,
      List.cons_append]

theorem unended_nil (d : Dialect) : Unended d [] := ⟨.code, [], rfl⟩

/-- However bytes are cut into buffers, the texts that a splitter delivers, with a semicolon behind
    each of them but perhaps a last one, are these bytes. Those with a semicolon are closed; the
    last one is not empty, and no statement ends in it. The other way round, let closed texts be
    joined with a semicolon behind each, and with a rest that is empty or in which no statement
    ends: a splitter delivers these texts and then, unless it is empty, the rest. -/
theorem splits_joined (d : Dialect) (buffers : List (List UInt8)) :
    (∃ (ended : List (List UInt8)) (last : Option (List UInt8)),
      Splits d buffers (ended ++ last.toList) ∧
      buffers.flatten = joined ended ++ last.getD [] ∧
      (∀ text ∈ ended, Closed d text) ∧ ∀ text ∈ last, text ≠ [] ∧ Unended d text) ∧
    ∀ texts rest, (∀ text ∈ texts, Closed d text) → rest = [] ∨ Unended d rest →
      buffers.flatten = joined texts ++ rest →
      Splits d buffers (texts ++ if rest.isEmpty then [] else [rest]) := by
  constructor
  · obtain ⟨ended, last, hpieces, hbytes, hended, hlast⟩ := pieces_eq_joined d buffers.flatten
    exact ⟨ended, last, hpieces ▸ splits_pieces d buffers, hbytes, hended, hlast⟩
  · intro texts rest htexts hrest hbytes
    have hunended : Unended d rest := by
      rcases hrest with rfl | hrest
      · exact unended_nil d
      · exact hrest
    -- an automaton in code cuts at each semicolon of its own and at no other byte
    rw [← pieces_joined htexts hunended, ← hbytes]
    exact splits_pieces d buffers

end QueryAudit
