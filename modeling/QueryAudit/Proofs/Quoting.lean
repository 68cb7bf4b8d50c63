import QueryAudit.Proofs.Symbols

/-!
# Scans of quoted texts

What was said of the scans of symbols holds of strings and quoted names, of strings that a letter
introduces, and of texts between dollar marks.
-/

namespace QueryAudit.Sql.Lexer

variable {d : Dialect}

/-! ### Quoted texts -/

/-- A token made of what stands before the closing quote. -/
def quotedScan (find : List Char → Option (List Char × Nat)) (make : List Char → Token)
    (cause : Fault) (offset : Nat) (body : List Char) : Scan :=
  match find body with
  | some (text, n) => .token (make text) n
  | none => .fault cause offset

section Quoted

variable {q : Char} {opening : Nat} {find : List Char → Option (List Char × Nat)}
  {make : List Char → Token} {cause : Fault} {offset n : Nat} {body r v : List Char}
  (hfind : ∀ {body found}, find body = some found → Closes d q find opening body found)

include hfind

theorem quotedScan_spec (h : (quotedScan find make cause offset body).length = some n) :
    ∃ x v, body = x ++ v ∧ n = opening + x.length ∧ v.head? ≠ some q ∧
      (∀ v', v'.head? ≠ some q →
        quotedScan find make cause offset (x ++ v') = quotedScan find make cause offset body) ∧
      ∀ seen, pass byteOf d (.quoted (byteOf q)) seen (x ++ v) =
        pass byteOf d .code (x.reverse ++ seen) v := by
  unfold quotedScan at h
  split at h
  · next text m hfound =>
    cases h
    obtain ⟨x, v, rfl, hn, hv, hall, hpass⟩ := hfind hfound
    refine ⟨x, v, rfl, hn, hv, ?_, hpass⟩
    intro v' hv'
    simp only [quotedScan, hall v' hv', hfound]
  · cases h

theorem quotedScan_takes (h : (quotedScan find make cause offset body).length = some n) :
    opening ≤ n := by
  obtain ⟨x, v, -, rfl, -⟩ := quotedScan_spec hfind h
  exact Nat.le_add_right _ _

theorem quotedScan_before
    (h : (quotedScan find make cause offset (r ++ ';' :: v)).length = some n)
    (hn : n ≤ r.length + opening) :
    quotedScan find make cause offset r = quotedScan find make cause offset (r ++ ';' :: v) := by
  obtain ⟨x, w, hx, rfl, hw, hall, -⟩ := quotedScan_spec hfind h
  obtain ⟨r', rfl, rfl⟩ := eq_append_of_before hx (by omega)
  refine hall r' ?_
  cases r' with
  | nil => simp
  | cons a r' => exact hw

/-- A quoted text is passed with what introduces it. -/
theorem quotedScan_passed (hq : isQuoteChar q = true)
    (h : (quotedScan find make cause offset body).length = some n) (front : List Char)
    (hfront : front.all isHarmless = true) (ho : opening = front.length + 1) :
    Passed d ((front ++ q :: body).take n) ((front ++ q :: body).drop n) := by
  obtain ⟨x, v, rfl, rfl, -, -, hpass⟩ := quotedScan_spec hfind h
  have htext : front ++ q :: (x ++ v) = (front ++ q :: x) ++ v := by simp
  refine passed_of_eq_append htext ?_ ?_
  · simp only [ho, List.length_append, List.length_cons]
    omega
  · refine Passed.append (passed_of_plain (plain_of_harmless hfront _)) ?_
    intro seen
    rw [List.cons_append, pass_open hq, hpass, List.reverse_cons, List.append_assoc]
    rfl

end Quoted

theorem escapesIn_of_ne {q : Char} (hq : q ≠ '\x60') : escapesIn d q = d.backslashEscapes := by
  simp [escapesIn, hq]

/-- A backslash in a quoted name is an ordinary character, to the splitter as well. -/
theorem escapesIn_nameQuote {q : Char} (hq : d.isNameQuote q = true) :
    escapesIn d q = false ∧ isQuoteChar q = true := by
  cases d <;>
    simp only [Dialect.isNameQuote, Bool.or_eq_true, decide_eq_true_eq] at hq <;>
    rcases hq with rfl | rfl <;> exact ⟨rfl, rfl⟩

theorem closes_string {q : Char} (hq : q ≠ '\x60') (hc : isQuoteChar q = true) (opening : Nat)
    {body : List Char} {found : List Char × Nat}
    (h : quotedBody d.backslashEscapes q [] opening body = some found) :
    Closes d q (quotedBody d.backslashEscapes q [] opening) opening body found := by
  rw [← escapesIn_of_ne hq] at h ⊢
  exact closes_quotedBody hc h

/-- A string, behind harmless characters that introduce it. -/
theorem reads_string {q : Char} (hq : q ≠ '\x60') (hc : isQuoteChar q = true) (front : List Char)
    (hfront : front.all isHarmless = true) (quoting : Quoting) :
    Reads d (front ++ [q])
      (scanQuoted d.backslashEscapes quoting q (front.length + 1)) where
  takes := by
    intro rest n h
    exact Nat.le_trans (Nat.le_add_left 1 _) (quotedScan_takes (closes_string hq hc _) h)
  before := by
    intro r v n h hn
    rw [List.length_append, List.length_singleton] at hn
    exact quotedScan_before (closes_string hq hc _) h hn
  passed := by
    intro rest n h _ _
    rw [List.append_assoc]
    exact quotedScan_passed (closes_string hq hc _) hc h front hfront rfl

theorem reads_name {q : Char} (hq : d.isNameQuote q = true) : Reads d [q] (scanName q) := by
  obtain ⟨he, hc⟩ := escapesIn_nameQuote hq
  have hfind {body : List Char} {found : List Char × Nat}
      (h : quotedBody false q [] 1 body = some found) :
      Closes d q (quotedBody false q [] 1) 1 body found := by
    rw [← he] at h ⊢
    exact closes_quotedBody hc h
  exact {
    takes := quotedScan_takes hfind
    before := quotedScan_before hfind
    passed := fun h _ _ => quotedScan_passed hfind hc h [] rfl rfl }

/-- A string with escapes. Where the splitter lets nothing escape it is foreign. -/
theorem reads_escaped {c : Char} (hc : isHarmless c = true) : Reads d [c, '\''] scanEscaped where
  takes := by
    intro rest n h
    exact Nat.le_trans (by decide) (quotedScan_takes (closes_escapedBody (d := .mysql) rfl) h)
  before := by
    intro r v n h hn
    exact quotedScan_before (closes_escapedBody (d := .mysql) rfl) h hn
  passed := by
    intro rest n h hforeign _
    -- a string with escapes is foreign where the splitter does not know of them
    have hd : d.backslashEscapes = true := by
      cases hbody : escapedBody [] 2 rest with
      | none =>
        rw [scanEscaped, hbody] at h
        cases h
      | some found =>
        rw [scanEscaped, hbody] at hforeign
        simpa [isForeign] using hforeign
    exact quotedScan_passed (closes_escapedBody hd) rfl h [c] (by simpa using hc) rfl

/-! ### Introduced texts -/

/-- A letter that introduces nothing begins a word, also in front of a quote. -/
theorem reads_word_of_quote (c q : Char) :
    Reads d [c, q] fun body => scanWord d [c] (q :: body) where
  takes := fun h => (reads_word c).takes h
  before := fun _ _ => scanWord_before _ (q :: _) _
  passed := fun _ hforeign _ => passed_of_word hforeign

theorem isHarmless_of_or {a b c : Char} (ha : isHarmless a = true) (hb : isHarmless b = true)
    (h : (c = a || c = b) = true) : isHarmless c = true := by
  rw [Bool.or_eq_true, decide_eq_true_eq, decide_eq_true_eq] at h
  rcases h with rfl | rfl
  · exact ha
  · exact hb

theorem Reads.congr {front : List Char} {f g : List Char → Scan} (h : Reads d front g)
    (hfg : ∀ rest, f rest = g rest) : Reads d front f := by
  rw [funext hfg]
  exact h

/-- A letter before a quote introduces a string or a string with escapes, or begins a word. -/
theorem reads_introduced_single (c : Char) :
    Reads d [c, '\''] fun body => scanIntroduced d c ('\'' :: body) := by
  have hstring (hc : isHarmless c = true) (quoting : Quoting) :
      Reads d [c, '\''] (scanQuoted d.backslashEscapes quoting '\'' 2) :=
    reads_string (by decide) rfl [c] (by simpa using hc) quoting
  by_cases hN : (c = 'N' || c = 'n') = true
  · refine (hstring ?_ .national).congr fun body => ?_
    · exact isHarmless_of_or rfl rfl hN
    · rw [scanIntroduced, if_pos hN]
  by_cases hX : (c = 'X' || c = 'x') = true
  · refine (hstring ?_ .hex).congr fun body => ?_
    · exact isHarmless_of_or rfl rfl hX
    · rw [scanIntroduced, if_neg hN, if_pos hX]
  by_cases hE : (c = 'E' || c = 'e') = true
  · refine (reads_escaped ?_).congr fun body => ?_
    · exact isHarmless_of_or rfl rfl hE
    · rw [scanIntroduced, if_neg hN, if_neg hX, if_pos hE]
  by_cases hB : (d.byteAndRawStrings && (c = 'B' || c = 'b')) = true
  · refine (hstring ?_ .byteSingle).congr fun body => ?_
    · exact isHarmless_of_or rfl rfl (Bool.and_eq_true_iff.mp hB).2
    · rw [scanIntroduced, if_neg hN, if_neg hX, if_neg hE, if_pos hB]
  by_cases hR : (d.byteAndRawStrings && (c = 'R' || c = 'r')) = true
  · refine (hstring ?_ .raw).congr fun body => ?_
    · exact isHarmless_of_or rfl rfl (Bool.and_eq_true_iff.mp hR).2
    · rw [scanIntroduced, if_neg hN, if_neg hX, if_neg hE, if_neg hB, if_pos hR]
  · -- no letter introduces a string here, so the word ends before the quote
    refine (reads_word_of_quote c '\'').congr fun body => ?_
    rw [scanIntroduced, if_neg hN, if_neg hX, if_neg hE, if_neg hB, if_neg hR]

theorem reads_introduced_double (c : Char) :
    Reads d [c, '"'] fun body => scanIntroduced d c ('"' :: body) := by
  have hstring (hc : isHarmless c = true) (quoting : Quoting) :
      Reads d [c, '"'] (scanQuoted d.backslashEscapes quoting '"' 2) :=
    reads_string (by decide) rfl [c] (by simpa using hc) quoting
  by_cases hB : (d.byteAndRawStrings && (c = 'B' || c = 'b')) = true
  · refine (hstring ?_ .byteDouble).congr fun body => ?_
    · exact isHarmless_of_or rfl rfl (Bool.and_eq_true_iff.mp hB).2
    · rw [scanIntroduced, if_pos hB]
  by_cases hR : (d.byteAndRawStrings && (c = 'R' || c = 'r')) = true
  · refine (hstring ?_ .raw).congr fun body => ?_
    · exact isHarmless_of_or rfl rfl (Bool.and_eq_true_iff.mp hR).2
    · rw [scanIntroduced, if_neg hB, if_pos hR]
  · refine (reads_word_of_quote c '"').congr fun body => ?_
    rw [scanIntroduced, if_neg hB, if_neg hR]

/-- In front of anything but a quote a letter begins a word. -/
theorem scanIntroduced_word {c : Char} {rest : List Char} (hs : rest.head? ≠ some '\'')
    (hd : rest.head? ≠ some '"') : scanIntroduced d c rest = scanWord d [c] rest := by
  unfold scanIntroduced
  split
  · exact absurd rfl hs
  · exact absurd rfl hd
  · rfl

theorem reads_introduced (c : Char) : Reads d [c] (scanIntroduced d c) where
  takes := by
    intro rest n h
    by_cases hs : rest.head? = some '\''
    · obtain ⟨body, rfl⟩ := List.head?_eq_some_iff.mp hs
      exact (reads_introduced_single c).takes h
    by_cases hd : rest.head? = some '"'
    · obtain ⟨body, rfl⟩ := List.head?_eq_some_iff.mp hd
      exact (reads_introduced_double c).takes h
    -- without a quote behind it the letter begins a word
    rw [scanIntroduced_word hs hd] at h
    exact (reads_word c).takes h
  before := by
    intro r v n h hn
    cases r with
    | nil => exact scanWord_before [c] [] v
    | cons q r =>
      by_cases hs : q = '\''
      · subst hs
        exact (reads_introduced_single c).before h (by simpa using hn)
      by_cases hd : q = '"'
      · subst hd
        exact (reads_introduced_double c).before h (by simpa using hn)
      rw [scanIntroduced_word (by simpa using hs) (by simpa using hd),
        scanIntroduced_word (by simpa using hs) (by simpa using hd)]
      exact scanWord_before [c] (q :: r) v
  passed := by
    intro rest n h hforeign hsemi
    by_cases hs : rest.head? = some '\''
    · obtain ⟨body, rfl⟩ := List.head?_eq_some_iff.mp hs
      exact (reads_introduced_single c).passed h hforeign hsemi
    by_cases hd : rest.head? = some '"'
    · obtain ⟨body, rfl⟩ := List.head?_eq_some_iff.mp hd
      exact (reads_introduced_double c).passed h hforeign hsemi
    rw [scanIntroduced_word hs hd] at hforeign
    exact passed_of_word hforeign

/-! ### Dollar marks -/

/-- A front of a text in which something is found whatever follows it. How many characters it takes
    is counted on from those taken before. -/
def FoundIn {α : Type} (find : List Char → α) (found : α) (taken n : Nat) (cs : List Char) : Prop :=
  ∃ x v, cs = x ++ v ∧ n = taken + x.length ∧ ∀ v', find (x ++ v') = found

theorem FoundIn.here {α : Type} {find : List Char → α} {found : α} {c : Char}
    (h : ∀ v, find (c :: v) = found) (taken : Nat) (cs : List Char) :
    FoundIn find found taken (taken + 1) (c :: cs) :=
  ⟨[c], cs, rfl, rfl, h⟩

theorem FoundIn.cons {α : Type} {find find' : List Char → α} {found : α} {c : Char}
    {taken n : Nat} {cs : List Char} (h : FoundIn find' found (taken + 1) n cs)
    (hc : ∀ v, find (c :: v) = find' v) : FoundIn find found taken n (c :: cs) := by
  obtain ⟨x, v, rfl, rfl, hall⟩ := h
  refine ⟨c :: x, v, rfl, ?_, ?_⟩
  · rw [List.length_cons]
    omega
  · intro v'
    rw [List.cons_append, hc, hall]

/-- The text before two dollar marks is found whatever follows them. -/
theorem dollarBody_spec {done cs : List Char} {held : Bool} {taken : Nat}
    {found : List Char × Nat} (h : dollarBody done held taken cs = some found) :
    FoundIn (dollarBody done held taken) (some found) taken found.2 cs := by
  fun_induction dollarBody done held taken cs with
  | case1 => cases h
  | case2 done taken cs =>
    cases h
    exact .here (fun v => rfl) taken cs
  | case3 done taken c cs hc ih =>
    exact (ih h).cons fun v => by rw [dollarBody, if_pos rfl, if_neg hc]
  | case4 done held taken cs hheld ih =>
    exact (ih h).cons fun v => by rw [dollarBody, if_neg hheld, if_pos rfl]
  | case5 done held taken c cs hheld hc ih =>
    exact (ih h).cons fun v => by rw [dollarBody, if_neg hheld, if_neg hc]

/-- So is a closing tag. -/
theorem closeTag_spec {tag ts cs : List Char} {taken n : Nat}
    (h : closeTag tag taken ts cs = .ok n) :
    FoundIn (closeTag tag taken ts) (.ok n) taken n cs := by
  fun_induction closeTag tag taken ts cs with
  | case1 taken cs =>
    cases h
    exact .here (fun v => rfl) taken cs
  | case2 => cases h
  | case3 => cases h
  | case4 taken ts t cs ih => exact (ih h).cons fun v => by rw [closeTag, if_pos rfl]
  | case5 => cases h

/-- The characters up to the first that fails a test, which is found whatever follows it. -/
theorem takeWhile_spec {p : Char → Bool} {text rest : List Char} {c : Char}
    (h : text.drop (text.takeWhile p).length = c :: rest) :
    text = text.takeWhile p ++ c :: rest ∧
      ∀ v, (text.takeWhile p ++ c :: v).takeWhile p = text.takeWhile p := by
  induction text with
  | nil => cases h
  | cons a text ih =>
    by_cases ha : p a = true
    · rw [List.takeWhile_cons_of_pos ha] at h ⊢
      obtain ⟨htext, hall⟩ := ih h
      refine ⟨congrArg (a :: ·) htext, fun v => ?_⟩
      rw [List.cons_append, List.takeWhile_cons_of_pos ha, hall]
    · rw [List.takeWhile_cons_of_neg ha] at h ⊢
      cases h
      exact ⟨rfl, fun v => List.takeWhile_cons_of_neg ha⟩

/-- What is left behind such characters is the same before a semicolon. -/
theorem drop_takeWhile_before (p : Char → Bool) (r v : List Char) :
    (r ++ v).drop (r.takeWhile p).length = r.drop (r.takeWhile p).length ++ v :=
  List.drop_append_of_le_length (List.takeWhile_prefix p).length_le

/-- A text behind a tag and two dollar marks is found whatever follows it. -/
theorem scanTagged_spec {tag body : List Char} {n : Nat}
    (h : (scanTagged tag body).length = some n) :
    ∃ x v, body = x ++ v ∧ n = tag.length + 2 + x.length ∧
      ∀ v', scanTagged tag (x ++ v') = scanTagged tag body := by
  cases hbody : body.drop (body.takeWhile (· != '$')).length with
  | nil =>
    simp only [scanTagged, hbody] at h
    cases h
  | cons c rest =>
    obtain ⟨heq, hall⟩ := takeWhile_spec hbody
    cases hclose : closeTag tag (tag.length + 2 + (body.takeWhile (· != '$')).length + 1) tag
        rest with
    | error e =>
      simp only [scanTagged, hbody, hclose] at h
      cases h
    | ok m =>
      -- the first dollar mark of the text begins the closing tag
      obtain ⟨x, v, rfl, rfl, hx⟩ := closeTag_spec hclose
      simp only [scanTagged, hbody, hclose] at h
      cases h
      refine ⟨body.takeWhile (· != '$') ++ c :: x, v, ?_, ?_, ?_⟩
      · rw [List.append_assoc]
        exact heq
      · rw [List.length_append, List.length_cons]
        omega
      · intro v'
        simp only [scanTagged, List.append_assoc, List.cons_append, hall, List.drop_left, hx,
          hbody]

def isTagPart (c : Char) : Bool :=
  Letters.isAlphabetic c || Letters.isNumeric c || c = '_'

theorem scanDollar_tag {rest : List Char} (h : rest.head? ≠ some '$') :
    scanDollar rest =
      match rest.drop (rest.takeWhile isTagPart).length with
      | '$' :: body => scanTagged (rest.takeWhile isTagPart) body
      | _ => .token (.placeholder (String.ofList ('$' :: rest.takeWhile isTagPart)))
          ((rest.takeWhile isTagPart).length + 1) := by
  unfold scanDollar
  split
  · exact absurd rfl h
  · rfl

/-- A dollar mark begins a text or a placeholder. -/
theorem scanDollar_kind {rest : List Char} {n : Nat} (h : (scanDollar rest).length = some n) :
    (∃ text tag, scanDollar rest = .token (.dollar text tag) n) ∨
      n = (rest.takeWhile isTagPart).length + 1 := by
  -- two dollar marks, or one before a tag
  by_cases hr : rest.head? = some '$'
  · obtain ⟨body, rfl⟩ := List.head?_eq_some_iff.mp hr
    cases hbody : dollarBody [] false 2 body with
    | none =>
      simp only [scanDollar, hbody] at h
      cases h
    | some found =>
      simp only [scanDollar, hbody] at h ⊢
      cases h
      exact .inl ⟨_, _, rfl⟩
  · rw [scanDollar_tag hr] at h ⊢
    split at h
    · refine .inl ?_
      unfold scanTagged at h ⊢
      dsimp only at h ⊢
      split at h
      · cases h
      · split at h
        · cases h
          exact ⟨_, _, rfl⟩
        · cases h
    · cases h
      exact .inr rfl

/-- A front that meets a test is taken as a whole. -/
theorem take_takeWhile (p : Char → Bool) (text : List Char) :
    text.take (text.takeWhile p).length = text.takeWhile p :=
  (List.prefix_iff_eq_take.mp (List.takeWhile_prefix p)).symm

/-- A harmless character and a front of harmless characters are passed. -/
theorem passed_of_takeWhile {c : Char} (hc : isHarmless c = true) {p : Char → Bool}
    (hp : harmful.any p = false) (rest : List Char) :
    Passed d ((c :: rest).take ((rest.takeWhile p).length + 1))
      ((c :: rest).drop ((rest.takeWhile p).length + 1)) := by
  refine passed_of_plain (plain_of_harmless ?_ _)
  rw [List.take_succ_cons, take_takeWhile, List.all_cons, hc, harmless_takeWhile hp]
  rfl

theorem scanDollar_takes {rest : List Char} {n : Nat} (h : (scanDollar rest).length = some n) :
    1 ≤ n := by
  unfold scanDollar at h
  split at h
  · split at h
    · next text m hfound =>
      cases h
      obtain ⟨x, v, -, hn, -⟩ := dollarBody_spec hfound
      dsimp only at hn
      omega
    · cases h
  · dsimp only at h
    split at h
    · obtain ⟨x, v, -, rfl, -⟩ := scanTagged_spec h
      omega
    · cases h
      exact Nat.succ_pos _

/-- A text between pairs of dollar marks is found before a semicolon behind it. -/
theorem scanDollar_before_of_mark {body v : List Char} {n : Nat}
    (h : (scanDollar ('$' :: (body ++ ';' :: v))).length = some n) (hn : n ≤ body.length + 2) :
    scanDollar ('$' :: body) = scanDollar ('$' :: (body ++ ';' :: v)) := by
  cases hbody : dollarBody [] false 2 (body ++ ';' :: v) with
  | none =>
    simp only [scanDollar, hbody] at h
    cases h
  | some found =>
    have hsome (w : List Char) (hw : dollarBody [] false 2 w = some found) :
        scanDollar ('$' :: w) = .token (.dollar (String.ofList found.1) none) found.2 := by
      simp only [scanDollar, hw]
    rw [hsome _ hbody] at h ⊢
    cases h
    obtain ⟨x, w, hx, hlen, hall⟩ := dollarBody_spec hbody
    obtain ⟨body', rfl, -⟩ := eq_append_of_before hx (by omega)
    exact hsome _ (hall body')

/-- So is a text behind a tag, and a placeholder ends where the text ends. -/
theorem scanDollar_before_of_tag {r v : List Char} {n : Nat} (hr : r.head? ≠ some '$')
    (h : (scanDollar (r ++ ';' :: v)).length = some n) (hn : n ≤ r.length + 1) :
    scanDollar r = scanDollar (r ++ ';' :: v) := by
  have hr' : (r ++ ';' :: v).head? ≠ some '$' := by
    cases r with
    | nil => simp
    | cons c r => exact hr
  have htag : (r ++ ';' :: v).takeWhile isTagPart = r.takeWhile isTagPart :=
    takeWhile_before rfl r v
  rw [scanDollar_tag hr'] at h
  rw [scanDollar_tag hr, scanDollar_tag hr']
  rw [htag, drop_takeWhile_before] at h ⊢
  cases hrest : r.drop (r.takeWhile isTagPart).length with
  | nil => rfl
  | cons c body =>
    rw [hrest] at h
    by_cases hc : c = '$'
    · subst hc
      obtain ⟨x, w, hx, rfl, hall⟩ := scanTagged_spec h
      -- the tag and the mark behind it are counted in the length as well
      have hlen : r.length = (r.takeWhile isTagPart).length + (body.length + 1) := by
        have := congrArg List.length (takeWhile_spec hrest).1
        rwa [List.length_append, List.length_cons] at this
      obtain ⟨body', rfl, -⟩ := eq_append_of_before hx (by omega)
      have hwhole := hall w
      rw [← hx] at hwhole
      exact (hall body').trans hwhole.symm
    · simp [hc]

/-- A dollar mark finds a text, which is foreign, or a placeholder of harmless characters. -/
theorem reads_dollar : Reads d ['$'] scanDollar where
  takes := scanDollar_takes
  before := by
    intro r v n h hn
    by_cases hr : r.head? = some '$'
    · obtain ⟨body, rfl⟩ := List.head?_eq_some_iff.mp hr
      exact scanDollar_before_of_mark h hn
    · exact scanDollar_before_of_tag hr h hn
  passed := by
    intro rest n h hforeign _
    rcases scanDollar_kind h with ⟨text, tag, hs⟩ | rfl
    · rw [hs] at hforeign
      cases hforeign
    · exact passed_of_takeWhile rfl rfl rest

end QueryAudit.Sql.Lexer
