import QueryAudit.Proofs.Passing

/-!
# Scans of symbols, words and comments

Each scan of the lexer takes at least one character. It looks no further than a semicolon behind
what it takes, so that it would take the same if the text ended there. And the splitter passes over
what it takes, unless that is one of the few things that the splitter does not know.
-/

namespace QueryAudit.Sql.Lexer

/-- How many characters a scan takes, unless it is a fault. -/
def Scan.length : Scan → Option Nat
  | .token _ n => some n
  | .blank _ n => some n
  | .fault _ _ => none

/-- Whether the characters of a scan, in front of another one, are something that the splitter does
    not know: a text between dollar marks, a string with escapes where the splitter lets nothing
    escape, a comment with another one inside, or a word or a symbol with a quote, a semicolon or
    the opener of a comment in it or at its end. -/
def isForeign (d : Dialect) (s : Scan) (text : List Char) (next : Option Char) : Bool :=
  match s with
  | .token (.word w) _ => w.quote = none && !plain d text next
  | .token (.symbol s) _ => s ≠ .semicolon && !plain d text next
  | .token (.quoted .escaped _) _ => !d.backslashEscapes
  | .token (.dollar _ _) _ => true
  | .blank (.comment _) _ => text.head? = some '/' && nests (text.drop 2)
  | _ => false

/-- What is said of the scans of texts that start with given characters. -/
structure Reads (d : Dialect) (front : List Char) (f : List Char → Scan) : Prop where
  takes : ∀ {rest n}, (f rest).length = some n → 1 ≤ n
  /-- A semicolon behind what is taken makes no difference. -/
  before : ∀ {r v n}, (f (r ++ ';' :: v)).length = some n → n ≤ r.length + front.length →
    f r = f (r ++ ';' :: v)
  passed : ∀ {rest n}, (f rest).length = some n →
    isForeign d (f rest) ((front ++ rest).take n) ((front ++ rest).drop n).head? = false →
    (∀ m, f rest ≠ .symbol .semicolon m) →
    Passed d ((front ++ rest).take n) ((front ++ rest).drop n)

variable {d : Dialect}

/-! ### Symbols -/

/-- A symbol that is not foreign is passed. -/
theorem passed_of_symbol {s : Symbol} {m : Nat} {text rest : List Char}
    (h : isForeign d (.symbol s m) text rest.head? = false) (hs : s ≠ .semicolon) :
    Passed d text rest := by
  refine passed_of_plain ?_
  simpa [isForeign, Scan.symbol, hs] using h

/-- So is a word without quotes. -/
theorem passed_of_word {chars : List Char} {m : Nat} {text rest : List Char}
    (h : isForeign d (.token (.word (.bare chars)) m) text rest.head? = false) :
    Passed d text rest := by
  refine passed_of_plain ?_
  simpa [isForeign, Word.bare] using h

/-- A scan that finds some symbol. -/
def IsSymbol (s : Scan) : Prop :=
  ∃ symbol n, s = .symbol symbol n ∧ 1 ≤ n

theorem isSymbol (s : Symbol) (n : Nat) : IsSymbol (.symbol s (n + 1)) :=
  ⟨s, n + 1, rfl, Nat.succ_pos n⟩

/-- Scans that find symbols and look no further than a semicolon. -/
theorem Reads.of_symbols {front : List Char} {f : List Char → Scan} (hf : ∀ rest, IsSymbol (f rest))
    (hb : ∀ r v, f r = f (r ++ ';' :: v)) : Reads d front f where
  takes := by
    intro rest n h
    obtain ⟨s, m, hs, hm⟩ := hf rest
    rw [hs] at h
    cases h
    exact hm
  before := fun _ _ => hb _ _
  passed := by
    intro rest n h hforeign hsemi
    obtain ⟨s, m, hs, hm⟩ := hf rest
    rw [hs] at h hforeign hsemi
    exact passed_of_symbol hforeign fun he => hsemi m (by rw [he])

/-- A blank or a token of one harmless character. -/
theorem reads_harmless {c : Char} (hc : isHarmless c = true) {s : Scan}
    (hs : s.length = some 1) : Reads d [c] fun _ => s where
  takes := by
    intro _ n h
    cases hs.symm.trans h
    decide
  before := fun _ _ => rfl
  passed := by
    intro rest n h _ _
    cases hs.symm.trans h
    refine passed_of_plain (plain_of_harmless ?_ _)
    rw [List.singleton_append, List.take_succ_cons, List.take_zero, List.all_cons, hc]
    rfl

theorem reads_one (c : Char) (s : Symbol) : Reads d [c] fun _ => .symbol s 1 :=
  .of_symbols (fun _ => isSymbol s 0) fun _ _ => rfl

theorem reads_exclamation (c : Char) : Reads d [c] scanExclamation := by
  refine .of_symbols ?_ ?_
  · intro rest
    unfold scanExclamation
    split <;> exact isSymbol _ _
  · intro r v
    rw [scanExclamation.eq_def r]
    split
    · rfl
    · rfl
    · rfl
    · next r h =>
      cases r with
      | nil => rfl
      | cons b r => simp [scanExclamation, show b ≠ '*' from fun he => h r (by rw [he])]
    · rfl
    · next r _ h h' =>
      cases r with
      | nil => rfl
      | cons b r =>
        simp [scanExclamation, show b ≠ '~' from fun he => h r (by rw [he]),
          show b ≠ '*' from fun he => h' r (by rw [he])]
    · cases r with
      | nil => rfl
      | cons b r =>
        rw [List.cons_append, scanExclamation.eq_def]
        split <;> simp_all

theorem reads_less (c : Char) : Reads d [c] scanLess := by
  refine .of_symbols ?_ ?_
  · intro rest
    unfold scanLess
    split <;> exact isSymbol _ _
  · intro r v
    rw [scanLess.eq_def r]
    split
    · rfl
    · next r h =>
      cases r with
      | nil => rfl
      | cons b r => simp [scanLess, show b ≠ '>' from fun he => h r (by rw [he])]
    · rfl
    · rfl
    · rfl
    · cases r with
      | nil => rfl
      | cons b r =>
        rw [List.cons_append, scanLess.eq_def]
        split <;> simp_all

theorem reads_pipe (c : Char) : Reads d [c] scanPipe := by
  refine .of_symbols ?_ ?_
  · intro rest
    unfold scanPipe
    split <;> exact isSymbol _ _
  · intro r v
    rw [scanPipe.eq_def r]
    split
    · rfl
    · rfl
    · next r h =>
      cases r with
      | nil => rfl
      | cons b r => simp [scanPipe, show b ≠ '/' from fun he => h r (by rw [he])]
    · cases r with
      | nil => rfl
      | cons b r =>
        rw [List.cons_append, scanPipe.eq_def]
        split <;> simp_all

theorem reads_tilde (c : Char) : Reads d [c] scanTilde := by
  refine .of_symbols ?_ ?_
  · intro rest
    unfold scanTilde
    split <;> exact isSymbol _ _
  · intro r v
    rw [scanTilde.eq_def r]
    split
    · rfl
    · rfl
    · next r h =>
      cases r with
      | nil => rfl
      | cons b r => simp [scanTilde, show b ≠ '*' from fun he => h r (by rw [he])]
    · cases r with
      | nil => rfl
      | cons b r =>
        rw [List.cons_append, scanTilde.eq_def]
        split <;> simp_all

theorem reads_pair (c : Char) {second : Char} (hs : second ≠ ';') (long short : Symbol) :
    Reads d [c] (scanPair second long short) := by
  refine .of_symbols ?_ ?_
  · intro rest
    unfold scanPair
    split
    · split <;> exact isSymbol _ _
    · exact isSymbol _ _
  · intro r v
    cases r with
    | nil => exact (if_neg hs.symm).symm
    | cons b r => rfl

theorem reads_equals (c : Char) : Reads d [c] scanEquals := by
  refine .of_symbols ?_ ?_
  · intro rest
    unfold scanEquals
    split <;> exact isSymbol _ _
  · intro r v
    cases r with
    | nil => rfl
    | cons b r =>
      rw [List.cons_append, scanEquals.eq_def, scanEquals.eq_def]
      split <;> simp_all

theorem reads_greater (c : Char) : Reads d [c] scanGreater := by
  refine .of_symbols ?_ ?_
  · intro rest
    unfold scanGreater
    split <;> exact isSymbol _ _
  · intro r v
    cases r with
    | nil => rfl
    | cons b r =>
      rw [List.cons_append, scanGreater.eq_def, scanGreater.eq_def]
      split <;> simp_all

theorem reads_colon (c : Char) : Reads d [c] scanColon := by
  refine .of_symbols ?_ ?_
  · intro rest
    unfold scanColon
    split <;> exact isSymbol _ _
  · intro r v
    cases r with
    | nil => rfl
    | cons b r =>
      rw [List.cons_append, scanColon.eq_def, scanColon.eq_def]
      split <;> simp_all

/-! ### Words and signs -/

/-- Characters up to the first that fails a test are the same before a semicolon that fails it. -/
theorem takeWhile_before {p : Char → Bool} (hp : p ';' = false) (r v : List Char) :
    (r ++ ';' :: v).takeWhile p = r.takeWhile p := by
  induction r with
  | nil => rw [List.nil_append, List.takeWhile_cons_of_neg (by simp [hp]), List.takeWhile_nil]
  | cons c r ih =>
    rw [List.cons_append, List.takeWhile_cons, List.takeWhile_cons, ih]

theorem isWordPart_semicolon (d : Dialect) : d.isWordPart ';' = false := by
  cases d <;> rfl

theorem scanWord_before (first r v : List Char) :
    scanWord d first r = scanWord d first (r ++ ';' :: v) := by
  rw [scanWord, scanWord, takeWhile_before (isWordPart_semicolon d)]

theorem reads_word (c : Char) : Reads d [c] (scanWord d [c]) where
  takes := by
    intro rest n h
    cases h
    exact Nat.le_add_right _ _
  before := fun _ _ => scanWord_before _ _ _
  passed := fun _ hforeign _ => passed_of_word hforeign

/-- What a sign scans: a symbol, or a word that it begins. -/
theorem scanSign_cases (sign : Char) (written rest : List Char) (s : Symbol) :
    scanSign d sign written rest s = .symbol s written.length ∨
      ∃ c cs, rest = c :: cs ∧ scanSign d sign written rest s = scanWord d (written ++ [c]) cs := by
  unfold scanSign
  split
  · exact .inl rfl
  · next c cs _ =>
    split
    · exact .inr ⟨c, cs, rfl, rfl⟩
    · exact .inl rfl
  · exact .inl rfl

theorem scanSign_takes {sign : Char} {written rest : List Char} {s : Symbol} {n : Nat}
    (h : (scanSign d sign written rest s).length = some n) : written.length ≤ n := by
  rcases scanSign_cases sign written rest s with hs | ⟨c, cs, -, hs⟩
  · rw [hs] at h
    cases h
    exact Nat.le_refl _
  · rw [hs] at h
    cases h
    rw [List.length_append]
    omega

/-- A sign takes the character behind it, or looks at it only. -/
theorem scanSign_before {sign : Char} {written r v : List Char} {s : Symbol} {n : Nat}
    (h : (scanSign d sign written (r ++ ';' :: v) s).length = some n)
    (hn : n ≤ r.length + written.length) :
    scanSign d sign written r s = scanSign d sign written (r ++ ';' :: v) s := by
  cases r with
  | nil =>
    rcases scanSign_cases sign written ([] ++ ';' :: v) s with hs | ⟨c, cs, -, hs⟩
    · rw [hs]
      rfl
    · rw [hs] at h
      cases h
      -- a sign that takes the `;` is longer than the bound lets it be
      simp only [List.length_append, List.length_nil, List.length_singleton] at hn
      omega
  | cons c r =>
    rw [List.cons_append, scanSign.eq_def, scanSign.eq_def]
    split
    · next heq =>
      cases heq
      rfl
    · next hspace heq =>
      cases heq
      simp [scanWord_before _ r v]
    · next heq => cases heq

theorem scanSign_passed {sign : Char} {written rest text more : List Char} {s : Symbol}
    (hs : s ≠ .semicolon)
    (h : isForeign d (scanSign d sign written rest s) text more.head? = false) :
    Passed d text more := by
  rcases scanSign_cases sign written rest s with hsym | ⟨c, cs, -, hword⟩
  · rw [hsym] at h
    exact passed_of_symbol h hs
  · rw [hword] at h
    exact passed_of_word h

theorem reads_hash : Reads d ['#'] (scanHash d) where
  takes := by
    intro rest n h
    unfold scanHash at h
    split at h
    · cases h; decide
    · cases h; decide
    · cases h; decide
    · exact scanSign_takes h
  before := by
    intro r v n h hn
    rw [scanHash.eq_def d r]
    split
    · rfl
    · rfl
    · next r _ =>
      cases r with
      | nil => rfl
      | cons b r =>
        rw [List.cons_append, List.cons_append]
        unfold scanHash
        split <;> simp_all
    · next hdash hlong harrow =>
      -- no operator of these has a semicolon in it
      have hsign : scanHash d (r ++ ';' :: v) = scanSign d '#' ['#'] (r ++ ';' :: v) .sharp := by
        cases r with
        | nil => rfl
        | cons b r =>
          rw [List.cons_append, scanHash.eq_def]
          split <;> simp_all
      rw [hsign] at h ⊢
      exact scanSign_before h hn
  passed := by
    intro rest n h hforeign hsemi
    unfold scanHash at h hforeign hsemi
    split at hforeign
    · exact passed_of_symbol hforeign (by decide)
    · exact passed_of_symbol hforeign (by decide)
    · exact passed_of_symbol hforeign (by decide)
    · exact scanSign_passed (by decide) hforeign

theorem reads_at : Reads d ['@'] (scanAt d) where
  takes := by
    intro rest n h
    unfold scanAt at h
    split at h
    · cases h; decide
    · cases h; decide
    · exact Nat.le_trans (by decide) (scanSign_takes h)
    · exact scanSign_takes h
  before := by
    intro r v n h hn
    rw [scanAt.eq_def d r]
    split
    · rfl
    · rfl
    · exact scanSign_before h hn
    · next hmore hquestion hat =>
      -- no operator of these has a semicolon in it
      have hsign : scanAt d (r ++ ';' :: v) = scanSign d '@' ['@'] (r ++ ';' :: v) .at := by
        cases r with
        | nil => rfl
        | cons b r =>
          rw [List.cons_append, scanAt.eq_def]
          split <;> simp_all
      rw [hsign] at h ⊢
      exact scanSign_before h hn
  passed := by
    intro rest n h hforeign hsemi
    unfold scanAt at h hforeign hsemi
    split at hforeign
    · exact passed_of_symbol hforeign (by decide)
    · exact passed_of_symbol hforeign (by decide)
    · exact scanSign_passed (by decide) hforeign
    · exact scanSign_passed (by decide) hforeign

/-! ### Comments -/

/-- What is taken of a text is the front of it, and what is left is behind. -/
theorem passed_of_eq_append {text x v : List Char} {n : Nat} (h : text = x ++ v)
    (hn : n = x.length) (hp : Passed d x v) : Passed d (text.take n) (text.drop n) := by
  rw [h, hn, List.take_left, List.drop_left]
  exact hp

/-- A front of a text before a semicolon that is no longer than the text is a front of the text. -/
theorem eq_append_of_before {r v x w : List Char} (h : r ++ ';' :: v = x ++ w)
    (hx : x.length ≤ r.length) : ∃ r', r = x ++ r' ∧ w = r' ++ ';' :: v := by
  refine ⟨r.drop x.length, ?_, ?_⟩
  · have := congrArg (List.take x.length) h
    rw [List.take_append_of_le_length hx, List.take_left] at this
    calc r = r.take x.length ++ r.drop x.length := (List.take_append_drop ..).symm
      _ = x ++ r.drop x.length := by rw [this]
  · have := congrArg (List.drop x.length) h
    rw [List.drop_append_of_le_length hx, List.drop_left] at this
    exact this.symm

theorem scanComment_spec {body : List Char} {n : Nat} (h : (scanComment body).length = some n) :
    ∃ x v, body = x ++ v ∧ n = x.length + 2 ∧
      (∀ v', scanComment (x ++ v') =
        .blank (.comment (String.ofList ('/' :: '*' :: x))) (x.length + 2)) ∧
      (nests x = false → Passed d ('/' :: '*' :: x) v) := by
  unfold scanComment at h
  split at h
  · next length hlength =>
    cases h
    obtain ⟨x, v, rfl, rfl, -, hall, hpass⟩ := commentLength_spec (d := d) hlength
    refine ⟨x, v, rfl, Nat.add_comm _ _, ?_, ?_⟩
    · intro v'
      rw [scanComment, hall]
      simp [Nat.add_comm]
    · intro hnests seen
      -- the automaton does not know nested comments, so the text must have none
      have hnests' : nests (' ' :: x) = false := by
        cases x with
        | nil => rfl
        | cons a x => exact hnests
      rw [List.cons_append, List.cons_append, pass_blockOpener,
        hpass rfl hnests' (by simp), List.reverse_cons, List.reverse_cons]
      simp
  · cases h

theorem scanLineComment_before {r v : List Char} {n : Nat}
    (h : (scanLineComment (r ++ ';' :: v)).length = some n) (hn : n ≤ r.length + 2) :
    scanLineComment r = scanLineComment (r ++ ';' :: v) := by
  have hline : ((r ++ ';' :: v).takeWhile (· != '\n')).length + 1 ≤ r.length ∧
      (r ++ ';' :: v).takeWhile (· != '\n') = r.takeWhile (· != '\n') := by
    cases h
    simp only [List.length_cons, List.length_take, List.length_append] at hn
    -- if no newline stood before the `;`, then the comment would go beyond it
    induction r with
    | nil =>
      simp at hn
    | cons c r ih =>
      by_cases hc : c = '\n'
      · simp [hc]
      · rw [List.cons_append, List.takeWhile_cons_of_pos (by simpa using hc)] at hn ⊢
        rw [List.takeWhile_cons_of_pos (by simpa using hc)]
        simp only [List.length_cons] at hn ⊢
        obtain ⟨hlen, heq⟩ := ih (by omega)
        exact ⟨by omega, by rw [heq]⟩
  obtain ⟨hlen, heq⟩ := hline
  rw [heq] at hlen
  simp only [scanLineComment, heq, List.take_append_of_le_length hlen]

theorem scanLineComment_takes {body : List Char} {n : Nat}
    (h : (scanLineComment body).length = some n) : 2 ≤ n := by
  cases h
  simp

theorem scanLineComment_passed {body : List Char} {n : Nat}
    (h : (scanLineComment body).length = some n) :
    Passed d (('-' :: '-' :: body).take n) (('-' :: '-' :: body).drop n) := by
  cases h
  have hsplit : '-' :: '-' :: body =
      ('-' :: '-' :: body.take ((body.takeWhile (· != '\n')).length + 1)) ++
        body.drop ((body.takeWhile (· != '\n')).length + 1) := by
    rw [List.cons_append, List.cons_append, List.take_append_drop]
  refine passed_of_eq_append hsplit rfl ?_
  intro seen
  rw [← hsplit, pass_lineOpener, pass_lineComment, List.reverse_cons, List.reverse_cons]
  simp

theorem reads_minus : Reads d ['-'] scanMinus where
  takes := by
    intro rest n h
    unfold scanMinus at h
    split at h
    · exact Nat.le_trans (by decide) (scanLineComment_takes h)
    all_goals
      cases h
      decide
  before := by
    intro r v n h hn
    rw [scanMinus.eq_def r]
    split
    · exact scanLineComment_before h hn
    · rfl
    · next r _ =>
      cases r with
      | nil => rfl
      | cons b r =>
        rw [List.cons_append, List.cons_append]
        unfold scanMinus
        split <;> simp_all
    · cases r with
      | nil => rfl
      | cons b r =>
        rw [List.cons_append, scanMinus.eq_def]
        split <;> simp_all
  passed := by
    intro rest n h hforeign hsemi
    unfold scanMinus at h hforeign hsemi
    -- two dashes begin a comment, in which the automaton is in step; the others are symbols
    split at hforeign
    · exact scanLineComment_passed h
    all_goals exact passed_of_symbol hforeign (by decide)

theorem reads_slash : Reads d ['/'] (scanSlash d) where
  takes := by
    intro rest n h
    unfold scanSlash at h
    split at h
    · obtain ⟨x, v, -, rfl, -⟩ := scanComment_spec (d := d) h
      exact Nat.succ_pos _
    · split at h <;> cases h <;> decide
    · cases h
      decide
  before := by
    intro r v n h hn
    rw [scanSlash.eq_def d r]
    split
    · next r =>
      obtain ⟨x, w, hx, rfl, hall, -⟩ := scanComment_spec (d := d) h
      -- the comment ends before the `;`, so it is the same one without what follows
      obtain ⟨r', rfl, -⟩ := eq_append_of_before hx (by
        rw [List.length_cons, List.length_singleton] at hn
        omega)
      have hwhole : scanSlash d ('*' :: (x ++ r') ++ ';' :: v) = scanComment (x ++ w) :=
        congrArg scanComment hx
      rw [hwhole, hall, hall]
    · rfl
    · cases r with
      | nil => rfl
      | cons b r =>
        rw [List.cons_append, scanSlash.eq_def]
        split <;> simp_all
  passed := by
    intro rest n h hforeign hsemi
    unfold scanSlash at h hforeign hsemi
    split at hforeign
    · next body _ =>
      obtain ⟨x, v, rfl, rfl, hall, hpass⟩ := scanComment_spec (d := d) h
      have htext : ['/'] ++ '*' :: (x ++ v) = ('/' :: '*' :: x) ++ v := rfl
      rw [hall, htext, List.take_left' (by rfl)] at hforeign
      exact passed_of_eq_append htext rfl (hpass (by simpa [isForeign] using hforeign))
    · split at hforeign <;> exact passed_of_symbol hforeign (by decide)
    · exact passed_of_symbol hforeign (by decide)

end QueryAudit.Sql.Lexer
