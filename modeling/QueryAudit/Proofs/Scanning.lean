import QueryAudit.Proofs.Numbers

/-!
# All scans

What was said of the scans of symbols, of quoted texts and of numbers holds of every scan.
-/

namespace QueryAudit.Sql.Lexer

variable {d : Dialect}

/-- A placeholder is a mark and digits. -/
theorem reads_placeholder : Reads d ['?'] fun rest =>
    .token (.placeholder (String.ofList ('?' :: rest.takeWhile Letters.isNumeric)))
      ((rest.takeWhile Letters.isNumeric).length + 1) where
  takes := by
    intro rest n h
    cases h
    exact Nat.succ_pos _
  before := by
    intro r v n _ _
    rw [takeWhile_before rfl]
  passed := by
    intro rest n h _ _
    cases h
    exact passed_of_takeWhile rfl rfl rest

/-- A return is taken with a newline behind it. -/
theorem reads_return : Reads d ['\r'] fun rest =>
    .blank .newline (if rest.head? = some '\n' then 2 else 1) where
  takes := by
    intro rest n h
    cases h
    split <;> decide
  before := by
    intro r v n _ _
    cases r with
    | nil => rfl
    | cons c r => rfl
  passed := by
    intro rest n h _ _
    cases h
    refine passed_of_plain (plain_of_harmless ?_ _)
    split
    · next hnewline =>
      obtain ⟨rest, rfl⟩ := List.head?_eq_some_iff.mp hnewline
      -- a newline behind the return is the second character that is taken
      rw [List.singleton_append, List.take_succ_cons, List.take_succ_cons, List.take_zero]
      rfl
    · rw [List.singleton_append, List.take_succ_cons, List.take_zero]
      rfl

/-- Characters with rules of their own. -/
def ruled : List Char :=
  [' ', '\t', '\n', '\r', '\'', '.', '(', ')', ',', '-', '/', '+', '*', '%', '|', '=', '!', '<',
    '>', ':', ';', '\\', '[', ']', '&', '^', '\x7b', '\x7d', '~', '#', '@', '?']

theorem scan_of_notMem {c : Char} (hc : c ∉ ruled) (rest : List Char) :
    scan d c rest = if c.isDigit then scanNumber d (c :: rest) else scanOther d c rest := by
  unfold scan
  split
  all_goals first
    | exact absurd (by decide) hc
    | rfl

/-- A character without a rule and without a meaning is harmless. -/
theorem isHarmless_of_other {c : Char} (hc : c ∉ ruled) (hname : d.isNameQuote c = false)
    (hquote : c ≠ '"') : isHarmless c = true := by
  refine isHarmless_of_notMem ?_
  intro hmem
  simp only [harmful, List.mem_cons, List.not_mem_nil, or_false] at hmem
  rcases hmem with rfl | rfl | rfl | rfl | rfl | rfl | rfl
  · exact hc (by decide)
  · exact hquote rfl
  · cases d <;> cases hname
  all_goals exact hc (by decide)

theorem reads_other {c : Char} (hc : c ∉ ruled) : Reads d [c] (scanOther d c) := by
  -- the cases are those of the scanner, in the order in which it tries them
  by_cases hname : d.isNameQuote c = true
  · refine (reads_name hname).congr fun rest => ?_
    rw [scanOther, if_pos hname]
  by_cases hquote : c = '"'
  · subst hquote
    refine (reads_string (by decide) rfl [] rfl .double).congr fun rest => ?_
    rw [scanOther, if_neg hname, if_pos rfl]
    rfl
  by_cases hword : d.isWordStart c = true
  · refine (reads_introduced c).congr fun rest => ?_
    rw [scanOther, if_neg hname, if_neg hquote, if_pos hword]
  by_cases hdollar : c = '$'
  · subst hdollar
    refine reads_dollar.congr fun rest => ?_
    rw [scanOther, if_neg hname, if_neg hquote, if_neg hword, if_pos rfl]
  have hharmless : isHarmless c = true :=
    isHarmless_of_other hc (Bool.eq_false_iff.mpr hname) hquote
  by_cases hblank : Letters.isBlank c = true
  · refine (reads_harmless hharmless (s := .blank .space 1) rfl).congr fun rest => ?_
    rw [scanOther, if_neg hname, if_neg hquote, if_neg hword, if_neg hdollar, if_pos hblank]
  · refine (reads_harmless hharmless (s := .token (.stray c) 1) rfl).congr fun rest => ?_
    rw [scanOther, if_neg hname, if_neg hquote, if_neg hword, if_neg hdollar, if_neg hblank]

/-- What is said of scans holds of every scan. -/
theorem scan_reads (c : Char) : Reads d [c] (scan d c) := by
  by_cases hc : c ∈ ruled
  · simp only [ruled, List.mem_cons, List.not_mem_nil, or_false] at hc
    -- one case for each rule, in the order of the scan
    rcases hc with rfl | rfl | rfl | rfl | rfl | rfl | rfl | rfl | rfl | rfl | rfl | rfl | rfl |
      rfl | rfl | rfl | rfl | rfl | rfl | rfl | rfl | rfl | rfl | rfl | rfl | rfl | rfl | rfl |
      rfl | rfl | rfl | rfl
    · exact reads_harmless rfl rfl
    · exact reads_harmless rfl rfl
    · exact reads_harmless rfl rfl
    · exact reads_return
    · exact reads_string (by decide) rfl [] rfl .single
    · exact reads_number (.inr rfl)
    · exact reads_one '(' .lparen
    · exact reads_one ')' .rparen
    · exact reads_one ',' .comma
    · exact reads_minus
    · exact reads_slash
    · exact reads_one '+' .plus
    · exact reads_one '*' .mul
    · exact reads_one '%' .mod
    · exact reads_pipe '|'
    · exact reads_equals '='
    · exact reads_exclamation '!'
    · exact reads_less '<'
    · exact reads_greater '>'
    · exact reads_colon ':'
    · exact reads_one ';' .semicolon
    · exact reads_one '\\' .backslash
    · exact reads_one '[' .lbracket
    · exact reads_one ']' .rbracket
    · exact reads_pair '&' (by decide) .overlap .ampersand
    · exact reads_pair '^' (by decide) .caretAt .caret
    · exact reads_one '\x7b' .lbrace
    · exact reads_one '\x7d' .rbrace
    · exact reads_tilde '~'
    · exact reads_hash
    · exact reads_at
    · exact reads_placeholder
  · by_cases hdigit : c.isDigit = true
    · refine (reads_number (.inl hdigit)).congr fun rest => ?_
      rw [scan_of_notMem hc, if_pos hdigit]
    · refine (reads_other hc).congr fun rest => ?_
      rw [scan_of_notMem hc, if_neg hdigit]

/-! ### Semicolons -/

theorem scanNumber_ne_semicolon {text : List Char} {n : Nat} :
    scanNumber d text ≠ .symbol .semicolon n := by
  intro h
  rw [scanNumber_eq] at h
  dsimp only at h
  repeat' split at h
  all_goals cases h

theorem scanOther_ne_semicolon {c : Char} {rest : List Char} {n : Nat} :
    scanOther d c rest ≠ .symbol .semicolon n := by
  intro h
  unfold scanOther scanName scanIntroduced scanQuoted scanEscaped scanDollar scanTagged
    scanWord at h
  dsimp only at h
  repeat' split at h
  all_goals cases h

/-- Nothing but a semicolon scans as one. -/
theorem scan_semicolon {c : Char} {rest : List Char} {n : Nat}
    (h : scan d c rest = .symbol .semicolon n) : c = ';' ∧ n = 1 := by
  have hc : c = ';' := by
    by_cases hc : c ∈ ruled
    · simp only [ruled, List.mem_cons, List.not_mem_nil, or_false] at hc
      -- each character with a rule of its own begins another token, and only `;` is this one
      rcases hc with rfl | rfl | rfl | rfl | rfl | rfl | rfl | rfl | rfl | rfl | rfl | rfl | rfl |
        rfl | rfl | rfl | rfl | rfl | rfl | rfl | rfl | rfl | rfl | rfl | rfl | rfl | rfl | rfl |
        rfl | rfl | rfl | rfl
      all_goals first
        | rfl
        | simp only [scan, scanQuoted, scanMinus, scanLineComment, scanSlash, scanComment, scanPipe,
            scanEquals, scanExclamation, scanLess, scanGreater, scanColon, scanPair, scanTilde,
            scanHash, scanAt, scanSign, scanWord] at h
      all_goals first
        | exact absurd h scanNumber_ne_semicolon
        | (repeat' split at h) <;> cases h
    · rw [scan_of_notMem hc] at h
      split at h
      · exact absurd h scanNumber_ne_semicolon
      · exact absurd h scanOther_ne_semicolon
  subst hc
  cases h
  exact ⟨rfl, rfl⟩

end QueryAudit.Sql.Lexer
