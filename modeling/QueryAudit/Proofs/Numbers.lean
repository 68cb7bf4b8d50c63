import QueryAudit.Proofs.Quoting

/-!
# Scans of numbers

A number is made of digits, of a point and of an exponent, none of which means anything to the
splitter: the sign of an exponent is a minus, but a digit stands behind it.
-/

namespace QueryAudit.Sql.Lexer

variable {d : Dialect}

/-! ### Numbers -/

/-- The first character of a text if it meets a test. -/
theorem filter_take_before {p : Char → Bool} (hp : p ';' = false) (r v : List Char) :
    ((r ++ ';' :: v).take 1).filter p = (r.take 1).filter p := by
  cases r with
  | nil => simp [hp]
  | cons c r => rfl

theorem filter_take_isFront (p : Char → Bool) (r : List Char) : (r.take 1).filter p <+: r := by
  cases r with
  | nil => exact List.prefix_refl _
  | cons c r =>
    by_cases hc : p c = true
    · simp [hc]
    · simp [hc]

theorem harmless_digits {digits : List Char} (h : digits.all Char.isDigit = true) :
    digits.all isHarmless = true := by
  rw [List.all_eq_true] at h ⊢
  exact fun c hc => isHarmless_of_test rfl (h c hc)

/-- The digits at the front of a text, with a point among them. -/
def decimal (text : List Char) : List Char :=
  let whole := text.takeWhile Char.isDigit
  let rest := text.drop whole.length
  let point := rest.take 1 |>.filter (· = '.')
  whole ++ point ++ (rest.drop point.length).takeWhile Char.isDigit

/-- What is left behind a front of a text. -/
theorem drop_before {x r : List Char} (h : x <+: r) (v : List Char) :
    (r ++ v).drop x.length = r.drop x.length ++ v :=
  List.drop_append_of_le_length h.length_le

theorem decimal_before (r v : List Char) : decimal (r ++ ';' :: v) = decimal r := by
  simp only [decimal, takeWhile_before (p := Char.isDigit) rfl, drop_takeWhile_before,
    filter_take_before (p := (decide <| · = '.')) rfl, drop_before (filter_take_isFront _ _)]

theorem append_isFront_of_drop {x y r : List Char} (hx : x <+: r) (hy : y <+: r.drop x.length) :
    x ++ y <+: r := by
  obtain ⟨v, rfl⟩ := hx
  rw [List.drop_left] at hy
  exact (List.prefix_append_right_inj x).mpr hy

theorem decimal_isFront (text : List Char) : decimal text <+: text := by
  rw [decimal, List.append_assoc]
  refine append_isFront_of_drop (List.takeWhile_prefix _) ?_
  exact append_isFront_of_drop (filter_take_isFront _ _) (List.takeWhile_prefix _)

theorem harmless_decimal (text : List Char) : (decimal text).all isHarmless = true := by
  rw [decimal, List.all_append, List.all_append, harmless_takeWhile rfl, harmless_takeWhile rfl,
    Bool.true_and, Bool.and_true, List.all_eq_true]
  intro c hc
  rw [List.mem_filter, decide_eq_true_eq] at hc
  rw [hc.2]
  rfl

theorem decimal_ne_nil {c : Char} (hc : c.isDigit = true ∨ c = '.') (rest : List Char) :
    decimal (c :: rest) ≠ [] := by
  rcases hc with hc | rfl
  · simp [decimal, List.takeWhile_cons_of_pos hc]
  · simp [decimal]

/-! #### Exponents -/

theorem exponent_before (r v : List Char) : exponent (r ++ ';' :: v) = exponent r := by
  cases r with
  | nil => rfl
  | cons e r =>
    simp only [List.cons_append, exponent,
      filter_take_before (p := fun c => c = '+' || c = '-') rfl,
      drop_before (filter_take_isFront _ _), takeWhile_before (p := Char.isDigit) rfl]

theorem exponent_isFront (text : List Char) : (exponent text).1 <+: text := by
  cases text with
  | nil => exact List.prefix_refl _
  | cons e rest =>
    rw [exponent]
    split
    · dsimp only
      split
      · exact List.nil_prefix
      · rw [List.cons_append]
        refine List.cons_prefix_cons.mpr ⟨rfl, ?_⟩
        exact append_isFront_of_drop (filter_take_isFront _ _) (List.takeWhile_prefix _)
    · exact List.nil_prefix

/-- A minus before a digit opens no comment. -/
theorem plain_minus {digits z : List Char} (hne : digits ≠ [])
    (hd : digits.all Char.isDigit = true) (next : Option Char) :
    plain d ('-' :: digits ++ z) next = plain d z next := by
  obtain ⟨a, digits, rfl⟩ := List.exists_cons_of_ne_nil hne
  have ha : a ≠ '-' := by
    rintro rfl
    cases hd
  have hopens : opensComment '-' (some a) = false := by simp [opensComment, ha]
  have hquiet : isQuiet d '-' = true := by simp [isQuiet, isQuoteChar]
  rw [List.cons_append, plain, hquiet, List.cons_append, List.head?_cons, Option.some_or, hopens,
    ← List.cons_append, plain_append_of_harmless (harmless_digits hd)]
  rfl

/-- An exponent means nothing to the splitter. -/
theorem plain_exponent (text z : List Char) (next : Option Char) :
    plain d ((exponent text).1 ++ z) next = plain d z next := by
  cases text with
  | nil => rfl
  | cons e rest =>
    rw [exponent]
    by_cases he : (e = 'e' || e = 'E') = true
    · rw [if_pos he]
      dsimp only
      generalize hsign : (rest.take 1).filter (fun c => c = '+' || c = '-') = sign
      generalize hdigits : (rest.drop sign.length).takeWhile Char.isDigit = digits
      by_cases hempty : digits.isEmpty = true
      · rw [if_pos hempty, List.nil_append]
      · have hall : digits.all Char.isDigit = true := by
          rw [← hdigits]
          exact List.all_takeWhile
        have hne : digits ≠ [] := fun h => hempty (by rw [h]; rfl)
        have hdone := plain_append_of_harmless (d := d) (harmless_digits hall) z next
        rw [if_neg hempty, List.cons_append, List.cons_append, List.append_assoc,
          plain_cons_of_harmless (isHarmless_of_or rfl rfl he)]
        -- the sign is one character at most
        cases rest with
        | nil =>
          rw [← hsign]
          exact hdone
        | cons a rest =>
          rw [List.take_succ_cons, List.take_zero] at hsign
          by_cases hplus : a = '+'
          · subst hplus
            rw [← hsign]
            exact (plain_cons_of_harmless rfl _ _).trans hdone
          by_cases hminus : a = '-'
          · subst hminus
            rw [← hsign]
            exact plain_minus hne hall next
          · rw [← hsign, List.filter_cons_of_neg (by simp [hplus, hminus])]
            exact hdone
    · rw [if_neg he, List.nil_append]

/-! #### Scans of numbers -/

/-- The digits at the front of a text, with the exponent behind them. -/
def digitsOf (text : List Char) : List Char :=
  decimal text ++ (exponent (text.drop (decimal text).length)).1

theorem digitsOf_isFront (text : List Char) : digitsOf text <+: text :=
  append_isFront_of_drop (decimal_isFront text) (exponent_isFront _)

theorem digitsOf_before (r v : List Char) : digitsOf (r ++ ';' :: v) = digitsOf r := by
  rw [digitsOf, decimal_before, drop_before (decimal_isFront r), exponent_before, digitsOf]

theorem length_decimal_le (text : List Char) :
    (decimal text).length ≤ (digitsOf text).length := by
  rw [digitsOf, List.length_append]
  exact Nat.le_add_right _ _

theorem plain_digitsOf (text z : List Char) (next : Option Char) :
    plain d (digitsOf text ++ z) next = plain d z next := by
  rw [digitsOf, List.append_assoc, plain_append_of_harmless (harmless_decimal text),
    plain_exponent]

theorem scanNumber_eq (text : List Char) :
    scanNumber d text =
      let whole := text.takeWhile Char.isDigit
      let rest := text.drop whole.length
      if whole = ['0'] ∧ rest.head? = some 'x' then
        let digits := (rest.drop 1).takeWhile Letters.isHexDigit
        .token (.quoted .hex (String.ofList digits)) (2 + digits.length)
      else if decimal text = ['.'] then .symbol .period 1
      else
        let behind := text.drop (digitsOf text).length
        let powerLike := (exponent (text.drop (decimal text).length)).2
        let word := if d.digitsBeginWords && !powerLike then behind.takeWhile d.isWordPart else []
        if !word.isEmpty then
          .token (.word (Word.bare (digitsOf text ++ word)))
            ((digitsOf text).length + word.length)
        else if behind.head? = some 'L' then
          .token (.number (String.ofList (digitsOf text)) true) ((digitsOf text).length + 1)
        else .token (.number (String.ofList (digitsOf text)) false) (digitsOf text).length := by
  have hbehind : text.drop (digitsOf text).length =
      (text.drop (decimal text).length).drop
        (exponent (text.drop (decimal text).length)).1.length := by
    rw [digitsOf, List.length_append, List.drop_drop]
  simp only [hbehind]
  rfl

theorem scanNumber_before (r v : List Char) :
    scanNumber d r = scanNumber d (r ++ ';' :: v) := by
  have hhead (a : Char) (ha : a ≠ ';') (x : List Char) :
      (x ++ ';' :: v).head? = some a ↔ x.head? = some a := by
    cases x with
    | nil => simp [ha.symm]
    | cons c x => rfl
  rw [scanNumber_eq, scanNumber_eq]
  simp only [takeWhile_before (p := Char.isDigit) rfl, drop_takeWhile_before, decimal_before,
    drop_before (decimal_isFront r), exponent_before, digitsOf_before,
    drop_before (digitsOf_isFront r), takeWhile_before (isWordPart_semicolon d),
    hhead 'x' (by decide), hhead 'L' (by decide)]
  split
  · next hx =>
    -- the x is there, so the digits behind it are looked for in the text itself
    obtain ⟨rest, hrest⟩ := List.head?_eq_some_iff.mp hx.2
    rw [hrest]
    simp only [List.cons_append, List.drop_succ_cons, List.drop_zero,
      takeWhile_before (p := Letters.isHexDigit) rfl]
  · rfl

/-- A token of a front of a text that means nothing to the splitter, and that has the digits of the
    text. -/
def IsNumber (d : Dialect) (text : List Char) (s : Scan) : Prop :=
  ∃ t m x v, s = .token t m ∧ m = x.length ∧ text = x ++ v ∧ (decimal text).length ≤ m ∧
    ∀ next, plain d x next = true

/-- A zero and an x before digits. -/
theorem isNumber_hex {text : List Char} (hwhole : text.takeWhile Char.isDigit = ['0'])
    (hx : (text.drop (text.takeWhile Char.isDigit).length).head? = some 'x') (t : Token) :
    IsNumber d text (.token t (2 + (((text.drop (text.takeWhile Char.isDigit).length).drop
      1).takeWhile Letters.isHexDigit).length)) := by
  obtain ⟨more, hmore⟩ := List.head?_eq_some_iff.mp hx
  obtain ⟨htext, -⟩ := takeWhile_spec hmore
  rw [hwhole] at htext
  refine ⟨t, _, '0' :: 'x' :: more.takeWhile Letters.isHexDigit,
    more.dropWhile Letters.isHexDigit, rfl, ?_, ?_, ?_, ?_⟩
  · rw [hmore, List.drop_succ_cons, List.drop_zero, List.length_cons, List.length_cons,
      Nat.add_comm 2]
  · rw [List.cons_append, List.cons_append, List.takeWhile_append_dropWhile]
    exact htext
  · -- the zero alone is a decimal number, and the whole is longer
    have hone : decimal ('0' :: 'x' :: more) = ['0'] := by simp [decimal]
    rw [htext, List.singleton_append, hone, List.length_singleton]
    omega
  · intro next
    rw [plain_cons_of_harmless rfl, plain_cons_of_harmless rfl]
    exact plain_of_harmless (harmless_takeWhile rfl more) next

theorem isNumber_digits (text : List Char) (t : Token) :
    IsNumber d text (.token t (digitsOf text).length) := by
  obtain ⟨v, hv⟩ := digitsOf_isFront text
  refine ⟨t, _, digitsOf text, v, rfl, rfl, hv.symm, length_decimal_le text, ?_⟩
  intro next
  have := plain_digitsOf (d := d) text [] next
  rwa [List.append_nil, plain] at this

/-- A long number ends in a letter. -/
theorem isNumber_long {text : List Char}
    (h : (text.drop (digitsOf text).length).head? = some 'L') (t : Token) :
    IsNumber d text (.token t ((digitsOf text).length + 1)) := by
  obtain ⟨v, hv⟩ := List.head?_eq_some_iff.mp h
  refine ⟨t, _, digitsOf text ++ ['L'], v, rfl, ?_, ?_, ?_, ?_⟩
  · rw [List.length_append, List.length_singleton]
  · rw [List.append_assoc, List.singleton_append, ← hv]
    exact (List.prefix_iff_eq_append.mp (digitsOf_isFront text)).symm
  · exact Nat.le_succ_of_le (length_decimal_le text)
  · intro next
    rw [plain_digitsOf]
    exact plain_of_harmless rfl next

/-- Digits are a period, part of a word, or a number. -/
theorem scanNumber_cases (text : List Char) :
    scanNumber d text = .symbol .period 1 ∨
      (∃ word m, scanNumber d text = .token (.word (Word.bare word)) m ∧
        (decimal text).length ≤ m) ∨
      IsNumber d text (scanNumber d text) := by
  rw [scanNumber_eq]
  dsimp only
  split
  · next hx => exact .inr (.inr (isNumber_hex hx.1 hx.2 _))
  split
  · exact .inl rfl
  -- whether a word may begin with digits matters only for which case this is
  generalize (if (d.digitsBeginWords && !(exponent (text.drop (decimal text).length)).2) = true
    then (text.drop (digitsOf text).length).takeWhile d.isWordPart else []) = word
  split
  · exact .inr (.inl ⟨_, _, rfl, Nat.le_trans (length_decimal_le text) (Nat.le_add_right _ _)⟩)
  split
  · next hlong => exact .inr (.inr (isNumber_long hlong _))
  · exact .inr (.inr (isNumber_digits text _))

theorem reads_number {c : Char} (hc : c.isDigit = true ∨ c = '.') :
    Reads d [c] fun rest => scanNumber d (c :: rest) where
  takes := by
    intro rest n h
    -- a digit or a period is part of the decimal number
    have hpos : 1 ≤ (decimal (c :: rest)).length :=
      List.length_pos_iff.mpr (decimal_ne_nil hc rest)
    rcases scanNumber_cases (d := d) (c :: rest) with
      hs | ⟨word, m, hs, hm⟩ | ⟨t, m, x, v, hs, -, -, hm, -⟩
    all_goals
      rw [hs] at h
      cases h
      omega
  before := fun _ _ => scanNumber_before (c :: _) _
  passed := by
    intro rest n h hforeign hsemi
    rcases scanNumber_cases (d := d) (c :: rest) with
      hs | ⟨word, m, hs, -⟩ | ⟨t, m, x, v, hs, hm, hx, -, hp⟩
    · rw [hs] at hforeign
      exact passed_of_symbol hforeign (by decide)
    · rw [hs] at hforeign
      exact passed_of_word hforeign
    · rw [hs] at h
      cases h
      exact passed_of_eq_append hx hm (passed_of_plain (hp _))

end QueryAudit.Sql.Lexer
