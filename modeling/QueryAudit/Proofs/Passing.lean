import QueryAudit.Proofs.Escaping
import QueryAudit.Proofs.Splitting

/-!
# Passing over parts of a statement

A pass that is in code goes over some characters as a whole if it finds no semicolon in code among
them and is in code behind them. That is so for characters that mean nothing to it, and for the
quoted texts and comments of the lexer as far as the splitter reads them in the same way.
-/

namespace QueryAudit

open Sql

/-- The byte that a character is to the splitter. All characters beyond ASCII are the same to
    it. -/
def byteOf (c : Char) : UInt8 :=
  if c.toNat < 0x80 then UInt8.ofNat c.toNat else 0x80

theorem toNat_byteOf (c : Char) : (byteOf c).toNat = if c.toNat < 0x80 then c.toNat else 0x80 := by
  rw [byteOf]
  split
  · rw [UInt8.toNat_ofNat']
    omega
  · rfl

/-- A character of ASCII is known by its byte. -/
theorem byteOf_eq_iff (c a : Char) (ha : a.toNat < 0x80) :
    byteOf c = byteOf a ↔ c = a := by
  rw [← UInt8.toNat_inj, toNat_byteOf, toNat_byteOf, if_pos ha]
  constructor
  · intro h
    split at h
    · exact Char.toNat_inj.mp h
    · omega
  · rintro rfl
    rw [if_pos ha]

/-- Whether a character is one of the quotes of the splitter. -/
def isQuoteChar (c : Char) : Bool :=
  c = '\'' || c = '"' || c = '\x60'

theorem isQuote_byteOf (c : Char) : Mode.isQuote (byteOf c) = isQuoteChar c := by
  have hsingle : byteOf c = 39 ↔ c = '\'' := byteOf_eq_iff c '\'' (by decide)
  have hdouble : byteOf c = 34 ↔ c = '"' := byteOf_eq_iff c '"' (by decide)
  have hback : byteOf c = 96 ↔ c = '\x60' := byteOf_eq_iff c '\x60' (by decide)
  simp only [Mode.isQuote, isQuoteChar, hsingle, hdouble, hback]

theorem byteOf_eq_semicolon_iff (c : Char) : byteOf c = Mode.semicolon ↔ c = ';' :=
  byteOf_eq_iff c ';' (by decide)

/-- Whether two characters in a row open a comment. -/
def opensComment (c : Char) (next : Option Char) : Bool :=
  c = '-' && next = some '-' || c = '/' && next = some '*'

theorem map_byteOf_eq_some_iff (next : Option Char) (a : Char) (ha : a.toNat < 0x80) :
    next.map byteOf = some (byteOf a) ↔ next = some a := by
  cases next with
  | none => simp
  | some c => simp [byteOf_eq_iff c a ha]

/-! ### One character -/

variable {d : Dialect}

/-- What a character of code opens. -/
theorem behind_code (c : Char) (next : Option Char) :
    Open.behind d .code (byteOf c) (next.map byteOf) =
      if isQuoteChar c then (.quoted (byteOf c), false)
      else if c = '-' ∧ next = some '-' then (.lineComment, true)
      else if c = '#' ∧ d.hashComments then (.lineComment, false)
      else if c = '/' ∧ next = some '*' then (.blockComment, true)
      else (.code, false) := by
  have hdash : byteOf c = 45 ↔ c = '-' := byteOf_eq_iff c '-' (by decide)
  have hhash : byteOf c = 35 ↔ c = '#' := byteOf_eq_iff c '#' (by decide)
  have hslash : byteOf c = 47 ↔ c = '/' := byteOf_eq_iff c '/' (by decide)
  have hdash' : next.map byteOf = some 45 ↔ next = some '-' :=
    map_byteOf_eq_some_iff next '-' (by decide)
  have hstar' : next.map byteOf = some 42 ↔ next = some '*' :=
    map_byteOf_eq_some_iff next '*' (by decide)
  simp only [Open.behind, isQuote_byteOf, hdash, hhash, hslash, hdash', hstar']

theorem not_code_of_quoted {q : UInt8} {p : Prop} : ¬(Open.quoted q = .code ∧ p) :=
  fun h => Open.noConfusion h.1

/-- The quote that was opened closes a quoted text. -/
theorem pass_close (q : Char) (seen v : List Char) :
    pass byteOf d (.quoted (byteOf q)) seen (q :: v) = pass byteOf d .code (q :: seen) v := by
  have hb : Open.behind d (.quoted (byteOf q)) (byteOf q) (v.head?.map byteOf) =
      (.code, false) := by
    simp [Open.behind]
  rw [pass_alone not_code_of_quoted (by rw [hb]), hb]

/-- A quote in code opens a quoted text. -/
theorem pass_open {q : Char} (hq : isQuoteChar q = true) (seen v : List Char) :
    pass byteOf d .code seen (q :: v) = pass byteOf d (.quoted (byteOf q)) (q :: seen) v := by
  have hb : Open.behind d .code (byteOf q) (v.head?.map byteOf) =
      (.quoted (byteOf q), false) := by
    rw [behind_code, if_pos hq]
  have hs : ¬(Open.code = .code ∧ byteOf q = Mode.semicolon) := by
    rw [byteOf_eq_semicolon_iff]
    rintro ⟨-, rfl⟩
    simp [isQuoteChar] at hq
  rw [pass_alone hs (by rw [hb]), hb]

/-- Whether a backslash takes the next character with it within quotes of a kind. -/
def escapesIn (d : Dialect) (q : Char) : Bool :=
  d.backslashEscapes && q ≠ '\x60'

/-- Any other character leaves a quoted text open, and perhaps a backslash pending. -/
theorem pass_inside {q c : Char} (hq : q.toNat < 0x80) (hc : c ≠ q) (seen v : List Char) :
    pass byteOf d (.quoted (byteOf q)) seen (c :: v) =
      pass byteOf d (if escapesIn d q && c = '\\' then .escaped (byteOf q) else .quoted (byteOf q))
        (c :: seen) v := by
  have hne : byteOf c ≠ byteOf q := fun h => hc ((byteOf_eq_iff c q hq).mp h)
  have hslash : byteOf c = 92 ↔ c = '\\' := byteOf_eq_iff c '\\' (by decide)
  have hback : byteOf q = 96 ↔ q = '\x60' := byteOf_eq_iff q '\x60' (by decide)
  have hb : Open.behind d (.quoted (byteOf q)) (byteOf c) (v.head?.map byteOf) =
      (if escapesIn d q && c = '\\' then .escaped (byteOf q) else .quoted (byteOf q), false) := by
    simp only [Open.behind, if_neg hne, hslash, ne_eq, hback, escapesIn]
    by_cases h : c = '\\' <;> by_cases h' : d.backslashEscapes <;> by_cases h'' : q = '\x60' <;>
      simp [h, h', h'']
  rw [pass_alone not_code_of_quoted (by rw [hb]), hb]

/-- The character behind a backslash stays within the quotes, whatever it is. -/
theorem pass_escaped (q : UInt8) (c : Char) (seen v : List Char) :
    pass byteOf d (.escaped q) seen (c :: v) = pass byteOf d (.quoted q) (c :: seen) v :=
  pass_alone (fun h => Open.noConfusion h.1) rfl seen

/-! ### Passing as a whole -/

/-- Characters that a pass which is in code goes over as a whole, in front of others: it finds no
    end of a statement among them and is in code behind them. -/
def Passed (d : Dialect) (text rest : List Char) : Prop :=
  ∀ seen, pass byteOf d .code seen (text ++ rest) = pass byteOf d .code (text.reverse ++ seen) rest

theorem Passed.append {x y rest : List Char} (hx : Passed d x (y ++ rest)) (hy : Passed d y rest) :
    Passed d (x ++ y) rest := by
  intro seen
  rw [List.append_assoc, hx, hy, List.reverse_append, List.append_assoc]

/-- A semicolon is no part of a marker. -/
theorem Open.ne_semicolon_of_marker {o : Open} {b : UInt8} {next : Option UInt8}
    (h : (o.behind d b next).2 = true) : b ≠ Mode.semicolon ∧ next ≠ some Mode.semicolon := by
  rcases marker_cases h with ⟨rfl, rfl⟩ | ⟨rfl, rfl⟩ | ⟨rfl, rfl⟩ <;> decide

/-- Where something was passed before, the first statement text is this and what the text begins
    with. -/
theorem exists_front_of_pass {o : Open} {seen : List Char} (hseen : seen ≠ []) (text : List Char) :
    ∃ front more, pass byteOf d o seen text = (seen.reverse ++ front) :: more ∧
      front <+: text := by
  fun_induction pass byteOf d o seen text with
  | case1 o seen hempty => exact absurd (List.isEmpty_iff.mp hempty) hseen
  | case2 => exact ⟨[], [], by rw [List.append_nil], List.nil_prefix⟩
  | case3 => exact ⟨[], _, by rw [List.append_nil], List.nil_prefix⟩
  | case4 o seen b => exact ⟨[b], [], by rw [List.reverse_cons], List.prefix_rfl⟩
  -- a marker of two characters
  | case5 o seen b hs c cs hm ih =>
    obtain ⟨front, more, hpass, hfront⟩ := ih (List.cons_ne_nil _ _)
    refine ⟨b :: c :: front, more, ?_, ?_⟩
    · rw [hpass]
      simp
    · exact List.cons_prefix_cons.mpr ⟨rfl, List.cons_prefix_cons.mpr ⟨rfl, hfront⟩⟩
  -- a character by itself
  | case6 o seen b hs c cs hm ih =>
    obtain ⟨front, more, hpass, hfront⟩ := ih (List.cons_ne_nil _ _)
    refine ⟨b :: front, more, ?_, ?_⟩
    · rw [hpass]
      simp
    · exact List.cons_prefix_cons.mpr ⟨rfl, hfront⟩

/-- The first statement text begins with what was passed of it. -/
theorem exists_of_pass {o : Open} {seen text first : List Char} {more : List (List Char)}
    (h : pass byteOf d o seen text = first :: more) : ∃ w, first = seen.reverse ++ w := by
  cases seen with
  | nil => exact ⟨first, rfl⟩
  | cons c seen =>
    have hne : c :: seen ≠ [] := List.cons_ne_nil c seen
    obtain ⟨front, more', hpass, -⟩ := exists_front_of_pass hne text
    rw [h] at hpass
    exact ⟨front, (List.cons.inj hpass).1⟩

/-- A pass whose first statement text ends in front of a semicolon is in code there, whatever it
    passed before. -/
theorem pass_before {o : Open} {seen u v : List Char} {more : List (List Char)}
    (h : pass byteOf d o seen (u ++ ';' :: v) = (seen.reverse ++ u) :: more)
    (seen' : List Char) :
    pass byteOf d o seen' (u ++ ';' :: v) =
      pass byteOf d .code (u.reverse ++ seen') (';' :: v) := by
  induction hn : u.length using Nat.strongRecOn generalizing o seen seen' u with
  | ind n ih =>
    subst hn
    cases u with
    | nil =>
      by_cases ho : o = .code
      · rw [ho]
        rfl
      · have hm : (o.behind d (byteOf ';') (v.head?.map byteOf)).2 = false :=
          Bool.eq_false_iff.mpr fun hm => (Open.ne_semicolon_of_marker hm).1 rfl
        rw [List.nil_append, pass_alone (fun hs => ho hs.1) hm] at h
        obtain ⟨w, hw⟩ := exists_of_pass h
        simp at hw
    | cons b u =>
      by_cases hs : o = .code ∧ byteOf b = Mode.semicolon
      · rw [hs.1, List.cons_append, pass_semicolon hs.2] at h
        simp at h
      · by_cases hm : (o.behind d (byteOf b) ((u ++ ';' :: v).head?.map byteOf)).2 = true
        · cases u with
          | nil =>
            -- the marker would take the semicolon
            exact absurd rfl (Open.ne_semicolon_of_marker hm).2
          | cons c u =>
            rw [List.cons_append, List.cons_append, pass_marker hs hm] at h ⊢
            have hlen : u.length < (b :: c :: u).length := by
              rw [List.length_cons, List.length_cons]
              omega
            have hfirst : seen.reverse ++ b :: c :: u = (c :: b :: seen).reverse ++ u := by simp
            rw [hfirst] at h
            rw [ih u.length hlen h _ rfl]
            simp
        · rw [Bool.not_eq_true] at hm
          rw [List.cons_append, pass_alone hs hm] at h ⊢
          have hfirst : seen.reverse ++ b :: u = (b :: seen).reverse ++ u := by simp
          rw [hfirst] at h
          rw [ih u.length (Nat.lt_succ_self _) h _ rfl]
          simp

/-- What a pass finds in front of a semicolon as the first statement text is passed. -/
theorem passed_of_pass {u v : List Char} {more : List (List Char)}
    (h : pass byteOf d .code [] (u ++ ';' :: v) = u :: more) : Passed d u (';' :: v) :=
  pass_before h

/-- What is passed in front of a semicolon is the first statement text. -/
theorem Passed.pass_eq {u v : List Char} (h : Passed d u (';' :: v)) :
    pass byteOf d .code [] (u ++ ';' :: v) = u :: pass byteOf d .code [] v := by
  rw [h, pass_semicolon (b := ';') rfl, List.append_nil, List.reverse_reverse]

/-- What is passed through the end is the only statement text. -/
theorem Passed.pass_eq_singleton {u : List Char} (h : Passed d u []) (hu : u ≠ []) :
    pass byteOf d .code [] u = [u] := by
  have hall := h []
  rw [List.append_nil, List.append_nil] at hall
  rw [hall, pass, List.isEmpty_reverse, List.isEmpty_eq_false_iff.mpr hu, List.reverse_reverse]
  rfl

/-! ### Plain characters -/

/-- Whether a character by itself means nothing to the splitter. -/
def isQuiet (d : Dialect) (c : Char) : Bool :=
  !isQuoteChar c && c ≠ ';' && !(c = '#' && d.hashComments)

/-- Whether none of some characters opens or ends anything, given the character behind them. -/
def plain (d : Dialect) : List Char → Option Char → Bool
  | [], _ => true
  | c :: cs, next => isQuiet d c && !opensComment c (cs.head?.or next) && plain d cs next

theorem pass_quiet {c : Char} {v : List Char} (hc : isQuiet d c = true)
    (ho : opensComment c v.head? = false) (seen : List Char) :
    pass byteOf d .code seen (c :: v) = pass byteOf d .code (c :: seen) v := by
  simp only [isQuiet, Bool.and_eq_true, Bool.not_eq_true', decide_eq_true_eq, Bool.and_eq_false_iff,
    decide_eq_false_iff_not] at hc
  simp only [opensComment, Bool.or_eq_false_iff, Bool.and_eq_false_iff,
    decide_eq_false_iff_not] at ho
  obtain ⟨⟨hquote, hsemi⟩, hhash⟩ := hc
  have hb : Open.behind d .code (byteOf c) (v.head?.map byteOf) = (.code, false) := by
    rw [behind_code, if_neg (by simp [hquote]), if_neg fun h => ho.1.elim (· h.1) (· h.2),
      if_neg ?_, if_neg fun h => ho.2.elim (· h.1) (· h.2)]
    rintro ⟨rfl, hd⟩
    simp [hd] at hhash
  have hs : ¬(Open.code = .code ∧ byteOf c = Mode.semicolon) := by
    rw [byteOf_eq_semicolon_iff]
    exact fun h => hsemi h.2
  rw [pass_alone hs (by rw [hb]), hb]

theorem passed_of_plain {text rest : List Char} (h : plain d text rest.head? = true) :
    Passed d text rest := by
  induction text with
  | nil => exact fun seen => rfl
  | cons c cs ih =>
    simp only [plain, Bool.and_eq_true, Bool.not_eq_true'] at h
    obtain ⟨⟨hquiet, hopens⟩, hrest⟩ := h
    intro seen
    rw [List.cons_append, pass_quiet hquiet (by rwa [List.head?_append]), ih hrest]
    simp

/-! ### Harmless characters -/

/-- Whether a character means nothing to the splitter whatever stands behind it. -/
def isHarmless (c : Char) : Bool :=
  !isQuoteChar c && c ≠ ';' && c ≠ '#' && c ≠ '-' && c ≠ '/'

theorem plain_cons_of_harmless {c : Char} (hc : isHarmless c = true) (cs : List Char)
    (next : Option Char) : plain d (c :: cs) next = plain d cs next := by
  simp only [isHarmless, Bool.and_eq_true, Bool.not_eq_true', decide_eq_true_eq] at hc
  obtain ⟨⟨⟨⟨hquote, hsemi⟩, hhash⟩, hdash⟩, hslash⟩ := hc
  simp [plain, isQuiet, opensComment, hquote, hsemi, hhash, hdash, hslash]

theorem plain_append_of_harmless {x : List Char} (h : x.all isHarmless = true)
    (y : List Char) (next : Option Char) : plain d (x ++ y) next = plain d y next := by
  induction x with
  | nil => rfl
  | cons c x ih =>
    rw [List.all_cons, Bool.and_eq_true] at h
    rw [List.cons_append, plain_cons_of_harmless h.1]
    exact ih h.2

theorem plain_of_harmless {text : List Char} (h : text.all isHarmless = true)
    (next : Option Char) : plain d text next = true := by
  rw [← List.append_nil text, plain_append_of_harmless h, plain]

/-- The characters that are not harmless. -/
def harmful : List Char :=
  ['\'', '"', '\x60', ';', '#', '-', '/']

theorem isHarmless_of_notMem {c : Char} (h : c ∉ harmful) : isHarmless c = true := by
  simp only [harmful, List.mem_cons, not_or] at h
  simp [isHarmless, isQuoteChar, h]

/-- A test that no harmful character meets finds harmless ones. -/
theorem isHarmless_of_test {p : Char → Bool} (hp : harmful.any p = false) {c : Char}
    (hc : p c = true) : isHarmless c = true := by
  refine isHarmless_of_notMem ?_
  intro hmem
  rw [List.any_eq_false] at hp
  exact hp c hmem hc

theorem harmless_takeWhile {p : Char → Bool} (hp : harmful.any p = false) (text : List Char) :
    (text.takeWhile p).all isHarmless = true := by
  rw [List.all_eq_true]
  intro c hc
  have hall : (text.takeWhile p).all p = true := List.all_takeWhile
  exact isHarmless_of_test hp (List.all_eq_true.mp hall c hc)

/-! ### Quoted texts -/

/-- A search within quotes finds their end: it does so in front of anything that does not begin with
    another quote, and a pass within the quotes goes over what it takes and is in code behind it.
    `taken` characters were taken before. -/
def Closes (d : Dialect) (q : Char) (find : List Char → Option (List Char × Nat)) (taken : Nat)
    (cs : List Char) (found : List Char × Nat) : Prop :=
  ∃ x v, cs = x ++ v ∧ found.2 = taken + x.length ∧ v.head? ≠ some q ∧
    (∀ v', v'.head? ≠ some q → find (x ++ v') = some found) ∧
    ∀ seen, pass byteOf d (.quoted (byteOf q)) seen (x ++ v) =
      pass byteOf d .code (x.reverse ++ seen) v

namespace Closes

variable {q : Char} {find find' : List Char → Option (List Char × Nat)} {taken : Nat}
  {cs : List Char} {found : List Char × Nat}

theorem here (hfind : ∀ v, v.head? ≠ some q → find (q :: v) = some found)
    (hn : found.2 = taken + 1) (hv : cs.head? ≠ some q) : Closes d q find taken (q :: cs) found :=
  ⟨[q], cs, rfl, hn, hv, hfind, fun seen => pass_close q seen cs⟩

/-- The end is behind one more character. -/
theorem one {c : Char} (h : Closes d q find' (taken + 1) cs found)
    (hfind : ∀ v, find (c :: v) = find' v)
    (hpass : ∀ seen v, pass byteOf d (.quoted (byteOf q)) seen (c :: v) =
      pass byteOf d (.quoted (byteOf q)) (c :: seen) v) :
    Closes d q find taken (c :: cs) found := by
  obtain ⟨x, v, rfl, hn, hv, hall, hx⟩ := h
  refine ⟨c :: x, v, rfl, ?_, hv, ?_, ?_⟩
  · rw [hn, List.length_cons]
    omega
  · intro v' hv'
    rw [List.cons_append, hfind, hall v' hv']
  · intro seen
    rw [List.cons_append, hpass, hx, List.reverse_cons, List.append_assoc]
    rfl

/-- The end is behind two more characters that belong together. -/
theorem two {b c : Char} (h : Closes d q find' (taken + 2) cs found)
    (hfind : ∀ v, find (b :: c :: v) = find' v)
    (hpass : ∀ seen v, pass byteOf d (.quoted (byteOf q)) seen (b :: c :: v) =
      pass byteOf d (.quoted (byteOf q)) (c :: b :: seen) v) :
    Closes d q find taken (b :: c :: cs) found := by
  obtain ⟨x, v, rfl, hn, hv, hall, hx⟩ := h
  refine ⟨b :: c :: x, v, rfl, ?_, hv, ?_, ?_⟩
  · rw [hn, List.length_cons, List.length_cons]
    omega
  · intro v' hv'
    rw [List.cons_append, List.cons_append, hfind, hall v' hv']
  · intro seen
    rw [List.cons_append, List.cons_append, hpass, hx, List.reverse_cons, List.reverse_cons]
    simp

end Closes

/-- A doubled quote closes a quoted text and opens the next one. -/
theorem pass_doubled {q : Char} (hq : isQuoteChar q = true) (seen v : List Char) :
    pass byteOf d (.quoted (byteOf q)) seen (q :: q :: v) =
      pass byteOf d (.quoted (byteOf q)) (q :: q :: seen) v := by
  rw [pass_close, pass_open hq]

theorem toNat_lt_of_isQuoteChar {q : Char} (hq : isQuoteChar q = true) : q.toNat < 0x80 := by
  simp only [isQuoteChar, Bool.or_eq_true, decide_eq_true_eq] at hq
  rcases hq with (rfl | rfl) | rfl <;> decide

/-- A backslash takes the next character with it where the splitter lets it. -/
theorem pass_backslash {q : Char} (hq : isQuoteChar q = true) (he : escapesIn d q = true)
    (c : Char) (seen v : List Char) :
    pass byteOf d (.quoted (byteOf q)) seen ('\\' :: c :: v) =
      pass byteOf d (.quoted (byteOf q)) (c :: '\\' :: seen) v := by
  have hne : '\\' ≠ q := by
    rintro rfl
    cases hq
  rw [pass_inside (toNat_lt_of_isQuoteChar hq) hne, he]
  exact pass_escaped _ c _ v

/-- Any other character is by itself. -/
theorem pass_ordinary {q c : Char} (hq : isQuoteChar q = true) (hc : c ≠ q)
    (hn : ¬(escapesIn d q && c = '\\') = true) (seen v : List Char) :
    pass byteOf d (.quoted (byteOf q)) seen (c :: v) =
      pass byteOf d (.quoted (byteOf q)) (c :: seen) v := by
  rw [pass_inside (toNat_lt_of_isQuoteChar hq) hc, if_neg hn]

/-- Quotes around characters that mean nothing within them are passed. -/
theorem passed_quoted {q : Char} (hq : isQuoteChar q = true) {body : List Char}
    (h : body.all (fun c => c ≠ q && c ≠ '\\') = true) (rest : List Char) :
    Passed d (q :: (body ++ [q])) rest := by
  have hbody (seen v : List Char) : pass byteOf d (.quoted (byteOf q)) seen (body ++ v) =
      pass byteOf d (.quoted (byteOf q)) (body.reverse ++ seen) v := by
    induction body generalizing seen with
    | nil => rfl
    | cons c body ih =>
      simp only [List.all_cons, Bool.and_eq_true, decide_eq_true_eq] at h
      obtain ⟨⟨hc, hslash⟩, hrest⟩ := h
      rw [List.cons_append, pass_ordinary hq hc (by simp [hslash]), ih hrest]
      simp
  intro seen
  rw [List.cons_append, List.append_assoc, pass_open hq, hbody, List.singleton_append, pass_close]
  simp

/-- What is written as it has to be stays within the quotes. -/
theorem pass_written {q : Char} (hq : isQuoteChar q = true) (text seen v : List Char) :
    pass byteOf d (.quoted (byteOf q)) seen (written (escapesIn d q) q text ++ v) =
      pass byteOf d (.quoted (byteOf q)) ((written (escapesIn d q) q text).reverse ++ seen) v := by
  induction text generalizing seen with
  | nil => rfl
  | cons c text ih =>
    have hc (v : List Char) :
        pass byteOf d (.quoted (byteOf q)) seen (writtenChar (escapesIn d q) q c ++ v) =
          pass byteOf d (.quoted (byteOf q))
            ((writtenChar (escapesIn d q) q c).reverse ++ seen) v := by
      -- a mark, a backslash that escapes, or a character that is ordinary there
      by_cases hquote : c = q
      · subst hquote
        rw [writtenChar_quote]
        exact pass_doubled hq seen v
      by_cases hslash : (escapesIn d q && c = '\\') = true
      · obtain ⟨he, rfl⟩ : escapesIn d q = true ∧ c = '\\' := by simpa using hslash
        rw [writtenChar, if_neg hquote, if_pos hslash]
        exact pass_backslash hq he '\\' seen v
      · rw [writtenChar_plain hquote hslash]
        exact pass_ordinary hq hquote hslash seen v
    rw [written_cons, List.append_assoc, hc, ih, List.reverse_append, List.append_assoc]

theorem passed_written {q : Char} (hq : isQuoteChar q = true) (text rest : List Char) :
    Passed d (q :: (written (escapesIn d q) q text ++ [q])) rest := by
  intro seen
  rw [List.cons_append, List.append_assoc, pass_open hq, pass_written hq, List.singleton_append,
    pass_close]
  simp

/-- The lexer and the splitter find the end of a quoted text in the same place. -/
theorem closes_quotedBody {q : Char} (hq : isQuoteChar q = true) {done cs : List Char}
    {taken : Nat} {found : List Char × Nat}
    (h : Lexer.quotedBody (escapesIn d q) q done taken cs = some found) :
    Closes d q (Lexer.quotedBody (escapesIn d q) q done taken) taken cs found := by
  fun_induction Lexer.quotedBody (escapesIn d q) q done taken cs with
  | case1 => cases h
  -- a doubled mark closes and opens again for the splitter
  | case2 done taken ds ih =>
    refine (ih h).two ?_ (pass_doubled hq)
    intro v
    rw [Lexer.quotedBody, if_pos rfl]
    simp
  | case3 done taken e ds he =>
    cases h
    exact .here (fun v hv => Lexer.quotedBody_of_close hv) rfl (by simpa using he)
  | case4 done taken =>
    cases h
    exact .here (fun v hv => Lexer.quotedBody_of_close hv) rfl (by simp)
  -- a backslash and what it escapes
  | case5 done taken c hc hesc e ds ih =>
    obtain ⟨he, rfl⟩ : escapesIn d q = true ∧ c = '\\' := by simpa using hesc
    refine (ih h).two ?_ (pass_backslash hq he e)
    intro v
    rw [Lexer.quotedBody, if_neg hc, if_pos hesc]
  | case6 => cases h
  | case7 done taken c cs hc hesc ih =>
    refine (ih h).one ?_ (pass_ordinary hq hc hesc)
    intro v
    rw [Lexer.quotedBody.eq_def]
    simp only [if_neg hc, if_neg hesc]

/-- So they do with the end of a string with escapes, if the splitter knows of escapes. -/
theorem closes_escapedBody (hd : d.backslashEscapes = true) {done cs : List Char}
    {taken : Nat} {found : List Char × Nat} (h : Lexer.escapedBody done taken cs = some found) :
    Closes d '\'' (Lexer.escapedBody done taken) taken cs found := by
  have hq : isQuoteChar '\'' = true := rfl
  have he : escapesIn d '\'' = true := by simp [escapesIn, hd]
  fun_induction Lexer.escapedBody done taken cs with
  | case1 => cases h
  -- the cases are those of any quoted text, with all escapes known
  | case2 done taken ds ih =>
    refine (ih h).two ?_ (pass_doubled hq)
    intro v
    rw [Lexer.escapedBody, if_pos rfl]
    simp
  | case3 done taken e ds hne =>
    cases h
    exact .here (fun v hv => Lexer.escapedBody_of_close hv) rfl (by simpa using hne)
  | case4 done taken =>
    cases h
    exact .here (fun v hv => Lexer.escapedBody_of_close hv) rfl (by simp)
  | case5 done taken e ds hne ih =>
    refine (ih h).two ?_ (pass_backslash hq he e)
    intro v
    rw [Lexer.escapedBody, if_neg hne, if_pos rfl]
  | case6 => cases h
  | case7 done taken c cs hc hesc ih =>
    refine (ih h).one ?_ (pass_ordinary hq hc (by simp [hesc]))
    intro v
    rw [Lexer.escapedBody.eq_def]
    simp only [if_neg hc, if_neg hesc]

/-! ### Comments -/

theorem pass_lineOpener (seen v : List Char) :
    pass byteOf d .code seen ('-' :: '-' :: v) =
      pass byteOf d .lineComment ('-' :: '-' :: seen) v :=
  pass_marker (fun h => by cases h.2) rfl seen v

theorem pass_blockOpener (seen v : List Char) :
    pass byteOf d .code seen ('/' :: '*' :: v) =
      pass byteOf d .blockComment ('*' :: '/' :: seen) v :=
  pass_marker (fun h => by cases h.2) rfl seen v

/-- A pass goes over a comment through the end of its line. -/
theorem pass_lineComment (body seen : List Char) :
    pass byteOf d .lineComment seen body =
      pass byteOf d .code ((body.take ((body.takeWhile (· != '\n')).length + 1)).reverse ++ seen)
        (body.drop ((body.takeWhile (· != '\n')).length + 1)) := by
  induction body generalizing seen with
  | nil => rfl
  | cons c cs ih =>
    have hnewline : byteOf c = newline ↔ c = '\n' := byteOf_eq_iff c '\n' (by decide)
    have hb : Open.behind d .lineComment (byteOf c) (cs.head?.map byteOf) =
        (if c = '\n' then .code else .lineComment, false) := by
      simp only [Open.behind, hnewline]
    rw [pass_alone (fun h => Open.noConfusion h.1) (by rw [hb]), hb]
    by_cases hc : c = '\n'
    · simp [hc]
    · rw [if_neg hc, ih, List.takeWhile_cons_of_pos (by simpa using hc)]
      simp

/-- Whether a comment opens another one inside. -/
def nests : List Char → Bool
  | a :: b :: cs => a = '/' && b = '*' || nests (b :: cs)
  | _ => false

/-- The characters through the end of a comment: the end is found whatever follows, and if no other
    comment opens inside, a pass goes over them and is in code behind them. -/
theorem commentLength_spec {depth taken n : Nat} {last : Char} {cs : List Char}
    (h : Lexer.commentLength depth last taken cs = some n) :
    ∃ x v, cs = x ++ v ∧ n = taken + x.length ∧ 1 ≤ x.length ∧
      (∀ v', Lexer.commentLength depth last taken (x ++ v') = some n) ∧
      (depth = 1 → nests (last :: x) = false → ¬(last = '*' ∧ cs.head? = some '/') → ∀ seen,
        pass byteOf d .blockComment seen cs = pass byteOf d .code (x.reverse ++ seen) v) := by
  fun_induction Lexer.commentLength depth last taken cs with
  | case1 => cases h
  | case2 depth last taken c cs hopen ih =>
    obtain ⟨x, v, rfl, hn, -, hall, -⟩ := ih h
    refine ⟨c :: x, v, rfl, by rw [hn, List.length_cons]; omega, by simp, ?_, ?_⟩
    · intro v'
      rw [List.cons_append, Lexer.commentLength, if_pos hopen, hall]
    · -- only the lexer goes into a comment inside
      intro _ hnests
      simp [nests, hopen] at hnests
  | case3 last taken c cs hopen hclose =>
    cases h
    refine ⟨[c], cs, rfl, rfl, by simp, ?_, ?_⟩
    · intro v'
      rw [List.singleton_append, Lexer.commentLength, if_neg hopen, if_pos hclose, if_pos rfl]
    · -- its star was taken before
      intro _ _ hnot
      simp [hclose] at hnot
  | case4 depth last taken c cs hopen hclose hdepth ih =>
    obtain ⟨x, v, rfl, hn, -, hall, -⟩ := ih h
    refine ⟨c :: x, v, rfl, by rw [hn, List.length_cons]; omega, by simp, ?_, ?_⟩
    · intro v'
      rw [List.cons_append, Lexer.commentLength, if_neg hopen, if_pos hclose, if_neg hdepth, hall]
    · exact fun h1 => absurd h1 hdepth
  | case5 depth last taken c cs hopen hclose ih =>
    obtain ⟨x, v, rfl, hn, hx, hall, hpass⟩ := ih h
    refine ⟨c :: x, v, rfl, by rw [hn, List.length_cons]; omega, by simp, ?_, ?_⟩
    · intro v'
      rw [List.cons_append, Lexer.commentLength, if_neg hopen, if_neg hclose, hall]
    · rintro rfl hnests - seen
      rw [nests, Bool.or_eq_false_iff] at hnests
      by_cases hend : c = '*' ∧ (x ++ v).head? = some '/'
      · -- the pass takes both characters of the closer at once
        obtain ⟨rfl, hslash⟩ := hend
        obtain ⟨a, x, rfl⟩ := List.exists_cons_of_length_pos hx
        rw [List.cons_append, List.head?_cons, Option.some.injEq] at hslash
        subst hslash
        rw [List.cons_append, Lexer.commentLength, if_neg (by simp), if_pos ⟨rfl, rfl⟩, if_pos rfl,
          Option.some.injEq] at h
        have hnil : x = [] := List.eq_nil_of_length_eq_zero (by
          rw [List.length_cons] at hn
          omega)
        subst hnil
        exact pass_marker (fun h => Open.noConfusion h.1) rfl seen v
      · have hstar : byteOf c = 42 ↔ c = '*' := byteOf_eq_iff c '*' (by decide)
        have hslash : (x ++ v).head?.map byteOf = some 47 ↔ (x ++ v).head? = some '/' :=
          map_byteOf_eq_some_iff _ '/' (by decide)
        have hb : Open.behind d .blockComment (byteOf c) ((x ++ v).head?.map byteOf) =
            (.blockComment, false) := by
          simp only [Open.behind, hstar, hslash, if_neg hend]
        rw [pass_alone (fun h => Open.noConfusion h.1) (by rw [hb]), hb,
          hpass rfl hnests.2 hend, List.reverse_cons, List.append_assoc]
        rfl

end QueryAudit
