import QueryAudit.Proofs.Passing
import QueryAudit.Proofs.Spelling

/-!
# Splitting bytes and splitting characters

The splitter sees bytes. Bytes beyond ASCII mean nothing to it, and UTF-8 spells the characters
beyond ASCII with such bytes only. So a text is cut in the same places whether its bytes are passed
or the characters that they spell.
-/

namespace QueryAudit

open Utf8

variable {d : Dialect} {o : Open}

/-! ### What is open -/

/-- Whether the quotes that are open, if there are any, are of ASCII. -/
def Open.IsAscii : Open → Prop
  | .quoted q => q.toNat < 0x80
  | .escaped q => q.toNat < 0x80
  | _ => True

/-- What is open behind something that means nothing to the splitter. -/
def Open.past : Open → Open
  | .escaped q => .quoted q
  | o => o

namespace Open

theorem past_past (o : Open) : o.past.past = o.past := by
  cases o <;> rfl

theorem IsAscii.past (h : o.IsAscii) : o.past.IsAscii := by
  cases o <;> exact h

theorem toNat_lt_of_isQuote {b : UInt8} (h : Mode.isQuote b = true) : b.toNat < 0x80 := by
  simp only [Mode.isQuote, Bool.or_eq_true, decide_eq_true_eq] at h
  rcases h with (rfl | rfl) | rfl <;> decide

/-- Only quotes of ASCII are ever opened. -/
theorem IsAscii.behind (h : o.IsAscii) (b : UInt8) (next : Option UInt8) :
    (o.behind d b next).1.IsAscii := by
  cases o with
  | code =>
    rw [Open.behind]
    split
    · next hquote => exact toNat_lt_of_isQuote hquote
    · split
      · trivial
      · split
        · trivial
        · split <;> trivial
  | quoted q =>
    rw [Open.behind]
    split
    · trivial
    · split <;> exact h
  | escaped q => exact h
  | lineComment =>
    rw [Open.behind]
    dsimp only
    split <;> trivial
  | blockComment =>
    rw [Open.behind]
    split <;> trivial

/-- A byte beyond ASCII opens and closes nothing. -/
theorem behind_beyond (h : o.IsAscii) {b : UInt8} (hb : 0x80 ≤ b.toNat) (next : Option UInt8) :
    o.behind d b next = (o.past, false) := by
  have hne {a : UInt8} (ha : a.toNat < 0x80) : b ≠ a := by
    rintro rfl
    omega
  -- every byte that opens or closes something is ASCII
  cases o with
  | code =>
    have hquote : ¬Mode.isQuote b = true := by
      intro hq
      have := toNat_lt_of_isQuote hq
      omega
    rw [Open.behind, if_neg hquote, if_neg fun h => hne (by decide) h.1,
      if_neg fun h => hne (by decide) h.1, if_neg fun h => hne (by decide) h.1]
    rfl
  | quoted q =>
    rw [Open.behind, if_neg (hne h), if_neg fun h => hne (by decide) h.1]
    rfl
  | escaped q => rfl
  | lineComment =>
    simp only [Open.behind, if_neg (hne (show newline.toNat < 0x80 by decide)), past]
  | blockComment =>
    rw [Open.behind, if_neg fun h => hne (by decide) h.1]
    rfl

/-- Of the byte behind it matters only which one of ASCII it is. -/
theorem behind_congr {next next' : Option UInt8}
    (h : ∀ a : UInt8, a.toNat < 0x80 → (next = some a ↔ next' = some a)) (b : UInt8) :
    o.behind d b next = o.behind d b next' := by
  have hdash := h 45 (by decide)
  have hstar := h 42 (by decide)
  have hslash := h 47 (by decide)
  cases o <;> simp only [Open.behind, hdash, hstar, hslash]

/-- The second byte of a marker is one of ASCII. -/
theorem second_of_marker {b : UInt8} {next : Option UInt8} (h : (o.behind d b next).2 = true) :
    ∃ a : UInt8, a.toNat < 0x80 ∧ next = some a := by
  rcases marker_cases h with ⟨-, hn⟩ | ⟨-, hn⟩ | ⟨-, hn⟩
  · exact ⟨45, by decide, hn⟩
  · exact ⟨42, by decide, hn⟩
  · exact ⟨47, by decide, hn⟩

end Open

/-! ### Bytes beyond ASCII -/

theorem ne_semicolon_of_beyond {b : UInt8} (hb : 0x80 ≤ b.toNat) : b ≠ Mode.semicolon := by
  rintro rfl
  exact absurd hb (by decide)

/-- A byte beyond ASCII is passed. -/
theorem pass_beyond_one {α : Type} {byte : α → UInt8} (ho : o.IsAscii) {x : α}
    (hx : 0x80 ≤ (byte x).toNat) (seen rest : List α) :
    pass byte d o seen (x :: rest) = pass byte d o.past (x :: seen) rest := by
  have hb := o.behind_beyond (d := d) ho hx (rest.head?.map byte)
  rw [pass_alone (fun h => ne_semicolon_of_beyond hx h.2) (by rw [hb]), hb]

/-- Bytes beyond ASCII are passed as one of them is. -/
theorem pass_beyond (ho : o.IsAscii) {bytes : List UInt8} (hne : bytes ≠ [])
    (h : ∀ b ∈ bytes, 0x80 ≤ b.toNat) (seen rest : List UInt8) :
    pass id d o seen (bytes ++ rest) = pass id d o.past (bytes.reverse ++ seen) rest := by
  induction bytes generalizing o seen with
  | nil => exact absurd rfl hne
  | cons b bytes ih =>
    rw [List.cons_append, pass_beyond_one ho (h b (.head bytes)), List.reverse_cons,
      List.append_assoc]
    cases bytes with
    | nil => rfl
    | cons b' bytes =>
      rw [ih ho.past (List.cons_ne_nil b' bytes) fun a ha => h a (.tail b ha), Open.past_past]
      rfl

/-! ### Bytes and the characters that they spell -/

/-- A byte of ASCII is the byte of the character that it spells. -/
theorem byteOf_ofNat {b : UInt8} (hb : b.toNat < 0x80) : byteOf (Char.ofNat b.toNat) = b := by
  have hc : (Char.ofNat b.toNat).toNat = b.toNat := toNat_ofNat_of_valid (.inl (by omega))
  rw [byteOf, hc, if_pos hb]
  exact UInt8.ofNat_toNat

theorem byteOf_beyond {c : Char} (hc : 0x80 ≤ c.toNat) : byteOf c = 0x80 := by
  rw [byteOf, if_neg (by omega)]

/-- Bytes begin with a byte of ASCII if the characters that they spell do. -/
theorem Utf8.Spells.head {bytes : List UInt8} {chars : List Char} (h : Spells bytes chars)
    (a : UInt8) (ha : a.toNat < 0x80) :
    bytes.head? = some a ↔ chars.head?.map byteOf = some a := by
  cases h with
  | nil => simp
  | @cons group more c cs hc hs =>
    -- a character is one byte of ASCII or several bytes beyond it
    rcases hc.form with ⟨b, rfl, hb, rfl⟩ | ⟨hne, hbeyond, hchar⟩
    · rw [List.singleton_append, List.head?_cons, List.head?_cons, Option.map_some,
        byteOf_ofNat hb]
    · obtain ⟨b, group, rfl⟩ := List.exists_cons_of_ne_nil hne
      have hb := hbeyond b (.head group)
      rw [List.cons_append, List.head?_cons, List.head?_cons, Option.map_some,
        byteOf_beyond hchar, Option.some.injEq, Option.some.injEq]
      constructor
      · rintro rfl
        omega
      · rintro rfl
        exact absurd ha (by decide)

/-- Bytes that begin with one of ASCII spell a character by it. -/
theorem Utf8.Spells.uncons {b : UInt8} {bytes : List UInt8} {c : Char} {cs : List Char}
    (h : Spells (b :: bytes) (c :: cs)) (hb : b.toNat < 0x80) :
    SpellsChar [b] c ∧ Spells bytes cs := by
  generalize hwhole : b :: bytes = whole at h
  cases h with
  | @cons group more c cs hc hs =>
    rcases hc.form with ⟨b', rfl, -, -⟩ | ⟨hne, hbeyond, -⟩
    · cases hwhole
      exact ⟨hc, hs⟩
    · obtain ⟨b', group, rfl⟩ := List.exists_cons_of_ne_nil hne
      cases hwhole
      have := hbeyond b (.head group)
      omega

theorem Utf8.Spells.snoc {bytes group : List UInt8} {chars : List Char} {c : Char}
    (h : Spells bytes.reverse chars.reverse) (hc : SpellsChar group c) :
    Spells (group.reverse ++ bytes).reverse (c :: chars).reverse := by
  rw [List.reverse_append, List.reverse_reverse, List.reverse_cons]
  refine h.append ?_
  have := Spells.cons hc .nil
  rwa [List.append_nil] at this

theorem isEmpty_reverse_eq {bytes : List UInt8} {chars : List Char}
    (h : Spells bytes.reverse chars.reverse) : bytes.isEmpty = chars.isEmpty := by
  have hiff := h.eq_nil_iff
  rw [List.reverse_eq_nil_iff, List.reverse_eq_nil_iff] at hiff
  rw [Bool.eq_iff_iff, List.isEmpty_iff, List.isEmpty_iff]
  exact hiff

/-- A text is cut in the same places whether its bytes are passed or its characters. -/
theorem decode_pass {bytes : List UInt8} {chars : List Char} (h : Spells bytes chars)
    (ho : o.IsAscii) {bseen : List UInt8} {cseen : List Char}
    (hseen : Spells bseen.reverse cseen.reverse) :
    (pass id d o bseen bytes).map decode = (pass byteOf d o cseen chars).map .ok := by
  -- a marker is taken at once, so the induction is on the length
  induction hn : chars.length using Nat.strongRecOn generalizing o bytes chars bseen cseen with
  | ind n ih =>
    subst hn
    cases h with
    | nil =>
      rw [pass, pass, isEmpty_reverse_eq hseen]
      split
      · rfl
      · rw [List.map_singleton, List.map_singleton, decode_eq_ok_iff.mpr hseen]
    | @cons group more c cs hc hs =>
      have hstep {o' : Open} (ho' : o'.IsAscii) :
          (pass id d o' (group.reverse ++ bseen) more).map decode =
            (pass byteOf d o' (c :: cseen) cs).map .ok :=
        ih cs.length (Nat.lt_succ_self _) hs ho' (hseen.snoc hc) rfl
      rcases hc.form with ⟨b, rfl, hb, rfl⟩ | ⟨hne, hbeyond, hchar⟩
      · have hbyte := byteOf_ofNat hb
        have hnext : o.behind d b more.head? = o.behind d b (cs.head?.map byteOf) :=
          Open.behind_congr hs.head b
        rw [List.singleton_append]
        by_cases hcut : o = .code ∧ b = Mode.semicolon
        · obtain ⟨rfl, rfl⟩ := hcut
          rw [pass_semicolon (b := Mode.semicolon) rfl, pass_semicolon hbyte, List.map_cons,
            List.map_cons, decode_eq_ok_iff.mpr hseen]
          have hrest : (pass id d .code [] more).map decode =
              (pass byteOf d .code [] cs).map .ok :=
            ih cs.length (Nat.lt_succ_self _) hs ho Spells.nil rfl
          rw [hrest]
        cases hm : (o.behind d b (cs.head?.map byteOf)).2 with
        | false =>
          rw [pass_alone hcut (by rw [Option.map_id, id, id, hnext, hm]),
            pass_alone (by rw [hbyte]; exact hcut) (by rw [hbyte, hm]), hbyte, Option.map_id, id,
            id, hnext]
          exact hstep (ho.behind b _)
        | true =>
          obtain ⟨a, ha, hfirst⟩ := Open.second_of_marker hm
          obtain ⟨c', hc', hbyte'⟩ := Option.map_eq_some_iff.mp hfirst
          obtain ⟨cs, rfl⟩ := List.head?_eq_some_iff.mp hc'
          obtain ⟨more, rfl⟩ := List.head?_eq_some_iff.mp ((hs.head a ha).mpr hfirst)
          obtain ⟨hsecond, hs⟩ := hs.uncons ha
          rw [hfirst] at hm
          rw [pass_marker hcut hm, pass_marker (by rw [hbyte]; exact hcut)
            (by rw [hbyte, hbyte', hm]), hbyte, hbyte']
          exact ih cs.length (by simp only [List.length_cons]; omega) hs (ho.behind b _)
            ((hseen.snoc hc).snoc hsecond) rfl
      · rw [pass_beyond ho hne hbeyond, pass_beyond_one ho (by rw [byteOf_beyond hchar]; decide)]
        exact hstep ho.past

/-- The statement texts of a text decode to those of its characters. -/
theorem decode_pieces {bytes : List UInt8} {chars : List Char} (h : decode bytes = .ok chars) :
    (pieces d bytes).map decode = (pass byteOf d .code [] chars).map .ok :=
  decode_pass (o := .code) (decode_eq_ok_iff.mp h) trivial Spells.nil

end QueryAudit
