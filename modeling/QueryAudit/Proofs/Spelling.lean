import QueryAudit.Text.Utf8

/-!
# Bytes that spell characters

Decoding goes through bytes one at a time. What it accepts falls into groups, one for each
character: a byte of ASCII by itself, or bytes beyond ASCII only. Two texts in a row have the groups
of the one and then those of the other.
-/

namespace QueryAudit.Utf8

/-- Bytes that decoding takes for one character: a byte of ASCII, or bytes beyond ASCII for a
    character beyond ASCII. -/
structure SpellsChar (bytes : List UInt8) (c : Char) : Prop where
  decodes : ∀ done index rest, decodeFrom done index none (bytes ++ rest) =
    decodeFrom (c :: done) (index + bytes.length) none rest
  form : (∃ b : UInt8, bytes = [b] ∧ b.toNat < 0x80 ∧ c = Char.ofNat b.toNat) ∨
    bytes ≠ [] ∧ (∀ b ∈ bytes, 0x80 ≤ b.toNat) ∧ 0x80 ≤ c.toNat

/-- Bytes that spell characters, group by group. -/
inductive Spells : List UInt8 → List Char → Prop
  | nil : Spells [] []
  | cons {bytes more : List UInt8} {c : Char} {cs : List Char} (h : SpellsChar bytes c)
      (hs : Spells more cs) : Spells (bytes ++ more) (c :: cs)

theorem SpellsChar.ne_nil {bytes : List UInt8} {c : Char} (h : SpellsChar bytes c) :
    bytes ≠ [] := by
  rcases h.form with ⟨b, rfl, -⟩ | ⟨hne, -⟩
  · exact List.cons_ne_nil b []
  · exact hne

namespace Spells

variable {bytes more : List UInt8} {chars cs : List Char}

theorem append (h : Spells bytes chars) (hs : Spells more cs) :
    Spells (bytes ++ more) (chars ++ cs) := by
  induction h with
  | nil => exact hs
  | cons h _ ih =>
    rw [List.append_assoc]
    exact .cons h ih

theorem eq_nil_iff (h : Spells bytes chars) : bytes = [] ↔ chars = [] := by
  cases h with
  | nil => exact ⟨fun _ => rfl, fun _ => rfl⟩
  | cons hc hs =>
    constructor
    · intro he
      exact absurd (List.append_eq_nil_iff.mp he).1 hc.ne_nil
    · intro he
      cases he

/-- Bytes that spell characters are decoded, whatever is behind them. -/
theorem decodeFrom_append (h : Spells bytes chars) (done : List Char) (index : Nat)
    (rest : List UInt8) :
    decodeFrom done index none (bytes ++ rest) =
      decodeFrom (chars.reverse ++ done) (index + bytes.length) none rest := by
  induction h generalizing done index with
  | nil => rfl
  | cons hc _ ih =>
    rw [List.append_assoc, hc.decodes, ih, List.reverse_cons, List.append_assoc, List.length_append,
      Nat.add_assoc]
    rfl

/-- Bytes that spell characters are decoded to them. -/
theorem decodeFrom_eq (h : Spells bytes chars) (done : List Char) (index : Nat) :
    decodeFrom done index none bytes = .ok (done.reverse ++ chars) := by
  have hall := h.decodeFrom_append done index []
  rw [List.append_nil] at hall
  rw [hall, decodeFrom, List.reverse_append, List.reverse_reverse]

end Spells

/-! ### What decoding accepts -/

/-- How many values the bytes behind the next one may take. -/
def Partial.span (p : Partial) : Nat :=
  match p.owed with
  | 1 => 1
  | 2 => 64
  | _ => 64 * 64

/-- The least value of the characters that a begun one may become. -/
def Partial.least (p : Partial) : Nat :=
  (p.bits * 64 + (p.low.toNat - 0x80)) * p.span

/-- The greatest value of the characters that a begun one may become. -/
def Partial.greatest (p : Partial) : Nat :=
  (p.bits * 64 + (p.high.toNat - 0x80)) * p.span + (p.span - 1)

/-- A begun character that can only become one beyond ASCII, and no surrogate. -/
structure Partial.Sound (p : Partial) : Prop where
  owed : p.owed = 1 ∨ p.owed = 2 ∨ p.owed = 3
  low : 0x80 ≤ p.low.toNat
  beyond : 0x80 ≤ p.least
  valid : p.greatest < 0xD800 ∨ 0xE000 ≤ p.least ∧ p.greatest < 0x110000

theorem toNat_ofNat_of_valid {n : Nat} (h : n < 0xD800 ∨ 0xE000 ≤ n ∧ n < 0x110000) :
    (Char.ofNat n).toNat = n := by
  have hv : n.isValidChar := by
    rcases h with h | ⟨hlow, hhigh⟩
    · exact .inl h
    · exact .inr ⟨by omega, hhigh⟩
  rw [Char.ofNat, dif_pos hv]
  rfl

/-- The first byte of a character: it is one of ASCII, or begins one beyond ASCII. -/
theorem lead_sound (b : UInt8) :
    (∀ c, lead b = .complete c → b.toNat < 0x80 ∧ c = Char.ofNat b.toNat) ∧
      ∀ p, lead b = .pending p → 0x80 ≤ b.toNat ∧ p.Sound := by
  have hb := b.toNat_lt
  constructor
  · intro c h
    simp only [lead, UInt8.lt_iff_toNat_lt, UInt8.reduceToNat] at h
    split at h
    · next hlt =>
      cases h
      exact ⟨hlt, rfl⟩
    -- every other branch makes a partial character, or none
    all_goals (repeat' split at h) <;> cases h
  · intro p h
    simp only [lead, UInt8.lt_iff_toNat_lt, ← UInt8.toNat_inj, UInt8.reduceToNat] at h
    repeat' split at h
    all_goals cases h
    all_goals
      -- one goal for each length of a character, with the bits of its first byte in the bounds
      refine ⟨by omega, by simp, ?_, ?_, ?_⟩ <;>
        simp only [Partial.least, Partial.greatest, Partial.span] <;> simp <;> omega

/-- A further byte of a character. -/
theorem Partial.next_sound {p : Partial} (hp : p.Sound) (b : UInt8) :
    (∀ c, p.next b = .complete c → 0x80 ≤ b.toNat ∧ 0x80 ≤ c.toNat) ∧
      ∀ q, p.next b = .pending q → 0x80 ≤ b.toNat ∧ q.Sound := by
  have hlow := hp.low
  have hbeyond := hp.beyond
  have hvalid := hp.valid
  simp only [Partial.least, Partial.greatest, Partial.span] at hbeyond hvalid
  -- a byte between the bounds keeps the value between the least and the greatest
  constructor
  · intro c h
    simp only [next, UInt8.le_iff_toNat_le] at h
    repeat' split at h
    · next hin howed =>
      rw [Progress.complete.injEq] at h
      subst h
      rw [howed] at hbeyond hvalid
      simp only [Nat.sub_self, Nat.mul_one] at hbeyond hvalid
      refine ⟨by omega, ?_⟩
      rw [toNat_ofNat_of_valid (by omega)]
      omega
    all_goals cases h
  · intro q h
    simp only [next, UInt8.le_iff_toNat_le] at h
    repeat' split at h
    · cases h
    · next hin howed =>
      cases h
      rcases hp.owed with ho | ho | ho
      · exact absurd ho howed
      · rw [ho] at hbeyond hvalid
        simp only at hbeyond hvalid
        refine ⟨by omega, by simp [ho], by simp, ?_, ?_⟩ <;>
          simp only [Partial.least, Partial.greatest, Partial.span, ho] <;> simp <;> omega
      · rw [ho] at hbeyond hvalid
        simp only at hbeyond hvalid
        refine ⟨by omega, by simp [ho], by simp, ?_, ?_⟩ <;>
          simp only [Partial.least, Partial.greatest, Partial.span, ho] <;> simp <;> omega
    · cases h

/-- If decoding goes on within a character and succeeds, it completes the character first. -/
theorem Partial.completes {p : Partial} (hp : p.Sound) {done chars : List Char} {index : Nat}
    {bytes : List UInt8} (h : decodeFrom done index (some p) bytes = .ok chars) :
    ∃ front back c, bytes = front ++ back ∧ (∀ b ∈ front, 0x80 ≤ b.toNat) ∧ 0x80 ≤ c.toNat ∧
      (∀ done index rest, decodeFrom done index (some p) (front ++ rest) =
        decodeFrom (c :: done) (index + p.taken + front.length) none rest) ∧
      decodeFrom (c :: done) (index + p.taken + front.length) none back = .ok chars := by
  induction bytes generalizing p with
  | nil => cases h
  | cons b bs ih =>
    -- each byte belongs to the character, and one of them completes it
    rw [decodeFrom] at h
    have hsound := p.next_sound hp b
    cases hn : p.next b with
    | refused =>
      rw [hn] at h
      cases h
    | complete c =>
      rw [hn] at h
      obtain ⟨hb, hc⟩ := hsound.1 c hn
      refine ⟨[b], bs, c, rfl, ?_, hc, ?_, h⟩
      · intro x hx
        rwa [List.mem_singleton.mp hx]
      · intro done index rest
        rw [List.singleton_append, decodeFrom, hn]
        rfl
    | pending q =>
      rw [hn] at h
      obtain ⟨hb, hq⟩ := hsound.2 q hn
      have htaken : q.taken = p.taken + 1 := by
        simp only [next] at hn
        repeat' split at hn
        all_goals cases hn
        rfl
      obtain ⟨front, back, c, rfl, hfront, hc, hall, hrest⟩ := ih hq h
      rw [htaken] at hall hrest
      refine ⟨b :: front, back, c, rfl, ?_, hc, ?_, ?_⟩
      · intro x hx
        rcases List.mem_cons.mp hx with rfl | hx
        · exact hb
        · exact hfront x hx
      · intro done index rest
        rw [List.cons_append, decodeFrom, hn]
        dsimp only
        rw [hall, List.length_cons]
        congr 1
        omega
      · rw [List.length_cons, ← hrest]
        congr 1
        omega

/-- Bytes that are decoded spell what they are decoded to. -/
theorem spells_of_decodeFrom {done chars : List Char} {index : Nat} {bytes : List UInt8}
    (h : decodeFrom done index none bytes = .ok chars) :
    ∃ cs, chars = done.reverse ++ cs ∧ Spells bytes cs := by
  -- on the length, since a character may take several bytes
  induction hn : bytes.length using Nat.strongRecOn generalizing done index bytes with
  | ind n ih =>
    subst hn
    cases bytes with
    | nil =>
      cases h
      exact ⟨[], (List.append_nil _).symm, .nil⟩
    | cons b bs =>
      rw [decodeFrom] at h
      have hsound := lead_sound b
      cases hl : lead b with
      | refused =>
        rw [hl] at h
        cases h
      | complete c =>
        rw [hl] at h
        obtain ⟨cs, rfl, hs⟩ := ih bs.length (Nat.lt_succ_self _) h rfl
        have hchar : SpellsChar [b] c := by
          refine ⟨?_, .inl ⟨b, rfl, hsound.1 c hl⟩⟩
          intro done index rest
          rw [List.singleton_append, decodeFrom, hl]
          rfl
        exact ⟨c :: cs, by simp, .cons hchar hs⟩
      | pending p =>
        rw [hl] at h
        obtain ⟨hb, hp⟩ := hsound.2 p hl
        have htaken : p.taken = 1 := by
          simp only [lead] at hl
          repeat' split at hl
          all_goals cases hl
          all_goals rfl
        obtain ⟨front, back, c, rfl, hfront, hc, hall, hrest⟩ := Partial.completes hp h
        obtain ⟨cs, rfl, hs⟩ := ih back.length
          (by simp only [List.length_cons, List.length_append]; omega) hrest rfl
        have hchar : SpellsChar (b :: front) c := by
          refine ⟨?_, .inr ⟨List.cons_ne_nil _ _, ?_, hc⟩⟩
          · intro done index rest
            rw [List.cons_append, decodeFrom, hl]
            dsimp only
            rw [hall, htaken, List.length_cons]
            congr 1
            omega
          · intro x hx
            rcases List.mem_cons.mp hx with rfl | hx
            · exact hb
            · exact hfront x hx
        exact ⟨c :: cs, by simp, .cons hchar hs⟩

/-- Bytes decode to the characters that they spell, and to no others. -/
theorem decode_eq_ok_iff {bytes : List UInt8} {chars : List Char} :
    decode bytes = .ok chars ↔ Spells bytes chars := by
  constructor
  · intro h
    obtain ⟨cs, rfl, hs⟩ := spells_of_decodeFrom h
    exact hs
  · intro h
    exact h.decodeFrom_eq [] 0

end QueryAudit.Utf8
