import QueryAudit.Csv
import QueryAudit.Proofs.Spelling

/-!
# Where decoding fails

A byte completes a character, is one of its bytes before the last, or cannot stand where it does. So
decoding fails at the first byte of a character that is never completed: what is before it decodes,
and no longer front does. The place does not depend on what is behind the failure, as long as this
begins with a byte of ASCII, and it moves with the bytes that are decoded before.
-/

namespace QueryAudit.Utf8

open Csv (faultIndex)

/-! ### One byte -/

/-- How many bytes of a begun character were read. -/
def bytesBegun : Option Partial → Nat
  | none => 0
  | some p => p.taken

/-- Whether decoding may stand here: before a character, or behind at least one byte of it. -/
def Standing : Option Partial → Prop
  | none => True
  | some p => p.Sound ∧ 1 ≤ p.taken

theorem standing_none : Standing none := trivial

theorem taken_of_lead {b : UInt8} {p : Partial} (h : lead b = .pending p) : p.taken = 1 := by
  simp only [lead] at h
  repeat' split at h
  all_goals cases h
  all_goals rfl

theorem taken_of_next {p q : Partial} {b : UInt8} (h : p.next b = .pending q) :
    q.taken = p.taken + 1 := by
  simp only [Partial.next] at h
  repeat' split at h
  all_goals cases h
  rfl

/-- A byte completes a character, or is a further byte of one, or cannot stand there. -/
theorem decodeFrom_cases {begun : Option Partial} (hs : Standing begun) (b : UInt8) :
    (∃ c, ∀ done index rest, decodeFrom done index begun (b :: rest) =
      decodeFrom (c :: done) (index + bytesBegun begun + 1) none rest) ∨
    (∃ q, Standing (some q) ∧ q.taken = bytesBegun begun + 1 ∧
      ∀ done index rest, decodeFrom done index begun (b :: rest) =
        decodeFrom done index (some q) rest) ∨
    ∃ length, ∀ done index rest, decodeFrom done index begun (b :: rest) =
      .error (.invalid index length) := by
  -- the byte leads a character, or it goes on with the one that was begun
  cases begun with
  | none =>
    cases hl : lead b with
    | complete c =>
      refine .inl ⟨c, fun done index rest => ?_⟩
      rw [decodeFrom, hl]
      rfl
    | pending q =>
      have htaken := taken_of_lead hl
      have hsound := ((lead_sound b).2 q hl).2
      refine .inr (.inl ⟨q, ⟨hsound, by omega⟩, htaken, fun done index rest => ?_⟩)
      rw [decodeFrom, hl]
    | refused =>
      refine .inr (.inr ⟨1, fun done index rest => ?_⟩)
      rw [decodeFrom, hl]
  | some p =>
    cases hn : p.next b with
    | complete c =>
      refine .inl ⟨c, fun done index rest => ?_⟩
      rw [decodeFrom, hn]
      rfl
    | pending q =>
      have htaken := taken_of_next hn
      have hsound := ((p.next_sound hs.1 b).2 q hn).2
      refine .inr (.inl ⟨q, ⟨hsound, by omega⟩, htaken, fun done index rest => ?_⟩)
      rw [decodeFrom, hn]
    | refused =>
      refine .inr (.inr ⟨p.taken, fun done index rest => ?_⟩)
      rw [decodeFrom, hn]

/-- A byte of ASCII cannot stand within a character. -/
theorem decodeFrom_ascii {p : Partial} (hp : p.Sound) {b : UInt8} (hb : b.toNat < 0x80)
    (done : List Char) (index : Nat) (rest : List UInt8) :
    decodeFrom done index (some p) (b :: rest) = .error (.invalid index p.taken) := by
  have hsound := p.next_sound hp b
  rw [decodeFrom]
  cases hn : p.next b with
  | complete c =>
    have := (hsound.1 c hn).1
    omega
  | pending q =>
    have := (hsound.2 q hn).1
    omega
  | refused => rfl

/-! ### The place of a failure -/

section Place

variable {begun : Option Partial} {done : List Char} {index : Nat} {bytes : List UInt8}
  {fault : Fault}

/-- Decoding fails in what was not decoded before. -/
theorem faultIndex_bounds (hs : Standing begun)
    (h : decodeFrom done index begun bytes = .error fault) :
    index ≤ faultIndex fault ∧ faultIndex fault < index + bytesBegun begun + bytes.length := by
  induction bytes generalizing done index begun with
  | nil =>
    cases begun with
    | none => cases h
    | some p =>
      -- a character that the bytes break off is at fault where it began
      have htaken := hs.2
      cases h
      simp only [faultIndex, bytesBegun, List.length_nil]
      omega
  | cons b bs ih =>
    rw [List.length_cons]
    rcases decodeFrom_cases hs b with ⟨c, hb⟩ | ⟨q, hq, htaken, hb⟩ | ⟨length, hb⟩
    · rw [hb] at h
      have := ih standing_none h
      simp only [bytesBegun] at this ⊢
      omega
    · rw [hb] at h
      have := ih hq h
      simp only [bytesBegun, htaken] at this ⊢
      omega
    · rw [hb] at h
      cases h
      simp only [faultIndex]
      omega

/-- Decoding fails at the character that was begun, or behind it. -/
theorem faultIndex_cases (hs : Standing begun)
    (h : decodeFrom done index begun bytes = .error fault) :
    faultIndex fault = index ∨ index + bytesBegun begun < faultIndex fault := by
  induction bytes generalizing done index begun with
  | nil =>
    cases begun with
    | none => cases h
    | some p =>
      cases h
      exact .inl rfl
  | cons b bs ih =>
    rcases decodeFrom_cases hs b with ⟨c, hb⟩ | ⟨q, hq, htaken, hb⟩ | ⟨length, hb⟩
    · rw [hb] at h
      -- the character is complete, so the failure is behind it
      have := (faultIndex_bounds standing_none h).1
      exact .inr (by omega)
    · rw [hb] at h
      refine (ih hq h).imp_right fun hplace => ?_
      simp only [bytesBegun, htaken] at hplace ⊢
      omega
    · rw [hb] at h
      cases h
      exact .inl rfl

/-- Through the place of the failure nothing decodes, however much of it is there. -/
theorem decodeFrom_take_beyond (hs : Standing begun)
    (h : decodeFrom done index begun bytes = .error fault) {n : Nat}
    (hn : faultIndex fault < index + bytesBegun begun + n) (chars : List Char) :
    decodeFrom done index begun (bytes.take n) ≠ .ok chars := by
  induction bytes generalizing done index begun n with
  | nil =>
    rw [List.take_nil, h]
    simp
  | cons b bs ih =>
    cases n with
    | zero =>
      -- no byte of what follows is there, so the failure is in a character that was begun
      have hbound := (faultIndex_bounds hs h).1
      cases begun with
      | none =>
        simp only [bytesBegun] at hn
        omega
      | some p => simp [decodeFrom]
    | succ n =>
      rw [List.take_succ_cons]
      rcases decodeFrom_cases hs b with ⟨c, hb⟩ | ⟨q, hq, htaken, hb⟩ | ⟨length, hb⟩
      · rw [hb] at h ⊢
        exact ih standing_none h (by simp only [bytesBegun] at hn ⊢; omega)
      · rw [hb] at h ⊢
        exact ih hq h (by simp only [bytesBegun, htaken] at hn ⊢; omega)
      · rw [hb]
        simp

/-- What is before the place of the failure decodes. -/
theorem decodeFrom_take_before (hs : Standing begun)
    (h : decodeFrom done index begun bytes = .error fault) {n : Nat}
    (hn : faultIndex fault = index + bytesBegun begun + n) :
    ∃ chars, decodeFrom done index begun (bytes.take n) = .ok chars := by
  induction bytes generalizing done index begun n with
  | nil =>
    have := (faultIndex_bounds hs h).2
    rw [List.length_nil] at this
    omega
  | cons b bs ih =>
    -- a failure is never within the character at hand, but at its beginning or behind it
    have hcases := faultIndex_cases hs h
    cases n with
    | zero =>
      cases begun with
      | none => exact ⟨done.reverse, rfl⟩
      | some p =>
        have htaken := hs.2
        simp only [bytesBegun] at hn hcases
        omega
    | succ n =>
      rw [List.take_succ_cons]
      rcases decodeFrom_cases hs b with ⟨c, hb⟩ | ⟨q, hq, htaken, hb⟩ | ⟨length, hb⟩
      · rw [hb] at h ⊢
        exact ih standing_none h (by simp only [bytesBegun] at hn ⊢; omega)
      · rw [hb] at h ⊢
        exact ih hq h (by simp only [bytesBegun, htaken] at hn ⊢; omega)
      · rw [hb] at h
        cases h
        simp only [faultIndex] at hn
        omega

end Place

/-- The longest front of some bytes that decodes has this many of them. -/
structure ValidUpTo (bytes : List UInt8) (n : Nat) : Prop where
  lt_length : n < bytes.length
  before : ∃ chars, decode (bytes.take n) = .ok chars
  beyond : ∀ m, n < m → ∀ chars, decode (bytes.take m) ≠ .ok chars

/-- Decoding fails behind the longest front that decodes. -/
theorem validUpTo_of_error {bytes : List UInt8} {fault : Fault} (h : decode bytes = .error fault) :
    ValidUpTo bytes (faultIndex fault) where
  lt_length := by
    have := (faultIndex_bounds standing_none h).2
    simpa [bytesBegun] using this
  before := decodeFrom_take_before standing_none h (by simp [bytesBegun])
  beyond := by
    intro m hm
    exact decodeFrom_take_beyond standing_none h (by simpa [bytesBegun] using hm)

/-! ### Failures among other bytes -/

/-- What is behind a failure makes no difference to its place if it begins with a byte of ASCII. -/
theorem decodeFrom_error_ascii {begun : Option Partial} (hs : Standing begun) {b : UInt8}
    (hb : b.toNat < 0x80) {done : List Char} {index : Nat} {bytes : List UInt8} {fault : Fault}
    (h : decodeFrom done index begun bytes = .error fault) (more : List UInt8) :
    ∃ fault', decodeFrom done index begun (bytes ++ b :: more) = .error fault' ∧
      faultIndex fault' = faultIndex fault := by
  induction bytes generalizing done index begun with
  | nil =>
    cases begun with
    | none => cases h
    | some p =>
      cases h
      -- a byte of ASCII does not go on with the character, and so is not blamed
      exact ⟨_, decodeFrom_ascii hs.1 hb done index more, rfl⟩
  | cons a bs ih =>
    rw [List.cons_append]
    rcases decodeFrom_cases hs a with ⟨c, ha⟩ | ⟨q, hq, -, ha⟩ | ⟨length, ha⟩
    · rw [ha] at h ⊢
      exact ih standing_none h
    · rw [ha] at h ⊢
      exact ih hq h
    · rw [ha] at h ⊢
      cases h
      exact ⟨_, rfl, rfl⟩

/-- A failure moves with the bytes that are decoded before. -/
theorem decodeFrom_error_shift {begun : Option Partial} (hs : Standing begun) {done : List Char}
    {index : Nat} {bytes : List UInt8} {fault : Fault}
    (h : decodeFrom done index begun bytes = .error fault) (done' : List Char) (index' : Nat) :
    ∃ fault', decodeFrom done' index' begun bytes = .error fault' ∧
      faultIndex fault' + index = faultIndex fault + index' := by
  induction bytes generalizing done index begun done' index' with
  | nil =>
    cases begun with
    | none => cases h
    | some p =>
      cases h
      exact ⟨.incomplete index', rfl, Nat.add_comm index' index⟩
  | cons a bs ih =>
    rcases decodeFrom_cases hs a with ⟨c, ha⟩ | ⟨q, hq, -, ha⟩ | ⟨length, ha⟩
    · rw [ha] at h ⊢
      -- a character that is complete moves both indexes by its bytes
      obtain ⟨fault', hfault, hplace⟩ :=
        ih standing_none h (c :: done') (index' + bytesBegun begun + 1)
      exact ⟨fault', hfault, by omega⟩
    · rw [ha] at h ⊢
      exact ih hq h done' index'
    · rw [ha] at h ⊢
      cases h
      exact ⟨_, rfl, Nat.add_comm index' index⟩

end QueryAudit.Utf8
