import QueryAudit.Text.Utf8

/-!
# Encoded text

What a run writes are the bytes of a text, and they decode to this text.
-/

namespace QueryAudit.Utf8

/-! ### Bytes of an array -/

theorem toList_loop_eq (a : ByteArray) (i : Nat) (done : List UInt8) :
    ByteArray.toList.loop a i done = done.reverse ++ a.data.toList.drop i := by
  fun_induction ByteArray.toList.loop a i done with
  | case1 i done h ih =>
    have hi : i < a.data.toList.length := h
    have hget : a.get! i = a.data.toList[i] := getElem!_pos a.data i h
    rw [ih, hget, List.drop_eq_getElem_cons hi, List.reverse_cons, List.append_assoc]
    rfl
  | case2 i done h =>
    have hi : a.data.toList.length ≤ i := Nat.le_of_not_lt h
    rw [List.drop_eq_nil_of_le hi, List.append_nil]

/-- The bytes of a text are those of its characters. -/
theorem encode_eq (text : String) : encode text = text.toList.flatMap String.utf8EncodeChar := by
  rw [encode, String.toUTF8, ByteArray.toList, toList_loop_eq, ← String.utf8Encode_toList,
    List.utf8Encode, List.data_toByteArray]
  rfl

/-! ### Decoding -/

theorem toNat_ofNat_add (value base : Nat) (h : value + base < 256) :
    (UInt8.ofNat (value + base)).toNat = value + base := by
  rw [UInt8.toNat_ofNat']
  exact Nat.mod_eq_of_lt h

/-- A further byte between the bounds adds its six bits. -/
theorem Partial.next_ofNat {p : Partial} {value : Nat}
    (hbounds : p.low.toNat ≤ value + 128 ∧ value + 128 ≤ p.high.toNat) :
    p.next (UInt8.ofNat (value + 128)) =
      if p.owed = 1 then .complete (Char.ofNat (p.bits * 64 + value))
      else .pending ⟨p.owed - 1, 0x80, 0xBF, p.bits * 64 + value, p.taken + 1⟩ := by
  have hbyte : (UInt8.ofNat (value + 128)).toNat = value + 128 :=
    toNat_ofNat_add _ _ (Nat.lt_of_le_of_lt hbounds.2 p.high.toNat_lt)
  have hin : p.low ≤ UInt8.ofNat (value + 128) ∧ UInt8.ofNat (value + 128) ≤ p.high := by
    rw [UInt8.le_iff_toNat_le, UInt8.le_iff_toNat_le, hbyte]
    exact hbounds
  rw [next, if_pos hin, hbyte, Nat.add_sub_cancel]

/-- The bounds that hold of a further byte where the character is not a short one. -/
theorem any_bounds {value : Nat} (h : value < 64) :
    (0x80 : UInt8).toNat ≤ value + 128 ∧ value + 128 ≤ (0xBF : UInt8).toNat := by
  simp only [UInt8.reduceToNat]
  omega

section Steps

variable {done : List Char} {index value : Nat} {rest : List UInt8}

theorem decodeFrom_lead {b : UInt8} {p : Partial} (h : lead b = .pending p) :
    decodeFrom done index none (b :: rest) = decodeFrom done index (some p) rest := by
  rw [decodeFrom, h]

theorem decodeFrom_middle {p : Partial} (howed : p.owed ≠ 1)
    (hbounds : p.low.toNat ≤ value + 128 ∧ value + 128 ≤ p.high.toNat) :
    decodeFrom done index (some p) (UInt8.ofNat (value + 128) :: rest) =
      decodeFrom done index
        (some ⟨p.owed - 1, 0x80, 0xBF, p.bits * 64 + value, p.taken + 1⟩) rest := by
  rw [decodeFrom, p.next_ofNat hbounds, if_neg howed]

theorem decodeFrom_last {p : Partial} (howed : p.owed = 1)
    (hbounds : p.low.toNat ≤ value + 128 ∧ value + 128 ≤ p.high.toNat) :
    decodeFrom done index (some p) (UInt8.ofNat (value + 128) :: rest) =
      decodeFrom (Char.ofNat (p.bits * 64 + value) :: done) (index + p.taken + 1) none rest := by
  rw [decodeFrom, p.next_ofNat hbounds, if_pos howed]

end Steps

theorem lead_one {n : Nat} (h : n < 128) : lead (UInt8.ofNat n) = .complete (Char.ofNat n) := by
  have hbyte : (UInt8.ofNat n).toNat = n := toNat_ofNat_add n 0 (by omega)
  simp only [lead, UInt8.lt_iff_toNat_lt, UInt8.reduceToNat, hbyte, if_pos h]

theorem lead_two {value : Nat} (hleast : 2 ≤ value) (h : value < 32) :
    lead (UInt8.ofNat (value + 192)) = .pending ⟨1, 0x80, 0xBF, value, 1⟩ := by
  have hbyte := toNat_ofNat_add value 192 (by omega)
  simp only [lead, UInt8.lt_iff_toNat_lt, UInt8.reduceToNat, hbyte]
  rw [if_neg (by omega), if_neg (by omega), if_pos (by omega), Nat.add_sub_cancel]

theorem lead_three {value : Nat} (h : value < 16) :
    lead (UInt8.ofNat (value + 224)) =
      .pending ⟨2, if value = 0 then 0xA0 else 0x80, if value = 13 then 0x9F else 0xBF,
        value, 1⟩ := by
  have hbyte := toNat_ofNat_add value 224 (by omega)
  simp only [lead, UInt8.lt_iff_toNat_lt, ← UInt8.toNat_inj, UInt8.reduceToNat, hbyte]
  rw [if_neg (by omega), if_neg (by omega), if_neg (by omega), if_pos (by omega),
    Nat.add_sub_cancel]
  congr 3 <;> simp only [eq_iff_iff] <;> omega

theorem lead_four {value : Nat} (h : value < 5) :
    lead (UInt8.ofNat (value + 240)) =
      .pending ⟨3, if value = 0 then 0x90 else 0x80, if value = 4 then 0x8F else 0xBF,
        value, 1⟩ := by
  have hbyte := toNat_ofNat_add value 240 (by omega)
  simp only [lead, UInt8.lt_iff_toNat_lt, ← UInt8.toNat_inj, UInt8.reduceToNat, hbyte]
  rw [if_neg (by omega), if_neg (by omega), if_neg (by omega), if_neg (by omega),
    if_pos (by omega), Nat.add_sub_cancel]
  congr 3 <;> simp only [eq_iff_iff] <;> omega

/-- The bytes of a character decode to it. -/
theorem decodeFrom_encodeChar (c : Char) (done : List Char) (index : Nat) (rest : List UInt8) :
    decodeFrom done index none (String.utf8EncodeChar c ++ rest) =
      decodeFrom (c :: done) (index + (String.utf8EncodeChar c).length) none rest := by
  have hc : Char.ofNat c.toNat = c := Char.ofNat_toNat c
  have hvalid : c.toNat < 0xD800 ∨ 0xDFFF < c.toNat ∧ c.toNat < 0x110000 := c.valid
  rw [String.utf8EncodeChar]
  simp only [← Char.toNat.eq_1]
  generalize c.toNat = n at *
  -- one case for each number of bytes
  split
  · rw [List.singleton_append, decodeFrom, lead_one (by omega), hc]
    rfl
  split
  · have hbits : n / 64 % 32 * 64 + n % 64 = n := by omega
    rw [List.cons_append, List.cons_append, List.nil_append,
      decodeFrom_lead (lead_two (by omega) (by omega)),
      decodeFrom_last rfl (any_bounds (by omega)), hbits, hc]
    rfl
  split
  · have hbits : (n / 4096 % 16 * 64 + n / 64 % 64) * 64 + n % 64 = n := by omega
    -- no shorter form, and no surrogate
    have hsecond : (if n / 4096 % 16 = 0 then 0xA0 else 0x80 : UInt8).toNat ≤ n / 64 % 64 + 128 ∧
        n / 64 % 64 + 128 ≤ (if n / 4096 % 16 = 13 then 0x9F else 0xBF : UInt8).toNat := by
      constructor <;> split <;> simp only [UInt8.reduceToNat] <;> omega
    rw [List.cons_append, List.cons_append, List.cons_append, List.nil_append,
      decodeFrom_lead (lead_three (by omega)), decodeFrom_middle (by simp) hsecond,
      decodeFrom_last rfl (any_bounds (by omega)), hbits, hc]
    rfl
  · have hbits : ((n / 262144 % 8 * 64 + n / 4096 % 64) * 64 + n / 64 % 64) * 64 + n % 64 = n := by
      omega
    -- no shorter form, and nothing beyond the last character
    have hsecond : (if n / 262144 % 8 = 0 then 0x90 else 0x80 : UInt8).toNat ≤
          n / 4096 % 64 + 128 ∧
        n / 4096 % 64 + 128 ≤ (if n / 262144 % 8 = 4 then 0x8F else 0xBF : UInt8).toNat := by
      constructor <;> split <;> simp only [UInt8.reduceToNat] <;> omega
    rw [List.cons_append, List.cons_append, List.cons_append, List.cons_append, List.nil_append,
      decodeFrom_lead (lead_four (by omega)), decodeFrom_middle (by simp) hsecond,
      decodeFrom_middle (by simp) (any_bounds (by omega)),
      decodeFrom_last rfl (any_bounds (by omega)), hbits, hc]
    rfl

/-- The bytes of a text decode to it. -/
theorem decode_encode (text : String) : decode (encode text) = .ok text.toList := by
  have hchars (chars done : List Char) (index : Nat) :
      decodeFrom done index none (chars.flatMap String.utf8EncodeChar) =
        .ok (done.reverse ++ chars) := by
    induction chars generalizing done index with
    | nil => rw [List.flatMap_nil, decodeFrom, List.append_nil]
    | cons c chars ih =>
      rw [List.flatMap_cons, decodeFrom_encodeChar, ih, List.reverse_cons, List.append_assoc]
      rfl
  rw [encode_eq, decode, hchars]
  rfl

/-! ### Decoding with replacements -/

theorem decodeLossyFrom_of_decodeFrom {bytes : List UInt8} {done chars : List Char} {index : Nat}
    {p : Option Partial} (h : decodeFrom done index p bytes = .ok chars) :
    decodeLossyFrom done p bytes = chars := by
  induction bytes generalizing done index p with
  | nil =>
    cases p with
    | none => exact Except.ok.inj h
    | some p => cases h
  | cons b bs ih =>
    -- a byte that decoding refuses is the only one that both treat differently
    cases p with
    | none =>
      rw [decodeFrom] at h
      rw [decodeLossyFrom, lossyLead]
      cases hb : lead b <;> rw [hb] at h
      · exact ih h
      · exact ih h
      · cases h
    | some p =>
      rw [decodeFrom] at h
      rw [decodeLossyFrom]
      cases hb : p.next b <;> rw [hb] at h
      · exact ih h
      · exact ih h
      · cases h

/-- Where nothing is at fault nothing is replaced. -/
theorem decodeLossy_of_decode {bytes : List UInt8} {chars : List Char}
    (h : decode bytes = .ok chars) : decodeLossy bytes = String.ofList chars :=
  congrArg String.ofList (decodeLossyFrom_of_decodeFrom h)

/-- The bytes of a text decode to it, whether or not faults are replaced. -/
theorem decodeLossy_encode (text : String) : decodeLossy (encode text) = text := by
  rw [decodeLossy_of_decode (decode_encode text), String.ofList_toList]

end QueryAudit.Utf8
