import Mathlib.Algebra.GroupWithZero.Nat
import Mathlib.Data.List.Basic
import QueryAudit.Proofs.Auditing
import QueryAudit.Proofs.Encoding

/-!
# Lines of written text

What a run writes is read line by line, and a line ends with its newline. In the bytes of a text a
newline stands for a newline and for nothing else, so that the lines of a text are known from its
characters: a text with no newline in it is one line when a newline is put behind it, and any other
text is one line more for each newline.
-/

namespace QueryAudit

/-- Bytes cut after every newline. -/
def linesOf : List UInt8 → List (List UInt8)
  | [] => []
  | b :: bs =>
    if b = newline then [b] :: linesOf bs
    else
      match linesOf bs with
      | [] => [[b]]
      | line :: lines => (b :: line) :: lines

/-! ### Cutting -/

theorem linesOf_newline (bs : List UInt8) : linesOf (newline :: bs) = [newline] :: linesOf bs := by
  rw [linesOf, if_pos rfl]

theorem linesOf_cons {b : UInt8} (h : b ≠ newline) {bs line : List UInt8}
    {lines : List (List UInt8)} (hbs : linesOf bs = line :: lines) :
    linesOf (b :: bs) = (b :: line) :: lines := by
  rw [linesOf, if_neg h, hbs]

/-- There is a line if there is a byte. -/
theorem exists_linesOf {bs : List UInt8} (h : bs ≠ []) :
    ∃ line lines, linesOf bs = line :: lines := by
  cases bs with
  | nil => exact absurd rfl h
  | cons b bs =>
    rw [linesOf]
    split
    · exact ⟨_, _, rfl⟩
    · split
      · exact ⟨_, _, rfl⟩
      · exact ⟨_, _, rfl⟩

/-- The lines of bytes that end with a newline and of more bytes behind them. -/
theorem linesOf_append {bytes : List UInt8} (h : EndsLine bytes) (more : List UInt8) :
    linesOf (bytes ++ more) = linesOf bytes ++ linesOf more := by
  induction bytes with
  | nil => rfl
  | cons b bs ih =>
    by_cases hb : b = newline
    · subst hb
      rw [List.cons_append, linesOf_newline, linesOf_newline, ih h.tail, List.cons_append]
    · have hbs : bs ≠ [] := fun hnil => hb (h b (by rw [hnil]; rfl))
      obtain ⟨line, lines, hlines⟩ := exists_linesOf hbs
      have hmore := ih h.tail
      rw [hlines, List.cons_append] at hmore
      rw [List.cons_append, linesOf_cons hb hmore, linesOf_cons hb hlines, List.cons_append]

/-- A newline behind bytes that have none ends their line. -/
theorem linesOf_line {body : List UInt8} (h : newline ∉ body) :
    linesOf (body ++ [newline]) = [body ++ [newline]] := by
  induction body with
  | nil => rfl
  | cons b bs ih =>
    have hb : b ≠ newline := fun he => h (he ▸ List.mem_cons_self)
    exact linesOf_cons hb (ih fun hbs => h (List.mem_cons_of_mem b hbs))

/-- Bytes that end with a newline have as many lines as newlines. -/
theorem length_linesOf {bytes : List UInt8} (h : EndsLine bytes) :
    (linesOf bytes).length = bytes.count newline := by
  induction bytes with
  | nil => rfl
  | cons b bs ih =>
    by_cases hb : b = newline
    · subst hb
      rw [linesOf_newline, List.length_cons, ih h.tail, List.count_cons_self]
    · have hbs : bs ≠ [] := fun hnil => hb (h b (by rw [hnil]; rfl))
      obtain ⟨line, lines, hlines⟩ := exists_linesOf hbs
      have hlen := ih h.tail
      rw [hlines, List.length_cons] at hlen
      rw [linesOf_cons hb hlines, List.length_cons, hlen, List.count_cons_of_ne hb]

/-! ### Newlines of a text -/

/-- A byte of a character beyond ASCII is no newline. -/
theorem ofNat_ne_newline {value base : Nat} (hbase : 128 ≤ base) (h : value + base < 256) :
    UInt8.ofNat (value + base) ≠ newline := by
  intro he
  have hbyte := Utf8.toNat_ofNat_add value base h
  rw [he] at hbyte
  have hten : newline.toNat = 10 := rfl
  omega

/-- A newline is one byte, and no other character has this byte in it. -/
theorem count_newline_encodeChar (c : Char) :
    (String.utf8EncodeChar c).count newline = [c].count '\n' := by
  by_cases hc : c = '\n'
  · subst hc
    rfl
  · -- every byte of another character is another number below 128, or above
    have hten : c.toNat ≠ 10 := fun he => hc (by rw [← Char.ofNat_toNat c, he])
    have hvalid : c.toNat < 0x110000 := by
      have : c.toNat < 0xD800 ∨ 0xDFFF < c.toNat ∧ c.toNat < 0x110000 := c.valid
      omega
    rw [List.count_singleton, if_neg (by simpa using hc), List.count_eq_zero, String.utf8EncodeChar]
    simp only [← Char.toNat.eq_1]
    split
    · next h =>
      rw [List.mem_singleton]
      intro he
      have hbyte := Utf8.toNat_ofNat_add c.toNat 0 (by omega)
      rw [Nat.add_zero, ← he] at hbyte
      exact hten hbyte.symm
    split
    · simp only [List.mem_cons, List.not_mem_nil, or_false, not_or]
      exact ⟨(ofNat_ne_newline (by omega) (by omega)).symm,
        (ofNat_ne_newline (by omega) (by omega)).symm⟩
    split
    · simp only [List.mem_cons, List.not_mem_nil, or_false, not_or]
      exact ⟨(ofNat_ne_newline (by omega) (by omega)).symm,
        (ofNat_ne_newline (by omega) (by omega)).symm,
        (ofNat_ne_newline (by omega) (by omega)).symm⟩
    · simp only [List.mem_cons, List.not_mem_nil, or_false, not_or]
      exact ⟨(ofNat_ne_newline (by omega) (by omega)).symm,
        (ofNat_ne_newline (by omega) (by omega)).symm,
        (ofNat_ne_newline (by omega) (by omega)).symm,
        (ofNat_ne_newline (by omega) (by omega)).symm⟩

/-- The newlines in the bytes of a text are those of the text. -/
theorem count_newline_encode (text : String) :
    (Utf8.encode text).count newline = text.toList.count '\n' := by
  rw [Utf8.encode_eq]
  induction text.toList with
  | nil => rfl
  | cons c cs ih =>
    rw [List.flatMap_cons, List.count_append, count_newline_encodeChar, ih, ← List.count_append]
    rfl

/-- Texts with a newline in them. -/
def HasNewline (text : String) : Prop :=
  '\n' ∈ text.toList

theorem newline_mem_encode_iff (text : String) : newline ∈ Utf8.encode text ↔ HasNewline text := by
  rw [← List.count_pos_iff, count_newline_encode, List.count_pos_iff, HasNewline]

theorem newline_mem_toByteArray_iff (text : String) :
    newline ∈ text.toByteArray.data.toList ↔ HasNewline text := by
  have hbytes : text.toByteArray.data.toList = text.toList.flatMap String.utf8EncodeChar := by
    rw [← String.utf8Encode_toList, List.utf8Encode, List.data_toByteArray]
  rw [hbytes, ← Utf8.encode_eq, newline_mem_encode_iff]

/-- Whether there is a newline is looked up in the bytes, which are at hand. -/
instance (text : String) : Decidable (HasNewline text) :=
  decidable_of_iff _ (newline_mem_toByteArray_iff text)

theorem hasNewline_append_iff (s t : String) :
    HasNewline (s ++ t) ↔ HasNewline s ∨ HasNewline t := by
  rw [HasNewline, String.toList_append, List.mem_append]
  rfl

theorem hasNewline_ofList_iff (cs : List Char) : HasNewline (String.ofList cs) ↔ '\n' ∈ cs := by
  rw [HasNewline, String.toList_ofList]

/-- Texts with separators between them have the newlines of the texts, if the separator has none. -/
theorem hasNewline_intercalate_iff {separator : String} (h : ¬HasNewline separator)
    (texts : List String) :
    HasNewline (separator.intercalate texts) ↔ ∃ t ∈ texts, HasNewline t := by
  induction texts with
  | nil => simp [HasNewline]
  | cons t ts ih =>
    cases ts with
    | nil => simp
    | cons t' ts =>
      rw [String.intercalate_cons_cons, hasNewline_append_iff, hasNewline_append_iff, ih]
      simp [h]

/-! ### Lines of a text -/

theorem lineBytesOf_eq (text : String) : lineBytesOf text = Utf8.encode text ++ [newline] := by
  rw [lineBytesOf, Utf8.encode_eq, Utf8.encode_eq, String.toList_push, List.flatMap_append,
    List.flatMap_singleton]
  rfl

/-- The bytes of lines are those of their characters. -/
theorem flatMap_lineBytesOf (texts : List String) :
    texts.flatMap lineBytesOf =
      (texts.flatMap fun t => t.toList ++ ['\n']).flatMap String.utf8EncodeChar := by
  rw [List.flatMap_assoc]
  refine List.flatMap_congr fun t _ => ?_
  rw [lineBytesOf, Utf8.encode_eq, String.toList_push]

theorem lineBytesOf_ne_nil (text : String) : lineBytesOf text ≠ [] := by
  rw [lineBytesOf_eq]
  simp

theorem endsLine_lineBytesOf (text : String) : EndsLine (lineBytesOf text) := by
  intro b hb
  rw [lineBytesOf_eq, List.getLast?_concat] at hb
  exact (Option.some.inj hb).symm

/-- A line of text has a newline at its end, and those of the text. -/
theorem count_newline_lineBytesOf (text : String) :
    (lineBytesOf text).count newline = text.toList.count '\n' + 1 := by
  rw [lineBytesOf_eq, List.count_append, count_newline_encode]
  rfl

/-- A text is one line if and only if there is no newline in it. -/
theorem linesOf_lineBytesOf_iff (text : String) :
    linesOf (lineBytesOf text) = [lineBytesOf text] ↔ ¬HasNewline text := by
  constructor
  · intro h
    have hlen := length_linesOf (endsLine_lineBytesOf text)
    rw [h, count_newline_lineBytesOf, List.length_singleton] at hlen
    exact List.count_eq_zero.mp (by omega)
  · intro h
    rw [lineBytesOf_eq]
    exact linesOf_line fun hmem => h ((newline_mem_encode_iff text).mp hmem)

/-! ### Lines of several texts -/

section

variable {α : Type} (text : α → String)

theorem endsLine_lines (as : List α) : EndsLine (as.flatMap fun a => lineBytesOf (text a)) := by
  intro b hb
  rw [List.getLast?_flatMap] at hb
  obtain ⟨a, -, ha⟩ := List.exists_of_findSome?_eq_some hb
  exact endsLine_lineBytesOf (text a) b ha

/-- No line has bytes of two texts. -/
theorem linesOf_lines (as : List α) :
    linesOf (as.flatMap fun a => lineBytesOf (text a)) =
      as.flatMap fun a => linesOf (lineBytesOf (text a)) := by
  induction as with
  | nil => rfl
  | cons a as ih =>
    rw [List.flatMap_cons, linesOf_append (endsLine_lineBytesOf _), ih, List.flatMap_cons]

theorem count_newline_lines (as : List α) :
    (as.flatMap fun a => lineBytesOf (text a)).count newline =
      as.length + (as.map fun a => (text a).toList.count '\n').sum := by
  induction as with
  | nil => rfl
  | cons a as ih =>
    rw [List.flatMap_cons, List.count_append, count_newline_lineBytesOf, ih, List.length_cons,
      List.map_cons, List.sum_cons]
    omega

/-- There are as many newlines as texts if and only if no text has one. -/
theorem count_newline_lines_eq_iff (as : List α) :
    (as.flatMap fun a => lineBytesOf (text a)).count newline = as.length ↔
      ∀ a ∈ as, ¬HasNewline (text a) := by
  rw [count_newline_lines, Nat.add_eq_left, List.sum_eq_zero_iff_forall_eq_nat, List.forall_mem_map]
  exact forall₂_congr fun a _ => List.count_eq_zero

/-- Each line is one of the texts if and only if no text has a newline. -/
theorem linesOf_lines_eq_iff (as : List α) :
    linesOf (as.flatMap fun a => lineBytesOf (text a)) = as.map (fun a => lineBytesOf (text a)) ↔
      ∀ a ∈ as, ¬HasNewline (text a) := by
  constructor
  · intro h
    have hlen := length_linesOf (endsLine_lines text as)
    rw [h, List.length_map] at hlen
    exact (count_newline_lines_eq_iff text as).mp hlen.symm
  · intro h
    have hone : ∀ a ∈ as, linesOf (lineBytesOf (text a)) = [lineBytesOf (text a)] :=
      fun a ha => (linesOf_lineBytesOf_iff _).mpr (h a ha)
    rw [linesOf_lines, List.flatMap_congr hone, List.map_eq_flatMap]

end

end QueryAudit
