/-!
# Texts with marked columns

A text is words with columns between them. Where the columns are is not seen in the text itself, so
it is written with each column marked. The marks tell the place of each column, and they are the
same whatever the columns are. If there are words between any two columns, each column ends before
the next one begins.
-/

namespace QueryAudit

/-- A part of a text. -/
inductive Mark where
  | words (text : String)
  | column (text : String)
  deriving DecidableEq

abbrev Marked := List Mark

namespace Marked

def words (text : String) : Marked :=
  [.words text]

def column (text : String) : Marked :=
  [.column text]

def text : Marked → String
  | [] => ""
  | .words w :: m => w ++ text m
  | .column c :: m => c ++ text m

def columns : Marked → List String
  | [] => []
  | .words _ :: m => columns m
  | .column c :: m => c :: columns m

/-- The text with its columns blotted out. -/
def blanked : Marked → Marked
  | [] => []
  | .words w :: m => .words w :: blanked m
  | .column _ :: m => .column "" :: blanked m

@[simp] theorem text_append (m n : Marked) : text (m ++ n) = text m ++ text n := by
  induction m with
  | nil => simp [text]
  | cons p m ih => cases p <;> simp [text, ih, String.append_assoc]

@[simp] theorem columns_append (m n : Marked) : columns (m ++ n) = columns m ++ columns n := by
  induction m with
  | nil => rfl
  | cons p m ih => cases p <;> simp [columns, ih]

@[simp] theorem blanked_append (m n : Marked) : blanked (m ++ n) = blanked m ++ blanked n := by
  induction m with
  | nil => rfl
  | cons p m ih => cases p <;> simp [blanked, ih]

@[simp] theorem columns_words (w : String) : columns (words w) = [] := rfl

@[simp] theorem columns_column (c : String) : columns (column c) = [c] := rfl

/-! ### Columns that do not touch -/

/-- There are words between any two columns. `behind` says whether a column stands directly before
    the text, and `ends` whether one may stand at its end. -/
def Spaced (behind : Bool) : Marked → Bool → Prop
  | [], ends => behind = true → ends = true
  | .words w :: m, ends => Spaced (if w = "" then behind else false) m ends
  | .column _ :: m, ends => behind = false ∧ Spaced true m ends

namespace Spaced

variable {a b c : Bool} {m n : Marked} {w : String}

theorem of_behind (h : Spaced true m b) : Spaced a m b := by
  induction m generalizing a with
  | nil => exact fun _ => h rfl
  | cons p m ih =>
    cases p with
    | column c => exact nomatch h.1
    | words w =>
      rw [Spaced] at h ⊢
      by_cases hw : w = ""
      · rw [if_pos hw] at h ⊢
        exact ih h
      · rw [if_neg hw] at h ⊢
        exact h

theorem append (h : Spaced a m b) (hn : Spaced b n c) : Spaced a (m ++ n) c := by
  induction m generalizing a with
  | nil =>
    cases a with
    | true => exact (h rfl) ▸ hn
    | false =>
      cases b with
      | true => exact hn.of_behind
      | false => exact hn
  | cons p m ih =>
    cases p with
    | words w => exact ih h
    | column c => exact ⟨h.1, ih h.2⟩

theorem words_of_ne (hw : w ≠ "") : Spaced a (Marked.words w) b := by
  rw [Marked.words, Spaced, if_neg hw]
  exact fun h => absurd h Bool.false_ne_true

theorem words (h : a = true → b = true) : Spaced a (Marked.words w) b := by
  rw [Marked.words, Spaced]
  split
  · exact h
  · exact fun h => absurd h Bool.false_ne_true

end Spaced

/-! ### Texts put together -/

/-- Marked texts with words between them. -/
def joined (separator : String) : List Marked → Marked
  | [] => []
  | [m] => m
  | m :: n :: ms => m ++ words separator ++ joined separator (n :: ms)

/-- Marked texts with commas between them. -/
def commas (items : List Marked) : Marked :=
  joined ", " items

/-- Words and then marked texts with commas between them, if there are any. -/
def clause (before : String) : List Marked → Marked
  | [] => []
  | items => words before ++ commas items

/-- The order of the rows of a group, if there is one. -/
def groupClause : List Marked → Marked
  | [] => []
  | items => words " WITHIN GROUP (ORDER BY " ++ commas items ++ words ")"

/-- Conditions and results of a choice in turn. -/
def branches : List Marked → List Marked → Marked
  | c :: cs, r :: rs => words " WHEN " ++ c ++ words " THEN " ++ r ++ branches cs rs
  | _, _ => []

/-- A list in parentheses, which a single item may do without. -/
def group (always : Bool) : List Marked → Marked
  | [item] => if always then words "(" ++ item ++ words ")" else item
  | items => words "(" ++ commas items ++ words ")"

/-- Words, unless there are none. -/
def wordsOrNone (text : String) : Marked :=
  if text = "" then [] else words text

/-- Marked texts with blanks between them; those that are missing are left out. -/
def blanks (items : List Marked) : Marked :=
  joined " " (items.filter (· ≠ []))

/-! ### Marks of a text -/

/-- The marks of a text: without them it is the text, and with its columns blotted out it is
    `blank`. -/
structure Shows (behind : Bool) (m blank : Marked) (s : String) (ends : Bool) : Prop where
  text_eq : text m = s
  blanked_eq : blanked m = blank
  spaced : Spaced behind m ends

/-- The marks of several texts. -/
inductive ShowsEach : List Marked → List Marked → List String → Prop
  | nil : ShowsEach [] [] []
  | cons {m n : Marked} {s : String} {ms ns : List Marked} {ss : List String}
      (h : Shows false m n s true) (hs : ShowsEach ms ns ss) :
      ShowsEach (m :: ms) (n :: ns) (s :: ss)

namespace Shows

variable {a b c : Bool} {m n m' n' : Marked} {s t w : String}

theorem nothing : Shows a [] [] "" a :=
  ⟨rfl, rfl, id⟩

theorem words (w : String) : Shows a (words w) (Marked.words w) w a :=
  ⟨String.append_empty, rfl, .words id⟩

/-- Words alone, with or without a column behind them. -/
theorem leaf (w : String) : Shows false (Marked.words w) (Marked.words w) w b :=
  ⟨String.append_empty, rfl, .words fun h => absurd h Bool.false_ne_true⟩

theorem column (c : String) : Shows false (column c) (Marked.column "") c true :=
  ⟨String.append_empty, rfl, rfl, id⟩

theorem append (h : Shows a m n s b) (h' : Shows b m' n' t c) :
    Shows a (m ++ m') (n ++ n') (s ++ t) c :=
  ⟨by rw [text_append, h.text_eq, h'.text_eq],
    by rw [blanked_append, h.blanked_eq, h'.blanked_eq], h.spaced.append h'.spaced⟩

theorem before (hw : w ≠ "") (h : Shows false m n s b) :
    Shows a (Marked.words w ++ m) (Marked.words w ++ n) (w ++ s) b :=
  append ⟨String.append_empty, rfl, .words_of_ne hw⟩ h

/-- Words behind a text. -/
theorem behind (h : Shows a m n s true) (hw : w ≠ "") :
    Shows a (m ++ Marked.words w) (n ++ Marked.words w) (s ++ w) c :=
  append h ⟨String.append_empty, rfl, .words_of_ne hw⟩

/-- Words behind a text that may be none. -/
theorem worded (h : Shows a m n s b) (w : String) :
    Shows a (m ++ Marked.words w) (n ++ Marked.words w) (s ++ w) b :=
  append h (words w)

theorem of_behind (h : Shows true m n s b) : Shows a m n s b :=
  ⟨h.text_eq, h.blanked_eq, h.spaced.of_behind⟩

end Shows

theorem ShowsEach.joined {ms ns : List Marked} {ss : List String} (h : ShowsEach ms ns ss)
    {separator : String} (hs : separator ≠ "") :
    Shows false (joined separator ms) (Marked.joined separator ns) (separator.intercalate ss)
      true := by
  induction h with
  | nil => exact Shows.nothing.of_behind
  | @cons m n s _ _ _ h hs' ih =>
    cases hs' with
    | nil =>
      rw [String.intercalate_singleton]
      exact h
    | cons =>
      rw [String.intercalate_cons_cons]
      exact h.behind hs |>.append ih

end Marked

/-! ### Places of columns -/

/-- Words, and then columns with words behind each of them. -/
def woven (before : String) : List String → List String → String
  | c :: cs, gap :: gaps => before ++ c ++ woven gap cs gaps
  | _, _ => before

/-- How many characters come before one of the columns. -/
def placeOf (before : String) (cs gaps : List String) (i : Nat) : Nat :=
  (woven before (cs.take i) gaps).length

/-- A text stands at a place of another one. -/
def StandsAt (c : String) (place : Nat) (text : String) : Prop :=
  ∃ front back, text = front ++ c ++ back ∧ front.length = place

theorem placeOf_succ (before c gap : String) (cs gaps : List String) (i : Nat) :
    placeOf before (c :: cs) (gap :: gaps) (i + 1) =
      before.length + c.length + placeOf gap cs gaps i := by
  simp only [placeOf, List.take_succ_cons, woven, String.length_append]

theorem length_le_placeOf (before : String) (cs gaps : List String) (i : Nat) :
    before.length ≤ placeOf before cs gaps i := by
  unfold placeOf woven
  split
  · simp only [String.length_append]
    omega
  · exact Nat.le_refl _

/-- Each column stands at its place. -/
theorem standsAt_woven {before c : String} {cs gaps : List String} {i : Nat}
    (hlen : gaps.length = cs.length) (hc : cs[i]? = some c) :
    StandsAt c (placeOf before cs gaps i) (woven before cs gaps) := by
  induction cs generalizing before gaps i with
  | nil => cases hc
  | cons c' cs ih =>
    obtain ⟨gap, gaps, rfl⟩ := List.exists_cons_of_length_eq_add_one hlen
    cases i with
    | zero =>
      cases hc
      exact ⟨before, woven gap cs gaps, rfl, rfl⟩
    | succ i =>
      have hrest : StandsAt c (placeOf gap cs gaps i) (woven gap cs gaps) :=
        ih (Nat.succ.inj hlen) hc
      -- the first column and the words before it stand in front of the place
      obtain ⟨front, back, htext, hfront⟩ := hrest
      refine ⟨before ++ c' ++ front, back, ?_, ?_⟩
      · rw [woven, htext]
        simp only [String.append_assoc]
      · rw [placeOf_succ, String.length_append, String.length_append, hfront]

/-- If no words between columns are missing, each column ends before the next one begins. -/
theorem placeOf_lt {before c : String} {cs gaps : List String} {i j : Nat}
    (hlen : gaps.length = cs.length) (hgaps : ∀ gap ∈ gaps.dropLast, gap ≠ "") (hij : i < j)
    (hj : j < cs.length) (hc : cs[i]? = some c) :
    placeOf before cs gaps i + c.length < placeOf before cs gaps j := by
  induction cs generalizing before gaps i j with
  | nil => cases hc
  | cons c' cs ih =>
    obtain ⟨gap, gaps, rfl⟩ := List.exists_cons_of_length_eq_add_one hlen
    obtain ⟨j, rfl⟩ := Nat.exists_eq_succ_of_ne_zero (Nat.ne_zero_of_lt hij)
    have hlen := Nat.succ.inj hlen
    have hj : j < cs.length := Nat.lt_of_succ_lt_succ hj
    have hne : gaps ≠ [] := List.ne_nil_of_length_pos (by omega)
    rw [List.dropLast_cons_of_ne_nil hne, List.forall_mem_cons] at hgaps
    rw [placeOf_succ]
    cases i with
    | zero =>
      -- the words between the first two columns are counted at the later place
      cases hc
      have hgap : gap.length ≠ 0 := fun hzero => hgaps.1 (String.length_eq_zero_iff.mp hzero)
      have hle := length_le_placeOf gap cs gaps j
      have hzero : placeOf before (c :: cs) (gap :: gaps) 0 = before.length := rfl
      omega
    | succ i =>
      have hlt : placeOf gap cs gaps i + c.length < placeOf gap cs gaps j :=
        ih hlen hgaps.2 (Nat.lt_of_succ_lt_succ hij) hj hc
      rw [placeOf_succ]
      omega

namespace Marked

/-- The words before the first column. -/
def before : Marked → String
  | .words w :: m => w ++ before m
  | _ => ""

/-- The words behind each column. -/
def gaps : Marked → List String
  | [] => []
  | .words _ :: m => gaps m
  | .column _ :: m => before m :: gaps m

theorem before_blanked (m : Marked) : before (blanked m) = before m := by
  induction m with
  | nil => rfl
  | cons p m ih =>
    cases p with
    | words w => exact congrArg (w ++ ·) ih
    | column c => rfl

theorem gaps_blanked (m : Marked) : gaps (blanked m) = gaps m := by
  induction m with
  | nil => rfl
  | cons p m ih =>
    cases p with
    | words w => exact ih
    | column c => rw [blanked, gaps, gaps, ih, before_blanked]

theorem length_gaps (m : Marked) : (gaps m).length = (columns m).length := by
  induction m with
  | nil => rfl
  | cons p m ih =>
    cases p with
    | words w => exact ih
    | column c => exact congrArg (· + 1) ih

/-- More words before a woven text. -/
theorem append_woven (w before : String) (cs gaps : List String) :
    w ++ woven before cs gaps = woven (w ++ before) cs gaps := by
  unfold woven
  split
  · simp only [String.append_assoc]
  · rfl

/-- A text is its columns with the words around them. -/
theorem text_eq_woven (m : Marked) : text m = woven (before m) (columns m) (gaps m) := by
  induction m with
  | nil => rfl
  | cons p m ih =>
    cases p with
    | words w => rw [text, columns, gaps, before, ih, append_woven]
    | column c =>
      have hbefore : before (.column c :: m) = "" := rfl
      rw [text, columns, gaps, hbefore, woven, ih, String.empty_append]

/-- If a column stands directly before a text with columns, the text begins with words. -/
theorem Spaced.before_ne {m : Marked} {b : Bool} (h : Spaced true m b) (hne : gaps m ≠ []) :
    before m ≠ "" := by
  induction m with
  | nil => exact absurd rfl hne
  | cons p m ih =>
    cases p with
    | column c => exact nomatch h.1
    | words w =>
      rw [before]
      by_cases hw : w = ""
      · rw [Spaced, if_pos hw] at h
        rw [hw, String.empty_append]
        exact ih h hne
      · exact fun hempty => hw (String.append_eq_empty_iff.mp hempty).1

/-- No words between two columns are missing. -/
theorem Spaced.gap_ne {m : Marked} {a b : Bool} (h : Spaced a m b) :
    ∀ gap ∈ (gaps m).dropLast, gap ≠ "" := by
  induction m generalizing a with
  | nil => exact nofun
  | cons p m ih =>
    cases p with
    | words w => exact ih h
    | column c =>
      by_cases hne : gaps m = []
      · rw [gaps, hne]
        exact nofun
      · rw [gaps, List.dropLast_cons_of_ne_nil hne]
        exact List.forall_mem_cons.mpr ⟨h.2.before_ne hne, ih h.2⟩

end Marked

end QueryAudit
