import QueryAudit.Proofs.Splitting

/-!
# A buffer with a cursor

The splitter keeps the bytes that it has read in two parts, those that it has looked at and those
that are ahead. The same can be done with one buffer and the number of bytes looked at. A cursor
then goes over the buffer, by two bytes at once where a marker stands; lines are appended behind it
and statement texts are taken from the front. It never leaves the buffer and is at its end whenever
more is read, so that all bytes are looked at in order and none of them twice.
-/

namespace QueryAudit

variable {d : Dialect}

def Source.bytes (source : Source) : List UInt8 :=
  lineBytes source.lines ++ source.ending.bytes

/-- The bytes that were read but not handed out, how many of them were looked at, what these leave
    open, and what is still to be read. -/
structure Cursor where
  buffer : List UInt8 := []
  scanned : Nat := 0
  opened : Open := .code
  source : Source

/-- What a move comes to. -/
inductive Move where
  /-- A byte is passed, or the two bytes of a marker. -/
  | pass (bytes : List UInt8)
  /-- Bytes are appended to the buffer. -/
  | read (bytes : List UInt8)
  /-- Bytes are appended to the buffer, and the source fails. -/
  | failed (bytes : List UInt8) (message : String)
  /-- A semicolon is passed, and the statement text before it is handed out. -/
  | ended (text : List UInt8)
  /-- The rest of the buffer is handed out at the end of the source. -/
  | last (text : List UInt8)
  /-- The source is at its end, and the buffer is empty. -/
  | finished

namespace Move

/-- The bytes that are looked at. -/
def passed : Move → List UInt8
  | .pass bytes => bytes
  | .ended _ => [Mode.semicolon]
  | _ => []

/-- The bytes that are read. -/
def taken : Move → List UInt8
  | .read bytes => bytes
  | .failed bytes _ => bytes
  | _ => []

/-- What is delivered, if anything. -/
def delivery : Move → Option Delivery
  | .pass _ => none
  | .read _ => none
  | .failed _ message => some (.failed message)
  | .ended text => some (.text text)
  | .last text => some (.text text)
  | .finished => some .finished

end Move

namespace Cursor

/-- A cursor at the start of a source. -/
def start (source : Source) : Cursor :=
  { source }

/-- Read a line. At the end of the source the buffer is handed out. -/
def read (c : Cursor) : Move × Cursor :=
  match c.source with
  | ⟨line :: lines, ending⟩ =>
    (.read line.bytes, { c with buffer := c.buffer ++ line.bytes, source := ⟨lines, ending⟩ })
  | ⟨[], .failed begun message⟩ =>
    (.failed begun.bytes message,
      { c with buffer := c.buffer ++ begun.bytes, source := ⟨[], .failed {} message⟩ })
  | ⟨[], .finished⟩ =>
    (if c.buffer.isEmpty then .finished else .last c.buffer, start ⟨[], .finished⟩)

/-- Look at the byte under the cursor and the one behind it; at the end of the buffer, read. -/
def move (d : Dialect) (c : Cursor) : Move × Cursor :=
  if h : c.scanned < c.buffer.length then
    let b := c.buffer[c.scanned]
    if c.opened = .code ∧ b = Mode.semicolon then
      (.ended (c.buffer.take c.scanned),
        { buffer := c.buffer.drop (c.scanned + 1), source := c.source })
    else
      let (opened, both) := c.opened.behind d b c.buffer[c.scanned + 1]?
      let width := if both then 2 else 1
      (.pass ((c.buffer.drop c.scanned).take width),
        { c with scanned := c.scanned + width, opened })
  else c.read

/-- A cursor behind so many moves. -/
def after (d : Dialect) (c : Cursor) : Nat → Cursor
  | 0 => c
  | k + 1 => after d (c.move d).2 k

/-- So many moves. -/
def moves (d : Dialect) (c : Cursor) : Nat → List Move
  | 0 => []
  | k + 1 => (c.move d).1 :: moves d (c.move d).2 k

/-- The splitter that has the same bytes at hand. -/
def splitter (c : Cursor) : Splitter :=
  ⟨c.opened.mode, (c.buffer.take c.scanned).reverse, c.buffer.drop c.scanned⟩

/-! ### What a move does -/

/-- What a move may do. A byte that is looked at is in the buffer, and so are both bytes of a
    marker; a statement text is what stands before a semicolon under the cursor, and the rest of the
    buffer is left, with nothing of it looked at. The source is asked only when the cursor is at the
    end of the buffer. -/
inductive Does (d : Dialect) (c : Cursor) : Move → Cursor → Prop
  | alone {b : UInt8} (hb : c.buffer[c.scanned]? = some b)
      (hs : ¬(c.opened = .code ∧ b = Mode.semicolon))
      (h : (c.opened.behind d b c.buffer[c.scanned + 1]?).2 = false) :
      Does d c (.pass [b]) { c with
        scanned := c.scanned + 1
        opened := (c.opened.behind d b c.buffer[c.scanned + 1]?).1 }
  | marker {b b' : UInt8} (hb : c.buffer[c.scanned]? = some b)
      (hb' : c.buffer[c.scanned + 1]? = some b') (hs : ¬(c.opened = .code ∧ b = Mode.semicolon))
      (h : (c.opened.behind d b (some b')).2 = true) :
      Does d c (.pass [b, b']) { c with
        scanned := c.scanned + 2
        opened := (c.opened.behind d b (some b')).1 }
  | ended (hcode : c.opened = .code) (hb : c.buffer[c.scanned]? = some Mode.semicolon) :
      Does d c (.ended (c.buffer.take c.scanned))
        ⟨c.buffer.drop (c.scanned + 1), 0, .code, c.source⟩
  | read {line : Line} {lines : List Line} {ending : Ending} (hall : c.scanned = c.buffer.length)
      (hsource : c.source = ⟨line :: lines, ending⟩) :
      Does d c (.read line.bytes)
        ⟨c.buffer ++ line.bytes, c.scanned, c.opened, ⟨lines, ending⟩⟩
  | failed {begun : Line} {message : String} (hall : c.scanned = c.buffer.length)
      (hsource : c.source = ⟨[], .failed begun message⟩) :
      Does d c (.failed begun.bytes message)
        ⟨c.buffer ++ begun.bytes, c.scanned, c.opened, ⟨[], .failed {} message⟩⟩
  | last (hall : c.scanned = c.buffer.length) (hsource : c.source = ⟨[], .finished⟩)
      (hne : c.buffer ≠ []) : Does d c (.last c.buffer) ⟨[], 0, .code, ⟨[], .finished⟩⟩
  | finished (hall : c.scanned = c.buffer.length) (hsource : c.source = ⟨[], .finished⟩)
      (hnil : c.buffer = []) : Does d c .finished ⟨[], 0, .code, ⟨[], .finished⟩⟩

variable {c : Cursor}

theorem read_does (hall : c.scanned = c.buffer.length) : c.Does d c.read.1 c.read.2 := by
  obtain ⟨buffer, scanned, opened, ⟨lines, ending⟩⟩ := c
  cases lines with
  | cons line lines => exact .read hall rfl
  | nil =>
    cases ending with
    | failed begun message => exact .failed hall rfl
    | finished =>
      cases buffer with
      | nil => exact .finished hall rfl rfl
      | cons b bs => exact .last hall rfl (List.cons_ne_nil b bs)

/-- All that a move can do. -/
theorem move_does (d : Dialect) (h : c.scanned ≤ c.buffer.length) :
    c.Does d (c.move d).1 (c.move d).2 := by
  unfold move
  split
  · next hlt =>
    have hb := List.getElem?_eq_getElem hlt
    have hdrop := List.drop_eq_getElem_cons hlt
    generalize c.buffer[c.scanned] = b at hb hdrop
    dsimp only
    split
    · next hs =>
      obtain ⟨hcode, rfl⟩ := hs
      exact .ended hcode hb
    · -- a byte by itself, or the first one of a marker
      next hs =>
      rw [hdrop]
      cases hm : (c.opened.behind d b c.buffer[c.scanned + 1]?).2 with
      | false => exact .alone hb hs hm
      | true =>
        cases hb' : c.buffer[c.scanned + 1]? with
        | none =>
          rw [hb', Open.behind_none] at hm
          cases hm
        | some b' =>
          rw [hb'] at hm
          obtain ⟨hlt', hget⟩ := List.getElem?_eq_some_iff.mp hb'
          rw [List.drop_eq_getElem_cons hlt', hget]
          exact .marker hb hb' hs hm
  · next hge => exact read_does (by omega)

/-! ### Where the bytes are -/

theorem drop_of_getElem? {bytes : List UInt8} {i : Nat} {b : UInt8} (h : bytes[i]? = some b) :
    bytes.drop i = b :: bytes.drop (i + 1) := by
  rw [List.drop_eq_getElem?_toList_append, h]
  rfl

theorem take_of_getElem? {bytes : List UInt8} {i : Nat} {b : UInt8} (h : bytes[i]? = some b) :
    bytes.take (i + 1) = bytes.take i ++ [b] := by
  rw [List.take_add_one, h]
  rfl

variable {m : Move} {c' : Cursor}

/-- The cursor stays in the buffer. -/
theorem Does.scanned_le (h : c.Does d m c') : c'.scanned ≤ c'.buffer.length := by
  cases h with
  | alone hb => exact (List.getElem?_eq_some_iff.mp hb).1
  | marker _ hb' => exact (List.getElem?_eq_some_iff.mp hb').1
  | ended => exact Nat.zero_le _
  | read hall => simp [hall]
  | failed hall => simp [hall]
  | last => exact Nat.zero_le _
  | finished => exact Nat.zero_le _

/-- What a move passes was ahead, and what it reads is ahead of it. -/
theorem Does.passed (h : c.Does d m c') :
    m.passed ++ c'.buffer.drop c'.scanned = c.buffer.drop c.scanned ++ m.taken := by
  cases h with
  | alone hb => simp [Move.passed, Move.taken, drop_of_getElem? hb]
  | marker hb hb' => simp [Move.passed, Move.taken, drop_of_getElem? hb, drop_of_getElem? hb']
  | ended _ hb => simp [Move.passed, Move.taken, drop_of_getElem? hb]
  | read hall => simp [Move.passed, Move.taken, hall]
  | failed hall => simp [Move.passed, Move.taken, hall]
  | last hall => simp [Move.passed, Move.taken, hall]
  | finished hall => simp [Move.passed, Move.taken, hall]

/-- What a move reads was to come. -/
theorem Does.taken (h : c.Does d m c') : m.taken ++ c'.source.bytes = c.source.bytes := by
  cases h with
  | alone => rfl
  | marker => rfl
  | ended => rfl
  | read _ hsource => simp [Move.taken, Source.bytes, hsource, lineBytes]
  | failed _ hsource => simp [Move.taken, Source.bytes, hsource, lineBytes, Ending.bytes]
  | last _ hsource => rw [hsource]; rfl
  | finished _ hsource => rw [hsource]; rfl

/-! ### What the bytes looked at leave open -/

/-- From the start of a statement on, a look at the bytes behind the cursor and at any of those
    ahead of it comes to a look at the latter, with what the former leave open. -/
def Resumes (d : Dialect) (c : Cursor) : Prop :=
  ∀ more, more <+: c.buffer.drop c.scanned →
    cut d .code [] (c.buffer.take c.scanned ++ more) =
      cut d c.opened.mode (c.buffer.take c.scanned).reverse more

/-- No marker may begin at the end of the buffer and end in what is still to be read. -/
def Joins (c : Cursor) : Prop :=
  Lined c.source.ending c.buffer c.source.lines ∨ c.source.bytes = []

theorem behind_of_prefix {o : Open} {b : UInt8} {more rest : List UInt8}
    (hm : (o.behind d b rest.head?).2 = false) (h : more <+: rest) :
    o.behind d b more.head? = o.behind d b rest.head? := by
  cases more with
  | nil => exact Open.behind_of_alone hm
  | cons b' more =>
    obtain ⟨back, rfl⟩ := h
    rfl

/-- No statement ends in the bytes looked at, and this is what they leave open. -/
theorem Resumes.cut_take (h : c.Resumes d) :
    cut d .code [] (c.buffer.take c.scanned) =
      .unfinished c.opened.mode (c.buffer.take c.scanned).reverse := by
  have hnil := h [] List.nil_prefix
  rwa [List.append_nil] at hnil

/-- Bytes that are read at the end of the buffer. -/
theorem Resumes.append (h : c.Resumes d) (hall : c.scanned = c.buffer.length)
    {bytes : List UInt8} (hends : EndsLine c.buffer ∨ bytes = []) {more : List UInt8}
    (hmore : more <+: bytes) :
    cut d .code [] (c.buffer ++ more) = cut d c.opened.mode c.buffer.reverse more := by
  have hcut := h.cut_take
  rw [hall, List.take_length] at hcut
  rcases hends with hends | rfl
  · rw [cut_append d .code [] hends, hcut]
    rfl
  · obtain rfl := List.prefix_nil.mp hmore
    rw [List.append_nil, hcut]
    rfl

theorem Does.resumes (h : c.Does d m c') (hr : c.Resumes d) (hj : c.Joins) : c'.Resumes d := by
  cases h with
  | @alone b hb hs hm =>
    intro more hmore
    rw [← List.head?_drop] at hm ⊢
    have hbehind := behind_of_prefix hm hmore
    have hahead : b :: more <+: c.buffer.drop c.scanned := by
      rw [drop_of_getElem? hb]
      exact List.cons_prefix_cons.mpr ⟨rfl, hmore⟩
    rw [← hbehind] at hm ⊢
    rw [take_of_getElem? hb, List.append_assoc, List.singleton_append, hr _ hahead,
      cut_alone hs hm, List.reverse_append]
    rfl
  | @marker b b' hb hb' hs hm =>
    intro more hmore
    have hahead : b :: b' :: more <+: c.buffer.drop c.scanned := by
      rw [drop_of_getElem? hb, drop_of_getElem? hb']
      exact List.cons_prefix_cons.mpr ⟨rfl, List.cons_prefix_cons.mpr ⟨rfl, hmore⟩⟩
    rw [take_of_getElem? hb', take_of_getElem? hb, List.append_assoc, List.append_assoc,
      List.singleton_append, List.singleton_append, hr _ hahead, cut_marker hs hm]
    simp
  | ended => exact fun more _ => rfl
  -- the bytes before the cursor stay what they were, more stand behind it
  | @read line lines ending hall hsource =>
    intro more hmore
    rw [hall, List.drop_left] at hmore
    rw [hall, List.take_left]
    refine hr.append hall (hj.imp ?_ ?_) hmore
    · intro hlined
      rw [hsource] at hlined
      exact hlined.1
    · intro hnil
      rw [hsource] at hnil
      exact (List.append_eq_nil_iff.mp (List.append_eq_nil_iff.mp hnil).1).1
  | @failed begun message hall hsource =>
    intro more hmore
    rw [hall, List.drop_left] at hmore
    rw [hall, List.take_left]
    refine hr.append hall (hj.imp ?_ ?_) hmore
    · intro hlined
      rw [hsource] at hlined
      exact hlined (by rintro ⟨⟩)
    · intro hnil
      rw [hsource] at hnil
      exact hnil
  | last => exact fun more _ => rfl
  | finished => exact fun more _ => rfl

theorem Does.joins (h : c.Does d m c') (hj : c.Joins) : c'.Joins := by
  cases h with
  | alone => exact hj
  | marker => exact hj
  | ended => exact hj.imp_left fun hlined => hlined.of_suffix (List.drop_suffix _ _)
  | @read line lines ending hall hsource =>
    rw [Joins, hsource] at hj
    rcases hj with ⟨hends, hlined⟩ | hnil
    · exact .inl (hlined.append_front hends)
    · obtain ⟨hlines, hending⟩ := List.append_eq_nil_iff.mp hnil
      have hrest : lineBytes lines = [] := (List.append_eq_nil_iff.mp hlines).2
      exact .inr (List.append_eq_nil_iff.mpr ⟨hrest, hending⟩)
  | failed => exact .inr rfl
  | last => exact .inr rfl
  | finished => exact .inr rfl

/-! ### What holds between moves -/

/-- What holds of a cursor behind some moves over a source of some bytes. -/
structure Sound (d : Dialect) (w : List UInt8) (done : List Move) (c : Cursor) : Prop where
  scanned_le : c.scanned ≤ c.buffer.length
  resumes : c.Resumes d
  joins : c.Joins
  /-- What was passed is what was read, but for what is ahead. -/
  passed_eq : done.flatMap Move.passed ++ c.buffer.drop c.scanned = done.flatMap Move.taken
  taken_eq : done.flatMap Move.taken ++ c.source.bytes = w

variable {w : List UInt8} {done : List Move}

theorem sound_start {source : Source} (h : Lined source.ending [] source.lines) :
    (start source).Sound d source.bytes [] where
  scanned_le := Nat.le_refl 0
  resumes := fun _ _ => rfl
  joins := .inl h
  passed_eq := rfl
  taken_eq := rfl

theorem Sound.step (h : c.Sound d w done) (hd : c.Does d m c') : c'.Sound d w (done ++ [m]) where
  scanned_le := hd.scanned_le
  resumes := hd.resumes h.resumes h.joins
  joins := hd.joins h.joins
  passed_eq := by
    rw [List.flatMap_append, List.flatMap_append, List.flatMap_singleton, List.flatMap_singleton,
      List.append_assoc, hd.passed, ← List.append_assoc, h.passed_eq]
  taken_eq := by
    rw [List.flatMap_append, List.flatMap_singleton, List.append_assoc, hd.taken, h.taken_eq]

/-- What holds after any moves. -/
theorem Sound.after (h : c.Sound d w done) (k : Nat) :
    (c.after d k).Sound d w (done ++ c.moves d k) := by
  induction k generalizing c done with
  | zero =>
    rw [moves, List.append_nil]
    exact h
  | succ k ih =>
    rw [moves, List.append_cons]
    exact ih (h.step (move_does d h.scanned_le))

/-! ### Calls of the splitter -/

/-- Some moves come to a cursor and deliver something on the way. -/
def Runs (d : Dialect) (c : Cursor) (deliveries : List Delivery) (c' : Cursor) : Prop :=
  ∃ k, (c.moves d k).filterMap Move.delivery = deliveries ∧ c.after d k = c'

variable {deliveries deliveries' : List Delivery} {c'' : Cursor}

theorem filterMap_moves_succ (c : Cursor) (k : Nat) :
    (c.moves d (k + 1)).filterMap Move.delivery =
      (c.move d).1.delivery.toList ++ ((c.move d).2.moves d k).filterMap Move.delivery := by
  rw [moves, List.filterMap_cons]
  cases (c.move d).1.delivery <;> rfl

theorem Runs.refl (c : Cursor) : c.Runs d [] c :=
  ⟨0, rfl, rfl⟩

theorem Runs.move (hm : c.move d = (m, c')) (h : c'.Runs d deliveries c'') :
    c.Runs d (m.delivery.toList ++ deliveries) c'' := by
  obtain ⟨k, rfl, hafter⟩ := h
  refine ⟨k + 1, ?_, ?_⟩
  · rw [filterMap_moves_succ, hm]
  · rw [after, hm]
    exact hafter

theorem Runs.trans (h : c.Runs d deliveries c') (h' : c'.Runs d deliveries' c'') :
    c.Runs d (deliveries ++ deliveries') c'' := by
  obtain ⟨k, rfl, hafter⟩ := h
  induction k generalizing c with
  | zero =>
    subst hafter
    exact h'
  | succ k ih =>
    rw [filterMap_moves_succ, List.append_assoc]
    exact (ih hafter).move rfl

/-- What comes of looking at all of the buffer: a statement text is handed out and the rest is left,
    or the cursor is at the end. -/
inductive Scans (d : Dialect) (c : Cursor) : Cut → Prop
  | found {text rest : List UInt8} (h : c.Runs d [.text text] ⟨rest, 0, .code, c.source⟩) :
      Scans d c (.found text rest)
  | unfinished {opened : Open} (h : c.Runs d [] ⟨c.buffer, c.buffer.length, opened, c.source⟩) :
      Scans d c (.unfinished opened.mode c.buffer.reverse)

/-- One byte or marker that is passed first. -/
theorem Scans.pass {n : Nat} {o : Open} {bytes : List UInt8} {x : Cut}
    (hm : c.move d = (.pass bytes, ⟨c.buffer, n, o, c.source⟩))
    (h : Scans d ⟨c.buffer, n, o, c.source⟩ x) : c.Scans d x := by
  cases h with
  | found h => exact .found (h.move hm)
  | unfinished h => exact .unfinished (h.move hm)

/-- At the end of the buffer there is nothing to look at. -/
theorem Scans.all (h : c.scanned = c.buffer.length) :
    c.Scans d (cut d c.opened.mode (c.buffer.take c.scanned).reverse
      (c.buffer.drop c.scanned)) := by
  rw [h, List.take_length, List.drop_length]
  refine .unfinished ?_
  rw [← h]
  exact .refl c

/-- The cursor goes over the buffer as the splitter looks at the bytes that are ahead. -/
theorem scans (h : c.scanned ≤ c.buffer.length) :
    c.Scans d (cut d c.opened.mode (c.buffer.take c.scanned).reverse
      (c.buffer.drop c.scanned)) := by
  -- on the number of bytes ahead, of which a marker takes two
  induction hn : c.buffer.length - c.scanned using Nat.strongRecOn generalizing c with
  | ind n ih =>
    have hdoes := move_does d h
    generalize hmove : c.move d = moved at hdoes
    obtain ⟨m, c'⟩ := moved
    have hle := hdoes.scanned_le
    dsimp only at hdoes hle
    cases hdoes with
    | @alone b hb hs hm =>
      have hlt := (List.getElem?_eq_some_iff.mp hb).1
      have hrest := ih _ (by dsimp only; omega) hle rfl
      refine Scans.pass hmove ?_
      rw [← List.head?_drop] at hm hrest ⊢
      rw [drop_of_getElem? hb, cut_alone hs hm]
      dsimp only at hrest
      rw [take_of_getElem? hb, List.reverse_append] at hrest
      exact hrest
    | @marker b b' hb hb' hs hm =>
      have hlt := (List.getElem?_eq_some_iff.mp hb').1
      have hrest := ih _ (by dsimp only; omega) hle rfl
      refine Scans.pass hmove ?_
      rw [drop_of_getElem? hb, drop_of_getElem? hb', cut_marker hs hm]
      dsimp only at hrest
      rw [take_of_getElem? hb', take_of_getElem? hb, List.reverse_append, List.reverse_append]
        at hrest
      exact hrest
    | ended hcode hb =>
      rw [hcode, drop_of_getElem? hb]
      have hcut (seen rest : List UInt8) :
          cut d Open.code.mode seen (Mode.semicolon :: rest) = .found seen.reverse rest := rfl
      rw [hcut, List.reverse_reverse]
      exact .found (.move hmove (.refl _))
    | read hall => exact .all hall
    | failed hall => exact .all hall
    | last hall => exact .all hall
    | finished hall => exact .all hall

theorem move_of_all (h : c.scanned = c.buffer.length) : c.move d = c.read :=
  dif_neg (by omega)

/-- At the end of the source a cursor delivers what a search delivers there. -/
theorem runs_atEnd (d : Dialect) (buffer : List UInt8) (opened : Open) (ending : Ending)
    (taken : List Nat) :
    let a := Splitter.atEnd opened.mode buffer.reverse taken ending
    ∃ c', Runs d ⟨buffer, buffer.length, opened, ⟨[], ending⟩⟩ [a.delivery] c' ∧
      c'.splitter = a.splitter ∧ c'.source = a.source := by
  intro a
  -- one move delivers what is left, or the failure
  cases ending with
  | failed begun message =>
    refine ⟨_, .move (move_of_all rfl) (.refl _), ?_, rfl⟩
    rw [splitter, List.take_left, List.drop_left]
    rfl
  | finished =>
    cases buffer with
    | nil => exact ⟨_, .move (move_of_all rfl) (.refl _), rfl, rfl⟩
    | cons b bs =>
      have ha : a = ⟨.text (b :: bs), taken ++ [0], {}, ⟨[], .finished⟩⟩ := by
        simp [a, Splitter.atEnd]
      rw [ha]
      exact ⟨_, .move (move_of_all rfl) (.refl _), rfl, rfl⟩

/-- The moves of a cursor through the first one that delivers do what a search does. -/
theorem runs_search (h : c.scanned ≤ c.buffer.length) (taken : List Nat) :
    let a := Splitter.search d c.opened.mode (c.buffer.take c.scanned).reverse
      (c.buffer.drop c.scanned) c.source.ending taken c.source.lines
    ∃ c', c.Runs d [a.delivery] c' ∧ c'.splitter = a.splitter ∧ c'.source = a.source := by
  obtain ⟨buffer, scanned, opened, ⟨lines, ending⟩⟩ := c
  induction lines generalizing buffer scanned opened taken with
  | nil =>
    intro a
    have hscans := scans (d := d) h
    generalize hcut : cut d _ _ _ = x at hscans
    cases hscans with
    | @found text rest hrun =>
      have ha : a = ⟨.text text, taken, ⟨.code, [], rest⟩, ⟨[], ending⟩⟩ :=
        Splitter.search_of_found hcut ending taken []
      rw [ha]
      exact ⟨_, hrun, rfl, rfl⟩
    | @unfinished opened' hrun =>
      have ha : a = Splitter.atEnd opened'.mode buffer.reverse taken ending :=
        Splitter.search_nil_of_unfinished hcut ending taken
      obtain ⟨c', hend, hsplitter, hsource⟩ := runs_atEnd d buffer opened' ending taken
      rw [ha]
      exact ⟨c', hrun.trans hend, hsplitter, hsource⟩
  | cons line lines ih =>
    intro a
    have hscans := scans (d := d) h
    generalize hcut : cut d _ _ _ = x at hscans
    cases hscans with
    | @found text rest hrun =>
      have ha : a = ⟨.text text, taken, ⟨.code, [], rest⟩, ⟨line :: lines, ending⟩⟩ :=
        Splitter.search_of_found hcut ending taken _
      rw [ha]
      exact ⟨_, hrun, rfl, rfl⟩
    | @unfinished opened' hrun =>
      -- the line is appended, and the search goes on in it
      have ha : a = Splitter.search d opened'.mode buffer.reverse line.bytes ending
          (taken ++ line.pieces) lines :=
        Splitter.search_of_unfinished hcut ending taken line lines
      obtain ⟨c', hrest, hsplitter, hsource⟩ := ih (taken ++ line.pieces) (buffer ++ line.bytes)
        buffer.length opened' (by simp)
      dsimp only at hrest hsplitter hsource
      rw [List.take_left, List.drop_left, ← ha] at hrest hsplitter hsource
      exact ⟨c', hrun.trans (.move (move_of_all rfl) hrest), hsplitter, hsource⟩

/-- A call of the splitter is some moves of the cursor, of which the last one delivers. -/
theorem runs_next (h : c.scanned ≤ c.buffer.length) :
    let a := c.splitter.next d c.source
    ∃ c', c.Runs d [a.delivery] c' ∧ c'.splitter = a.splitter ∧ c'.source = a.source :=
  runs_search h []

end Cursor

/-- What some calls of a splitter delivered, and where it stands. -/
structure Called where
  deliveries : List Delivery := []
  splitter : Splitter := {}
  source : Source

/-- So many calls of a splitter. -/
def Splitter.calls (d : Dialect) (source : Source) : Nat → Called
  | 0 => { source }
  | n + 1 =>
    let c := calls d source n
    let a := c.splitter.next d c.source
    ⟨c.deliveries ++ [a.delivery], a.splitter, a.source⟩

/-- Calls of a splitter over a source are moves of a cursor over it. -/
theorem Cursor.runs_calls (d : Dialect) {source : Source} (hl : Lined source.ending [] source.lines)
    (n : Nat) :
    let calls := Splitter.calls d source n
    ∃ c, (Cursor.start source).Runs d calls.deliveries c ∧ c.splitter = calls.splitter ∧
      c.source = calls.source := by
  induction n with
  | zero => exact ⟨_, .refl _, rfl, rfl⟩
  | succ n ih =>
    obtain ⟨c, hrun, hsplitter, hsource⟩ := ih
    have hle : c.scanned ≤ c.buffer.length := by
      obtain ⟨k, -, rfl⟩ := hrun
      exact ((Cursor.sound_start hl).after k).scanned_le
    obtain ⟨c', hcall, hsplitter', hsource'⟩ := c.runs_next (d := d) hle
    rw [hsplitter, hsource] at hcall hsplitter' hsource'
    exact ⟨c', hrun.trans hcall, hsplitter', hsource'⟩

/-- Over any source that delivers buffers and then ends or fails, calls of the splitter are moves of
    a cursor: they deliver the same, and what the splitter has looked at and has ahead is what is
    before and behind the cursor in its buffer. Behind any number of moves the cursor is in the
    buffer, no statement ends in the bytes before it, and what these leave open is known. The next
    move looks only at bytes of the buffer, and it reads only at the end of the buffer. All bytes
    that were passed so far, in order, with those ahead of the cursor, are the bytes that were read,
    so that none of them is passed twice; and these, with those to come, are all bytes. -/
theorem cursor_within_buffer (d : Dialect) (buffers : List (List UInt8))
    (failure : Option String) :
    let source := Source.ofBuffers buffers failure
    (∀ n, ∃ c, (Cursor.start source).Runs d (Splitter.calls d source n).deliveries c ∧
      c.splitter = (Splitter.calls d source n).splitter ∧
      c.source = (Splitter.calls d source n).source) ∧
    ∀ k,
      let c := (Cursor.start source).after d k
      let done := (Cursor.start source).moves d k
      c.Does d (c.move d).1 (c.move d).2 ∧
      c.scanned ≤ c.buffer.length ∧
      cut d .code [] (c.buffer.take c.scanned) =
        .unfinished c.opened.mode (c.buffer.take c.scanned).reverse ∧
      done.flatMap Move.passed ++ c.buffer.drop c.scanned = done.flatMap Move.taken ∧
      done.flatMap Move.taken ++ c.source.bytes = buffers.flatten := by
  intro source
  have hl : Lined source.ending [] source.lines := lined_after {} failure buffers
  have hw : source.bytes = buffers.flatten := bytes_after {} failure buffers
  refine ⟨Cursor.runs_calls d hl, fun k => ?_⟩
  have hsound := (Cursor.sound_start (d := d) hl).after k
  rw [hw] at hsound
  exact ⟨Cursor.move_does d hsound.scanned_le, hsound.scanned_le, hsound.resumes.cut_take,
    hsound.passed_eq, hsound.taken_eq⟩

end QueryAudit
