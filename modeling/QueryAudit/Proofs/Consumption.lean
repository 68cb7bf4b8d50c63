import QueryAudit.Proofs.Calls
import QueryAudit.Proofs.Promptness
import QueryAudit.Proofs.Rejoining

/-!
# How much input is taken

A statement may end within a line, and lines are taken as a whole. So when an item is handed out,
the input was taken through the end of the line on which its statement ends, or to its end if there
is no newline behind; for a statement without a semicolon that is all of it. What stands behind this
line makes no difference to the items so far.
-/

namespace QueryAudit

variable {d : Dialect}

/-! ### Lines -/

/-- How many bytes there are through the first newline at a place or behind it, or in all if there
    is none. -/
def lineEnd (w : List UInt8) (p : Nat) : Nat :=
  min w.length (p + ((w.drop p).takeWhile (· ≠ newline)).length + 1)

/-- A line ends behind its newline, or where nothing follows. -/
theorem lineEnd_eq {w line more : List UInt8} {p : Nat} (hp : p ≤ w.length)
    (hw : w.drop p = line ++ more) (hinner : newline ∉ line.dropLast)
    (hend : line.getLast? = some newline ∨ more = []) : lineEnd w p = p + line.length := by
  have hlen : w.length = p + (line.length + more.length) := by
    rw [← List.length_append, ← hw, List.length_drop]
    omega
  by_cases hlast : line.getLast? = some newline
  · obtain ⟨body, rfl⟩ := List.getLast?_eq_some_iff.mp hlast
    rw [List.dropLast_concat] at hinner
    have hall : ∀ b ∈ body, decide (b ≠ newline) = true := by
      intro b hb
      refine decide_eq_true ?_
      rintro rfl
      exact hinner hb
    have htake : (w.drop p).takeWhile (· ≠ newline) = body := by
      rw [hw, List.append_assoc, List.takeWhile_append_of_pos hall, List.singleton_append,
        List.takeWhile_cons_of_neg (by simp), List.append_nil]
    rw [lineEnd, htake, hlen, List.length_append, List.length_singleton]
    omega
  · -- there is no newline at all
    have hmore := hend.resolve_left hlast
    subst hmore
    have hnone : newline ∉ line := by
      intro hmem
      have hne := List.ne_nil_of_mem hmem
      rw [← List.dropLast_concat_getLast hne, List.mem_append, List.mem_singleton] at hmem
      rcases hmem with hmem | hmem
      · exact hinner hmem
      · exact hlast (hmem ▸ List.getLast?_eq_some_getLast hne)
    have hall : ∀ b ∈ line, decide (b ≠ newline) = true := by
      intro b hb
      refine decide_eq_true ?_
      rintro rfl
      exact hnone hb
    have htake : (w.drop p).takeWhile (· ≠ newline) = line := by
      rw [hw, List.append_nil, List.takeWhile_eq_self_iff.mpr hall]
    rw [lineEnd, htake, hlen, List.length_nil]
    omega

/-- The last of some bytes and some lines behind them. -/
def lastLine (ahead : List UInt8) : List Line → List UInt8
  | [] => ahead
  | line :: lines => lastLine line.bytes lines

theorem Lined.lastLine {ending : Ending} {ahead : List UInt8} {front lines : List Line}
    (h : Lined ending ahead (front ++ lines)) : Lined ending (lastLine ahead front) lines := by
  induction front generalizing ahead with
  | nil => exact h
  | cons line front ih => exact ih h.2

/-- Bytes before more lines end with a newline. -/
theorem Lined.getLast?_eq {line : List UInt8} {lines : List Line} (h : Lined .finished line lines)
    (hne : line ≠ []) : line.getLast? = some newline ∨ lineBytes lines = [] := by
  cases lines with
  | nil => exact .inr rfl
  | cons next lines =>
    have hlast := List.getLast?_eq_some_getLast hne
    rw [h.1 _ hlast] at hlast
    exact .inl hlast

theorem newline_notMem_lastLine {ahead : List UInt8} (ha : newline ∉ ahead.dropLast)
    {front : List Line} (hf : ∀ l ∈ front, l.Whole) :
    newline ∉ (lastLine ahead front).dropLast := by
  induction front generalizing ahead with
  | nil => exact ha
  | cons line front ih =>
    obtain ⟨hline, hfront⟩ := List.forall_mem_cons.mp hf
    exact ih hline.inner hfront

/-- The end of the last of some lines is a line as well. -/
theorem line_of_suffix {ahead line : List UInt8} {front lines : List Line}
    (hlined : Lined .finished ahead (front ++ lines)) (ha : newline ∉ ahead.dropLast)
    (hf : ∀ l ∈ front, l.Whole) (h : line <:+ lastLine ahead front) (hne : line ≠ []) :
    Lined .finished line lines ∧ newline ∉ line.dropLast := by
  refine ⟨hlined.lastLine.of_suffix h, fun hmem => newline_notMem_lastLine ha hf ?_⟩
  obtain ⟨passed, hpassed⟩ := h
  rw [← hpassed, List.dropLast_append_of_ne_nil hne]
  exact List.mem_append_right passed hmem

theorem sum_flatMap_pieces {front : List Line} (h : ∀ l ∈ front, l.Whole) :
    (front.flatMap Line.pieces).sum = (lineBytes front).length := by
  induction front with
  | nil => rfl
  | cons line front ih =>
    obtain ⟨hline, hfront⟩ := List.forall_mem_cons.mp h
    rw [List.flatMap_cons, List.sum_append, ih hfront, hline.sum_pieces, ← List.length_append]
    rfl

/-! ### One text -/

theorem joined_concat (texts : List (List UInt8)) (text : List UInt8) :
    joined (texts ++ [text]) = joined texts ++ (text ++ [Mode.semicolon]) := by
  rw [joined, List.flatMap_append, List.flatMap_singleton]
  rfl

namespace Splitter

/-- A source that ends: its lines are whole, and no failure is behind them. -/
structure Ends (source : Source) : Prop where
  whole : ∀ l ∈ source.lines, l.Whole
  ending : source.ending = .finished

/-- A search takes some lines. Behind a text that it finds on them stands what is behind a semicolon
    on the last of them; another text is the last one. -/
theorem search_lines (mode : Mode) (seen ahead : List UInt8) (taken : List Nat)
    (lines : List Line) :
    let a := search d mode seen ahead .finished taken lines
    ∃ front, lines = front ++ a.source.lines ∧
      a.pieces.sum = taken.sum + (front.flatMap Line.pieces).sum ∧
      a.source.ending = .finished ∧
      (a.splitter = {} ∧ a.source.lines = [] ∨
        Mode.semicolon :: a.splitter.ahead <:+ lastLine ahead front) := by
  induction lines generalizing mode seen ahead taken with
  | nil =>
    intro a
    cases hc : cut d mode seen ahead with
    | found text rest =>
      have ha : a = ⟨.text text, taken, ⟨.code, [], rest⟩, ⟨[], .finished⟩⟩ :=
        search_of_found hc .finished taken []
      obtain ⟨passed, -, hahead, -⟩ := exists_of_cut_found hc
      rw [ha]
      exact ⟨[], rfl, rfl, rfl, .inr ⟨passed, hahead.symm⟩⟩
    | unfinished mode' seen' =>
      have ha : a = atEnd mode' seen' taken .finished :=
        search_nil_of_unfinished hc .finished taken
      rw [ha]
      exact ⟨[], rfl, List.sum_append, rfl, .inl ⟨rfl, rfl⟩⟩
  | cons line lines ih =>
    intro a
    cases hc : cut d mode seen ahead with
    | found text rest =>
      have ha : a = ⟨.text text, taken, ⟨.code, [], rest⟩, ⟨line :: lines, .finished⟩⟩ :=
        search_of_found hc .finished taken _
      obtain ⟨passed, -, hahead, -⟩ := exists_of_cut_found hc
      rw [ha]
      exact ⟨[], rfl, rfl, rfl, .inr ⟨passed, hahead.symm⟩⟩
    | unfinished mode' seen' =>
      have ha : a = search d mode' seen' line.bytes .finished (taken ++ line.pieces) lines :=
        search_of_unfinished hc .finished taken line lines
      obtain ⟨front, hlines, hpieces, hending, hahead⟩ :=
        ih mode' seen' line.bytes (taken ++ line.pieces)
      rw [ha]
      -- the search goes on behind this line, which was taken as a whole
      refine ⟨line :: front, congrArg (line :: ·) hlines, ?_, hending, hahead⟩
      rw [hpieces, List.flatMap_cons, List.sum_append, List.sum_append, Nat.add_assoc]

/-- The next text of a splitter takes some lines. -/
theorem next_lines (s : Splitter) {source : Source} (h : Ends source) :
    ∃ front, source.lines = front ++ (s.next d source).source.lines ∧
      (s.next d source).pieces.sum = (front.flatMap Line.pieces).sum ∧
      Ends (s.next d source).source ∧
      ((s.next d source).splitter = {} ∧ (s.next d source).source.lines = [] ∨
        Mode.semicolon :: (s.next d source).splitter.ahead <:+ lastLine s.ahead front) := by
  obtain ⟨lines, ending⟩ := source
  obtain ⟨hwhole, hending⟩ := h
  dsimp only at hending hwhole
  subst hending
  obtain ⟨front, hlines, hpieces, hending, hahead⟩ :=
    search_lines (d := d) s.mode s.seen s.ahead [] lines
  refine ⟨front, hlines, hpieces.trans (Nat.zero_add _), ⟨fun l hl => hwhole l ?_, hending⟩,
    hahead⟩
  rw [hlines]
  exact List.mem_append_right front hl

/-- Where a splitter stands that has delivered some texts: what is behind them is at hand or on the
    lines to come. -/
structure Place (d : Dialect) (w : List UInt8) (done : List (List UInt8)) (s : Splitter)
    (source : Source) : Prop where
  ends : Ends source
  code : s = ⟨.code, [], s.ahead⟩
  pieces_eq : pieces d w = done ++ pieces d (s.ahead ++ lineBytes source.lines)
  bytes_eq : s.ahead ++ lineBytes source.lines ≠ [] →
    w = joined done ++ (s.ahead ++ lineBytes source.lines)
  lined : Lined .finished s.ahead source.lines
  inner : newline ∉ s.ahead.dropLast

theorem Place.next_eq {w : List UInt8} {done : List (List UInt8)} {s : Splitter} {source : Source}
    (h : Place d w done s source) :
    s.next d source = search d .code [] s.ahead .finished [] source.lines := by
  rw [h.code, ← h.ends.ending]
  rfl

/-- A splitter delivers a text, with all of the line on which the text ends. -/
structure Brings (d : Dialect) (w : List UInt8) (done : List (List UInt8)) (s : Splitter)
    (source : Source) (text : List UInt8) : Prop where
  delivery : (s.next d source).delivery = .text text
  place : Place d w (done ++ [text]) (s.next d source).splitter (s.next d source).source
  line : lineEnd w ((joined done).length + text.length) +
    (lineBytes (s.next d source).source.lines).length = w.length

variable {w : List UInt8} {done : List (List UInt8)} {s : Splitter} {source : Source}

/-- A text that a semicolon ends comes with all of the line on which the semicolon stands. -/
theorem Place.found (h : Place d w done s source) {text rest : List UInt8}
    (hc : cut d .code [] (s.ahead ++ lineBytes source.lines) = .found text rest) :
    Brings d w done s source text := by
  obtain ⟨front, hlines, -, hends, hahead⟩ := next_lines (d := d) s h.ends
  obtain ⟨pieces, ahead, lines, hsearch, hrest, hlined⟩ := search_found h.lined hc []
  rw [← h.next_eq] at hsearch
  rw [hsearch] at hlines hends hahead
  dsimp only at hlines hends hahead
  obtain ⟨hbytes, hclosed⟩ := cut_eq_found_iff.mp hc
  have hw := h.bytes_eq (by rw [hbytes]; simp)
  have hpieces := h.pieces_eq
  rw [hbytes, ← hrest] at hw
  rw [hbytes, pieces_of_closed hclosed, ← hrest] at hpieces
  -- the semicolon and what is behind it are the end of the last line that was taken
  have hlast : Lined .finished (Mode.semicolon :: ahead) lines ∧
      newline ∉ (Mode.semicolon :: ahead).dropLast := by
    rcases hahead with ⟨hnone, rfl⟩ | hline
    · obtain rfl : ahead = [] := congrArg Splitter.ahead hnone
      exact ⟨fun hf => absurd rfl hf, List.not_mem_nil⟩
    · have hwhole := h.ends.whole
      have hall := h.lined
      rw [hlines] at hwhole hall
      exact line_of_suffix hall h.inner (fun l hl => hwhole l (List.mem_append_left _ hl)) hline
        (List.cons_ne_nil _ _)
  refine ⟨?_, ?_, ?_⟩ <;> rw [hsearch]
  · refine ⟨hends, rfl, ?_, fun _ => ?_, hlined, fun hmem => hlast.2 ?_⟩
    · rw [hpieces, List.append_assoc]
      rfl
    · rw [joined_concat, List.append_assoc, List.append_assoc]
      exact hw
    · cases ahead with
      | nil => cases hmem
      | cons b ahead => exact List.mem_cons_of_mem _ hmem
  · show lineEnd w ((joined done).length + text.length) + (lineBytes lines).length = w.length
    have hdrop : w.drop ((joined done).length + text.length) =
        Mode.semicolon :: ahead ++ lineBytes lines := by
      conv_lhs => rw [hw]
      rw [← List.append_assoc, ← List.length_append, List.drop_left]
      rfl
    have hlen := congrArg List.length hw
    simp only [List.length_append, List.length_cons] at hlen
    rw [lineEnd_eq (by omega) hdrop hlast.2 (hlast.1.getLast?_eq (List.cons_ne_nil _ _)),
      List.length_cons]
    omega

/-- A text that no semicolon ends comes with all of the input, if there is one. -/
theorem Place.last (h : Place d w done s source) {mode : Mode} {seen : List UInt8}
    (hc : cut d .code [] (s.ahead ++ lineBytes source.lines) = .unfinished mode seen) :
    (s.next d source).delivery = .finished ∨ ∃ text, Brings d w done s source text := by
  obtain ⟨pieces, hsearch⟩ := search_unfinished h.lined hc []
  have hseen := seen_of_cut_unfinished hc
  have hpieces := h.pieces_eq
  rw [List.append_nil] at hseen
  rw [← h.next_eq, atEnd, hseen, List.isEmpty_reverse, List.reverse_reverse] at hsearch
  rw [pieces_of_unended ⟨_, _, hc⟩] at hpieces
  cases hbytes : s.ahead ++ lineBytes source.lines with
  | nil =>
    rw [hsearch, hbytes]
    exact .inl rfl
  | cons b bytes =>
    rw [hbytes] at hpieces hsearch
    -- what is left is all of the input behind the texts before, so this text is the rest of it
    have hw := h.bytes_eq (by rw [hbytes]; exact List.cons_ne_nil b bytes)
    rw [hbytes] at hw
    refine .inr ⟨b :: bytes, ?_, ?_, ?_⟩ <;> rw [hsearch]
    · rfl
    · refine ⟨⟨fun l hl => absurd hl List.not_mem_nil, rfl⟩, rfl, ?_, fun hne => absurd rfl hne,
        fun hf => absurd rfl hf, List.not_mem_nil⟩
      rw [hpieces]
      exact (List.append_nil _).symm
    · have hlen := congrArg List.length hw
      rw [List.length_append] at hlen
      have hdrop : w.drop ((joined done).length + (b :: bytes).length) = [] ++ [] := by
        rw [← hlen, List.drop_length, List.append_nil]
      rw [lineEnd_eq (Nat.le_of_eq hlen.symm) hdrop List.not_mem_nil (.inr rfl)]
      exact hlen.symm

/-- The next text comes with all of the line on which it ends. -/
theorem Place.next (h : Place d w done s source) :
    (s.next d source).delivery = .finished ∨ ∃ text, Brings d w done s source text := by
  cases hc : cut d .code [] (s.ahead ++ lineBytes source.lines) with
  | found text rest => exact .inr ⟨text, h.found hc⟩
  | unfinished mode seen => exact h.last hc

end Splitter

/-! ### One call -/

/-- The item of some call comes from a text, and all is taken through the end of the line on which
    this text ends; the lines to come are what is left. -/
def CameFrom (d : Dialect) (w : List UInt8) (k : Nat) (item : Item) (lines : List Line) : Prop :=
  ∃ before text later j, pieces d w = before ++ text :: later ∧
    (Stream.ofText d text)[j]? = some item ∧ k = (before.flatMap (Stream.ofText d)).length + j ∧
    lineEnd w ((joined before).length + text.length) + (lineBytes lines).length = w.length

namespace Reader

/-- A reader that has handed out so many items: those that wait are of the last text that its
    splitter delivered. -/
inductive Stands (d : Dialect) (w : List UInt8) : Nat → Reader → Prop
  | intro {k : Nat} {done : List (List UInt8)} {s : Splitter} {source : Source}
      {pending : List Item} (place : Splitter.Place d w done s source)
      (count : (done.flatMap (Stream.ofText d)).length = k + pending.length)
      (waiting : pending ≠ [] → ∃ before text front, done = before ++ [text] ∧
        Stream.ofText d text = front ++ pending ∧
        lineEnd w ((joined before).length + text.length) + (lineBytes source.lines).length =
          w.length) :
      Stands d w k ⟨d, source, s, pending, false⟩

/-- What comes of a call: no item and the end, or an item with its text. -/
def Hands (d : Dialect) (w : List UInt8) (k : Nat) (reading : Reading) : Prop :=
  (∀ item, reading.item = some item → CameFrom d w k item reading.reader.source.lines) ∧
    (reading.reader.finished = true ∨ Stands d w (k + 1) reading.reader)

variable {w : List UInt8}

/-- An item of the last text is handed out. -/
theorem hands_handOut {before : List (List UInt8)} {text : List UInt8} {s : Splitter}
    {source : Source} (hplace : Splitter.Place d w (before ++ [text]) s source)
    (hline : lineEnd w ((joined before).length + text.length) +
      (lineBytes source.lines).length = w.length) {front rest : List Item} {item : Item}
    (hitems : Stream.ofText d text = front ++ item :: rest) (waiting : List Item)
    (ps : List Nat) :
    Hands d w ((before.flatMap (Stream.ofText d)).length + front.length)
      (handOut ⟨d, source, s, waiting, false⟩ ps item rest) := by
  -- the item stands where the count says, whether or not it is an error
  have hcame : CameFrom d w ((before.flatMap (Stream.ofText d)).length + front.length) item
      source.lines := by
    refine ⟨before, text, pieces d (s.ahead ++ lineBytes source.lines), front.length, ?_, ?_, rfl,
      hline⟩
    · rw [hplace.pieces_eq, List.append_assoc]
      rfl
    · rw [hitems, List.getElem?_append_right (Nat.le_refl _), Nat.sub_self]
      rfl
  cases item with
  | error e => exact ⟨by rintro _ ⟨⟩; exact hcame, .inl rfl⟩
  | ok statement =>
    refine ⟨by rintro _ ⟨⟩; exact hcame, .inr (.intro hplace ?_ fun _ => ?_)⟩
    · rw [List.flatMap_append, List.flatMap_singleton, hitems]
      simp only [List.length_append, List.length_cons]
      omega
    · exact ⟨before, text, front ++ [.ok statement], rfl, by rw [hitems]; simp, hline⟩

/-- Texts are asked for when all items of those before were handed out. -/
theorem Fills.hands {s : Splitter} {source : Source} {ps : List Nat} {reading : Reading}
    (h : Fills d s source ps reading) {done : List (List UInt8)}
    (hplace : Splitter.Place d w done s source) :
    Hands d w (done.flatMap (Stream.ofText d)).length reading := by
  induction h generalizing done with
  | @text s source ps text item rest hd hitems =>
    rcases hplace.next with hfinished | ⟨text', hbrings⟩
    · cases hd.symm.trans hfinished
    · cases hd.symm.trans hbrings.delivery
      have hfirst : Stream.ofText d text = [] ++ item :: rest := hitems
      exact hands_handOut hbrings.place hbrings.line hfirst [] _
  | failed hd =>
    rcases hplace.next with hfinished | ⟨text', hbrings⟩
    · cases hd.symm.trans hfinished
    · cases hd.symm.trans hbrings.delivery
  | ended hd => exact ⟨by rintro _ ⟨⟩, .inl rfl⟩
  | @skip s source ps text reading hd hitems h ih =>
    rcases hplace.next with hfinished | ⟨text', hbrings⟩
    · cases hd.symm.trans hfinished
    · cases hd.symm.trans hbrings.delivery
      -- a text without items does not move the count
      have hsame : (done ++ [text]).flatMap (Stream.ofText d) =
          done.flatMap (Stream.ofText d) := by
        rw [List.flatMap_append, List.flatMap_singleton, hitems, List.append_nil]
      rw [← hsame]
      exact ih hbrings.place

/-- A call hands out an item with all of the line on which its text ends. -/
theorem Stands.next {k : Nat} {r : Reader} (h : Stands d w k r) : Hands d w k r.next := by
  obtain ⟨hplace, hcount, hwaiting⟩ := h
  rename_i done s source pending
  have hdoes := (Reader.mk d source s pending false).next_does
  generalize (Reader.mk d source s pending false).next = reading at hdoes ⊢
  cases hdoes with
  | finished hf => cases hf
  | @queued item rest _ hp =>
    dsimp only at hp
    subst hp
    obtain ⟨before, text, front, rfl, hitems, hline⟩ := hwaiting (List.cons_ne_nil _ _)
    have hk : k = (before.flatMap (Stream.ofText d)).length + front.length := by
      rw [List.flatMap_append, List.flatMap_singleton, hitems] at hcount
      simp only [List.length_append, List.length_cons] at hcount
      omega
    rw [hk]
    -- an item that waits comes from the text that was taken last
    exact hands_handOut hplace hline hitems _ []
  | filled _ hp h =>
    dsimp only at hp
    subst hp
    rw [← hcount.trans (Nat.add_zero k)]
    exact h.hands hplace

/-- Each call finds a reader that has finished or has handed out an item at each call before. -/
theorem Stands.after {r : Reader} (h : Stands d w 0 r) (k : Nat) :
    (r.after k).finished = true ∨ Stands d w k (r.after k) := by
  induction k with
  | zero => exact .inr h
  | succ k ih =>
    rcases ih with hf | hstands
    · left
      rw [Reader.after, Reader.next, if_pos hf]
      exact hf
    · exact hstands.next.2

/-! ### The bytes that calls take -/

theorem Fills.takes {s : Splitter} {source : Source} {ps : List Nat} {reading : Reading}
    (h : Fills d s source ps reading) (he : Splitter.Ends source) :
    ∃ front, source.lines = front ++ reading.reader.source.lines ∧
      reading.pieces.sum = ps.sum + (front.flatMap Line.pieces).sum ∧
      Splitter.Ends reading.reader.source := by
  have hnext (s : Splitter) {source : Source} (he : Splitter.Ends source) (ps : List Nat) :
      ∃ front, source.lines = front ++ (s.next d source).source.lines ∧
        (ps ++ (s.next d source).pieces).sum = ps.sum + (front.flatMap Line.pieces).sum ∧
        Splitter.Ends (s.next d source).source := by
    obtain ⟨front, hlines, hpieces, hends, -⟩ := Splitter.next_lines (d := d) s he
    exact ⟨front, hlines, by rw [List.sum_append, hpieces], hends⟩
  -- however the call ends, it has taken whole lines
  induction h with
  | @text _ _ ps => simpa using hnext _ he ps
  | @failed _ _ ps => simpa using hnext _ he ps
  | @ended _ _ ps => exact hnext _ he ps
  | skip hd hitems h ih =>
    obtain ⟨front, hlines, hpieces, hends⟩ := hnext _ he _
    obtain ⟨front', hlines', hpieces', hends'⟩ := ih hends
    refine ⟨front ++ front', ?_, ?_, hends'⟩
    · rw [hlines, hlines', List.append_assoc]
    · rw [hpieces', hpieces, List.flatMap_append, List.sum_append, Nat.add_assoc]

/-- A call takes some lines of a source that ends. -/
theorem next_takes {r : Reader} (h : Splitter.Ends r.source) :
    ∃ front, r.source.lines = front ++ r.next.reader.source.lines ∧
      r.next.pieces.sum = (lineBytes front).length ∧ Splitter.Ends r.next.reader.source := by
  have hdoes := r.next_does
  generalize r.next = reading at hdoes ⊢
  cases hdoes with
  | finished => exact ⟨[], rfl, rfl, h⟩
  | queued => exact ⟨[], by simp, by simp [lineBytes], by simpa using h⟩
  | filled _ _ hfills =>
    obtain ⟨front, hlines, hpieces, hends⟩ := hfills.takes h
    have hwhole := h.whole
    rw [hlines] at hwhole
    refine ⟨front, hlines, ?_, hends⟩
    rw [hpieces, List.sum_nil, Nat.zero_add, sum_flatMap_pieces fun l hl =>
      hwhole l (List.mem_append_left _ hl)]

/-- The lines that are left behind some calls are the bytes behind those that the calls took. -/
theorem lineBytes_after {r : Reader} (h : Splitter.Ends r.source) (k : Nat) :
    lineBytes (r.after k).source.lines = (lineBytes r.source.lines).drop (r.taken k) ∧
      r.taken k ≤ (lineBytes r.source.lines).length ∧ Splitter.Ends (r.after k).source := by
  induction k with
  | zero => exact ⟨rfl, Nat.zero_le _, h⟩
  | succ k ih =>
    obtain ⟨hleft, hle, hends⟩ := ih
    obtain ⟨front, hlines, hsum, hends'⟩ := next_takes hends
    rw [hlines, lineBytes, List.flatMap_append] at hleft
    have hlen := congrArg List.length hleft
    rw [List.length_append, List.length_drop] at hlen
    rw [taken, hsum, ← List.drop_drop, ← hleft]
    refine ⟨List.drop_left.symm, ?_, hends'⟩
    rw [lineBytes]
    omega

end Reader

/-! ### What stands behind a line -/

/-- Behind the end of a line only what follows is dropped. -/
theorem wholeLines_append_of_endsLine {text : List UInt8} (h : EndsLine text)
    (more : List UInt8) : wholeLines (text ++ more) = text ++ wholeLines more := by
  have hmore : wholeLines more ++ more.rtakeWhile (· ≠ newline) = more :=
    List.rdropWhile_append_rtakeWhile
  have hnone : newline ∉ more.rtakeWhile (· ≠ newline) := fun hmem => by
    simpa using List.mem_rtakeWhile_imp hmem
  rw [← wholeLines_append (h.append (endsLine_wholeLines more)) hnone, List.append_assoc, hmore]

/-- The first items of some texts are the same whatever stands behind them. -/
theorem getElem?_throughError_append {xs : List Item} {k : Nat} (hk : k < xs.length)
    (ys : List Item) : (throughError (xs ++ ys))[k]? = (throughError xs)[k]? := by
  rw [throughError_append]
  cases hx : hasError (throughError xs) with
  | true => rw [if_pos rfl]
  | false =>
    rw [hasError_throughError] at hx
    rw [if_neg Bool.false_ne_true, throughError_of_ok hx, List.getElem?_append_left hk]

/-- Behind closed texts, each with its semicolon, the statements that end are those of the rest. -/
theorem endedTexts_joined {texts : List (List UInt8)} (h : ∀ text ∈ texts, Closed d text)
    (rest : List UInt8) : endedTexts d (joined texts ++ rest) = texts ++ endedTexts d rest := by
  induction texts with
  | nil => rfl
  | cons text texts ih =>
    obtain ⟨htext, htexts⟩ := List.forall_mem_cons.mp h
    rw [joined_cons, List.append_assoc, List.cons_append,
      endedTexts_of_found (cut_eq_found_iff.mpr ⟨rfl, htext⟩), ih htexts, List.cons_append]

/-- Where a text stands among the statement texts: behind the ones before it, each with its
    semicolon, and before its own or at the end. -/
theorem eq_joined_of_pieces_eq {w text : List UInt8} {before later : List (List UInt8)}
    (h : pieces d w = before ++ text :: later) :
    (∃ more, w = joined before ++ (text ++ Mode.semicolon :: more) ∧
      ∀ t ∈ before ++ [text], Closed d t) ∨
      later = [] ∧ w = joined before ++ text := by
  obtain ⟨ended, last, hpieces, hbytes, hclosed, -⟩ := pieces_eq_joined d w
  -- the text is one of those that a semicolon ends, or what is left behind all of them
  rcases append_eq_cons_cases (hpieces.symm.trans h) with ⟨mid, rfl, -⟩ | ⟨mid, rfl, hlast⟩
  · refine .inl ⟨joined mid ++ last.getD [], ?_, fun t ht => hclosed t ?_⟩
    · rw [hbytes, joined, List.flatMap_append, List.flatMap_cons]
      simp [joined]
    · rw [List.append_cons]
      exact List.mem_append_left mid ht
  · cases last with
    | none => cases mid <;> cases hlast
    | some rest =>
      cases mid with
      | nil =>
        cases hlast
        exact .inr ⟨rfl, by rw [hbytes, List.append_nil]; rfl⟩
      | cons t mid => cases mid <;> cases hlast

/-- The bytes through the end of the line on which a semicolon stands. -/
theorem take_lineEnd (front : List UInt8) {more : List UInt8} (h : newline ∈ more) :
    ∃ line, (front ++ Mode.semicolon :: more).take
      (lineEnd (front ++ Mode.semicolon :: more) front.length) =
        front ++ Mode.semicolon :: (line ++ [newline]) := by
  obtain ⟨line, rest, rfl, hline⟩ := List.eq_append_cons_of_mem h
  have hsplit : Mode.semicolon :: (line ++ newline :: rest) =
      Mode.semicolon :: (line ++ [newline]) ++ rest := by simp
  have hend : lineEnd (front ++ Mode.semicolon :: (line ++ newline :: rest)) front.length =
      front.length + (Mode.semicolon :: (line ++ [newline])).length := by
    refine lineEnd_eq (by simp) (List.drop_left.trans hsplit) ?_ (.inl ?_)
    · rw [← List.cons_append, List.dropLast_concat]
      rintro (_ | ⟨_, hmem⟩)
      exact hline hmem
    · rw [← List.cons_append, List.getLast?_concat]
  exact ⟨line, by rw [hend, List.take_length_add_append, hsplit, List.take_left]⟩

/-- If the bytes through the end of the line on which a semicolon stands end with a newline, it is
    behind the semicolon. -/
theorem newline_mem_of_take_lineEnd {front more : List UInt8}
    (h : ((front ++ Mode.semicolon :: more).take
      (lineEnd (front ++ Mode.semicolon :: more) front.length)).getLast? = some newline) :
    newline ∈ more := by
  obtain ⟨n, hn⟩ : ∃ n, lineEnd (front ++ Mode.semicolon :: more) front.length =
      front.length + (n + 1) := by
    refine ⟨lineEnd (front ++ Mode.semicolon :: more) front.length - (front.length + 1), ?_⟩
    simp only [lineEnd, List.length_append, List.length_cons]
    omega
  rw [hn, List.take_length_add_append, List.take_succ_cons,
    List.getLast?_append_of_ne_nil _ (List.cons_ne_nil _ _)] at h
  have hmem := List.mem_of_getLast? h
  rcases List.mem_cons.mp hmem with hsemi | hmem
  · exact absurd hsemi (by decide)
  · exact List.mem_of_mem_take hmem

/-- A source that delivers closed texts, each with its semicolon, and the end of a line behind them
    has the items of these texts first, whatever else it delivers and also if it fails. -/
theorem items_of_joined_prefix {texts : List (List UInt8)} (h : ∀ text ∈ texts, Closed d text)
    {line : List UInt8} {buffers : List (List UInt8)}
    (hfront : joined texts ++ (line ++ [newline]) <+: buffers.flatten)
    (failure : Option String) :
    ∃ more, (Reader.start d (Source.ofBuffers buffers failure)).items =
      throughError (texts.flatMap (Stream.ofText d) ++ more) := by
  obtain ⟨rest, hbytes⟩ := hfront
  cases failure with
  | none =>
    rw [items_ofBuffers, textItems, pieces_eq_passage, ← hbytes, List.append_assoc,
      endedTexts_joined h, List.append_assoc, List.flatMap_append]
    exact ⟨_, rfl⟩
  | some message =>
    -- what is read before the failure goes on through the end of the line at least
    have hends : EndsLine (joined texts ++ (line ++ [newline])) := by
      intro b hb
      rw [← List.append_assoc, List.getLast?_concat] at hb
      exact (Option.some.inj hb).symm
    rw [items_interrupted, itemsBefore, ← hbytes, wholeLines_append_of_endsLine hends,
      List.append_assoc, endedTexts_joined h, List.flatMap_append, List.append_assoc]
    exact ⟨_, rfl⟩

/-- A source that delivers the bytes through the newline behind a closed text has the items of this
    text and of those before, whatever else it delivers and also if it fails. -/
theorem items_of_take_lineEnd {before : List (List UInt8)} {text more : List UInt8}
    (hclosed : ∀ t ∈ before ++ [text], Closed d t) {w : List UInt8}
    (hw : w = joined before ++ (text ++ Mode.semicolon :: more)) (hmore : newline ∈ more)
    {buffers : List (List UInt8)}
    (hfront : w.take (lineEnd w ((joined before).length + text.length)) <+: buffers.flatten)
    (failure : Option String) :
    ∃ rest, (Reader.start d (Source.ofBuffers buffers failure)).items =
      throughError ((before ++ [text]).flatMap (Stream.ofText d) ++ rest) := by
  obtain ⟨line, htake⟩ := take_lineEnd (joined before ++ text) hmore
  have hjoined : w.take (lineEnd w ((joined before).length + text.length)) =
      joined (before ++ [text]) ++ (line ++ [newline]) := by
    rw [hw, ← List.append_assoc, ← List.length_append, htake, joined_concat]
    simp
  rw [hjoined] at hfront
  exact items_of_joined_prefix hclosed hfront failure

/-- Let some call of a reader hand out an item, an error or not, whatever the buffers. It is the
    item of a statement text at some place among those of this text, and the calls before handed
    out all items that come before it. The text stands behind the ones before it, each with its
    semicolon, and the calls have taken the bytes through the end of the line on which it ends.
    Either it ends with a semicolon: then, if there is a newline at the end of this line, a reader
    of any source that delivers these bytes, whatever else the source delivers and also if it
    fails, finds the same items so far. Or it is the last text, and the calls have taken all of the
    input. -/
theorem consumption (d : Dialect) (buffers : List (List UInt8)) (k : Nat) (item : Item)
    (h : ((Reader.start d (Source.ofBuffers buffers none)).after k).next.item = some item) :
    let w := buffers.flatten
    let r := Reader.start d (Source.ofBuffers buffers none)
    let n := r.taken (k + 1)
    ∃ before text later j, pieces d w = before ++ text :: later ∧
      (Stream.ofText d text)[j]? = some item ∧
      k = (before.flatMap (Stream.ofText d)).length + j ∧
      n = lineEnd w ((joined before).length + text.length) ∧
      lineBytes (r.after (k + 1)).source.lines = w.drop n ∧
      ((∃ more, w = joined before ++ (text ++ Mode.semicolon :: more) ∧
          ((w.take n).getLast? = some newline →
            ∀ (others : List (List UInt8)) (failure : Option String),
            w.take n <+: others.flatten → ∀ i ≤ k,
              ((Reader.start d (Source.ofBuffers others failure)).after i).next.item =
                (r.after i).next.item)) ∨
        later = [] ∧ w = joined before ++ text ∧ n = w.length) := by
  intro w r n
  have hbytes : lineBytes r.source.lines = w := lineBytes_ofBuffers buffers none
  have hends : Splitter.Ends r.source :=
    ⟨(whole_after .empty List.not_mem_nil none buffers).1, ending_after {} buffers⟩
  have hlined : Lined .finished [] r.source.lines := by
    have := lined_after {} none buffers
    rwa [ending_after] at this
  have hplace : Splitter.Place d w [] {} r.source :=
    ⟨hends, rfl, by rw [hbytes]; rfl, fun _ => hbytes.symm, hlined, List.not_mem_nil⟩
  have hstands : Reader.Stands d w 0 r := .intro hplace rfl fun hne => absurd rfl hne
  obtain ⟨hleft, htaken, -⟩ := Reader.lineBytes_after hends (k + 1)
  rw [hbytes] at hleft htaken
  have hwork : Reader.Stands d w k (r.after k) := by
    refine (hstands.after k).resolve_left fun hf => ?_
    rw [Reader.next, if_pos hf] at h
    cases h
  obtain ⟨before, text, later, j, hpieces, hitem, hk, hline⟩ := hwork.next.1 item h
  -- what was taken and what is left make up the input, so the one follows from the other
  have hn : n = lineEnd w ((joined before).length + text.length) := by
    have hlen : (lineBytes (r.after k).next.reader.source.lines).length = w.length - n :=
      (congrArg List.length hleft).trans List.length_drop
    rw [hlen] at hline
    have hle : n ≤ w.length := htaken
    omega
  refine ⟨before, text, later, j, hpieces, hitem, hk, hn, hleft, ?_⟩
  rcases eq_joined_of_pieces_eq hpieces with ⟨more, hw, hclosed⟩ | ⟨hlater, hw⟩
  · refine .inl ⟨more, hw, fun hnewline others failure hfront i hi => ?_⟩
    have hi : i < ((before ++ [text]).flatMap (Stream.ofText d)).length := by
      have hj := (List.getElem?_eq_some_iff.mp hitem).1
      rw [List.flatMap_append, List.flatMap_singleton, List.length_append]
      omega
    rw [hn] at hfront hnewline
    -- the newline stands behind the semicolon, so the line ends in what follows the text
    have hmore : newline ∈ more := by
      rw [hw, ← List.append_assoc, ← List.length_append] at hnewline
      exact newline_mem_of_take_lineEnd hnewline
    obtain ⟨rest, hrest⟩ := items_of_take_lineEnd hclosed hw hmore hfront failure
    obtain ⟨rest', hrest'⟩ := items_of_take_lineEnd hclosed hw hmore (List.take_prefix _ w) none
    rw [Reader.item_after, Reader.item_after, hrest, hrest', getElem?_throughError_append hi,
      getElem?_throughError_append hi]
  · refine .inr ⟨hlater, hw, ?_⟩
    have hlen : (joined before).length + text.length = w.length := by
      rw [hw, List.length_append]
    rw [hn, hlen, lineEnd]
    omega

/-- The second of two selections on a line, before a third one and a line that is not taken. A
    source that fails behind this line has the same item. -/
theorem consumption_of_second_statement :
    let buffers := [Utf8.encode "SELECT 1; SELECT", Utf8.encode " 2;SELECT 3\n;SELECT"]
    let others := [Utf8.encode "SELECT 1; SELECT 2;SELECT 3\n'"]
    let r := Reader.start .mysql (Source.ofBuffers buffers none)
    (r.after 1).next.item.isSome = true ∧ r.taken 2 = 28 ∧
      (buffers.flatten.take 28).getLast? = some newline ∧
      buffers.flatten.take 28 <+: others.flatten ∧
      ((Reader.start .mysql (Source.ofBuffers others (some "input closed"))).after 1).next.item =
        (r.after 1).next.item := by
  intro buffers others r
  have hsome : (r.after 1).next.item.isSome = true := by decide +kernel
  have hn : r.taken 2 = 28 := by decide +kernel
  have hnewline : (buffers.flatten.take 28).getLast? = some newline := by decide +kernel
  have hfront : buffers.flatten.take 28 <+: others.flatten := by decide +kernel
  refine ⟨hsome, hn, hnewline, hfront, ?_⟩
  obtain ⟨item, hitem⟩ := Option.isSome_iff_exists.mp hsome
  obtain ⟨before, text, later, j, -, -, -, -, -, ⟨more, -, hsame⟩ | ⟨-, -, hall⟩⟩ :=
    consumption .mysql buffers 1 item hitem
  · rw [hn] at hsame
    exact hsame hnewline others (some "input closed") hfront 1 (Nat.le_refl 1)
  · have hlen : buffers.flatten.length = 35 := by decide +kernel
    rw [hn, hlen] at hall
    cases hall

end QueryAudit
