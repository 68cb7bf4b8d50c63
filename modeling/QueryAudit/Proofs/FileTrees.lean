import QueryAudit.Files

/-!
# Trees of files

A path whose names all stand for entries is followed name by name. It opens what was put at it last,
and putting something at a path leaves every other path as it is that parts from the first one
somewhere, unless a file was on its way.
-/

namespace QueryAudit.FileTree

/-- A name that is looked up among the entries of a directory. -/
def Plain (name : String) : Prop :=
  name ≠ "" ∧ name ≠ "." ∧ name ≠ ".." ∧ name.utf8ByteSize ≤ longestName

instance (name : String) : Decidable (Plain name) :=
  inferInstanceAs (Decidable (_ ∧ _))

/-- Paths that have a last directory in common and go on with different names from there. -/
def Part (names others : List String) : Prop :=
  ¬names <+: others ∧ ¬others <+: names

instance (names others : List String) : Decidable (Part names others) :=
  inferInstanceAs (Decidable (_ ∧ _))

theorem Part.symm {names others : List String} (h : Part names others) : Part others names :=
  And.symm h

theorem Part.exists_cons {names others : List String} (h : Part names others) :
    ∃ a as b bs, names = a :: as ∧ others = b :: bs ∧ (a = b → Part as bs) := by
  obtain ⟨hfront, hback⟩ := h
  cases names with
  | nil => exact absurd List.nil_prefix hfront
  | cons a as =>
    cases others with
    | nil => exact absurd List.nil_prefix hback
    | cons b bs =>
      refine ⟨a, as, b, bs, rfl, rfl, ?_⟩
      rintro rfl
      rw [List.cons_prefix_cons] at hfront hback
      exact ⟨fun h => hfront ⟨rfl, h⟩, fun h => hback ⟨rfl, h⟩⟩

theorem lookup_filter_ne {α : Type} {name other : String} (h : other ≠ name)
    (entries : List (String × α)) :
    (entries.filter fun e => e.1 ≠ name).lookup other = entries.lookup other := by
  induction entries with
  | nil => rfl
  | cons e entries ih =>
    obtain ⟨key, value⟩ := e
    by_cases hkey : key = name
    · have hother : (other == key) = false := beq_eq_false_iff_ne.mpr (hkey ▸ h)
      rw [List.filter_cons_of_neg (by simpa using hkey), ih, List.lookup_cons, hother]
    · rw [List.filter_cons_of_pos (by simpa using hkey), List.lookup_cons, List.lookup_cons, ih]

/-! ### One name -/

/-- A plain name leads to its entry. -/
theorem walk_cons {name : String} (h : Plain name) (above : List FileTree)
    (entries : List (String × FileTree)) (names : List String) :
    walk above (.directory entries) (name :: names) =
      match entries.lookup name with
      | some t => walk (.directory entries :: above) t names
      | none => .missing := by
  obtain ⟨hname, hhere, hup, hshort⟩ := h
  have hstay : ¬(decide (name = "") || decide (name = ".")) = true := by simp [hname, hhere]
  have hlong : ¬name.utf8ByteSize > longestName := Nat.not_lt.mpr hshort
  exact (if_neg hstay).trans ((if_neg hup).trans (if_neg hlong))

theorem walk_empty {names : List String} (h : ∀ name ∈ names, Plain name) (hne : names ≠ [])
    (above : List FileTree) : walk above empty names = .missing := by
  cases names with
  | nil => exact absurd rfl hne
  | cons name names => exact walk_cons (h name List.mem_cons_self) above [] names

/-! ### All names -/

/-- Along plain names nothing above a tree matters. -/
theorem walk_above {names : List String} (h : ∀ name ∈ names, Plain name)
    (above above' : List FileTree) (t : FileTree) :
    walk above t names = walk above' t names := by
  induction names generalizing above above' t with
  | nil => rfl
  | cons name names ih =>
    obtain ⟨hname, hnames⟩ := List.forall_mem_cons.mp h
    cases t with
    | file bytes => rfl
    | directory entries =>
      rw [walk_cons hname, walk_cons hname]
      cases entries.lookup name with
      | none => rfl
      | some t => exact ih hnames _ _ t

/-- What is put at plain names is reached by them. -/
theorem walk_put {names : List String} (h : ∀ name ∈ names, Plain name) (added t : FileTree)
    (above : List FileTree) : walk above (put added names t) names = added.opening := by
  induction names generalizing t above with
  | nil => rfl
  | cons name names ih =>
    obtain ⟨hname, hnames⟩ := List.forall_mem_cons.mp h
    rw [put, walk_cons hname, List.lookup_cons_self]
    exact ih hnames _ _

/-- Names that part from those something is put at lead where they did, unless to a refusal: there
    a file was on the way, which had to give way to a directory. -/
theorem walk_put_of_part {names others : List String} (h : ∀ name ∈ others, Plain name)
    (hpart : Part names others) (added t : FileTree) (above : List FileTree)
    (hopen : ∀ why, walk above t others ≠ .refused why) :
    walk above (put added names t) others = walk above t others := by
  induction names generalizing others t above with
  | nil => exact absurd List.nil_prefix hpart.1
  | cons a names ih =>
    obtain ⟨_, _, b, others, ⟨⟩, rfl, hrest⟩ := hpart.exists_cons
    obtain ⟨hb, hothers⟩ := List.forall_mem_cons.mp h
    cases t with
    | file bytes => exact absurd rfl (hopen _)
    | directory entries =>
      rw [put, walk_cons hb, walk_cons hb]
      rw [walk_cons hb] at hopen
      by_cases hab : a = b
      · -- the same directory, which was there or is made now
        subst hab
        obtain ⟨_, _, _, _, -, hcons, -⟩ := (hrest rfl).exists_cons
        have hne : others ≠ [] := by
          rw [hcons]
          exact List.cons_ne_nil _ _
        rw [List.lookup_cons_self, entries_directory]
        cases hl : entries.lookup a with
        | none =>
          have hmissing := walk_empty hothers hne
          refine (ih hothers (hrest rfl) empty _ ?_).trans (hmissing _)
          intro why
          rw [hmissing]
          exact nofun
        | some inner =>
          rw [hl] at hopen
          simp only [walk_above hothers _ (.directory entries :: above)]
          exact ih hothers (hrest rfl) inner _ hopen
      · -- another entry, which stays
        have hba : (b == a) = false := beq_eq_false_iff_ne.mpr (Ne.symm hab)
        rw [List.lookup_cons, hba]
        dsimp only
        rw [entries_directory, lookup_filter_ne (Ne.symm hab)]
        cases entries.lookup b with
        | none => rfl
        | some inner => exact walk_above hothers _ _ inner

/-! ### Paths -/

/-- A path that is followed name by name from where it is opened. -/
structure Followed (path : String) : Prop where
  noZero : path.contains (Char.ofNat 0) = false
  nonempty : path ≠ ""
  short : path.utf8ByteSize ≤ longestPath
  relative : path.startsWith "/" = false
  plain : ∀ name ∈ names path, Plain name

theorem Followed.openPath_eq {path : String} (h : Followed path) (t : FileTree) :
    t.openPath path = walk [] t (names path) := by
  simp only [openPath, h.noZero, h.nonempty, h.relative, Bool.false_eq_true, if_false,
    if_neg (Nat.not_lt.mpr h.short)]

theorem openPath_put {path : String} (h : Followed path) (added t : FileTree) :
    (put added (names path) t).openPath path = added.opening := by
  rw [h.openPath_eq, walk_put h.plain]

/-- A path that could be opened, or where nothing was, opens the same when something is put at a
    path that parts from it. -/
theorem openPath_put_of_part {path : String} (h : Followed path) {others : List String}
    (hpart : Part others (names path)) (added : FileTree) {t : FileTree}
    (hopen : ∀ why, t.openPath path ≠ .refused why) :
    (put added others t).openPath path = t.openPath path := by
  rw [h.openPath_eq] at hopen ⊢
  rw [h.openPath_eq, walk_put_of_part h.plain hpart added t [] hopen]

example : Followed "a/b" := by
  have hnames : names "a/b" = ["a", "b"] := by cbv
  refine ⟨by cbv, by decide, by decide, by cbv, ?_⟩
  rw [hnames]
  decide

/-- The tree of files that are put at paths, one after the other. -/
def ofFiles (files : List (String × FileTree)) (t : FileTree) : FileTree :=
  files.foldl (fun t file => put file.2 (names file.1) t) t

theorem opening_ne_refused (t : FileTree) (why : String) : t.opening ≠ .refused why := by
  cases t <;> exact nofun

/-- What a path opens stays when files are put at paths that part from it. -/
theorem openPath_ofFiles_of_part {path : String} (h : Followed path)
    {files : List (String × FileTree)} (hpart : ∀ file ∈ files, Part (names file.1) (names path))
    {t : FileTree} (hopen : ∀ why, t.openPath path ≠ .refused why) :
    (ofFiles files t).openPath path = t.openPath path := by
  induction files generalizing t with
  | nil => rfl
  | cons file files ih =>
    obtain ⟨hfile, hfiles⟩ := List.forall_mem_cons.mp hpart
    have hput := openPath_put_of_part h hfile file.2 hopen
    exact (ih hfiles fun why => hput ▸ hopen why).trans hput

/-- Of files that are put at paths that part from each other each is opened at its path. -/
theorem openPath_ofFiles {files : List (String × FileTree)}
    (hplain : ∀ file ∈ files, Followed file.1)
    (hpart : files.Pairwise fun file other => Part (names file.1) (names other.1))
    {path : String} {content : FileTree} (hmem : (path, content) ∈ files) (t : FileTree) :
    (ofFiles files t).openPath path = content.opening := by
  induction files generalizing t with
  | nil => cases hmem
  | cons file files ih =>
    obtain ⟨hfile, hfiles⟩ := List.forall_mem_cons.mp hplain
    obtain ⟨hfirst, hothers⟩ := List.pairwise_cons.mp hpart
    rcases List.mem_cons.mp hmem with rfl | hmem
    · -- what is put behind it parts from it
      have hput := openPath_put hfile content t
      have hopen (why : String) : (put content (names path) t).openPath path ≠ .refused why :=
        hput ▸ opening_ne_refused content why
      have hothers' := fun other hother => (hfirst other hother).symm
      exact (openPath_ofFiles_of_part hfile hothers' hopen).trans hput
    · exact ih hfiles hothers hmem _

end QueryAudit.FileTree
