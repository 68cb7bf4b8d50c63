import QueryAudit.CommandLine
import QueryAudit.Proofs.Extracting
import QueryAudit.Proofs.FileTrees
import QueryAudit.Proofs.Lines

/-!
# Runs of the program

A run is determined by its arguments, by what the paths in them open, and by standard input where no
path takes its place. What it comes to is what its audit or its extraction comes to, with the error
that ended it as the last line of the diagnoses. Whatever happens, it writes lines of text.
-/

namespace QueryAudit

open CommandLine

variable {opened opened' : String → Opening} {input input' : Source} {arguments : List String}

/-! ### What a run depends on -/

/-- A command takes its statements from its path, or else from standard input. -/
theorem CommandLine.statements_congr {file : Option String}
    (hfile : ∀ path ∈ file, opened path = opened' path)
    (hinput : file.isNone = true → input = input') :
    statements opened input file = statements opened' input' file := by
  cases file with
  | none => exact congrArg Except.ok (hinput rfl)
  | some path => rw [statements, statements, hfile path rfl]

/-- What a command comes to depends only on what its paths open, and on standard input if it reads
    that. -/
theorem Command.run_congr (command : Command)
    (hpaths : ∀ path ∈ command.paths, opened path = opened' path)
    (hinput : command.readsStandardInput = true → input = input') :
    command.run opened input = command.run opened' input' := by
  cases command with
  | check index file config =>
    obtain ⟨hindex, hfile⟩ := List.forall_mem_cons.mp hpaths
    have hstatements :=
      statements_congr (fun path h => hfile path (Option.mem_toList.mpr h)) hinput
    rw [run, run, hindex, hstatements]
  | extract file dialect =>
    have hstatements :=
      statements_congr (fun path h => hpaths path (Option.mem_toList.mpr h)) hinput
    rw [run, run, hstatements]

/-- What a run comes to depends only on what the paths in its arguments open, and on standard input
    if that is read for them. -/
theorem run_congr (hpaths : ∀ path ∈ pathsFor arguments, opened path = opened' path)
    (hinput : readsInputFor arguments = true → input = input') :
    run opened input arguments = run opened' input' arguments := by
  rw [run, run]
  cases hparse : Command.parse arguments with
  | error m => rfl
  | ok command =>
    rw [pathsFor, hparse] at hpaths
    rw [readsInputFor, hparse] at hinput
    exact command.run_congr hpaths hinput

theorem CommandLine.openedAmong_map {paths : List String} {path : String} (h : path ∈ paths) :
    openedAmong (paths.map fun path => (path, opened path)) path = opened path := by
  induction paths with
  | nil => cases h
  | cons p paths ih =>
    rw [openedAmong, List.map_cons, List.lookup_cons]
    cases hp : path == p with
    | true =>
      rw [eq_of_beq hp]
      rfl
    | false =>
      have hne : path ≠ p := ne_of_beq_false hp
      exact ih ((List.mem_cons.mp h).resolve_left hne)

/-- It is enough to open the paths of the arguments beforehand, and to read standard input only if
    they ask for it. -/
theorem run_openedAmong (opened : String → Opening) (input : Source) (arguments : List String) :
    run (openedAmong ((pathsFor arguments).map fun path => (path, opened path)))
        (if readsInputFor arguments then input else .ofBytes []) arguments =
      run opened input arguments :=
  run_congr (fun _ hpath => openedAmong_map hpath) fun hinput => if_pos hinput

/-- A run over a tree of files is not changed by what is put at a path that parts from those of its
    arguments, unless one of them was refused. -/
theorem run_put_of_part {t : FileTree} {others : List String}
    (hpaths : ∀ path ∈ pathsFor arguments, FileTree.Followed path ∧
      FileTree.Part others (FileTree.names path) ∧ ∀ why, t.openPath path ≠ .refused why)
    (added : FileTree) :
    run (FileTree.put added others t).openPath input arguments =
      run t.openPath input arguments := by
  refine run_congr (fun path hpath => ?_) fun _ => rfl
  obtain ⟨hfollowed, hpart, hopen⟩ := hpaths path hpath
  exact FileTree.openPath_put_of_part hfollowed hpart added hopen

/-! ### What a run comes to -/

theorem writeLine_diag {output : Output} (h : output.diag.limit = none) (text : String) :
    (output.writeLine .diag text).state.diag =
        { output.diag with written := output.diag.written ++ lineBytesOf text } ∧
      (output.writeLine .diag text).state.out = output.out := by
  have hne : Channel.out ≠ .diag := by decide
  exact ⟨(output.sink_writeBytes .diag _).trans (Sink.write_of_unlimited h _),
    output.sink_writeBytes_of_ne hne _⟩

/-- The line on the error that ended a run, if one did. -/
def errorLine {α : Type} : Except Error α → List UInt8
  | .ok _ => []
  | .error e => lineBytesOf ("error: " ++ e.message)

/-- A run ends with what its work has written, the error that ended the work, and the status that
    tells of it. -/
theorem CommandLine.completed_eq {α : Type} {output : Output} (h : output.diag.limit = none)
    (result : Except Error α) :
    (completed output result).output.out = output.out ∧
      (completed output result).output.diag.written = output.diag.written ++ errorLine result ∧
      (completed output result).status = if result.isOk then 0 else 1 := by
  cases result with
  | ok a => exact ⟨rfl, (List.append_nil _).symm, rfl⟩
  | error e =>
    obtain ⟨hdiag, hout⟩ := writeLine_diag h ("error: " ++ e.message)
    exact ⟨hout, congrArg Sink.written hdiag, rfl⟩

/-- A run that has come to the outcome of an audit. What ended the audit before all statements were
    checked is the last line of the diagnoses and gives the status. The catalog is noted first, and
    the counts last if all were checked. -/
structure Completed.Reports (done : Completed) (catalog : Catalog) (outcome : Outcome) : Prop where
  out : done.output.out.written = outcome.out
  diag : done.output.diag.written = outcome.diag ++ errorLine outcome.result
  status : done.status = if outcome.result.isOk then 0 else 1
  notes : done.notes = catalog.note :: outcome.notes
  closing : done.closing = outcome.result.toOption.map closingOf

/-- A run that checks statements comes to the outcome of their items. -/
theorem run_check {index : String} {file : Option String} {config : Config}
    (hparse : Command.parse arguments = .ok (.check index file config)) {catalog : Catalog}
    (hcatalog : (opened index).catalog index = .ok catalog) {source : Source}
    (hsource : statements opened input file = .ok source) :
    (run opened input arguments).Reports catalog
      (.ofItems catalog config (Reader.start config.dialect source).items) := by
  have hdone : run opened input arguments =
      { completed (audit catalog config source {}).output (audit catalog config source {}).result
        with
          notes := catalog.note :: (audit catalog config source {}).notes
          closing := (audit catalog config source {}).result.toOption.map closingOf } := by
    simp only [run, hparse, Command.run, Opening.load, hcatalog, hsource, Except.map]
  -- the diagnoses are still open for the error
  have hlimit := congrArg Sink.limit (diag_audit catalog config source)
  obtain ⟨hout, hdiag, hstatus⟩ := completed_eq hlimit (audit catalog config source {}).result
  rw [hdone, ← outcome_audit]
  exact ⟨congrArg Sink.written hout, hdiag, hstatus, rfl, rfl⟩

/-- A run over a tree in which files were put, one of them the index list and one the statements. -/
theorem run_check_ofFiles {files : List (String × FileTree)}
    (hfollowed : ∀ file ∈ files, FileTree.Followed file.1)
    (hpart : files.Pairwise fun file other =>
      FileTree.Part (FileTree.names file.1) (FileTree.names other.1))
    {index file : String} {config : Config}
    (hparse : Command.parse arguments = .ok (.check index (some file) config))
    {records statements : List UInt8} (hindex : (index, .file records) ∈ files)
    (hfile : (file, .file statements) ∈ files) {catalog : Catalog}
    (hcatalog : Csv.catalog records = .ok catalog) (t : FileTree) :
    (run (FileTree.ofFiles files t).openPath input arguments).Reports catalog
      (.ofItems catalog config (Reader.start config.dialect (.ofBytes statements)).items) := by
  have hopened := FileTree.openPath_ofFiles hfollowed hpart hindex t
  have hstatements := FileTree.openPath_ofFiles hfollowed hpart hfile t
  refine run_check hparse ?_ ?_
  · rw [hopened]
    exact hcatalog
  · rw [CommandLine.statements, hstatements]
    rfl

/-- A run that extracts columns writes the records of its items. What ended it is the only line of
    the diagnoses and gives the status. Nothing is noted. -/
theorem run_extract {file : Option String} {dialect : Dialect}
    (hparse : Command.parse arguments = .ok (.extract file dialect)) {source : Source}
    (hsource : statements opened input file = .ok source) :
    let items := (Reader.start dialect source).items
    let done := run opened input arguments
    done.output.out.written = recordLines (recordsOf items) ∧
    done.output.diag.written =
      (match haltOf items with
      | none => []
      | some e => lineBytesOf ("error: " ++ e.message)) ∧
    done.status = (if haltOf items = none then 0 else 1) ∧
    done.notes = [] ∧
    done.closing = none := by
  intro items done
  obtain ⟨hwritten, hnone, hresult⟩ := extract_eq_batch dialect source
  have hdone : done = completed (extract dialect source {}).output
      (extract dialect source {}).result := by
    simp only [done, run, hparse, Command.run, hsource]
  obtain ⟨hout, hdiag, hstatus⟩ :=
    completed_eq (congrArg Sink.limit hnone) (extract dialect source {}).result
  have hnotes : done.notes = [] ∧ done.closing = none := by
    rw [hdone]
    cases (extract dialect source {}).result <;> exact ⟨rfl, rfl⟩
  have herror : errorLine (extract dialect source {}).result =
      match haltOf items with
      | none => []
      | some e => lineBytesOf ("error: " ++ e.message) := by
    rw [hresult]
    cases haltOf (Reader.start dialect source).items <;> rfl
  rw [hdone] at hnotes ⊢
  refine ⟨(congrArg Sink.written hout).trans hwritten, ?_, ?_, hnotes⟩
  · rw [hdiag, hnone, herror]
    rfl
  · rw [hstatus, hresult]
    cases haltOf (Reader.start dialect source).items <;> rfl

/-! ### What a run writes -/

/-- Bytes that are lines of text. -/
def AreLines (bytes : List UInt8) : Prop :=
  ∃ texts : List String, bytes = texts.flatMap lineBytesOf

namespace AreLines

variable {bytes more : List UInt8}

theorem nil : AreLines [] :=
  ⟨[], rfl⟩

theorem line (text : String) : AreLines (lineBytesOf text) :=
  ⟨[text], (List.flatMap_singleton _ _).symm⟩

theorem append (h : AreLines bytes) (hmore : AreLines more) : AreLines (bytes ++ more) := by
  obtain ⟨texts, rfl⟩ := h
  obtain ⟨others, rfl⟩ := hmore
  exact ⟨texts ++ others, List.flatMap_append.symm⟩

theorem flatMap {α : Type} (xs : List α) (text : α → String) :
    AreLines (xs.flatMap fun x => lineBytesOf (text x)) :=
  ⟨xs.map text, (List.flatMap_map ..).symm⟩

theorem errorLine {α : Type} (result : Except Error α) : AreLines (errorLine result) := by
  cases result with
  | ok a => exact nil
  | error e => exact line _

/-- An outcome has lines on both channels. -/
theorem outcome (catalog : Catalog) (config : Config) (items : List Item) :
    AreLines (Outcome.ofItems catalog config items).out ∧
      AreLines (Outcome.ofItems catalog config items).diag := by
  refine ⟨flatMap _ _, (flatMap _ _).append ?_⟩
  rw [Outcome.summaryOf]
  split
  · exact line _
  · exact nil

end AreLines

/-- An output that has lines on both channels. -/
def Output.HasLines (o : Output) : Prop :=
  ∀ c, AreLines (o.sink c).written

theorem Output.HasLines.of_line (c : Channel) (text : String) :
    (({} : Output).writeLine c text).state.HasLines := by
  intro c'
  have hempty : (({} : Output).sink c').written = [] ∧ (({} : Output).sink c').limit = none := by
    cases c' <;> exact ⟨rfl, rfl⟩
  rw [writeLine]
  by_cases hc : c' = c
  · subst hc
    rw [sink_writeBytes, Sink.write_of_unlimited hempty.2, hempty.1]
    exact .line text
  · rw [sink_writeBytes_of_ne _ hc, hempty.1]
    exact .nil

theorem Output.HasLines.of_channels {o : Output} (hout : AreLines o.out.written)
    (hdiag : AreLines o.diag.written) : o.HasLines := by
  intro c
  cases c with
  | out => exact hout
  | diag => exact hdiag

/-- A run writes lines of text to both channels, whatever it is given. -/
theorem hasLines_run (opened : String → Opening) (input : Source) (arguments : List String) :
    (run opened input arguments).output.HasLines := by
  -- a run that does not come to its statements writes one line and stops
  cases hparse : Command.parse arguments with
  | error m =>
    rw [run, hparse]
    cases m with
    | help => exact .of_line .out usage
    | wrong => exact .of_line .diag usage
  | ok command =>
    cases command with
    | check index file config =>
      cases hcatalog : (opened index).catalog index with
      | error e =>
        simp only [run, hparse, Command.run, Opening.load, hcatalog, Except.map]
        exact .of_line .diag _
      | ok catalog =>
        cases hsource : statements opened input file with
        | error why =>
          simp only [run, hparse, Command.run, Opening.load, hcatalog, Except.map, hsource]
          exact .of_line .diag _
        | ok source =>
          have hdone := run_check hparse hcatalog hsource
          obtain ⟨hlines, hlines'⟩ := AreLines.outcome catalog config
            (Reader.start config.dialect source).items
          exact .of_channels (hdone.out ▸ hlines) (hdone.diag ▸ hlines'.append (.errorLine _))
    | extract file dialect =>
      cases hsource : statements opened input file with
      | error why =>
        simp only [run, hparse, Command.run, hsource]
        exact .of_line .diag _
      | ok source =>
        obtain ⟨hout, hdiag, -⟩ := run_extract hparse hsource
        refine .of_channels (hout ▸ .flatMap _ _) (hdiag ▸ ?_)
        split
        · exact .nil
        · exact .line _

/-- What a run writes to a channel is shown as the lines that were written: no byte of it is at
    fault as UTF-8, so that nothing has to be replaced. -/
theorem decodeLossy_run (opened : String → Opening) (input : Source) (arguments : List String)
    (c : Channel) :
    ∃ texts : List String,
      ((run opened input arguments).output.sink c).written = texts.flatMap lineBytesOf ∧
      (Utf8.decodeLossy ((run opened input arguments).output.sink c).written).toList =
        texts.flatMap fun text => text.toList ++ ['\n'] := by
  obtain ⟨texts, htexts⟩ := hasLines_run opened input arguments c
  refine ⟨texts, htexts, ?_⟩
  have hencode : texts.flatMap lineBytesOf =
      Utf8.encode (String.ofList (texts.flatMap fun text => text.toList ++ ['\n'])) := by
    rw [flatMap_lineBytesOf, Utf8.encode_eq, String.toList_ofList]
  rw [htexts, hencode, Utf8.decodeLossy_encode, String.toList_ofList]

end QueryAudit
