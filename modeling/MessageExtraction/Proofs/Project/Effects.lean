import MessageExtraction.Proofs.Project.Catalogs

/-!
# What a run changes

A run that ends changes the file system only for the catalogs of files with messages, and what becomes of a
file depends on that file alone.

* `surface?_emit`, `surface?_of_emit`, `Writes.surface?`: what writing a catalog, the catalog of a file, and
  those of a run change, position by position.
* `eq_outcomeOf_of_runFile`: what becomes of a file is a function of its path and text.
* `runFiles_filter`: files that fail could as well not be there.
* `run_effects`: all of it for a whole run.
-/

namespace MessageExtraction

open Syntax (Tree)

/-- Whether a directory holds what a path names, as the path is written. -/
inductive Path.Holds (directory : Path) : Path → Prop
  | parent {path : Path} : path.parent? = some directory → directory.Holds path
  | above {path parent : Path} :
      path.parent? = some parent → directory.Holds parent → directory.Holds path

theorem Path.eq_or_holds_of_mem_ancestorsWithin {n : Nat} {directory path : Path}
    (h : directory ∈ path.ancestorsWithin n) : directory = path ∨ directory.Holds path := by
  induction n generalizing path with
  | zero => exact .inl (List.mem_singleton.mp h)
  | succ n ih =>
    rw [ancestorsWithin] at h
    split at h
    · rename_i parent held
      rcases List.mem_cons.mp h with rfl | mem
      · exact .inl rfl
      · rcases ih mem with rfl | holds
        · exact .inr (.parent held)
        · exact .inr (.above held holds)
    · exact .inl (List.mem_singleton.mp h)

/-! ## One catalog -/

namespace Catalog

variable {fs fs' : FileSystem} {source root : Path} {messages : List Descriptor}
  {written : Option Path}

/-- The path of the catalog that is written for a source file, if one is. -/
def noted (outputDirectory : Option String) (source root : Path) (messages : List Descriptor) :
    Option Path :=
  if messages = [] then none else outputDirectory.map fun directory => path ⟨directory⟩ source root

theorem emit_none (fs : FileSystem) (source root : Path) (messages : List Descriptor) :
    emit fs none source root messages = (fs, .ok none) := rfl

theorem noted_of_emit {outputDirectory : Option String}
    (h : emit fs outputDirectory source root messages = (fs', .ok written)) :
    written = noted outputDirectory source root messages := by
  rw [noted]
  split
  · rename_i eq
    rw [eq, emit_nil] at h
    cases h
    rfl
  · rename_i nonempty
    cases outputDirectory with
    | none =>
      cases h
      rfl
    | some directory => exact (emit_ok nonempty h).1

/-- A catalog is written by making directories and writing one file. -/
theorem emit_steps {directory : String} (nonempty : messages ≠ [])
    (h : emit fs (some directory) source root messages = (fs', .ok written)) :
    ∃ fs₁, fs.makeDirectories ((path ⟨directory⟩ source root).parent?.getD ⟨""⟩) = (fs₁, none)
      ∧ fs₁.write (path ⟨directory⟩ source root) (.text (text messages)) = .ok fs' := by
  cases messages with
  | nil => contradiction
  | cons message messages =>
    rw [emit.eq_def] at h
    dsimp only at h
    split at h
    · cases h
    rename_i fs₁ made
    split at h
    · cases h
    rename_i wrote
    cases h
    exact ⟨fs₁, made, wrote⟩

theorem grows_emit {outputDirectory : Option String}
    (h : emit fs outputDirectory source root messages = (fs', .ok written)) : fs.Grows fs' := by
  by_cases nonempty : messages = []
  · rw [nonempty, emit_nil] at h
    cases h
    exact .refl _
  · cases outputDirectory with
    | none =>
      cases h
      exact .refl _
    | some directory =>
      obtain ⟨fs₁, made, wrote⟩ := emit_steps nonempty h
      exact (FileSystem.grows_makeDirectories made).trans (FileSystem.write_again wrote).1

/-- Writing a catalog changes what its path leads to, and makes directories that hold it. -/
theorem surface?_emit {directory : String} (nonempty : messages ≠ [])
    (h : emit fs (some directory) source root messages = (fs', .ok written)) (position : Position) :
    fs'.surface? position = fs.surface? position
      ∨ (fs'.locate (path ⟨directory⟩ source root) = .ok position
        ∧ fs'.surface? position = some (.file (.text (text messages))))
      ∨ ∃ above : Path, above.Holds (path ⟨directory⟩ source root) ∧ fs.Made fs' above position := by
  obtain ⟨fs₁, made, wrote⟩ := emit_steps nonempty h
  obtain ⟨target, -, located, file, others⟩ := FileSystem.surface?_write wrote
  by_cases eq : position = target
  · subst eq
    exact .inr (.inl ⟨located, file⟩)
  rw [others position eq]
  refine (FileSystem.surface?_makeDirectories made position).imp id fun ⟨above, mem, held, made⟩ => ?_
  refine .inr ⟨above, ?_, made.grows (FileSystem.write_again wrote).1⟩
  cases parent : (path ⟨directory⟩ source root).parent? with
  | none =>
    -- A path without a directory needs none.
    rw [parent, Option.getD_none] at mem
    obtain rfl : above = ⟨""⟩ := List.mem_singleton.mp mem
    exact absurd held (by decide)
  | some p =>
    rw [parent, Option.getD_some] at mem
    rcases Path.eq_or_holds_of_mem_ancestorsWithin mem with rfl | holds
    · exact .parent parent
    · exact .above parent holds

end Catalog

/-! ## One file -/

namespace Outcome

variable {outcome : Outcome} {fs fs₁ fs' : FileSystem} {position : Position}

/-- Whether what became of a file accounts for what stands at a position: the file has messages, and either
its catalog is there, or a directory that holds its catalog was made there. -/
inductive Accounts (outcome : Outcome) (fs fs' : FileSystem) (position : Position) : Prop
  | catalog {path : Path} : outcome.messages ≠ [] → outcome.catalog? = some path →
      fs'.locate path = .ok position →
      fs'.surface? position = some (.file (.text (Catalog.text outcome.messages))) →
      outcome.Accounts fs fs' position
  | directory {path above : Path} : outcome.messages ≠ [] → outcome.catalog? = some path →
      above.Holds path → fs.Made fs' above position → outcome.Accounts fs fs' position

theorem Accounts.surface?_ne_none (h : outcome.Accounts fs fs' position) :
    fs'.surface? position ≠ none := by
  cases h with
  | catalog _ _ _ held => simp [held]
  | directory _ _ _ made => simp [made.after]

theorem Accounts.messages_ne_nil (h : outcome.Accounts fs fs' position) : outcome.messages ≠ [] := by
  cases h <;> assumption

/-- What a file accounts for stays so if nothing else comes there. -/
theorem Accounts.of_earlier (h : outcome.Accounts fs fs₁ position) (grows : fs₁.Grows fs')
    (same : fs'.surface? position = fs₁.surface? position) : outcome.Accounts fs fs' position := by
  cases h with
  | catalog nonempty noted located held =>
    exact .catalog nonempty noted (grows.locate located) (same.trans held)
  | directory nonempty noted holds made => exact .directory nonempty noted holds (made.grows grows)

theorem Accounts.of_later (h : outcome.Accounts fs₁ fs' position)
    (before : fs₁.surface? position = none → fs.surface? position = none) :
    outcome.Accounts fs fs' position := by
  cases h with
  | catalog nonempty noted located held => exact .catalog nonempty noted located held
  | directory nonempty noted holds made =>
    exact .directory nonempty noted holds ⟨before made.before, made.located, made.after⟩

theorem messages_of_isFailure (h : outcome.isFailure = true) : outcome.messages = [] := by
  rw [isFailure] at h
  rw [messages]
  cases result : outcome.result with
  | ok extracted =>
    rw [result] at h
    cases h
  | error unusable => rfl

end Outcome

namespace Project

variable {project : Project} {parse : Parser} {fs fs' : FileSystem} {path : String}
  {paths : List String} {outcome : Outcome} {outcomes : List Outcome} {remarks : List String}

/-- What becomes of a file with that text. -/
def outcomeOf (project : Project) (parse : Parser) (path source : String) : Outcome where
  path := path
  source := source
  result :=
    match parse path source with
    | .error reason => .error (.unparsed (parseText path reason))
    | .ok tree =>
        let session := ((Pass.ofModule project.config ⟨path, source⟩ tree).extract tree).2
        match session.fault with
        | some fault => .error (.faulty fault)
        | none =>
            let messages := session.registry.entries
            .ok ⟨messages, session.warnings,
              Catalog.noted project.config.messagesDir ⟨path⟩ project.root messages⟩

/-- What becomes of a file depends on its path and its text alone. -/
theorem eq_outcomeOf_of_runFile (h : project.runFile parse fs path = (fs', remarks, .ok outcome)) :
    outcome = project.outcomeOf parse path outcome.source := by
  cases runsTo_of_runFile h with
  | unparsed refused => simp only [outcomeOf, refused]
  | faulty parsed run stopped => simp only [outcomeOf, parsed, run, stopped]
  | extracted parsed run ended emitted =>
    simp only [outcomeOf, parsed, run, ended, ← Catalog.noted_of_emit emitted]

theorem eq_of_runFile_of_failure (h : project.runFile parse fs path = (fs', remarks, .ok outcome))
    (failed : outcome.isFailure = true) : fs' = fs := by
  have emitted := (runFile_ok h).2
  rw [Outcome.messages_of_isFailure failed, Catalog.emit_nil] at emitted
  exact (congrArg Prod.fst emitted).symm

/-- The catalog of a file is all that extracting it changes. -/
theorem surface?_of_emit {directory : Option String} {root : Path}
    (emitted : Catalog.emit fs directory ⟨outcome.path⟩ root outcome.messages
      = (fs', .ok outcome.catalog?)) (position : Position) :
    fs'.surface? position = fs.surface? position ∨ outcome.Accounts fs fs' position := by
  by_cases nonempty : outcome.messages = []
  · rw [nonempty, Catalog.emit_nil] at emitted
    exact .inl (congrArg (FileSystem.surface? · position) (congrArg Prod.fst emitted).symm)
  cases directory with
  | none =>
    rw [Catalog.emit_none] at emitted
    exact .inl (congrArg (FileSystem.surface? · position) (congrArg Prod.fst emitted).symm)
  | some directory =>
    have noted := (Catalog.emit_ok nonempty emitted).1
    rcases Catalog.surface?_emit nonempty emitted position with same | ⟨located, held⟩ | ⟨above, holds, made⟩
    · exact .inl same
    · exact .inr (.catalog nonempty noted located held)
    · exact .inr (.directory nonempty noted holds made)

/-! ## All files -/

namespace Writes

theorem grows (h : project.Writes fs outcomes fs') : fs.Grows fs' := by
  induction h with
  | nil fs => exact .refl fs
  | cons emitted _ ih => exact (Catalog.grows_emit emitted).trans ih

/-- Writing catalogs changes only what they account for. -/
theorem surface? (h : project.Writes fs outcomes fs') (position : Position) :
    fs'.surface? position = fs.surface? position
      ∨ ∃ outcome ∈ outcomes, outcome.Accounts fs fs' position := by
  induction h with
  | nil => exact .inl rfl
  | @cons _ _ _ first _ emitted later ih =>
    rcases ih with same | ⟨outcome, mem, accounts⟩
    · rcases surface?_of_emit emitted position with same' | accounts
      · exact .inl (same.trans same')
      · exact .inr ⟨first, List.mem_cons_self, accounts.of_earlier later.grows same⟩
    · refine .inr ⟨outcome, List.mem_cons_of_mem _ mem, accounts.of_later fun none => ?_⟩
      -- What the first file accounts for is there, so the others do not find nothing.
      rcases surface?_of_emit emitted position with same' | accounts'
      · exact same' ▸ none
      · exact absurd none accounts'.surface?_ne_none

/-- Without an output directory nothing is changed. -/
theorem eq_of_none (configured : project.config.messagesDir = none)
    (h : project.Writes fs outcomes fs') : fs' = fs := by
  induction h with
  | nil => rfl
  | cons emitted _ ih =>
    rw [configured, Catalog.emit_none] at emitted
    exact ih.trans (congrArg Prod.fst emitted).symm

end Writes

/-- Each outcome is that of its own file. -/
theorem eq_outcomeOf_of_runFiles (h : (project.runFiles parse fs paths).outcomes = .ok outcomes)
    (mem : outcome ∈ outcomes) :
    outcome = project.outcomeOf parse outcome.path outcome.source := by
  induction paths generalizing fs outcomes with
  | nil =>
    cases h
    cases mem
  | cons path paths ih =>
    obtain ⟨fs₁, remarks, first, rest, step, later, rfl, -⟩ := runFiles_cons h
    rcases List.mem_cons.mp mem with rfl | mem
    · rw [(runFile_ok step).1]
      exact eq_outcomeOf_of_runFile step
    · exact ih later mem

/-- Files that fail can be left out: the others come out the same, and so does the file system. -/
theorem runFiles_filter {keep : Outcome → Bool}
    (h : (project.runFiles parse fs paths).outcomes = .ok outcomes)
    (kept : ∀ outcome ∈ outcomes, outcome.isFailure = false → keep outcome = true) :
    (project.runFiles parse fs ((outcomes.filter keep).map Outcome.path)).outcomes
        = .ok (outcomes.filter keep)
      ∧ (project.runFiles parse fs ((outcomes.filter keep).map Outcome.path)).files
        = (project.runFiles parse fs paths).files := by
  induction paths generalizing fs outcomes with
  | nil =>
    cases h
    exact ⟨rfl, rfl⟩
  | cons path paths ih =>
    obtain ⟨fs₁, remarks, first, rest, step, later, rfl, files⟩ := runFiles_cons h
    obtain ⟨outcomes', files'⟩ := ih later fun outcome mem => kept outcome (List.mem_cons_of_mem _ mem)
    rw [files, List.filter_cons]
    cases keeps : keep first with
    | true =>
      rw [if_pos rfl, List.map_cons, (runFile_ok step).1, runFiles, step]
      dsimp only
      rw [outcomes', files']
      exact ⟨rfl, rfl⟩
    | false =>
      have failed : first.isFailure = true := by
        by_contra succeeded
        rw [kept first List.mem_cons_self ((Bool.not_eq_true _).mp succeeded)] at keeps
        cases keeps
      obtain rfl : fs₁ = fs := eq_of_runFile_of_failure step failed
      exact ⟨outcomes', files'⟩

/-- A run does not look at the list of its project's files but for the files it is given. -/
theorem runFiles_withFiles (project : Project) (files : List String) (fs : FileSystem)
    (paths : List String) :
    ({ project with files } : Project).runFiles parse fs paths = project.runFiles parse fs paths := by
  induction paths generalizing fs with
  | nil => rfl
  | cons path paths ih =>
    rw [runFiles, runFiles]
    have step : ({ project with files } : Project).runFile parse fs path
        = project.runFile parse fs path := rfl
    rw [step]
    simp only [ih]

/-- What a run that ends changes. A position where something else stands afterwards is that of the catalog
of a file with messages, or of a directory that was made to hold one; without an output directory nothing
changes at all. What becomes of a file is a function of its path and its text; and the files that fail, or
some of them, could as well not be there. -/
theorem run_effects (ended : (project.run parse fs).outcomes = .ok outcomes) :
    (project.run parse fs).files.working = fs.working
      ∧ (∀ position, (project.run parse fs).files.surface? position = fs.surface? position
        ∨ ∃ outcome ∈ outcomes, outcome.Accounts fs (project.run parse fs).files position)
      ∧ (project.config.messagesDir = none → (project.run parse fs).files = fs)
      ∧ outcomes.map Outcome.path = project.files
      ∧ (∀ outcome ∈ outcomes, outcome = project.outcomeOf parse outcome.path outcome.source)
      ∧ ∀ keep : Outcome → Bool,
        (∀ outcome ∈ outcomes, outcome.isFailure = false → keep outcome = true) →
          let others := { project with files := (outcomes.filter keep).map Outcome.path }
          (others.run parse fs).outcomes = .ok (outcomes.filter keep)
            ∧ (others.run parse fs).files = (project.run parse fs).files := by
  have writes := writes_runFiles ended
  refine ⟨writes.grows.working, writes.surface?, writes.eq_of_none, map_path_runFiles ended,
    fun outcome => eq_outcomeOf_of_runFiles ended, fun keep kept => ?_⟩
  dsimp only
  rw [run, runFiles_withFiles]
  exact runFiles_filter ended kept

/-- A module that calls `translate` with an id, and then with a variable. -/
def translatingVariable (id : String) : Tree :=
  match translating id with
  | .sourceModule span items interpreter =>
      .sourceModule span (items ++
        [.expressionStatement (some ⟨61, 76⟩)
          (.callExpression (some ⟨61, 75⟩) (.identifier (some ⟨61, 70⟩) "translate" .absent .absent)
            [.element none (.identifier (some ⟨71, 74⟩) "key" .absent .absent)] .absent)]) interpreter
  | tree => tree

/-- Reads the text `broken` as no module and the text `late` as one that faults behind its message. -/
def falteringParser : Parser := fun path source =>
  if source = "broken" then .error "unexpected end"
  else if source = "late" then .ok (translatingVariable source)
  else translatingParser path source

/-- A file system with three files in the directory of the sources. -/
def threeSources : FileSystem :=
  { root := .directory [("src", .directory
      [("a.ts", .file (.text "broken")), ("b.ts", .file (.text "late")),
        ("c.ts", .file (.text "hello"))])] }

/-- The project of three files, with an output directory. -/
def threeFiles : Project :=
  ⟨{ messagesDir := some "out" }, ⟨"."⟩, ["src/a.ts", "src/b.ts", "src/c.ts"], 0⟩

/-- The outcomes of three files: no module, a fault behind a message, and a message. -/
def threeOutcomes : List Outcome :=
  [⟨"src/a.ts", "broken", .error (.unparsed (parseText "src/a.ts" "unexpected end"))⟩,
    ⟨"src/b.ts", "late", .error (.faulty ⟨.notStatic "id", ⟨"src/b.ts", 1, 5⟩⟩)⟩,
    translated "c.ts" "hello" "c.json"]

/-- Of three files the last alone is written, and it comes out the same without the others. -/
theorem run_threeFiles :
    (threeFiles.run falteringParser threeSources).outcomes = .ok threeOutcomes
      ∧ (∀ position, (threeFiles.run falteringParser threeSources).files.surface? position
            = threeSources.surface? position
          ∨ (translated "c.ts" "hello" "c.json").Accounts threeSources
            (threeFiles.run falteringParser threeSources).files position)
      ∧ (({ threeFiles with files := ["src/c.ts"] } : Project).run falteringParser threeSources).outcomes
        = .ok [translated "c.ts" "hello" "c.json"] := by
  have ended : (threeFiles.run falteringParser threeSources).outcomes = .ok threeOutcomes := by
    decide +kernel
  obtain ⟨-, changed, -, -, -, others⟩ := run_effects ended
  refine ⟨ended, fun position => (changed position).imp id ?_, (others (!·.isFailure) ?_).1⟩
  · rintro ⟨outcome, mem, accounts⟩
    -- The other outcomes have no messages, so they account for nothing.
    have nonempty : outcome.messages ≠ [] := accounts.messages_ne_nil
    have only : ∀ outcome ∈ threeOutcomes,
        outcome.messages ≠ [] → outcome = translated "c.ts" "hello" "c.json" := by
      decide +kernel
    exact only outcome mem nonempty ▸ accounts
  · intro outcome _ succeeded
    rw [succeeded]
    rfl

end Project

end MessageExtraction
