import MessageExtraction.Project.Basic
import MessageExtraction.Proofs.Catalog.Place

/-!
# The catalogs of a project

A run writes the catalogs of its files one after the other, so a catalog is lost if a later file has the
same place for its own.

* `runsTo_of_runFile`, `runFile_ok`: the step. Extracting a file changes nothing but what writing its
  catalog changes.
* `Writes`, `writes_runFiles`: the run. It writes one catalog after the other.
* `Writes.read`: what a catalog holds stays as long as all that is written to its place is the same.
* `run_hasCatalog_iff`: each file keeps its catalog exactly if the files that share a place have equal
  catalogs.
* `run_extensions`: two files that differ in the extension alone share a place, and the first loses its
  catalog.
-/

namespace MessageExtraction

open Syntax (Tree)

theorem Catalog.text_singleton (d : Descriptor) :
    Catalog.text [d] = (Json.array [d.toJson]).pretty ++ "\n" := by
  simp [Catalog.text, Catalog.sorted]

namespace Outcome

/-- The messages that were extracted. -/
def messages (outcome : Outcome) : List Descriptor :=
  match outcome.result with
  | .ok result => result.messages
  | .error _ => []

/-- The path of the catalog that was written. -/
def catalog? (outcome : Outcome) : Option Path :=
  match outcome.result with
  | .ok result => result.catalog
  | .error _ => none

/-- Whether a file with messages has them in a file system, in the catalog that is noted for it. -/
def HasCatalog (fs : FileSystem) (outcome : Outcome) : Prop :=
  outcome.messages ≠ [] →
    ∃ path, outcome.catalog? = some path ∧ fs.read path = .ok (Catalog.text outcome.messages)

end Outcome

namespace Project

variable {project : Project} {parse : Parser} {fs fs' : FileSystem} {path : String} {paths : List String}
  {outcome : Outcome} {outcomes : List Outcome} {remarks : List String}

/-! ## One file -/

/-- What the extraction of one file leaves and comes to, once the text of the file is read. -/
inductive RunsTo (project : Project) (parse : Parser) (fs : FileSystem) (path : String) :
    FileSystem → Outcome → Prop
  | unparsed {source reason : String} (refused : parse path source = .error reason) :
      RunsTo project parse fs path fs ⟨path, source, .error (.unparsed (parseText path reason))⟩
  | faulty {source : String} {tree tree' : Tree} {session : Session} {fault : Fault}
      (parsed : parse path source = .ok tree)
      (run : (Pass.ofModule project.config ⟨path, source⟩ tree).extract tree = (tree', session))
      (stopped : session.fault = some fault) :
      RunsTo project parse fs path fs ⟨path, source, .error (.faulty fault)⟩
  | extracted {source : String} {tree tree' : Tree} {session : Session} {fs' : FileSystem}
      {catalog : Option Path} (parsed : parse path source = .ok tree)
      (run : (Pass.ofModule project.config ⟨path, source⟩ tree).extract tree = (tree', session))
      (ended : session.fault = none)
      (emitted : Catalog.emit fs project.config.messagesDir ⟨path⟩ project.root
        session.registry.entries = (fs', .ok catalog)) :
      RunsTo project parse fs path fs'
        ⟨path, source, .ok ⟨session.registry.entries, session.warnings, catalog⟩⟩

theorem runsTo_of_runFile (h : project.runFile parse fs path = (fs', remarks, .ok outcome)) :
    RunsTo project parse fs path fs' outcome := by
  rw [runFile] at h
  split at h
  · cases h
  split at h
  · cases h
    exact .unparsed ‹_›
  rename_i source _ _ tree parsed
  rw [extractFile] at h
  dsimp only at h
  generalize run : (Pass.ofModule project.config ⟨path, source⟩ tree).extract tree = walked at h
  obtain ⟨tree', session⟩ := walked
  dsimp only at h
  rw [Session.finish] at h
  cases stopped : session.fault with
  | some fault =>
    rw [stopped] at h
    cases h
    exact .faulty parsed run stopped
  | none =>
    rw [stopped] at h
    dsimp only at h
    generalize emitted : Catalog.emit fs _ _ _ _ = emission at h
    obtain ⟨fs₁, _ | catalog⟩ := emission
    · cases h
    · cases h
      exact .extracted parsed run stopped emitted

theorem read_of_runFile (h : project.runFile parse fs path = (fs', remarks, .ok outcome)) :
    fs.read ⟨path⟩ = .ok outcome.source := by
  rw [runFile] at h
  split at h
  · cases h
  rename_i source read
  rw [read]
  split at h
  · cases h
    rfl
  dsimp only at h
  split at h
  · cases h
  · cases h
    rfl
  · cases h
    rfl

/-- Extracting a file is writing the catalog of its messages, for all that the file system shows. -/
theorem runFile_ok (h : project.runFile parse fs path = (fs', remarks, .ok outcome)) :
    outcome.path = path
      ∧ Catalog.emit fs project.config.messagesDir ⟨path⟩ project.root outcome.messages
        = (fs', .ok outcome.catalog?) := by
  cases runsTo_of_runFile h with
  | unparsed | faulty => exact ⟨rfl, Catalog.emit_nil ..⟩
  | extracted _ _ _ emitted => exact ⟨rfl, emitted⟩

/-! ## All files -/

/-- A run over some files is that of the first file and that of the others. -/
theorem runFiles_cons (h : (project.runFiles parse fs (path :: paths)).outcomes = .ok outcomes) :
    ∃ fs₁ remarks first rest, project.runFile parse fs path = (fs₁, remarks, .ok first)
      ∧ (project.runFiles parse fs₁ paths).outcomes = .ok rest ∧ outcomes = first :: rest
      ∧ (project.runFiles parse fs (path :: paths)).files
        = (project.runFiles parse fs₁ paths).files := by
  rw [runFiles] at h ⊢
  generalize ran : project.runFile parse fs path = step at h ⊢
  obtain ⟨fs₁, remarks, failure | first⟩ := step
  · cases h
  · dsimp only at h ⊢
    cases later : (project.runFiles parse fs₁ paths).outcomes with
    | error failure =>
      rw [later] at h
      cases h
    | ok rest =>
      rw [later] at h
      cases h
      exact ⟨fs₁, remarks, first, rest, rfl, later, rfl, rfl⟩

/-- There is one outcome for each file. -/
theorem map_path_runFiles (h : (project.runFiles parse fs paths).outcomes = .ok outcomes) :
    outcomes.map Outcome.path = paths := by
  induction paths generalizing fs outcomes with
  | nil =>
    cases h
    rfl
  | cons path paths ih =>
    obtain ⟨fs₁, remarks, first, rest, step, later, rfl, -⟩ := runFiles_cons h
    rw [List.map_cons, (runFile_ok step).1, ih later]

/-! ## Catalogs one after the other -/

/-- What a file system comes to when the catalogs of files are written one after the other. -/
inductive Writes (project : Project) : FileSystem → List Outcome → FileSystem → Prop
  | nil (fs : FileSystem) : Writes project fs [] fs
  | cons {fs fs₁ fs' : FileSystem} {first : Outcome} {rest : List Outcome}
      (emitted : Catalog.emit fs project.config.messagesDir ⟨first.path⟩ project.root first.messages
        = (fs₁, .ok first.catalog?)) (later : Writes project fs₁ rest fs') :
      Writes project fs (first :: rest) fs'

/-- Whether files with messages that share a place have equal catalogs. -/
def PlacesAgree (project : Project) (outcomes : List Outcome) : Prop :=
  ∀ outcome ∈ outcomes, ∀ other ∈ outcomes, outcome.messages ≠ [] → other.messages ≠ [] →
    Catalog.place ⟨outcome.path⟩ project.root = Catalog.place ⟨other.path⟩ project.root →
      Catalog.text outcome.messages = Catalog.text other.messages

/-- A run that ends writes the catalogs of its files. -/
theorem writes_runFiles (h : (project.runFiles parse fs paths).outcomes = .ok outcomes) :
    project.Writes fs outcomes (project.runFiles parse fs paths).files := by
  induction paths generalizing fs outcomes with
  | nil =>
    cases h
    exact .nil fs
  | cons path paths ih =>
    obtain ⟨fs₁, remarks, first, rest, step, later, rfl, files⟩ := runFiles_cons h
    obtain ⟨rfl, emitted⟩ := runFile_ok step
    rw [files]
    exact .cons emitted (ih later)

namespace Writes

variable {directory : String}

/-- A file with messages has its catalog at its place. -/
theorem catalog? (configured : project.config.messagesDir = some directory)
    (h : project.Writes fs outcomes fs') (mem : outcome ∈ outcomes) (nonempty : outcome.messages ≠ []) :
    outcome.catalog? = some (Catalog.path ⟨directory⟩ ⟨outcome.path⟩ project.root) := by
  induction h with
  | nil => cases mem
  | cons emitted later ih =>
    rcases List.mem_cons.mp mem with rfl | mem
    · rw [configured] at emitted
      exact (Catalog.emit_ok nonempty emitted).1
    · exact ih mem

/-- What a catalog holds it keeps, if all that is written to its place is the same. -/
theorem read (configured : project.config.messagesDir = some directory)
    (h : project.Writes fs outcomes fs') {source : Path} {held : String}
    (before : fs.read (Catalog.path ⟨directory⟩ source project.root) = .ok held)
    (same : ∀ outcome ∈ outcomes, outcome.messages ≠ [] →
      Catalog.place ⟨outcome.path⟩ project.root = Catalog.place source project.root →
        Catalog.text outcome.messages = held) :
    fs'.read (Catalog.path ⟨directory⟩ source project.root) = .ok held := by
  induction h with
  | nil => exact before
  | @cons _ _ _ first _ emitted later ih =>
    refine ih ?_ fun outcome mem => same outcome (List.mem_cons_of_mem _ mem)
    rw [configured] at emitted
    by_cases nonempty : first.messages = []
    · rw [nonempty, Catalog.emit_nil] at emitted
      obtain rfl := congrArg Prod.fst emitted
      exact before
    · obtain ⟨-, written, others⟩ := Catalog.emit_ok nonempty emitted
      by_cases eq : Catalog.place ⟨first.path⟩ project.root = Catalog.place source project.root
      · rw [← Catalog.path_eq_path_iff.mpr eq, written,
          same first List.mem_cons_self nonempty eq]
      · exact others source project.root held (Ne.symm eq) before

/-- A file keeps its catalog if the files behind it that share its place have the same catalog. -/
theorem hasCatalog_of_append (configured : project.config.messagesDir = some directory)
    {before after : List Outcome} (h : project.Writes fs (before ++ outcome :: after) fs')
    (same : ∀ other ∈ after, other.messages ≠ [] →
      Catalog.place ⟨other.path⟩ project.root = Catalog.place ⟨outcome.path⟩ project.root →
        Catalog.text other.messages = Catalog.text outcome.messages) :
    outcome.HasCatalog fs' := by
  intro nonempty
  refine ⟨_, h.catalog? configured (by simp) nonempty, ?_⟩
  induction before generalizing fs with
  | nil =>
    -- It is written in this step, and what comes later writes the same.
    cases h with
    | cons emitted later =>
      rw [configured] at emitted
      exact later.read configured (Catalog.emit_ok nonempty emitted).2.1 same
  | cons earlier before ih =>
    cases h with
    | cons emitted later => exact ih later

/-- Each file keeps its catalog if the files that share a place have equal catalogs. -/
theorem hasCatalog (configured : project.config.messagesDir = some directory)
    (h : project.Writes fs outcomes fs') (same : project.PlacesAgree outcomes) (mem : outcome ∈ outcomes) :
    outcome.HasCatalog fs' := by
  intro nonempty
  obtain ⟨before, after, rfl⟩ := List.append_of_mem mem
  exact h.hasCatalog_of_append configured (fun other mem' nonempty' eq =>
    same other (by simp [mem']) outcome (by simp) nonempty' nonempty eq) nonempty

end Writes

/-! ## Runs -/

variable {directory : String}

/-- In a run that ends, each file with messages has its catalog noted at its place below the output
directory, and it has it there in the end exactly if the files that share a place have equal catalogs. -/
theorem run_hasCatalog_iff (configured : project.config.messagesDir = some directory)
    (ended : (project.run parse fs).outcomes = .ok outcomes) :
    outcomes.map Outcome.path = project.files
      ∧ (∀ outcome ∈ outcomes, outcome.messages ≠ [] →
        outcome.catalog? = some (Catalog.path ⟨directory⟩ ⟨outcome.path⟩ project.root))
      ∧ ((∀ outcome ∈ outcomes, outcome.HasCatalog (project.run parse fs).files)
        ↔ ∀ outcome ∈ outcomes, ∀ other ∈ outcomes, outcome.messages ≠ [] → other.messages ≠ [] →
          Catalog.place ⟨outcome.path⟩ project.root = Catalog.place ⟨other.path⟩ project.root →
            Catalog.text outcome.messages = Catalog.text other.messages) := by
  have writes := writes_runFiles ended
  have noted := fun outcome => @writes.catalog? _ _ _ outcome _ _ configured
  refine ⟨map_path_runFiles ended, noted, ?_, fun same outcome => writes.hasCatalog configured same⟩
  intro kept outcome mem other mem' nonempty nonempty' eq
  obtain ⟨path, noted₁, held₁⟩ := kept outcome mem nonempty
  obtain ⟨path', noted₂, held₂⟩ := kept other mem' nonempty'
  rw [noted outcome mem nonempty, Catalog.path_eq_path_iff.mpr eq] at noted₁
  rw [noted other mem' nonempty'] at noted₂
  obtain rfl : path = path' := Option.some.inj (noted₁.symm.trans noted₂)
  exact Except.ok.inj (held₁.symm.trans held₂)

/-! ## Files that share a place -/

deriving instance DecidableEq for Outcome

/-- A module that imports `translate` and calls it with an id. -/
def translating (id : String) : Tree :=
  .sourceModule (some ⟨1, 60⟩)
    [.importDeclaration (some ⟨1, 40⟩)
        [.importSpecifier (some ⟨10, 19⟩) (.identifier (some ⟨10, 19⟩) "translate" .absent .absent)
          .absent (.flag false)]
        (.stringLiteral (some ⟨27, 39⟩) (.text "react-intl") .absent) (.flag false) .absent
        (.text "evaluation"),
      .expressionStatement (some ⟨41, 60⟩)
        (.callExpression (some ⟨41, 59⟩) (.identifier (some ⟨41, 50⟩) "translate" .absent .absent)
          [.element none (.stringLiteral (some ⟨51, 58⟩) (.text id) .absent)] .absent)]
    .absent

/-- Reads a text as the module that translates it. -/
def translatingParser : Parser := fun _ source => .ok (translating source)

/-- A file system with two files in the directory of the sources. -/
def twoSources (name other : String) : FileSystem :=
  { root := .directory [("src", .directory
      [(name, .file (.text "hello")), (other, .file (.text "world"))])] }

/-- The project of two files, with an output directory. -/
def twoFiles (name other : String) : Project :=
  ⟨{ messagesDir := some "out" }, ⟨"."⟩, ["src/" ++ name, "src/" ++ other], 0⟩

/-- The outcome of a file that marks one message. -/
def translated (name id catalog : String) : Outcome :=
  ⟨"src/" ++ name, id, .ok ⟨[⟨id, none, none⟩], [], some ⟨"out/src/" ++ catalog⟩⟩⟩

/-- Files with different stems keep their catalogs. -/
theorem run_stems :
    ((twoFiles "a.ts" "b.ts").run translatingParser (twoSources "a.ts" "b.ts")).outcomes
        = .ok [translated "a.ts" "hello" "a.json", translated "b.ts" "world" "b.json"]
      ∧ ∀ outcome ∈ [translated "a.ts" "hello" "a.json", translated "b.ts" "world" "b.json"],
        outcome.HasCatalog
          ((twoFiles "a.ts" "b.ts").run translatingParser (twoSources "a.ts" "b.ts")).files := by
  have ended : ((twoFiles "a.ts" "b.ts").run translatingParser (twoSources "a.ts" "b.ts")).outcomes
      = .ok [translated "a.ts" "hello" "a.json", translated "b.ts" "world" "b.json"] := by
    decide +kernel
  have apart : ∀ outcome ∈ [translated "a.ts" "hello" "a.json", translated "b.ts" "world" "b.json"],
      ∀ other ∈ [translated "a.ts" "hello" "a.json", translated "b.ts" "world" "b.json"],
        Catalog.place ⟨outcome.path⟩ ⟨"."⟩ = Catalog.place ⟨other.path⟩ ⟨"."⟩ → outcome = other := by
    decide +kernel
  refine ⟨ended, (run_hasCatalog_iff rfl ended).2.2.mpr fun outcome mem other mem' _ _ eq => ?_⟩
  rw [apart outcome mem other mem' eq]

/-- Of two files that differ in the extension alone, both with the name of a source file, the second takes
the catalog of the first. -/
theorem run_extensions :
    (∀ path ∈ (twoFiles "a.ts" "a.tsx").files, Scan.isSourcePath ⟨path⟩ = true)
      ∧ ((twoFiles "a.ts" "a.tsx").run translatingParser (twoSources "a.ts" "a.tsx")).outcomes
        = .ok [translated "a.ts" "hello" "a.json", translated "a.tsx" "world" "a.json"]
      ∧ ¬ (translated "a.ts" "hello" "a.json").HasCatalog
        ((twoFiles "a.ts" "a.tsx").run translatingParser (twoSources "a.ts" "a.tsx")).files := by
  have ended : ((twoFiles "a.ts" "a.tsx").run translatingParser (twoSources "a.ts" "a.tsx")).outcomes
      = .ok [translated "a.ts" "hello" "a.json", translated "a.tsx" "world" "a.json"] := by
    decide +kernel
  refine ⟨by decide +kernel, ended, fun kept => ?_⟩
  obtain ⟨path, noted, held⟩ := kept (by decide)
  -- The second file is the last to write.
  obtain ⟨path', noted', held'⟩ := @Writes.hasCatalog_of_append (twoFiles "a.ts" "a.tsx") _ _ _ "out" rfl
    [translated "a.ts" "hello" "a.json"] [] (writes_runFiles ended) nofun (by decide)
  obtain rfl : path = path' := Option.some.inj (noted.symm.trans noted')
  have same := Except.ok.inj (held.symm.trans held')
  simp only [Outcome.messages, translated, Catalog.text_singleton] at same
  exact absurd same (by decide +kernel)

end Project

end MessageExtraction
