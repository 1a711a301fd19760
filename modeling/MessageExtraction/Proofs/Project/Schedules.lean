import MessageExtraction.Proofs.FileSystem.Directories
import MessageExtraction.Proofs.Project.Effects
import MessageExtraction.Proofs.Scan.Reaching

/-!
# Files at the same time

Several files of a project can be worked on at the same time: each is read at some moment and its catalog is
written at a later one, and other files are read and written in between. The run that takes the files one
after the other is one such schedule, and every other one comes to the same.

* `Schedule`: what has happened so far, reading by reading and catalog by catalog.
* `Schedule.runFiles`: a run is a schedule, in whichever order it takes the files.
* `Writes.text_of_read`: what can be read of a source file is what was there in the beginning, since no
  source file is a catalog.
* `Schedule.perm_outcomes`: so what becomes of the files is the same in all schedules.
* `Writes.surface?_eq_of_perm`: and so is what stands in the file system, as long as the files that share a
  place have equal catalogs.
* `run_schedule`: all of it, next to the run that takes the files in order.

A catalog is written in one step, so this does not look into directories that several files make at the same
time. Nothing is said of schedules in which the file system refuses something: there the run ends.
-/

namespace MessageExtraction

/-! ## What is read -/

namespace Scan

/-- No name of a source file is that of a catalog. -/
theorem IsSourceName.ne_json {name : String} (h : IsSourceName name) (stem : String) :
    name ≠ stem ++ ".json" := by
  obtain ⟨stem', extension, -, mem, rfl⟩ := h.extended
  intro eq
  have ends := congrArg (fun name => name.toList.getLast?) eq
  have others : ∀ extension ∈ ["tsx", "ts", "jsx", "js"],
      extension.toList.getLast? = some 'x' ∨ extension.toList.getLast? = some 's' := by decide
  have json : ".json".toList.getLast? = some 'n' := by decide
  simp only [String.toList_append, List.getLast?_append, json] at ends
  rcases others extension mem with last | last <;> simp [last] at ends

end Scan

namespace Catalog

variable {fs : FileSystem} {outputDirectory source root : Path} {position : Position}

/-- The file name of a catalog ends in its extension. -/
theorem exists_fileName?_path (outputDirectory source root : Path) :
    ∃ stem before, (path outputDirectory source root).fileName? = some (stem ++ ".json")
      ∧ FileSystem.segments (path outputDirectory source root) = before ++ [stem ++ ".json"] := by
  refine ⟨_, _, ?_, by rw [segments_path, place, ← List.append_assoc]⟩
  rw [Path.fileName?, path_eq_descend, Path.components_descend _ fun _ => isSegment_of_mem_place, place,
    List.map_append, ← List.append_assoc, List.map_singleton, List.getLast?_concat]

/-- A source file lies where no catalog does. -/
theorem aim_ne_aim_path (fs : FileSystem) (outputDirectory source root : Path) {file : Path}
    (h : Scan.isSourcePath file = true) : fs.aim file ≠ fs.aim (path outputDirectory source root) := by
  obtain ⟨name, named, sourceName⟩ := Scan.isSourcePath_iff.mp h
  obtain ⟨stem, -, named', -⟩ := exists_fileName?_path outputDirectory source root
  obtain ⟨above, eq⟩ := FileSystem.exists_aim_of_fileName? fs named
  obtain ⟨above', eq'⟩ := FileSystem.exists_aim_of_fileName? fs named'
  rw [eq, eq']
  exact fun same => sourceName.ne_json stem (List.singleton_inj.mp (List.append_inj' same rfl).2)

end Catalog

/-- The text of the file at the position that a path names. -/
def FileSystem.textAt (fs : FileSystem) (path : Path) : String :=
  match fs.get? (fs.aim path) with
  | some (.file (.text text)) => text
  | _ => ""

namespace Project

variable {project : Project} {parse : Parser} {fs fs' fs'' now : FileSystem} {path : String}
  {paths waiting : List String} {outcome : Outcome} {outcomes outcomes' pending done : List Outcome}

/-- What becomes of a file as it stands in a file system. -/
def outcomeIn (project : Project) (parse : Parser) (fs : FileSystem) (path : String) : Outcome :=
  project.outcomeOf parse path (fs.textAt ⟨path⟩)

/-- The catalogs that are written change no source file, so what can be read of it is what was there. -/
theorem Writes.text_of_read (h : project.Writes fs outcomes fs')
    (source : Scan.isSourcePath ⟨path⟩ = true) {text : String} (read : fs'.read ⟨path⟩ = .ok text) :
    fs.textAt ⟨path⟩ = text := by
  obtain ⟨position, located, held⟩ := FileSystem.read_ok_iff.mp read
  obtain rfl := FileSystem.eq_aim_of_locate located
  have file : fs'.surface? (fs'.aim ⟨path⟩) = some (.file (.text text)) :=
    Entry.surface?_file_iff.mpr held
  suffices same : fs'.surface? (fs'.aim ⟨path⟩) = fs.surface? (fs'.aim ⟨path⟩) by
    rw [h.grows.aim] at same file
    rw [FileSystem.textAt, FileSystem.get?, Entry.surface?_file_iff.mp (same.symm.trans file)]
  rcases h.surface? (fs'.aim ⟨path⟩) with same | ⟨outcome, mem, accounts⟩
  · exact same
  cases accounts with
  | directory _ _ _ made => exact absurd (file.symm.trans made.after) (by simp)
  | catalog nonempty noted located' _ =>
    cases configured : project.config.messagesDir with
    | none => rw [h.eq_of_none configured]
    | some directory =>
      obtain rfl := Option.some.inj (noted.symm.trans (h.catalog? configured mem nonempty))
      exact absurd (FileSystem.eq_aim_of_locate located') (Catalog.aim_ne_aim_path fs' _ _ _ source)

/-! ## Schedules -/

/-- What has happened in a schedule of the files `paths` since the file system was `fs`: the file system as
it is now, the files that wait to be read, what has become of those whose catalogs wait to be written, and of
those that are done, in the order in which they were. -/
inductive Schedule (project : Project) (parse : Parser) (fs : FileSystem) (paths : List String) :
    FileSystem → List String → List Outcome → List Outcome → Prop
  | start : Schedule project parse fs paths fs paths [] []
  | read {now : FileSystem} {path source : String} {waiting waiting' : List String}
      {pending done : List Outcome} (before : Schedule project parse fs paths now waiting pending done)
      (next : waiting.Perm (path :: waiting')) (read : now.read ⟨path⟩ = .ok source) :
      Schedule project parse fs paths now waiting' (project.outcomeOf parse path source :: pending) done
  | write {now now' : FileSystem} {waiting : List String} {outcome : Outcome}
      {pending pending' done : List Outcome}
      (before : Schedule project parse fs paths now waiting pending done)
      (next : pending.Perm (outcome :: pending'))
      (emitted : Catalog.emit now project.config.messagesDir ⟨outcome.path⟩ project.root outcome.messages
        = (now', .ok outcome.catalog?)) :
      Schedule project parse fs paths now' waiting pending' (done ++ [outcome])

/-- A run is a schedule, in whichever order it takes the files: each catalog is written before the next file
is read. -/
theorem Schedule.runFiles (before : project.Schedule parse fs paths now waiting [] done)
    {order : List String} (ordered : waiting.Perm order)
    (ended : (project.runFiles parse now order).outcomes = .ok outcomes) :
    project.Schedule parse fs paths (project.runFiles parse now order).files [] [] (done ++ outcomes) := by
  induction order generalizing now waiting done outcomes with
  | nil =>
    cases ended
    obtain rfl := List.perm_nil.mp ordered
    rwa [List.append_nil]
  | cons path order ih =>
    obtain ⟨now', remarks, first, rest, step, later, rfl, files⟩ := runFiles_cons ended
    have read := before.read ordered (read_of_runFile step)
    rw [← eq_outcomeOf_of_runFile step] at read
    obtain ⟨rfl, emitted⟩ := runFile_ok step
    have next := ih (read.write (.refl _) emitted) (.refl _) later
    rw [files]
    rwa [List.append_assoc] at next

/-! ## One schedule is like another -/

theorem Writes.concat (h : project.Writes fs outcomes fs')
    (emitted : Catalog.emit fs' project.config.messagesDir ⟨outcome.path⟩ project.root outcome.messages
      = (fs'', .ok outcome.catalog?)) : project.Writes fs (outcomes ++ [outcome]) fs'' := by
  induction h with
  | nil fs => exact .cons emitted (.nil _)
  | cons first _ ih => exact .cons first (ih emitted)

namespace Schedule

theorem writes (h : project.Schedule parse fs paths now waiting pending done) :
    project.Writes fs done now := by
  induction h with
  | start => exact .nil fs
  | read _ _ _ ih => exact ih
  | write _ _ emitted ih => exact ih.concat emitted

/-- Writing a catalog moves what has become of a file from those that wait to those that are done. -/
theorem perm_moved {pending' : List Outcome} (next : pending.Perm (outcome :: pending'))
    (done : List Outcome) : (pending ++ done).Perm (pending' ++ (done ++ [outcome])) := by
  rw [← List.append_assoc]
  exact (next.append_right done).trans (List.perm_append_singleton ..).symm

/-- Each file waits to be read, or to be written, or is done. -/
theorem perm_paths (h : project.Schedule parse fs paths now waiting pending done) :
    paths.Perm (waiting ++ (pending ++ done).map Outcome.path) := by
  induction h with
  | start => simp
  | read _ next _ ih => exact (ih.trans (next.append_right _)).trans List.perm_middle.symm
  | write _ next _ ih => exact ih.trans (((perm_moved next _).map _).append_left _)

/-- Whatever has become of a file is what becomes of it as it stood in the beginning. -/
theorem eq_outcomeIn (sources : ∀ path ∈ paths, Scan.isSourcePath ⟨path⟩ = true)
    (h : project.Schedule parse fs paths now waiting pending done) (mem : outcome ∈ pending ++ done) :
    outcome = project.outcomeIn parse fs outcome.path := by
  induction h with
  | start => cases mem
  | @read _ path text _ _ _ _ before next read ih =>
    rcases List.mem_cons.mp mem with rfl | mem
    · have waits := next.mem_iff.mpr List.mem_cons_self
      have source := sources path (before.perm_paths.mem_iff.mpr (List.mem_append_left _ waits))
      have named : (project.outcomeOf parse path text).path = path := rfl
      rw [named, outcomeIn, before.writes.text_of_read source read]
    · exact ih mem
  | write _ next _ ih => exact ih ((perm_moved next _).mem_iff.mpr mem)

theorem eq_map_outcomeIn (sources : ∀ path ∈ paths, Scan.isSourcePath ⟨path⟩ = true)
    (h : project.Schedule parse fs paths now waiting pending done) :
    done = (done.map Outcome.path).map (project.outcomeIn parse fs) := by
  rw [List.map_map]
  exact (List.map_id done).symm.trans (List.map_congr_left fun outcome mem =>
    h.eq_outcomeIn sources (List.mem_append_right _ mem))

/-- What becomes of the files is a function of what there was in the beginning, in whichever order. -/
theorem perm_outcomes (sources : ∀ path ∈ paths, Scan.isSourcePath ⟨path⟩ = true)
    (h : project.Schedule parse fs paths now [] [] done) :
    done.Perm (paths.map (project.outcomeIn parse fs)) := by
  rw [h.eq_map_outcomeIn sources]
  exact (h.perm_paths.map _).symm

end Schedule

/-! ## One file system is like another -/

/-- A directory that holds what a path names is there, as far as the nearest one is. -/
theorem directory?_of_holds {above file : Path} (holds : above.Holds file)
    (nearest : ∀ parent, file.parent? = some parent → ∃ position, fs.directory? parent = some position) :
    ∃ position, fs.directory? above = some position := by
  induction holds with
  | parent up => exact nearest _ up
  | above up _ ih =>
    refine ih fun next up' => ?_
    obtain ⟨position, stands⟩ := nearest _ up
    obtain ⟨back, stands', -⟩ := FileSystem.exists_directory?_of_parent? up' stands
    exact ⟨back, stands'⟩

/-- What a file accounts for is in every file system with the same working directory in which the file has
its catalog. -/
theorem surface?_of_accounts {directory source root : Path} {position : Position}
    (accounts : outcome.Accounts fs fs' position) (kept : outcome.HasCatalog fs'')
    (noted : outcome.catalog? = some (Catalog.path directory source root))
    (same : ∀ path, fs''.aim path = fs'.aim path) :
    fs''.surface? position = fs'.surface? position := by
  obtain ⟨_, noted', read⟩ := kept accounts.messages_ne_nil
  obtain rfl := Option.some.inj (noted.symm.trans noted')
  obtain ⟨there, located, held⟩ := FileSystem.read_ok_iff.mp read
  cases accounts with
  | catalog _ noted' located' held' =>
    obtain rfl := Option.some.inj (noted.symm.trans noted')
    rw [held', FileSystem.eq_aim_of_locate located', ← same, ← FileSystem.eq_aim_of_locate located]
    exact Entry.surface?_file_iff.mpr held
  | directory _ noted' holds made =>
    obtain rfl := Option.some.inj (noted.symm.trans noted')
    obtain ⟨stem, before, named, parts⟩ := Catalog.exists_fileName?_path directory source root
    obtain ⟨back, stands⟩ := directory?_of_holds holds fun parent up =>
      FileSystem.exists_directory?_of_locate up named parts located
    rw [made.after, FileSystem.eq_aim_of_locate made.located, ← same,
      ← FileSystem.eq_aim_of_directory? stands]
    exact Entry.surface?_directory_iff.mpr (FileSystem.directory?_eq_some_iff.mp stands).2

theorem PlacesAgree.perm (h : project.PlacesAgree outcomes) (perm : outcomes'.Perm outcomes) :
    project.PlacesAgree outcomes' := fun outcome mem other mem' =>
  h outcome (perm.mem_iff.mp mem) other (perm.mem_iff.mp mem')

/-- The order in which catalogs are written makes no difference, if the files that share a place have equal
catalogs. -/
theorem Writes.surface?_eq_of_perm (h : project.Writes fs outcomes fs')
    (h' : project.Writes fs outcomes' fs'') (perm : outcomes'.Perm outcomes)
    (agree : project.PlacesAgree outcomes) (position : Position) :
    fs''.surface? position = fs'.surface? position := by
  cases configured : project.config.messagesDir with
  | none => rw [h.eq_of_none configured, h'.eq_of_none configured]
  | some directory =>
    have aims : ∀ path, fs''.aim path = fs'.aim path := fun path => by rw [h'.grows.aim, h.grows.aim]
    rcases h.surface? position with unchanged | ⟨outcome, mem, accounts⟩
    · rcases h'.surface? position with unchanged' | ⟨outcome, mem, accounts⟩
      · rw [unchanged, unchanged']
      · have noted := h'.catalog? configured mem accounts.messages_ne_nil
        have kept := h.hasCatalog configured agree (perm.mem_iff.mp mem)
        exact (surface?_of_accounts accounts kept noted fun path => (aims path).symm).symm
    · have noted := h.catalog? configured mem accounts.messages_ne_nil
      have kept := h'.hasCatalog configured (agree.perm perm) (perm.mem_iff.mpr mem)
      exact surface?_of_accounts accounts kept noted aims

/-! ## Whole runs -/

/-- The files of a project that is loaded have the names of source files. -/
theorem isSourcePath_of_load {root : Path} {messagesDir : Option String} {remarks : List String}
    (h : load fs root messagesDir = .ok (project, remarks)) :
    ∀ path ∈ project.files, Scan.isSourcePath ⟨path⟩ = true := by
  obtain ⟨scanned, options, files⟩ :
      ∃ scanned options, project.files = (Scan.run fs scanned options).files := by
    rw [load] at h
    cases found : Config.load fs root with
    | error failure =>
      rw [found] at h
      cases h
    | ok config =>
      rw [found] at h
      cases h
      exact ⟨_, _, rfl⟩
  intro path mem
  rw [files] at mem
  obtain ⟨start, names, finds, rfl⟩ := Scan.mem_run_files.mp mem
  exact Scan.isSourcePath_iff.mpr finds.source

/-- A run that takes the files of a loaded project in order, and any schedule of them that comes to its end.
What becomes of each file is the same, and where the files that share a place have equal catalogs, so is all
that stands in the file system. -/
theorem run_schedule {first : FileSystem} {root : Path} {messagesDir : Option String}
    {remarks : List String} (loaded : load first root messagesDir = .ok (project, remarks))
    (ended : (project.run parse fs).outcomes = .ok outcomes)
    (schedule : project.Schedule parse fs project.files now [] [] done) :
    outcomes = project.files.map (project.outcomeIn parse fs) ∧ done.Perm outcomes
      ∧ (project.PlacesAgree outcomes →
        ∀ position, now.surface? position = (project.run parse fs).files.surface? position) := by
  have sources := isSourcePath_of_load loaded
  have inOrder : project.Schedule parse fs project.files (project.run parse fs).files [] [] outcomes :=
    Schedule.start.runFiles (.refl _) ended
  have each : outcomes = project.files.map (project.outcomeIn parse fs) := by
    rw [inOrder.eq_map_outcomeIn sources, map_path_runFiles ended]
  have perm : done.Perm outcomes := each ▸ schedule.perm_outcomes sources
  exact ⟨each, perm, inOrder.writes.surface?_eq_of_perm schedule.writes perm⟩

end Project

end MessageExtraction
