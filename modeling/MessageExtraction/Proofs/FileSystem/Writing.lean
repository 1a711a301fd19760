import MessageExtraction.Proofs.FileSystem.Growth

/-!
# What files hold

A write changes one file and leaves all others as they are; making directories changes no file.

* `surface?`: what stands at a position, without what is below it.
* `surface?_makeDirectories`, `surface?_write`: making directories changes it only where there was nothing,
  and where one of the paths leads; a write only where its path leads.
* `KeepsFiles`: the files of a file system are in another with the same content, but for one position.
* `keepsFiles_makeDirectories`, `keepsFiles_write`: so making directories changes no file, a write only the
  file at `target` of its path.
* `read_write`, `read_of_keepsFiles`: what is read behind a write.
-/

namespace MessageExtraction

/-- What an entry is, without what is below it. -/
inductive Surface where
  | file (content : Content)
  | directory
deriving DecidableEq, Repr

namespace Entry

variable {e new : Entry} {entries : List (String × Entry)} {name : String}

/-- What an entry is, without what is below it. -/
def surface : Entry → Surface
  | .file content => .file content
  | .directory _ => .directory

/-- What stands at a position, without what is below it. -/
def surface? (e : Entry) (position : Position) : Option Surface :=
  (e.get? position).map surface

theorem surface?_directory_iff {position : Position} :
    e.surface? position = some .directory ↔ ∃ es, e.get? position = some (.directory es) := by
  rw [surface?, Option.map_eq_some_iff]
  constructor
  · rintro ⟨_ | es, found, eq⟩
    · cases eq
    · exact ⟨es, found⟩
  · rintro ⟨es, found⟩
    exact ⟨_, found, rfl⟩

theorem surface?_file_iff {position : Position} {content : Content} :
    e.surface? position = some (.file content) ↔ e.get? position = some (.file content) := by
  rw [surface?, Option.map_eq_some_iff]
  constructor
  · rintro ⟨content | es, found, eq⟩
    · cases eq
      exact found
    · cases eq
  · exact fun found => ⟨_, found, rfl⟩

/-- Putting an entry into a directory changes nothing but what is at its place and below. -/
theorem surface?_put {position : Position} (h : e.get? position = some (.directory entries))
    {found : Position} (apart : ¬ position ++ [name] <+: found) :
    (put new (position ++ [name]) e).surface? found = e.surface? found := by
  induction position generalizing e found with
  | nil =>
    cases h
    rw [List.nil_append] at apart ⊢
    rw [put]
    cases found with
    | nil => rfl
    | cons first found =>
      have other : first ≠ name := by
        rintro rfl
        exact apart ⟨found, rfl⟩
      rw [surface?, get?_cons, lookup_putNamed_of_ne other, ← get?_cons, ← surface?]
  | cons step position ih =>
    cases e with
    | file content => contradiction
    | directory es =>
      rw [get?_cons, Option.bind_eq_some_iff] at h
      obtain ⟨child, above, h⟩ := h
      rw [List.cons_append, put_cons (by simp) above]
      cases found with
      | nil => rfl
      | cons first found =>
        by_cases eq : first = step
        · subst eq
          rw [surface?, get?_cons, lookup_putNamed_self, surface?, get?_cons, above]
          exact ih h fun below => apart ((List.prefix_cons_inj first).mpr below)
        · rw [surface?, get?_cons, lookup_putNamed_of_ne eq, ← get?_cons, ← surface?]

end Entry

namespace FileSystem

variable {fs fs' : FileSystem} {path : Path}

/-! ## Reading -/

theorem read_ok_iff {text : String} :
    fs.read path = .ok text
      ↔ ∃ position, fs.locate path = .ok position ∧ fs.get? position = some (.file (.text text)) := by
  rw [read]
  cases fs.locate path with
  | error e => simp [bind, Except.bind]
  | ok position =>
    simp only [bind, Except.bind, Except.ok.injEq, exists_eq_left']
    rcases fs.get? position with _ | ⟨_ | _⟩ | _ <;> simp

/-- A path that leads to somewhere still leads to there. -/
theorem Grows.locate (h : fs.Grows fs') {position : Position} (found : fs.locate path = .ok position) :
    fs'.locate path = .ok position := by
  rw [FileSystem.locate] at found ⊢
  split at found
  · contradiction
  · rw [if_neg ‹_›, h.start, h.follow found]

/-! ## What stands at a position -/

/-- What stands at a position, without what is below it. -/
def surface? (fs : FileSystem) (position : Position) : Option Surface := fs.root.surface? position

/-- A directory stays one. -/
theorem Grows.surface?_directory (h : fs.Grows fs') {position : Position}
    (found : fs.surface? position = some .directory) : fs'.surface? position = some .directory := by
  obtain ⟨entries, here⟩ := Entry.surface?_directory_iff.mp found
  obtain ⟨entries', here', -⟩ := h.root position entries here
  exact Entry.surface?_directory_iff.mpr ⟨entries', here'⟩

/-- Putting an entry with nothing below it into a directory changes nothing but what is at its place, unless
it takes the place of a directory. -/
theorem surface?_put {position : Position} {entries : List (String × Entry)} {name : String}
    {new : Entry} (h : fs.get? position = some (.directory entries))
    (other : ∀ es, entries.lookup name ≠ some (.directory es)) (leaf : ∀ n, new.child? n = none)
    {found : Position} (apart : found ≠ position ++ [name]) :
    (fs.put (position ++ [name]) new).surface? found = fs.surface? found := by
  by_cases below : position ++ [name] <+: found
  · -- There is nothing below what was at its place, and nothing below the new entry.
    obtain ⟨more, rfl⟩ := below
    cases more with
    | nil => exact absurd (List.append_nil _) apart
    | cons next more =>
      have before : fs.get? (position ++ [name] ++ next :: more) = none := by
        rw [FileSystem.get?, Entry.get?_append, Entry.get?_append, ← FileSystem.get?, h,
          Option.bind_some, Entry.get?_cons]
        cases listed : entries.lookup name with
        | none => rfl
        | some child =>
          cases child with
          | file content => rfl
          | directory es => exact absurd listed (other es)
      have after : (fs.put (position ++ [name]) new).get? (position ++ [name] ++ next :: more)
          = none := by
        rw [FileSystem.get?, Entry.get?_append, ← FileSystem.get?, get?_put h, Option.bind_some,
          Entry.get?, leaf]
        rfl
      rw [surface?, surface?, Entry.surface?, Entry.surface?, ← FileSystem.get?, ← FileSystem.get?,
        before, after]
  · exact Entry.surface?_put h below

/-- Whether the directory that a path leads to was made at a position between two file systems. -/
structure Made (fs fs' : FileSystem) (path : Path) (position : Position) : Prop where
  before : fs.surface? position = none
  located : fs'.locate path = .ok position
  after : fs'.surface? position = some .directory

theorem Made.grows {later : FileSystem} {position : Position} (h : fs.Made fs' path position)
    (grows : fs'.Grows later) : fs.Made later path position :=
  ⟨h.before, grows.locate h.located, grows.surface?_directory h.after⟩

theorem surface?_makeDirectory (h : fs.makeDirectory path = .ok fs') (position : Position) :
    fs'.surface? position = fs.surface? position ∨ fs.Made fs' path position := by
  obtain ⟨name, before, directory, entries, written, found, here, named, free, rfl⟩ :=
    makeDirectory_ok h
  by_cases eq : position = directory ++ [name]
  · subst eq
    have made : (fs.put (directory ++ [name]) (.directory [])).get? (directory ++ [name])
        = some (.directory []) := get?_put here
    refine .inr ⟨?_, locate_made written found here named free,
      Entry.surface?_directory_iff.mpr ⟨_, made⟩⟩
    rw [surface?, Entry.surface?, Entry.get?_append, ← FileSystem.get?, here, Option.bind_some,
      Entry.get?_cons, free]
    rfl
  · exact .inl (surface?_put here (by simp [free]) (fun _ => rfl) eq)

theorem surface?_ensureDirectory (h : fs.ensureDirectory path = (fs', none)) (position : Position) :
    fs'.surface? position = fs.surface? position ∨ fs.Made fs' path position := by
  rw [ensureDirectory] at h
  split at h
  · rename_i made
    cases h
    exact surface?_makeDirectory made position
  · split at h
    · cases h
      exact .inl rfl
    · cases h

theorem surface?_makeAll {paths : List Path} (h : fs.makeAll paths = (fs', none))
    (position : Position) :
    fs'.surface? position = fs.surface? position
      ∨ ∃ path ∈ paths, path.parent?.isSome = true ∧ fs.Made fs' path position := by
  induction paths generalizing fs' with
  | nil =>
    cases h
    exact .inl rfl
  | cons path paths ih =>
    rw [makeAll] at h
    split at h
    · cases h
      exact .inl rfl
    rename_i inner
    have held : path.parent?.isSome = true := by simpa [Option.isSome_iff_ne_none] using inner
    split at h
    · split at h
      · rename_i fs₁ above
        rcases surface?_ensureDirectory h position with same | made
        · rcases ih above with same' | ⟨earlier, mem, held', made⟩
          · exact .inl (same.trans same')
          · exact .inr ⟨earlier, List.mem_cons_of_mem _ mem, held',
              made.grows (has_of_ensureDirectory h).1⟩
        · rcases ih above with same' | ⟨earlier, mem, held', made'⟩
          · exact .inr ⟨path, List.mem_cons_self, held,
              ⟨same'.symm.trans made.before, made.located, made.after⟩⟩
          · exact .inr ⟨earlier, List.mem_cons_of_mem _ mem, held',
              made'.grows (has_of_ensureDirectory h).1⟩
      · rename_i failed
        exact absurd h (failed _)
    · exact (surface?_ensureDirectory h position).imp id fun made =>
        ⟨path, List.mem_cons_self, held, made⟩

/-- Making directories changes nothing but where there was nothing and one of the paths leads. -/
theorem surface?_makeDirectories (h : fs.makeDirectories path = (fs', none)) (position : Position) :
    fs'.surface? position = fs.surface? position
      ∨ ∃ directory ∈ path.ancestors, directory.parent?.isSome = true
        ∧ fs.Made fs' directory position := surface?_makeAll h position

theorem grows_makeDirectories (h : fs.makeDirectories path = (fs', none)) : fs.Grows fs' :=
  (has_of_makeAll h).1

/-- The position of the file that is written at a path. -/
def target (fs : FileSystem) (path : Path) : Option Position :=
  match fs.follow (fs.start path) (segments path).dropLast with
  | .ok directory => some (directory ++ (segments path).getLast?.toList)
  | .error _ => none

/-- A write changes nothing but what is at its target, and the path leads there afterwards. -/
theorem surface?_write {content : Content} (h : fs.write path content = .ok fs') :
    ∃ position, fs.target path = some position ∧ fs'.locate path = .ok position
      ∧ fs'.surface? position = some (.file content)
      ∧ ∀ found, found ≠ position → fs'.surface? found = fs.surface? found := by
  obtain ⟨written, before, name, directory, entries, parts, found, named, here, other, rfl⟩ :=
    write_ok h
  have aim : fs.target path = some (directory ++ [name]) := by
    rw [target, parts, List.dropLast_concat, found, List.getLast?_concat]
    rfl
  have grows := @grows_put fs directory entries name (.file content) here other
  have held := @get?_put fs directory entries name (.file content) here
  refine ⟨_, aim, ?_, Entry.surface?_file_iff.mpr held,
    fun found apart => surface?_put here other (fun _ => rfl) apart⟩
  obtain ⟨entries', here', -⟩ := grows.root directory entries here
  rw [locate, if_neg written, grows.start, parts, follow_append, grows.follow found]
  exact (follow_name named here' held).2

/-! ## Files -/

/-- Whether the files of a file system are files of another with the same content, but for the one at the
position `changed`. -/
def KeepsFiles (fs fs' : FileSystem) (changed : Option Position) : Prop :=
  ∀ position content, fs.get? position = some (.file content) → changed ≠ some position →
    fs'.get? position = some (.file content)

/-- Making directories changes no file. -/
theorem keepsFiles_makeDirectories (h : fs.makeDirectories path = (fs', none)) :
    fs.KeepsFiles fs' none := by
  intro position content held _
  have file : fs.surface? position = some (.file content) := Entry.surface?_file_iff.mpr held
  rcases surface?_makeDirectories h position with same | ⟨directory, -, -, made⟩
  · exact Entry.surface?_file_iff.mp (same.trans file)
  · rw [made.before] at file
    cases file

/-- A write changes the file at its target, and the path leads there afterwards. -/
theorem keepsFiles_write {content : Content} (h : fs.write path content = .ok fs') :
    fs.KeepsFiles fs' (fs.target path) ∧ ∃ position, fs.target path = some position
      ∧ fs'.locate path = .ok position ∧ fs'.get? position = some (.file content) := by
  obtain ⟨position, aim, located, file, others⟩ := surface?_write h
  refine ⟨fun found content' held apart => ?_, position, aim, located,
    Entry.surface?_file_iff.mp file⟩
  rw [aim] at apart
  have same := others found fun eq => apart (congrArg some eq.symm)
  exact Entry.surface?_file_iff.mp (same.trans (Entry.surface?_file_iff.mpr held))

/-- What was written is read. -/
theorem read_write {text : String} (h : fs.write path (.text text) = .ok fs') :
    fs'.read path = .ok text := by
  obtain ⟨-, position, -, located, held⟩ := keepsFiles_write h
  exact read_ok_iff.mpr ⟨position, located, held⟩

/-- What could be read elsewhere than at the changed file can still be read. -/
theorem read_of_keepsFiles {changed : Option Position} {text : String} (grows : fs.Grows fs')
    (keeps : fs.KeepsFiles fs' changed) (apart : ∀ position, fs.locate path = .ok position →
      changed ≠ some position) (h : fs.read path = .ok text) : fs'.read path = .ok text := by
  obtain ⟨position, located, held⟩ := read_ok_iff.mp h
  exact read_ok_iff.mpr ⟨position, grows.locate located,
    keeps position (.text text) held (apart position located)⟩

end FileSystem

end MessageExtraction
