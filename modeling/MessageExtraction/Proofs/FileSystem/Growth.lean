import MessageExtraction.Catalog.Emission
import Mathlib.Data.List.TakeWhile

/-!
# Writing again

Making directories and writing files takes no directory away, so what has been made and written once can be
made and written again.

* `Grows`: a file system with the directories and names of another.
* `makeDirectories_again`, `write_again`: what succeeded succeeds again in what it left.
* `emit_again`: so a catalog can be written again.
-/

namespace MessageExtraction

/-! ## Entries -/

namespace Entry

/-- Whether the directories of an entry are directories of another, with all the names in them. -/
def Grows (e e' : Entry) : Prop :=
  ∀ position entries, e.get? position = some (.directory entries) →
    ∃ entries', e'.get? position = some (.directory entries')
      ∧ ∀ name, (entries.lookup name).isSome → (entries'.lookup name).isSome

variable {e e' new : Entry} {entries : List (String × Entry)} {name : String}

theorem Grows.refl (e : Entry) : e.Grows e := fun _ entries h => ⟨entries, h, fun _ => id⟩

theorem Grows.trans {e'' : Entry} (h : e.Grows e') (h' : e'.Grows e'') : e.Grows e'' := by
  intro position entries found
  obtain ⟨entries', found', names⟩ := h position entries found
  obtain ⟨entries'', found'', names'⟩ := h' position entries' found'
  exact ⟨entries'', found'', fun name => names' name ∘ names name⟩

theorem lookup_putNamed_self (name : String) (new : Entry) (entries : List (String × Entry)) :
    (putNamed name new entries).lookup name = some new := by
  induction entries with
  | nil => simp [putNamed]
  | cons entry entries ih =>
    obtain ⟨n, e⟩ := entry
    rw [putNamed]
    split
    · rename_i eq
      simp [eq]
    · rename_i other
      rw [List.lookup_cons, beq_eq_false_iff_ne.mpr (Ne.symm other)]
      exact ih

theorem lookup_putNamed_of_ne {other : String} (h : other ≠ name) (new : Entry)
    (entries : List (String × Entry)) :
    (putNamed name new entries).lookup other = entries.lookup other := by
  induction entries with
  | nil => simp [putNamed, h]
  | cons entry entries ih =>
    obtain ⟨n, e⟩ := entry
    rw [putNamed]
    split
    · rename_i eq
      rw [List.lookup_cons, List.lookup_cons, eq, beq_eq_false_iff_ne.mpr h]
    · rw [List.lookup_cons, List.lookup_cons, ih]

theorem lookup_putNamed_isSome {other : String} (new : Entry)
    (h : (entries.lookup other).isSome) :
    ((putNamed name new entries).lookup other).isSome := by
  by_cases eq : other = name
  · rw [eq, lookup_putNamed_self]
    rfl
  · rwa [lookup_putNamed_of_ne eq]

theorem get?_cons (name : String) (position : Position) (entries : List (String × Entry)) :
    (Entry.directory entries).get? (name :: position)
      = (entries.lookup name).bind fun child => child.get? position := rfl

theorem get?_file_ne (content : Content) (position : Position) :
    (Entry.file content).get? position ≠ some (.directory entries) := by
  cases position <;> simp [Entry.get?, child?]

theorem get?_append (position position' : Position) (e : Entry) :
    e.get? (position ++ position') = (e.get? position).bind fun child => child.get? position' := by
  induction position generalizing e with
  | nil => rfl
  | cons name position ih =>
    rw [List.cons_append, get?, get?]
    cases e.child? name with
    | none => rfl
    | some child => exact ih child

theorem put_cons {position : Position} {child : Entry} (nonempty : position ≠ [])
    (found : entries.lookup name = some child) :
    put new (name :: position) (.directory entries)
      = .directory (putNamed name (put new position child) entries) := by
  cases position with
  | nil => contradiction
  | cons next position =>
    rw [put, found]
    simp

/-- An entry that is put into a directory is found there. -/
theorem get?_put {position : Position} (h : e.get? position = some (.directory entries)) :
    (put new (position ++ [name]) e).get? (position ++ [name]) = some new := by
  induction position generalizing e with
  | nil =>
    cases h
    rw [List.nil_append, put, get?_cons, lookup_putNamed_self]
    rfl
  | cons next position ih =>
    cases e with
    | file content => contradiction
    | directory es =>
      rw [get?_cons, Option.bind_eq_some_iff] at h
      obtain ⟨child, found, h⟩ := h
      rw [List.cons_append, put_cons (by simp) found, get?_cons, lookup_putNamed_self]
      exact ih h

/-- Putting an entry into a directory takes no directory away, unless it takes the place of one. -/
theorem grows_put {position : Position} (h : e.get? position = some (.directory entries))
    (other : ∀ es, entries.lookup name ≠ some (.directory es)) :
    e.Grows (put new (position ++ [name]) e) := by
  induction position generalizing e with
  | nil =>
    cases h
    rw [List.nil_append, put]
    intro position found' h
    cases position with
    | nil =>
      cases h
      exact ⟨_, rfl, fun _ => lookup_putNamed_isSome new⟩
    | cons next position =>
      rw [get?_cons, Option.bind_eq_some_iff] at h
      obtain ⟨child, found, h⟩ := h
      by_cases eq : next = name
      · subst eq
        cases child with
        | directory es => exact absurd found (other es)
        | file content => exact absurd h (get?_file_ne content position)
      · refine ⟨found', ?_, fun _ => id⟩
        rw [get?_cons, lookup_putNamed_of_ne eq, found]
        exact h
  | cons step position ih =>
    cases e with
    | file content => contradiction
    | directory es =>
      rw [get?_cons, Option.bind_eq_some_iff] at h
      obtain ⟨child, found, h⟩ := h
      rw [List.cons_append, put_cons (by simp) found]
      intro position' found' h'
      cases position' with
      | nil =>
        cases h'
        exact ⟨_, rfl, fun _ => lookup_putNamed_isSome _⟩
      | cons next position' =>
        rw [get?_cons, Option.bind_eq_some_iff] at h'
        obtain ⟨child', foundNext, h'⟩ := h'
        by_cases eq : next = step
        · subst eq
          obtain rfl := Option.some.inj (found.symm.trans foundNext)
          rw [get?_cons, lookup_putNamed_self]
          exact ih h position' found' h'
        · refine ⟨found', ?_, fun _ => id⟩
          rw [get?_cons, lookup_putNamed_of_ne eq, foundNext]
          exact h'

end Entry

/-! ## File systems -/

namespace FileSystem

/-- Whether the directories of a file system are directories of another, with all the names in them. -/
structure Grows (fs fs' : FileSystem) : Prop where
  working : fs'.working = fs.working
  root : fs.root.Grows fs'.root

variable {fs fs' : FileSystem} {path : Path}

theorem Grows.refl (fs : FileSystem) : fs.Grows fs := ⟨rfl, .refl _⟩

theorem Grows.trans {fs'' : FileSystem} (h : fs.Grows fs') (h' : fs'.Grows fs'') : fs.Grows fs'' :=
  ⟨h'.working.trans h.working, h.root.trans h'.root⟩

theorem Grows.start (h : fs.Grows fs') (path : Path) : fs'.start path = fs.start path := by
  rw [FileSystem.start, FileSystem.start, h.working]

/-- What can be followed to somewhere can still be followed to there. -/
theorem Grows.follow (h : fs.Grows fs') {segments : List String} {position target : Position}
    (found : fs.follow position segments = .ok target) :
    fs'.follow position segments = .ok target := by
  induction segments generalizing position with
  | nil => exact found
  | cons segment segments ih =>
    rw [FileSystem.follow] at found ⊢
    split at found
    · rename_i entries here
      obtain ⟨entries', here', names⟩ := h.root position entries here
      rw [FileSystem.get?, here']
      dsimp only
      split at found
      · rw [if_pos ‹_›]
        exact ih found
      split at found
      · rw [if_neg ‹_›, if_pos ‹_›]
        exact ih found
      split at found
      · rw [if_neg ‹_›, if_neg ‹_›, if_pos (names segment ‹_›)]
        exact ih found
      · contradiction
    · contradiction
    · contradiction

theorem follow_append (fs : FileSystem) (position : Position) (segments segments' : List String) :
    fs.follow position (segments ++ segments')
      = fs.follow position segments >>= fun target => fs.follow target segments' := by
  induction segments generalizing position with
  | nil => rfl
  | cons segment segments ih =>
    rw [List.cons_append, FileSystem.follow, FileSystem.follow]
    split
    · split
      · exact ih _
      split
      · exact ih _
      split
      · exact ih _
      · rfl
    · rfl
    · rfl

/-- What is followed in two parts passes through where the first one leads. -/
theorem exists_of_follow_append {position target : Position} {segments segments' : List String}
    (h : fs.follow position (segments ++ segments') = .ok target) :
    ∃ between, fs.follow position segments = .ok between ∧ fs.follow between segments' = .ok target := by
  rw [follow_append] at h
  cases first : fs.follow position segments with
  | error e =>
    rw [first] at h
    cases h
  | ok between =>
    rw [first] at h
    exact ⟨between, rfl, h⟩

/-! ## Directories -/

/-- Whether a path names a directory that need not be made. -/
structure Has (fs : FileSystem) (path : Path) : Prop where
  exist : fs.makeDirectory path = .error .exists
  isDirectory : fs.isDirectory path = true

theorem Has.ensureDirectory (h : fs.Has path) : fs.ensureDirectory path = (fs, none) := by
  rw [FileSystem.ensureDirectory, h.exist]
  simp [h.isDirectory]

theorem Grows.isDirectory (h : fs.Grows fs') (found : fs.isDirectory path = true) :
    fs'.isDirectory path = true := by
  rw [FileSystem.isDirectory, entry?, locate] at found ⊢
  split at found
  · rename_i entry named
    split at named
    · rename_i position located
      split at located
      · contradiction
      · rename_i written
        cases entry with
        | file content => contradiction
        | directory entries =>
          obtain ⟨entries', here', -⟩ := h.root position entries named
          rw [if_neg written, h.start, h.follow located]
          dsimp only
          rw [FileSystem.get?, here']
          rfl
    · contradiction
  · contradiction

theorem follow_ne_exists {segments : List String} {position : Position} :
    fs.follow position segments ≠ .error .exists := by
  induction segments generalizing position with
  | nil => simp [FileSystem.follow]
  | cons segment segments ih =>
    rw [FileSystem.follow]
    split
    · split
      · exact ih
      split
      · exact ih
      split
      · exact ih
      · simp
    · simp
    · simp

theorem Has.grows (h : fs.Has path) (grows : fs.Grows fs') : fs'.Has path := by
  refine ⟨?_, grows.isDirectory h.isDirectory⟩
  have exist := h.exist
  rw [makeDirectory] at exist ⊢
  split at exist
  · exact exist
  · rename_i name before _
    cases found : fs.follow (fs.start path) before.reverse with
    | error e =>
      rw [found] at exist
      cases exist
      exact absurd found follow_ne_exists
    | ok directory =>
      rw [found] at exist
      rw [grows.start, grows.follow found]
      dsimp only [bind, Except.bind] at exist ⊢
      split at exist
      · rename_i entries here
        obtain ⟨entries', here', names⟩ := grows.root directory entries here
        split at exist
        · rename_i taken
          rw [FileSystem.get?, here']
          dsimp only
          rw [if_pos]
          rw [Bool.or_eq_true] at taken ⊢
          exact taken.imp id (names name)
        · cases exist
      · cases exist
      · cases exist

theorem makeDirectory_ok (h : fs.makeDirectory path = .ok fs') :
    ∃ name before directory entries,
      (segments path).reverse.dropWhile (· = "") = name :: before
        ∧ fs.follow (fs.start path) before.reverse = .ok directory
        ∧ fs.get? directory = some (.directory entries)
        ∧ isName name = true ∧ entries.lookup name = none
        ∧ fs' = fs.put (directory ++ [name]) (.directory []) := by
  rw [makeDirectory] at h
  split at h
  · split at h <;> contradiction
  · rename_i name before written
    cases found : fs.follow (fs.start path) before.reverse with
    | error e =>
      rw [found] at h
      contradiction
    | ok directory =>
      rw [found] at h
      dsimp only [bind, Except.bind] at h
      split at h
      · rename_i entries here
        split at h
        · contradiction
        · rename_i free
          cases h
          simp only [Bool.or_eq_true, Bool.not_eq_true', not_or, Bool.not_eq_false,
            Option.isSome_iff_ne_none, not_not] at free
          exact ⟨name, before, directory, entries, written, found, here, free.1, free.2, rfl⟩
      · contradiction
      · contradiction

theorem grows_put {position : Position} {entries : List (String × Entry)} {name : String}
    {new : Entry} (h : fs.get? position = some (.directory entries))
    (other : ∀ es, entries.lookup name ≠ some (.directory es)) :
    fs.Grows (fs.put (position ++ [name]) new) := ⟨rfl, Entry.grows_put h other⟩

theorem get?_put {position : Position} {entries : List (String × Entry)} {name : String}
    {new : Entry} (h : fs.get? position = some (.directory entries)) :
    (fs.put (position ++ [name]) new).get? (position ++ [name]) = some new := Entry.get?_put h

/-- An entry is found by following its name. -/
theorem follow_name {position : Position} {name : String} {new : Entry}
    {entries : List (String × Entry)} (named : isName name = true)
    (here : fs.get? position = some (.directory entries))
    (there : fs.get? (position ++ [name]) = some new) :
    entries.lookup name = some new ∧ fs.follow position [name] = .ok (position ++ [name]) := by
  have found : entries.lookup name = some new := by
    rw [FileSystem.get?, Entry.get?_append] at there
    rw [FileSystem.get?] at here
    rw [here, Option.bind_some, Entry.get?_cons, Option.bind_eq_some_iff] at there
    obtain ⟨child, found, eq⟩ := there
    exact found.trans eq
  refine ⟨found, ?_⟩
  simp only [isName, Bool.and_eq_true, bne_iff_ne] at named
  rw [FileSystem.follow, here]
  simp [named, found, FileSystem.follow]

theorem follow_empty {position : Position} {entries : List (String × Entry)}
    (here : fs.get? position = some (.directory entries)) {segments : List String}
    (empty : ∀ segment ∈ segments, segment = "") :
    fs.follow position segments = .ok position := by
  induction segments with
  | nil => rfl
  | cons segment segments ih =>
    rw [FileSystem.follow, here]
    dsimp only
    rw [if_pos (.inl (empty segment List.mem_cons_self))]
    exact ih fun segment mem => empty segment (List.mem_cons_of_mem _ mem)

/-- A directory that is made in another is there, and so is the other. -/
theorem grows_made {name : String} {directory : Position} {entries : List (String × Entry)}
    (here : fs.get? directory = some (.directory entries)) (free : entries.lookup name = none) :
    fs.Grows (fs.put (directory ++ [name]) (.directory []))
      ∧ (fs.put (directory ++ [name]) (.directory [])).get? (directory ++ [name])
        = some (.directory [])
      ∧ ∃ entries', (fs.put (directory ++ [name]) (.directory [])).root.get? directory
        = some (.directory entries') := by
  have grows : fs.Grows (fs.put (directory ++ [name]) (.directory [])) :=
    grows_put here (by simp [free])
  obtain ⟨entries', here', -⟩ := grows.root directory entries here
  exact ⟨grows, get?_put here, entries', here'⟩

/-- The path of a directory that is made leads to it. -/
theorem locate_made {name : String} {before : List String} {directory : Position}
    {entries : List (String × Entry)}
    (written : (segments path).reverse.dropWhile (· = "") = name :: before)
    (found : fs.follow (fs.start path) before.reverse = .ok directory)
    (here : fs.get? directory = some (.directory entries)) (named : isName name = true)
    (free : entries.lookup name = none) :
    (fs.put (directory ++ [name]) (.directory [])).locate path = .ok (directory ++ [name]) := by
  obtain ⟨grows, made, entries', here'⟩ := grows_made here free
  have nonempty : path.text ≠ "" := by
    intro eq
    rw [segments, eq] at written
    simp [Text.splitOn] at written
  have parts : segments path
      = before.reverse ++ ([name] ++ ((segments path).reverse.takeWhile (· = "")).reverse) := by
    have := congrArg List.reverse
      (List.takeWhile_append_dropWhile (p := fun s : String => decide (s = ""))
        (l := (segments path).reverse))
    rw [written] at this
    simpa using this.symm
  rw [locate, if_neg nonempty, grows.start, parts, follow_append, grows.follow found]
  dsimp only [bind, Except.bind]
  rw [follow_append, (follow_name named here' made).2]
  refine follow_empty made fun segment mem => ?_
  have := List.mem_takeWhile_imp (List.mem_reverse.mp mem)
  simpa using this

/-- A directory that was made is there. -/
theorem has_of_makeDirectory (h : fs.makeDirectory path = .ok fs') : fs.Grows fs' ∧ fs'.Has path := by
  obtain ⟨name, before, directory, entries, written, found, here, named, free, rfl⟩ :=
    makeDirectory_ok h
  obtain ⟨grows, made, entries', here'⟩ := grows_made here free
  refine ⟨grows, ?_, ?_⟩
  · rw [makeDirectory, written]
    dsimp only
    rw [grows.start, grows.follow found]
    dsimp only [bind, Except.bind]
    rw [FileSystem.get?, here']
    simp [(follow_name named here' made).1]
  · rw [FileSystem.isDirectory, entry?, locate_made written found here named free]
    dsimp only
    rw [made]
    rfl

theorem has_of_ensureDirectory (h : fs.ensureDirectory path = (fs', none)) :
    fs.Grows fs' ∧ fs'.Has path := by
  rw [FileSystem.ensureDirectory] at h
  split at h
  · rename_i made
    cases h
    exact has_of_makeDirectory made
  · rename_i e refused
    split at h
    · rename_i present
      cases h
      exact ⟨.refl _, present.1 ▸ refused, present.2⟩
    · cases h

/-- Directories that were made are there, and what is above the first needs no look. -/
theorem has_of_makeAll {paths : List Path} (h : fs.makeAll paths = (fs', none)) :
    fs.Grows fs' ∧ ∀ path ∈ paths.head?, path.parent?.isNone = true ∨ fs'.Has path := by
  induction paths generalizing fs' with
  | nil =>
    cases h
    exact ⟨.refl _, by simp⟩
  | cons path paths ih =>
    rw [makeAll] at h
    split at h
    · rename_i top
      cases h
      exact ⟨.refl _, by rintro _ ⟨⟩; exact .inl top⟩
    split at h
    · split at h
      · rename_i fs₁ above
        obtain ⟨grown, present⟩ := has_of_ensureDirectory h
        exact ⟨(ih above).1.trans grown, by simp [present]⟩
      · rename_i failed
        exact absurd h (failed _)
    · rename_i done
      obtain ⟨grown, present⟩ := has_of_ensureDirectory h
      exact ⟨grown, by simp [present]⟩

/-- Directories that were made need not be made again. -/
theorem makeDirectories_again {later : FileSystem} (h : fs.makeDirectories path = (fs', none))
    (grows : fs'.Grows later) : later.makeDirectories path = (later, none) := by
  obtain ⟨-, present⟩ := has_of_makeAll h
  rw [makeDirectories]
  cases paths : path.ancestors with
  | nil => rfl
  | cons first paths =>
    rw [paths] at present
    rw [makeAll]
    split
    · rfl
    · rcases present first rfl with top | has
      · contradiction
      · rw [(has.grows grows).ensureDirectory]

theorem exists_segments_eq (path : Path) : ∃ before name, segments path = before ++ [name] := by
  rcases List.eq_nil_or_concat (segments path) with none | ⟨before, name, parts⟩
  · rw [segments, List.map_eq_nil_iff] at none
    exact absurd none (Text.splitOn_ne_nil _ _)
  · exact ⟨before, name, by rw [parts, List.concat_eq_append]⟩

/-- A write puts a file into a directory, under a name that is no directory in it. -/
theorem write_ok {content : Content} (h : fs.write path content = .ok fs') :
    path.text ≠ "" ∧ ∃ before name directory entries, segments path = before ++ [name]
      ∧ fs.follow (fs.start path) before = .ok directory ∧ isName name = true
      ∧ fs.get? directory = some (.directory entries)
      ∧ (∀ es, entries.lookup name ≠ some (.directory es))
      ∧ fs' = fs.put (directory ++ [name]) (.file content) := by
  obtain ⟨before, name, parts⟩ := exists_segments_eq path
  rw [write, parts, List.dropLast_concat, List.getLast?_concat, Option.getD_some] at h
  split at h
  · contradiction
  rename_i written
  cases found : fs.follow (fs.start path) before with
  | error e =>
    rw [found] at h
    contradiction
  | ok directory =>
    rw [found] at h
    dsimp only [bind, Except.bind] at h
    split at h
    · rename_i named
      split at h
      · rename_i entries here
        split at h
        · contradiction
        · rename_i other
          cases h
          exact ⟨written, before, name, directory, entries, parts, found, named, here,
            fun es eq => other es eq, rfl⟩
      · contradiction
      · contradiction
    · contradiction

/-- A file that was written can be written again. -/
theorem write_again {content : Content} (h : fs.write path content = .ok fs') :
    fs.Grows fs' ∧ ∀ content', ∃ later, fs'.write path content' = .ok later := by
  obtain ⟨written, before, name, directory, entries, parts, found, named, here, other, rfl⟩ :=
    write_ok h
  have grows := @grows_put fs directory entries name (.file content) here other
  refine ⟨grows, fun content' => ?_⟩
  obtain ⟨entries', here', -⟩ := grows.root directory entries here
  obtain ⟨taken, -⟩ := follow_name named here' (get?_put here)
  rw [write, if_neg written, parts, List.dropLast_concat, List.getLast?_concat, Option.getD_some,
    grows.start, grows.follow found]
  dsimp only [bind, Except.bind]
  rw [if_pos named, FileSystem.get?, here']
  dsimp only
  rw [taken]
  exact ⟨_, rfl⟩

end FileSystem

/-- A catalog can be written again, with other messages. -/
theorem Catalog.emit_again {fs fs' : FileSystem} {outputDirectory : Option String} {source root : Path}
    {messages messages' : List Descriptor} {written : Option Path}
    (h : emit fs outputDirectory source root messages = (fs', .ok written))
    (some : messages = [] → messages' = []) :
    ∃ later written', emit fs' outputDirectory source root messages' = (later, .ok written') := by
  rw [emit.eq_def] at h ⊢
  split at h
  · exact ⟨_, _, rfl⟩
  · rw [some rfl]
    cases outputDirectory <;> exact ⟨_, _, rfl⟩
  · rename_i directory messages _
    dsimp only at h
    split at h
    · cases h
    · rename_i fs₁ made
      split at h
      · cases h
      · rename_i fs₂ wrote
        cases h
        obtain ⟨grows, again⟩ := FileSystem.write_again wrote
        cases messages' with
        | nil => exact ⟨_, _, rfl⟩
        | cons message messages' =>
          obtain ⟨later, eq⟩ := again (.text (text (message :: messages')))
          dsimp only
          rw [FileSystem.makeDirectories_again made grows]
          dsimp only
          rw [eq]
          exact ⟨_, _, rfl⟩

end MessageExtraction
