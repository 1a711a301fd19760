import MessageExtraction.Proofs.FileSystem.Tree
import MessageExtraction.Proofs.FileSystem.Writing

/-!
# Where catalogs lie

The catalogs of a project lie below one output directory, each at its `place`: the names of the directories
that the source file lies in below the project root, and the file name with the extension `json`.

* `segments_path`: the path of a catalog leads to the output directory and from there to its place.
* `path_eq_path_iff`: catalogs below one output directory have one path exactly if they have one place.
* `emit_ok`: a catalog that is written holds the messages, and those at other places stay as they are.
-/

namespace MessageExtraction.Catalog

open FileSystem

variable {fs fs' : FileSystem} {outputDirectory source source' root root' : Path}

/-- Where the catalog of a source file lies below the output directory: the names of its directories and
its own name. -/
def place (source root : Path) : List String :=
  let relative := relativeSource source root
  names ((relative.parent?.map Path.components).getD []) ++ [relative.fileStem?.getD "" ++ ".json"]

theorem path_eq_descend (outputDirectory source root : Path) :
    path outputDirectory source root = outputDirectory.descend (place source root) := rfl

theorem isSegment_of_mem_place {name : String} (h : name ∈ place source root) :
    Path.IsSegment name := by
  rw [place, List.mem_append, List.mem_singleton] at h
  rcases h with directory | rfl
  · simp only [names, List.mem_filterMap] at directory
    obtain ⟨component, mem, eq⟩ := directory
    cases component with
    | name text =>
      cases eq
      cases parent : (relativeSource source root).parent? with
      | none => simp [parent] at mem
      | some p =>
        rw [parent] at mem
        exact Path.isSegment_of_mem_components mem
    | _ => cases eq
  · constructor
    · refine Path.isName_of_lt_length ?_
      rw [String.length_append]
      exact Nat.lt_add_left _ (by decide)
    · rw [String.toList_append, List.mem_append, not_or]
      exact ⟨Path.not_mem_fileStem?, by decide⟩

theorem exists_place_eq (source root : Path) :
    ∃ directories file, place source root = directories ++ [file] := ⟨_, _, rfl⟩

/-- The path of a catalog leads to the output directory, and from there to its place. -/
theorem segments_path (outputDirectory source root : Path) :
    segments (path outputDirectory source root) = outputDirectory.leading ++ place source root := by
  obtain ⟨directories, file, eq⟩ := exists_place_eq source root
  rw [path_eq_descend, Path.segments_descend _ fun _ => isSegment_of_mem_place]
  simp [eq]

/-- Catalogs below one output directory have one path exactly if they have one place. -/
theorem path_eq_path_iff :
    path outputDirectory source root = path outputDirectory source' root'
      ↔ place source root = place source' root' := by
  constructor
  · intro eq
    have := congrArg segments eq
    rwa [segments_path, segments_path, List.append_cancel_left_eq] at this
  · intro eq
    rw [path_eq_descend, path_eq_descend, eq]

theorem start_path (fs : FileSystem) (outputDirectory source root : Path) :
    fs.start (path outputDirectory source root) = fs.start outputDirectory := by
  rw [start, start, path_eq_descend, Path.isAbsolute_descend _ fun _ => isSegment_of_mem_place]

/-- Where the path of a catalog leads to, seen from where its output directory lies. -/
theorem locate_path {position : Position}
    (h : fs.locate (path outputDirectory source root) = .ok position) :
    ∃ base, fs.follow (fs.start outputDirectory) outputDirectory.leading = .ok base
      ∧ position = base ++ place source root := by
  rw [locate] at h
  split at h
  · cases h
  rw [segments_path, start_path] at h
  exact exists_of_follow_names (fun _ mem => (isSegment_of_mem_place mem).1) h

/-- Where the catalog is written, seen from where its output directory lies. -/
theorem target_path {position : Position}
    (h : fs.target (path outputDirectory source root) = some position) :
    ∃ base, fs.follow (fs.start outputDirectory) outputDirectory.leading = .ok base
      ∧ position = base ++ place source root := by
  obtain ⟨directories, file, eq⟩ := exists_place_eq source root
  rw [target, segments_path, eq, ← List.append_assoc, List.dropLast_concat, List.getLast?_concat,
    start_path] at h
  have named : ∀ name ∈ directories, isName name = true := fun name mem =>
    (isSegment_of_mem_place (eq ▸ List.mem_append_left [file] mem)).1
  split at h
  · rename_i directory found
    cases h
    obtain ⟨base, front, rfl⟩ := exists_of_follow_names named found
    exact ⟨base, front, by rw [eq, Option.toList_some, List.append_assoc]⟩
  · cases h

/-- A catalog that is written holds the messages, and the catalogs at other places below the output
directory hold what they held. -/
theorem emit_ok {directory : String} {messages : List Descriptor} {written : Option Path}
    (nonempty : messages ≠ [])
    (h : emit fs (some directory) source root messages = (fs', .ok written)) :
    written = some (path ⟨directory⟩ source root)
      ∧ fs'.read (path ⟨directory⟩ source root) = .ok (text messages)
      ∧ ∀ other otherRoot held, place other otherRoot ≠ place source root →
          fs.read (path ⟨directory⟩ other otherRoot) = .ok held →
          fs'.read (path ⟨directory⟩ other otherRoot) = .ok held := by
  cases messages with
  | nil => contradiction
  | cons message messages =>
    rw [emit.eq_def] at h
    dsimp only at h
    split at h
    · cases h
    rename_i fs₁ made
    split at h
    · cases h
    rename_i fs₂ wrote
    cases h
    refine ⟨rfl, read_write wrote, fun other otherRoot held apart before => ?_⟩
    have between : fs₁.read (path ⟨directory⟩ other otherRoot) = .ok held :=
      read_of_keepsFiles (grows_makeDirectories made) (keepsFiles_makeDirectories made)
        (fun _ _ => (Option.some_ne_none _).symm) before
    refine read_of_keepsFiles (write_again wrote).1 (keepsFiles_write wrote).1 ?_ between
    -- Both positions continue the one of the output directory, so they differ as the places do.
    intro position located aim
    obtain ⟨base, followed, eq⟩ := locate_path located
    obtain ⟨base', followed', eq'⟩ := target_path aim
    obtain rfl : base = base' := by simpa [followed] using followed'
    exact apart (List.append_cancel_left (eq.symm.trans eq'))

/-- Without messages nothing is written. -/
theorem emit_nil (fs : FileSystem) (outputDirectory : Option String) (source root : Path) :
    emit fs outputDirectory source root [] = (fs, .ok none) := by
  cases outputDirectory <;> rfl

end MessageExtraction.Catalog
