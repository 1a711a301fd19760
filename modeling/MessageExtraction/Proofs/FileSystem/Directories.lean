import Mathlib.Data.List.Infix
import MessageExtraction.Proofs.FileSystem.Tree
import MessageExtraction.Proofs.Path.Ancestors

/-!
# The directories that a path passes

A path stands for a directory, and so does each path on the way back from it. A name that is taken off leads
one directory up. A `..` that is taken off leads down again, to the directory that the path went up from.

* `directory?_iff_moves`: a path stands for the directory that its moves lead to.
* `exists_directory?_of_parent?`: each step back leads one directory up, or it stays, or it leads back down.
* `exists?_join`, `locate_join`: the entries of the directory.
-/

namespace MessageExtraction.FileSystem

variable {fs : FileSystem} {p q path : Path} {position directory : Position} {segments : List String}
  {entries : List (String × Entry)} {name : String}

/-! ## Where a path stands -/

/-- The directory that a path stands for. The empty path stands for the working directory. -/
def directory? (fs : FileSystem) (path : Path) : Option Position :=
  match fs.follow (fs.start path) path.leading with
  | .ok position => if (fs.get? position).any Entry.isDirectory then some position else none
  | .error _ => none

theorem directory?_eq_some_iff :
    fs.directory? path = some directory ↔ fs.follow (fs.start path) path.leading = .ok directory
      ∧ ∃ entries, fs.get? directory = some (.directory entries) := by
  rw [directory?]
  cases fs.follow (fs.start path) path.leading with
  | error e => simp
  | ok position =>
    dsimp only
    rw [Except.ok.injEq]
    constructor
    · intro h
      split at h
      · rename_i there
        cases h
        refine ⟨rfl, ?_⟩
        cases found : fs.get? directory with
        | none => simp [found] at there
        | some entry =>
          cases entry with
          | file => simp [found, Entry.isDirectory] at there
          | directory entries => exact ⟨entries, rfl⟩
      · cases h
    · rintro ⟨rfl, entries, here⟩
      rw [here, Option.any_some, Entry.isDirectory, if_pos rfl]

/-- What leads to a directory starts in one. -/
theorem exists_directory_of_follow (h : fs.follow position segments = .ok directory)
    (here : fs.get? directory = some (.directory entries)) :
    ∃ entries, fs.get? position = some (.directory entries) := by
  cases segments with
  | nil =>
    cases h
    exact ⟨entries, here⟩
  | cons segment segments =>
    rw [follow] at h
    split at h
    · rename_i entries there
      exact ⟨entries, there⟩
    · cases h
    · cases h

/-- The segments that do not count are those that stay. -/
theorem isInsignificant_iff {segment : String} :
    Path.isInsignificant segment.toList = true ↔ segment = "" ∨ segment = "." := by
  rw [Path.isInsignificant, Bool.or_eq_true, List.isEmpty_iff, String.toList_eq_nil_iff, beq_iff_eq,
    ← @String.toList_inj segment "."]
  rfl

/-- On the way to a directory, the segments that do not count can be left out. -/
theorem follow_filter (here : fs.get? directory = some (.directory entries)) :
    fs.follow position (segments.filter fun segment => !Path.isInsignificant segment.toList)
        = .ok directory
      ↔ fs.follow position segments = .ok directory := by
  induction segments generalizing position with
  | nil => rfl
  | cons segment segments ih =>
    by_cases start : ∃ entries, fs.get? position = some (.directory entries)
    · obtain ⟨entries, there⟩ := start
      rw [follow, there]
      dsimp only
      by_cases stays : segment = "" ∨ segment = "."
      · rw [if_pos stays, List.filter_cons_of_neg (by simp [isInsignificant_iff.mpr stays])]
        exact ih
      · rw [if_neg stays, List.filter_cons_of_pos (by simpa using mt isInsignificant_iff.mp stays), follow,
          there]
        dsimp only
        rw [if_neg stays]
        split
        · exact ih
        split
        · exact ih
        · rfl
    · constructor
      · exact fun h => absurd (exists_directory_of_follow h here) start
      · exact fun h => absurd (exists_directory_of_follow h here) start

/-- A path stands for the directory that its moves lead to. -/
theorem directory?_iff_moves :
    fs.directory? path = some directory ↔ fs.follow (fs.start path) path.moves = .ok directory
      ∧ ∃ entries, fs.get? directory = some (.directory entries) := by
  rw [directory?_eq_some_iff, Path.moves_eq_leading]
  constructor
  · rintro ⟨leads, entries, here⟩
    exact ⟨(follow_filter here).mpr leads, entries, here⟩
  · rintro ⟨leads, entries, here⟩
    exact ⟨(follow_filter here).mp leads, entries, here⟩

theorem start_of_parent? (h : p.parent? = some q) : fs.start q = fs.start p := by
  rw [start, start, Path.isAbsolute_of_parent? h]

/-- A segment that can be followed starts in a directory that holds the one it leads to, or lies below it. -/
theorem adjacent_of_follow {segment : String} (h : fs.follow position [segment] = .ok directory) :
    (∃ entries, fs.get? position = some (.directory entries))
      ∧ (position = directory.dropLast ∨ directory <+: position) := by
  rw [follow] at h
  split at h
  · rename_i entries here
    refine ⟨⟨entries, here⟩, ?_⟩
    split at h
    · cases h
      exact .inr List.prefix_rfl
    split at h
    · cases h
      exact .inr (List.dropLast_prefix position)
    split at h
    · cases h
      exact .inl List.dropLast_concat.symm
    · cases h
  · cases h
  · cases h

/-- One step back on a path leads one directory up, or it stays, or it leads down to the directory that the
path went up from. -/
theorem exists_directory?_of_parent? (h : p.parent? = some q) (stands : fs.directory? p = some directory) :
    ∃ back, fs.directory? q = some back ∧ (back = directory.dropLast ∨ directory <+: back) := by
  obtain ⟨leads, entries, here⟩ := directory?_iff_moves.mp stands
  rw [← start_of_parent? h] at leads
  rcases Path.moves_of_parent? h with eq | ⟨move, eq⟩
  · rw [eq] at leads
    exact ⟨directory, directory?_iff_moves.mpr ⟨leads, entries, here⟩, .inr List.prefix_rfl⟩
  · rw [eq] at leads
    obtain ⟨back, before, last⟩ := exists_of_follow_append leads
    obtain ⟨there, adjacent⟩ := adjacent_of_follow last
    exact ⟨back, directory?_iff_moves.mpr ⟨before, there⟩, adjacent⟩

/-- Without `..`, a path stands for the directory that its names lead to. -/
theorem directory_eq_of_descending (descending : Path.Component.parent ∉ p.components)
    (stands : fs.directory? p = some directory) : directory = fs.start p ++ p.moves := by
  obtain ⟨leads, -⟩ := directory?_iff_moves.mp stands
  refine follow_names (fun move mem => ?_) leads
  obtain ⟨component, mem, eq⟩ := List.mem_filterMap.mp mem
  cases component with
  | root => cases eq
  | current => cases eq
  | parent => exact absurd mem descending
  | name text =>
    cases eq
    exact (Path.isSegment_of_mem_components mem).1

/-- Without `..`, each step back leads one directory up, or stays. -/
theorem isPrefix_of_parent? {back : Position} (descending : Path.Component.parent ∉ p.components)
    (h : p.parent? = some q) (stands : fs.directory? p = some directory)
    (stands' : fs.directory? q = some back) : back <+: directory := by
  have descending' := Path.descending_of_parent? descending h
  rw [directory_eq_of_descending descending stands, directory_eq_of_descending descending' stands',
    start_of_parent? h]
  rcases Path.moves_of_parent? h with eq | ⟨move, eq⟩
  · rw [eq]
  · rw [eq, ← List.append_assoc]
    exact List.prefix_append _ _

/-- A path with nothing to take off stands for where it starts. -/
theorem directory?_of_none (h : p.parent? = none) (stands : fs.directory? p = some directory) :
    directory = fs.start p := by
  obtain ⟨leads, -⟩ := directory?_iff_moves.mp stands
  rw [Path.moves_of_none h] at leads
  cases leads
  rfl

/-! ## Where a path leads, whatever there is -/

/-- Where a move leads. -/
def moved (position : Position) (move : String) : Position :=
  if move = ".." then position.dropLast else position ++ [move]

/-- Where the moves of a path lead, whatever there is on the way. -/
def aim (fs : FileSystem) (path : Path) : Position := path.moves.foldl moved (fs.start path)

/-- The file system says whether segments can be followed, but not where to. -/
theorem eq_foldl_of_follow (h : fs.follow position segments = .ok directory) :
    directory
      = (segments.filter fun segment => !Path.isInsignificant segment.toList).foldl moved position := by
  induction segments generalizing position with
  | nil =>
    cases h
    rfl
  | cons segment segments ih =>
    rw [follow] at h
    split at h
    · by_cases stays : segment = "" ∨ segment = "."
      · rw [if_pos stays] at h
        rw [List.filter_cons_of_neg (by simp [isInsignificant_iff.mpr stays])]
        exact ih h
      · rw [if_neg stays] at h
        rw [List.filter_cons_of_pos (by simpa using mt isInsignificant_iff.mp stays), List.foldl_cons, moved]
        split at h
        · rw [if_pos ‹_›]
          exact ih h
        rw [if_neg ‹_›]
        split at h
        · exact ih h
        · cases h
    · cases h
    · cases h

theorem Grows.aim {fs' : FileSystem} (h : fs.Grows fs') (path : Path) : fs'.aim path = fs.aim path := by
  rw [FileSystem.aim, FileSystem.aim, h.start]

theorem eq_aim_of_locate (h : fs.locate path = .ok position) : position = fs.aim path := by
  rw [locate] at h
  split at h
  · cases h
  · rw [aim, Path.moves_eq_segments]
    exact eq_foldl_of_follow h

theorem eq_aim_of_directory? (h : fs.directory? path = some directory) : directory = fs.aim path := by
  rw [aim, Path.moves_eq_leading]
  exact eq_foldl_of_follow (directory?_eq_some_iff.mp h).1

theorem isName_iff : isName name = true ↔ name ≠ "" ∧ name ≠ "." ∧ name ≠ ".." := by
  simp only [isName, Bool.and_eq_true, bne_iff_ne, and_assoc]

/-- A path with a name at its end leads to an entry of that name. -/
theorem exists_aim_of_fileName? (fs : FileSystem) (named : path.fileName? = some name) :
    ∃ above, fs.aim path = above ++ [name] := by
  obtain ⟨-, -, down⟩ := isName_iff.mp (Path.isSegment_of_fileName? named).1
  rw [aim, Path.moves_of_fileName? named, List.foldl_append]
  exact ⟨_, if_neg down⟩

/-- A name at the end of a path is followed in the directory that the path behind it stands for. -/
theorem exists_directory?_of_locate (h : p.parent? = some q) (named : p.fileName? = some name)
    (parts : FileSystem.segments p = segments ++ [name]) (located : fs.locate p = .ok position) :
    ∃ back, fs.directory? q = some back := by
  rw [locate] at located
  split at located
  · cases located
  rw [parts] at located
  obtain ⟨back, leads, last⟩ := exists_of_follow_append located
  obtain ⟨⟨entries, here⟩, -⟩ := adjacent_of_follow last
  have moves : q.moves = segments.filter fun segment => !Path.isInsignificant segment.toList := by
    obtain ⟨some, other, -⟩ := isName_iff.mp (Path.isSegment_of_fileName? named).1
    have counts : Path.isInsignificant name.toList = false :=
      Bool.eq_false_iff.mpr fun insignificant => (isInsignificant_iff.mp insignificant).elim some other
    have whole := Path.moves_of_fileName? named
    rw [← Path.components_of_parent? h, Path.moves_eq_segments, parts, List.filter_append,
      List.filter_cons_of_pos (by simp [counts]), List.filter_nil, List.append_cancel_right_eq] at whole
    exact whole.symm
  refine ⟨back, directory?_iff_moves.mpr ⟨?_, entries, here⟩⟩
  rw [moves, start_of_parent? h]
  exact (follow_filter here).mpr leads

/-! ## Entries of the directory -/

theorem locate_join_eq_follow (stands : fs.directory? path = some directory) (segment : Path.IsSegment name) :
    fs.locate (path.join ⟨name⟩) = fs.follow directory [name] := by
  have written : (path.descend [name]).text ≠ "" :=
    Path.text_descend_ne_empty path (by simpa using segment) (List.cons_ne_nil _ _)
  rw [Path.descend_cons, Path.descend_nil] at written
  rw [locate, if_neg written, start, Path.isAbsolute_join path (Path.isAbsolute_mk segment.2), ← start,
    Path.segments_join path segment.2, follow_append, (directory?_eq_some_iff.mp stands).1]
  rfl

/-- A name that is joined to a path leads to the entry of its directory. -/
theorem locate_join (stands : fs.directory? path = some directory) (segment : Path.IsSegment name)
    (held : (fs.get? (directory ++ [name])).isSome) :
    fs.locate (path.join ⟨name⟩) = .ok (directory ++ [name]) := by
  obtain ⟨-, entries, here⟩ := directory?_eq_some_iff.mp stands
  obtain ⟨entry, there⟩ := Option.isSome_iff_exists.mp held
  rw [locate_join_eq_follow stands segment]
  exact (follow_name segment.1 here there).2

theorem exists?_join (stands : fs.directory? path = some directory) (segment : Path.IsSegment name) :
    fs.exists? (path.join ⟨name⟩) = (fs.get? (directory ++ [name])).isSome := by
  cases held : (fs.get? (directory ++ [name])).isSome with
  | true => rw [exists?, entry?, locate_join stands segment held, held]
  | false =>
    rw [exists?, entry?, locate_join_eq_follow stands segment]
    cases leads : fs.follow directory [name] with
    | error e => rfl
    | ok position =>
      obtain rfl : position = directory ++ [name] :=
        follow_names (by simpa using segment.1) leads
      exact held

end MessageExtraction.FileSystem
