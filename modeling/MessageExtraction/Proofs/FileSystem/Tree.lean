import Mathlib.Data.List.Nodup
import MessageExtraction.Proofs.FileSystem.Growth
import MessageExtraction.Proofs.Path.Joining

/-!
# Files in a tree

A path to which names are joined leads to where the path leads and from there down the names. In a tree
whose directories hold each name once, the listed files are those that names lead to.

* `follow_names`, `follow_of_get?`: names lead down.
* `locate_descend`, `segments_of_file`: the path of a file below another path.
* `Entry.IsTree`, `Entry.mem_files_iff`: trees and their files.
-/

namespace MessageExtraction

/-! ## Paths down -/

namespace FileSystem

variable {fs : FileSystem} {path : Path} {position : Position} {names : List String} {entry : Entry}

/-- Names that can be followed lead to where they say. -/
theorem follow_names {position found : Position} {names : List String}
    (named : ∀ name ∈ names, isName name = true) (h : fs.follow position names = .ok found) :
    found = position ++ names := by
  induction names generalizing position with
  | nil =>
    cases h
    rw [List.append_nil]
  | cons name names ih =>
    have here := named name List.mem_cons_self
    simp only [isName, Bool.and_eq_true, bne_iff_ne] at here
    rw [follow] at h
    split at h
    · -- A name is not empty and none of the names for here and above, so the step goes down.
      rw [if_neg (by simp [here]), if_neg here.2] at h
      split at h
      · rw [ih (fun n mem => named n (List.mem_cons_of_mem _ mem)) h, List.append_assoc,
          List.singleton_append]
      · cases h
    · cases h
    · cases h

theorem exists_of_follow_names {target : Position} {segments : List String}
    (named : ∀ name ∈ names, isName name = true)
    (h : fs.follow position (segments ++ names) = .ok target) :
    ∃ above, fs.follow position segments = .ok above ∧ target = above ++ names := by
  obtain ⟨above, front, below⟩ := exists_of_follow_append h
  exact ⟨above, front, follow_names named below⟩

/-- Names lead down to an entry. -/
theorem follow_of_get? (named : ∀ name ∈ names, isName name = true)
    (there : fs.get? (position ++ names) = some entry) :
    fs.follow position names = .ok (position ++ names) := by
  induction names generalizing position with
  | nil => rw [follow, List.append_nil]
  | cons name names ih =>
    have below := there
    rw [get?, Entry.get?_append, Option.bind_eq_some_iff] at below
    obtain ⟨here, found, below⟩ := below
    cases here with
    | file content => cases below
    | directory entries =>
      rw [Entry.get?_cons, Option.bind_eq_some_iff] at below
      obtain ⟨child, next, -⟩ := below
      have step : fs.get? (position ++ [name]) = some child := by
        rw [get?, Entry.get?_append, ← get?, get?, found, Option.bind_some, Entry.get?_cons, next]
        rfl
      have split : position ++ name :: names = position ++ [name] ++ names := by simp
      rw [split] at there ⊢
      have first := (follow_name (named name List.mem_cons_self) found step).2
      rw [← List.singleton_append, follow_append, first]
      exact ih (fun n mem => named n (List.mem_cons_of_mem _ mem)) there

/-- A slash at the end of a path stays where it is, in a directory. -/
theorem follow_slash {before : Position} (h : fs.follow before [""] = .ok position) :
    before = position ∧ ∃ entries, fs.get? position = some (.directory entries) := by
  simp only [follow] at h
  split at h
  · rename_i entries here
    cases h
    exact ⟨rfl, entries, here⟩
  · cases h
  · cases h

/-- A path leads to where its segments in front of joined names lead. If there is one more segment, it leads
to a directory. -/
theorem follow_leading (h : fs.locate path = .ok position) :
    fs.follow (fs.start path) path.leading = .ok position
      ∧ (segments path = path.leading ∨ ∃ entries, fs.get? position = some (.directory entries)) := by
  rw [locate] at h
  split at h
  · cases h
  rename_i written
  rcases Path.segments_eq_leading path with ⟨empty, -⟩ | ⟨-, eq | eq⟩
  · exact absurd empty written
  · exact ⟨eq ▸ h, .inl eq⟩
  · rw [eq] at h
    obtain ⟨before, front, slash⟩ := exists_of_follow_append h
    obtain ⟨rfl, directory⟩ := follow_slash slash
    exact ⟨front, .inr directory⟩

/-- A path to which names are joined leads to where the path leads and from there down the names. -/
theorem locate_descend (h : fs.locate path = .ok position)
    (segments : ∀ name ∈ names, Path.IsSegment name)
    (there : fs.get? (position ++ names) = some entry) :
    fs.locate (path.descend names) = .ok (position ++ names) := by
  cases names with
  | nil => simpa using h
  | cons name rest =>
    rw [locate, if_neg (Path.text_descend_ne_empty path segments (List.cons_ne_nil _ _)), start,
      Path.isAbsolute_descend path segments, ← start,
      Path.segments_descend path segments (List.cons_ne_nil _ _), follow_append, (follow_leading h).1]
    exact follow_of_get? (fun name mem => (segments name mem).1) there

/-- The path of a file consists of the segments of any path above it and the names from there. -/
theorem segments_of_file {content : Content} (h : fs.locate path = .ok position)
    (segments : ∀ name ∈ names, Path.IsSegment name)
    (there : fs.get? (position ++ names) = some (.file content)) :
    FileSystem.segments (path.descend names) = path.leading ++ names := by
  cases names with
  | nil =>
    rw [List.append_nil] at there ⊢
    rcases (follow_leading h).2 with eq | ⟨entries, directory⟩
    · exact eq
    · rw [there] at directory
      cases directory
  | cons name rest => exact Path.segments_descend path segments (List.cons_ne_nil _ _)

end FileSystem

/-! ## Trees -/

namespace Entry

/-- Whether an entry is a tree of directories that hold each name once. -/
inductive IsTree : Entry → Prop
  | file (content : Content) : IsTree (.file content)
  | directory (entries : List (String × Entry)) : (entries.map Prod.fst).Nodup →
      (∀ entry ∈ entries, Path.IsSegment entry.1) → (∀ entry ∈ entries, IsTree entry.2) →
      IsTree (.directory entries)

variable {entry : Entry} {entries : List (String × Entry)} {names : List String} {content : Content}

theorem mem_filesOf_iff :
    (names, content) ∈ filesOf entries
      ↔ ∃ name child rest, (name, child) ∈ entries ∧ names = name :: rest
        ∧ (rest, content) ∈ child.files := by
  induction entries with
  | nil => simp [filesOf]
  | cons first entries ih =>
    obtain ⟨name, child⟩ := first
    rw [filesOf, List.mem_append, ih, List.mem_map]
    constructor
    · rintro (⟨⟨rest, content⟩, mem, eq⟩ | ⟨name', child', rest, mem, rfl, below⟩)
      · cases eq
        exact ⟨name, child, rest, List.mem_cons_self, rfl, mem⟩
      · exact ⟨name', child', rest, List.mem_cons_of_mem _ mem, rfl, below⟩
    · rintro ⟨name', child', rest, mem, rfl, below⟩
      rcases List.mem_cons.mp mem with eq | mem
      · cases eq
        exact .inl ⟨(rest, content), below, rfl⟩
      · exact .inr ⟨name', child', rest, mem, rfl, below⟩

/-- In a directory that holds each name once, an entry is looked up by its name. -/
theorem mem_iff_lookup {name : String} (distinct : (entries.map Prod.fst).Nodup) :
    (name, entry) ∈ entries ↔ entries.lookup name = some entry := by
  rw [List.lookup_eq_some_iff]
  constructor
  · intro mem
    obtain ⟨before, behind, rfl⟩ := List.append_of_mem mem
    refine ⟨before, behind, rfl, fun other mem' => ?_⟩
    rw [List.map_append, List.map_cons, List.nodup_append] at distinct
    rw [bne_iff_ne]
    exact (distinct.2.2 _ (List.mem_map_of_mem mem') _ List.mem_cons_self).symm
  · rintro ⟨before, behind, rfl, -⟩
    simp

/-- The files of a tree are listed by the names that lead to them. -/
theorem mem_files_iff (tree : entry.IsTree) :
    (names, content) ∈ entry.files ↔ entry.get? names = some (.file content) := by
  induction tree generalizing names with
  | file content' =>
    cases names with
    | nil => simp [files, get?, eq_comm]
    | cons name names => simp [files, get?, child?]
  | directory entries distinct _ _ ih =>
    rw [files, mem_filesOf_iff]
    cases names with
    | nil => simp [get?]
    | cons name rest =>
      rw [get?_cons, Option.bind_eq_some_iff]
      constructor
      · rintro ⟨_, child, _, mem, eq, below⟩
        cases eq
        exact ⟨child, (mem_iff_lookup distinct).mp mem, (ih _ mem).mp below⟩
      · rintro ⟨child, found, below⟩
        have mem := (mem_iff_lookup distinct).mpr found
        exact ⟨name, child, rest, mem, rfl, (ih _ mem).mpr below⟩

/-- What names lead to in a tree is a tree, and the names are segments. -/
theorem IsTree.get? {found : Entry} (tree : entry.IsTree) (h : entry.get? names = some found) :
    found.IsTree ∧ ∀ name ∈ names, Path.IsSegment name := by
  induction names generalizing entry with
  | nil =>
    cases h
    exact ⟨tree, by simp⟩
  | cons name names ih =>
    cases tree with
    | file => cases h
    | directory entries distinct segments trees =>
      rw [get?_cons, Option.bind_eq_some_iff] at h
      obtain ⟨child, next, below⟩ := h
      have mem := (mem_iff_lookup distinct).mpr next
      obtain ⟨tree, below⟩ := ih (trees _ mem) below
      exact ⟨tree, List.forall_mem_cons.mpr ⟨segments _ mem, below⟩⟩

end Entry

end MessageExtraction
