import Mathlib.Data.String.Basic
import MessageExtraction.Proofs.Path.Joining
import MessageExtraction.Proofs.Scan.Rules
import MessageExtraction.Proofs.Sorting.Stable

/-!
# What a scan finds

A scan walks down from its roots and does not look into what is ignored. What it finds is said here without a
walk, by the files that are there and the paths above each of them.

* `sources_eq`: a walk finds the files below an entry with nothing on the way that is ignored.
* `pairwise_sorted`, `mem_sorted`: texts in order, each once.
* `files_run`: the files of a scan.
-/

namespace MessageExtraction.Scan

variable {fs : FileSystem} {base path root : Path} {options : Options} {rules : Rules}

/-! ## Walks -/

/-- Whether a walk from a path keeps the file that names lead to: it is a source file, and no path on the way
is ignored, both ends included. -/
def Rules.keeps (rules : Rules) (path : Path) : List String → Bool
  | [] => !rules.ignores path && isSourcePath path
  | name :: names => !rules.ignores path && rules.keeps (path.join ⟨name⟩) names

theorem keeps_of_ignores (h : rules.ignores path = true) (names : List String) :
    rules.keeps path names = false := by
  cases names <;> simp [Rules.keeps, h]

theorem keeps_iff {names : List String} :
    rules.keeps path names = true
      ↔ isSourcePath (path.descend names) = true
        ∧ ∀ above, above <+: names → rules.ignores (path.descend above) = false := by
  induction names generalizing path with
  | nil => simp [Rules.keeps, and_comm]
  | cons name names ih =>
    rw [Rules.keeps, Bool.and_eq_true, Bool.not_eq_true', ih, Path.descend_cons]
    constructor
    · rintro ⟨here, source, free⟩
      refine ⟨source, fun above front => ?_⟩
      cases above with
      | nil => exact here
      | cons n above =>
        obtain ⟨rfl, front'⟩ := List.cons_prefix_cons.mp front
        exact free above front'
    · rintro ⟨source, free⟩
      exact ⟨free [] (List.nil_prefix), source,
        fun above front => free (name :: above) (List.cons_prefix_cons.mpr ⟨rfl, front⟩)⟩

/-- What a walk from a path keeps below one of its entries. -/
theorem keeps_cons (h : rules.ignores path = false) (name : String) :
    rules.keeps path ∘ List.cons name = rules.keeps (path.join ⟨name⟩) := by
  funext names
  simp [Rules.keeps, h]

mutual
/-- A walk finds the files at and below an entry that it keeps. -/
theorem sources_eq (rules : Rules) (path : Path) : (entry : Entry) →
    sources rules path entry = ((entry.files.map Prod.fst).filter (rules.keeps path)).map path.descend
  | .file content => by
    rw [sources, Entry.files]
    cases keep : rules.keeps path [] <;> simp_all [Rules.keeps]
  | .directory entries => by
    rw [sources, Entry.files]
    cases ignored : rules.ignores path with
    | true =>
      have none : ((Entry.filesOf entries).map Prod.fst).filter (rules.keeps path) = [] :=
        List.filter_eq_nil_iff.mpr fun names _ => by simp [keeps_of_ignores ignored names]
      rw [none, if_pos rfl, List.map_nil]
    | false => exact sourcesOf_eq rules path ignored entries

theorem sourcesOf_eq (rules : Rules) (path : Path) (free : rules.ignores path = false) :
    (entries : List (String × Entry)) →
      sourcesOf rules path entries
        = (((Entry.filesOf entries).map Prod.fst).filter (rules.keeps path)).map path.descend
  | [] => rfl
  | (name, entry) :: entries => by
    have names : (entry.files.map fun (position, content) => (name :: position, content)).map Prod.fst
        = (entry.files.map Prod.fst).map (List.cons name) := by simp
    have descends : path.descend ∘ List.cons name = (path.join ⟨name⟩).descend := rfl
    have kept : ((entry.files.map Prod.fst).map (List.cons name)).filter (rules.keeps path)
        = ((entry.files.map Prod.fst).filter (rules.keeps (path.join ⟨name⟩))).map (List.cons name) := by
      rw [List.filter_map, keeps_cons free]
    rw [sourcesOf, sources_eq rules _ entry, sourcesOf_eq rules path free entries, Entry.filesOf,
      List.map_append, List.filter_append, List.map_append, names, kept, List.map_map, descends]
end

/-! ## Texts in order -/

theorem pairwise_sorted (texts : List String) : (sorted texts).Pairwise (· < ·) := by
  have compares (s t : String) : decide (s ≤ t) = true ↔ id s ≤ id t := decide_eq_true_iff
  exact pairwise_eraseReps (pairwise_mergeSort compares texts)

theorem mem_sorted {texts : List String} {text : String} : text ∈ sorted texts ↔ text ∈ texts := by
  rw [sorted, mem_eraseReps, List.mem_mergeSort]

/-! ## Scans -/

/-- Whether names lead from a path to a file at or below it. -/
def Reaches (fs : FileSystem) (path : Path) (names : List String) : Prop :=
  ∃ position entry content, fs.locate path = .ok position ∧ fs.get? position = some entry
    ∧ (names, content) ∈ entry.files

/-- Whether a scan finds the file that names lead to from where it starts: it has the name of a source file,
and no path from the start down to the file is ignored, both ends included. -/
structure Finds (fs : FileSystem) (base : Path) (options : Options) (root : Path) (names : List String) :
    Prop where
  start : IsRoot fs base options root
  reaches : Reaches fs root names
  source : ∃ name, (root.descend names).fileName? = some name ∧ IsSourceName name
  free : ∀ above, above <+: names → ¬Ignored base options (root.descend above)

theorem sourcesAt_ok_iff {paths : List Path} :
    sourcesAt fs rules path = .ok paths
      ↔ ∃ position entry, fs.locate path = .ok position ∧ fs.get? position = some entry
        ∧ sources rules path entry = paths := by
  rw [sourcesAt]
  cases fs.locate path with
  | error e => simp [bind, Except.bind]
  | ok position =>
    dsimp only [bind, Except.bind]
    cases found : fs.get? position <;> simp [found]

theorem mem_files_iff_sourcesAt {text : String} :
    text ∈ (run fs base options).files
      ↔ ∃ root ∈ (roots fs base options).1, ∃ paths,
        sourcesAt fs (Rules.ofOptions base options).1 root = .ok paths ∧ text ∈ paths.map Path.text := by
  rw [run]
  dsimp only
  rw [mem_sorted, List.flatMap_map, List.mem_flatMap]
  refine exists_congr fun root => and_congr_right fun _ => ?_
  cases sourcesAt fs (Rules.ofOptions base options).1 root <;> simp

/-- What is found from one of the paths at which a scan starts does not depend on the others. -/
theorem mem_sourcesAt_iff {text : String} (start : IsRoot fs base options root) :
    (∃ paths, sourcesAt fs (Rules.ofOptions base options).1 root = .ok paths
        ∧ text ∈ paths.map Path.text)
      ↔ ∃ names, Finds fs base options root names ∧ text = (root.descend names).text := by
  have kept (names : List String) : (Rules.ofOptions base options).1.keeps root names = true
      ↔ (∃ name, (root.descend names).fileName? = some name ∧ IsSourceName name)
        ∧ ∀ above, above <+: names → ¬Ignored base options (root.descend above) := by
    simp only [keeps_iff, isSourcePath_iff, ← ignores_ofOptions_iff, Bool.not_eq_true]
  constructor
  · rintro ⟨paths, read, mem⟩
    obtain ⟨position, entry, located, found, rfl⟩ := sourcesAt_ok_iff.mp read
    rw [sources_eq, List.map_map, List.mem_map] at mem
    obtain ⟨names, kept', rfl⟩ := mem
    obtain ⟨below, keep⟩ := List.mem_filter.mp kept'
    obtain ⟨⟨_, content⟩, there, rfl⟩ := List.mem_map.mp below
    obtain ⟨source, free⟩ := (kept _).mp keep
    exact ⟨_, ⟨start, ⟨position, entry, content, located, found, there⟩, source, free⟩, rfl⟩
  · rintro ⟨names, finds, rfl⟩
    obtain ⟨position, entry, content, located, found, mem⟩ := finds.reaches
    refine ⟨_, sourcesAt_ok_iff.mpr ⟨position, entry, located, found, rfl⟩, ?_⟩
    rw [sources_eq]
    refine List.mem_map_of_mem (List.mem_map_of_mem (List.mem_filter.mpr ⟨?_, ?_⟩))
    · exact List.mem_map_of_mem (f := Prod.fst) mem
    · exact (kept names).mpr ⟨finds.source, finds.free⟩

theorem pairwise_run_files (fs : FileSystem) (base : Path) (options : Options) :
    (run fs base options).files.Pairwise (· < ·) := pairwise_sorted _

/-- The files of a scan are those that it finds from one of its starts. -/
theorem mem_run_files {text : String} :
    text ∈ (run fs base options).files
      ↔ ∃ root names, Finds fs base options root names ∧ text = (root.descend names).text := by
  refine mem_files_iff_sourcesAt.trans (exists_congr fun root => ?_)
  rw [mem_roots_iff]
  constructor
  · rintro ⟨start, found⟩
    exact (mem_sourcesAt_iff start).mp found
  · rintro ⟨names, finds, eq⟩
    exact ⟨finds.start, (mem_sourcesAt_iff finds.start).mpr ⟨names, finds, eq⟩⟩

/-- The files of a scan are in order and each once, and they are those at and below its roots that have the
name of a source file and are not ignored, nor any path on the way from the root to them. So it makes no
difference that a walk does not look into what is ignored, and a file that is left out from one root is found
if it is not left out from another one. -/
theorem files_run (fs : FileSystem) (base : Path) (options : Options) :
    (run fs base options).files.Pairwise (· < ·)
      ∧ ∀ text, text ∈ (run fs base options).files
        ↔ ∃ root names, Finds fs base options root names ∧ text = (root.descend names).text :=
  ⟨pairwise_run_files fs base options, fun _ => mem_run_files⟩

/-- A file whose directory is ignored as it is seen from one start is found from a start below it. -/
example :
    (run ⟨.directory [("src", .directory [("a.ts", .file (.text "")),
        ("lib", .directory [("b.tsx", .file (.text "")), ("b.d.ts", .file (.text ""))])])], []⟩
      ⟨"."⟩ { includes := ["src", "src/lib"], ignores := ["./sr?"] }).files = ["./src/lib/b.tsx"] := by
  decide +kernel

end MessageExtraction.Scan
