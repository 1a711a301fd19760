import Mathlib.Data.List.Nodup
import Mathlib.Data.List.Pairwise
import MessageExtraction.Proofs.FileSystem.Tree
import MessageExtraction.Proofs.Path.Components
import MessageExtraction.Proofs.Scan.Reaching

/-!
# Overlapping starts

Where the paths at which a scan starts overlap, it comes to one file from two of them. The texts of the paths
are compared, so the file is listed once only if both texts are the same.

* `SpelledAlike`: starts that overlap are spelled alike.
* `files_apart_iff`: exactly then no two of the found files are one file.
* `pairwise_locate_of_isPlain`: so none are if plain names are included.
-/

namespace MessageExtraction.Scan

open FileSystem

variable {fs : FileSystem} {base root root' : Path} {options : Options} {position : Position}
  {middle names : List String}

/-- Whether starts of a scan that overlap are spelled alike: if the scan finds one file from two of them, the
lower one is spelled as the upper one with the names between them, but for a slash at the end. -/
def SpelledAlike (fs : FileSystem) (base : Path) (options : Options) : Prop :=
  ∀ {root root' : Path} {position middle names : List String},
    fs.locate root = .ok position → fs.locate root' = .ok (position ++ middle) →
      Finds fs base options root (middle ++ names) → Finds fs base options root' names →
      root'.leading = root.leading ++ middle

/-! ## Files below a start -/

/-- In a tree, a walk comes to the files that names lead to. -/
theorem reaches_iff (tree : fs.root.IsTree) (h : fs.locate root = .ok position) :
    Reaches fs root names ↔ ∃ content, fs.get? (position ++ names) = some (.file content) := by
  constructor
  · rintro ⟨position', entry, content, located, found, mem⟩
    obtain rfl : position = position' := Except.ok.inj (h.symm.trans located)
    refine ⟨content, ?_⟩
    rw [get?, Entry.get?_append, ← get?, found]
    exact (Entry.mem_files_iff (tree.get? found).1).mp mem
  · rintro ⟨content, there⟩
    rw [get?, Entry.get?_append, Option.bind_eq_some_iff] at there
    obtain ⟨entry, found, below⟩ := there
    exact ⟨position, entry, content, h, found, (Entry.mem_files_iff (tree.get? found).1).mpr below⟩

/-- Where the path of a file leads to, and how it is spelled, by those of the start above it. -/
theorem located_of_reaches (tree : fs.root.IsTree) (h : Reaches fs root names) :
    ∃ position content, fs.locate root = .ok position
      ∧ fs.locate (root.descend names) = .ok (position ++ names)
      ∧ fs.get? (position ++ names) = some (.file content)
      ∧ segments (root.descend names) = root.leading ++ names := by
  obtain ⟨position, -, -, located, -, -⟩ := id h
  obtain ⟨content, there⟩ := (reaches_iff tree located).mp h
  have named : ∀ name ∈ names, Path.IsSegment name := fun name mem =>
    (tree.get? there).2 name (List.mem_append_right _ mem)
  exact ⟨position, content, located, locate_descend located named there, there,
    segments_of_file located named there⟩

/-- Two paths of one file have one text exactly if their starts are spelled alike. -/
theorem text_eq_iff (tree : fs.root.IsTree) (h : Reaches fs root (middle ++ names))
    (h' : Reaches fs root' names) :
    (root.descend (middle ++ names)).text = (root'.descend names).text
      ↔ root'.leading = root.leading ++ middle := by
  obtain ⟨-, -, -, -, -, parts⟩ := located_of_reaches tree h
  obtain ⟨-, -, -, -, -, parts'⟩ := located_of_reaches tree h'
  rw [← List.append_assoc] at parts
  constructor
  · intro eq
    have same := congrArg (fun text => segments ⟨text⟩) eq
    exact (List.append_cancel_right (parts.symm.trans (same.trans parts'))).symm
  · intro alike
    rw [alike, ← parts] at parts'
    exact congrArg Path.text (Path.eq_of_segments parts').symm

/-! ## Scans -/

/-- In a tree, what a scan finds are files. -/
theorem locate_of_mem_files (tree : fs.root.IsTree) {text : String}
    (h : text ∈ (run fs base options).files) :
    ∃ position content, fs.locate ⟨text⟩ = .ok position ∧ fs.get? position = some (.file content) := by
  obtain ⟨root, names, finds, rfl⟩ := mem_run_files.mp h
  obtain ⟨position, content, -, located, there, -⟩ := located_of_reaches tree finds.reaches
  exact ⟨_, content, located, there⟩

/-- No two of the files that a scan finds are one file exactly if starts that overlap are spelled alike. -/
theorem pairwise_locate_iff (tree : fs.root.IsTree) :
    (run fs base options).files.Pairwise (fun text text' => fs.locate ⟨text⟩ ≠ fs.locate ⟨text'⟩)
      ↔ SpelledAlike fs base options := by
  constructor
  · intro apart root root' position middle names located located' finds finds'
    refine (text_eq_iff tree finds.reaches finds'.reaches).mp ?_
    by_contra differ
    obtain ⟨position₁, -, at₁, found, -, -⟩ := located_of_reaches tree finds.reaches
    obtain ⟨position₂, -, at₂, found', -, -⟩ := located_of_reaches tree finds'.reaches
    obtain rfl : position = position₁ := Except.ok.inj (located.symm.trans at₁)
    obtain rfl : position ++ middle = position₂ := Except.ok.inj (located'.symm.trans at₂)
    have symm : Std.Symm fun text text' => fs.locate ⟨text⟩ ≠ fs.locate ⟨text'⟩ := ⟨fun _ _ => Ne.symm⟩
    refine apart.forall (mem_run_files.mpr ⟨_, _, finds, rfl⟩) (mem_run_files.mpr ⟨_, _, finds', rfl⟩)
      differ ?_
    rw [← List.append_assoc] at found
    exact found.trans found'.symm
  · intro alike
    have nodup : (run fs base options).files.Nodup := (pairwise_run_files fs base options).imp ne_of_lt
    refine nodup.pairwise_of_forall_ne fun text mem text' mem' differ same => differ ?_
    obtain ⟨root, names, finds, rfl⟩ := mem_run_files.mp mem
    obtain ⟨root', names', finds', rfl⟩ := mem_run_files.mp mem'
    obtain ⟨position, -, located, found, -, -⟩ := located_of_reaches tree finds.reaches
    obtain ⟨position', -, located', found', -, -⟩ := located_of_reaches tree finds'.reaches
    have meet : position ++ names = position' ++ names' :=
      Except.ok.inj (found.symm.trans (same.trans found'))
    -- One of the two starts is above the other.
    rcases List.append_eq_append_iff.mp meet with ⟨middle, rfl, rfl⟩ | ⟨middle, rfl, rfl⟩
    · exact (text_eq_iff tree finds.reaches finds'.reaches).mpr
        (alike located located' finds finds')
    · exact ((text_eq_iff tree finds'.reaches finds.reaches).mpr
        (alike located' located finds' finds)).symm

/-- The files of a scan are in order and each is one, and no two of them are one file exactly if starts that
overlap are spelled alike. -/
theorem files_apart_iff (tree : fs.root.IsTree) (base : Path) (options : Options) :
    (run fs base options).files.Pairwise (· < ·)
      ∧ (∀ text ∈ (run fs base options).files, ∃ position content,
        fs.locate ⟨text⟩ = .ok position ∧ fs.get? position = some (.file content))
      ∧ ((run fs base options).files.Pairwise (fun text text' => fs.locate ⟨text⟩ ≠ fs.locate ⟨text'⟩)
        ↔ SpelledAlike fs base options) :=
  ⟨pairwise_run_files fs base options, fun _ => locate_of_mem_files tree, pairwise_locate_iff tree⟩

/-- One source file in a directory. -/
def oneSource : FileSystem :=
  ⟨.directory [("src", .directory [("a.ts", .file (.text ""))])], []⟩

theorem isTree_oneSource : oneSource.root.IsTree := by
  refine .directory _ (by decide) (by decide) fun entry mem => ?_
  rw [List.mem_singleton.mp mem]
  refine .directory _ (by decide) (by decide) fun entry mem => ?_
  rw [List.mem_singleton.mp mem]
  exact .file _

/-- With a slash at the end and without, a directory is spelled alike. -/
theorem files_repeatedInclude :
    oneSource.root.IsTree
      ∧ (run oneSource ⟨"."⟩ { includes := ["src/", "src"] }).files = ["./src/a.ts"]
      ∧ SpelledAlike oneSource ⟨"."⟩ { includes := ["src/", "src"] } := by
  have files : (run oneSource ⟨"."⟩ { includes := ["src/", "src"] }).files = ["./src/a.ts"] := by
    have found : (run oneSource ⟨"."⟩ { includes := ["src/", "src"] }).files
        = sorted ["./src/a.ts", "./src/a.ts"] := rfl
    rw [found]
    simp [sorted, List.mergeSort, eraseReps_cons_cons]
  refine ⟨isTree_oneSource, files, (files_apart_iff isTree_oneSource _ _).2.2.mp ?_⟩
  rw [files]
  exact List.pairwise_singleton _ _

/-- With the current directory in front and without, a directory is spelled in two ways, and its files are
found twice. -/
theorem files_respelledInclude :
    (run oneSource ⟨"."⟩ { includes := ["src", "./src"] }).files = ["././src/a.ts", "./src/a.ts"]
      ∧ oneSource.locate ⟨"././src/a.ts"⟩ = .ok ["src", "a.ts"]
      ∧ oneSource.locate ⟨"./src/a.ts"⟩ = .ok ["src", "a.ts"] := by
  refine ⟨?_, by decide, by decide⟩
  have found : (run oneSource ⟨"."⟩ { includes := ["src", "./src"] }).files
      = sorted ["./src/a.ts", "././src/a.ts"] := rfl
  rw [found]
  simp [sorted, List.mergeSort, eraseReps_cons_cons]

/-! ## Plain names -/

/-- Whether an included text consists of names only, but for a slash at its end. -/
def IsPlain (text : String) : Prop :=
  Glob.isPattern text = false ∧ ∀ segment ∈ (Path.mk text).leading, Path.IsSegment segment

theorem isAbsolute_of_isPlain {text : String} (h : IsPlain text) : (Path.mk text).isAbsolute = false := by
  rw [← Bool.not_eq_true]
  intro absolute
  have first := Path.head?_segments_of_isAbsolute absolute
  rcases Path.segments_eq_leading ⟨text⟩ with ⟨empty, -⟩ | ⟨some, eq⟩
  · rw [show text = "" from empty] at absolute
    cases absolute
  · obtain ⟨segment, rest, leads⟩ := List.exists_cons_of_ne_nil some
    have head : segment = "" := by
      rcases eq with eq | eq <;> simpa [eq, leads] using first
    have mem : "" ∈ (Path.mk text).leading := by simp [leads, head]
    exact (h.2 "" mem).toList_ne_nil rfl

theorem leading_of_isPlain (plain : ∀ text ∈ options.includes, IsPlain text)
    (h : IsRoot fs base options root) :
    ∃ names, (∀ name ∈ names, Path.IsSegment name) ∧ root.leading = base.leading ++ names
      ∧ root.isAbsolute = base.isAbsolute := by
  cases h with
  | base => exact ⟨[], by simp, by simp, rfl⟩
  | @path text mem =>
    have relative := isAbsolute_of_isPlain (plain text mem)
    exact ⟨_, (plain text mem).2, Path.leading_join_path base relative, Path.isAbsolute_join base relative⟩
  | pattern mem wild =>
    rw [(plain _ mem).1] at wild
    cases wild

/-- If plain names are included, starts are spelled alike where they overlap. -/
theorem spelledAlike_of_isPlain (plain : ∀ text ∈ options.includes, IsPlain text) :
    SpelledAlike fs base options := by
  intro root root' position middle names located located' finds finds'
  obtain ⟨names₁, named₁, leads₁, absolute₁⟩ := leading_of_isPlain plain finds.start
  obtain ⟨names₂, named₂, leads₂, absolute₂⟩ := leading_of_isPlain plain finds'.start
  -- Both starts are seen from where the base directory leads.
  have below {root : Path} {position : Position} {names : List String}
      (located : fs.locate root = .ok position) (absolute : root.isAbsolute = base.isAbsolute)
      (leads : root.leading = base.leading ++ names) (named : ∀ name ∈ names, Path.IsSegment name) :
      ∃ above, fs.follow (fs.start base) base.leading = .ok above ∧ position = above ++ names := by
    have follows := (follow_leading located).1
    rw [leads, start, absolute, ← start] at follows
    exact exists_of_follow_names (fun name mem => (named name mem).1) follows
  obtain ⟨above, front, rfl⟩ := below located absolute₁ leads₁ named₁
  obtain ⟨above', front', meet⟩ := below located' absolute₂ leads₂ named₂
  obtain rfl : above = above' := Except.ok.inj (front.symm.trans front')
  rw [List.append_assoc, List.append_cancel_left_eq] at meet
  rw [leads₁, leads₂, ← meet, List.append_assoc]

/-- If plain names are included, no file is found twice. -/
theorem pairwise_locate_of_isPlain (tree : fs.root.IsTree)
    (plain : ∀ text ∈ options.includes, IsPlain text) :
    (run fs base options).files.Pairwise fun text text' => fs.locate ⟨text⟩ ≠ fs.locate ⟨text'⟩ :=
  (pairwise_locate_iff tree).mpr (spelledAlike_of_isPlain plain)

end MessageExtraction.Scan
