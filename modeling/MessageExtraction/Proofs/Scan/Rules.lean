import MessageExtraction.Scan
import MessageExtraction.Proofs.Glob.Matching
import MessageExtraction.Proofs.Path.Components

/-!
# What a scan is asked for

Which paths a scan ignores, which names are those of source files and at which paths it starts are said here
by rules on its options. The scan keeps lists of ignored paths and of patterns instead, and looks for the
extension of a name from its end.

* `Ignored`, `ignores_ofOptions_iff`: the ignored paths.
* `IsSourceName`, `isSourcePath_iff`: the names of source files.
* `IsRoot`, `mem_roots_iff`: the paths at which a scan starts.
-/

namespace MessageExtraction.Scan

variable {fs : FileSystem} {base path : Path} {options : Options}

/-! ## Ignored paths -/

/-- Whether the options of a scan ask to ignore a path. Without wildcards, what is ignored is a path as it is
seen from the base directory, with all that its components lead to. A pattern is matched with the path as it
is written. -/
inductive Ignored (base : Path) (options : Options) (path : Path) : Prop
  | path {text : String} : text ∈ options.ignores → Glob.isPattern text = false →
      (base.join ⟨text⟩).components <+: path.components → Ignored base options path
  | pattern {text : String} {pattern : Glob.Pattern} : text ∈ options.ignores →
      Glob.isPattern text = true → Glob.parse text = .ok pattern →
      Glob.Fits pattern path.text.toList → Ignored base options path
  | test {text : String} {pattern : Glob.Pattern} : options.ignoreTestFiles = true →
      text ∈ testPatterns → Glob.parse text = .ok pattern →
      Glob.Fits pattern path.text.toList → Ignored base options path

/-- What is to be ignored is a pattern or a path, by its spelling alone. -/
theorem ofIgnores_eq (base : Path) (ignores : List String) :
    (Rules.ofIgnores base ignores).1
      = ⟨(ignores.filter fun text => !Glob.isPattern text).map fun text => base.join ⟨text⟩,
        readPatterns (ignores.filter Glob.isPattern)⟩ := by
  induction ignores with
  | nil => rfl
  | cons ignore ignores ih =>
    cases wild : Glob.isPattern ignore with
    | true =>
      cases read : Glob.parse ignore <;>
        simp [Rules.ofIgnores, readPatterns, ih, wild, read, Except.toOption]
    | false => simp [Rules.ofIgnores, readPatterns, ih, wild]

theorem mem_readPatterns {texts : List String} {pattern : Glob.Pattern} :
    pattern ∈ readPatterns texts ↔ ∃ text ∈ texts, Glob.parse text = .ok pattern := by
  rw [readPatterns, List.mem_filterMap]
  refine exists_congr fun text => and_congr_right fun _ => ?_
  cases Glob.parse text <;> simp [Except.toOption]

theorem mem_paths_ofIgnores {ignores : List String} {ignored : Path} :
    ignored ∈ (Rules.ofIgnores base ignores).1.paths
      ↔ ∃ text ∈ ignores, Glob.isPattern text = false ∧ base.join ⟨text⟩ = ignored := by
  simp [ofIgnores_eq, and_assoc]

theorem mem_patterns_ofIgnores {ignores : List String} {pattern : Glob.Pattern} :
    pattern ∈ (Rules.ofIgnores base ignores).1.patterns
      ↔ ∃ text ∈ ignores, Glob.isPattern text = true ∧ Glob.parse text = .ok pattern := by
  simp [ofIgnores_eq, mem_readPatterns, and_assoc]

/-- The rules of a scan ignore what its options ask to ignore. -/
theorem ignores_ofOptions_iff :
    (Rules.ofOptions base options).1.ignores path = true ↔ Ignored base options path := by
  have paths : (Rules.ofOptions base options).1.paths = (Rules.ofIgnores base options.ignores).1.paths :=
    rfl
  have patterns : (Rules.ofOptions base options).1.patterns
      = (Rules.ofIgnores base options.ignores).1.patterns
        ++ if options.ignoreTestFiles then readPatterns testPatterns else [] := rfl
  simp only [Rules.ignores, paths, patterns, Bool.or_eq_true, List.any_eq_true, List.mem_append,
    mem_paths_ofIgnores, mem_patterns_ofIgnores, Glob.covers_iff, Path.startsWith,
    List.isPrefixOf_iff_prefix]
  constructor
  · rintro (⟨_, ⟨text, mem, plain, rfl⟩, below⟩ | ⟨pattern, ⟨text, mem, wild, read⟩ | test, fits⟩)
    · exact .path mem plain below
    · exact .pattern mem wild read fits
    · split at test
      · rename_i asked
        obtain ⟨text, mem, read⟩ := mem_readPatterns.mp test
        exact .test asked mem read fits
      · cases test
  · rintro (⟨mem, plain, below⟩ | ⟨mem, wild, read, fits⟩ | ⟨asked, mem, read, fits⟩)
    · exact .inl ⟨_, ⟨_, mem, plain, rfl⟩, below⟩
    · exact .inr ⟨_, .inl ⟨_, mem, wild, read⟩, fits⟩
    · rw [if_pos asked]
      exact .inr ⟨_, .inr (mem_readPatterns.mpr ⟨_, mem, read⟩), fits⟩

/-! ## Names of source files -/

/-- A name of a source file: one of four extensions behind a point with something before it. Files of
declarations only are none. -/
structure IsSourceName (name : String) : Prop where
  extended : ∃ stem extension, stem ≠ "" ∧ extension ∈ ["tsx", "ts", "jsx", "js"]
    ∧ name = stem ++ "." ++ extension
  undeclared : ∀ stem, name ≠ stem ++ ".d.ts"

theorem suffix_toList_iff {ending name : String} :
    ending.toList <:+ name.toList ↔ ∃ stem, name = stem ++ ending := by
  constructor
  · rintro ⟨stem, eq⟩
    refine ⟨String.ofList stem, ?_⟩
    rw [← String.toList_inj, ← eq, String.toList_append, String.toList_ofList]
  · rintro ⟨stem, rfl⟩
    rw [String.toList_append]
    exact List.suffix_append _ _

/-- The extension of a name is looked for from its end, and none of the four holds a point. -/
theorem splitName_extension_iff {name : String} :
    (∃ extension ∈ ["tsx", "ts", "jsx", "js"], (Path.splitName name).2 = some extension)
      ↔ ∃ stem extension, stem ≠ "" ∧ extension ∈ ["tsx", "ts", "jsx", "js"]
        ∧ name = stem ++ "." ++ extension := by
  constructor
  · rintro ⟨extension, mem, eq⟩
    obtain ⟨some, -, whole⟩ := Path.splitName_eq_some_iff.mp (Prod.ext rfl eq)
    exact ⟨_, extension, some, mem, whole⟩
  · rintro ⟨stem, extension, some, mem, whole⟩
    have pointless : ∀ extension ∈ ["tsx", "ts", "jsx", "js"], '.' ∉ extension.toList := by decide
    refine ⟨extension, mem, ?_⟩
    rw [Path.splitName_eq_some_iff.mpr ⟨some, pointless extension mem, whole⟩]

/-- A path is that of a source file by its name alone. -/
theorem isSourcePath_iff :
    isSourcePath path = true ↔ ∃ name, path.fileName? = some name ∧ IsSourceName name := by
  rw [isSourcePath, Path.extension?]
  cases path.fileName? with
  | none => simp
  | some name =>
    have undeclared : ".d.ts".toList.isSuffixOf name.toList = false ↔ ∀ stem, name ≠ stem ++ ".d.ts" := by
      rw [Bool.eq_false_iff, ne_eq, List.isSuffixOf_iff_suffix, suffix_toList_iff, not_exists]
    simp only [Bool.and_eq_true, Bool.not_eq_true', undeclared, List.any_eq_true, beq_iff_eq,
      Option.bind_some, splitName_extension_iff, Option.some.injEq, exists_eq_left']
    exact ⟨fun ⟨undeclared, extended⟩ => ⟨extended, undeclared⟩,
      fun ⟨extended, undeclared⟩ => ⟨undeclared, extended⟩⟩

/-! ## Starts -/

/-- Where a scan starts: at the base directory if nothing is included, else at what the included texts stand
for as they are seen from there. Without wildcards, a text stands for what exists, and a pattern stands for
the directories that fit it. -/
inductive IsRoot (fs : FileSystem) (base : Path) (options : Options) : Path → Prop
  | base : options.includes = [] → IsRoot fs base options base
  | path {text : String} : text ∈ options.includes → Glob.isPattern text = false →
      fs.exists? (base.join ⟨text⟩) = true → IsRoot fs base options (base.join ⟨text⟩)
  | pattern {text : String} {paths : List Path} {path : Path} : text ∈ options.includes →
      Glob.isPattern text = true → Glob.expandAll fs (base.join ⟨text⟩).text = .ok paths →
      path ∈ paths → fs.isDirectory path = true → IsRoot fs base options path

theorem mem_rootsOf {text : String} :
    path ∈ (rootsOf fs base text).1
      ↔ Glob.isPattern text = false ∧ fs.exists? (base.join ⟨text⟩) = true ∧ path = base.join ⟨text⟩
        ∨ Glob.isPattern text = true ∧ ∃ paths, Glob.expandAll fs (base.join ⟨text⟩).text = .ok paths
          ∧ path ∈ paths ∧ fs.isDirectory path = true := by
  rw [rootsOf]
  cases Glob.isPattern text with
  | true => cases Glob.expandAll fs (base.join ⟨text⟩).text <;> simp
  | false => cases fs.exists? (base.join ⟨text⟩) <;> simp

/-- A scan starts where its options ask it to start. -/
theorem mem_roots_iff : path ∈ (roots fs base options).1 ↔ IsRoot fs base options path := by
  rw [roots]
  split
  · rename_i none
    rw [List.isEmpty_iff] at none
    rw [List.mem_singleton]
    constructor
    · rintro rfl
      exact .base none
    · rintro (_ | mem | mem)
      · rfl
      · simp [none] at mem
      · simp [none] at mem
  · rename_i some
    simp only [List.flatMap_map, List.mem_flatMap, mem_rootsOf]
    constructor
    · rintro ⟨text, mem, ⟨plain, there, rfl⟩ | ⟨wild, paths, found, mem', directory⟩⟩
      · exact .path mem plain there
      · exact .pattern mem wild found mem' directory
    · rintro (none | ⟨mem, plain, there⟩ | ⟨mem, wild, found, mem', directory⟩)
      · exact absurd (List.isEmpty_iff.mpr none) some
      · exact ⟨_, mem, .inl ⟨plain, there, rfl⟩⟩
      · exact ⟨_, mem, .inr ⟨wild, _, found, mem', directory⟩⟩

end MessageExtraction.Scan
