import Mathlib.Data.List.Chain
import MessageExtraction.Config.Lookup
import MessageExtraction.Proofs.FileSystem.Directories

/-!
# The nearest configuration

The configuration of a project lies in the nearest directory at or above its root that has one, unless a
repository comes first: `IsNearest`. The search goes back on the path of the root as it is written, so what
it sees are the directories on the `trail` of that path. They are those above the root, from the nearest on,
only as long as no `..` is taken off, and only down from where the path starts.

* `mem_of_left`: a trail leaves what is below a directory through that directory alone.
* `isPrefix_of_stop?`: so nothing between the root and a directory above it is overlooked.
* `findsNearest_find?_iff`: the search is right exactly if it stops above the root or overlooks nothing.
* `findsNearest_find?_of_descending`: so it is for absolute paths without `..`.
-/

namespace MessageExtraction.Config

open FileSystem

variable {fs : FileSystem} {root p q : Path} {paths : List Path} {position directory : Position}
  {before after way : List Position}

/-! ## What the nearest configuration is -/

/-- Whether there is an entry of that name in a directory. -/
def holds (fs : FileSystem) (directory : Position) (name : Path) : Bool :=
  (fs.get? (directory ++ [name.text])).isSome

/-- Whether there is a configuration file in a directory. -/
def HasFile (fs : FileSystem) (directory : Position) : Prop :=
  ∃ content, fs.get? (directory ++ [fileName.text]) = some (.file content)

/-- Whether a directory is the nearest one with a configuration file: at or above a position, with nothing
between them that has one or holds a repository. -/
structure IsNearest (fs : FileSystem) (position directory : Position) : Prop where
  above : directory <+: position
  hasFile : HasFile fs directory
  between : ∀ closer, closer <+: position → directory <+: closer → closer ≠ directory →
    ¬ HasFile fs closer ∧ holds fs closer repositoryMark = false

/-- Whether what was found, seen from a position, is the nearest configuration file, if there is one. -/
def FindsNearest (fs : FileSystem) (position : Position) : Option Path → Prop
  | some path => ∃ directory, IsNearest fs position directory
      ∧ fs.locate path = .ok (directory ++ [fileName.text])
  | none => ∀ directory, ¬ IsNearest fs position directory

theorem HasFile.holds (h : HasFile fs directory) : holds fs directory fileName = true := by
  obtain ⟨content, there⟩ := h
  rw [Config.holds, there]
  rfl

/-- What is found lies in the nearest directory with a configuration file, if the search is right. -/
theorem FindsNearest.isNearest {path : Path} (h : FindsNearest fs position (some path))
    (located : fs.locate path = .ok (directory ++ [fileName.text])) : IsNearest fs position directory := by
  obtain ⟨nearest, h, there⟩ := h
  obtain rfl : nearest = directory := by simpa [located, eq_comm] using there
  exact h

/-- A configuration file one directory up is the nearest one, if there is neither a configuration file nor a
repository here. -/
theorem isNearest_of_parent (directory : Position) (name : String) (file : HasFile fs directory)
    (none : ¬ HasFile fs (directory ++ [name]))
    (free : holds fs (directory ++ [name]) repositoryMark = false) :
    IsNearest fs (directory ++ [name]) directory := by
  refine ⟨List.prefix_append _ _, file, fun closer above below other => ?_⟩
  rcases List.prefix_concat_iff.mp above with rfl | above
  · exact ⟨none, free⟩
  · exact absurd (above.eq_of_length_le below.length_le) other

/-! ## Trails -/

/-- The directories that the search sees, one after the other. -/
def trail (fs : FileSystem) (root : Path) : List Position := root.ancestors.filterMap fs.directory?

/-- Whether the search stops in a directory. -/
def stopsIn (fs : FileSystem) (directory : Position) : Bool :=
  holds fs directory fileName || holds fs directory repositoryMark

/-- The directory that the search stops in. -/
def stop? (fs : FileSystem) (root : Path) : Option Position := (trail fs root).find? (stopsIn fs)

/-- A directory on a trail is followed by the one that holds it, or by itself or one below it. -/
def Follows (directory back : Position) : Prop := back = directory.dropLast ∨ directory <+: back

theorem trail_of_none (h : p.parent? = none) (stands : fs.directory? p = some directory) :
    trail fs p = [directory] := by
  rw [trail, Path.ancestors_of_none h, List.filterMap_cons_some stands, List.filterMap_nil]

theorem trail_of_parent? (h : p.parent? = some q) (stands : fs.directory? p = some directory) :
    trail fs p = directory :: trail fs q := by
  rw [trail, Path.ancestors_of_parent? h, List.filterMap_cons_some stands, trail]

theorem head?_trail (stands : fs.directory? p = some directory) :
    (trail fs p).head? = some directory := by
  cases h : p.parent? with
  | none => rw [trail_of_none h stands, List.head?_cons]
  | some q => rw [trail_of_parent? h stands, List.head?_cons]

/-- Each directory on a trail follows the one before it. -/
theorem isChain_trail (stands : fs.directory? root = some position) :
    (trail fs root).IsChain Follows := by
  induction root using Path.leadBack generalizing position with
  | top p h =>
    rw [trail_of_none h stands]
    exact List.isChain_singleton _
  | step p q h ih =>
    obtain ⟨back, stands', follows⟩ := exists_directory?_of_parent? h stands
    rw [trail_of_parent? h stands, List.isChain_cons]
    refine ⟨?_, ih stands'⟩
    rw [head?_trail stands']
    rintro _ ⟨⟩
    exact follows

/-- A trail ends where the path starts. -/
theorem getLast?_trail (stands : fs.directory? root = some position) :
    (trail fs root).getLast? = some (fs.start root) := by
  induction root using Path.leadBack generalizing position with
  | top p h =>
    rw [trail_of_none h stands, directory?_of_none h stands]
    rfl
  | step p q h ih =>
    obtain ⟨back, stands', -⟩ := exists_directory?_of_parent? h stands
    rw [trail_of_parent? h stands, ← start_of_parent? h, List.getLast?_cons, ih stands']
    rfl

/-- Every path that leads back from a directory stands for a directory. -/
theorem exists_directory?_of_mem_ancestors (stands : fs.directory? root = some position) :
    ∀ path ∈ root.ancestors, ∃ directory, fs.directory? path = some directory := by
  induction root using Path.leadBack generalizing position with
  | top p h =>
    rw [Path.ancestors_of_none h, List.forall_mem_singleton]
    exact ⟨position, stands⟩
  | step p q h ih =>
    obtain ⟨back, stands', -⟩ := exists_directory?_of_parent? h stands
    rw [Path.ancestors_of_parent? h, List.forall_mem_cons]
    exact ⟨⟨position, stands⟩, ih stands'⟩

/-- Without `..`, a trail stays above where it begins. -/
theorem isPrefix_of_mem_trail (descending : Path.Component.parent ∉ root.components)
    (stands : fs.directory? root = some position) :
    ∀ directory ∈ trail fs root, directory <+: position := by
  induction root using Path.leadBack generalizing position with
  | top p h =>
    rw [trail_of_none h stands, List.forall_mem_singleton]
  | step p q h ih =>
    obtain ⟨back, stands', -⟩ := exists_directory?_of_parent? h stands
    have descending' := Path.descending_of_parent? descending h
    rw [trail_of_parent? h stands, List.forall_mem_cons]
    exact ⟨List.prefix_rfl, fun directory mem =>
      (ih descending' stands' directory mem).trans (isPrefix_of_parent? descending h stands stands')⟩

theorem isPrefix_dropLast {closer : Position} (above : closer <+: directory) (other : closer ≠ directory) :
    closer <+: directory.dropLast := by
  obtain ⟨rest, rfl⟩ := above
  have some : rest ≠ [] := fun none => other (by rw [none, List.append_nil])
  rw [List.dropLast_append_of_ne_nil some]
  exact List.prefix_append _ _

/-- A trail leaves what is below a directory through that directory alone. -/
theorem mem_of_left {closer : Position} (chain : way.IsChain Follows)
    (split : way = before ++ directory :: after) (above : ∀ first ∈ way.head?, closer <+: first)
    (left : ¬ closer <+: directory) : closer ∈ before := by
  induction before generalizing way with
  | nil =>
    rw [split] at above
    exact absurd (above directory rfl) left
  | cons first before ih =>
    rw [List.cons_append] at split
    rw [split] at above chain
    rw [List.isChain_cons] at chain
    by_cases here : closer = first
    · rw [here]
      exact List.mem_cons_self
    · -- The next directory is still below it, since only the step up from `closer` itself leaves it.
      refine List.mem_cons_of_mem _ (ih chain.2 rfl fun next mem => ?_)
      rcases chain.1 next mem with rfl | below
      · exact isPrefix_dropLast (above first rfl) here
      · exact (above first rfl).trans below

/-- What lies between the root and a directory above it has been seen when the trail is no longer below. -/
theorem mem_of_passed {closer : Position} (stands : fs.directory? root = some position)
    (split : trail fs root = before ++ directory :: after) (above : closer <+: position)
    (left : ¬ closer <+: directory) : closer ∈ before := by
  refine mem_of_left (isChain_trail stands) split ?_ left
  rw [head?_trail stands]
  rintro _ ⟨⟩
  exact above

/-! ## Searching along a trail -/

theorem isSegment_fileName : Path.IsSegment fileName.text := by decide

theorem isSegment_repositoryMark : Path.IsSegment repositoryMark.text := by decide

theorem exists?_fileName (stands : fs.directory? p = some directory) :
    fs.exists? (p.join fileName) = holds fs directory fileName :=
  exists?_join stands isSegment_fileName

theorem exists?_repositoryMark (stands : fs.directory? p = some directory) :
    fs.exists? (p.join repositoryMark) = holds fs directory repositoryMark :=
  exists?_join stands isSegment_repositoryMark

/-- The search on paths finds what a search on the directories they stand for finds. -/
theorem findIn_eq (stand : ∀ path ∈ paths, ∃ directory, fs.directory? path = some directory) :
    match (paths.filterMap fs.directory?).find? (stopsIn fs) with
    | some directory =>
        if holds fs directory fileName then
          ∃ path, findIn fs paths = some path ∧ fs.locate path = .ok (directory ++ [fileName.text])
        else findIn fs paths = none
    | none => findIn fs paths = none := by
  induction paths with
  | nil => rfl
  | cons path paths ih =>
    rw [List.forall_mem_cons] at stand
    obtain ⟨⟨directory, stands⟩, stand⟩ := stand
    rw [List.filterMap_cons_some stands, List.find?_cons, findIn, exists?_fileName stands,
      exists?_repositoryMark stands, stopsIn]
    cases file : holds fs directory fileName with
    | true =>
      simp only [Bool.true_or, file, if_true]
      exact ⟨_, rfl, locate_join stands isSegment_fileName file⟩
    | false =>
      cases mark : holds fs directory repositoryMark with
      | true => simp [file]
      | false => simpa using ih stand

theorem find?_of_file (stands : fs.directory? root = some position) (stops : stop? fs root = some directory)
    (file : holds fs directory fileName = true) :
    ∃ path, find? fs root = some path ∧ fs.locate path = .ok (directory ++ [fileName.text]) := by
  have found := findIn_eq (exists_directory?_of_mem_ancestors stands)
  rw [← trail, ← stop?, stops] at found
  dsimp only at found
  rwa [if_pos file] at found

theorem find?_of_mark (stands : fs.directory? root = some position) (stops : stop? fs root = some directory)
    (file : holds fs directory fileName = false) : find? fs root = none := by
  have found := findIn_eq (exists_directory?_of_mem_ancestors stands)
  rw [← trail, ← stop?, stops] at found
  dsimp only at found
  rwa [if_neg (by simp [file])] at found

theorem find?_of_none (stands : fs.directory? root = some position) (goes : stop? fs root = none) :
    find? fs root = none := by
  have found := findIn_eq (exists_directory?_of_mem_ancestors stands)
  rwa [← trail, ← stop?, goes] at found

/-! ## What the search overlooks -/

theorem stopsIn_eq_false_iff : stopsIn fs directory = false
    ↔ holds fs directory fileName = false ∧ holds fs directory repositoryMark = false := by
  rw [stopsIn, Bool.or_eq_false_iff]

theorem HasFile.stopsIn (h : HasFile fs directory) : stopsIn fs directory = true := by
  rw [Config.stopsIn, h.holds, Bool.true_or]

theorem stopsIn_of_stop? (stops : stop? fs root = some directory) : stopsIn fs directory = true :=
  List.find?_some stops

/-- Where the search stops, it has passed no directory above the root in which it could have stopped. -/
theorem isPrefix_of_stop? {closer : Position} (stands : fs.directory? root = some position)
    (stops : stop? fs root = some directory) (above : closer <+: position)
    (stop : stopsIn fs closer = true) : closer <+: directory := by
  obtain ⟨-, before, after, split, passed⟩ := List.find?_eq_some_iff_append.mp stops
  by_contra left
  simpa [stop] using passed closer (mem_of_passed stands split above left)

/-- Where the search stops nowhere, it has passed no directory above the root in which it could have stopped,
but those above the start of the path. -/
theorem isPrefix_of_goes {closer : Position} (stands : fs.directory? root = some position)
    (goes : stop? fs root = none) (above : closer <+: position) (stop : stopsIn fs closer = true) :
    closer <+: fs.start root ∧ closer ≠ fs.start root := by
  have passed := List.find?_eq_none.mp goes
  obtain ⟨before, split⟩ := List.getLast?_eq_some_iff.mp (getLast?_trail stands)
  constructor
  · by_contra left
    have mem := mem_of_passed stands split above left
    exact passed closer (split ▸ List.mem_append_left _ mem) stop
  · rintro rfl
    exact passed _ (split ▸ List.mem_append_right _ List.mem_cons_self) stop

/-- A configuration file in a directory above the root is the nearest one if the search stops there. -/
theorem isNearest_of_file (stands : fs.directory? root = some position)
    (stops : stop? fs root = some directory) (above : directory <+: position)
    (file : HasFile fs directory) : IsNearest fs position directory := by
  refine ⟨above, file, fun closer between below other => ?_⟩
  have goes : stopsIn fs closer = false := by
    rw [Bool.eq_false_iff]
    intro stop
    have back := isPrefix_of_stop? stands stops between stop
    exact other (back.eq_of_length_le below.length_le)
  obtain ⟨none, free⟩ := stopsIn_eq_false_iff.mp goes
  refine ⟨fun file => ?_, free⟩
  rw [file.holds] at none
  cases none

/-- If the search stops at a repository above the root, there is no nearest configuration file. -/
theorem not_isNearest_of_mark {nearest : Position} (stands : fs.directory? root = some position)
    (stops : stop? fs root = some directory) (above : directory <+: position)
    (none : holds fs directory fileName = false) : ¬ IsNearest fs position nearest := by
  intro h
  have back := isPrefix_of_stop? stands stops h.above h.hasFile.stopsIn
  have other : directory ≠ nearest := by
    rintro rfl
    rw [h.hasFile.holds] at none
    cases none
  have free := (h.between directory above back other).2
  have stop := stopsIn_of_stop? stops
  rw [stopsIn_eq_false_iff.mpr ⟨none, free⟩] at stop
  cases stop

/-- If the search stops nowhere, a nearest configuration file lies above the start of the path. -/
theorem isPrefix_of_isNearest {nearest : Position} (stands : fs.directory? root = some position)
    (goes : stop? fs root = none) (h : IsNearest fs position nearest) :
    root.isAbsolute = false ∧ nearest <+: fs.working ∧ nearest ≠ fs.working := by
  obtain ⟨back, other⟩ := isPrefix_of_goes stands goes h.above h.hasFile.stopsIn
  rw [start] at back other
  split at back
  · rename_i absolute
    rw [if_pos absolute] at other
    exact absurd (List.prefix_nil.mp back) other
  · rename_i relative
    rw [if_neg relative] at other
    exact ⟨Bool.eq_false_iff.mpr relative, back, other⟩

/-! ## When the search is right -/

/-- The search is right exactly in these cases. It stops at an entry with the name of configuration files, and
this is a file in a directory at or above the root. It stops at a repository, and this one is at or above the
root or there is nothing to find. It stops nowhere, and the path is absolute or there is nothing to find above
the working directory, where the search ends. -/
theorem findsNearest_find?_iff (stands : fs.directory? root = some position) :
    FindsNearest fs position (find? fs root)
      ↔ match stop? fs root with
        | some directory =>
            if holds fs directory fileName then directory <+: position ∧ HasFile fs directory
            else directory <+: position ∨ ∀ nearest, ¬ IsNearest fs position nearest
        | none => root.isAbsolute = true
            ∨ ∀ nearest, nearest <+: fs.working → nearest ≠ fs.working → ¬ IsNearest fs position nearest := by
  cases stops : stop? fs root with
  | some directory =>
    dsimp only
    cases file : holds fs directory fileName with
    | true =>
      obtain ⟨path, found, located⟩ := find?_of_file stands stops file
      rw [found, if_pos rfl]
      constructor
      · intro h
        exact ⟨(h.isNearest located).above, (h.isNearest located).hasFile⟩
      · rintro ⟨above, file⟩
        exact ⟨directory, isNearest_of_file stands stops above file, located⟩
    | false =>
      rw [find?_of_mark stands stops file, if_neg (by simp)]
      constructor
      · exact .inr
      · rintro (above | none)
        · exact fun nearest => not_isNearest_of_mark stands stops above file
        · exact none
  | none =>
    dsimp only
    rw [find?_of_none stands stops]
    constructor
    · exact fun none => .inr fun nearest _ _ => none nearest
    · rintro overlooked nearest h
      obtain ⟨relative, above, other⟩ := isPrefix_of_isNearest stands stops h
      rcases overlooked with absolute | none
      · rw [relative] at absolute
        cases absolute
      · exact none nearest above other h

/-- A tree with a configuration file at its root and another one in `/p/lib`, seen from `/p`. In
`/p/lib/inner`, a directory bears the name of configuration files. -/
def nestedTree : FileSystem where
  root := .directory
    [(".intlxrc.json", .file (.text "\x7b\x7d")),
      ("p", .directory
        [("lib", .directory
            [(".intlxrc.json", .file (.text "\x7b\x7d")),
              ("inner", .directory [(".intlxrc.json", .directory [])])]),
          ("src", .directory [("a", .directory [])])])]
  working := ["p"]

/-- From `/p/src/a` the search goes up to the root. -/
theorem findsNearest_nestedTree :
    nestedTree.directory? ⟨"/p/src/a"⟩ = some ["p", "src", "a"]
      ∧ FindsNearest nestedTree ["p", "src", "a"] (find? nestedTree ⟨"/p/src/a"⟩) := by
  have stands : nestedTree.directory? ⟨"/p/src/a"⟩ = some ["p", "src", "a"] := by decide
  refine ⟨stands, (findsNearest_find?_iff stands).mpr ?_⟩
  have stops : stop? nestedTree ⟨"/p/src/a"⟩ = some [] := by decide
  rw [stops]
  exact ⟨List.nil_prefix, _, rfl⟩

/-- From `lib/inner` the search finds the directory there that bears the name of configuration files, in place
of the file in `lib`. From `lib/..`, the nearest configuration file is the one at the root, and the search
finds the one in `lib` below; from `.` it finds none at all. -/
theorem not_findsNearest_nestedTree :
    (nestedTree.directory? ⟨"lib/inner"⟩ = some ["p", "lib", "inner"]
        ∧ IsNearest nestedTree ["p", "lib", "inner"] ["p", "lib"]
        ∧ ¬ FindsNearest nestedTree ["p", "lib", "inner"] (find? nestedTree ⟨"lib/inner"⟩))
      ∧ nestedTree.directory? ⟨"lib/.."⟩ = some ["p"] ∧ nestedTree.directory? ⟨"."⟩ = some ["p"]
      ∧ IsNearest nestedTree ["p"] []
      ∧ ¬ FindsNearest nestedTree ["p"] (find? nestedTree ⟨"lib/.."⟩)
      ∧ ¬ FindsNearest nestedTree ["p"] (find? nestedTree ⟨"."⟩) := by
  have innerFree : ¬ HasFile nestedTree ["p", "lib", "inner"] := by
    rintro ⟨content, there⟩
    cases there
  have free : ¬ HasFile nestedTree ["p"] := by
    rintro ⟨content, there⟩
    cases there
  have nearest : IsNearest nestedTree ["p"] [] :=
    isNearest_of_parent [] "p" ⟨_, rfl⟩ free (by decide)
  have nearestInner : IsNearest nestedTree ["p", "lib", "inner"] ["p", "lib"] :=
    isNearest_of_parent ["p", "lib"] "inner" ⟨_, rfl⟩ innerFree (by decide)
  refine ⟨⟨by decide, nearestInner, ?_⟩, by decide, by decide, nearest, ?_, fun none => none _ nearest⟩
  · have found : find? nestedTree ⟨"lib/inner"⟩ = some ⟨"lib/inner/.intlxrc.json"⟩ := by decide
    have located : nestedTree.locate ⟨"lib/inner/.intlxrc.json"⟩
        = .ok (["p", "lib", "inner"] ++ [fileName.text]) := rfl
    rw [found]
    exact fun h => innerFree (h.isNearest located).hasFile
  · have found : find? nestedTree ⟨"lib/.."⟩ = some ⟨"lib/.intlxrc.json"⟩ := by decide
    have located : nestedTree.locate ⟨"lib/.intlxrc.json"⟩ = .ok (["p", "lib"] ++ [fileName.text]) := rfl
    rw [found]
    exact fun h => absurd (h.isNearest located).above (by decide)

/-- On a path without `..` the search is right, if only files bear the name of configuration files, unless
the path is relative and a configuration file lies above the working directory. -/
theorem findsNearest_find?_of_descending (descending : Path.Component.parent ∉ root.components)
    (stands : fs.directory? root = some position)
    (files : ∀ directory, directory <+: position → holds fs directory fileName = true → HasFile fs directory)
    (reached : root.isAbsolute = true
      ∨ ∀ directory, directory <+: fs.working → directory ≠ fs.working → ¬ HasFile fs directory) :
    FindsNearest fs position (find? fs root) := by
  cases stops : stop? fs root with
  | some directory =>
    have above : directory <+: position :=
      isPrefix_of_mem_trail descending stands directory (List.mem_of_find?_eq_some stops)
    cases file : holds fs directory fileName with
    | true =>
      obtain ⟨path, found, located⟩ := find?_of_file stands stops file
      rw [found]
      exact ⟨directory, isNearest_of_file stands stops above (files directory above file), located⟩
    | false =>
      rw [find?_of_mark stands stops file]
      exact fun nearest => not_isNearest_of_mark stands stops above file
  | none =>
    rw [find?_of_none stands stops]
    intro nearest h
    obtain ⟨relative, above, other⟩ := isPrefix_of_isNearest stands stops h
    rcases reached with absolute | none
    · rw [relative] at absolute
      cases absolute
    · exact none nearest above other h.hasFile

end MessageExtraction.Config
