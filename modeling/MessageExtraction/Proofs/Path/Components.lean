import Mathlib.Data.List.DropRight
import MessageExtraction.Proofs.Path.Joining

/-!
# Components of paths

The operations on paths work on texts and keep them as they are written. What they mean is said here by the
components alone.

* `components_join`: a name that is joined to a path is a component more.
* `components_parent?`: the path of the directory that holds an entry has the last component less.
* `components_relativeTo?`: a path seen from another has the components behind those of the other.
* `splitName_eq_some_iff`: a name with an extension is the part before its last point, the point and the
  extension.
-/

namespace MessageExtraction.Path

open FileSystem (segments)

variable {p q base : Path} {front : Front} {pieces before : List (List Char)}

/-! ## Fronts -/

theorem component?_of_isInsignificant {segment : List Char} (h : isInsignificant segment = true) :
    component? segment = none := by
  rw [component?, if_pos h]

/-- What the front takes from the first segment counts for nothing. -/
theorem filterMap_split (p : Path) :
    p.split.2.filterMap component? = (Text.splitOn '/' p.text.toList).filterMap component? := by
  rw [split]
  split
  · rename_i r eq
    have : Text.splitOn '/' ('/' :: r) = [] :: Text.splitOn '/' r := by simp [Text.splitOn]
    rw [eq, this, List.filterMap_cons_none (component?_of_isInsignificant rfl)]
  · rename_i eq
    rw [eq]
    rfl
  · rename_i r eq
    have : Text.splitOn '/' ('.' :: '/' :: r) = ['.'] :: Text.splitOn '/' r := by simp [Text.splitOn]
    rw [eq, this, List.filterMap_cons_none (component?_of_isInsignificant rfl)]
  · rfl

/-- The components of a path are its front and what its segments stand for. -/
theorem components_eq_segments (p : Path) :
    p.components = p.split.1.component?.toList
      ++ (segments p).filterMap fun segment => component? segment.toList := by
  have pieces : (segments p).filterMap (fun segment => component? segment.toList)
      = (Text.splitOn '/' p.text.toList).filterMap component? := by
    rw [segments, List.filterMap_map]
    simp only [Function.comp_def, String.toList_ofList]
  rw [pieces, ← filterMap_split]
  rfl

theorem splitOn_head?_eq_point_iff {s : List Char} :
    (Text.splitOn '/' s).head? = some ['.'] ↔ s = ['.'] ∨ ∃ r, s = '.' :: '/' :: r := by
  constructor
  · intro h
    have whole := Text.joinWith_splitOn '/' s
    cases eq : Text.splitOn '/' s with
    | nil => simp [eq] at h
    | cons piece pieces =>
      rw [eq] at h whole
      cases h
      cases pieces with
      | nil => exact .inl whole.symm
      | cons next pieces => exact .inr ⟨_, whole.symm⟩
  · rintro (rfl | ⟨r, rfl⟩)
    · rfl
    · simp [Text.splitOn]

theorem split_fst_root_iff : p.split.1 = .root ↔ p.isAbsolute = true := by
  rw [split, isAbsolute]
  split
  · rename_i eq
    simp [eq]
  · rename_i eq
    simp [eq]
  · rename_i eq
    simp [eq]
  · rename_i root _ _
    cases eq : p.text.toList with
    | nil => simp
    | cons c r =>
      have : c ≠ '/' := by
        rintro rfl
        exact root r eq
      simp [this]

theorem split_fst_current_iff : p.split.1 = .current ↔ (segments p).head? = some "." := by
  have point : (segments p).head? = some "." ↔ (Text.splitOn '/' p.text.toList).head? = some ['.'] := by
    rw [segments, List.head?_map, Option.map_eq_some_iff]
    constructor
    · rintro ⟨piece, head, eq⟩
      obtain rfl : piece = ['.'] := by simpa using congrArg String.toList eq
      exact head
    · exact fun head => ⟨_, head, rfl⟩
  rw [point, splitOn_head?_eq_point_iff, split]
  split
  · rename_i eq
    simp [eq]
  · rename_i eq
    simp [eq]
  · rename_i eq
    simp [eq]
  · rename_i point leads
    simp only [reduceCtorEq, false_iff, not_or, not_exists]
    exact ⟨point, leads⟩

/-- A path has its front by what it starts with. -/
theorem split_fst_eq (absolute : p.isAbsolute = q.isAbsolute)
    (head : (segments p).head? = some "." ↔ (segments q).head? = some ".") :
    p.split.1 = q.split.1 := by
  rw [← split_fst_current_iff, ← split_fst_current_iff] at head
  rw [Bool.eq_iff_iff, ← split_fst_root_iff, ← split_fst_root_iff] at absolute
  cases eq : p.split.1 <;> cases eq' : q.split.1 <;> simp_all

/-! ## Joining -/

theorem component?_of_isSegment {name : String} (h : IsSegment name) :
    component? name.toList = some (.name name) := by
  have named := h.1
  simp only [FileSystem.isName, Bool.and_eq_true, bne_iff_ne, ne_eq, ← String.toList_inj] at named
  obtain ⟨⟨empty, point⟩, inner⟩ := named
  rw [component?, if_neg, if_neg (by exact inner), String.ofList_toList]
  simp only [isInsignificant, Bool.or_eq_true, List.isEmpty_iff, beq_iff_eq, not_or]
  exact ⟨empty, point⟩

theorem split_fst_join (p : Path) {name : String} (h : IsSegment name) :
    (p.join ⟨name⟩).split.1 = p.split.1 := by
  refine split_fst_eq (isAbsolute_join p (isAbsolute_mk h.2)) ?_
  rw [segments_join p h.2]
  rcases segments_eq_leading p with ⟨empty, leads⟩ | ⟨some, eq⟩
  · rw [leads, segments, empty]
    have : name ≠ "." := by
      rintro rfl
      exact absurd h.1 (by decide)
    simp [Text.splitOn, this]
  · have heads : (p.leading ++ [name]).head? = (segments p).head? := by
      obtain ⟨first, rest, first_eq⟩ := List.exists_cons_of_ne_nil some
      rcases eq with eq | eq <;> rw [eq, first_eq] <;> rfl
    rw [heads]

/-- A name that is joined to a path is a component more. -/
theorem components_join (p : Path) {name : String} (h : IsSegment name) :
    (p.join ⟨name⟩).components = p.components ++ [.name name] := by
  have same : p.leading.filterMap (fun segment => component? segment.toList)
      = (segments p).filterMap fun segment => component? segment.toList := by
    rcases segments_eq_leading p with ⟨empty, leads⟩ | ⟨-, eq | eq⟩
    · rw [leads, segments, empty]
      rfl
    · rw [eq]
    · rw [eq, List.filterMap_append]
      simp [component?, isInsignificant]
  rw [components_eq_segments, components_eq_segments p, split_fst_join p h, segments_join p h.2,
    List.filterMap_append, same, List.append_assoc, List.filterMap_cons, component?_of_isSegment h]
  rfl

theorem components_descend (p : Path) {names : List String} (h : ∀ name ∈ names, IsSegment name) :
    (p.descend names).components = p.components ++ names.map .name := by
  induction names generalizing p with
  | nil => simp
  | cons name names ih =>
    rw [descend_cons, ih _ fun n mem => h n (List.mem_cons_of_mem _ mem),
      components_join p (h name List.mem_cons_self), List.map_cons, List.append_assoc]
    rfl

/-! ## Parts of paths -/

theorem trimEnd_eq_rdropWhile (pieces : List (List Char)) :
    trimEnd pieces = pieces.rdropWhile isInsignificant := rfl

theorem trimEnd_isFront (pieces : List (List Char)) : trimEnd pieces <+: pieces :=
  List.rdropWhile_prefix isInsignificant pieces

theorem filterMap_trimEnd (pieces : List (List Char)) :
    (trimEnd pieces).filterMap component? = pieces.filterMap component? := by
  rw [trimEnd_eq_rdropWhile]
  induction pieces using List.reverseRecOn with
  | nil => rfl
  | append_singleton pieces piece ih =>
    rw [List.rdropWhile_concat]
    split
    · rename_i insignificant
      rw [ih, List.filterMap_append, List.filterMap_cons, component?_of_isInsignificant insignificant]
      simp
    · rfl

theorem components_eq_trimEnd (p : Path) :
    p.components = p.split.1.component?.toList ++ (trimEnd p.split.2).filterMap component? := by
  rw [filterMap_trimEnd]
  rfl

theorem isSome_component? {piece : List Char} (h : isInsignificant piece = false) :
    ∃ component, component? piece = some component := by
  rw [component?, if_neg (by simp [h])]
  split
  · exact ⟨_, rfl⟩
  · exact ⟨_, rfl⟩

theorem head?_segments_of_isAbsolute (h : p.isAbsolute = true) : (segments p).head? = some "" := by
  rw [isAbsolute] at h
  rw [segments]
  cases eq : p.text.toList with
  | nil => simp [eq] at h
  | cons c r =>
    obtain rfl : c = '/' := by simpa [eq] using h
    rw [Text.splitOn, if_pos rfl]
    rfl

/-- Without a front, a path has a segment that counts at its start, or none that counts. -/
theorem first_of_prefix_split (none : p.split.1 = .none) (pre : pieces <+: trimEnd p.split.2) :
    ∀ piece ∈ pieces.head?, isInsignificant piece = false := by
  intro piece head
  have head' : (trimEnd p.split.2).head? = some piece := by
    obtain ⟨rest, eq⟩ := pre
    rw [← eq, List.head?_append, head]
    rfl
  have pieces_eq : p.split.2 = Text.splitOn '/' p.text.toList := by
    rw [split] at none ⊢
    split at none <;> simp_all
  have head'' : (Text.splitOn '/' p.text.toList).head? = some piece := by
    obtain ⟨rest, eq⟩ := trimEnd_isFront p.split.2
    rw [← pieces_eq, ← eq, List.head?_append, head']
    rfl
  by_contra insignificant
  rw [Bool.not_eq_false, isInsignificant, Bool.or_eq_true, List.isEmpty_iff, beq_iff_eq] at insignificant
  rcases insignificant with rfl | rfl
  · -- Only the empty path and an absolute one start with an empty segment.
    cases text : p.text.toList with
    | nil =>
      rw [pieces_eq, text] at head'
      cases head'
    | cons c r =>
      by_cases slash : c = '/'
      · have absolute : p.isAbsolute = true := by
          rw [isAbsolute, text, slash]
          rfl
        rw [split_fst_root_iff.mpr absolute] at none
        cases none
      · rw [text, Text.splitOn, if_neg slash] at head''
        split at head'' <;> cases head''
  · have point : (segments p).head? = some "." := by
      rw [segments, List.head?_map, head'']
      rfl
    rw [split_fst_current_iff.mpr point] at none
    cases none

/-- The components of a path that is put together from a front and segments, of which without a front the
first one must count. -/
theorem components_unsplit (free : ∀ piece ∈ pieces, '/' ∉ piece)
    (first : front = .none → ∀ piece ∈ pieces.head?, isInsignificant piece = false) :
    (unsplit front pieces).components = front.component?.toList ++ pieces.filterMap component? := by
  have whole (nonempty : pieces ≠ []) : Text.splitOn '/' (Text.joinWith '/' pieces) = pieces :=
    Text.splitOn_joinWith nonempty free
  cases front with
  | root =>
    cases pieces with
    | nil => rfl
    | cons piece pieces => simp [unsplit, components, split, whole]
  | current =>
    cases pieces with
    | nil => rfl
    | cons piece pieces => simp [unsplit, components, split, whole]
  | none =>
    cases pieces with
    | nil => rfl
    | cons piece pieces =>
      have segments_eq : segments (unsplit .none (piece :: pieces))
          = (piece :: pieces).map String.ofList := by
        rw [segments, unsplit, String.toList_ofList, whole (List.cons_ne_nil _ _)]
      have significant := first rfl piece rfl
      have front : (unsplit .none (piece :: pieces)).split.1 = .none := by
        cases eq : (unsplit .none (piece :: pieces)).split.1 with
        | root =>
          have head := head?_segments_of_isAbsolute (split_fst_root_iff.mp eq)
          rw [segments_eq, List.map_cons, List.head?_cons, Option.some.injEq] at head
          rw [String.ofList_eq_empty_iff.mp head] at significant
          cases significant
        | current =>
          rw [split_fst_current_iff, segments_eq, List.map_cons, List.head?_cons, Option.some.injEq,
            ← String.toList_inj, String.toList_ofList] at eq
          rw [eq] at significant
          cases significant
        | none => rfl
      rw [components_eq_segments, front, segments_eq, List.filterMap_map]
      simp only [Function.comp_def, String.toList_ofList]

theorem parent?_of_eq_nil (h : trimEnd p.split.2 = []) :
    p.parent? = if p.split.1 = .current then some ⟨""⟩ else none := by
  rw [parent?]
  generalize p.split = parts at *
  obtain ⟨front, pieces⟩ := parts
  cases front <;> simp_all

theorem parent?_of_ne_nil (h : trimEnd p.split.2 ≠ []) :
    p.parent? = some (unsplit p.split.1 (trimEnd (trimEnd p.split.2).dropLast)) := by
  rw [parent?]
  generalize p.split = parts at *
  obtain ⟨front, pieces⟩ := parts
  dsimp only at *
  split <;> simp_all

theorem isInsignificant_getLast_trimEnd {last : List Char} (h : trimEnd pieces = before ++ [last]) :
    isInsignificant last = false := by
  have nonempty : pieces.rdropWhile isInsignificant ≠ [] := by
    rw [← trimEnd_eq_rdropWhile, h]
    simp
  have := List.rdropWhile_last_not isInsignificant pieces nonempty
  simpa [← trimEnd_eq_rdropWhile, h] using this

/-- The path of the directory that holds an entry has the last component less. -/
theorem components_parent? (p : Path) :
    (p.parent?.map components).getD [] = p.components.dropLast := by
  rcases List.eq_nil_or_concat (trimEnd p.split.2) with nil | ⟨before, last, eq⟩
  · rw [parent?_of_eq_nil nil, components_eq_trimEnd, nil]
    cases p.split.1 <;> rfl
  rw [List.concat_eq_append] at eq
  obtain ⟨component, counts⟩ := isSome_component? (isInsignificant_getLast_trimEnd eq)
  have shorter : trimEnd before <+: trimEnd p.split.2 := by
    rw [eq]
    exact (trimEnd_isFront before).trans (List.prefix_append _ _)
  have free : ∀ piece ∈ trimEnd before, '/' ∉ piece := fun piece mem =>
    not_mem_of_mem_split ((trimEnd_isFront _).subset (shorter.subset mem))
  rw [parent?_of_ne_nil (by simp [eq]), components_eq_trimEnd, eq, List.dropLast_concat, Option.map_some,
    Option.getD_some, components_unsplit free fun none => first_of_prefix_split none shorter,
    filterMap_trimEnd, List.filterMap_append, List.filterMap_cons, counts, List.filterMap_nil,
    ← List.append_assoc, List.dropLast_concat]

theorem filterMap_dropSegments (n : Nat) (pieces : List (List Char)) :
    (dropSegments n pieces).filterMap component? = (pieces.filterMap component?).drop n := by
  fun_induction dropSegments n pieces with
  | case1 pieces =>
    induction pieces with
    | nil => rfl
    | cons piece pieces ih =>
      rw [List.dropWhile_cons]
      split
      · rename_i insignificant
        rw [ih, List.filterMap_cons_none (component?_of_isInsignificant insignificant)]
      · rfl
  | case2 => rfl
  | case3 n piece pieces ih =>
    rw [ih]
    split
    · rename_i insignificant
      rw [List.filterMap_cons_none (component?_of_isInsignificant insignificant)]
    · rename_i significant
      obtain ⟨component, counts⟩ := isSome_component? (Bool.eq_false_iff.mpr significant)
      rw [List.filterMap_cons_some counts, List.drop_succ_cons]

theorem dropSegments_suffix (n : Nat) (pieces : List (List Char)) : dropSegments n pieces <:+ pieces := by
  fun_induction dropSegments n pieces with
  | case1 pieces => exact List.dropWhile_suffix _
  | case2 => exact List.suffix_rfl
  | case3 n piece pieces ih => exact ih.trans (List.suffix_cons _ _)

theorem first_dropSegments (n : Nat) (pieces : List (List Char)) :
    ∀ piece ∈ (dropSegments n pieces).head?, isInsignificant piece = false := by
  fun_induction dropSegments n pieces with
  | case1 pieces =>
    intro piece head
    have counts := List.head?_dropWhile_not isInsignificant pieces
    rw [Option.mem_def.mp head] at counts
    simpa using counts
  | case2 => simp
  | case3 n piece pieces ih => exact ih

/-- A path seen from another has the components behind those of the other. -/
theorem components_relativeTo? (h : base.components <+: p.components) :
    (p.relativeTo? base).map components = some (p.components.drop base.components.length) := by
  have starts : p.startsWith base = true := List.isPrefixOf_iff_prefix.mpr h
  have behind (n : Nat) : (unsplit .none (trimEnd (dropSegments n p.split.2))).components
      = (p.split.2.filterMap component?).drop n := by
    rw [components_unsplit, filterMap_trimEnd, filterMap_dropSegments]
    · rfl
    · exact fun piece mem => not_mem_of_mem_split
        ((dropSegments_suffix n _).subset ((trimEnd_isFront _).subset mem))
    · intro _ piece head
      refine first_dropSegments n p.split.2 piece ?_
      obtain ⟨rest, eq⟩ := trimEnd_isFront (dropSegments n p.split.2)
      rw [← eq, List.head?_append, head]
      rfl
  rw [relativeTo?, if_pos starts]
  have parts : p.components = p.split.1.component?.toList ++ p.split.2.filterMap component? := rfl
  have free : ∀ piece ∈ trimEnd p.split.2, '/' ∉ piece := fun piece mem =>
    not_mem_of_mem_split ((trimEnd_isFront _).subset mem)
  have whole := components_unsplit free fun none => first_of_prefix_split none List.prefix_rfl
  rw [filterMap_trimEnd] at whole
  rw [parts]
  clear starts parts free
  generalize p.split = split at *
  obtain ⟨front, pieces⟩ := split
  dsimp only at *
  cases base.components.length with
  | zero => simp [whole]
  | succ n => cases front <;> simp [Front.component?, behind]

/-! ## File names -/

variable {name stem extension : String}

theorem splitName_eq_some_iff :
    splitName name = (stem, some extension)
      ↔ stem ≠ "" ∧ '.' ∉ extension.toList ∧ name = stem ++ "." ++ extension := by
  rw [splitName, List.span_eq_takeWhile_dropWhile]
  dsimp only
  have whole := List.takeWhile_append_dropWhile (p := (· != '.')) (l := name.toList.reverse)
  constructor
  · intro h
    split at h
    · cases h
    · cases h
    · rename_i rest c before point eq
      cases h
      obtain rfl : c = '.' := by
        have := List.head?_dropWhile_not (· != '.') name.toList.reverse
        simpa [eq] using this
      refine ⟨?_, ?_, ?_⟩
      · intro empty
        exact point rfl (by simpa using congrArg String.toList empty)
      · rw [String.toList_ofList, List.mem_reverse]
        intro mem
        simpa using List.mem_takeWhile_imp mem
      · rw [← String.toList_inj]
        have := congrArg List.reverse whole
        rw [eq] at this
        simpa using this.symm
  · rintro ⟨nonempty, free, rfl⟩
    have parts : (stem ++ "." ++ extension).toList.reverse
        = extension.toList.reverse ++ '.' :: stem.toList.reverse := by simp
    have behind : ∀ c ∈ extension.toList.reverse, (c != '.') = true := by
      intro c mem
      rw [bne_iff_ne]
      rintro rfl
      exact free (List.mem_reverse.mp mem)
    rw [parts, List.takeWhile_append_of_pos behind, List.dropWhile_append_of_pos behind]
    have some : stem.toList.reverse ≠ [] := by simpa using nonempty
    obtain ⟨c, before, eq⟩ := List.exists_cons_of_ne_nil some
    have := congrArg List.reverse eq
    rw [List.reverse_reverse] at this
    simp [eq, ← this]

theorem splitName_fst_of_none (h : (splitName name).2 = none) : (splitName name).1 = name := by
  rw [splitName] at h ⊢
  dsimp only at h ⊢
  split at h <;> simp_all

theorem splitName_fst_ne_empty (h : name ≠ "") : (splitName name).1 ≠ "" := by
  cases eq : (splitName name).2 with
  | none => rwa [splitName_fst_of_none eq]
  | some extension => exact (splitName_eq_some_iff.mp (Prod.ext rfl eq)).1

end MessageExtraction.Path
