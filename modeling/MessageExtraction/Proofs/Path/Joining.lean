import Mathlib.Data.List.Basic
import Mathlib.Data.List.TakeDrop
import MessageExtraction.FileSystem.Basic
import MessageExtraction.Proofs.Text.Splitting

/-!
# Joining names to paths

A path that names are joined to consists of the segments of the path and the names. The names in a path are
segments themselves.

* `segments_join`, `segments_descend`: joining appends to the segments.
* `isSegment_of_mem_components`: a name in a path is one segment.
-/

namespace MessageExtraction

open FileSystem (segments isName)

/-! ## Joining -/

namespace Path

/-- A name of an entry that is one segment. -/
def IsSegment (name : String) : Prop := isName name = true ∧ '/' ∉ name.toList

instance (name : String) : Decidable (IsSegment name) := inferInstanceAs (Decidable (_ ∧ _))

theorem isName_of_lt_length {name : String} (h : 2 < name.length) : isName name = true := by
  simp only [isName, Bool.and_eq_true, bne_iff_ne]
  refine ⟨⟨?_, ?_⟩, ?_⟩ <;> rintro rfl <;> exact absurd h (by decide)

theorem IsSegment.toList_ne_nil {name : String} (h : IsSegment name) : name.toList ≠ [] := by
  intro eq
  have : name = "" := String.toList_eq_nil_iff.mp eq
  simp [IsSegment, isName, this] at h

/-- The segments of a path in front of what is joined to it: those without an empty one at the end. -/
def leading (p : Path) : List String :=
  if p.text = "" ∨ p.text.toList.getLast? = some '/' then (segments p).dropLast else segments p

theorem segments_mk (name : String) (h : '/' ∉ name.toList) : segments ⟨name⟩ = [name] := by
  rw [segments, Text.splitOn_of_not_mem h]
  simp

theorem isAbsolute_mk {name : String} (h : '/' ∉ name.toList) : (Path.mk name).isAbsolute = false := by
  cases eq : name.toList with
  | nil => simp [isAbsolute, eq]
  | cons c s =>
    rw [eq, List.mem_cons, not_or] at h
    simp [isAbsolute, eq, Ne.symm h.1]

/-- A path that ends in a slash has an empty segment at its end. -/
theorem segments_of_slash {p : Path} (h : p.text.toList.getLast? = some '/') :
    ∃ front, p.text.toList = front ++ ['/']
      ∧ segments p = (Text.splitOn '/' front).map String.ofList ++ [""] := by
  obtain ⟨front, eq⟩ := List.getLast?_eq_some_iff.mp h
  refine ⟨front, eq, ?_⟩
  rw [segments, eq, Text.splitOn_append_separator]
  simp [Text.splitOn]

/-- The segments of a path are those in front of joined names, and an empty one where it ends in a slash. -/
theorem segments_eq_leading (p : Path) :
    p.text = "" ∧ p.leading = []
      ∨ p.leading ≠ [] ∧ (segments p = p.leading ∨ segments p = p.leading ++ [""]) := by
  have some (s : List Char) : (Text.splitOn '/' s).map String.ofList ≠ [] :=
    fun none => Text.splitOn_ne_nil _ _ (List.map_eq_nil_iff.mp none)
  rw [leading]
  split
  · rename_i ends
    rcases ends with empty | slash
    · refine .inl ⟨empty, ?_⟩
      rw [segments, empty]
      rfl
    · obtain ⟨front, -, parts⟩ := segments_of_slash slash
      rw [parts, List.dropLast_concat]
      exact .inr ⟨some front, .inr rfl⟩
  · exact .inr ⟨some _, .inl rfl⟩

/-- A path that another one is joined to consists of its segments and those of the other one. -/
theorem segments_join_path (p : Path) {q : Path} (relative : q.isAbsolute = false) :
    segments (p.join q) = p.leading ++ segments q := by
  rw [join, relative, if_neg (by simp), leading]
  split
  · -- A path that is empty or ends in a slash has an empty segment at its end, and the other takes its place.
    rename_i open'
    rcases open' with empty | slash
    · have : segments p = [""] := by rw [segments, empty]; rfl
      rw [this, empty, String.empty_append]
      rfl
    · obtain ⟨front, eq, before⟩ := segments_of_slash slash
      rw [before, List.dropLast_concat, segments, String.toList_append, eq, List.append_assoc,
        List.singleton_append, Text.splitOn_append_separator, List.map_append]
      rfl
  · rw [segments, segments, String.toList_append, String.toList_append, List.append_assoc]
    have slash : ("/" : String).toList = ['/'] := rfl
    rw [slash, List.singleton_append, Text.splitOn_append_separator, List.map_append]
    rfl

theorem segments_join (p : Path) {name : String} (h : '/' ∉ name.toList) :
    segments (p.join ⟨name⟩) = p.leading ++ [name] := by
  rw [segments_join_path p (isAbsolute_mk h), segments_mk name h]

theorem leading_join_path (p : Path) {q : Path} (relative : q.isAbsolute = false) :
    (p.join q).leading = p.leading ++ q.leading := by
  have joined := segments_join_path p relative
  by_cases empty : q.text = ""
  · -- Nothing is put behind the path but a slash, if there is none.
    have none : segments q = [""] := by rw [segments, empty]; rfl
    rw [none] at joined
    have ends : q.leading = [] := by rw [leading, if_pos (.inl empty), none]; rfl
    rw [ends, List.append_nil]
    by_cases open' : p.text = "" ∨ p.text.toList.getLast? = some '/'
    · rw [join, relative, if_neg (by simp), if_pos open', empty, String.append_empty]
    · have slash : (p.join q).text.toList.getLast? = some '/' := by
        rw [join, relative, if_neg (by simp), if_neg open', empty, String.append_empty,
          String.toList_append]
        exact List.getLast?_concat
      rw [leading, if_pos (.inr slash), joined, List.dropLast_concat]
  · have last (front : String) : (front ++ q.text).toList.getLast? = q.text.toList.getLast? := by
      rw [String.toList_append, List.getLast?_append, Option.or_of_isSome]
      exact List.getLast?_isSome.mpr fun none => empty (String.toList_eq_nil_iff.mp none)
    have ends : (p.join q).text.toList.getLast? = q.text.toList.getLast? := by
      rw [join, relative, if_neg (by simp)]
      split
      · exact last _
      · exact last _
    have written : (p.join q).text ≠ "" := fun none => by
      rw [none] at ends
      exact empty (String.toList_eq_nil_iff.mp (List.getLast?_eq_none_iff.mp ends.symm))
    have some : segments q ≠ [] := fun none => Text.splitOn_ne_nil _ _ (List.map_eq_nil_iff.mp none)
    rw [leading, leading.eq_1 q, ends, joined, List.dropLast_append_of_ne_nil some]
    simp only [written, empty, false_or]
    split
    · rfl
    · rfl

theorem leading_mk {name : String} (h : IsSegment name) : (Path.mk name).leading = [name] := by
  rw [leading, if_neg, segments_mk name h.2]
  rintro (empty | slash)
  · exact h.toList_ne_nil (String.toList_eq_nil_iff.mpr empty)
  · exact h.2 (List.mem_of_getLast? slash)

theorem isAbsolute_join (p : Path) {q : Path} (relative : q.isAbsolute = false) :
    (p.join q).isAbsolute = p.isAbsolute := by
  rw [join, relative, if_neg (by simp)]
  split
  · rename_i open'
    rcases open' with empty | slash
    · rw [isAbsolute, empty, String.empty_append, isAbsolute, empty]
      exact relative
    · cases eq : p.text.toList with
      | nil => simp [eq] at slash
      | cons c s => simp [isAbsolute, eq]
  · rename_i closed
    cases eq : p.text.toList with
    | nil => exact absurd (.inl (String.toList_eq_nil_iff.mp eq)) closed
    | cons c s => simp [isAbsolute, eq]

/-- The path that names lead to from a path. -/
def descend (p : Path) (names : List String) : Path := names.foldl (fun p name => p.join ⟨name⟩) p

@[simp]
theorem descend_nil (p : Path) : p.descend [] = p := rfl

@[simp]
theorem descend_cons (p : Path) (name : String) (names : List String) :
    p.descend (name :: names) = (p.join ⟨name⟩).descend names := rfl

theorem descend_append (p : Path) (names names' : List String) :
    p.descend (names ++ names') = (p.descend names).descend names' := List.foldl_append

theorem isAbsolute_descend (p : Path) {names : List String} (h : ∀ name ∈ names, IsSegment name) :
    (p.descend names).isAbsolute = p.isAbsolute := by
  induction names generalizing p with
  | nil => rfl
  | cons name names ih =>
    rw [descend_cons, ih _ fun n mem => h n (List.mem_cons_of_mem _ mem),
      isAbsolute_join p (isAbsolute_mk (h name List.mem_cons_self).2)]

/-- Joining names to a path appends them to its segments. -/
theorem leading_descend (p : Path) {names : List String} (h : ∀ name ∈ names, IsSegment name) :
    (p.descend names).leading = p.leading ++ names := by
  induction names generalizing p with
  | nil => simp
  | cons name names ih =>
    have here := h name List.mem_cons_self
    rw [descend_cons, ih _ fun n mem => h n (List.mem_cons_of_mem _ mem),
      leading_join_path p (isAbsolute_mk here.2), leading_mk here, List.append_assoc,
      List.singleton_append]

theorem segments_descend (p : Path) {names : List String} (h : ∀ name ∈ names, IsSegment name)
    (some : names ≠ []) : segments (p.descend names) = p.leading ++ names := by
  obtain ⟨front, last, rfl⟩ := (List.eq_nil_or_concat names).resolve_left some
  rw [List.concat_eq_append, List.forall_mem_append] at *
  rw [descend_append, descend_cons, descend_nil, segments_join _ (h.2 last List.mem_cons_self).2,
    leading_descend p h.1, List.append_assoc]

theorem text_descend_ne_empty (p : Path) {names : List String} (h : ∀ name ∈ names, IsSegment name)
    (some : names ≠ []) : (p.descend names).text ≠ "" := by
  intro none
  have parts := segments_descend p h some
  have empty : segments (p.descend names) = [""] := by rw [segments, none]; rfl
  obtain ⟨name, rest, rfl⟩ := List.exists_cons_of_ne_nil some
  have mem : name ∈ [""] := by
    rw [← empty, parts]
    exact List.mem_append_right _ List.mem_cons_self
  exact (h name List.mem_cons_self).toList_ne_nil (String.toList_eq_nil_iff.mpr (List.mem_singleton.mp mem))

/-- A path is written with its segments. -/
theorem eq_of_segments {p q : Path} (h : segments p = segments q) : p = q := by
  have inj : Function.Injective String.ofList := fun s t eq => String.ofList_inj.mp eq
  have pieces := List.map_injective_iff.mpr inj h
  have texts := congrArg (Text.joinWith '/') pieces
  rw [Text.joinWith_splitOn, Text.joinWith_splitOn, String.toList_inj] at texts
  cases p
  cases q
  exact congrArg Path.mk texts

/-! ## Names in paths -/

theorem not_mem_of_mem_split {p : Path} {segment : List Char} (h : segment ∈ p.split.2) :
    '/' ∉ segment := by
  rw [split] at h
  split at h
  · exact Text.not_mem_of_mem_splitOn h
  · cases h
  · exact Text.not_mem_of_mem_splitOn h
  · exact Text.not_mem_of_mem_splitOn h

/-- A name in a path is one segment. -/
theorem isSegment_of_mem_components {p : Path} {name : String} (h : .name name ∈ p.components) :
    IsSegment name := by
  rw [components, List.mem_append, List.mem_filterMap] at h
  rcases h with front | ⟨segment, mem, eq⟩
  · cases eq : p.split.1 <;> simp [eq, Front.component?] at front
  · rw [component?] at eq
    split at eq
    · cases eq
    rename_i significant
    split at eq
    · cases eq
    rename_i inner
    cases eq
    refine ⟨?_, by simpa using not_mem_of_mem_split mem⟩
    simp only [isInsignificant, Bool.or_eq_true, List.isEmpty_iff, beq_iff_eq, not_or] at significant
    simp only [isName, Bool.and_eq_true, bne_iff_ne, ne_eq, ← String.toList_inj, String.toList_ofList]
    exact ⟨⟨significant.1, significant.2⟩, inner⟩

/-- The part of a name before its last point is the front of the name. -/
theorem splitName_isFront (name : String) : (splitName name).1.toList <+: name.toList := by
  rw [splitName, List.span_eq_takeWhile_dropWhile]
  dsimp only
  split
  · exact List.prefix_rfl
  · exact List.prefix_rfl
  · rename_i point stem _ before
    have whole := congrArg List.reverse
      (List.takeWhile_append_dropWhile (p := (· != '.')) (l := name.toList.reverse))
    rw [before, List.reverse_append, List.reverse_cons, List.reverse_reverse] at whole
    rw [String.toList_ofList, ← whole, List.append_assoc]
    exact List.prefix_append _ _

theorem not_mem_fileStem? {p : Path} : '/' ∉ (p.fileStem?.getD "").toList := by
  rw [fileStem?]
  cases eq : p.fileName? with
  | none => simp
  | some name =>
    have mem : Component.name name ∈ p.components := by
      rw [fileName?] at eq
      split at eq
      · rename_i last
        cases eq
        exact List.mem_of_getLast? last
      · cases eq
    exact fun slash => (isSegment_of_mem_components mem).2 ((splitName_isFront name).subset slash)

end Path

end MessageExtraction
