import Mathlib.Data.List.TakeWhile
import MessageExtraction.Import.ModulePath
import MessageExtraction.Proofs.Message.Scanner
import MessageExtraction.Proofs.Text.Splitting

/-!
# Module paths from their first marker on

A path is cut in front of its first segment that is a marker. This gives one form for all the ways in which
a module is reached from files that lie at different depths.

* `CutsTo`: what cutting a path at a marker means, by its segments. `cutsTo_iff`: a path is cut to its
  normal form and to nothing else.
* `cutBytes?`: the path cut at a byte offset that is counted up segment by segment. `markerOffset?_append`
  carries it: the offset is the byte length of what stands before the segment.
* `normalize_isCanonical`: the slice at that offset is never refused and is the normal form, normal forms
  stay as they are, and what stands before the first marker does not matter.
-/

namespace MessageExtraction.ModulePath

open Message (splitBytes? splitBytes?_append isSome_splitBytes?_iff byteLength_toList)

variable {markers : List String} {path result marker : String} {before after : List String}

/-! ## Segments -/

/-- The segments of a path. -/
def segments (path : String) : List String := (Text.splitOn '/' path.toList).map String.ofList

/-- The path of segments. -/
def ofSegments (parts : List String) : String :=
  String.ofList (Text.joinWith '/' (parts.map String.toList))

/-- The text of segments in front of another one, each with its slash. -/
def front (before : List String) : String := String.join (before.map (· ++ "/"))

theorem map_toList_segments (path : String) :
    (segments path).map String.toList = Text.splitOn '/' path.toList := by
  simp [segments, Function.comp_def]

theorem not_mem_of_mem_segments {segment : String} (h : segment ∈ segments path) :
    '/' ∉ segment.toList := by
  have mem := List.mem_map_of_mem (f := String.toList) h
  rw [map_toList_segments] at mem
  exact Text.not_mem_of_mem_splitOn mem

theorem ofSegments_segments (path : String) : ofSegments (segments path) = path := by
  rw [ofSegments, map_toList_segments, Text.joinWith_splitOn, String.ofList_toList]

theorem segments_ofSegments {parts : List String} (nonempty : parts ≠ [])
    (free : ∀ part ∈ parts, '/' ∉ part.toList) : segments (ofSegments parts) = parts := by
  rw [segments, ofSegments, String.toList_ofList, Text.splitOn_joinWith]
  · simp [Function.comp_def]
  · simpa using nonempty
  · simpa using free

theorem segments_append_slash (q p : String) : segments (q ++ "/" ++ p) = segments q ++ segments p := by
  have slash : ("/" : String).toList = ['/'] := rfl
  rw [segments, String.toList_append, String.toList_append, slash, List.append_assoc,
    List.singleton_append, Text.splitOn_append_separator, List.map_append]
  rfl

@[simp]
theorem front_nil : front [] = "" := rfl

@[simp]
theorem front_cons (segment : String) (before : List String) :
    front (segment :: before) = segment ++ "/" ++ front before := by
  rw [front, List.map_cons, String.join_cons]
  rfl

theorem ofSegments_append (before : List String) (marker : String) (after : List String) :
    ofSegments (before ++ marker :: after) = front before ++ ofSegments (marker :: after) := by
  induction before with
  | nil => simp
  | cons segment before ih =>
    have step : ofSegments (segment :: (before ++ marker :: after))
        = segment ++ "/" ++ ofSegments (before ++ marker :: after) := by
      cases before <;> simp [ofSegments, Text.joinWith, ← String.toList_inj]
    rw [List.cons_append, step, ih, front_cons]
    simp only [String.append_assoc]

/-! ## Cutting by segments -/

/-- Whether a segment of a path is a marker. -/
def HasMarker (markers : List String) (path : String) : Prop := ∃ segment ∈ segments path, segment ∈ markers

instance (markers : List String) (path : String) : Decidable (HasMarker markers path) :=
  inferInstanceAs (Decidable (∃ segment ∈ segments path, segment ∈ markers))

/-- A path is cut in front of its first segment that is a marker, and stays whole if there is none. -/
inductive CutsTo (markers : List String) (path : String) : String → Prop
  | whole (none : ¬ HasMarker markers path) : CutsTo markers path path
  | marker {before after : List String} {marker rest : String}
      (parts : segments path = before ++ marker :: after) (first : ∀ segment ∈ before, segment ∉ markers)
      (isMarker : marker ∈ markers) (cut : path = front before ++ rest) : CutsTo markers path rest

theorem exists_first_marker (h : HasMarker markers path) :
    ∃ before marker after, segments path = before ++ marker :: after
      ∧ (∀ segment ∈ before, segment ∉ markers) ∧ marker ∈ markers := by
  obtain ⟨segment, mem, isMarker⟩ := h
  obtain ⟨marker, found⟩ := Option.isSome_iff_exists.mp
    (List.find?_isSome.mpr ⟨segment, mem, decide_eq_true isMarker⟩ :
      ((segments path).find? fun segment => decide (segment ∈ markers)).isSome)
  obtain ⟨isMarker, before, after, parts, first⟩ := List.find?_eq_some_iff_append.mp found
  exact ⟨before, marker, after, parts, by simpa using first, by simpa using isMarker⟩

theorem eq_front_append (parts : segments path = before ++ marker :: after) :
    path = front before ++ ofSegments (marker :: after) := by
  rw [← ofSegments_append, ← parts, ofSegments_segments]

theorem normalize_of_not_hasMarker (h : ¬ HasMarker markers path) : normalize markers path = path := by
  have passed : (Text.splitOn '/' path.toList).dropWhile
      (fun segment => !markers.contains (String.ofList segment)) = [] := by
    rw [List.dropWhile_eq_nil_iff]
    intro piece mem
    have other : String.ofList piece ∉ markers := fun isMarker =>
      h ⟨_, List.mem_map_of_mem mem, isMarker⟩
    simpa using other
  rw [normalize]
  dsimp only
  rw [passed]

theorem normalize_of_segments (parts : segments path = before ++ marker :: after)
    (first : ∀ segment ∈ before, segment ∉ markers) (isMarker : marker ∈ markers) :
    normalize markers path = ofSegments (marker :: after) := by
  have pieces : Text.splitOn '/' path.toList
      = before.map String.toList ++ marker.toList :: after.map String.toList := by
    rw [← map_toList_segments, parts, List.map_append, List.map_cons]
  have passed : (Text.splitOn '/' path.toList).dropWhile
      (fun segment => !markers.contains (String.ofList segment))
        = marker.toList :: after.map String.toList := by
    rw [pieces, List.dropWhile_append_of_pos, List.dropWhile_cons_of_neg]
    · simpa using isMarker
    · simpa using first
  rw [normalize]
  dsimp only
  rw [passed]
  rfl

/-- A path is cut to its normal form and to nothing else. -/
theorem cutsTo_iff : CutsTo markers path result ↔ result = normalize markers path := by
  constructor
  · intro h
    cases h with
    | whole none => exact (normalize_of_not_hasMarker none).symm
    | marker parts first isMarker cut =>
      rw [normalize_of_segments parts first isMarker]
      exact (String.append_right_inj _).mp (cut.symm.trans (eq_front_append parts))
  · rintro rfl
    by_cases h : HasMarker markers path
    · obtain ⟨before, marker, after, parts, first, isMarker⟩ := exists_first_marker h
      rw [normalize_of_segments parts first isMarker]
      exact .marker parts first isMarker (eq_front_append parts)
    · rw [normalize_of_not_hasMarker h]
      exact .whole h

theorem normalize_normalize (markers : List String) (path : String) :
    normalize markers (normalize markers path) = normalize markers path := by
  by_cases h : HasMarker markers path
  · obtain ⟨before, marker, after, parts, first, isMarker⟩ := exists_first_marker h
    have rest : segments (ofSegments (marker :: after)) = [] ++ marker :: after := by
      refine segments_ofSegments (List.cons_ne_nil _ _) fun part mem => ?_
      exact not_mem_of_mem_segments (parts ▸ List.mem_append_right _ mem)
    rw [normalize_of_segments parts first isMarker,
      normalize_of_segments rest (fun _ => nofun) isMarker]
  · rw [normalize_of_not_hasMarker h, normalize_of_not_hasMarker h]

/-- What is put before a path with a marker does not matter if it holds none. -/
theorem normalize_append_slash {q p : String} (none : ¬ HasMarker markers q) (some : HasMarker markers p) :
    normalize markers (q ++ "/" ++ p) = normalize markers p := by
  obtain ⟨before, marker, after, parts, first, isMarker⟩ := exists_first_marker some
  have whole : segments (q ++ "/" ++ p) = (segments q ++ before) ++ marker :: after := by
    rw [segments_append_slash, parts, List.append_assoc]
  rw [normalize_of_segments parts first isMarker, normalize_of_segments whole _ isMarker]
  rw [List.forall_mem_append]
  exact ⟨fun segment mem isMarker => none ⟨segment, mem, isMarker⟩, first⟩

/-! ## Cutting by bytes -/

/-- The byte offset of the first of the segments that is a marker, by the offset of the first of them. -/
def markerOffset? (markers : List String) : Nat → List String → Option Nat
  | _, [] => none
  | offset, segment :: segments =>
      if segment ∈ markers then some offset
      else markerOffset? markers (offset + segment.utf8ByteSize + 1) segments

/-- The slice of a text from a byte offset on, unless the offset is behind the end or inside a character. -/
def sliceFrom? (text : String) (offset : Nat) : Option String :=
  (splitBytes? offset text.toList).map fun (_, back) => String.ofList back

/-- The slice of a path from the offset of its first marker on, the whole path if there is none. -/
def cutBytes? (markers : List String) (path : String) : Option String :=
  match markerOffset? markers 0 (segments path) with
  | some offset => sliceFrom? path offset
  | none => some path

theorem markerOffset?_eq_none {parts : List String} (h : ∀ segment ∈ parts, segment ∉ markers)
    (offset : Nat) : markerOffset? markers offset parts = none := by
  induction parts generalizing offset with
  | nil => rfl
  | cons segment parts ih =>
    rw [List.forall_mem_cons] at h
    rw [markerOffset?, if_neg h.1, ih h.2]

/-- The offset of a segment is the byte length of what stands before it. -/
theorem markerOffset?_append (first : ∀ segment ∈ before, segment ∉ markers) (isMarker : marker ∈ markers)
    (offset : Nat) :
    markerOffset? markers offset (before ++ marker :: after)
      = some (offset + (front before).utf8ByteSize) := by
  induction before generalizing offset with
  | nil =>
    rw [List.nil_append, markerOffset?, if_pos isMarker]
    rfl
  | cons segment before ih =>
    rw [List.forall_mem_cons] at first
    have slash : ("/" : String).utf8ByteSize = 1 := rfl
    rw [List.cons_append, markerOffset?, if_neg first.1, ih first.2, front_cons,
      String.utf8ByteSize_append, String.utf8ByteSize_append, slash]
    simp only [Nat.add_assoc]

theorem sliceFrom?_append (text rest : String) :
    sliceFrom? (text ++ rest) text.utf8ByteSize = some rest := by
  rw [sliceFrom?, String.toList_append, ← byteLength_toList, splitBytes?_append, Option.map_some]
  exact congrArg some String.ofList_toList

/-- The slice at the first marker is not refused and is the normal form. -/
theorem cutBytes?_eq (markers : List String) (path : String) :
    cutBytes? markers path = some (normalize markers path) := by
  rw [cutBytes?]
  by_cases h : HasMarker markers path
  · obtain ⟨before, marker, after, parts, first, isMarker⟩ := exists_first_marker h
    rw [parts, markerOffset?_append first isMarker, Nat.zero_add,
      normalize_of_segments parts first isMarker]
    dsimp only
    rw [eq_front_append parts, sliceFrom?_append]
  · rw [markerOffset?_eq_none fun segment mem isMarker => h ⟨segment, mem, isMarker⟩,
      normalize_of_not_hasMarker h]

/-- The offset of a marker is one where a character starts, or the end of the path. -/
theorem isValid_markerOffset {offset : Nat} (h : markerOffset? markers 0 (segments path) = some offset) :
    String.Pos.Raw.IsValid path ⟨offset⟩ := by
  have cut := cutBytes?_eq markers path
  rw [cutBytes?, h] at cut
  obtain ⟨parts, split, -⟩ := Option.map_eq_some_iff.mp cut
  exact isSome_splitBytes?_iff.mp (Option.isSome_of_eq_some split)

/-! ## One form for all depths -/

/-- The path of a module has a canonical form.
A path is cut at a byte offset that is in it and at the start of a character, and what is left is the path
from its first marker on, the whole path if it has none. What is left is not cut again. What stands before
the first marker changes nothing, so that to name the same module is an equivalence in which the depth of the
importing files does not count. -/
theorem normalize_isCanonical (markers : List String) :
    (∀ path, cutBytes? markers path = some (normalize markers path)
        ∧ (∀ offset, markerOffset? markers 0 (segments path) = some offset →
            String.Pos.Raw.IsValid path ⟨offset⟩)
        ∧ (∀ result, CutsTo markers path result ↔ result = normalize markers path)
        ∧ normalize markers (normalize markers path) = normalize markers path)
      ∧ (∀ q p, ¬ HasMarker markers q → HasMarker markers p →
          normalize markers (q ++ "/" ++ p) = normalize markers p)
      ∧ Equivalence (fun p p' => same markers p p' = true)
      ∧ ∀ q q' p p', ¬ HasMarker markers q → ¬ HasMarker markers q' → HasMarker markers p →
          HasMarker markers p' → same markers (q ++ "/" ++ p) (q' ++ "/" ++ p') = same markers p p' := by
  refine ⟨fun path => ⟨cutBytes?_eq markers path, fun _ => isValid_markerOffset, fun _ => cutsTo_iff,
    normalize_normalize markers path⟩, fun q p => normalize_append_slash, ?_, ?_⟩
  · simp only [same, beq_iff_eq]
    exact ⟨fun _ => rfl, Eq.symm, Eq.trans⟩
  · intro q q' p p' none none' some some'
    rw [same, same, normalize_append_slash none some, normalize_append_slash none' some']

/-- An empty segment, a character of two bytes and a name that only ends in a marker before the marker. -/
theorem normalize_upward :
    ¬ HasMarker ["i18n"] "..//é/my-i18n" ∧ HasMarker ["i18n"] "./i18n/texts"
      ∧ normalize ["i18n"] ("..//é/my-i18n" ++ "/" ++ "./i18n/texts") = "i18n/texts" := by
  have none : ¬ HasMarker ["i18n"] "..//é/my-i18n" := by decide
  have some : HasMarker ["i18n"] "./i18n/texts" := by decide
  exact ⟨none, some, ((normalize_isCanonical ["i18n"]).2.1 _ _ none some).trans (by decide)⟩

end MessageExtraction.ModulePath
