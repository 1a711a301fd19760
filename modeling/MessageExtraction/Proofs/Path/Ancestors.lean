import MessageExtraction.Proofs.Path.Components

/-!
# Leading a path back

A path is led back by taking the last component off what is written, as long as there is one to take off.
What this does to the place that the path stands for depends on the component: a name and `..` move, a `.`
in front does not.

* `leadBack`: an induction along the way back.
* `ancestors_of_parent?`: `ancestors` lists the whole way, its bound is never met.
* `moves_of_parent?`: a step back takes the last move away, if there is one.
-/

namespace MessageExtraction.Path

open FileSystem (segments)

variable {p q : Path}

/-! ## One step back -/

theorem component?_ne_root {segment : List Char} : component? segment ≠ some .root := by
  rw [component?]
  split
  · simp
  split <;> simp

/-- A path starts at the root exactly if its components do. -/
theorem isAbsolute_iff_components (p : Path) :
    p.isAbsolute = true ↔ p.components.head? = some .root := by
  rw [← split_fst_root_iff, components]
  dsimp only
  cases p.split.1 with
  | root => simp [Front.component?]
  | current => simp [Front.component?]
  | none =>
    simp only [reduceCtorEq, Front.component?, Option.toList_none, List.nil_append, false_iff]
    intro head
    obtain ⟨segment, -, eq⟩ := List.mem_filterMap.mp (List.mem_of_head? head)
    exact component?_ne_root eq

/-- Nothing is left to take off where no component is, or the root alone. -/
theorem parent?_eq_none_iff (p : Path) :
    p.parent? = none ↔ p.components = [] ∨ p.components = [.root] := by
  rcases List.eq_nil_or_concat (trimEnd p.split.2) with nil | ⟨before, last, eq⟩
  · rw [parent?_of_eq_nil nil, components_eq_trimEnd, nil]
    cases p.split.1 <;> simp [Front.component?]
  · rw [List.concat_eq_append] at eq
    obtain ⟨component, counts⟩ := isSome_component? (isInsignificant_getLast_trimEnd eq)
    have ends : p.components.getLast? = some component := by
      rw [components_eq_trimEnd, eq, List.filterMap_append, List.filterMap_cons_some counts,
        List.filterMap_nil, ← List.append_assoc, List.getLast?_concat]
    rw [parent?_of_ne_nil (by simp [eq])]
    simp only [reduceCtorEq, false_iff, not_or]
    constructor
    · intro none
      rw [none] at ends
      cases ends
    · intro root
      rw [root] at ends
      cases ends
      exact component?_ne_root counts

theorem components_of_parent? (h : p.parent? = some q) : q.components = p.components.dropLast := by
  rw [← components_parent? p, h]
  rfl

theorem exists_components_of_parent? (h : p.parent? = some q) :
    ∃ component, p.components = q.components ++ [component] := by
  have some : p.components ≠ [] := fun none => by
    rw [(parent?_eq_none_iff p).mpr (.inl none)] at h
    cases h
  exact ⟨_, by rw [components_of_parent? h, List.dropLast_concat_getLast some]⟩

/-- A path that is led back still starts where it started. -/
theorem isAbsolute_of_parent? (h : p.parent? = some q) : q.isAbsolute = p.isAbsolute := by
  obtain ⟨component, parts⟩ := exists_components_of_parent? h
  rw [Bool.eq_iff_iff, isAbsolute_iff_components, isAbsolute_iff_components, parts, List.head?_append]
  cases eq : q.components with
  | cons => rfl
  | nil =>
    rw [eq, List.nil_append] at parts
    simp only [List.head?_nil, reduceCtorEq, Option.none_or, List.head?_cons, Option.some.injEq,
      false_iff]
    rintro rfl
    rw [(parent?_eq_none_iff p).mpr (.inr parts)] at h
    cases h

theorem descending_of_parent? (descending : .parent ∉ p.components) (h : p.parent? = some q) :
    Component.parent ∉ q.components := fun mem =>
  descending (List.dropLast_subset _ (components_of_parent? h ▸ mem))

/-! ## The way back -/

/-- What holds of a path with nothing to take off, and of each path if it holds one step back, holds of
every path. -/
@[elab_as_elim]
theorem leadBack {motive : Path → Prop} (top : ∀ p, p.parent? = none → motive p)
    (step : ∀ p q, p.parent? = some q → motive q → motive p) (p : Path) : motive p := by
  generalize size : p.components.length = n
  induction n using Nat.strong_induction_on generalizing p with
  | _ n ih =>
    cases h : p.parent? with
    | none => exact top p h
    | some q =>
      obtain ⟨component, parts⟩ := exists_components_of_parent? h
      refine step p q h (ih _ ?_ q rfl)
      rw [← size, parts, List.length_append]
      exact Nat.lt_succ_self _

theorem ancestors_of_none (h : p.parent? = none) : p.ancestors = [p] := by
  rw [ancestors]
  cases p.components.length with
  | zero => rfl
  | succ n => rw [ancestorsWithin, h]

/-- The bound on the steps back is never met. -/
theorem ancestors_of_parent? (h : p.parent? = some q) : p.ancestors = p :: q.ancestors := by
  obtain ⟨component, parts⟩ := exists_components_of_parent? h
  rw [ancestors, parts, List.length_append, List.length_singleton, ancestorsWithin, h]
  rfl

/-! ## Moves -/

/-- The segment of a component that leads to another directory. -/
def Component.move? : Component → Option String
  | .root => none
  | .current => none
  | .parent => some ".."
  | .name text => some text

/-- The segments of a path that lead to another directory. -/
def moves (p : Path) : List String := p.components.filterMap Component.move?

/-- A segment that counts is a move, and no other. -/
theorem component?_bind_move? (segment : String) :
    (component? segment.toList).bind Component.move?
      = if isInsignificant segment.toList then none else some segment := by
  rw [component?]
  split
  · rfl
  split
  · rename_i above
    have : segment = ".." := String.toList_inj.mp above
    rw [this]
    rfl
  · rw [Option.bind_some, Component.move?, String.ofList_toList]

/-- The moves of a path are its segments that count. -/
theorem moves_eq_segments (p : Path) :
    p.moves = (segments p).filter fun segment => !isInsignificant segment.toList := by
  have front : p.split.1.component?.toList.filterMap Component.move? = [] := by
    cases p.split.1 <;> rfl
  rw [moves, components_eq_segments, List.filterMap_append, front, List.nil_append,
    List.filterMap_filterMap, ← List.filterMap_eq_filter]
  refine List.filterMap_congr fun segment _ => ?_
  rw [component?_bind_move?, Option.guard]
  cases isInsignificant segment.toList <;> rfl

theorem moves_eq_leading (p : Path) :
    p.moves = p.leading.filter fun segment => !isInsignificant segment.toList := by
  rw [moves_eq_segments]
  rcases segments_eq_leading p with ⟨empty, leads⟩ | ⟨-, eq | eq⟩
  · rw [leads, segments, empty]
    rfl
  · rw [eq]
  · rw [eq, List.filter_append]
    simp [isInsignificant]

/-- A step back takes the last move away, if there is one. -/
theorem moves_of_parent? (h : p.parent? = some q) :
    p.moves = q.moves ∨ ∃ move, p.moves = q.moves ++ [move] := by
  obtain ⟨component, parts⟩ := exists_components_of_parent? h
  rw [moves, parts, List.filterMap_append]
  cases eq : component.move? with
  | none => exact .inl (by rw [List.filterMap_cons_none eq, List.filterMap_nil, List.append_nil, moves])
  | some move => exact .inr ⟨move, by rw [List.filterMap_cons_some eq, List.filterMap_nil, moves]⟩

theorem moves_of_none (h : p.parent? = none) : p.moves = [] := by
  rcases (parent?_eq_none_iff p).mp h with eq | eq <;> rw [moves, eq] <;> rfl

theorem components_of_fileName? {name : String} (h : p.fileName? = some name) :
    p.components = p.components.dropLast ++ [.name name] := by
  rw [fileName?] at h
  split at h
  · rename_i last
    cases h
    obtain ⟨before, eq⟩ := List.getLast?_eq_some_iff.mp last
    rw [eq, List.dropLast_concat]
  · cases h

theorem isSegment_of_fileName? {name : String} (h : p.fileName? = some name) : IsSegment name :=
  isSegment_of_mem_components (by rw [components_of_fileName? h]; simp)

/-- The name at the end of a path is its last move. -/
theorem moves_of_fileName? {name : String} (h : p.fileName? = some name) :
    p.moves = p.components.dropLast.filterMap Component.move? ++ [name] := by
  rw [moves, components_of_fileName? h, List.filterMap_append, List.dropLast_concat]
  rfl

end MessageExtraction.Path
