import MessageExtraction.Proofs.Extraction.Output
import MessageExtraction.Proofs.Extraction.Transformed

/-!
# The full form of calls

Each call of a walked module, at its place: a call for one message is made on the bound function and has all
four arguments, and any other call that marks nothing is as before.

* `Tree.at?`: what stands at the end of a path through a tree.
* `Pass.StepsTo`: one step of a walk down a path. `StepsTo.at?_transformed`: what becomes of the part stands
  where the walk puts it. `StepsTo.survey_subset`: what is found in the part is found in the whole.
* `reaches_of_at?`: so it is for a path that the walk does not pass by.
* `walked_call`: so it is for each call of a module, but for those in an array that is replaced.
-/

namespace MessageExtraction

open Syntax (Tree Span Identifier)

/-! ## Paths -/

namespace Syntax.Tree

/-- The trees directly below a tree. -/
def parts : Tree → List Tree
  | .node _ _ fields => fields
  | .list items => items
  | _ => []

/-- What stands at the end of a path through a tree. -/
def at? : Tree → List Nat → Option Tree
  | t, [] => some t
  | t, i :: path => t.parts[i]? >>= fun u => u.at? path

variable {t u : Tree} {i : Nat} {path : List Nat}

theorem at?_cons : t.at? (i :: path) = some u ↔ ∃ v, t.parts[i]? = some v ∧ v.at? path = some u := by
  rw [at?]
  exact Option.bind_eq_some_iff

theorem AreFlat.listed {ts : List Tree} (flat : AreFlat ts) (listed : ts[i]? = some u) : u.IsFlat :=
  areFlat_iff.mp flat u (List.mem_of_getElem? listed)

theorem IsFlat.kind (flat : t.IsFlat) : t.kind? ≠ some .sourceModule := by
  cases t with
  | node kind span fields => exact fun eq => (isFlat_node.mp flat).1 (Option.some.inj eq)
  | _ => exact nofun

theorem IsFlat.part (flat : t.IsFlat) (part : t.parts[i]? = some u) : u.IsFlat := by
  cases t with
  | node kind span fields => exact (isFlat_node.mp flat).2.listed part
  | list items => exact AreFlat.listed (isFlat_list.mp flat) part
  | _ => contradiction

theorem at?_list {items : List Tree} (stands : (Tree.list items).at? path = some u)
    (isNode : u.kind?.isSome) :
    ∃ i path', path = i :: path' ∧ ∃ v, items[i]? = some v ∧ v.at? path' = some u := by
  cases path with
  | nil =>
    cases stands
    contradiction
  | cons i path' => exact ⟨i, path', rfl, at?_cons.mp stands⟩

end Syntax.Tree

namespace Pass

/-- Whether a walk passes by what stands at the end of a path: the array in a call that is replaced, and the
mark of a tag that closes itself. -/
def skips (pass : Pass) : Tree → List Nat → Bool
  | .callExpression span callee args _, 1 :: 0 :: _ => pass.isArrayForm span callee args
  | .jsxOpeningElement _ _ _ _ _, 2 :: _ => true
  | _, _ => false

/-- Whether a walk passes by what stands at the end of a path, somewhere on the way. -/
def passesBy (pass : Pass) : Tree → List Nat → Bool
  | _, [] => false
  | t, i :: path =>
      pass.skips t (i :: path)
        || match t.parts[i]? with
          | some u => pass.passesBy u path
          | none => false

/-- Where the part of a tree with a number goes: the function of a call for one message into the call that
binds it. -/
def movedPart (pass : Pass) : Tree → Nat → List Nat
  | .callExpression span callee args _, 0 =>
      if (pass.helperCall? span callee args).any (·.kind == .single) then [0, 0, 0] else [0]
  | _, i => [i]

/-- Where a walk puts what stands at the end of a path. -/
def moved (pass : Pass) : Tree → List Nat → List Nat
  | _, [] => []
  | t, i :: path =>
      pass.movedPart t i
        ++ match t.parts[i]? with
          | some u => pass.moved u path
          | none => path

variable {pass : Pass} {component : Option ComponentKind} {t u v : Tree} {i : Nat} {path : List Nat}

theorem passesBy_cons (part : t.parts[i]? = some v) :
    pass.passesBy t (i :: path) = false
      ↔ pass.skips t (i :: path) = false ∧ pass.passesBy v path = false := by
  rw [passesBy, part, Bool.or_eq_false_iff]

theorem moved_cons (part : t.parts[i]? = some v) :
    pass.moved t (i :: path) = pass.movedPart t i ++ pass.moved v path := by
  rw [moved, part]

theorem getElem?_transformedAll {ts : List Tree} (listed : ts[i]? = some v) :
    (pass.transformedAll component ts)[i]? = some (pass.transformed component v) := by
  rw [transformedAll_eq_map, List.getElem?_map, listed, Option.map_some]

theorem getElem?_append_transformedAll {ts : List Tree} (listed : ts[i]? = some v) (more : List Tree) :
    (pass.transformedAll component ts ++ more)[i]? = some (pass.transformed component v) := by
  have made : (pass.transformedAll component ts)[i]? = some (pass.transformed component v) :=
    getElem?_transformedAll listed
  rwa [List.getElem?_append_left (List.getElem?_eq_some_iff.mp made).1]

section Calls

variable {span : Option Span} {callee types : Tree} {args : List Tree}

theorem getElem?_transformedArguments {replacement : Option Tree}
    (listed : args[i]? = some v) (kept : replacement.isSome = true → i ≠ 0) :
    (pass.transformedArguments component replacement args)[i]?
      = some (pass.transformed component v) := by
  cases args with
  | nil => contradiction
  | cons t ts =>
    cases replacement with
    | none => exact @getElem?_transformedAll pass component v i (t :: ts) listed
    | some e =>
      cases i with
      | zero => exact absurd rfl (kept rfl)
      | succ i => exact @getElem?_transformedAll pass component v i ts listed

/-- The function of a call stands at its place in what becomes of the call. -/
theorem callee_transformed (path : List Nat) :
    (pass.transformed component (.callExpression span callee args types)).at?
        (pass.movedPart (.callExpression span callee args types) 0 ++ path)
      = (pass.transformed component callee).at? path := by
  rw [transformed, movedPart]
  cases marks : pass.helperCall? span callee args with
  | none => rfl
  | some call =>
    cases kind : call.kind with
    | bulk => simp [kind, Syntax.Tree.at?, Syntax.Tree.parts]
    | single => simp [kind, Syntax.Tree.at?, Syntax.Tree.parts, HelperCall.bound, HelperCall.bindMember]

theorem argument_transformed (listed : args[i]? = some v)
    (kept : pass.isArrayForm span callee args = true → i ≠ 0) :
    (pass.transformed component (.callExpression span callee args types)).at? (1 :: i :: path)
      = (pass.transformed component v).at? path := by
  rw [transformed]
  cases marks : pass.helperCall? span callee args with
  | none => simp [Syntax.Tree.at?, Syntax.Tree.parts, getElem?_transformedAll listed]
  | some call =>
    cases kind : call.kind with
    | bulk =>
      have first : call.replacement?.isSome = true → i ≠ 0 := fun replaced => kept <| by
        rw [isArrayForm_of_some marks, kind, replaced]
        rfl
      simp [kind, Syntax.Tree.at?, Syntax.Tree.parts, getElem?_transformedArguments listed first]
    | single =>
      simp [kind, Syntax.Tree.at?, Syntax.Tree.parts,
        getElem?_append_transformedAll listed, -List.append_assoc]

theorem types_transformed (path : List Nat) :
    (pass.transformed component (.callExpression span callee args types)).at? (2 :: path)
      = (pass.transformed component types).at? path := by
  rw [transformed]
  split
  · rfl
  · split
    · rfl
    · rfl

end Calls

theorem attribute_transformed {span : Option Span} {name closing types : Tree} {attributes : List Tree}
    (listed : attributes[i]? = some v) :
    (pass.transformed component (.jsxOpeningElement span name attributes closing types)).at?
        (1 :: i :: path)
      = (pass.transformed component v).at? path := by
  simp [transformed, Syntax.Tree.at?, Syntax.Tree.parts, getElem?_append_transformedAll listed]

/-! ## What is found below a part -/

theorem survey_subset_surveyAll {ts : List Tree} (listed : ts[i]? = some v) :
    pass.survey v ⊆ pass.surveyAll ts := by
  induction ts generalizing i with
  | nil => contradiction
  | cons t ts ih =>
    rw [surveyAll]
    cases i with
    | zero =>
      obtain rfl := Option.some.inj listed
      exact List.subset_append_left _ _
    | succ i => exact List.subset_append_of_subset_right _ (ih listed)

theorem survey_subset_surveyArguments {ts : List Tree} {isLeaf : Bool} (listed : ts[i]? = some v)
    (kept : isLeaf = true → i ≠ 0) : pass.survey v ⊆ pass.surveyArguments isLeaf ts := by
  cases isLeaf with
  | false =>
    rw [surveyArguments_false]
    exact survey_subset_surveyAll listed
  | true =>
    rw [surveyArguments_true]
    refine survey_subset_surveyAll (i := i - 1) ?_
    rw [List.getElem?_tail, Nat.sub_add_cancel (Nat.one_le_iff_ne_zero.mpr (kept rfl)), listed]

/-! ## One step of a path -/

/-- Whether a walk looks into a node by itself. -/
def isSpecial : Tree → Bool
  | .callExpression _ _ _ _ => true
  | .jsxOpeningElement _ _ _ _ _ => true
  | _ => false

theorem isThrough_of_other {kind : Syntax.Kind} {span : Option Span} {fields : List Tree}
    (other : isSpecial (.node kind span fields) = false) (flat : kind ≠ .sourceModule) :
    Syntax.Tree.IsThrough kind fields where
  call := by
    rintro _ _ _ rfl rfl
    contradiction
  tag := by
    rintro _ _ _ _ rfl rfl
    contradiction
  module _ _ eq := absurd eq flat

theorem movedPart_of_other (other : isSpecial t = false) : pass.movedPart t i = [i] := by
  rw [movedPart.eq_def]
  split
  · contradiction
  · rfl

theorem parts_transformed (other : isSpecial t = false) :
    (pass.transformed component t).parts = pass.transformedAll component t.parts := by
  cases t with
  | node kind span fields =>
    rw [transformed.eq_3]
    · rfl
    · rintro callee args types rfl rfl
      contradiction
    · rintro name attributes closing types rfl rfl
      contradiction
  | list items => rfl
  | _ => rfl

theorem part_transformed (other : isSpecial t = false) (part : t.parts[i]? = some v) :
    (pass.transformed component t).at? (pass.movedPart t i ++ path)
      = (pass.transformed component v).at? path := by
  rw [movedPart_of_other other, List.singleton_append, Syntax.Tree.at?, parts_transformed other,
    getElem?_transformedAll part]
  rfl

theorem survey_part (other : isSpecial t = false) (flat : t.kind? ≠ some .sourceModule)
    (part : t.parts[i]? = some v) : pass.survey v ⊆ pass.survey t := by
  have same : pass.survey t = pass.surveyAll t.parts := by
    cases t with
    | node kind span fields =>
      obtain ⟨call, tag, module⟩ := isThrough_of_other other fun eq => flat (congrArg some eq)
      rw [survey.eq_4 _ _ _ _ call tag module]
      rfl
    | list items => rfl
    | _ => contradiction
  rw [same]
  exact survey_subset_surveyAll part

/-- One step of a walk down a path, to a part of a tree that it looks into: the way to the part, and the way
to it behind the walk. -/
inductive StepsTo (pass : Pass) : Tree → List Nat → Tree → List Nat → Prop
  | callee {span : Option Span} {callee types : Tree} {args : List Tree} :
      StepsTo pass (.callExpression span callee args types) [0] callee
        (pass.movedPart (.callExpression span callee args types) 0)
  | argument {span : Option Span} {callee types v : Tree} {args : List Tree} {i : Nat}
      (listed : args[i]? = some v) (kept : pass.isArrayForm span callee args = true → i ≠ 0) :
      StepsTo pass (.callExpression span callee args types) [1, i] v [1, i]
  | callTypes {span : Option Span} {callee types : Tree} {args : List Tree} :
      StepsTo pass (.callExpression span callee args types) [2] types [2]
  | tagName {span : Option Span} {name closing types : Tree} {attributes : List Tree} :
      StepsTo pass (.jsxOpeningElement span name attributes closing types) [0] name [0]
  | tagAttribute {span : Option Span} {name closing types v : Tree} {attributes : List Tree} {i : Nat}
      (listed : attributes[i]? = some v) :
      StepsTo pass (.jsxOpeningElement span name attributes closing types) [1, i] v [1, i]
  | tagTypes {span : Option Span} {name closing types : Tree} {attributes : List Tree} :
      StepsTo pass (.jsxOpeningElement span name attributes closing types) [3] types [3]
  | property {span : Option Span} {v : Tree} {properties : List Tree} {i : Nat}
      (listed : properties[i]? = some v) :
      StepsTo pass (.objectExpression span properties) [0, i] v [0, i]
  | part {t v : Tree} {i : Nat} (other : isSpecial t = false)
      (noObject : ∀ span properties, t ≠ .objectExpression span properties)
      (part : t.parts[i]? = some v) : StepsTo pass t [i] v [i]

/-- Whether a path starts with a step of a walk, and what is left of it and of the moved path leads on from
where the step ends. -/
def Starts (pass : Pass) (t : Tree) (path : List Nat) (u : Tree) : Prop :=
  ∃ front v front' rest, pass.StepsTo t front v front' ∧ path = front ++ rest ∧ v.at? rest = some u
    ∧ pass.passesBy v rest = false ∧ pass.moved t path = front' ++ pass.moved v rest

theorem starts_call {span : Option Span} {callee types : Tree} {args : List Tree}
    (stands : (Tree.callExpression span callee args types).at? (i :: path) = some u)
    (met : pass.passesBy (.callExpression span callee args types) (i :: path) = false)
    (isNode : u.kind?.isSome) : pass.Starts (.callExpression span callee args types) (i :: path) u := by
  obtain ⟨v, part, below⟩ := Syntax.Tree.at?_cons.mp stands
  obtain ⟨kept, met⟩ := (passesBy_cons part).mp met
  rcases i with _ | _ | _ | i
  · obtain rfl := Option.some.inj part
    exact ⟨_, _, _, path, .callee, rfl, below, met, moved_cons part⟩
  · obtain rfl := Option.some.inj part
    obtain ⟨j, rest, rfl, w, listed, below⟩ := Syntax.Tree.at?_list below isNode
    have first : pass.isArrayForm span callee args = true → j ≠ 0 := by
      rintro array rfl
      rw [skips, array] at kept
      contradiction
    refine ⟨_, _, _, rest, .argument listed first, rfl, below, ((passesBy_cons listed).mp met).2, ?_⟩
    rw [moved_cons part, moved_cons listed]
    rfl
  · obtain rfl := Option.some.inj part
    exact ⟨_, _, _, path, .callTypes, rfl, below, met, moved_cons part⟩
  · contradiction

theorem starts_tag {span : Option Span} {name closing types : Tree} {attributes : List Tree}
    (stands : (Tree.jsxOpeningElement span name attributes closing types).at? (i :: path) = some u)
    (met : pass.passesBy (.jsxOpeningElement span name attributes closing types) (i :: path) = false)
    (isNode : u.kind?.isSome) :
    pass.Starts (.jsxOpeningElement span name attributes closing types) (i :: path) u := by
  obtain ⟨v, part, below⟩ := Syntax.Tree.at?_cons.mp stands
  obtain ⟨kept, met⟩ := (passesBy_cons part).mp met
  rcases i with _ | _ | _ | _ | i
  · obtain rfl := Option.some.inj part
    exact ⟨_, _, _, path, .tagName, rfl, below, met, moved_cons part⟩
  · obtain rfl := Option.some.inj part
    obtain ⟨j, rest, rfl, w, listed, below⟩ := Syntax.Tree.at?_list below isNode
    refine ⟨_, _, _, rest, .tagAttribute listed, rfl, below, ((passesBy_cons listed).mp met).2, ?_⟩
    rw [moved_cons part, moved_cons listed]
    rfl
  · contradiction
  · obtain rfl := Option.some.inj part
    exact ⟨_, _, _, path, .tagTypes, rfl, below, met, moved_cons part⟩
  · contradiction

theorem starts_object {span : Option Span} {properties : List Tree}
    (stands : (Tree.objectExpression span properties).at? (i :: path) = some u)
    (met : pass.passesBy (.objectExpression span properties) (i :: path) = false)
    (isNode : u.kind?.isSome) : pass.Starts (.objectExpression span properties) (i :: path) u := by
  obtain ⟨v, part, below⟩ := Syntax.Tree.at?_cons.mp stands
  obtain ⟨-, met⟩ := (passesBy_cons part).mp met
  cases i with
  | zero =>
    obtain rfl := Option.some.inj part
    obtain ⟨j, rest, rfl, w, listed, below⟩ := Syntax.Tree.at?_list below isNode
    refine ⟨_, _, _, rest, .property listed, rfl, below, ((passesBy_cons listed).mp met).2, ?_⟩
    rw [moved_cons part, moved_cons listed]
    rfl
  | succ i => contradiction

/-- A path that a walk does not pass by starts with a step of the walk. -/
theorem starts_of_at? (stands : t.at? (i :: path) = some u)
    (met : pass.passesBy t (i :: path) = false) (isNode : u.kind?.isSome) :
    pass.Starts t (i :: path) u := by
  by_cases object : ∃ span properties, t = .objectExpression span properties
  · obtain ⟨span, properties, rfl⟩ := object
    exact starts_object stands met isNode
  cases special : isSpecial t with
  | false =>
    obtain ⟨v, part, below⟩ := Syntax.Tree.at?_cons.mp stands
    have step : pass.StepsTo t [i] v [i] :=
      .part special (fun span properties eq => object ⟨span, properties, eq⟩) part
    refine ⟨_, _, _, path, step, rfl, below, ((passesBy_cons part).mp met).2, ?_⟩
    rw [moved_cons part, movedPart_of_other special]
  | true =>
    rw [isSpecial.eq_def] at special
    split at special
    · exact starts_call stands met isNode
    · exact starts_tag stands met isNode
    · contradiction

theorem StepsTo.length_pos {front front' : List Nat} (h : pass.StepsTo t front v front') :
    0 < front.length := by
  cases h <;> exact Nat.succ_pos _

/-- What holds at the end of a path that a walk does not pass by, and is kept by each step back, holds of the
whole path. -/
theorem induction_on_steps {P : Tree → List Nat → Prop} (isNode : u.kind?.isSome) (here : P u [])
    (back : ∀ {t v : Tree} {front front' rest : List Nat}, pass.StepsTo t front v front' →
      pass.moved t (front ++ rest) = front' ++ pass.moved v rest → P v rest → P t (front ++ rest))
    (path : List Nat) (stands : t.at? path = some u) (met : pass.passesBy t path = false) : P t path := by
  induction size : path.length using Nat.strongRecOn generalizing path t with
  | ind n ih =>
    subst size
    cases path with
    | nil =>
      cases stands
      exact here
    | cons i path =>
      obtain ⟨front, v, front', rest, step, split, stands, met, moves⟩ := starts_of_at? stands met isNode
      have shorter : rest.length < (i :: path).length := by
        have := step.length_pos
        rw [split, List.length_append]
        omega
      rw [split] at moves ⊢
      exact back step moves (ih _ shorter rest stands met rfl)

namespace StepsTo

variable {front front' : List Nat}

theorem isFlat (h : pass.StepsTo t front v front') (flat : t.IsFlat) : v.IsFlat := by
  cases h with
  | callee => exact flat.part (i := 0) rfl
  | callTypes => exact flat.part (i := 2) rfl
  | tagName => exact flat.part (i := 0) rfl
  | tagTypes => exact flat.part (i := 3) rfl
  | argument listed => exact Syntax.Tree.IsFlat.part (flat.part (i := 1) rfl) listed
  | tagAttribute listed => exact Syntax.Tree.IsFlat.part (flat.part (i := 1) rfl) listed
  | property listed => exact Syntax.Tree.IsFlat.part (flat.part (i := 0) rfl) listed
  | part _ _ part => exact flat.part part

/-- What becomes of a part stands where the walk puts it. -/
theorem at?_transformed (h : pass.StepsTo t front v front') (path : List Nat) :
    (pass.transformed component t).at? (front' ++ path) = (pass.transformed component v).at? path := by
  cases h with
  | callee => exact callee_transformed path
  | argument listed kept => exact argument_transformed listed kept
  | callTypes => exact types_transformed path
  | tagName => rfl
  | tagAttribute listed => exact attribute_transformed listed
  | tagTypes => rfl
  | property listed =>
    exact (part_transformed (i := 0) rfl rfl).trans (part_transformed (t := .list _) rfl listed)
  | part other _ part =>
    have moves := @part_transformed pass component t v _ path other part
    rwa [movedPart_of_other other] at moves

/-- What is found in a part is found in the whole. -/
theorem survey_subset (h : pass.StepsTo t front v front') (flat : t.IsFlat) :
    pass.survey v ⊆ pass.survey t := by
  cases h with
  | callee => exact fun f hf => by simp [survey, hf]
  | argument listed kept =>
    exact List.Subset.trans (survey_subset_surveyArguments listed kept) fun f hf => by simp [survey, hf]
  | callTypes => exact fun f hf => by simp [survey, hf]
  | tagName => exact fun f hf => by simp [survey, hf]
  | tagAttribute listed =>
    exact List.Subset.trans (survey_subset_surveyAll listed) fun f hf => by simp [survey, hf]
  | tagTypes => exact fun f hf => by simp [survey, hf]
  | property listed =>
    exact List.Subset.trans (survey_part (t := .list _) rfl (by nofun) listed)
      (survey_part (i := 0) rfl flat.kind rfl)
  | part other _ part => exact survey_part other flat.kind part

end StepsTo

/-- At the end of a path in what becomes of a tree stands what becomes of `u`, and what is found in that is
found in the tree. -/
structure Reaches (pass : Pass) (t : Tree) (path : List Nat) (u : Tree) : Prop where
  made : ∀ component,
    (pass.transformed component t).at? path = some (pass.transformed component u)
  found : pass.survey u ⊆ pass.survey t

/-- A path that a walk does not pass by leads to the same node behind the walk, once it is moved. -/
theorem reaches_of_at? (path : List Nat) (flat : t.IsFlat) (stands : t.at? path = some u)
    (met : pass.passesBy t path = false) (isNode : u.kind?.isSome) :
    pass.Reaches t (pass.moved t path) u := by
  refine induction_on_steps (P := fun t path => t.IsFlat → pass.Reaches t (pass.moved t path) u)
    isNode ?_ ?_ path stands met flat
  · exact fun _ => ⟨fun _ => rfl, List.Subset.refl _⟩
  · intro t v front front' rest step moves reaches flat
    obtain ⟨made, found⟩ := reaches (step.isFlat flat)
    rw [moves]
    exact ⟨fun component => (step.at?_transformed _).trans (made component),
      List.Subset.trans found (step.survey_subset flat)⟩

end Pass

/-! ## The arguments of a call for one message -/

namespace HelperCall

variable {call : HelperCall}

/-- The argument with a number that a call for one message gets if it lacks it. -/
def defaultArgument? (component : Option ComponentKind) (props : String) : Nat → Option Tree
  | 1 => some (.element none (.objectExpression (some .made) []))
  | 2 => some (.element none (.nullLiteral (some .made)))
  | 3 =>
      some (.element none
        (if component = some .classBased then
          .memberExpression (some .made) (.thisExpression (some .made))
            (.identifierName (some .made) "props")
        else (Identifier.made props).toTree))
  | _ => none

theorem getElem?_missingArguments (component : Option ComponentKind) (props : String) (i : Nat) :
    (call.missingArguments component props)[i]?
      = defaultArgument? component props (call.args.length - 1 + i + 1) := by
  rw [missingArguments.eq_def, List.map_drop, List.getElem?_drop]
  generalize call.args.length - 1 + i = n
  match n with
  | 0 | 1 => rfl
  | 2 => rcases component with _ | _ | _ <;> rfl
  | n + 3 => rfl

/-- A call for one message with a descriptor has its id, and no more arguments than the function takes. -/
theorem length_of_descriptor {d : Descriptor} (h : call.descriptor = .ok d) :
    1 ≤ call.args.length ∧ call.args.length ≤ fullCount := by
  rw [descriptor] at h
  split at h
  · contradiction
  · rename_i within
    split at h
    · contradiction
    · rename_i first more args
      simp only [Bool.or_eq_true, decide_eq_true_eq, not_or, Nat.not_lt] at within
      exact ⟨by simp [args], within.1⟩

/-- With the arguments that it lacks a call for one message keeps its own in their places. -/
theorem getElem?_fullArguments {us : List Tree} (own : us.length = call.args.length)
    (positive : 1 ≤ call.args.length) (component : Option ComponentKind) (props : String) (i : Nat) :
    (us ++ call.missingArguments component props)[i]?
      = us[i]?.or (defaultArgument? component props i) := by
  rcases Nat.lt_or_ge i us.length with given | lacking
  · rw [List.getElem?_append_left given, List.getElem?_eq_getElem given, Option.some_or]
  · have number : call.args.length - 1 + (i - us.length) + 1 = i := by omega
    rw [List.getElem?_append_right lacking, getElem?_missingArguments, number,
      List.getElem?_eq_none lacking, Option.none_or]

theorem length_fullArguments {us : List Tree} (own : us.length = call.args.length)
    (positive : 1 ≤ call.args.length) (few : call.args.length ≤ fullCount)
    (component : Option ComponentKind) (props : String) :
    (us ++ call.missingArguments component props).length = fullCount := by
  simp only [missingArguments, List.length_append, List.length_map, List.length_drop,
    List.length_cons, List.length_nil, fullCount] at few ⊢
  omega

end HelperCall

/-! ## The calls of a module -/

namespace Pass

section Module

variable {pass : Pass} {span place : Option Span} {items args : List Tree}
  {interpreter item callee types : Tree} {call : HelperCall} {n : Nat} {path : List Nat}

/-- A call for one message in a module that is walked without a fault has a descriptor. -/
theorem descriptor_of_found (marks : pass.helperCall? place callee args = some call)
    (single : call.kind = .single) {r : Registry}
    (held : ∀ finding ∈ pass.survey (.callExpression place callee args types), finding.IsHeld r) :
    ∃ d, call.descriptor = .ok d := by
  cases described : call.descriptor with
  | ok d => exact ⟨d, rfl⟩
  | error cause =>
    have mem : (⟨.fault cause, call.span⟩ : Finding)
        ∈ pass.survey (.callExpression place callee args types) := by
      simp [survey, callFindings, marks, HelperCall.findings, single, described]
    exact (held _ mem).elim

/-- Before the components of a module are renamed, each of its calls, but for those in an array that is
replaced, stands at its place: on the function bound to `this` and with four arguments if it is one for a
message, and as it was if it marks nothing. What is below it is transformed. -/
theorem walked_call (flat : Syntax.Tree.AreFlat items)
    (translate : "bind" ∉ pass.config.translateFunctions)
    (define : "bind" ∉ pass.config.defineMessagesFunctions)
    (ok : (pass.extract (.sourceModule span items interpreter)).2.failed = false)
    (listed : items[n]? = some item) (stands : item.at? path = some (.callExpression place callee args types))
    (met : pass.passesBy item path = false) :
    let component := (Component.ofItem? pass.config item).map Component.kind
    let become := pass.transformed component
    ∃ item', ((pass.walkItems {} items).1.map Prod.fst)[n]? = some item'
      ∧ (pass.helperCall? place callee args = none →
          item'.at? (pass.moved item path)
            = some (.callExpression place (become callee) (args.map become) (become types)))
      ∧ ∀ call, pass.helperCall? place callee args = some call → call.kind = .single →
          ∃ given, given.length = 4
            ∧ (∀ i : Nat, given[i]? = (args[i]?.map become).or
                (HelperCall.defaultArgument? component pass.config.propsIdentifier i))
            ∧ item'.at? (pass.moved item path)
              = some (.callExpression place (HelperCall.bound (become callee)) given (become types)) := by
  intro component become
  have started := (@not_failed_of_walkItems pass span items interpreter _ _ rfl ok).1
  obtain ⟨-, held⟩ :=
    (walkItems_gathers (bindFindings_eq_nil translate define) {} items).held started
  obtain ⟨made, found⟩ := reaches_of_at? path (flat.listed listed) stands met rfl
  have walked : ((pass.walkItems {} items).1.map Prod.fst)[n]? = some (become item) := by
    rw [walkItems_transformed flat started, List.getElem?_map, listed]
    rfl
  refine ⟨_, walked, fun other => ?_, fun call marks single => ?_⟩
  · rw [made component, transformed, other, transformedAll_eq_map]
  · have heldHere : ∀ finding ∈ pass.survey (.callExpression place callee args types),
        finding.IsHeld _ := fun finding mem =>
      held finding (survey_subset_surveyAll listed (found mem))
    obtain ⟨d, described⟩ := descriptor_of_found marks single heldHere
    obtain ⟨positive, few⟩ := HelperCall.length_of_descriptor described
    have own : (args.map become).length = call.args.length := by
      rw [List.length_map, args_of_helperCall? marks]
    refine ⟨args.map become ++ call.missingArguments component pass.config.propsIdentifier,
      HelperCall.length_fullArguments own positive few _ _, fun i => ?_, ?_⟩
    · rw [HelperCall.getElem?_fullArguments own positive, List.getElem?_map]
    · rw [made component, transformed, marks, transformedAll_eq_map]
      simp only [single]
      rfl

end Module

end Pass

/-- The items of a module with a call for one message in the arguments of another. -/
def nestedItems : List Tree :=
  [.importDeclaration (some ⟨1, 40⟩)
      [.importSpecifier (some ⟨10, 19⟩) (.identifier (some ⟨10, 19⟩) "translate" .absent .absent)
        .absent (.flag false)]
      (.stringLiteral (some ⟨27, 39⟩) (.text "react-intl") .absent) (.flag false) .absent
      (.text "evaluation"),
    .expressionStatement (some ⟨41, 72⟩)
      (.callExpression (some ⟨41, 71⟩) (.identifier (some ⟨41, 50⟩) "translate" .absent .absent)
        [.element none (.stringLiteral (some ⟨51, 54⟩) (.text "a") .absent),
          .element none (.callExpression (some ⟨56, 70⟩)
            (.identifier (some ⟨56, 65⟩) "translate" .absent .absent)
            [.element none (.stringLiteral (some ⟨66, 69⟩) (.text "b") .absent)] .absent)] .absent)]

/-- The pass over the module of `nestedItems`. -/
def nestedPass : Pass :=
  .ofModule {} ⟨"a.js", ""⟩ (.sourceModule (some ⟨1, 72⟩) nestedItems .absent)

/-- The inner call of `nestedItems` gets its full form inside the outer one. -/
theorem walked_nestedItems :
    Syntax.Tree.AreFlat nestedItems
      ∧ "bind" ∉ nestedPass.config.translateFunctions
      ∧ "bind" ∉ nestedPass.config.defineMessagesFunctions
      ∧ (nestedPass.extract (.sourceModule (some ⟨1, 72⟩) nestedItems .absent)).2.failed = false
      ∧ ∃ item item', nestedItems[1]? = some item
        ∧ item.at? [0, 1, 1, 0] = some (.callExpression (some ⟨56, 70⟩)
            (.identifier (some ⟨56, 65⟩) "translate" .absent .absent)
            [.element none (.stringLiteral (some ⟨66, 69⟩) (.text "b") .absent)] .absent)
        ∧ nestedPass.passesBy item [0, 1, 1, 0] = false
        ∧ ((nestedPass.walkItems {} nestedItems).1.map Prod.fst)[1]? = some item'
        ∧ item'.at? [0, 1, 1, 0] = some (.callExpression (some ⟨56, 70⟩)
            (HelperCall.bound (.identifier (some ⟨56, 65⟩) "translate" .absent .absent))
            [.element none (.stringLiteral (some ⟨66, 69⟩) (.text "b") .absent),
              .element none (.objectExpression (some .made) []),
              .element none (.nullLiteral (some .made)),
              .element none (Identifier.made "props").toTree] .absent) := by
  have flat : Syntax.Tree.AreFlat nestedItems := by decide
  have ok : (nestedPass.extract (.sourceModule (some ⟨1, 72⟩) nestedItems .absent)).2.failed = false :=
    rfl
  obtain ⟨item', walked, -, single⟩ := @Pass.walked_call nestedPass _ _ nestedItems _ _ _ _ _ 1
    [0, 1, 1, 0] flat (by decide) (by decide) ok rfl rfl rfl
  obtain ⟨given, -, arguments, stands⟩ := single _ rfl rfl
  refine ⟨flat, by decide, by decide, ok, _, item', rfl, rfl, rfl, walked, stands.trans ?_⟩
  have four : given = [.element none (.stringLiteral (some ⟨66, 69⟩) (.text "b") .absent),
      .element none (.objectExpression (some .made) []), .element none (.nullLiteral (some .made)),
      .element none (Identifier.made "props").toTree] := by
    refine List.ext_getElem? fun i => (arguments i).trans ?_
    match i with
    | 0 | 1 | 2 | 3 | _ + 4 => rfl
  rw [four]
  rfl

/-- The items of a module with a call for one message in a type annotation inside an array of
descriptors. -/
def annotatedItems : List Tree :=
  [.importDeclaration (some ⟨1, 56⟩)
      [.importSpecifier (some ⟨10, 19⟩) (.identifier (some ⟨10, 19⟩) "translate" .absent .absent)
          .absent (.flag false),
        .importSpecifier (some ⟨21, 35⟩) (.identifier (some ⟨21, 35⟩) "defineMessages" .absent .absent)
          .absent (.flag false)]
      (.stringLiteral (some ⟨43, 55⟩) (.text "react-intl") .absent) (.flag false) .absent
      (.text "evaluation"),
    .expressionStatement (some ⟨57, 140⟩)
      (.callExpression (some ⟨57, 139⟩)
        (.identifier (some ⟨57, 71⟩) "defineMessages" .absent .absent)
        [.element none (.arrayExpression (some ⟨72, 138⟩)
          [.element none (.tsAsExpression (some ⟨73, 137⟩)
            (.objectExpression (some ⟨73, 105⟩)
              [.keyValueProperty (.identifierName (some ⟨75, 77⟩) "id")
                  (.stringLiteral (some ⟨79, 82⟩) (.text "a") .absent),
                .keyValueProperty (.identifierName (some ⟨84, 98⟩) "defaultMessage")
                  (.stringLiteral (some ⟨100, 103⟩) (.text "A") .absent)])
            (.node .tsTypeLiteral (some ⟨109, 137⟩)
              [.list [.node .tsPropertySignature (some ⟨111, 135⟩)
                [.flag false,
                  .callExpression (some ⟨112, 126⟩)
                    (.identifier (some ⟨112, 121⟩) "translate" .absent .absent)
                    [.element none (.stringLiteral (some ⟨122, 125⟩) (.text "b") .absent)] .absent,
                  .flag true, .flag false,
                  .node .tsDeclaredType (some ⟨127, 135⟩)
                    [.node .tsKeywordType (some ⟨129, 135⟩) [.text "string"]]]]]))])]
        .absent)]

/-- The pass over the module of `annotatedItems`. -/
def annotatedPass : Pass :=
  .ofModule {} ⟨"a.ts", ""⟩ (.sourceModule (some ⟨1, 140⟩) annotatedItems .absent)

/-- The call in the annotation goes with the array: nothing is called on a bound function in the end. -/
theorem walked_annotatedItems :
    Syntax.Tree.AreFlat annotatedItems
      ∧ "bind" ∉ annotatedPass.config.translateFunctions
      ∧ "bind" ∉ annotatedPass.config.defineMessagesFunctions
      ∧ (annotatedPass.extract (.sourceModule (some ⟨1, 140⟩) annotatedItems .absent)).2.failed = false
      ∧ (∃ item path span callee args types call, annotatedItems[1]? = some item
        ∧ item.at? path = some (.callExpression span callee args types)
        ∧ annotatedPass.helperCall? span callee args = some call ∧ call.kind = .single)
      ∧ ∀ u ∈ Syntax.Tree.nodesOf ((annotatedPass.walkItems {} annotatedItems).1.map Prod.fst),
          ∀ span callee args types, u ≠ .callExpression span (HelperCall.bound callee) args types := by
  have called : ∀ u ∈ Syntax.Tree.nodesOf ((annotatedPass.walkItems {} annotatedItems).1.map Prod.fst),
      u.parts.head?.bind Syntax.Tree.kind? ≠ some .callExpression ∨ u.kind? ≠ some .callExpression := by
    decide +kernel
  refine ⟨by decide, by decide, by decide, by decide +kernel,
    ⟨_, [0, 1, 0, 0, 0, 0, 0, 1, 0, 0, 1], _, _, _, _, _, rfl, rfl, rfl, rfl⟩, ?_⟩
  rintro _ mem span callee args types rfl
  exact (called _ mem).elim (absurd rfl) (absurd rfl)

end MessageExtraction
