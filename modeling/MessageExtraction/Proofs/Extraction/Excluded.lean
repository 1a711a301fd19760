import Mathlib.Data.List.ReduceOption
import MessageExtraction.Proofs.Extraction.Binding
import MessageExtraction.Proofs.Extraction.FullForm
import MessageExtraction.Proofs.Extraction.Insertion

/-!
# The excluded base class

Neither the excluded base class nor a class that extends it is a component. A variable of that name can be
one all the same, and a renaming goes by names alone, so it can reach such a class.

* `Tree.isShown`: whether a renaming looks at what stands at the end of a path. `at?_rename`: if so, that is
  renamed as it stands. `isShown_moved`: a walk keeps it so, step by step (`StepsTo.isShown`).
* `Component.excludedClass?`: the name of a class that extends the excluded one.
* `Pass.LeavesExcluded`: what it is that a run leaves the excluded alone. `extract_excluded_iff`: when it
  does.
-/

namespace MessageExtraction

open Syntax (Tree Span Identifier)
open Component (rename renameAll renameProperties renamed internalName namesOf baseName? ofItem?
  wrappedExport)

/-! ## What a renaming looks at -/

namespace Syntax.Tree

/-- Whether a renaming looks at what stands at the end of a path. It leaves out the lists of exports, and
of a name all but its type. In an object literal it takes a name for a property as a whole. -/
def isShown : Tree → List Nat → Bool
  | _, [] => true
  | .objectExpression _ properties, 0 :: i :: path =>
      match properties[i]? with
      | some p => p.kind? != some .identifier && p.isShown path
      | none => true
  | t, i :: path =>
      t.kind? != some .exportSpecifier && (t.kind? != some .identifier || i == 2)
        && match t.parts[i]? with
          | some u => u.isShown path
          | none => true

variable {t u v : Tree} {i : Nat} {path : List Nat}

theorem isShown_cons (other : ∀ span properties, t ≠ .objectExpression span properties)
    (part : t.parts[i]? = some v) :
    t.isShown (i :: path) = true
      ↔ t.kind? ≠ some .exportSpecifier ∧ (t.kind? = some .identifier → i = 2)
        ∧ v.isShown path = true := by
  rw [isShown.eq_def]
  split
  · contradiction
  · exact absurd rfl (other _ _)
  · rename_i _ eq
    obtain ⟨rfl, rfl⟩ := List.cons.inj eq
    rw [part]
    simp [imp_iff_not_or, and_assoc]

/-- Whether a renaming looks at every part of a node, each by itself. -/
def isTransparent (t : Tree) : Bool :=
  match t.kind? with
  | some .exportSpecifier | some .identifier | some .objectExpression => false
  | _ => true

theorem isShown_part (part : t.parts[i]? = some v) (transparent : t.isTransparent = true) :
    t.isShown (i :: path) = v.isShown path := by
  have kinds : t.kind? ≠ some .exportSpecifier ∧ t.kind? ≠ some .identifier
      ∧ t.kind? ≠ some .objectExpression := by
    rw [isTransparent.eq_def] at transparent
    split at transparent
    · contradiction
    · contradiction
    · contradiction
    · rename_i outside named object
      exact ⟨outside, named, object⟩
  have other (span properties) : t ≠ .objectExpression span properties := by
    rintro rfl
    exact kinds.2.2 rfl
  rw [Bool.eq_iff_iff, isShown_cons other part]
  simp [kinds]

end Syntax.Tree

namespace Component

variable {names : List String} {t u v : Tree} {i : Nat}

theorem getElem?_renameProperties {ts : List Tree} (listed : ts[i]? = some t)
    (other : t.kind? ≠ some .identifier) : (renameProperties names ts)[i]? = some (rename names t) := by
  induction ts generalizing i with
  | nil => contradiction
  | cons first ts ih =>
    rw [renameProperties.eq_def]
    split
    · contradiction
    · rename_i eq
      obtain ⟨rfl, rfl⟩ := List.cons.inj eq
      cases i with
      | zero =>
        obtain rfl := Option.some.inj listed
        exact absurd rfl other
      | succ i => exact ih listed
    · rename_i eq
      obtain ⟨rfl, rfl⟩ := List.cons.inj eq
      cases i with
      | zero =>
        obtain rfl := Option.some.inj listed
        rfl
      | succ i => exact ih listed

/-- A renaming goes on at a part of a node that it looks at. -/
theorem part_rename (other : ∀ span properties, t ≠ .objectExpression span properties)
    (outside : t.kind? ≠ some .exportSpecifier) (place : t.kind? = some .identifier → i = 2)
    (part : t.parts[i]? = some v) :
    (rename names t).parts[i]? = some (rename names v) := by
  rw [rename.eq_def]
  split
  · obtain rfl := place rfl
    obtain rfl := Option.some.inj part
    rfl
  · exact absurd rfl (other _ _)
  · rename_i kind span fields _ _
    have kept : kind ≠ .exportSpecifier := fun eq => outside (congrArg some eq)
    rw [if_neg kept]
    show (renameAll names fields)[i]? = _
    rw [renameAll_eq_map, List.getElem?_map, show fields[i]? = some v from part, Option.map_some]
  · rename_i items
    show (renameAll names items)[i]? = _
    rw [renameAll_eq_map, List.getElem?_map, show items[i]? = some v from part, Option.map_some]
  · rename_i node list
    cases t with
    | node kind span fields => exact absurd rfl (node kind span fields)
    | list items => exact absurd rfl (list items)
    | _ => contradiction

/-- What a renaming looks at is renamed as it stands. -/
theorem at?_rename : (path : List Nat) → {t : Tree} → t.at? path = some u → t.isShown path = true →
    u.kind?.isSome → (rename names t).at? path = some (rename names u)
  | [], t, stands, _, _ => by
    cases stands
    rfl
  | i :: path, t, stands, shown, isNode => by
    obtain ⟨v, part, below⟩ := Syntax.Tree.at?_cons.mp stands
    by_cases object : ∃ span properties, t = .objectExpression span properties
    · obtain ⟨span, properties, rfl⟩ := object
      cases i with
      | zero =>
        obtain rfl := Option.some.inj part
        obtain ⟨j, path, rfl, p, listed, below⟩ := Syntax.Tree.at?_list below isNode
        rw [Syntax.Tree.isShown, listed] at shown
        simp only [Bool.and_eq_true, bne_iff_ne, ne_eq] at shown
        rw [rename]
        exact Syntax.Tree.at?_cons.mpr ⟨_, rfl, Syntax.Tree.at?_cons.mpr
          ⟨rename names p, getElem?_renameProperties listed shown.1, at?_rename path below shown.2 isNode⟩⟩
      | succ i => contradiction
    · have other (span properties) : t ≠ .objectExpression span properties :=
        fun eq => object ⟨span, properties, eq⟩
      obtain ⟨outside, place, shown⟩ := (Syntax.Tree.isShown_cons other part).mp shown
      exact Syntax.Tree.at?_cons.mpr
        ⟨rename names v, part_rename other outside place part, at?_rename path below shown isNode⟩

end Component

namespace Pass

variable {pass : Pass} {component : Option ComponentKind} {t u v : Tree} {i : Nat} {path : List Nat}

theorem kind?_transformed (t : Tree) : (pass.transformed component t).kind? = t.kind? := by
  rw [transformed.eq_def]
  split
  · split
    · rfl
    · split
      · rfl
      · rfl
  · rfl
  · rfl
  · rfl
  · rfl

/-- A walk makes no object literals. -/
theorem object_of_transformed {span : Option Span} {properties : List Tree}
    (made : pass.transformed component t = .objectExpression span properties) :
    ∃ span' properties', t = .objectExpression span' properties' := by
  have kind : t.kind? = some .objectExpression := by
    rw [← @kind?_transformed pass component t, made]
    rfl
  have other : isSpecial t = false := by
    rw [isSpecial.eq_def]
    split
    · cases Option.some.inj kind
    · cases Option.some.inj kind
    · rfl
  have parts := @parts_transformed pass component t other
  rw [made] at parts
  cases t with
  | node nodeKind place fields =>
    obtain rfl := Option.some.inj kind
    cases fields with
    | nil => contradiction
    | cons head tail =>
      obtain ⟨list, rest⟩ := List.cons.inj parts
      obtain rfl : tail = [] := by
        cases tail with
        | nil => rfl
        | cons => contradiction
      have leaf : head.kind? = none := by
        rw [← @kind?_transformed pass component head, ← list]
        rfl
      cases head with
      | list items => exact ⟨_, _, rfl⟩
      | _ => contradiction
  | _ => contradiction

section Special

variable {span : Option Span} {callee name closing types : Tree} {args attributes : List Tree}

theorem isShown_callee :
    (pass.transformed component (.callExpression span callee args types)).isShown
        (pass.movedPart (.callExpression span callee args types) 0 ++ path)
      = (pass.transformed component callee).isShown path := by
  rw [transformed, movedPart]
  cases marks : pass.helperCall? span callee args with
  | none => exact Syntax.Tree.isShown_part rfl rfl
  | some call =>
    cases kind : call.kind with
    | bulk =>
      simp only [Option.any_some, kind]
      rw [if_neg (by decide)]
      exact Syntax.Tree.isShown_part rfl rfl
    | single =>
      -- The function is two steps further down, below the member that binds it.
      simp only [Option.any_some, kind]
      rw [if_pos (by decide)]
      calc
        _ = (HelperCall.bound (pass.transformed component callee)).isShown (0 :: 0 :: path) :=
          Syntax.Tree.isShown_part rfl rfl
        _ = (HelperCall.bindMember (pass.transformed component callee)).isShown (0 :: path) :=
          Syntax.Tree.isShown_part rfl rfl
        _ = _ := Syntax.Tree.isShown_part rfl rfl

theorem exists_call_transformed : ∃ callee' args' types',
    pass.transformed component (.callExpression span callee args types)
      = .callExpression span callee' args' types' := by
  rw [transformed]
  split
  · exact ⟨_, _, _, rfl⟩
  · split
    · exact ⟨_, _, _, rfl⟩
    · exact ⟨_, _, _, rfl⟩

theorem isShown_argument (listed : args[i]? = some v)
    (kept : pass.isArrayForm span callee args = true → i ≠ 0) :
    (pass.transformed component (.callExpression span callee args types)).isShown (1 :: i :: path)
      = (pass.transformed component v).isShown path := by
  have stands := @argument_transformed pass component v i [] span callee types args listed kept
  obtain ⟨callee', args', types', made⟩ :=
    @exists_call_transformed pass component span callee types args
  rw [made] at stands ⊢
  have listed' : args'[i]? = some (pass.transformed component v) := by
    simpa [Syntax.Tree.at?, Syntax.Tree.parts] using stands
  calc
    _ = (Tree.list args').isShown (i :: path) := Syntax.Tree.isShown_part rfl rfl
    _ = _ := Syntax.Tree.isShown_part listed' rfl

theorem isShown_types :
    (pass.transformed component (.callExpression span callee args types)).isShown (2 :: path)
      = (pass.transformed component types).isShown path := by
  have stands := @types_transformed pass component span callee types args []
  obtain ⟨callee', args', types', made⟩ :=
    @exists_call_transformed pass component span callee types args
  rw [made] at stands ⊢
  obtain rfl : types' = pass.transformed component types := Option.some.inj stands
  exact Syntax.Tree.isShown_part rfl rfl

theorem isShown_attribute (listed : attributes[i]? = some v) :
    (pass.transformed component (.jsxOpeningElement span name attributes closing types)).isShown
        (1 :: i :: path)
      = (pass.transformed component v).isShown path := by
  rw [transformed]
  exact (Syntax.Tree.isShown_part rfl rfl).trans
    (Syntax.Tree.isShown_part (getElem?_append_transformedAll listed _) rfl)

end Special

/-- A renaming that looks beyond a step of a walk looks beyond it behind the walk. -/
theorem StepsTo.isShown {front front' : List Nat} (h : pass.StepsTo t front v front')
    (shown : t.isShown (front ++ path) = true) :
    v.isShown path = true
      ∧ ∀ path', (pass.transformed component v).isShown path' = true →
        (pass.transformed component t).isShown (front' ++ path') = true := by
  cases h with
  | callee =>
    exact ⟨(Syntax.Tree.isShown_part rfl rfl).symm.trans shown, fun _ made => isShown_callee.trans made⟩
  | @argument span callee types v args i listed kept =>
    have listShown : (Tree.list args).isShown (i :: path) = true :=
      (Syntax.Tree.isShown_part rfl rfl).symm.trans shown
    exact ⟨(Syntax.Tree.isShown_part listed rfl).symm.trans listShown,
      fun _ made => (isShown_argument listed kept).trans made⟩
  | callTypes =>
    exact ⟨(Syntax.Tree.isShown_part rfl rfl).symm.trans shown, fun _ made => isShown_types.trans made⟩
  | tagName =>
    exact ⟨(Syntax.Tree.isShown_part rfl rfl).symm.trans shown,
      fun _ made => (Syntax.Tree.isShown_part rfl rfl).trans made⟩
  | @tagAttribute span name closing types v attributes i listed =>
    have listShown : (Tree.list attributes).isShown (i :: path) = true :=
      (Syntax.Tree.isShown_part rfl rfl).symm.trans shown
    exact ⟨(Syntax.Tree.isShown_part listed rfl).symm.trans listShown,
      fun _ made => (isShown_attribute listed).trans made⟩
  | tagTypes =>
    exact ⟨(Syntax.Tree.isShown_part rfl rfl).symm.trans shown,
      fun _ made => (Syntax.Tree.isShown_part rfl rfl).trans made⟩
  | @property span v properties i listed =>
    have beyond (path : List Nat) : (Tree.objectExpression span properties).isShown (0 :: i :: path) = true
        ↔ v.kind? ≠ some .identifier ∧ v.isShown path = true := by
      rw [Syntax.Tree.isShown, listed]
      simp only [Bool.and_eq_true, bne_iff_ne, ne_eq]
    obtain ⟨named, shown⟩ := (beyond path).mp shown
    refine ⟨shown, fun path' made => ?_⟩
    show (Tree.objectExpression span (pass.transformedAll component properties)).isShown
      (0 :: i :: path') = true
    rw [Syntax.Tree.isShown, getElem?_transformedAll listed]
    simp only [Bool.and_eq_true, bne_iff_ne, kind?_transformed]
    exact ⟨named, made⟩
  | @part t v i other noObject part =>
    obtain ⟨outside, place, shown⟩ := (Syntax.Tree.isShown_cons noObject part).mp shown
    refine ⟨shown, fun path' made => ?_⟩
    have noObjectMade (span properties) :
        pass.transformed component t ≠ .objectExpression span properties := by
      intro eq
      obtain ⟨span', properties', same⟩ := object_of_transformed eq
      exact noObject span' properties' same
    have partMade : (pass.transformed component t).parts[i]? = some (pass.transformed component v) := by
      rw [parts_transformed other, getElem?_transformedAll part]
    refine (Syntax.Tree.isShown_cons noObjectMade partMade).mpr ?_
    rw [kind?_transformed]
    exact ⟨outside, place, made⟩

/-- A renaming looks at the same through a walk. -/
theorem isShown_moved (path : List Nat) (stands : t.at? path = some u) (shown : t.isShown path = true)
    (isNode : u.kind?.isSome) (met : pass.passesBy t path = false) :
    (pass.transformed component t).isShown (pass.moved t path) = true := by
  refine induction_on_steps (P := fun t path => t.isShown path = true →
    (pass.transformed component t).isShown (pass.moved t path) = true) isNode ?_ ?_ path stands met shown
  · intro _
    rw [moved, Syntax.Tree.isShown]
  · intro t v front front' rest step moves kept shown
    obtain ⟨shown, beyond⟩ := @StepsTo.isShown pass component t v rest front front' step shown
    rw [moves]
    exact beyond _ (kept shown)

end Pass

/-! ## Excluded classes -/

namespace Component

variable {config : Config} {item t : Tree} {items : List Tree} {component : Component} {name : String}

/-- The name of a class that has one, and what the class extends. -/
def classHead? : Tree → Option (String × Tree)
  | .classDeclaration _ (.identifier _ name _ _) _ _ _ superClass _ _ _ _ => some (name, superClass)
  | .classExpression _ (.identifier _ name _ _) _ _ superClass _ _ _ _ => some (name, superClass)
  | _ => none

/-- The name of a class that extends the excluded one. -/
def excludedClass? (config : Config) (t : Tree) : Option String :=
  (classHead? t).bind fun head =>
    if baseName? head.2 = some config.excludedBaseClass then some head.1 else none

theorem kind?_of_classHead? {head : String × Tree} (found : classHead? t = some head) :
    t.kind? = some .classDeclaration ∨ t.kind? = some .classExpression := by
  rw [classHead?.eq_def] at found
  split at found
  · exact .inl rfl
  · exact .inr rfl
  · contradiction

/-- A class that extends the excluded one is no component. -/
theorem ofItem?_of_excludedClass? {span : Option Span} (found : excludedClass? config t = some name) :
    ofItem? config (.exportDeclaration span t) = none := by
  obtain ⟨⟨own, superClass⟩, head, excluded⟩ := Option.bind_eq_some_iff.mp found
  rw [Option.eq_none_iff_forall_ne_some]
  intro component exported
  cases ofItem?_eq_some_iff.mp exported with
  | classBased exposed own based other listed =>
    cases head
    have base := (Option.ite_none_right_eq_some.mp excluded).1
    rw [based] at base
    exact other (Option.some.inj base)
  | functional => contradiction

/-- No class is a component under the excluded name. -/
theorem functional_of_excluded (found : ofItem? config item = some component)
    (excluded : component.identifier.name = config.excludedBaseClass) : component.kind = .functional := by
  cases ofItem?_eq_some_iff.mp found with
  | classBased exposed own => exact absurd excluded own
  | functional => rfl

/-- The excluded name is that of a component if a function with markup is exported under it. -/
theorem excluded_mem_namesOf_iff : config.excludedBaseClass ∈ namesOf config items
    ↔ ∃ item ∈ items, ∃ place,
      ofItem? config item = some ⟨.functional, ⟨config.excludedBaseClass, place⟩⟩ := by
  simp only [namesOf, List.mem_filterMap, Option.map_eq_some_iff]
  constructor
  · rintro ⟨item, mem, ⟨kind, ⟨own, place⟩⟩, found, rfl⟩
    obtain rfl : kind = .functional := functional_of_excluded found rfl
    exact ⟨item, mem, place, found⟩
  · rintro ⟨item, mem, place, found⟩
    exact ⟨item, mem, _, found, rfl⟩

end Component

open Component (classHead? excludedClass? converted?)

namespace Pass

variable {pass : Pass} {component : Option ComponentKind} {t : Tree} {names : List String}

/-- The name of the class at the end of a path that extends the excluded one, unless a walk or a renaming
passes it by. -/
def excludedAt? (pass : Pass) (item : Tree) (path : List Nat) : Option String :=
  if pass.passesBy item path = false ∧ item.isShown path = true then
    item.at? path >>= excludedClass? pass.config
  else none

theorem classHead?_transformed {head : String × Tree} (found : classHead? t = some head) :
    (classHead? (rename names (pass.transformed component t))).map Prod.fst
      = some (renamed names head.1) := by
  unfold classHead? at found
  split at found
  · cases found
    rfl
  · cases found
    rfl
  · contradiction

/-- Whether a run leaves alone what it has to. -/
structure LeavesExcluded (pass : Pass) (items : List Tree) : Prop where
  /-- What is exported under the excluded name still is, and nothing is made of it. -/
  exported : ∀ n span declaration, items[n]? = some (.exportDeclaration span declaration) →
    pass.config.excludedBaseClass ∈ declaration.declarationNames →
      ∃ image, pass.insertedItem items n (.exportDeclaration span declaration) = [image]
        ∧ pass.config.excludedBaseClass ∈ image.exportedNames
  /-- A class that extends the excluded one keeps its name, and nothing is made of it if it is exported. -/
  extended : ∀ n item path name, items[n]? = some item → pass.excludedAt? item path = some name →
    ∃ image made u, pass.insertedItem items n item = image :: made
      ∧ image.at? (pass.moved item path) = some u ∧ (classHead? u).map Prod.fst = some name
      ∧ (path = [0] → made = [])

section Module

variable {span : Option Span} {items : List Tree} {interpreter item : Tree} {n : Nat}

theorem insertedItem_of_plain (plain : ofItem? pass.config item = none) :
    pass.insertedItem items n item
      = [rename (pass.convertedNames items) (pass.transformed none item)] := by
  have unconverted : converted? pass.config items n item = none := by
    rw [converted?, Component.untaken?, plain, Option.bind_none]
  rw [insertedItem, unconverted, plain]
  rfl

/-- A converted component is followed by the export that wraps it. -/
theorem insertedItem_of_converted {name : String}
    (converted : converted? pass.config items n item = some name) :
    pass.insertedItem items n item
      = [rename (pass.convertedNames items)
          (pass.transformed ((ofItem? pass.config item).map Component.kind) item),
        wrappedExport (pass.wrapper {}).1 name] := by
  rw [insertedItem, converted]
  rfl

theorem exists_converted {name : String} (named : name ∈ namesOf pass.config items) :
    ∃ n item, items[n]? = some item ∧ converted? pass.config items n item = some name := by
  rw [← mem_convertedNames, convertedNames, List.reduceOption_mem_iff, List.mem_iff_getElem?] at named
  obtain ⟨n, converted⟩ := named
  rw [List.getElem?_mapIdx, Option.map_eq_some_iff] at converted
  obtain ⟨item, listed, converted⟩ := converted
  exact ⟨n, item, listed, converted⟩

/-- What becomes of a class that extends the excluded one, at its place. -/
theorem exists_at?_rename {path : List Nat} {name : String} (flat : item.IsFlat)
    (found : pass.excludedAt? item path = some name) :
    ∃ u v, item.at? path = some u ∧ excludedClass? pass.config u = some name
      ∧ (rename names (pass.transformed component item)).at? (pass.moved item path) = some v
      ∧ (classHead? v).map Prod.fst = some (renamed names name) := by
  obtain ⟨⟨met, shown⟩, ends⟩ := Option.ite_none_right_eq_some.mp found
  obtain ⟨u, stands, excluded⟩ := Option.bind_eq_some_iff.mp ends
  obtain ⟨head, isClass, base⟩ := Option.bind_eq_some_iff.mp excluded
  obtain rfl : head.1 = name := Option.some.inj (Option.ite_none_right_eq_some.mp base).2
  have isNode : u.kind?.isSome := by
    rcases Component.kind?_of_classHead? isClass with kind | kind <;> rw [kind] <;> rfl
  have made := (reaches_of_at? path flat stands met isNode).made component
  have shownMade : (pass.transformed component item).isShown (pass.moved item path) = true :=
    isShown_moved path stands shown isNode met
  have isNodeMade : (pass.transformed component u).kind?.isSome := by rwa [kind?_transformed]
  exact ⟨u, _, stands, excluded, Component.at?_rename _ made shownMade isNodeMade,
    classHead?_transformed isClass⟩

/-- A run that leaves the excluded alone makes no component under their name, and none under the name of a
class that extends them. -/
theorem LeavesExcluded.not_mem (leaves : pass.LeavesExcluded items) (flat : Syntax.Tree.AreFlat items) :
    pass.config.excludedBaseClass ∉ namesOf pass.config items
      ∧ ∀ item ∈ items, ∀ path name, pass.excludedAt? item path = some name →
        name ∉ namesOf pass.config items := by
  constructor
  · intro named
    obtain ⟨n, item, listed, converted⟩ := exists_converted named
    obtain ⟨component, found, taken⟩ := Option.bind_eq_some_iff.mp converted
    obtain ⟨-, own⟩ := Option.ite_none_left_eq_some.mp taken
    obtain ⟨span, declaration, rfl, declared⟩ := Component.eq_export_of_ofItem? found
    obtain ⟨image, alone, -⟩ := leaves.exported n span declaration listed (by
      rw [declared, Option.some.inj own]
      exact List.mem_cons_self)
    rw [insertedItem_of_converted converted] at alone
    exact nomatch (List.cons.inj alone).2
  · intro item mem path name found named
    obtain ⟨n, listed⟩ := List.mem_iff_getElem?.mp mem
    obtain ⟨image, made, u, inserted, stands, kept, -⟩ := leaves.extended n item path name listed found
    obtain ⟨rfl, -⟩ := List.cons.inj inserted
    obtain ⟨_, v, -, -, stands', image⟩ := @exists_at?_rename pass
      ((ofItem? pass.config item).map Component.kind) (pass.convertedNames items) item path name
      (flat.listed listed) found
    obtain rfl := Option.some.inj (stands.symm.trans stands')
    rw [kept, Component.renamed_of_mem (mem_convertedNames.mpr named)] at image
    exact Component.internalName_ne name (Option.some.inj image).symm

/-- Where no component has the excluded name or that of a class that extends the excluded one, a run leaves
those alone. -/
theorem leavesExcluded_of_not_mem (flat : Syntax.Tree.AreFlat items)
    (ok : (pass.walkItems {} items).2.failed = false)
    (unnamed : pass.config.excludedBaseClass ∉ namesOf pass.config items)
    (others : ∀ item ∈ items, ∀ path name, pass.excludedAt? item path = some name →
      name ∉ namesOf pass.config items) : pass.LeavesExcluded items where
  exported n span declaration listed declared := by
    have mem := List.mem_of_getElem? listed
    have plain : ofItem? pass.config (.exportDeclaration span declaration) = none := by
      cases found : ofItem? pass.config (.exportDeclaration span declaration) with
      | none => rfl
      | some component =>
        have own : declaration.declarationNames = [component.identifier.name] :=
          Component.exportedNames_of_ofItem? found
        rw [own, List.mem_singleton] at declared
        exact absurd (List.mem_filterMap.mpr ⟨_, mem, by rw [found, declared]; rfl⟩) unnamed
    refine ⟨_, insertedItem_of_plain plain, ?_⟩
    have walked := (outlinesItem_transformed flat ok mem).outlines.exportedNames
    rw [plain] at walked
    have renames := (Component.outlines_rename (pass.convertedNames items)
      (.exportDeclaration span (pass.transformed none declaration))).exportedNames
    have kept := Component.renamed_of_not_mem fun named => unnamed (mem_convertedNames.mp named)
    have declaredMade : (pass.transformed none declaration).declarationNames
        = declaration.declarationNames := walked.trans (List.map_id _)
    show _ ∈ (rename _ (.exportDeclaration span (pass.transformed none declaration))).exportedNames
    rw [renames, declaredMade]
    exact List.mem_map.mpr ⟨_, declared, kept⟩
  extended n item path name listed found := by
    obtain ⟨u, v, stands, excluded, image, kept⟩ := @exists_at?_rename pass
      ((ofItem? pass.config item).map Component.kind) (pass.convertedNames items) item path name
      (flat.listed listed) found
    rw [Component.renamed_of_not_mem fun named => others item (List.mem_of_getElem? listed) path name
      found (mem_convertedNames.mp named)] at kept
    refine ⟨_, _, v, rfl, image, kept, ?_⟩
    rintro rfl
    have plain : ofItem? pass.config item = none := by
      cases exported : ofItem? pass.config item with
      | none => rfl
      | some component =>
        obtain ⟨span, declaration, rfl, -⟩ := Component.eq_export_of_ofItem? exported
        obtain rfl : declaration = u := Option.some.inj stands
        rw [Component.ofItem?_of_excludedClass? excluded] at exported
        contradiction
    exact (List.cons.inj ((insertedItem_of_plain plain).symm.trans rfl)).2.symm

/-- A run that fails renames nothing and inserts nothing. One that does not leaves the excluded alone exactly
if no function is exported as a component under the excluded name and no component has the name of a class
that extends the excluded one. -/
theorem extract_excluded_iff (flat : Syntax.Tree.AreFlat items) :
    ((pass.extract (.sourceModule span items interpreter)).2.failed = true →
        (pass.extract (.sourceModule span items interpreter)).1
          = .sourceModule span ((pass.walkItems {} items).1.map Prod.fst) interpreter)
      ∧ ((pass.extract (.sourceModule span items interpreter)).2.failed = false →
        (pass.extract (.sourceModule span items interpreter)).1
            = .sourceModule span
                (pass.missingImport items ++ (items.mapIdx (pass.insertedItem items)).flatten) interpreter
          ∧ (pass.LeavesExcluded items
            ↔ (∀ item ∈ items, ∀ place, ofItem? pass.config item
                ≠ some ⟨.functional, ⟨pass.config.excludedBaseClass, place⟩⟩)
              ∧ ∀ item ∈ items, ∀ path name, pass.excludedAt? item path = some name →
                name ∉ namesOf pass.config items)) := by
  refine ⟨fun failed => ?_, fun ok => ⟨extract_eq_inserted flat ok, ?_⟩⟩
  · rw [extract, walk_module rfl] at failed ⊢
    cases started : (pass.walkItems {} items).2.failed with
    | true => rw [finishItems, if_pos started]
    | false =>
      have gathered := @finishItems_gathered pass (pass.walkItems {} items).2 (pass.walkItems {} items).1
      obtain ⟨ok, -⟩ := Session.not_failed_of_gathered
        (gathered.trans (Session.gathered_of_not_failed started))
      rw [ok] at failed
      contradiction
  · have started := (@not_failed_of_walkItems pass span items interpreter _ _ rfl ok).1
    have unnamed : pass.config.excludedBaseClass ∉ namesOf pass.config items
        ↔ ∀ item ∈ items, ∀ place, ofItem? pass.config item
          ≠ some ⟨.functional, ⟨pass.config.excludedBaseClass, place⟩⟩ := by
      rw [Component.excluded_mem_namesOf_iff]
      simp only [not_exists, not_and, ne_eq]
    rw [← unnamed]
    exact ⟨fun leaves => leaves.not_mem flat, fun h => leavesExcluded_of_not_mem flat started h.1 h.2⟩

end Module

end Pass

/-- The items of a module that exports a class under the excluded name. -/
def baseClassItems : List Tree :=
  [.exportDeclaration (some ⟨1, 46⟩)
    (.classDeclaration (some ⟨8, 46⟩) (.identifier (some ⟨14, 27⟩) "BaseComponent" .absent .absent)
      .absent (.list []) (.list []) (.identifier (some ⟨36, 45⟩) "Component" .absent .absent) .absent
      .absent .absent (.list []))]

/-- The pass over the module of `baseClassItems`. -/
def baseClassPass : Pass :=
  .ofModule {} ⟨"a.js", ""⟩ (.sourceModule (some ⟨1, 46⟩) baseClassItems .absent)

/-- The class of `baseClassItems` is left alone. -/
theorem extract_baseClassItems :
    Syntax.Tree.AreFlat baseClassItems
      ∧ (baseClassPass.extract (.sourceModule (some ⟨1, 46⟩) baseClassItems .absent)).2.failed = false
      ∧ baseClassPass.LeavesExcluded baseClassItems := by
  have flat : Syntax.Tree.AreFlat baseClassItems := by decide
  have ok : (baseClassPass.extract
      (.sourceModule (some ⟨1, 46⟩) baseClassItems .absent)).2.failed = false := rfl
  have unnamed : namesOf baseClassPass.config baseClassItems = [] := by decide
  refine ⟨flat, ok, ((Pass.extract_excluded_iff flat).2 ok).2.mpr ⟨fun item mem place => ?_, ?_⟩⟩
  · obtain rfl := List.mem_singleton.mp mem
    exact nofun
  · intro item mem path name found
    rw [unnamed]
    exact List.not_mem_nil

/-- The items of a module that exports a function with markup under the excluded name. -/
def baseFunctionItems : List Tree :=
  [.exportDeclaration (some ⟨1, 56⟩)
    (.variableDeclaration (some ⟨8, 56⟩) "const" .absent
      [.variableDeclarator (some ⟨14, 55⟩)
        (.identifier (some ⟨14, 27⟩) "BaseComponent" .absent .absent)
        (.arrowFunctionExpression (some ⟨30, 55⟩) []
          (.blockStatement (some ⟨36, 55⟩)
            [.returnStatement (some ⟨38, 53⟩)
              (.node .jsxElement (some ⟨45, 52⟩)
                [.jsxOpeningElement (some ⟨45, 52⟩)
                    (.identifier (some ⟨46, 49⟩) "div" .absent .absent) [] (.flag true) .absent,
                  .list [], .absent])])
          .absent .absent .absent .absent) .absent])]

/-- The pass over the module of `baseFunctionItems`. -/
def baseFunctionPass : Pass :=
  .ofModule {} ⟨"a.js", ""⟩ (.sourceModule (some ⟨1, 56⟩) baseFunctionItems .absent)

/-- The function of `baseFunctionItems` is renamed, and what is exported under its name wraps it. -/
theorem extract_baseFunctionItems :
    baseFunctionPass.config.excludedBaseClass = "BaseComponent"
      ∧ (∃ output,
        baseFunctionPass.extract (.sourceModule (some ⟨1, 56⟩) baseFunctionItems .absent)
            = (.sourceModule (some ⟨1, 56⟩) output .absent,
              { (default : Session) with
                converted := ["BaseComponent", "_BaseComponent"], wrapper := some (.made "injectIntl") })
          ∧ output[1]? = (baseFunctionItems.map (rename ["BaseComponent"]))[0]?
          ∧ output[2]? = some (wrappedExport (.made "injectIntl") "BaseComponent"))
      ∧ ¬ baseFunctionPass.LeavesExcluded baseFunctionItems := by
  refine ⟨rfl, ⟨_, Prod.ext rfl rfl, rfl, rfl⟩, fun leaves => ?_⟩
  obtain ⟨image, alone, -⟩ := leaves.exported 0 _ _ rfl List.mem_cons_self
  exact nomatch (List.cons.inj alone).2

end MessageExtraction
