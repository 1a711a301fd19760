import MessageExtraction.Proofs.Extraction.Rewritten

/-!
# What a module declares

The names that the items of a module declare for the module: imports, variables, functions and classes.

* `Outlines`: two trees that agree in what declarations are made of, with new names for old ones.
* `Places`, `Outlines.partsAt`: where the nodes of some kinds hold a part. Trees that agree hold parts that
  agree.
* `boundNames_eq_partsAt`, `declarationNames_eq_partsAt`: the names that a node binds or declares are those of
  its parts.
* `Outlines.boundNames`, `Outlines.itemNames`: trees that agree declare the same names, but for the new ones.
-/

namespace MessageExtraction.Syntax

namespace Tree

/-! ## Declared names -/

/-- The names that a declaration declares around it. -/
def declarationNames : Tree → List String
  | .functionDeclaration _ name _ _ _ _ _ _ _ _ => name.boundNames
  | .classDeclaration _ name _ _ _ _ _ _ _ _ => name.boundNames
  | .variableDeclaration _ _ _ declarations => boundNamesOf declarations
  | .node .usingDeclaration _ [_, .list declarations] => boundNamesOf declarations
  | _ => []

/-- The name that an import binds. -/
def localNames : Tree → List String
  | .importSpecifier _ binding _ _ => binding.boundNames
  | .importDefaultSpecifier _ binding => binding.boundNames
  | .importNamespaceSpecifier _ binding => binding.boundNames
  | _ => []

/-- The name of a default export, if it has one. -/
def defaultNames : Tree → List String
  | .classExpression _ name _ _ _ _ _ _ _ => name.boundNames
  | .functionExpression _ name _ _ _ _ _ _ _ => name.boundNames
  | _ => []

/-- The names that an item declares for its module. -/
def itemNames : Tree → List String
  | .importDeclaration _ specifiers _ _ _ _ => specifiers.flatMap localNames
  | .node .tsImportEqualsDeclaration _ [_, _, name, _] => name.boundNames
  | .exportDeclaration _ declaration => declaration.declarationNames
  | .node .exportDefaultDeclaration _ [declaration] => declaration.defaultNames
  | item => item.declarationNames

/-- The names that a module declares. -/
def moduleNames : Tree → List String
  | .sourceModule _ items _ => items.flatMap itemNames
  | _ => []

/-! ## Outlines -/

/-- The kinds of nodes that declarations are not looked for in. -/
def hides : Kind → Bool
  | .callExpression | .jsxOpeningElement | .objectExpression | .exportSpecifier | .sourceModule => true
  | _ => false

mutual
/-- Whether two trees agree in what declarations are made of, with new names for old ones. -/
inductive Outlines (rename : String → String) : Tree → Tree → Prop
  | absent : Outlines rename .absent .absent
  | flag (b : Bool) : Outlines rename (.flag b) (.flag b)
  | text (s : String) : Outlines rename (.text s) (.text s)
  | number (n : Int) : Outlines rename (.number n) (.number n)
  | list {items items' : List Tree} (listed : OutlinesAll rename items items') :
      Outlines rename (.list items) (.list items')
  | identifier {span : Option Span} {name : String} {o o' d d' : Tree} :
      Outlines rename (.identifier span name o d) (.identifier span (rename name) o' d')
  | node {kind : Kind} {span : Option Span} {fields fields' : List Tree}
      (unnamed : (Tree.node kind span fields).identifier? = none)
      (parts : hides kind = false → OutlinesAll rename fields fields') :
      Outlines rename (.node kind span fields) (.node kind span fields')

/-- Whether the trees of two lists agree so, one by one. -/
inductive OutlinesAll (rename : String → String) : List Tree → List Tree → Prop
  | nil : OutlinesAll rename [] []
  | cons {t u : Tree} {ts us : List Tree} (head : Outlines rename t u)
      (tail : OutlinesAll rename ts us) : OutlinesAll rename (t :: ts) (u :: us)
end

variable {rename : String → String} {t u : Tree} {ts us : List Tree}

/-- A tree without parts agrees with itself. -/
theorem outlines_of_leaf {f : String → String} {t : Tree}
    (node : ∀ kind span fields, t = .node kind span fields → False)
    (list : ∀ items, t = .list items → False) : Outlines f t t := by
  cases t with
  | absent => exact .absent
  | flag b => exact .flag b
  | text s => exact .text s
  | number n => exact .number n
  | list items => exact (list items rfl).elim
  | node kind span fields => exact (node kind span fields rfl).elim

/-- Where trees that agree have the same names, lists of such trees have. -/
theorem OutlinesAll.flatMap {names : Tree → List String}
    (each : ∀ t ∈ ts, ∀ u, Outlines rename t u → names u = (names t).map rename)
    (h : OutlinesAll rename ts us) : us.flatMap names = (ts.flatMap names).map rename := by
  induction ts generalizing us with
  | nil =>
    cases h
    rfl
  | cons t ts ih =>
    obtain _ | ⟨head, tail⟩ := h
    rw [List.flatMap_cons, List.flatMap_cons, List.map_append, each t List.mem_cons_self _ head,
      ih (fun t mem => each t (List.mem_cons_of_mem _ mem)) tail]

theorem boundNamesOf_eq_flatMap (ts : List Tree) : boundNamesOf ts = ts.flatMap boundNames := by
  induction ts with
  | nil => rfl
  | cons t ts ih => rw [boundNamesOf, ih, List.flatMap_cons]

/-- What agrees with a tree that is no identifier is none. -/
theorem Outlines.identifier?_eq_none (h : Outlines rename t u) (unnamed : t.identifier? = none) :
    u.identifier? = none := by
  rw [Option.eq_none_iff_forall_ne_some]
  intro ⟨name, span⟩ eq
  obtain ⟨o, d, rfl⟩ := identifier?_eq_some_iff.mp eq
  cases h with
  | identifier => cases unnamed
  | node _ parts =>
    obtain _ | ⟨⟨⟩, _ | ⟨_, _ | ⟨_, _ | _⟩⟩⟩ := parts rfl
    cases unnamed

/-! ## Places -/

/-- Whether a tree is a text. -/
def isText : Tree → Bool
  | .text _ => true
  | _ => false

/-- Where a node holds a part: how many fields it has, which one the part is, or the list that the parts are
in, and which one is a text, if one has to be. -/
structure Place where
  count : Nat
  index : Nat
  listed : Bool := false
  text? : Option Nat := none

/-- Whether a node with those fields has the part. -/
def Place.fits (place : Place) (fields : List Tree) : Bool :=
  fields.length = place.count && place.text?.all fun index => fields[index]?.any isText

/-- Where the nodes of some kinds hold parts. These are nodes that declarations are looked for in. -/
structure Places where
  place? : Kind → Option Span → Option Place
  visible : ∀ {kind span place}, place? kind span = some place →
      hides kind = false ∧ kind ≠ .identifier := by
    intro kind span place looked
    split at looked <;> first | exact ⟨rfl, by decide⟩ | cases looked

/-- The parts at a place. -/
def Place.parts (place : Place) (fields : List Tree) : List Tree :=
  if place.fits fields then
    match fields[place.index]? with
    | some part => if place.listed then part.items else [part]
    | none => []
  else []

/-- The parts that a node holds. -/
def partsAt (places : Places) : Tree → List Tree
  | .node kind span fields =>
      match places.place? kind span with
      | some place => place.parts fields
      | none => []
  | _ => []

theorem OutlinesAll.length_eq (h : OutlinesAll rename ts us) : us.length = ts.length := by
  induction ts generalizing us with
  | nil =>
    cases h
    rfl
  | cons t ts ih =>
    obtain _ | ⟨-, tail⟩ := h
    rw [List.length_cons, List.length_cons, ih tail]

theorem OutlinesAll.getElem? (h : OutlinesAll rename ts us) (index : Nat) :
    (∃ p q, ts[index]? = some p ∧ us[index]? = some q ∧ Outlines rename p q)
      ∨ ts[index]? = none ∧ us[index]? = none := by
  induction ts generalizing us index with
  | nil =>
    cases h
    exact .inr ⟨rfl, rfl⟩
  | cons t ts ih =>
    obtain _ | ⟨head, tail⟩ := h
    cases index with
    | zero => exact .inl ⟨_, _, rfl, rfl, head⟩
    | succ index => exact ih tail index

theorem Outlines.items (h : Outlines rename t u) : OutlinesAll rename t.items u.items := by
  cases h with
  | list listed => exact listed
  | _ => exact .nil

theorem OutlinesAll.fits (h : OutlinesAll rename ts us) (place : Place) : place.fits us = place.fits ts := by
  have text (index : Nat) : us[index]?.any isText = ts[index]?.any isText := by
    rcases h.getElem? index with ⟨p, q, held, held', agree⟩ | ⟨held, held'⟩
    · rw [held, held']
      cases agree <;> rfl
    · rw [held, held']
  simp only [Place.fits, h.length_eq, text]

theorem OutlinesAll.parts (h : OutlinesAll rename ts us) (place : Place) :
    OutlinesAll rename (place.parts ts) (place.parts us) := by
  rw [Place.parts, Place.parts, h.fits]
  split
  · rcases h.getElem? place.index with ⟨p, q, held, held', agree⟩ | ⟨held, held'⟩
    · rw [held, held']
      dsimp only
      split
      · exact agree.items
      · exact .cons agree .nil
    · rw [held, held']
      exact .nil
  · exact .nil

/-- Trees that agree hold parts that agree. -/
theorem Outlines.partsAt (places : Places) (h : Outlines rename t u) :
    OutlinesAll rename (t.partsAt places) (u.partsAt places) := by
  cases h with
  | @node kind span fields fields' unnamed parts =>
    rw [Tree.partsAt, Tree.partsAt]
    cases held : places.place? kind span with
    | none => exact .nil
    | some place => exact (parts (places.visible held).1).parts place
  | @identifier span =>
    rw [Tree.partsAt, Tree.partsAt]
    cases held : places.place? .identifier span with
    | none => exact .nil
    | some place => exact absurd rfl (places.visible held).2
  | _ => exact .nil

/-- What holds a part is a node with the fields for it. -/
theorem exists_of_mem_partsAt {places : Places} (h : u ∈ t.partsAt places) :
    ∃ kind span fields place, t = .node kind span fields ∧ places.place? kind span = some place
      ∧ fields.length = place.count ∧ u ∈ place.parts fields := by
  cases t with
  | node kind span fields =>
    rw [partsAt] at h
    split at h
    · rename_i place looked
      refine ⟨kind, span, fields, place, rfl, looked, ?_, h⟩
      by_contra other
      rw [Place.parts, Place.fits, decide_eq_false other] at h
      cases h
    · cases h
  | _ => cases h

theorem sizeOf_partsAt {places : Places} (h : u ∈ t.partsAt places) : sizeOf u < sizeOf t := by
  obtain ⟨kind, span, fields, place, rfl, -, -, held⟩ := exists_of_mem_partsAt h
  rw [Place.parts] at held
  split at held
  · split at held
    · rename_i part found
      have field : sizeOf part < sizeOf (node kind span fields) :=
        sizeOf_field (List.mem_of_getElem? found)
      split at held
      · cases part with
        | list items => exact Nat.lt_trans (sizeOf_item held) field
        | _ => cases held
      · exact List.mem_singleton.mp held ▸ field
    · cases held
  · cases held

/-! ## Bound names -/

/-- Where nodes hold the patterns whose names they bind. -/
def patternPlaces : Places where
  place?
    | .arrayPattern, _ => some { count := 3, index := 0, listed := true }
    | .objectPattern, _ => some { count := 3, index := 0, listed := true }
    | .keyValuePatternProperty, none => some { count := 2, index := 1 }
    | .assignmentPatternProperty, _ => some { count := 2, index := 0 }
    | .assignmentPattern, _ => some { count := 2, index := 0 }
    | .restElement, _ => some { count := 3, index := 1 }
    | .parameter, _ => some { count := 2, index := 1 }
    | .tsParameterProperty, _ => some { count := 5, index := 4 }
    | .variableDeclarator, _ => some { count := 3, index := 0 }
    | _, _ => none

theorem boundNames_eq_partsAt (unnamed : t.identifier? = none) :
    t.boundNames = (t.partsAt patternPlaces).flatMap boundNames := by
  rw [boundNames.eq_def]
  split
  · cases unnamed
  iterate 2 · exact boundNamesOf_eq_flatMap _
  iterate 7 · exact (List.append_nil _).symm
  -- What has none of the shapes that bind holds no patterns either.
  rename_i _ array object keyValue shorthand defaulted rest parameter property declarator
  refine (List.flatMap_eq_nil_iff.mpr fun part mem => ?_).symm
  obtain ⟨kind, span, fields, place, rfl, looked, count, held⟩ := exists_of_mem_partsAt mem
  dsimp only [patternPlaces] at looked
  split at looked <;> cases looked
  · obtain ⟨elements, _, _, rfl⟩ := List.length_eq_three.mp count
    cases elements with
    | list => exact absurd rfl (array _ _ _ _)
    | _ => cases held
  · obtain ⟨properties, _, _, rfl⟩ := List.length_eq_three.mp count
    cases properties with
    | list => exact absurd rfl (object _ _ _ _)
    | _ => cases held
  · obtain ⟨_, _, rfl⟩ := List.length_eq_two.mp count
    exact absurd rfl (keyValue _ _)
  · obtain ⟨_, _, rfl⟩ := List.length_eq_two.mp count
    exact absurd rfl (shorthand _ _ _)
  · obtain ⟨_, _, rfl⟩ := List.length_eq_two.mp count
    exact absurd rfl (defaulted _ _ _)
  · obtain ⟨_, _, _, rfl⟩ := List.length_eq_three.mp count
    exact absurd rfl (rest _ _ _ _)
  · obtain ⟨_, _, rfl⟩ := List.length_eq_two.mp count
    exact absurd rfl (parameter _ _ _)
  · obtain ⟨_, _, rfl, four⟩ := List.length_eq_succ_iff.mp count
    obtain ⟨_, _, _, _, rfl⟩ := List.length_eq_four.mp four
    exact absurd rfl (property _ _ _ _ _ _)
  · obtain ⟨_, _, _, rfl⟩ := List.length_eq_three.mp count
    exact absurd rfl (declarator _ _ _ _)

theorem Outlines.boundNames (h : Outlines rename t u) : u.boundNames = t.boundNames.map rename := by
  induction t using Tree.induction_on_size generalizing u with | step t ih =>
  by_cases unnamed : t.identifier? = none
  · rw [boundNames_eq_partsAt unnamed, boundNames_eq_partsAt (h.identifier?_eq_none unnamed)]
    exact (h.partsAt patternPlaces).flatMap fun p mem _ agree => ih p (sizeOf_partsAt mem) agree
  · obtain ⟨i, eq⟩ := Option.ne_none_iff_exists'.mp unnamed
    obtain ⟨o, d, rfl⟩ := identifier?_eq_some_iff.mp eq
    cases h with
    | identifier => rfl
    | node unnamed => cases unnamed

/-! ## Names of declarations -/

/-- Where declarations hold what binds the names that they declare. -/
def declarationPlaces : Places where
  place?
    | .functionDeclaration, _ => some { count := 9, index := 0 }
    | .classDeclaration, _ => some { count := 9, index := 0 }
    | .variableDeclaration, _ => some { count := 3, index := 2, listed := true, text? := some 0 }
    | .usingDeclaration, _ => some { count := 2, index := 1, listed := true }
    | _, _ => none

theorem declarationNames_eq_partsAt (t : Tree) :
    t.declarationNames = (t.partsAt declarationPlaces).flatMap Tree.boundNames := by
  rw [declarationNames.eq_def]
  split
  iterate 2 · exact (List.append_nil _).symm
  iterate 2 · exact boundNamesOf_eq_flatMap _
  rename_i function «class» declared using'
  refine (List.flatMap_eq_nil_iff.mpr fun part mem => ?_).symm
  obtain ⟨kind, span, fields, place, rfl, looked, count, held⟩ := exists_of_mem_partsAt mem
  dsimp only [declarationPlaces] at looked
  split at looked <;> cases looked
  · match fields, count with
    | [_, _, _, _, _, _, _, _, _], _ => exact absurd rfl (function _ _ _ _ _ _ _ _ _ _)
  · match fields, count with
    | [_, _, _, _, _, _, _, _, _], _ => exact absurd rfl («class» _ _ _ _ _ _ _ _ _ _)
  · obtain ⟨kind, _, declarators, rfl⟩ := List.length_eq_three.mp count
    cases kind with
    | text =>
      cases declarators with
      | list => exact absurd rfl (declared _ _ _ _)
      | _ => cases held
    | _ => cases held
  · obtain ⟨_, declarators, rfl⟩ := List.length_eq_two.mp count
    cases declarators with
    | list => exact absurd rfl (using' _ _ _)
    | _ => cases held

theorem Outlines.declarationNames (h : Outlines rename t u) :
    u.declarationNames = t.declarationNames.map rename := by
  rw [declarationNames_eq_partsAt, declarationNames_eq_partsAt]
  exact (h.partsAt declarationPlaces).flatMap fun _ _ _ agree => agree.boundNames

/-! ## Names of items -/

/-- Where specifiers hold the names that they bind. -/
def specifierPlaces : Places where
  place?
    | .importSpecifier, _ => some { count := 3, index := 0 }
    | .importDefaultSpecifier, _ => some { count := 1, index := 0 }
    | .importNamespaceSpecifier, _ => some { count := 1, index := 0 }
    | _, _ => none

theorem localNames_eq_partsAt (t : Tree) :
    t.localNames = (t.partsAt specifierPlaces).flatMap Tree.boundNames := by
  rw [localNames.eq_def]
  split
  iterate 3 · exact (List.append_nil _).symm
  rename_i named default whole
  refine (List.flatMap_eq_nil_iff.mpr fun part mem => ?_).symm
  obtain ⟨kind, span, fields, place, rfl, looked, count, held⟩ := exists_of_mem_partsAt mem
  dsimp only [specifierPlaces] at looked
  split at looked <;> cases looked
  · obtain ⟨_, _, _, rfl⟩ := List.length_eq_three.mp count
    exact absurd rfl (named _ _ _ _)
  · obtain ⟨_, rfl⟩ := List.length_eq_one_iff.mp count
    exact absurd rfl (default _ _)
  · obtain ⟨_, rfl⟩ := List.length_eq_one_iff.mp count
    exact absurd rfl (whole _ _)

theorem Outlines.localNames (h : Outlines rename t u) : u.localNames = t.localNames.map rename := by
  rw [localNames_eq_partsAt, localNames_eq_partsAt]
  exact (h.partsAt specifierPlaces).flatMap fun _ _ _ agree => agree.boundNames

/-- Where what is exported by default holds its name. -/
def defaultPlaces : Places where
  place?
    | .classExpression, _ => some { count := 8, index := 0 }
    | .functionExpression, _ => some { count := 8, index := 0 }
    | _, _ => none

theorem defaultNames_eq_partsAt (t : Tree) :
    t.defaultNames = (t.partsAt defaultPlaces).flatMap Tree.boundNames := by
  rw [defaultNames.eq_def]
  split
  iterate 2 · exact (List.append_nil _).symm
  rename_i «class» function
  refine (List.flatMap_eq_nil_iff.mpr fun part mem => ?_).symm
  obtain ⟨kind, span, fields, place, rfl, looked, count, held⟩ := exists_of_mem_partsAt mem
  dsimp only [defaultPlaces] at looked
  split at looked <;> cases looked
  · match fields, count with
    | [_, _, _, _, _, _, _, _], _ => exact absurd rfl («class» _ _ _ _ _ _ _ _ _)
  · match fields, count with
    | [_, _, _, _, _, _, _, _], _ => exact absurd rfl (function _ _ _ _ _ _ _ _ _)

theorem Outlines.defaultNames (h : Outlines rename t u) : u.defaultNames = t.defaultNames.map rename := by
  rw [defaultNames_eq_partsAt, defaultNames_eq_partsAt]
  exact (h.partsAt defaultPlaces).flatMap fun _ _ _ agree => agree.boundNames

theorem Outlines.itemNames (h : Outlines rename t u) : u.itemNames = t.itemNames.map rename := by
  rw [Tree.itemNames.eq_def t]
  split
  · cases h with | node _ parts =>
    obtain _ | ⟨list, _ | ⟨_, _ | ⟨_, _ | ⟨_, _ | ⟨_, _ | _⟩⟩⟩⟩⟩ := parts rfl
    cases list with | list items =>
    exact items.flatMap fun _ _ _ h => h.localNames
  · cases h with | node _ parts =>
    obtain _ | ⟨_, _ | ⟨_, _ | ⟨name, _ | ⟨_, _ | _⟩⟩⟩⟩ := parts rfl
    exact name.boundNames
  · cases h with | node _ parts =>
    obtain _ | ⟨declaration, _ | _⟩ := parts rfl
    exact declaration.declarationNames
  · cases h with | node _ parts =>
    obtain _ | ⟨declaration, _ | _⟩ := parts rfl
    exact declaration.defaultNames
  · rename_i «import» alias' «export» «default»
    rw [Tree.itemNames.eq_def u]
    split
    · cases h with | node _ parts =>
      obtain _ | ⟨⟨⟩, _ | ⟨_, _ | ⟨_, _ | ⟨_, _ | ⟨_, _ | _⟩⟩⟩⟩⟩ := parts rfl
      exact absurd rfl («import» _ _ _ _ _ _)
    · cases h with | node _ parts =>
      obtain _ | ⟨_, _ | ⟨_, _ | ⟨_, _ | ⟨_, _ | _⟩⟩⟩⟩ := parts rfl
      exact absurd rfl (alias' _ _ _ _ _)
    · cases h with | node _ parts =>
      obtain _ | ⟨_, _ | _⟩ := parts rfl
      exact absurd rfl («export» _ _)
    · cases h with | node _ parts =>
      obtain _ | ⟨_, _ | _⟩ := parts rfl
      exact absurd rfl («default» _ _)
    · exact h.declarationNames

end Tree

end MessageExtraction.Syntax
