import MessageExtraction.Proofs.Extraction.Items

/-!
# What a walk makes of a tree

A walk carries a session from call to call, but what it makes of a tree depends on the session only in
whether it has failed and in the kind of the component around the tree. `Pass.transformed` is the tree that
is made while nothing fails, said without a session.

* `walk_transformed`: a walk that meets no fault makes that tree, and keeps the kind of the component.
* `walkItems_transformed`: so every item of a module is transformed as its own component says.
-/

namespace MessageExtraction

open Syntax (Tree Span Identifier)

namespace Pass

mutual
/-- What becomes of a tree in an item of a module with a component of that kind, while nothing fails. -/
def transformed (pass : Pass) (component : Option ComponentKind) : Tree → Tree
  | .callExpression span callee args types =>
      match pass.helperCall? span callee args with
      | none =>
          .callExpression span (pass.transformed component callee) (pass.transformedAll component args)
            (pass.transformed component types)
      | some call =>
          match call.kind with
          | .bulk =>
              .callExpression span (pass.transformed component callee)
                (pass.transformedArguments component call.replacement? args)
                (pass.transformed component types)
          | .single =>
              .callExpression span (HelperCall.bound (pass.transformed component callee))
                (pass.transformedAll component args
                  ++ call.missingArguments component pass.config.propsIdentifier)
                (pass.transformed component types)
  | .jsxOpeningElement span name attributes selfClosing types =>
      .jsxOpeningElement span (pass.transformed component name)
        (pass.transformedAll component attributes ++ pass.addedAttributes name attributes) selfClosing
        (pass.transformed component types)
  | .node kind span fields => .node kind span (pass.transformedAll component fields)
  | .list items => .list (pass.transformedAll component items)
  | t => t

/-- What becomes of several trees. -/
def transformedAll (pass : Pass) (component : Option ComponentKind) : List Tree → List Tree
  | [] => []
  | t :: ts => pass.transformed component t :: pass.transformedAll component ts

/-- What becomes of the arguments of a call for many messages, the first of which may be replaced. -/
def transformedArguments (pass : Pass) (component : Option ComponentKind) (replacement : Option Tree) :
    List Tree → List Tree
  | [] => []
  | t :: ts =>
      match replacement with
      | some e => .element none e :: pass.transformedAll component ts
      | none => pass.transformed component t :: pass.transformedAll component ts
end

variable {pass : Pass} {component : Option ComponentKind}

theorem transformedAll_eq_map (ts : List Tree) :
    pass.transformedAll component ts = ts.map (pass.transformed component) := by
  induction ts with
  | nil => rfl
  | cons t ts ih => rw [transformedAll, ih, List.map_cons]

end Pass

/-! ## The kind of the component -/

namespace Session

theorem record_component (file : SourceFile) (session : Session) (finding : Finding) :
    (session.record file finding).component = session.component := by
  rw [record]
  split
  · rfl
  split
  · rfl
  · rfl
  · split <;> rfl

theorem not_failed_of_recordAll {file : SourceFile} {session : Session} {findings : List Finding}
    (ok : (session.recordAll file findings).failed = false) : session.failed = false :=
  ((Gathers.recordAll session findings).held ok).1

theorem recordAll_component (file : SourceFile) (session : Session) (findings : List Finding) :
    (session.recordAll file findings).component = session.component := by
  induction findings generalizing session with
  | nil => rfl
  | cons finding findings ih => exact (ih _).trans (record_component file session finding)

end Session

namespace Pass

/-! ## The walk transforms -/

/-- What came of a walk that began with a session is `value`, if it met no fault, and the kind of the
component was kept. -/
def Makes {α : Type} (s : Session) (walked : α × Session) (value : Option ComponentKind → α) : Prop :=
  walked.2.failed = false →
    s.failed = false ∧ walked.1 = value s.component ∧ walked.2.component = s.component

namespace Makes

variable {α β γ : Type} {s : Session} {walked : α × Session} {value : Option ComponentKind → α}

theorem refl (s : Session) (x : α) : Makes s (x, s) fun _ => x := fun ok => ⟨ok, rfl, rfl⟩

theorem of_failed (failed : walked.2.failed = true) : Makes s walked value :=
  fun ok => absurd failed (by simp [ok])

theorem map (f : α → β) (h : Makes s walked value) :
    Makes s (f walked.1, walked.2) fun component => f (value component) := by
  intro ok
  obtain ⟨started, made, kept⟩ := h ok
  exact ⟨started, congrArg f made, kept⟩

/-- What is built from two walks, one after the other, may depend on the kind of the component. -/
theorem andThen {walked' : β × Session} {value' : Option ComponentKind → β} (h : Makes s walked value)
    (f : Option ComponentKind → α → β → γ) (h' : Makes walked.2 walked' value') :
    Makes s (f walked'.2.component walked.1 walked'.1, walked'.2)
      fun component => f component (value component) (value' component) := by
  intro ok
  obtain ⟨started, made', kept'⟩ := h' ok
  obtain ⟨started, made, kept⟩ := h started
  rw [kept] at made' kept'
  exact ⟨started, by rw [made, made', kept'], kept'⟩

/-- So may what is built from three. -/
theorem andThen₃ {δ : Type} {walked' : β × Session} {walked'' : γ × Session}
    {value' : Option ComponentKind → β} {value'' : Option ComponentKind → γ} (h : Makes s walked value)
    (h' : Makes walked.2 walked' value') (h'' : Makes walked'.2 walked'' value'')
    (f : Option ComponentKind → α → β → γ → δ) :
    Makes s (f walked''.2.component walked.1 walked'.1 walked''.1, walked''.2)
      fun component => f component (value component) (value' component) (value'' component) :=
  (h.andThen (fun _ => Prod.mk) h').andThen (fun component parts => f component parts.1 parts.2) h''

theorem recordAll {file : SourceFile} {findings : List Finding}
    (h : Makes (s.recordAll file findings) walked value) : Makes s walked value := by
  intro ok
  obtain ⟨started, made, kept⟩ := h ok
  rw [Session.recordAll_component] at made kept
  exact ⟨Session.not_failed_of_recordAll started, made, kept⟩

end Makes

variable {pass : Pass}

mutual
/-- What a walk makes of a tree while nothing fails. -/
theorem walk_transformed : (t : Tree) → (s : Session) → t.IsFlat →
    Makes s (pass.walk s t) fun component => pass.transformed component t
  | t, s, flat => by
    rw [walk.eq_def]
    split
    · rename_i span callee args types
      obtain ⟨flatCallee, flatArgs, flatTypes⟩ := flat.call
      split
      · rename_i failed
        exact .of_failed failed
      split
      · rename_i other
        simp only [transformed, other]
        exact (walk_transformed callee s flatCallee).andThen₃ (walkAll_transformed args _ flatArgs)
          (walk_transformed types _ flatTypes) fun _ => Tree.callExpression span
      rename_i call marks
      dsimp only
      split
      · rename_i kind
        simp only [transformed, marks, kind]
        exact ((walk_transformed callee _ flatCallee).andThen₃
          (walkArguments_transformed args _ call.replacement? flatArgs)
          (walk_transformed types _ flatTypes) fun _ => Tree.callExpression span).recordAll
      · rename_i kind
        split
        · rename_i failed
          exact .of_failed failed
        simp only [transformed, marks, kind]
        exact ((walk_transformed callee _ flatCallee).andThen₃ (walkAll_transformed args _ flatArgs)
          (walk_transformed types _ flatTypes) fun component callee args =>
            Tree.callExpression span (HelperCall.bound callee)
              (args ++ call.missingArguments component pass.config.propsIdentifier)).recordAll.recordAll
    · rename_i span name attributes closing types
      obtain ⟨flatName, flatAttributes, flatTypes⟩ := flat.tag
      split
      · rename_i failed
        exact .of_failed failed
      simp only [transformed]
      exact ((walk_transformed name _ flatName).andThen₃ (walkAll_transformed attributes _ flatAttributes)
        (walk_transformed types _ flatTypes) fun _ name' attributes' =>
          Tree.jsxOpeningElement span name' (attributes' ++ pass.addedAttributes name attributes)
            closing).recordAll
    · exact absurd rfl (Syntax.Tree.isFlat_node.mp flat).1
    · rename_i kind span fields call tag _
      simp only [transformed.eq_3 _ _ _ _ _ call tag]
      exact (walkAll_transformed fields s (Syntax.Tree.isFlat_node.mp flat).2).map
        (Syntax.Tree.node kind span)
    · rename_i items
      simp only [transformed]
      exact (walkAll_transformed items s flat).map Syntax.Tree.list
    · rename_i call tag module node list
      simp only [transformed.eq_5 _ _ t call tag node list]
      exact .refl s t
termination_by t => sizeOf t

theorem walkAll_transformed : (ts : List Tree) → (s : Session) → Syntax.Tree.AreFlat ts →
    Makes s (pass.walkAll s ts) fun component => pass.transformedAll component ts
  | [], s, _ => .refl s []
  | t :: ts, s, flat => by
    rw [Syntax.Tree.areFlat_cons] at flat
    exact (walk_transformed t s flat.1).andThen (fun _ => List.cons)
      (walkAll_transformed ts _ flat.2)
termination_by ts => sizeOf ts

theorem walkArguments_transformed : (ts : List Tree) → (s : Session) → (replacement : Option Tree) →
    Syntax.Tree.AreFlat ts →
      Makes s (pass.walkArguments s replacement ts)
        fun component => pass.transformedArguments component replacement ts
  | [], s, _, _ => .refl s []
  | t :: ts, s, none, flat => by
    rw [Syntax.Tree.areFlat_cons] at flat
    exact (walk_transformed t s flat.1).andThen (fun _ => List.cons)
      (walkAll_transformed ts _ flat.2)
  | _ :: ts, s, some e, flat => by
    rw [Syntax.Tree.areFlat_cons] at flat
    exact (walkAll_transformed ts s flat.2).map (List.cons (.element none e))
termination_by ts => sizeOf ts
end

/-- A walk over the items of a module transforms each of them as its own component says. -/
theorem walkItems_transformed {items : List Tree} {s : Session} (flat : Syntax.Tree.AreFlat items)
    (ok : (pass.walkItems s items).2.failed = false) :
    (pass.walkItems s items).1.map Prod.fst
      = items.map fun item =>
          pass.transformed ((Component.ofItem? pass.config item).map Component.kind) item := by
  induction items generalizing s with
  | nil => rfl
  | cons item items ih =>
    obtain ⟨walked, eq⟩ := walkItems_cons ok
    rw [Syntax.Tree.areFlat_cons] at flat
    rw [eq] at ok ⊢
    exact congrArg₂ List.cons (walk_transformed item _ flat.1 walked).2.1 (ih flat.2 ok)

end Pass

end MessageExtraction
