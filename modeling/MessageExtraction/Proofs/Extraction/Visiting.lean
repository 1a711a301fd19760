import MessageExtraction.Proofs.Extraction.Transformed

/-!
# Visiting what was changed

A visit of a module changes a call or a tag when it comes to it, and goes on into the nodes below the changed
one: into the call that binds a function, and into the arguments and attributes that were added. A walk goes
on into the nodes that were there before, and adds the new ones behind. There is nothing to find in these, so
both come to the same.

* `Visits`: the rules of a visit, one for each kind of node.
* `walk_call`, `walk_tag`: a walk looks as if it went into the changed node.
* `visits_iff`: a visit and a walk end in the same tree and the same session.
-/

namespace MessageExtraction

open Syntax (Tree Span Kind)
open Syntax.Tree (IsInert AreInert IsThrough)

/-! ## The rules of a visit -/

namespace Pass

/-- Whether a call that a visit comes to is changed to a call of a function with arguments, and the session
to another one. -/
inductive ChangesTo (pass : Pass) (s : Session) (span : Option Span) (callee : Tree)
    (args : List Tree) : Tree → List Tree → Session → Prop
  | other (found : pass.helperCall? span callee args = none) :
      ChangesTo pass s span callee args callee args s
  | bulk {call : HelperCall} (found : pass.helperCall? span callee args = some call)
      (kind : call.kind = .bulk) :
      ChangesTo pass s span callee args callee
        (args.modifyHead fun t => (call.replacement?.map (.element none)).getD t)
        (s.recordAll pass.file (call.findings pass))
  | faulty {call : HelperCall} (found : pass.helperCall? span callee args = some call)
      (kind : call.kind = .single)
      (failed : (s.recordAll pass.file (call.findings pass)).failed = true) :
      ChangesTo pass s span callee args callee args (s.recordAll pass.file (call.findings pass))
  | single {call : HelperCall} (found : pass.helperCall? span callee args = some call)
      (kind : call.kind = .single)
      (going : (s.recordAll pass.file (call.findings pass)).failed = false) :
      ChangesTo pass s span callee args (HelperCall.bound callee)
        (args ++ call.missingArguments s.component pass.config.propsIdentifier)
        (s.recordAll pass.file (call.findings pass))

mutual
/-- Whether a visit of a tree that begins in a session ends in a tree and a session. -/
inductive Visits (pass : Pass) : Session → Tree → Tree → Session → Prop
  | absent {s : Session} : Visits pass s .absent .absent s
  | flag {s : Session} {b : Bool} : Visits pass s (.flag b) (.flag b) s
  | text {s : Session} {text : String} : Visits pass s (.text text) (.text text) s
  | number {s : Session} {n : Int} : Visits pass s (.number n) (.number n) s
  | list {s s' : Session} {items items' : List Tree} (each : VisitsAll pass s items items' s') :
      Visits pass s (.list items) (.list items') s'
  | node {s s' : Session} {kind : Kind} {span : Option Span} {fields fields' : List Tree}
      (through : IsThrough kind fields) (each : VisitsAll pass s fields fields' s') :
      Visits pass s (.node kind span fields) (.node kind span fields') s'
  | failedCall {s : Session} {span : Option Span} {callee types : Tree} {args : List Tree}
      (failed : s.failed = true) :
      Visits pass s (.callExpression span callee args types) (.callExpression span callee args types) s
  | call {s s₀ s₁ s₂ s₃ : Session} {span : Option Span} {callee callee₀ callee' types types' : Tree}
      {args args₀ args' : List Tree} (going : s.failed = false)
      (changed : ChangesTo pass s span callee args callee₀ args₀ s₀)
      (function : Visits pass s₀ callee₀ callee' s₁) (given : VisitsAll pass s₁ args₀ args' s₂)
      (behind : Visits pass s₂ types types' s₃) :
      Visits pass s (.callExpression span callee args types)
        (.callExpression span callee' args' types') s₃
  | failedTag {s : Session} {span : Option Span} {name closing types : Tree}
      {attributes : List Tree} (failed : s.failed = true) :
      Visits pass s (.jsxOpeningElement span name attributes closing types)
        (.jsxOpeningElement span name attributes closing types) s
  | tag {s s₁ s₂ s₃ : Session} {span : Option Span} {name name' closing types types' : Tree}
      {attributes attributes' : List Tree} (going : s.failed = false)
      (tagName : Visits pass (s.recordAll pass.file (pass.tagFindings span name attributes))
        name name' s₁)
      (given : VisitsAll pass s₁ (attributes ++ pass.addedAttributes name attributes) attributes' s₂)
      (behind : Visits pass s₂ types types' s₃) :
      Visits pass s (.jsxOpeningElement span name attributes closing types)
        (.jsxOpeningElement span name' attributes' closing types') s₃
  | failedModule {s : Session} {span : Option Span} {items : List Tree} {interpreter : Tree}
      (failed : s.failed = true) :
      Visits pass s (.sourceModule span items interpreter) (.sourceModule span items interpreter) s
  | sourceModule {s s₁ s' : Session} {span : Option Span} {items items' : List Tree}
      {pairs : List (Tree × Option String)} {interpreter : Tree} (going : s.failed = false)
      (each : VisitsItems pass s items pairs s₁)
      (finished : pass.finishItems s₁ pairs = (items', s')) :
      Visits pass s (.sourceModule span items interpreter) (.sourceModule span items' interpreter) s'

/-- Whether visits of several trees, one after the other, end so. -/
inductive VisitsAll (pass : Pass) : Session → List Tree → List Tree → Session → Prop
  | nil {s : Session} : VisitsAll pass s [] [] s
  | cons {s s' s'' : Session} {t t' : Tree} {ts ts' : List Tree} (head : Visits pass s t t' s')
      (tail : VisitsAll pass s' ts ts' s'') : VisitsAll pass s (t :: ts) (t' :: ts') s''

/-- Whether a visit of the items of a module ends so, each item paired with the name of the component in it
that is to be wrapped. -/
inductive VisitsItems (pass : Pass) :
    Session → List Tree → List (Tree × Option String) → Session → Prop
  | nil {s : Session} : VisitsItems pass s [] [] s
  | stopped {s s' : Session} {item item' : Tree} {items : List Tree}
      (head : Visits pass
        { s with component := (Component.ofItem? pass.config item).map Component.kind } item item' s')
      (failed : s'.failed = true) :
      VisitsItems pass s (item :: items) ((item', none) :: items.map (·, none))
        { s' with component := none }
  | cons {s s' s₁ s'' : Session} {item item' : Tree} {items : List Tree} {name : Option String}
      {pairs : List (Tree × Option String)}
      (head : Visits pass
        { s with component := (Component.ofItem? pass.config item).map Component.kind } item item' s')
      (going : s'.failed = false)
      (planned : ({ s' with component := none } : Session).plan (Component.ofItem? pass.config item)
        = (name, s₁))
      (tail : VisitsItems pass s₁ items pairs s'') :
      VisitsItems pass s (item :: items) ((item', name) :: pairs) s''
end

variable {pass : Pass} {s s' s₀ : Session} {t t' : Tree} {span : Option Span}

/-! ## There is nothing to find in what is added -/

mutual
theorem visits_of_inert : (t : Tree) → t.IsInert → pass.Visits s t t s
  | .absent, _ => .absent
  | .flag _, _ => .flag
  | .text _, _ => .text
  | .number _, _ => .number
  | .list items, inert => .list (visitsAll_of_inert items inert)
  | .node _ _ fields, inert =>
    .node (Syntax.Tree.isThrough_of_isInert inert)
      (visitsAll_of_inert fields (Syntax.Tree.isInert_node.mp inert).2)

theorem visitsAll_of_inert : (ts : List Tree) → AreInert ts → pass.VisitsAll s ts ts s
  | [], _ => .nil
  | t :: ts, inert =>
    .cons (visits_of_inert t (Syntax.Tree.areInert_cons.mp inert).1)
      (visitsAll_of_inert ts (Syntax.Tree.areInert_cons.mp inert).2)
end

/-! ## The call that binds a function -/

theorem findings_of_bindArguments (pass : Pass) {call : HelperCall}
    (given : call.args = HelperCall.bindArguments) :
    ∃ cause place, call.findings pass = [⟨.fault cause, place⟩] := by
  obtain ⟨kind, name, span, args⟩ := call
  obtain rfl : args = HelperCall.bindArguments := given
  cases kind with
  | single => exact ⟨.notStatic "id", span, rfl⟩
  | bulk => exact ⟨.argumentShape name, span, rfl⟩

theorem replacement?_of_bindArguments {call : HelperCall}
    (given : call.args = HelperCall.bindArguments) : call.replacement? = none := by
  obtain ⟨kind, name, span, args⟩ := call
  obtain rfl : args = HelperCall.bindArguments := given
  rfl

theorem failed_record_fault (s : Session) (file : SourceFile) (cause : FaultCause) :
    (s.record file ⟨.fault cause, span⟩).failed = true := by
  rw [Session.record]
  split
  · assumption
  · rfl

theorem recordAll_of_failed {file : SourceFile} {findings : List Finding} (failed : s.failed = true) :
    s.recordAll file findings = s := by
  induction findings with
  | nil => rfl
  | cons finding findings ih =>
    have kept : s.record file finding = s := by rw [Session.record, if_pos failed]
    rw [Session.recordAll, List.foldl_cons, kept]
    exact ih

/-- If the binding is named among the marking functions, there is a fault at the call that binds. -/
theorem failed_of_bind {callee : Tree} {call : HelperCall}
    (found : pass.helperCall? span callee HelperCall.bindArguments = some call) :
    (s.recordAll pass.file (call.findings pass)).failed = true := by
  obtain ⟨cause, place, faulty⟩ := findings_of_bindArguments pass (args_of_helperCall? found)
  rw [faulty]
  exact failed_record_fault s pass.file cause

/-- A visit leaves the call that binds a function as it is, even if the binding is named among the marking
functions. -/
theorem changesTo_bound (s : Session) (callee : Tree) :
    pass.ChangesTo s (some .made) (HelperCall.bindMember callee) HelperCall.bindArguments
      (HelperCall.bindMember callee) HelperCall.bindArguments
      (s.recordAll pass.file (pass.bindFindings callee)) := by
  rw [bindFindings]
  cases found : pass.helperCall? (some .made) (HelperCall.bindMember callee)
      HelperCall.bindArguments with
  | none => exact .other found
  | some call =>
    cases kind : call.kind with
    | bulk =>
      have changed := ChangesTo.bulk (s := s) found kind
      rw [replacement?_of_bindArguments (args_of_helperCall? found)] at changed
      exact changed
    | single => exact .faulty found kind (failed_of_bind found)

/-! ## A walk goes as if into the changed node -/

/-- A walk over the parts of a call. -/
def walkCall (pass : Pass) (session : Session) (span : Option Span) (callee : Tree) (args : List Tree)
    (types : Tree) : Tree × Session :=
  let function := pass.walk session callee
  let given := pass.walkAll function.2 args
  let behind := pass.walk given.2 types
  (.callExpression span function.1 given.1 behind.1, behind.2)

/-- A walk over the parts of a tag. -/
def walkTag (pass : Pass) (session : Session) (span : Option Span) (name : Tree)
    (attributes : List Tree) (closing types : Tree) : Tree × Session :=
  let tagName := pass.walk session name
  let given := pass.walkAll tagName.2 attributes
  let behind := pass.walk given.2 types
  (.jsxOpeningElement span tagName.1 given.1 closing behind.1, behind.2)

theorem walkCall_of_failed {callee types : Tree} {args : List Tree} (failed : s.failed = true) :
    pass.walkCall s span callee args types = (.callExpression span callee args types, s) := by
  simp only [walkCall, walk_of_failed s _ failed, walkAll_of_failed s _ failed]

theorem walkAll_append (s : Session) (ts us : List Tree) :
    pass.walkAll s (ts ++ us)
      = ((pass.walkAll s ts).1 ++ (pass.walkAll (pass.walkAll s ts).2 us).1,
          (pass.walkAll (pass.walkAll s ts).2 us).2) := by
  induction ts generalizing s with
  | nil => rfl
  | cons t ts ih => simp only [List.cons_append, walkAll, ih]

/-- A walk over inert trees at the end adds them. -/
theorem walkAll_append_inert (s : Session) (ts : List Tree) {us : List Tree} (inert : AreInert us) :
    pass.walkAll s (ts ++ us) = ((pass.walkAll s ts).1 ++ us, (pass.walkAll s ts).2) := by
  rw [walkAll_append, walkAll_of_areInert _ us inert]

/-- A walk over arguments the first of which is replaced. -/
theorem walkAll_modifyHead (s : Session) {replacement : Option Tree}
    (inert : ∀ e, replacement = some e → e.IsInert) (args : List Tree) :
    pass.walkAll s (args.modifyHead fun t => (replacement.map (.element none)).getD t)
      = pass.walkArguments s replacement args := by
  cases args with
  | nil => rfl
  | cons t ts =>
    cases replacement with
    | none => rfl
    | some e =>
      have first : (Tree.element none e).IsInert := by simp [inert e rfl]
      rw [List.modifyHead_cons, walkAll, Option.map_some, Option.getD_some, walk_of_isInert _ _ first]
      rfl

theorem bound_ne (callee : Tree) : HelperCall.bound callee ≠ callee := by
  intro eq
  have sizes := congrArg sizeOf eq
  simp only [HelperCall.bound, HelperCall.bindMember, Tree.node.sizeOf_spec, List.cons.sizeOf_spec]
    at sizes
  omega

/-- A walk goes into a call whose function a visit leaves as it is. -/
theorem walk_call_of_kept {callee callee₀ types : Tree} {args args₀ : List Tree}
    (going : s.failed = false) (changed : pass.ChangesTo s span callee args callee₀ args₀ s₀)
    (kept : callee₀ = callee) :
    pass.walk s (.callExpression span callee args types)
      = pass.walkCall s₀ span callee₀ args₀ types := by
  rw [walk, if_neg (by simp [going])]
  cases changed with
  | other found =>
    rw [found]
    rfl
  | bulk found kind =>
    rw [found]
    dsimp only
    rw [kind, walkCall, walkAll_modifyHead _ fun _ => HelperCall.inert_replacement?]
  | faulty found kind failed =>
    rw [found]
    dsimp only
    rw [kind]
    dsimp only
    rw [if_pos failed, walkCall_of_failed failed]
  | single => exact absurd kept (bound_ne callee)

/-- A walk goes through the call that binds a function to the function. -/
theorem walk_bound (callee : Tree) :
    pass.walk s (HelperCall.bound callee)
      = (HelperCall.bound (pass.walk (s.recordAll pass.file (pass.bindFindings callee)) callee).1,
          (pass.walk (s.recordAll pass.file (pass.bindFindings callee)) callee).2) := by
  have given (s : Session) : pass.walkAll s HelperCall.bindArguments = (HelperCall.bindArguments, s) :=
    walkAll_of_areInert _ _ (by simp [HelperCall.bindArguments])
  cases failed : s.failed with
  | true => rw [walk_of_failed _ _ failed, recordAll_of_failed failed, walk_of_failed _ _ failed]
  | false =>
    rw [HelperCall.bound, walk_call_of_kept failed (changesTo_bound s callee) rfl, walkCall, given]
    simp only [HelperCall.bindMember, walk, walkAll]
    rfl

/-- Below the items of a module, a walk keeps the kind of the component around. -/
theorem walkCall_component (pass : Pass) (s : Session) {callee types : Tree} {args : List Tree}
    (flat : (Tree.callExpression span callee args types).IsFlat) :
    (pass.walkCall s span callee args types).2.component = s.component := by
  have left := Session.recordAll_component pass.file
  obtain ⟨flatCallee, flatArgs, flatTypes⟩ := flat.call
  rw [walkCall]
  dsimp only
  rw [walk_leaves left types flatTypes, walkAll_leaves left args flatArgs,
    walk_leaves left callee flatCallee]

/-- A walk of a call goes as if into the changed one. -/
theorem walk_call {callee callee₀ types : Tree} {args args₀ : List Tree} (going : s.failed = false)
    (flat : (Tree.callExpression span callee args types).IsFlat)
    (changed : pass.ChangesTo s span callee args callee₀ args₀ s₀) :
    pass.walk s (.callExpression span callee args types)
      = pass.walkCall s₀ span callee₀ args₀ types := by
  cases changed with
  | other found => exact walk_call_of_kept going (.other found) rfl
  | bulk found kind => exact walk_call_of_kept going (.bulk found kind) rfl
  | faulty found kind failed => exact walk_call_of_kept going (.faulty found kind failed) rfl
  | @single call found kind started =>
    -- The arguments are added behind the walk, when the session still is in the same component.
    have kept := walkCall_component pass
      ((s.recordAll pass.file (call.findings pass)).recordAll pass.file (pass.bindFindings callee)) flat
    rw [Session.recordAll_component, Session.recordAll_component] at kept
    dsimp only [walkCall] at kept
    rw [walk, if_neg (by simp [going]), found]
    dsimp only
    rw [kind]
    dsimp only
    rw [if_neg (by simp [started]), kept, walkCall, walk_bound]
    dsimp only
    rw [walkAll_append_inert _ _ (HelperCall.inert_missingArguments _ _ _)]

/-- A walk of a tag goes as if into the changed one. -/
theorem walk_tag {name closing types : Tree} {attributes : List Tree} (going : s.failed = false) :
    pass.walk s (.jsxOpeningElement span name attributes closing types)
      = pass.walkTag (s.recordAll pass.file (pass.tagFindings span name attributes)) span name
          (attributes ++ pass.addedAttributes name attributes) closing types := by
  rw [walk, if_neg (by simp [going]), walkTag,
    walkAll_append_inert _ _ (inert_addedAttributes pass name attributes)]

/-! ## The parts of a changed call -/

/-- What holds of the parts of a call, of inert trees and of functions that are bound holds of the parts of
the changed call. -/
theorem ChangesTo.forall_parts {P : Tree → Prop} {callee callee₀ : Tree} {args args₀ : List Tree}
    (changed : pass.ChangesTo s span callee args callee₀ args₀ s₀) (inert : ∀ t, t.IsInert → P t)
    (bound : ∀ t, P t → P (HelperCall.bound t)) (function : P callee) (given : ∀ t ∈ args, P t) :
    P callee₀ ∧ ∀ t ∈ args₀, P t := by
  cases changed with
  | other => exact ⟨function, given⟩
  | @bulk call =>
    refine ⟨function, ?_⟩
    cases args with
    | nil => exact given
    | cons t ts =>
      rw [List.forall_mem_cons] at given
      refine List.forall_mem_cons.mpr ⟨?_, given.2⟩
      cases replaced : call.replacement? with
      | none => exact given.1
      | some e => exact inert _ (by simp [call.inert_replacement? replaced])
  | faulty => exact ⟨function, given⟩
  | @single call =>
    refine ⟨bound callee function, List.forall_mem_append.mpr ⟨given, fun t mem => inert t ?_⟩⟩
    exact Tree.areInert_iff.mp (call.inert_missingArguments _ _) t mem

theorem isFlat_bound {callee : Tree} (flat : callee.IsFlat) : (HelperCall.bound callee).IsFlat := by
  simpa [HelperCall.bound, HelperCall.bindMember, HelperCall.bindArguments, Tree.IsFlat, Tree.nodes,
    Tree.nodesOf, Tree.kind?, or_imp, forall_and] using flat

/-- There is no module in a changed call if there was none. -/
theorem ChangesTo.flat {callee callee₀ : Tree} {args args₀ : List Tree}
    (changed : pass.ChangesTo s span callee args callee₀ args₀ s₀) (flat : callee.IsFlat)
    (flatArgs : Tree.AreFlat args) : callee₀.IsFlat ∧ Tree.AreFlat args₀ := by
  rw [Tree.areFlat_iff] at flatArgs ⊢
  exact changed.forall_parts (fun _ inert => inert.isFlat) (fun _ => isFlat_bound) flat flatArgs

theorem flat_added {name : Tree} {attributes : List Tree} (flat : Tree.AreFlat attributes) :
    Tree.AreFlat (attributes ++ pass.addedAttributes name attributes) := by
  rw [Tree.areFlat_iff, List.forall_mem_append, ← Tree.areFlat_iff, ← Tree.areFlat_iff]
  exact ⟨flat, (inert_addedAttributes pass name attributes).areFlat⟩

/-! ## A visit ends as a walk does -/

mutual
theorem walk_of_visits {s s' : Session} {t t' : Tree} : pass.Visits s t t' s' → t.IsFlat →
    pass.walk s t = (t', s')
  | .absent, _ | .flag, _ | .text, _ | .number, _ => rfl
  | .list each, flat => by
    rw [walk, walkAll_of_visits each flat]
  | .node through each, flat => by
    rw [walk_through through, walkAll_of_visits each (Tree.isFlat_node.mp flat).2]
  | .failedCall failed, _ => walk_of_failed _ _ failed
  | .call going changed function given behind, flat => by
    obtain ⟨flatCallee, flatArgs, flatTypes⟩ := flat.call
    obtain ⟨flatCallee', flatArgs'⟩ := changed.flat flatCallee flatArgs
    rw [walk_call going flat changed, walkCall, walk_of_visits function flatCallee']
    dsimp only
    rw [walkAll_of_visits given flatArgs']
    dsimp only
    rw [walk_of_visits behind flatTypes]
  | .failedTag failed, _ => walk_of_failed _ _ failed
  | .tag going tagName given behind, flat => by
    obtain ⟨flatName, flatAttributes, flatTypes⟩ := flat.tag
    rw [walk_tag going, walkTag, walk_of_visits tagName flatName]
    dsimp only
    rw [walkAll_of_visits given (flat_added flatAttributes)]
    dsimp only
    rw [walk_of_visits behind flatTypes]
  | .failedModule failed, _ => walk_of_failed _ _ failed
  | .sourceModule _ _ _, flat => absurd rfl (Tree.isFlat_node.mp flat).1

theorem walkAll_of_visits {s s' : Session} {ts ts' : List Tree} : pass.VisitsAll s ts ts' s' →
    Tree.AreFlat ts → pass.walkAll s ts = (ts', s')
  | .nil, _ => rfl
  | .cons head tail, flat => by
    obtain ⟨flatHead, flatTail⟩ := Tree.areFlat_cons.mp flat
    rw [walkAll, walk_of_visits head flatHead]
    dsimp only
    rw [walkAll_of_visits tail flatTail]
end

theorem walkItems_of_visits {s s' : Session} {items : List Tree}
    {pairs : List (Tree × Option String)} (visits : pass.VisitsItems s items pairs s')
    (flat : Tree.AreFlat items) : pass.walkItems s items = (pairs, s') := by
  induction items generalizing s pairs with
  | nil =>
    cases visits
    rfl
  | cons item items ih =>
    obtain ⟨flatHead, flatTail⟩ := Tree.areFlat_cons.mp flat
    cases visits with
    | stopped head failed =>
      rw [walkItems, walk_of_visits head flatHead]
      exact if_pos failed
    | cons head going planned tail =>
      rw [walkItems, walk_of_visits head flatHead]
      dsimp only
      rw [if_neg (by simpa [Session.failed] using going), planned]
      dsimp only
      rw [ih tail flatTail]

/-! ## A walk is a visit -/

/-- Whether a walk of a tree is a visit, from any session on. -/
def IsVisited (pass : Pass) (t : Tree) : Prop :=
  ∀ s, pass.Visits s t (pass.walk s t).1 (pass.walk s t).2

theorem visitsAll_of_each {ts : List Tree} (each : ∀ t ∈ ts, pass.IsVisited t) (s : Session) :
    pass.VisitsAll s ts (pass.walkAll s ts).1 (pass.walkAll s ts).2 := by
  induction ts generalizing s with
  | nil => exact .nil
  | cons t ts ih =>
    rw [List.forall_mem_cons] at each
    exact .cons (each.1 s) (ih each.2 _)

theorem isVisited_of_isInert (t : Tree) (inert : t.IsInert) : pass.IsVisited t := by
  intro s
  rw [walk_of_isInert _ t inert]
  exact visits_of_inert t inert

/-- A walk over the parts of a changed call is a visit of the call. -/
theorem visits_of_changesTo {callee callee₀ types : Tree} {args args₀ : List Tree}
    (going : s.failed = false) (changed : pass.ChangesTo s span callee args callee₀ args₀ s₀)
    (function : pass.IsVisited callee₀) (given : ∀ t ∈ args₀, pass.IsVisited t)
    (behind : pass.IsVisited types) :
    pass.Visits s (.callExpression span callee args types)
      (pass.walkCall s₀ span callee₀ args₀ types).1 (pass.walkCall s₀ span callee₀ args₀ types).2 :=
  .call going changed (function s₀) (visitsAll_of_each given _) (behind _)

theorem isVisited_node {kind : Kind} {fields : List Tree} (through : IsThrough kind fields)
    (each : ∀ t ∈ fields, pass.IsVisited t) : pass.IsVisited (.node kind span fields) := by
  intro s
  rw [walk_through through]
  exact .node through (visitsAll_of_each each s)

theorem isVisited_bound {callee : Tree} (function : pass.IsVisited callee) :
    pass.IsVisited (HelperCall.bound callee) := by
  intro s
  cases failed : s.failed with
  | true =>
    rw [walk_of_failed _ _ failed]
    exact .failedCall failed
  | false =>
    have name : pass.IsVisited (.identifierName (some .made) "bind") :=
      isVisited_of_isInert _ (by simp)
    have member : pass.IsVisited (HelperCall.bindMember callee) :=
      isVisited_node ⟨nofun, nofun, nofun⟩ (by simp [function, name])
    have given : ∀ t ∈ HelperCall.bindArguments, pass.IsVisited t := by
      rw [HelperCall.bindArguments, List.forall_mem_singleton]
      exact isVisited_of_isInert _ (by simp)
    rw [HelperCall.bound, walk_call_of_kept failed (changesTo_bound s callee) rfl]
    exact visits_of_changesTo failed (changesTo_bound s callee) member given
      (isVisited_of_isInert _ (by simp))

theorem exists_changesTo (pass : Pass) (s : Session) (span : Option Span) (callee : Tree)
    (args : List Tree) :
    ∃ callee₀ args₀ s₀, pass.ChangesTo s span callee args callee₀ args₀ s₀ := by
  cases found : pass.helperCall? span callee args with
  | none => exact ⟨_, _, _, .other found⟩
  | some call =>
    cases kind : call.kind with
    | bulk => exact ⟨_, _, _, .bulk found kind⟩
    | single =>
      cases failed : (s.recordAll pass.file (call.findings pass)).failed with
      | true => exact ⟨_, _, _, .faulty found kind failed⟩
      | false => exact ⟨_, _, _, .single found kind failed⟩

theorem isVisited_call {callee types : Tree} {args : List Tree}
    (flat : (Tree.callExpression span callee args types).IsFlat) (function : pass.IsVisited callee)
    (given : ∀ t ∈ args, pass.IsVisited t) (behind : pass.IsVisited types) :
    pass.IsVisited (.callExpression span callee args types) := by
  intro s
  cases failed : s.failed with
  | true =>
    rw [walk_of_failed _ _ failed]
    exact .failedCall failed
  | false =>
    obtain ⟨callee₀, args₀, s₀, changed⟩ := exists_changesTo pass s span callee args
    obtain ⟨function', given'⟩ := changed.forall_parts isVisited_of_isInert (fun _ => isVisited_bound)
      function given
    rw [walk_call failed flat changed]
    exact visits_of_changesTo failed changed function' given' behind

theorem isVisited_tag {name closing types : Tree} {attributes : List Tree}
    (tagName : pass.IsVisited name) (given : ∀ t ∈ attributes, pass.IsVisited t)
    (behind : pass.IsVisited types) :
    pass.IsVisited (.jsxOpeningElement span name attributes closing types) := by
  intro s
  cases failed : s.failed with
  | true =>
    rw [walk_of_failed _ _ failed]
    exact .failedTag failed
  | false =>
    have added (t) (mem : t ∈ pass.addedAttributes name attributes) : pass.IsVisited t :=
      isVisited_of_isInert t (Tree.areInert_iff.mp (inert_addedAttributes pass name attributes) t mem)
    rw [walk_tag failed]
    exact .tag failed (tagName _) (visitsAll_of_each (List.forall_mem_append.mpr ⟨given, added⟩) _)
      (behind _)

/-- Every node is a call, a tag or a module, or a walk goes through it. -/
theorem node_cases (kind : Kind) (span : Option Span) (fields : List Tree) :
    (∃ callee args types,
        Syntax.Tree.node kind span fields = .callExpression span callee args types)
      ∨ (∃ name attributes closing types,
        Syntax.Tree.node kind span fields = .jsxOpeningElement span name attributes closing types)
      ∨ (∃ items interpreter,
        Syntax.Tree.node kind span fields = .sourceModule span items interpreter)
      ∨ IsThrough kind fields := by
  by_contra none
  rw [not_or, not_or, not_or] at none
  obtain ⟨call, tag, module, through⟩ := none
  refine through ⟨?_, ?_, ?_⟩
  · rintro callee args types rfl rfl
    exact call ⟨callee, args, types, rfl⟩
  · rintro name attributes closing types rfl rfl
    exact tag ⟨name, attributes, closing, types, rfl⟩
  · rintro items interpreter rfl rfl
    exact module ⟨items, interpreter, rfl⟩

theorem isVisited_of_isFlat (pass : Pass) (t : Tree) (flat : t.IsFlat) : pass.IsVisited t := by
  induction t using Tree.induction_on_size with | step t ih =>
  cases t with
  | list items =>
    intro s
    have each := Tree.areFlat_iff.mp flat
    rw [walk]
    exact .list (visitsAll_of_each (fun t mem => ih t (Tree.sizeOf_item mem) (each t mem)) s)
  | node kind span fields =>
    rcases node_cases kind span fields with ⟨callee, args, types, eq⟩ | ⟨name, attributes, closing, types, eq⟩
      | ⟨items, interpreter, eq⟩ | through
    · rw [eq] at ih flat ⊢
      obtain ⟨flatCallee, flatArgs, flatTypes⟩ := flat.call
      exact isVisited_call flat (ih callee (Tree.sizeOf_field (by simp)) flatCallee)
        (fun t mem => ih t (Tree.sizeOf_listed mem (by simp)) (Tree.areFlat_iff.mp flatArgs t mem))
        (ih types (Tree.sizeOf_field (by simp)) flatTypes)
    · rw [eq] at ih flat ⊢
      obtain ⟨flatName, flatAttributes, flatTypes⟩ := flat.tag
      exact isVisited_tag (ih name (Tree.sizeOf_field (by simp)) flatName)
        (fun t mem => ih t (Tree.sizeOf_listed mem (by simp)) (Tree.areFlat_iff.mp flatAttributes t mem))
        (ih types (Tree.sizeOf_field (by simp)) flatTypes)
    · rw [eq] at flat
      exact absurd rfl (Tree.isFlat_node.mp flat).1
    · exact isVisited_node through fun t mem => ih t (Tree.sizeOf_field mem)
        (Tree.areFlat_iff.mp (Tree.isFlat_node.mp flat).2 t mem)
  | _ => exact isVisited_of_isInert _ (by simp)

theorem visitsItems_walkItems (items : List Tree) (s : Session) (flat : Tree.AreFlat items) :
    pass.VisitsItems s items (pass.walkItems s items).1 (pass.walkItems s items).2 := by
  induction items generalizing s with
  | nil => exact .nil
  | cons item items ih =>
    obtain ⟨flatHead, flatTail⟩ := Tree.areFlat_cons.mp flat
    have head := isVisited_of_isFlat pass item flatHead
      { s with component := (Component.ofItem? pass.config item).map Component.kind }
    rw [walkItems]
    dsimp only
    split
    · rename_i failed
      exact .stopped head failed
    · rename_i going
      exact .cons head (Bool.eq_false_iff.mpr going) rfl (ih _ flatTail)

/-! ## The same -/

/-- A visit ends in a tree and a session if and only if a walk does. -/
theorem visits_iff (flat : t.IsFlat) : pass.Visits s t t' s' ↔ pass.walk s t = (t', s') := by
  constructor
  · exact fun h => walk_of_visits h flat
  · intro walked
    have visited := isVisited_of_isFlat pass t flat s
    rwa [walked] at visited

/-- So it is for a module, in which the components are wrapped in the end. -/
theorem visits_module_iff {items : List Tree} {interpreter : Tree} (flat : Tree.AreFlat items) :
    pass.Visits s (.sourceModule span items interpreter) t' s'
      ↔ pass.walk s (.sourceModule span items interpreter) = (t', s') := by
  constructor
  · intro visited
    cases visited with
    | node through => exact (through.module items interpreter rfl rfl).elim
    | failedModule failed => exact walk_of_failed _ _ failed
    | sourceModule going each finished =>
      rw [walk, if_neg (by simp [going]), walkItems_of_visits each flat]
      dsimp only
      rw [finished]
  · intro walked
    cases failed : s.failed with
    | true =>
      rw [walk_of_failed _ _ failed] at walked
      obtain ⟨rfl, rfl⟩ := walked
      exact .failedModule failed
    | false =>
      rw [walk, if_neg (by simp [failed])] at walked
      obtain ⟨rfl, rfl⟩ := walked
      exact .sourceModule failed (visitsItems_walkItems items s flat) rfl

end Pass

end MessageExtraction
