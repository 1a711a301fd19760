import MessageExtraction.Extraction.Result

/-!
# Extraction without rewriting

The walk over a module changes calls and tags while it gathers their messages. Here is what it gathers,
without any change: `Pass.survey` lists what is found in a tree as it stands in the source, and `Pass.gather`
takes the findings in, up to the first fault.

* `walk_gathers`: a walk gathers what the survey of the same tree lists, from any session on.
* `walk_of_failed`: once there was a fault, it leaves all as it is.
* `extractFile_eq_gather`: the outcome of a file is that of its survey, and so does not depend on how
  components are recognized and wrapped.

All this is for configurations in which `bind` is not among the marking functions: else the call that binds
a marking function could be one itself.
-/

namespace MessageExtraction

open Syntax (Tree Span Identifier)

/-! ## The survey of a tree -/

namespace Pass

/-- What a call of a marking function holds; other calls hold nothing. -/
def callFindings (pass : Pass) (span : Option Span) (callee : Tree) (args : List Tree) :
    List Finding :=
  match pass.helperCall? span callee args with
  | some call => call.findings pass
  | none => []

/-- Whether a call is one for many messages in array form. -/
def isArrayForm (pass : Pass) (span : Option Span) (callee : Tree) (args : List Tree) : Bool :=
  match pass.helperCall? span callee args with
  | some ⟨.bulk, name, span, args⟩ => (HelperCall.mk .bulk name span args).replacement?.isSome
  | some ⟨.single, _, _, _⟩ | none => false

mutual
/-- What is found in a tree, at a node before the nodes below it. The first argument of a call in array
form is not looked into. -/
def survey (pass : Pass) : Tree → List Finding
  | .callExpression span callee args typeArguments =>
      pass.callFindings span callee args ++ pass.survey callee
        ++ pass.surveyArguments (pass.isArrayForm span callee args) args ++ pass.survey typeArguments
  | .jsxOpeningElement span name attributes _ typeArguments =>
      pass.tagFindings span name attributes ++ pass.survey name ++ pass.surveyAll attributes
        ++ pass.survey typeArguments
  | .sourceModule _ items _ => pass.surveyAll items
  | .node _ _ fields => pass.surveyAll fields
  | .list items => pass.surveyAll items
  | _ => []

/-- What is found in several trees, one after the other. -/
def surveyAll (pass : Pass) : List Tree → List Finding
  | [] => []
  | t :: ts => pass.survey t ++ pass.surveyAll ts

/-- What is found in arguments, the first of which may be a leaf. -/
def surveyArguments (pass : Pass) (isLeaf : Bool) : List Tree → List Finding
  | [] => []
  | t :: ts => (if isLeaf then [] else pass.survey t) ++ pass.surveyAll ts
end

end Pass

/-! ## Taking findings in -/

/-- The messages and warnings of a file so far. -/
structure Gathered where
  registry : Registry := {}
  warnings : List Warning := []
deriving DecidableEq, Repr

/-- Takes one finding in, unless it is a fault or its message is rejected. -/
def Gathered.take (file : SourceFile) (gathered : Gathered) (finding : Finding) :
    Except Fault Gathered :=
  match finding.event with
  | .warning text =>
      .ok { gathered with warnings := gathered.warnings ++ [⟨file.locate finding.span, text⟩] }
  | .fault cause => .error ⟨cause, file.locate finding.span⟩
  | .message d policy =>
      match gathered.registry.register policy d with
      | .ok registry => .ok { gathered with registry }
      | .error rejection => .error ⟨.rejected rejection, file.locate finding.span⟩

/-- What a tree holds: the findings of its survey in their order, up to the first fault. -/
def Pass.gather (pass : Pass) (tree : Tree) : Except Fault Gathered :=
  (pass.survey tree).foldlM (Gathered.take pass.file) {}

/-- What a session has gathered, or the fault that stopped it. -/
def Session.gathered (session : Session) : Except Fault Gathered :=
  match session.fault with
  | some fault => .error fault
  | none => .ok ⟨session.registry, session.warnings⟩

namespace Session

/-- Between two sessions of a file these findings were taken in, and no others. -/
def Gathers (file : SourceFile) (before after : Session) (findings : List Finding) : Prop :=
  after.gathered = before.gathered >>= fun gathered => findings.foldlM (Gathered.take file) gathered

namespace Gathers

variable {file : SourceFile} {s s' s'' : Session} {xs ys : List Finding}

theorem of_eq (h : s'.gathered = s.gathered) : Gathers file s s' [] := by
  rw [Gathers, h]
  cases s.gathered <;> rfl

theorem trans (h : Gathers file s s' xs) (h' : Gathers file s' s'' ys) :
    Gathers file s s'' (xs ++ ys) := by
  rw [Gathers, h', h]
  simp [bind_assoc]

/-- A session that has failed takes nothing in. -/
theorem of_failed (h : s.failed = true) (xs : List Finding) : Gathers file s s xs := by
  rw [failed, Option.isSome_iff_exists] at h
  obtain ⟨fault, h⟩ := h
  rw [Gathers, gathered, h]
  rfl

theorem record (s : Session) (finding : Finding) :
    Gathers file s (s.record file finding) [finding] := by
  cases h : s.fault with
  | some fault =>
    have failed : s.failed = true := by simp [failed, h]
    rw [Session.record, if_pos failed]
    exact of_failed failed _
  | none =>
    rw [Gathers, Session.record, if_neg (by simp [failed, h]), gathered, gathered, h]
    cases e : finding.event with
    | warning text => simp [Gathered.take, e, bind, Except.bind, pure, Except.pure]
    | fault cause => simp [Gathered.take, e, bind, Except.bind]
    | message d policy =>
      cases r : s.registry.register policy d <;>
        simp [r, Gathered.take, e, bind, Except.bind, pure, Except.pure]

theorem recordAll (s : Session) (findings : List Finding) :
    Gathers file s (s.recordAll file findings) findings := by
  induction findings generalizing s with
  | nil => exact of_eq rfl
  | cons finding findings ih => exact (record s finding).trans (ih _)

end Gathers

theorem plan_gathered (session : Session) (component : Option Component) :
    (session.plan component).2.gathered = session.gathered := by
  cases component with
  | none => rfl
  | some component => rw [plan]; split <;> rfl

end Session

namespace Pass

variable {pass : Pass}

theorem finishItems_gathered (session : Session) (items : List (Tree × Option String)) :
    (pass.finishItems session items).2.gathered = session.gathered := by
  rw [finishItems]
  split
  · rfl
  · rw [wrapAll]; split <;> rfl

end Pass

open Session (Gathers)

/-! ## The walk gathers what the survey lists -/

namespace Pass

variable {pass : Pass}

theorem surveyArguments_false (ts : List Tree) :
    pass.surveyArguments false ts = pass.surveyAll ts := by
  cases ts with
  | nil => rfl
  | cons t ts => rfl

mutual
theorem walk_gathers (binds : ∀ callee, pass.bindFindings callee = []) :
    (s : Session) → (t : Tree) → Gathers pass.file s (pass.walk s t).2 (pass.survey t)
  | s, t => by
    rw [walk.eq_def]
    split
    · rename_i span callee args typeArguments
      rw [survey, callFindings, isArrayForm, List.append_assoc, List.append_assoc]
      split
      · exact .of_failed ‹_› _
      split
      · rename_i eq
        rw [eq, surveyArguments_false]
        exact (walk_gathers binds s callee).trans
          ((walkAll_gathers binds _ args).trans (walk_gathers binds _ typeArguments))
      · rename_i call eq
        rw [eq]
        have found : Gathers pass.file s _ (call.findings pass) := .recordAll s _
        obtain ⟨kind, name, span, written⟩ := call
        cases kind with
        | bulk =>
          exact found.trans ((walk_gathers binds _ callee).trans
            ((walkArguments_gathers binds _ _ args).trans (walk_gathers binds _ typeArguments)))
        | single =>
          dsimp only
          rw [surveyArguments_false]
          split
          · exact found.trans (.of_failed ‹_› _)
          · rw [binds callee]
            exact found.trans ((walk_gathers binds _ callee).trans
              ((walkAll_gathers binds _ args).trans (walk_gathers binds _ typeArguments)))
    · rename_i span name attributes selfClosing typeArguments
      rw [survey, List.append_assoc, List.append_assoc]
      split
      · exact .of_failed ‹_› _
      · exact (Gathers.recordAll s _).trans ((walk_gathers binds _ name).trans
          ((walkAll_gathers binds _ attributes).trans (walk_gathers binds _ typeArguments)))
    · rename_i span items interpreter
      rw [survey]
      split
      · exact .of_failed ‹_› _
      · have finished := @finishItems_gathered pass (pass.walkItems s items).2
          (pass.walkItems s items).1
        simpa using (walkItems_gathers binds s items).trans (.of_eq finished)
    · rename_i kind span fields call tag module
      rw [survey.eq_4 pass kind span fields call tag module]
      exact walkAll_gathers binds s fields
    · rename_i items
      exact walkAll_gathers binds s items
    · rename_i h₁ h₂ h₃ h₄ h₅
      rw [survey.eq_6 pass t h₁ h₂ h₃ h₄ h₅]
      exact .of_eq rfl
termination_by _ t => sizeOf t

theorem walkAll_gathers (binds : ∀ callee, pass.bindFindings callee = []) :
    (s : Session) → (ts : List Tree) → Gathers pass.file s (pass.walkAll s ts).2 (pass.surveyAll ts)
  | s, [] => .of_eq rfl
  | s, t :: ts => (walk_gathers binds s t).trans (walkAll_gathers binds _ ts)
termination_by _ ts => sizeOf ts

theorem walkArguments_gathers (binds : ∀ callee, pass.bindFindings callee = []) :
    (s : Session) → (replacement : Option Tree) → (ts : List Tree) →
      Gathers pass.file s (pass.walkArguments s replacement ts).2
        (pass.surveyArguments replacement.isSome ts)
  | _, _, [] => .of_eq rfl
  | s, none, t :: ts => (walk_gathers binds s t).trans (walkAll_gathers binds _ ts)
  | _, some _, _ :: ts => walkAll_gathers binds _ ts
termination_by _ _ ts => sizeOf ts

theorem walkItems_gathers (binds : ∀ callee, pass.bindFindings callee = []) :
    (s : Session) → (ts : List Tree) → Gathers pass.file s (pass.walkItems s ts).2 (pass.surveyAll ts)
  | s, [] => .of_eq rfl
  | s, t :: ts => by
    rw [walkItems]
    have walked : Gathers pass.file s
        (pass.walk { s with component := (Component.ofItem? pass.config t).map Component.kind } t).2
        (pass.survey t) :=
      Gathers.trans (.of_eq rfl) (walk_gathers binds _ t)
    generalize pass.walk { s with component := _ } t = w at walked ⊢
    obtain ⟨item, s₁⟩ := w
    have left : Gathers pass.file s { s₁ with component := none } (pass.survey t) := walked
    dsimp only
    split
    · exact left.trans (.of_failed ‹_› _)
    · generalize planned : Session.plan { s₁ with component := none } _ = p
      have same : p.2.gathered = s₁.gathered := by
        rw [← planned, Session.plan_gathered]
        rfl
      exact left.trans (Gathers.trans (.of_eq same) (walkItems_gathers binds p.2 ts))
termination_by _ ts => sizeOf ts
end

/-! ## What a file ends in -/

/-- The call that binds a function is no call of a marking function, unless `bind` is named among
them. -/
theorem helperCall?_bindMember (translate : "bind" ∉ pass.config.translateFunctions)
    (define : "bind" ∉ pass.config.defineMessagesFunctions) (span : Option Span) (callee : Tree)
    (args : List Tree) : pass.helperCall? span (HelperCall.bindMember callee) args = none := by
  have notHelper {names : List String} (h : "bind" ∉ names) {reference : Reference}
      (e : Reference.ofCallee? (HelperCall.bindMember callee) = some reference) :
      pass.isHelper names reference = false := by
    rw [HelperCall.bindMember, Reference.ofCallee?.eq_def] at e
    split at e
    · rename_i e'
      cases e'
    · rename_i e'
      cases e'
      cases e
      simp [isHelper, Reference.isImported, Imports.referencesMember, h]
    · contradiction
  rw [helperCall?]
  cases e : Reference.ofCallee? (HelperCall.bindMember callee) with
  | none => rfl
  | some reference => simp [notHelper translate e, notHelper define e]

theorem bindFindings_eq_nil (translate : "bind" ∉ pass.config.translateFunctions)
    (define : "bind" ∉ pass.config.defineMessagesFunctions) (callee : Tree) :
    pass.bindFindings callee = [] := by
  rw [bindFindings, helperCall?_bindMember translate define]

theorem extract_gathered (translate : "bind" ∉ pass.config.translateFunctions)
    (define : "bind" ∉ pass.config.defineMessagesFunctions) (tree : Tree) :
    (pass.extract tree).2.gathered = pass.gather tree :=
  walk_gathers (bindFindings_eq_nil translate define) {} tree

/-! ### Behind a fault -/

mutual
/-- Once there was a fault, a walk leaves all as it is. -/
theorem walk_of_failed : (s : Session) → (t : Tree) → s.failed = true → pass.walk s t = (t, s)
  | s, t, h => by
    rw [walk.eq_def]
    split
    · rw [if_pos h]
    · rw [if_pos h]
    · rw [if_pos h]
    · rw [walkAll_of_failed s _ h]
    · rw [walkAll_of_failed s _ h]
    · rfl
termination_by _ t => sizeOf t

theorem walkAll_of_failed :
    (s : Session) → (ts : List Tree) → s.failed = true → pass.walkAll s ts = (ts, s)
  | s, [], _ => rfl
  | s, t :: ts, h => by
    rw [walkAll, walk_of_failed s t h]
    dsimp only
    rw [walkAll_of_failed s ts h]
termination_by _ ts => sizeOf ts
end

end Pass

/-- What a file ends in, by what its source holds: its first fault, or its messages and warnings with the
catalog written. -/
def Gathered.finish (gathered : Except Fault Gathered) (config : Config) (fs : FileSystem)
    (source root : Path) : FileSystem × Except Stop FileResult :=
  match gathered with
  | .error fault => (fs, .error (.fault fault))
  | .ok gathered =>
      match Catalog.emit fs config.messagesDir source root gathered.registry.entries with
      | (fs, .error failure) => (fs, .error (.failure failure))
      | (fs, .ok catalog) => (fs, .ok ⟨gathered.registry.entries, gathered.warnings, catalog⟩)

theorem Session.finish_eq (session : Session) (config : Config) (fs : FileSystem)
    (source root : Path) :
    session.finish config fs source root
      = Gathered.finish session.gathered config fs source root := by
  rw [finish, gathered]
  cases session.fault <;> rfl

/-! ### What it does not depend on -/

/-- The settings of a configuration that say how components are recognized and wrapped. -/
structure ComponentSettings where
  wrapperFunction : String
  wrapperModule : String
  baseComponentNames : List String
  excludedBaseClass : String
  propsIdentifier : String

/-- A configuration with other settings for components. -/
def Config.withComponents (config : Config) (settings : ComponentSettings) : Config :=
  { config with
    wrapperFunction := settings.wrapperFunction
    wrapperModule := settings.wrapperModule
    baseComponentNames := settings.baseComponentNames
    excludedBaseClass := settings.excludedBaseClass
    propsIdentifier := settings.propsIdentifier }

namespace Pass

/-- A pass with other settings for components. -/
def withComponents (pass : Pass) (settings : ComponentSettings) : Pass :=
  { pass with config := pass.config.withComponents settings }

variable {pass : Pass} {settings : ComponentSettings}

mutual
theorem survey_withComponents :
    (t : Tree) → (pass.withComponents settings).survey t = pass.survey t
  | t => by
    rw [survey.eq_def, survey.eq_def]
    split
    · rename_i callee args typeArguments
      rw [survey_withComponents callee, survey_withComponents typeArguments,
        surveyArguments_withComponents]
      rfl
    · rename_i name attributes _ typeArguments
      rw [survey_withComponents name, survey_withComponents typeArguments,
        surveyAll_withComponents attributes]
      rfl
    · exact surveyAll_withComponents _
    · exact surveyAll_withComponents _
    · exact surveyAll_withComponents _
    · rfl
termination_by t => sizeOf t

theorem surveyAll_withComponents :
    (ts : List Tree) → (pass.withComponents settings).surveyAll ts = pass.surveyAll ts
  | [] => rfl
  | t :: ts => by
    rw [surveyAll, surveyAll, survey_withComponents t, surveyAll_withComponents ts]
termination_by ts => sizeOf ts

theorem surveyArguments_withComponents (isLeaf : Bool) : (ts : List Tree) →
    (pass.withComponents settings).surveyArguments isLeaf ts = pass.surveyArguments isLeaf ts
  | [] => rfl
  | t :: ts => by
    rw [surveyArguments, surveyArguments, survey_withComponents t, surveyAll_withComponents ts]
termination_by ts => sizeOf ts
end

end Pass

theorem gather_withComponents (config : Config) (settings : ComponentSettings) (file : SourceFile)
    (tree : Tree) :
    (Pass.ofModule (config.withComponents settings) file tree).gather tree
      = (Pass.ofModule config file tree).gather tree := by
  have same : (Pass.ofModule (config.withComponents settings) file tree).survey tree
      = (Pass.ofModule config file tree).survey tree :=
    @Pass.survey_withComponents (Pass.ofModule config file tree) settings tree
  rw [Pass.gather, Pass.gather, same]
  rfl

theorem extractFile_gathered (config : Config) (fs : FileSystem) (root : Path) (file : SourceFile)
    (tree : Tree) (translate : "bind" ∉ config.translateFunctions)
    (define : "bind" ∉ config.defineMessagesFunctions) :
    (extractFile config fs root file tree).2
      = Gathered.finish ((Pass.ofModule config file tree).gather tree) config fs ⟨file.path⟩ root := by
  rw [← Pass.extract_gathered translate define, ← Session.finish_eq]
  rfl

/-- The outcome of a file is that of its survey, and the same with any other settings for components. -/
theorem extractFile_eq_gather (config : Config) (fs : FileSystem) (root : Path) (file : SourceFile)
    (tree : Tree) (translate : "bind" ∉ config.translateFunctions)
    (define : "bind" ∉ config.defineMessagesFunctions) :
    (extractFile config fs root file tree).2
        = Gathered.finish ((Pass.ofModule config file tree).gather tree) config fs ⟨file.path⟩ root
      ∧ ∀ settings, (extractFile (config.withComponents settings) fs root file tree).2
          = (extractFile config fs root file tree).2 := by
  refine ⟨extractFile_gathered config fs root file tree translate define, fun settings => ?_⟩
  rw [extractFile_gathered (config.withComponents settings) fs root file tree translate define,
    extractFile_gathered config fs root file tree translate define, gather_withComponents]
  rfl

/-- A module that imports a marking function and calls it. -/
def translatingModule : Tree :=
  .sourceModule (some ⟨1, 61⟩)
    [.importDeclaration (some ⟨1, 40⟩)
        [.importSpecifier (some ⟨10, 19⟩) (.identifier (some ⟨10, 19⟩) "translate" .absent .absent)
          .absent (.flag false)]
        (.stringLiteral (some ⟨27, 39⟩) (.text "react-intl") .absent) (.flag false) .absent
        (.text "evaluation"),
      .expressionStatement (some ⟨41, 61⟩)
        (.callExpression (some ⟨41, 60⟩)
          (.identifier (some ⟨41, 50⟩) "translate" .absent .absent)
          [.element none (.stringLiteral (some ⟨51, 59⟩) (.text "hello") .absent)] .absent)]
    .absent

/-- The message of a module that calls a marking function, without a directory for catalogs. -/
theorem extractFile_translatingModule :
    "bind" ∉ ({} : Config).translateFunctions ∧ "bind" ∉ ({} : Config).defineMessagesFunctions
      ∧ (extractFile {} default ⟨"."⟩ ⟨"a.js", ""⟩ translatingModule).2
        = (default, .ok ⟨[⟨"hello", none, none⟩], [], none⟩) := by
  refine ⟨by decide, by decide, ?_⟩
  rw [(extractFile_eq_gather {} default ⟨"."⟩ ⟨"a.js", ""⟩ translatingModule (by decide)
    (by decide)).1]
  rfl

end MessageExtraction
