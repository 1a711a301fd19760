import MessageExtraction.Extraction.Result

/-!
# What a walk keeps

While it goes over a tree, a walk takes in what is found at calls of marking functions, at the calls that
bind them, and at tags. Besides that it notes components only. So a property of what has been gathered holds
behind a walk if it holds before and if taking in such findings keeps it.

* `walk_keeps`: what taking in findings keeps, a walk keeps.
* `Reports.recordAll`: a session reports where the findings that it takes in are.
* `extract_reports`: all that an extraction reports is in its file.
-/

namespace MessageExtraction

open Syntax (Tree Span)

namespace Pass

/-- A property of what a session has gathered that is kept by taking in what is found at a node. -/
structure Keeps (pass : Pass) (P : Session → Prop) : Prop where
  call : ∀ {s : Session} {call : HelperCall}, P s → P (s.recordAll pass.file (call.findings pass))
  tag : ∀ {s : Session} {span : Option Span} {name : Tree} {attributes : List Tree}, P s →
    P (s.recordAll pass.file (pass.tagFindings span name attributes))
  gathered : ∀ {s s' : Session}, P s → s'.registry = s.registry → s'.warnings = s.warnings →
    s'.fault = s.fault → P s'

variable {pass : Pass} {P : Session → Prop}

/-- The call that binds a function is a call of a marking function, or nothing is found at it. -/
theorem Keeps.bind (keeps : pass.Keeps P) {s : Session} (callee : Tree) (h : P s) :
    P (s.recordAll pass.file (pass.bindFindings callee)) := by
  unfold bindFindings
  split
  · exact keeps.call h
  · exact h

theorem Keeps.plan (keeps : pass.Keeps P) {s : Session} (component : Option Component) (h : P s) :
    P (s.plan component).2 := by
  cases component with
  | none => exact h
  | some component =>
    unfold Session.plan
    dsimp only
    split
    · exact h
    · exact keeps.gathered h rfl rfl rfl

theorem Keeps.finishItems (keeps : pass.Keeps P) {s : Session} (items : List (Tree × Option String))
    (h : P s) : P (pass.finishItems s items).2 := by
  unfold Pass.finishItems
  split
  · exact h
  · unfold wrapAll
    split
    · exact h
    · exact keeps.gathered h rfl rfl rfl

-- Cases as in `walk`: every session in it comes from the one before by a step of `Keeps` or by a walk
-- further down.
mutual
theorem walk_keeps (keeps : pass.Keeps P) :
    (t : Tree) → {s : Session} → P s → P (pass.walk s t).2
  | t, s, h => by
    rw [walk.eq_def]
    split
    · rename_i span callee args types
      split
      · exact h
      split
      · exact walk_keeps keeps types (walkAll_keeps keeps args (walk_keeps keeps callee h))
      rename_i call _
      have found : P (s.recordAll pass.file (call.findings pass)) := keeps.call h
      dsimp only
      split
      · exact walk_keeps keeps types (walkArguments_keeps keeps args (walk_keeps keeps callee found))
      split
      · exact found
      · exact walk_keeps keeps types
          (walkAll_keeps keeps args (walk_keeps keeps callee (keeps.bind callee found)))
    · rename_i span name attributes closing types
      split
      · exact h
      · exact walk_keeps keeps types
          (walkAll_keeps keeps attributes (walk_keeps keeps name (keeps.tag h)))
    · rename_i span items interpreter
      split
      · exact h
      · exact keeps.finishItems _ (walkItems_keeps keeps items h)
    · exact walkAll_keeps keeps _ h
    · exact walkAll_keeps keeps _ h
    · exact h
termination_by t => sizeOf t

theorem walkAll_keeps (keeps : pass.Keeps P) :
    (ts : List Tree) → {s : Session} → P s → P (pass.walkAll s ts).2
  | [], _, h => h
  | t :: ts, s, h => by
    rw [walkAll]
    exact walkAll_keeps keeps ts (walk_keeps keeps t h)
termination_by ts => sizeOf ts

theorem walkArguments_keeps (keeps : pass.Keeps P) :
    (ts : List Tree) → {s : Session} → {replacement : Option Tree} → P s →
      P (pass.walkArguments s replacement ts).2
  | [], _, _, h => h
  | t :: ts, s, none, h => by
    rw [walkArguments]
    exact walkAll_keeps keeps ts (walk_keeps keeps t h)
  | t :: ts, s, some e, h => by
    rw [walkArguments]
    exact walkAll_keeps keeps ts h
termination_by ts => sizeOf ts

theorem walkItems_keeps (keeps : pass.Keeps P) :
    (items : List Tree) → {s : Session} → P s → P (pass.walkItems s items).2
  | [], _, h => h
  | item :: items, s, h => by
    rw [walkItems]
    have started : P { s with component := (Component.ofItem? pass.config item).map Component.kind } :=
      keeps.gathered h rfl rfl rfl
    have walked := walk_keeps keeps item started
    have left : P { (pass.walk { s with
        component := (Component.ofItem? pass.config item).map Component.kind } item).2 with
          component := none } := keeps.gathered walked rfl rfl rfl
    dsimp only
    split
    · exact left
    · exact walkItems_keeps keeps items (keeps.plan _ left)
termination_by items => sizeOf items
end

end Pass

/-! ## Where a session reports -/

/-- Whether all that a session reports is at locations with a property. -/
structure Session.Reports (session : Session) (P : Location → Prop) : Prop where
  warnings : ∀ warning ∈ session.warnings, P warning.location
  fault : ∀ fault, session.fault = some fault → P fault.location

namespace Session

variable {session : Session} {file : SourceFile} {P : Location → Prop}

theorem reports_empty : ({} : Session).Reports P := ⟨by simp, by simp⟩

theorem Reports.record (h : session.Reports P) {finding : Finding}
    (here : P (file.locate finding.span)) : (session.record file finding).Reports P := by
  unfold Session.record
  split
  · exact h
  cases finding.event with
  | warning text =>
    refine ⟨fun warning mem => ?_, h.fault⟩
    rcases List.mem_append.mp mem with mem | mem
    · exact h.warnings warning mem
    · rw [List.mem_singleton.mp mem]
      exact here
  | fault cause =>
    refine ⟨h.warnings, fun fault eq => ?_⟩
    cases eq
    exact here
  | message d policy =>
    dsimp only
    split
    · exact ⟨h.warnings, h.fault⟩
    · refine ⟨h.warnings, fun fault eq => ?_⟩
      cases eq
      exact here

theorem Reports.recordAll {findings : List Finding} (h : session.Reports P)
    (here : ∀ finding ∈ findings, P (file.locate finding.span)) :
    (session.recordAll file findings).Reports P := by
  induction findings generalizing session with
  | nil => exact h
  | cons finding findings ih =>
    exact ih (h.record (here finding List.mem_cons_self))
      fun later mem => here later (List.mem_cons_of_mem _ mem)

end Session

theorem SourceFile.file_locate (file : SourceFile) (span : Option Span) :
    (file.locate span).file = file.path := by
  unfold locate
  split
  · rfl
  · split <;> rfl

/-- All that an extraction reports is in its file. -/
theorem Pass.extract_reports (pass : Pass) (tree : Tree) :
    (pass.extract tree).2.Reports fun location => location.file = pass.file.path := by
  have keeps : pass.Keeps fun s => s.Reports fun location => location.file = pass.file.path :=
    { call := fun h => h.recordAll fun finding _ => pass.file.file_locate finding.span
      tag := fun h => h.recordAll fun finding _ => pass.file.file_locate finding.span
      gathered := fun h _ warnings fault =>
        ⟨by rw [warnings]; exact h.warnings, by rw [fault]; exact h.fault⟩ }
  exact walk_keeps keeps tree Session.reports_empty

end MessageExtraction
