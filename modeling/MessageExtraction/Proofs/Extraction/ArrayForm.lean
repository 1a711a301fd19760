import MessageExtraction.Proofs.Extraction.Inert
import MessageExtraction.Proofs.Extraction.Marking
import MessageExtraction.Proofs.Extraction.Merging

/-!
# Arrays of descriptors

A call for many messages that is given an array gets an object in its place. It means what the same call
means with that object written out.

* `HelperCall.propertiesFindings_events`: what is found in an object depends on its value alone.
* `Session.Alike.walkAll`: sessions that differ in the place of a fault go on alike.
* `Pass.alike_of_object`: so a walk gathers the same from an array as from the object.
* `Pass.array_as_object`: what becomes of an array.
-/

namespace MessageExtraction

open Syntax (Tree Span)

namespace HelperCall

variable {call : HelperCall} {entries : List (String × StaticValue)} {v : StaticValue} {item : Tree}

/-! ## What is found in an object -/

section Findings

variable {pass : Pass} {properties : List Tree}

/-- What there is to find in the value of a property. -/
def valueEvents (pass : Pass) (callee : String) (v : StaticValue) : List Event :=
  if !v.isObject then [.fault (.argumentShape callee)]
  else if (v.fieldText? "id").isNone then [.fault (.rejected .missingId)]
  else (pass.fieldsFindings (fieldsOf v) true none).map Finding.event

theorem fieldsFindings_events (fields : Descriptor.Fields) (required : Bool) (span : Option Span) :
    (pass.fieldsFindings fields required span).map Finding.event
      = (pass.fieldsFindings fields required none).map Finding.event := by
  rw [Pass.fieldsFindings, Pass.fieldsFindings]
  split <;> rfl

theorem propertyFindings_events {entry : String × StaticValue} (h : Tree.IsProperty entry item) :
    (call.propertyFindings pass item).map Finding.event = valueEvents pass call.callee entry.2 := by
  obtain ⟨key, e, rfl, hKey, value⟩ := h
  rw [propertyFindings, hKey, value, valueEvents]
  dsimp only
  split
  · rfl
  split
  · rfl
  · rw [fieldsFindings_events]

/-- What is found in the properties of an object depends on their values. -/
theorem propertiesFindings_events (h : Tree.evaluateProperties properties = some entries) :
    (properties.flatMap (call.propertyFindings pass)).map Finding.event
      = entries.flatMap fun entry => valueEvents pass call.callee entry.2 := by
  have held := Tree.isProperty_of_evaluateProperties h
  clear h
  induction held with
  | nil => rfl
  | cons first _ ih =>
    rw [List.flatMap_cons, List.flatMap_cons, List.map_append, propertyFindings_events first, ih]

theorem valueEvents_ne_warning {callee text : String} {event : Event}
    (mem : event ∈ valueEvents pass callee v) : event ≠ .warning text := by
  rintro rfl
  rw [valueEvents] at mem
  split at mem
  · simp at mem
  split at mem
  · simp at mem
  · rw [Pass.fieldsFindings] at mem
    split at mem <;> simp at mem

end Findings

end HelperCall

/-! ## Sessions that differ in the place of a fault -/

/-- Whether two sessions have gathered the same, but for the place of the first fault. -/
structure Session.Alike (s s' : Session) : Prop where
  cause : s.fault.map Fault.cause = s'.fault.map Fault.cause
  gathered : { s with fault := none } = { s' with fault := none }

namespace Session.Alike

variable {s s' : Session} {file : SourceFile}

theorem refl (s : Session) : s.Alike s := ⟨rfl, rfl⟩

theorem failed (h : s.Alike s') : s'.failed = s.failed := by
  have same := congrArg Option.isSome h.cause
  rw [Option.isSome_map, Option.isSome_map] at same
  exact same.symm

theorem eq_of_not_failed (h : s.Alike s') (ok : s.failed = false) : s' = s := by
  have faultless : s.fault = none := Option.isNone_iff_eq_none.mp (Option.isSome_eq_false_iff.mp ok)
  have faultless' : s'.fault = none :=
    Option.isNone_iff_eq_none.mp (Option.isSome_eq_false_iff.mp (h.failed.trans ok))
  have same := h.gathered
  obtain ⟨⟩ := s
  obtain ⟨⟩ := s'
  cases faultless
  cases faultless'
  exact same.symm

theorem record {finding finding' : Finding} (h : s.Alike s')
    (event : finding'.event = finding.event) (silent : ∀ text, finding.event ≠ .warning text) :
    (s.record file finding).Alike (s'.record file finding') := by
  cases failed : s.failed with
  | true =>
    rw [Session.record, Session.record, if_pos failed, if_pos (h.failed.trans failed)]
    exact h
  | false =>
    obtain rfl := h.eq_of_not_failed failed
    rw [Session.record, Session.record, event, failed, if_neg Bool.false_ne_true,
      if_neg Bool.false_ne_true]
    split
    · exact absurd ‹_› (silent _)
    · exact ⟨rfl, rfl⟩
    · split
      · exact .refl _
      · exact ⟨rfl, rfl⟩

theorem recordAll {findings findings' : List Finding} (h : s.Alike s')
    (events : findings'.map Finding.event = findings.map Finding.event)
    (silent : ∀ finding ∈ findings, ∀ text, finding.event ≠ .warning text) :
    (s.recordAll file findings).Alike (s'.recordAll file findings') := by
  induction findings generalizing s s' findings' with
  | nil =>
    obtain rfl : findings' = [] := List.map_eq_nil_iff.mp events
    exact h
  | cons finding findings ih =>
    obtain ⟨finding', others, rfl, event, rest⟩ := List.map_eq_cons_iff.mp events
    have first : (s.record file finding).Alike (s'.record file finding') :=
      h.record event (silent _ List.mem_cons_self)
    have followed := ih first rest fun finding mem => silent finding (List.mem_cons_of_mem _ mem)
    exact followed

/-- What leaves failed sessions as they are goes on alike, since other sessions that are alike are equal. -/
theorem next {f : Session → Session} (h : s.Alike s') (kept : ∀ s, s.failed = true → f s = s) :
    (f s).Alike (f s') := by
  cases failed : s.failed with
  | true =>
    rw [kept s failed, kept s' (h.failed.trans failed)]
    exact h
  | false =>
    obtain rfl := h.eq_of_not_failed failed
    exact .refl _

theorem walk {pass : Pass} (h : s.Alike s') (t : Tree) :
    (pass.walk s t).2.Alike (pass.walk s' t).2 :=
  h.next (f := fun s => (pass.walk s t).2) fun s failed => by rw [Pass.walk_of_failed s t failed]

theorem walkAll {pass : Pass} (h : s.Alike s') (ts : List Tree) :
    (pass.walkAll s ts).2.Alike (pass.walkAll s' ts).2 :=
  h.next (f := fun s => (pass.walkAll s ts).2) fun s failed => by
    rw [Pass.walkAll_of_failed s ts failed]

end Session.Alike

namespace Pass

variable {pass : Pass}

/-! ## The call with the array and the call with the object -/

section Call

variable {span place : Option Span} {callee types e : Tree} {args rest items : List Tree}
  {call : HelperCall} {s : Session}

theorem helperCall?_withArgs (h : pass.helperCall? span callee args = some call) (args' : List Tree) :
    pass.helperCall? span callee args' = some { call with args := args' } := by
  obtain ⟨reference, found, ⟨single, rfl⟩ | ⟨other, bulk, rfl⟩⟩ := helperCall?_some h
  · simp [helperCall?, found, single]
  · simp [helperCall?, found, other, bulk]

/-- The walk over a call for many messages: what it holds is taken in, and its parts are walked over. -/
theorem walk_bulk (marks : pass.helperCall? span callee args = some call) (bulk : call.kind = .bulk)
    (ok : s.failed = false) :
    pass.walk s (.callExpression span callee args types)
      = let session := s.recordAll pass.file (call.findings pass)
        let (callee, session) := pass.walk session callee
        let (args, session) := pass.walkArguments session call.replacement? args
        let (types, session) := pass.walk session types
        (.callExpression span callee args types, session) := by
  rw [walk, if_neg (by simp [ok]), marks]
  simp only [bulk]

theorem argument_of_array (args : call.args = .element none e :: rest)
    (array : e.unwrap = .arrayExpression place items) :
    call.argument = match call.mergeItems [] items with
      | .ok merged => .merged (.object merged)
      | .error finding => .unusable finding := by
  have unfolded := HelperCall.argument.eq_def call
  rw [args] at unfolded
  dsimp only at unfolded
  rw [array] at unfolded
  exact unfolded

/-- The object that replaces an array has the first item of each id. -/
theorem replacement?_of_array (args : call.args = .element none e :: rest)
    (array : e.unwrap = .arrayExpression place items) {new : Tree}
    (accepted : call.replacement? = some new) :
    ∃ entries, items.map HelperCall.keyed? = entries.map some
      ∧ call.argument = .merged (.object (HelperCall.firsts entries))
      ∧ new = (StaticValue.object (HelperCall.firsts entries)).toTree := by
  obtain ⟨value, merged, rfl⟩ := argument_of_replacement? accepted
  have split := argument_of_array args array
  rw [merged] at split
  cases outcome : call.mergeItems [] items with
  | error finding =>
    rw [outcome] at split
    contradiction
  | ok all =>
    rw [outcome] at split
    cases split
    obtain ⟨entries, read, rfl⟩ := @HelperCall.entries_of_mergeItems call [] _ _ outcome
    exact ⟨entries, read, merged, rfl⟩

theorem unusable_of_array (args : call.args = .element none e :: rest)
    (array : e.unwrap = .arrayExpression place items) {finding : Finding} :
    call.argument = .unusable finding ↔ call.mergeItems [] items = .error finding := by
  rw [argument_of_array args array]
  cases call.mergeItems [] items <;> simp

/-- A call is left as it is but for the fault if its argument cannot be used. -/
theorem fault_of_unusable (marks : pass.helperCall? span callee args = some call)
    (bulk : call.kind = .bulk) (ok : s.failed = false) {cause : FaultCause}
    (unusable : call.argument = .unusable ⟨.fault cause, place⟩) :
    (pass.walk s (.callExpression span callee args types)).2.fault
      = some ⟨cause, pass.file.locate place⟩ := by
  have found : call.findings pass = [⟨.fault cause, place⟩] := by
    rw [HelperCall.findings, bulk]
    dsimp only
    rw [unusable]
  have kept : call.replacement? = none := by
    rw [HelperCall.replacement?, unusable]
  have recorded : s.recordAll pass.file (call.findings pass)
      = { s with fault := some ⟨cause, pass.file.locate place⟩ } := by
    rw [found, Session.recordAll, List.foldl_cons, List.foldl_nil, Session.record,
      if_neg (by simp [ok])]
  rw [walk_bulk marks bulk ok, recorded, kept]
  simp only [walkArguments_none]
  rw [walk_of_failed _ callee rfl]
  dsimp only
  rw [walkAll_of_failed _ args rfl]
  dsimp only
  rw [walk_of_failed _ types rfl]

/-- What is found in a call with an array. -/
theorem findings_events_of_merged (bulk : call.kind = .bulk) {entries : List (String × StaticValue)}
    (merged : call.argument = .merged (.object entries)) :
    (call.findings pass).map Finding.event
      = entries.flatMap fun entry => HelperCall.valueEvents pass call.callee entry.2 := by
  rw [HelperCall.findings, bulk]
  dsimp only
  rw [merged, HelperCall.properties, merged]
  exact HelperCall.propertiesFindings_events (StaticValue.evaluateProperties_propertyTrees entries)

theorem findings_silent_of_merged (bulk : call.kind = .bulk) {entries : List (String × StaticValue)}
    (merged : call.argument = .merged (.object entries)) :
    ∀ finding ∈ call.findings pass, ∀ text, finding.event ≠ .warning text := by
  intro finding mem text
  have found := List.mem_map_of_mem (f := Finding.event) mem
  rw [findings_events_of_merged bulk merged] at found
  obtain ⟨entry, -, found⟩ := List.mem_flatMap.mp found
  exact HelperCall.valueEvents_ne_warning found

/-- What is found in a call with an object literal. -/
theorem findings_events_of_object (bulk : call.kind = .bulk) {entries : List (String × StaticValue)}
    {properties : List Tree} (args : call.args = .element none e :: rest)
    (object : e.unwrap = .objectExpression place properties)
    (value : e.evaluate = some (.object entries)) :
    (call.findings pass).map Finding.event
      = entries.flatMap fun entry => HelperCall.valueEvents pass call.callee entry.2 := by
  have evaluated : Tree.evaluateProperties properties = some entries := by
    rw [← Tree.evaluate_unwrap, object, Tree.evaluate] at value
    obtain ⟨all, found, same⟩ := Option.map_eq_some_iff.mp value
    cases same
    exact found
  have argument := argument_of_properties args object
  rw [HelperCall.findings, bulk]
  dsimp only
  rw [argument, HelperCall.properties, argument]
  exact HelperCall.propertiesFindings_events evaluated

/-- The sessions after a call with an array and after the call with an object of the same value are alike. -/
theorem alike_of_object (marks : pass.helperCall? span callee args = some call)
    (bulk : call.kind = .bulk) (args_eq : args = .element none e :: rest)
    {entries : List (String × StaticValue)} (merged : call.argument = .merged (.object entries))
    {w : Tree} {properties : List Tree} (inert : w.IsInert)
    (object : w.unwrap = .objectExpression place properties)
    (value : w.evaluate = some (.object entries)) (s : Session) :
    (pass.walk s (.callExpression span callee args types)).2.Alike
      (pass.walk s (.callExpression span callee (.element none w :: rest) types)).2 := by
  cases ok : s.failed with
  | true =>
    rw [walk_of_failed s _ ok, walk_of_failed s _ ok]
    exact .refl s
  | false =>
    have marks' := helperCall?_withArgs marks (.element none w :: rest)
    generalize call'_eq : ({ call with args := .element none w :: rest } : HelperCall) = call' at marks'
    have args' := args_of_helperCall? marks'
    have bulk' : call'.kind = .bulk := by rw [← call'_eq, ← bulk]
    have callees : call'.callee = call.callee := by rw [← call'_eq]
    have events : (call'.findings pass).map Finding.event = (call.findings pass).map Finding.event := by
      rw [findings_events_of_object bulk' args' object value, findings_events_of_merged bulk merged,
        callees]
    have replaced : call.replacement? = some (StaticValue.object entries).toTree := by
      rw [HelperCall.replacement?, merged]
    have kept : call'.replacement? = none := by
      rw [HelperCall.replacement?, argument_of_properties args' object]
    have skipped : ∀ s, pass.walk s (.element none w) = (.element none w, s) := fun s => by
      simp only [walk, walkAll, walk_of_isInert s w inert]
    rw [walk_bulk marks bulk ok, walk_bulk marks' bulk' ok, replaced, kept]
    simp only [walkArguments_none, args_eq, walkAll, skipped]
    have recorded := @Session.Alike.recordAll s s pass.file _ _ (.refl s) events
      (findings_silent_of_merged bulk merged)
    exact ((recorded.walk callee).walkAll rest).walk types

/-- A call for many messages that is given an array. If the array is accepted, the object that comes in its
place has a property for each id among the items, with the value of the first item that has it; and any
object literal with that value in place of the array makes the walk gather the same, there and in what
follows, and end with a fault of the same kind. An array is refused for an id that comes twice if this is
the first thing wrong with it. -/
theorem array_as_object (marks : pass.helperCall? span callee args = some call)
    (bulk : call.kind = .bulk) (args_eq : args = .element none e :: rest)
    (array : e.unwrap = .arrayExpression place items) :
    (∀ new, call.replacement? = some new →
      (∃ entries properties, items.map HelperCall.keyed? = entries.map some
        ∧ new = .objectExpression (some .made) properties
        ∧ List.Forall₂ Tree.IsProperty (HelperCall.firsts entries) properties)
      ∧ (∀ s : Session, s.failed = false → ∃ callee' rest' types',
          (pass.walk s (.callExpression span callee args types)).1
            = .callExpression span callee' (.element none new :: rest') types')
      ∧ ∀ w written properties, w.IsInert → w.unwrap = .objectExpression written properties →
          w.evaluate = new.evaluate → ∀ (s : Session) (following : List Tree),
            (pass.walkAll s (.callExpression span callee args types :: following)).2.Alike
              (pass.walkAll s
                (.callExpression span callee (.element none w :: rest) types :: following)).2)
    ∧ ((∀ item ∈ items, ∀ id v, HelperCall.keyed? item = some (id, v) → v.hasNaN = false) →
        ∀ id refused, call.argument = .unusable ⟨.fault (.rejected (.duplicateId id)), refused⟩
          ↔ HelperCall.Conflict [] items id refused)
    ∧ ∀ cause refused, call.argument = .unusable ⟨.fault cause, refused⟩ →
        ∀ s : Session, s.failed = false →
          (pass.walk s (.callExpression span callee args types)).2.fault
            = some ⟨cause, pass.file.locate refused⟩ := by
  have callArgs := (args_of_helperCall? marks).trans args_eq
  refine ⟨fun new accepted => ?_, fun numbers id refused => ?_,
    fun cause refused unusable s ok => fault_of_unusable marks bulk ok unusable⟩
  · obtain ⟨entries, read, merged, rfl⟩ := replacement?_of_array callArgs array accepted
    refine ⟨⟨entries, _, read, rfl, Tree.isProperty_of_evaluateProperties
      (StaticValue.evaluateProperties_propertyTrees _)⟩, fun s ok => ?_,
      fun w written properties inert object value s following => ?_⟩
    · rw [walk_bulk marks bulk ok, accepted]
      simp only [walkArguments_of_merged marks merged]
      exact ⟨_, _, _, rfl⟩
    · rw [StaticValue.evaluate_toTree] at value
      rw [walkAll, walkAll]
      exact (alike_of_object marks bulk args_eq merged inert object value s).walkAll following
  · rw [unusable_of_array callArgs array]
    exact HelperCall.mergeItems_conflict_iff HelperCall.agree_nil nofun numbers

end Call

end Pass

/-- An object literal with the id and the default text of a message. -/
def messageLiteral (lo : Nat) (id text : String) : Tree :=
  .objectExpression (some ⟨lo, lo + 9⟩)
    [.keyValueProperty (.identifierName (some ⟨lo + 1, lo + 2⟩) "id")
        (.stringLiteral (some ⟨lo + 3, lo + 4⟩) (.text id) .absent),
      .keyValueProperty (.identifierName (some ⟨lo + 5, lo + 6⟩) "defaultMessage")
        (.stringLiteral (some ⟨lo + 7, lo + 8⟩) (.text text) .absent)]

/-- The items of an array that has one of two messages twice. -/
def repeatedMessages : List Tree :=
  [.element none (messageLiteral 60 "a" "A"), .element none (messageLiteral 70 "b" "B"),
    .element none (messageLiteral 80 "a" "A")]

/-- The items of an array with two texts for one message. -/
def conflictingMessages : List Tree :=
  [.element none (messageLiteral 60 "a" "A"), .element none (messageLiteral 70 "a" "B")]

/-- An object literal with the two messages of `repeatedMessages`. -/
def messagesLiteral : Tree :=
  .objectExpression (some ⟨55, 90⟩)
    [.keyValueProperty (.identifierName (some ⟨56, 57⟩) "a") (messageLiteral 60 "a" "A"),
      .keyValueProperty (.stringLiteral (some ⟨58, 59⟩) (.text "b") .absent)
        (messageLiteral 70 "b" "B")]

/-- The function for many messages. -/
def definingCallee : Tree := .identifier (some ⟨41, 55⟩) "defineMessages" .absent .absent

/-- The pass over a module that imports the function for many messages. -/
def definingPass : Pass :=
  .ofModule {} ⟨"a.js", ""⟩ (.sourceModule (some ⟨1, 90⟩)
    [.importDeclaration (some ⟨1, 40⟩)
      [.importSpecifier (some ⟨10, 24⟩) (.identifier (some ⟨10, 24⟩) "defineMessages" .absent .absent)
        .absent (.flag false)]
      (.stringLiteral (some ⟨27, 39⟩) (.text "react-intl") .absent) (.flag false) .absent
      (.text "evaluation")] .absent)

/-- The array of `repeatedMessages` is as good as the object of `messagesLiteral`, and that of
`conflictingMessages` is refused. -/
theorem array_as_object_messages :
    (∃ call new, definingPass.helperCall? (some ⟨41, 90⟩) definingCallee
          [.element none (.arrayExpression (some ⟨55, 90⟩) repeatedMessages)] = some call
        ∧ call.kind = .bulk ∧ call.replacement? = some new
        ∧ (∃ entries properties, repeatedMessages.map HelperCall.keyed? = entries.map some
          ∧ new = .objectExpression (some .made) properties
          ∧ List.Forall₂ Tree.IsProperty (HelperCall.firsts entries) properties)
        ∧ (definingPass.walkAll {} [.callExpression (some ⟨41, 90⟩) definingCallee
            [.element none (.arrayExpression (some ⟨55, 90⟩) repeatedMessages)] .absent]).2.Alike
          (definingPass.walkAll {} [.callExpression (some ⟨41, 90⟩) definingCallee
            [.element none messagesLiteral] .absent]).2)
      ∧ ∃ call, definingPass.helperCall? (some ⟨41, 90⟩) definingCallee
            [.element none (.arrayExpression (some ⟨55, 90⟩) conflictingMessages)] = some call
          ∧ call.argument = .unusable ⟨.fault (.rejected (.duplicateId "a")), some ⟨70, 79⟩⟩
          ∧ HelperCall.Conflict [] conflictingMessages "a" (some ⟨70, 79⟩) := by
  constructor
  · have found := @Pass.array_as_object definingPass (some ⟨41, 90⟩) (some ⟨55, 90⟩) definingCallee
      .absent (.arrayExpression (some ⟨55, 90⟩) repeatedMessages) _ [] repeatedMessages _ rfl rfl rfl rfl
    obtain ⟨written, -, same⟩ := found.1 _ rfl
    exact ⟨_, _, rfl, rfl, rfl, written, same messagesLiteral _ _ (by decide) rfl rfl {} []⟩
  · have found := @Pass.array_as_object definingPass (some ⟨41, 90⟩) (some ⟨55, 90⟩) definingCallee
      .absent (.arrayExpression (some ⟨55, 90⟩) conflictingMessages) _ [] conflictingMessages _ rfl rfl
      rfl rfl
    have numbers : ∀ item ∈ conflictingMessages, ∀ id v,
        HelperCall.keyed? item = some (id, v) → v.hasNaN = false := by
      intro item mem id v read
      simp only [conflictingMessages, List.mem_cons, List.not_mem_nil, or_false] at mem
      obtain rfl | rfl := mem
      · cases read
        rfl
      · cases read
        rfl
    exact ⟨_, rfl, rfl, (found.2.1 numbers _ _).mp rfl⟩

end MessageExtraction
