import MessageExtraction.Proofs.Extraction.Merging
import MessageExtraction.Proofs.Extraction.Rewritten

/-!
# Marking calls and tags after a run

The calls for many messages and the tags that a run leaves marking have the messages that they had, and
nothing is missing from them.

* `propertyFindings_held`: what a property of a call must be for its message to be held.
* `RewritesAll.findings_held`, `findings_held_of_merged`: what calls hold after a run.
* `RewritesAll.tag_held`: what tags hold after a run.
-/

namespace MessageExtraction

open Syntax (Tree Span Identifier)

namespace Pass

variable {pass pass' : Pass} {r : Registry} {names : List String} {t u : Tree} {ts us : List Tree}
  {call call' : HelperCall}

/-! ## Descriptors in calls -/

theorem fieldsFindings_held (same : pass'.config = pass.config) {fields : Descriptor.Fields}
    {required : Bool} {span span' : Option Span}
    (held : ∀ finding ∈ pass.fieldsFindings fields required span, finding.IsHeld r) :
    ∀ finding ∈ pass'.fieldsFindings fields required span', finding.IsHeld r := by
  have samePolicy : pass'.policy required = pass.policy required := by
    rw [policy, policy, same]
  rw [fieldsFindings] at held
  rw [fieldsFindings, same, samePolicy]
  split at held
  · exact (held _ List.mem_cons_self).elim
  · simp
  · rename_i d _
    rintro finding mem
    rw [List.mem_singleton.mp mem]
    exact held ⟨.message d (pass.policy required), span⟩ List.mem_cons_self

/-- Whether a property has a descriptor for its value, the message of which is held. -/
def HoldsDescriptor (pass : Pass) (r : Registry) (property : Tree) : Prop :=
  ∃ key value name v, property = .keyValueProperty key value ∧ key.staticKey? = some name
    ∧ value.evaluate = some v ∧ v.isObject = true ∧ (v.fieldText? "id").isNone = false
    ∧ ∀ finding ∈ pass.fieldsFindings (HelperCall.fieldsOf v) true none, finding.IsHeld r

theorem HoldsDescriptor.of_config (same : pass'.config = pass.config)
    (h : pass.HoldsDescriptor r t) : pass'.HoldsDescriptor r t := by
  obtain ⟨key, value, name, v, rfl, hKey, hValue, object, id, held⟩ := h
  exact ⟨key, value, name, v, rfl, hKey, hValue, object, id, fieldsFindings_held same held⟩

/-- What a property holds that is not reported as a fault is the message of a descriptor. -/
theorem propertyFindings_held :
    (∀ finding ∈ call.propertyFindings pass t, finding.IsHeld r) ↔ pass.HoldsDescriptor r t := by
  constructor
  · intro held
    rw [HelperCall.propertyFindings.eq_def] at held
    split at held
    · rename_i key value
      dsimp only at held
      split at held
      · exact (held _ List.mem_cons_self).elim
      rename_i name hKey
      split at held
      · exact (held _ List.mem_cons_self).elim
      rename_i v hValue
      split at held
      · exact (held _ List.mem_cons_self).elim
      rename_i object
      split at held
      · exact (held _ List.mem_cons_self).elim
      rename_i id
      exact ⟨key, value, name, v, rfl, hKey, hValue, by simpa using object,
        Bool.eq_false_iff.mpr id, fieldsFindings_held rfl held⟩
    · exact (held _ List.mem_cons_self).elim
    · split at held
      · exact (held _ List.mem_cons_self).elim
      · exact (held _ List.mem_cons_self).elim
  · rintro ⟨key, value, name, v, rfl, hKey, hValue, object, id, held⟩
    rw [HelperCall.propertyFindings, hKey, hValue]
    dsimp only
    rw [object, id]
    exact fieldsFindings_held rfl held

theorem Rewrites.holdsDescriptor (h : pass.Rewrites r names t u) (defined : "undefined" ∉ names)
    (holds : pass.HoldsDescriptor r t) : pass.HoldsDescriptor r u := by
  obtain ⟨key, value, name, v, rfl, hKey, hValue, object, id, held⟩ := holds
  cases h with | node _ fields =>
  obtain _ | ⟨keyRewritten, _ | ⟨inner, _ | _⟩⟩ := fields
  exact ⟨_, _, name, v, rfl, keyRewritten.staticKey? hKey, Rewrites.evaluate value defined inner hValue,
    object, id, held⟩

theorem RewritesProperties.holdsDescriptors (h : pass.RewritesProperties r names ts us)
    (defined : "undefined" ∉ names) (holds : ∀ t ∈ ts, pass.HoldsDescriptor r t) :
    ∀ u ∈ us, pass.HoldsDescriptor r u := by
  induction ts generalizing us with
  | nil =>
    cases h
    simp
  | cons t ts ih =>
    have first := holds t List.mem_cons_self
    have rest {us : List Tree} (h : pass.RewritesProperties r names ts us) :=
      ih h fun t ht => holds t (List.mem_cons_of_mem _ ht)
    cases h with
    | shorthand =>
      obtain ⟨key, value, _, _, eq, -⟩ := first
      cases eq
    | otherShorthand =>
      obtain ⟨key, value, _, _, eq, -⟩ := first
      cases eq
    | property written head tail =>
      intro u mem
      rcases List.mem_cons.mp mem with rfl | mem
      · exact head.holdsDescriptor defined first
      · exact rest tail u mem

/-! ## Calls for many messages -/

/-- A call for many messages that has no fault has a descriptor in each of its properties. -/
theorem findings_held (kind : call.kind = .bulk) :
    (∀ finding ∈ call.findings pass, finding.IsHeld r)
      ↔ (∀ finding, call.argument ≠ .unusable finding)
        ∧ ∀ property ∈ call.properties, pass.HoldsDescriptor r property := by
  rw [HelperCall.findings, kind]
  dsimp only
  constructor
  · intro held
    split at held
    · rename_i finding unusable
      obtain ⟨_, refuses, -⟩ := HelperCall.refuses_of_unusable unusable
      obtain ⟨cause, fault⟩ := refuses.fault
      have absent := held finding List.mem_cons_self
      rw [Finding.IsHeld, fault] at absent
      contradiction
    · rename_i usable
      refine ⟨fun finding eq => usable finding eq, fun property mem => ?_⟩
      exact propertyFindings_held.mp fun finding found =>
        held finding (List.mem_flatMap.mpr ⟨property, mem, found⟩)
  · rintro ⟨usable, holds⟩
    split
    · rename_i finding unusable
      exact absurd unusable (usable finding)
    · intro finding mem
      obtain ⟨property, mem, found⟩ := List.mem_flatMap.mp mem
      exact propertyFindings_held.mpr (holds property mem) finding found

theorem findings_held_of_config (same : pass'.config = pass.config) (kind : call.kind = .bulk)
    (held : ∀ finding ∈ call.findings pass, finding.IsHeld r) :
    ∀ finding ∈ call.findings pass', finding.IsHeld r := by
  obtain ⟨usable, holds⟩ := (findings_held kind).mp held
  exact (findings_held kind).mpr ⟨usable, fun property mem => (holds property mem).of_config same⟩

theorem argument_of_text {e : Tree} {rest : List Tree} {span : Option Span} {value escaped : Tree}
    (args : call.args = .element none e :: rest) (text : e.unwrap = .stringLiteral span value escaped) :
    call.argument = .text := by
  rw [HelperCall.argument, args]
  dsimp only
  rw [text]

theorem argument_of_properties {e : Tree} {rest : List Tree} {span : Option Span}
    {properties : List Tree} (args : call.args = .element none e :: rest)
    (object : e.unwrap = .objectExpression span properties) :
    call.argument = .properties properties := by
  rw [HelperCall.argument, args]
  dsimp only
  rw [object]

/-- A call for many messages with an object keeps its messages. -/
theorem RewritesAll.findings_held (h : pass.RewritesAll r names call.args call'.args)
    (defined : "undefined" ∉ names) (kind : call.kind = .bulk) (kind' : call'.kind = .bulk)
    (kept : call.replacement? = none) (held : ∀ finding ∈ call.findings pass, finding.IsHeld r) :
    call'.replacement? = none ∧ ∀ finding ∈ call'.findings pass, finding.IsHeld r := by
  obtain ⟨usable, holds⟩ := (Pass.findings_held kind).mp held
  rw [Pass.findings_held kind']
  have merged : ∀ value, call.argument ≠ .merged value := by
    intro value eq
    rw [HelperCall.replacement?, eq] at kept
    contradiction
  have hArgument := HelperCall.argument.eq_def call
  split at hArgument
  · rename_i e rest args
    rw [args] at h
    generalize args' : call'.args = written at h
    obtain _ | ⟨head, tail⟩ := h
    cases head with | node _ fields =>
    obtain _ | ⟨inner, _ | _⟩ := fields
    have unwrapped := Rewrites.unwrap e inner
    split at hArgument
    · rename_i text
      rw [text] at unwrapped
      generalize text' : Tree.unwrap _ = e' at unwrapped
      cases unwrapped with | node _ fields =>
      obtain _ | ⟨_, _ | ⟨_, _ | _⟩⟩ := fields
      have found := argument_of_text args' text'
      rw [HelperCall.replacement?, HelperCall.properties, found]
      simp
    · rename_i object
      rw [object] at unwrapped
      generalize object' : Tree.unwrap _ = e' at unwrapped
      cases unwrapped with
      | object rewritten =>
        have found := argument_of_properties args' object'
        rw [HelperCall.properties, hArgument] at holds
        rw [HelperCall.replacement?, HelperCall.properties, found]
        refine ⟨rfl, by simp, rewritten.holdsDescriptors defined holds⟩
      | node plain => contradiction
    · split at hArgument
      · exact absurd hArgument (merged _)
      · exact absurd hArgument (usable _)
    · exact absurd hArgument (usable _)
  · exact absurd hArgument (usable _)

/-- A call that was given an object for its array keeps its messages. -/
theorem findings_held_of_merged {value : StaticValue} {rest : List Tree} (kind : call.kind = .bulk)
    (kind' : call'.kind = .bulk) (array : call.argument = .merged value)
    (args : call'.args = .element none value.toTree :: rest)
    (held : ∀ finding ∈ call.findings pass, finding.IsHeld r) :
    call'.replacement? = none ∧ ∀ finding ∈ call'.findings pass, finding.IsHeld r := by
  obtain ⟨-, merged, rfl⟩ := args_of_merged array
  obtain ⟨usable, holds⟩ := (findings_held kind).mp held
  rw [findings_held kind']
  have found := argument_of_properties args rfl
  rw [HelperCall.properties, array] at holds
  rw [HelperCall.replacement?, HelperCall.properties, found]
  exact ⟨rfl, by simp, holds⟩

end Pass

/-! ## Tags -/

/-- Whether a tag means the same after a run, but for the spelling of its name, or nothing any more. -/
inductive TagMeaning.Remains : Option TagMeaning → Option TagMeaning → Prop
  | nothing {meaning : Option TagMeaning} : Remains meaning none
  | message : Remains (some .message) (some .message)
  | deprecated {name name' : String} :
      Remains (some (.deprecated name)) (some (.deprecated name'))

namespace Markup

theorem valuesOf_missingDefaultMessage {name : String} (other : name ≠ "defaultMessage")
    (attributes : List Tree) : valuesOf name (missingDefaultMessage attributes) = [] := by
  rw [missingDefaultMessage]
  split
  · simp [valuesOf, other.symm]
  · rfl

theorem literalOf?_append {name : String} {ts us : List Tree} (none : valuesOf name us = []) :
    literalOf? name (ts ++ us) = literalOf? name ts := by
  rw [literalOf?, literalOf?, valuesOf_append, none, List.append_nil]

/-- Which default text is missing can be told from the literals and the names of the attributes. -/
theorem missingDefaultMessage_again {attributes attributes' : List Tree}
    (id : literalOf? "id" attributes' = literalOf? "id" attributes)
    (text : valuesOf "defaultMessage" attributes' = [] ↔ valuesOf "defaultMessage" attributes = []) :
    missingDefaultMessage (attributes' ++ missingDefaultMessage attributes) = [] := by
  have same : literalOf? "id" (attributes' ++ missingDefaultMessage attributes)
      = literalOf? "id" attributes := by
    rw [literalOf?_append (valuesOf_missingDefaultMessage (by decide) _), id]
  have texts : literalOf? "id" attributes ≠ none →
      valuesOf "defaultMessage" (attributes' ++ missingDefaultMessage attributes) ≠ [] := by
    intro known none
    rw [valuesOf_append, List.append_eq_nil_iff, text] at none
    obtain ⟨value, found⟩ := Option.ne_none_iff_exists'.mp known
    rw [missingDefaultMessage, found, none.1] at none
    simp [valuesOf] at none
  rw [missingDefaultMessage.eq_def (attributes' ++ _), same]
  split
  · rename_i known none
    exact absurd none (texts (by rw [known]; simp))
  · rfl

end Markup

namespace Pass

variable {pass pass' : Pass} {r : Registry} {names : List String}

theorem RewritesAll.eq_nil_iff {ts us : List Tree} (h : pass.RewritesAll r names ts us) :
    us = [] ↔ ts = [] := by
  cases h <;> simp

/-- A tag that still marks keeps its message and lacks no attribute. -/
theorem RewritesAll.tag_held {attributes attributes' : List Tree} {name name' : Tree}
    {span : Option Span} (h : pass.RewritesAll r names attributes attributes')
    (defined : "undefined" ∉ names) (same : pass'.config = pass.config)
    (remains : TagMeaning.Remains (pass.tagMeaning? name) (pass'.tagMeaning? name'))
    (held : ∀ finding ∈ pass.tagFindings span name attributes, finding.IsHeld r) :
    pass'.addedAttributes name' (attributes' ++ pass.addedAttributes name attributes) = []
      ∧ ∀ finding ∈ pass'.tagFindings span name'
          (attributes' ++ pass.addedAttributes name attributes), finding.IsHeld r := by
  have samePolicy : pass'.policy false = pass.policy false := by
    rw [policy, policy, same]
  rw [tagFindings] at held
  rw [addedAttributes, tagFindings, addedAttributes, same]
  generalize pass.tagMeaning? name = meaning at remains held ⊢
  generalize pass'.tagMeaning? name' = meaning' at remains ⊢
  cases remains with
  | nothing => simp
  | deprecated =>
    refine ⟨rfl, fun finding mem => ?_⟩
    rw [List.mem_singleton.mp mem]
    trivial
  | message =>
    cases mode : pass.config.markupMode
    · rw [mode] at held
      dsimp only at held ⊢
      have literal (key : String) (other : key ≠ "defaultMessage") :
          Markup.literalOf? key (attributes' ++ Markup.missingDefaultMessage attributes)
            = Markup.literalOf? key attributes := by
        rw [Markup.literalOf?_append (Markup.valuesOf_missingDefaultMessage other _), h.literalOf?]
      refine ⟨Markup.missingDefaultMessage_again (h.literalOf? "id")
        (h.valuesOf "defaultMessage").eq_nil_iff, ?_⟩
      rw [literalFindings, literal "id" (by decide), literal "description" (by decide), samePolicy]
      exact held
    · rw [mode] at held
      dsimp only at held ⊢
      rw [List.append_nil]
      refine ⟨rfl, ?_⟩
      rw [knownFindings] at held ⊢
      split at held
      · exact (held _ List.mem_cons_self).elim
      · rename_i fields known
        rw [h.readFields defined known]
        dsimp only
        split at held
        · rw [if_pos ‹_›]
          simp
        · rw [if_neg ‹_›]
          exact fieldsFindings_held same held

end Pass

end MessageExtraction
