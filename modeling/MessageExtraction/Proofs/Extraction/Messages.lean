import MessageExtraction.Proofs.Extraction.Keeping
import MessageExtraction.Proofs.Extraction.Marking

/-!
# The messages of a file

What all messages of a file have in common, whichever attribute, argument or array item they come from. Each
place that gives a message sees to its text, and the registry sees to the rest.

* `propertyFindings_fit`, `findings_fit`, `tagFindings_fit`: what is found at a call or at a tag, one lemma
  for each place.
* `record_conforms`, `walk_conforms`: a session takes in conforming messages only, and so does a walk.
* `extractFile_messages`: the ids are there and are distinct, the descriptions are there if they are enforced,
  and the default texts are canonical if they are the texts of the messages.
-/

namespace MessageExtraction

open Syntax (Tree Span)

/-- Whether a text is the canonical form of some message. -/
def Message.IsNormal (text : String) : Prop :=
  ∃ origin source, normalize origin source = .ok text

/-- Whether the default text of a descriptor is canonical, where the default text is the message. -/
def Config.HasNormalText (config : Config) (d : Descriptor) : Prop :=
  config.messageField = .defaultMessage → ∀ text, d.defaultMessage = some text → Message.IsNormal text

/-- What holds of every message that is extracted with a configuration. -/
structure Config.Conforms (config : Config) (d : Descriptor) : Prop where
  named : d.id ≠ ""
  described : config.enforceDescriptions = true → d.description ≠ none
  hasNormalText : config.HasNormalText d

/-- Whether a finding is no message, or one with a canonical text whose registration asks for a description
exactly if descriptions are enforced. -/
def Finding.Fits (config : Config) (finding : Finding) : Prop :=
  match finding.event with
  | .message d policy =>
      policy.requireDescription = config.enforceDescriptions ∧ config.HasNormalText d
  | .warning _ | .fault _ => True

/-! ## Findings -/

/-- A fault is no message. -/
theorem Finding.fits_of_fault {config : Config} {finding : Finding} {cause : FaultCause}
    {span : Option Span} (mem : finding ∈ [⟨.fault cause, span⟩]) : finding.Fits config := by
  rw [List.mem_singleton.mp mem]
  trivial

theorem Config.hasNormalText_of_none {config : Config} {d : Descriptor} (none : d.defaultMessage = none) :
    config.HasNormalText d := by
  intro _ text eq
  rw [none] at eq
  contradiction

theorem Config.hasNormalText_of_canonical {config : Config} {fields : Descriptor.Fields} {d : Descriptor}
    (h : fields.canonical config.messageField = .ok (some d)) : config.HasNormalText d := by
  intro field text eq
  rw [field, Descriptor.Fields.canonical] at h
  split at h
  · cases h
  · rename_i source _
    cases normal : source.canonical with
    | error e =>
      rw [normal] at h
      cases h
    | ok canonical =>
      rw [normal] at h
      cases h
      cases eq
      exact ⟨source.origin, source.text, normal⟩

/-- A call for one message gives no default text. -/
theorem HelperCall.defaultMessage_of_descriptor {call : HelperCall} {d : Descriptor}
    (h : call.descriptor = .ok d) : d.defaultMessage = none := by
  rw [descriptor] at h
  split at h
  · cases h
  split at h
  · cases h
  split at h
  · cases h
  split at h
  · cases h
  · cases h
  split at h
  · cases h
    rfl
  · split at h
    · cases h
    · cases h
      rfl

namespace Pass

variable {pass : Pass} {call : HelperCall} {finding : Finding}

theorem fieldsFindings_fit {fields : Descriptor.Fields} {required : Bool} {span : Option Span}
    (mem : finding ∈ pass.fieldsFindings fields required span) : finding.Fits pass.config := by
  rw [fieldsFindings] at mem
  split at mem
  · exact Finding.fits_of_fault mem
  · contradiction
  · rename_i d canonical
    rw [List.mem_singleton.mp mem]
    exact ⟨rfl, Config.hasNormalText_of_canonical canonical⟩

/-- The value of a property may be given as it stands or may come from an array item. -/
theorem propertyFindings_fit {property : Tree} (mem : finding ∈ call.propertyFindings pass property) :
    finding.Fits pass.config := by
  rw [HelperCall.propertyFindings.eq_def] at mem
  split at mem
  · dsimp only at mem
    split at mem
    · exact Finding.fits_of_fault mem
    split at mem
    · exact Finding.fits_of_fault mem
    split at mem
    · exact Finding.fits_of_fault mem
    split at mem
    · exact Finding.fits_of_fault mem
    · exact fieldsFindings_fit mem
  · exact Finding.fits_of_fault mem
  · split at mem
    · exact Finding.fits_of_fault mem
    · exact Finding.fits_of_fault mem

theorem findings_fit (mem : finding ∈ call.findings pass) : finding.Fits pass.config := by
  rw [HelperCall.findings] at mem
  split at mem
  · split at mem
    · exact Finding.fits_of_fault mem
    · rename_i d descriptor
      rw [List.mem_singleton.mp mem]
      exact ⟨rfl, Config.hasNormalText_of_none (HelperCall.defaultMessage_of_descriptor descriptor)⟩
  · split at mem
    · rename_i unusable
      obtain ⟨_, refuses, -⟩ := HelperCall.refuses_of_unusable unusable
      obtain ⟨cause, fault⟩ := refuses.fault
      rw [List.mem_singleton.mp mem, Finding.Fits, fault]
      trivial
    · obtain ⟨property, -, mem⟩ := List.mem_flatMap.mp mem
      exact propertyFindings_fit mem

theorem literalFindings_fit {span : Option Span} {attributes : List Tree}
    (mem : finding ∈ pass.literalFindings span attributes) : finding.Fits pass.config := by
  rw [literalFindings] at mem
  split at mem
  · contradiction
  · rw [List.mem_singleton.mp mem]
    exact ⟨rfl, Config.hasNormalText_of_none rfl⟩

theorem knownFindings_fit {span : Option Span} {attributes : List Tree}
    (mem : finding ∈ pass.knownFindings span attributes) : finding.Fits pass.config := by
  rw [knownFindings] at mem
  split at mem
  · exact Finding.fits_of_fault mem
  · split at mem
    · contradiction
    · exact fieldsFindings_fit mem

theorem tagFindings_fit {span : Option Span} {name : Tree} {attributes : List Tree}
    (mem : finding ∈ pass.tagFindings span name attributes) : finding.Fits pass.config := by
  rw [tagFindings] at mem
  split at mem
  · contradiction
  · rw [List.mem_singleton.mp mem]
    trivial
  · split at mem
    · exact literalFindings_fit mem
    · exact knownFindings_fit mem

end Pass

/-! ## Sessions -/

/-- Whether all messages of a session so far conform. -/
def Session.Conforms (config : Config) (session : Session) : Prop :=
  ∀ d ∈ session.registry.entries, config.Conforms d

theorem Config.conforms_of_register {config : Config} {r r' : Registry} {policy : Policy} {d e : Descriptor}
    (asks : policy.requireDescription = config.enforceDescriptions) (text : config.HasNormalText d)
    (registered : r.register policy d = .ok r') (old : ∀ e ∈ r.entries, config.Conforms e)
    (mem : e ∈ r'.entries) : config.Conforms e := by
  rcases Registry.register_ok registered with ⟨-, rfl⟩ | ⟨new, rfl⟩
  · exact old e mem
  · rcases List.mem_append.mp mem with mem | mem
    · exact old e mem
    · rw [List.mem_singleton.mp mem]
      obtain ⟨named, -, described⟩ := Registry.accepts_of_register registered
      refine ⟨named, fun enforced missing => ?_, text⟩
      rw [asks, enforced, missing] at described
      contradiction

namespace Session

variable {config : Config} {session : Session}

theorem record_conforms {finding : Finding} (h : session.Conforms config)
    (file : SourceFile) (fits : finding.Fits config) :
    (session.record file finding).Conforms config := by
  unfold Finding.Fits at fits
  unfold record
  split
  · exact h
  cases event : finding.event with
  | warning text => exact h
  | fault cause => exact h
  | message d policy =>
    rw [event] at fits
    dsimp only
    split
    · rename_i registry registered
      exact fun e mem => Config.conforms_of_register fits.1 fits.2 registered h mem
    · exact h

theorem recordAll_conforms {findings : List Finding} (h : session.Conforms config)
    (file : SourceFile) (fit : ∀ finding ∈ findings, finding.Fits config) :
    (session.recordAll file findings).Conforms config := by
  induction findings generalizing session with
  | nil => exact h
  | cons finding findings ih =>
    exact ih (record_conforms h file (fit finding List.mem_cons_self)) fun later mem =>
      fit later (List.mem_cons_of_mem finding mem)

end Session

/-! ## Walks -/

namespace Pass

variable {pass : Pass}

/-- A walk takes in conforming messages only. -/
theorem walk_conforms (t : Tree) {s : Session} (h : s.Conforms pass.config) :
    (pass.walk s t).2.Conforms pass.config := by
  have keeps : pass.Keeps fun s => s.Conforms pass.config :=
    { call := fun h => Session.recordAll_conforms h pass.file fun _ => findings_fit
      tag := fun h => Session.recordAll_conforms h pass.file fun _ => tagFindings_fit
      gathered := fun h registry _ _ => by
        unfold Session.Conforms
        rwa [registry] }
  exact walk_keeps keeps t h

end Pass

/-! ## Outcomes -/

/-- Without a directory for catalogs or without messages nothing is written. -/
theorem Catalog.emit_of_unwritten {fs : FileSystem} {directory : Option String} {source root : Path}
    {messages : List Descriptor} (unwritten : directory = none ∨ messages = []) :
    emit fs directory source root messages = (fs, .ok none) := by
  rw [emit.eq_def]
  split
  · rfl
  · rfl
  · rename_i nonempty
    rcases unwritten with off | empty
    · contradiction
    · exact absurd empty nonempty

namespace Session

variable {s : Session} {config : Config} {fs fs' : FileSystem} {source root : Path}

theorem messages_of_finish {result : FileResult}
    (h : s.finish config fs source root = (fs', .ok result)) :
    result.messages = s.registry.entries := by
  obtain ⟨-, _, -, rfl⟩ := finish_ok_iff.mp h
  rfl

theorem finish_of_unwritten (ok : s.fault = none)
    (unwritten : config.messagesDir = none ∨ s.registry.entries = []) :
    s.finish config fs source root = (fs, .ok ⟨s.registry.entries, s.warnings, none⟩) :=
  finish_ok_iff.mpr ⟨by simp [failed, ok], none, Catalog.emit_of_unwritten unwritten, rfl⟩

end Session

theorem extractFile_of_walk {config : Config} {fs : FileSystem} {root : Path} {file : SourceFile}
    {tree tree' : Tree} {s : Session}
    (walked : (Pass.ofModule config file tree).extract tree = (tree', s)) :
    extractFile config fs root file tree = (tree', s.finish config fs ⟨file.path⟩ root) := by
  rw [extractFile, walked]

/-! ## Messages -/

/-- The messages of a file have distinct ids that are not empty. They have descriptions if these are
enforced. If the default text is the text of a message, then each default text is the canonical form of
some text. -/
theorem extractFile_messages {config : Config} {fs fs' : FileSystem} {root : Path} {file : SourceFile}
    {tree tree' : Tree} {result : FileResult}
    (run : extractFile config fs root file tree = (tree', fs', .ok result)) :
    (∀ d ∈ result.messages, d.id ≠ "")
      ∧ (result.messages.map Descriptor.id).Nodup
      ∧ (config.enforceDescriptions = true → ∀ d ∈ result.messages, d.description ≠ none)
      ∧ (config.messageField = .defaultMessage → ∀ d ∈ result.messages, ∀ text,
          d.defaultMessage = some text → ∃ origin source, Message.normalize origin source = .ok text) := by
  have finished := (Prod.mk.inj run).2
  have conforms : ∀ d ∈ result.messages, config.Conforms d := by
    rw [Session.messages_of_finish finished]
    exact Pass.walk_conforms tree (by simp [Session.Conforms])
  refine ⟨fun d mem => (conforms d mem).named, ?_,
    fun enforced d mem => (conforms d mem).described enforced,
    fun field d mem => (conforms d mem).hasNormalText field⟩
  rw [Session.messages_of_finish finished]
  exact Registry.nodup_ids _

/-- A string literal at an offset. -/
def literalAt (lo : Nat) (text : String) : Tree :=
  .stringLiteral (some ⟨lo, lo + 1⟩) (.text text) .absent

/-- The items of a module with a message in an array and another one in a call. -/
def describedItems : List Tree :=
  [.importDeclaration (some ⟨1, 2⟩)
      [.importSpecifier (some ⟨3, 4⟩) (.identifier (some ⟨3, 4⟩) "translate" .absent .absent)
          .absent (.flag false),
        .importSpecifier (some ⟨5, 6⟩) (.identifier (some ⟨5, 6⟩) "defineMessages" .absent .absent)
          .absent (.flag false)]
      (literalAt 7 "react-intl") (.flag false) .absent (.text "evaluation"),
    .expressionStatement (some ⟨10, 11⟩)
      (.callExpression (some ⟨10, 11⟩)
        (.identifier (some ⟨10, 11⟩) "defineMessages" .absent .absent)
        [.element none (.arrayExpression (some ⟨12, 13⟩)
          [.element none (.objectExpression (some ⟨14, 15⟩)
            [.keyValueProperty (.identifierName (some ⟨16, 17⟩) "id") (literalAt 18 "greeting"),
              .keyValueProperty (.identifierName (some ⟨20, 21⟩) "description")
                (literalAt 22 "above the list"),
              .keyValueProperty (.identifierName (some ⟨24, 25⟩) "defaultMessage")
                (literalAt 26 "Hello, \x7b name \x7d!")])])]
        .absent),
    .expressionStatement (some ⟨30, 31⟩)
      (.callExpression (some ⟨30, 31⟩) (.identifier (some ⟨30, 31⟩) "translate" .absent .absent)
        [.element none (literalAt 32 "bye"), .element none (literalAt 34 "none"),
          .element none (literalAt 36 "below the list")] .absent)]

/-- The module of `describedItems`. -/
def describedModule : Tree := .sourceModule (some ⟨1, 40⟩) describedItems .absent

/-- The messages of `describedModule`, where descriptions are enforced. -/
theorem extractFile_describedModule :
    ∃ tree messages,
      extractFile { enforceDescriptions := true } default ⟨"."⟩ ⟨"a.js", ""⟩ describedModule
          = (tree, default, .ok ⟨messages, [], none⟩)
        ∧ messages = [⟨"greeting", some "above the list", some "Hello, \x7bname\x7d!"⟩,
          ⟨"bye", some "below the list", none⟩]
        ∧ (messages.map Descriptor.id).Nodup
        ∧ (∀ d ∈ messages, d.description ≠ none)
        ∧ ∀ d ∈ messages, ∀ text, d.defaultMessage = some text →
          ∃ origin source, Message.normalize origin source = .ok text := by
  rcases walked : (Pass.ofModule { enforceDescriptions := true } ⟨"a.js", ""⟩ describedModule).extract
      describedModule with ⟨tree, session⟩
  have gathered : session.fault = none ∧ session.warnings = []
      ∧ session.registry.entries
        = [⟨"greeting", some "above the list", some "Hello, \x7bname\x7d!"⟩,
          ⟨"bye", some "below the list", none⟩] := by
    rw [← (Prod.mk.inj walked).2]
    decide +kernel
  have run : extractFile { enforceDescriptions := true } default ⟨"."⟩ ⟨"a.js", ""⟩ describedModule
      = (tree, session.finish { enforceDescriptions := true } default ⟨"a.js"⟩ ⟨"."⟩) :=
    extractFile_of_walk walked
  rw [Session.finish_of_unwritten gathered.1 (.inl rfl), gathered.2.1] at run
  obtain ⟨-, distinct, described, normal⟩ := extractFile_messages run
  exact ⟨tree, _, run, gathered.2.2, distinct, described rfl, normal rfl⟩

end MessageExtraction
