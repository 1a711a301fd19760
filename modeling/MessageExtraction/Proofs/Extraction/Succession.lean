import MessageExtraction.Proofs.Extraction.Marking
import MessageExtraction.Proofs.Extraction.Scoping
import MessageExtraction.Proofs.Extraction.Settled

/-!
# Later passes

A pass over the output of a run meets the references of the input again, under other names and at other
places. As long as it takes none of them for a marking function or component that the run did not, all
that it meets is settled.

* `Agrees`: what a later pass may take a reference for.
* `Settles`: what is shown of each tree and what a run makes of it, with a lemma for each form of tree.
* `settled_of_rewrites`: what a run makes of a tree is settled for a later pass.
-/

namespace MessageExtraction

open Syntax (Tree Span Identifier Frame DeclaredIn Sighting)
open Component (renamed internalName)

/-! ## Later passes -/

/-- The lists of the names that mark messages. -/
def Config.markingLists (config : Config) : List (List String) :=
  [config.translateFunctions, config.defineMessagesFunctions, config.componentNames,
    config.deprecatedComponentNames]

namespace Pass

/-- Whether a later pass takes a reference for what an earlier pass took it for, or for nothing. -/
def Agrees (pass pass' : Pass) (reference reference' : Reference) : Prop :=
  (∀ names ∈ pass.config.markingLists,
      pass'.isHelper names reference' = pass.isHelper names reference)
    ∨ ∀ names ∈ pass.config.markingLists, pass'.isHelper names reference' = false

variable {pass pass' : Pass}

theorem Agrees.helperCall? (same : pass'.config = pass.config) {span : Option Span}
    {callee callee' : Tree} {args args' : List Tree} {call' : HelperCall}
    (agrees : ∀ reference', Reference.ofCallee? callee' = some reference' →
      ∃ reference, Reference.ofCallee? callee = some reference
        ∧ pass.Agrees pass' reference reference')
    (found' : pass'.helperCall? span callee' args' = some call') :
    ∃ call, pass.helperCall? span callee args = some call ∧ call.kind = call'.kind := by
  obtain ⟨reference', named', cases'⟩ := helperCall?_some found'
  obtain ⟨reference, named, agrees⟩ := agrees reference' named'
  rw [same] at cases'
  rw [Pass.helperCall?, named]
  dsimp only [bind, Option.bind]
  rcases agrees with equal | nothing
  · rw [← equal _ (by simp [Config.markingLists]), ← equal _ (by simp [Config.markingLists])]
    rcases cases' with ⟨single, rfl⟩ | ⟨notSingle, bulk, rfl⟩
    · exact ⟨_, if_pos single, rfl⟩
    · refine ⟨⟨.bulk, reference.text, span, args⟩, ?_, rfl⟩
      rw [if_neg (by simp [notSingle]), if_pos bulk]
  · rcases cases' with ⟨single, -⟩ | ⟨-, bulk, -⟩
    · rw [nothing _ (by simp [Config.markingLists])] at single
      contradiction
    · rw [nothing _ (by simp [Config.markingLists])] at bulk
      contradiction

theorem Agrees.tagMeaning? (same : pass'.config = pass.config) {name name' : Tree}
    (agrees : ∀ reference', Reference.ofTag? name' = some reference' →
      ∃ reference, Reference.ofTag? name = some reference
        ∧ pass.Agrees pass' reference reference') :
    TagMeaning.Remains (pass.tagMeaning? name) (pass'.tagMeaning? name') := by
  rw [Pass.tagMeaning?.eq_def pass']
  cases named' : Reference.ofTag? name' with
  | none => exact .nothing
  | some reference' =>
    obtain ⟨reference, named, agrees⟩ := agrees reference' named'
    rw [Pass.tagMeaning?, named, same]
    dsimp only [bind, Option.bind]
    rcases agrees with equal | nothing
    · rw [equal _ (by simp [Config.markingLists]), equal _ (by simp [Config.markingLists])]
      split
      · exact .deprecated
      split
      · exact .message
      · exact .nothing
    · rw [nothing _ (by simp [Config.markingLists]), nothing _ (by simp [Config.markingLists])]
      exact .nothing

/-- What is known of a pass over the output of a run that turned `before` into `after` and renamed
`renames`. -/
structure IsLater (pass pass' : Pass) (renames : List String) (before after : Tree) : Prop where
  config : pass'.config = pass.config
  translate : "bind" ∉ pass.config.translateFunctions
  define : "bind" ∉ pass.config.defineMessagesFunctions
  defined : "undefined" ∉ renames
  /-- A reference that is seen before and after the run does not become one that marks. -/
  agrees : ∀ {names : List String} {chain chain' : List Frame} {reference : Reference},
    names ⊆ renames → Follows renames names chain chain' →
    ⟨reference.root.name, reference.root.offset, chain⟩ ∈ before.sightings [] →
    ⟨renamed names reference.root.name, reference.root.offset, chain'⟩ ∈ after.sightings [] →
      pass.Agrees pass' reference (reference.rename names)

end Pass

/-! ## The induction -/

namespace Syntax.Tree

variable {chain : List Frame} {span : Option Span} {all : List Sighting}

/-- What is seen in the parts of a call is seen in the call. -/
theorem subset_of_call {callee types : Tree} {args : List Tree}
    (h : (callExpression span callee args types).sightings chain ⊆ all) :
    callee.sightings (⟨callExpression span callee args types, 0⟩ :: chain) ⊆ all
      ∧ sightingsOf (⟨callExpression span callee args types, 1⟩ :: chain) .absent 0 args ⊆ all
      ∧ types.sightings (⟨callExpression span callee args types, 2⟩ :: chain) ⊆ all := by
  simpa [sightings, sightingsOf, sightingHere, List.append_subset] using h

/-- What is seen in the parts of a tag is seen in the tag. -/
theorem subset_of_tag {name closing types : Tree} {attributes : List Tree}
    (h : (jsxOpeningElement span name attributes closing types).sightings chain ⊆ all) :
    name.sightings (⟨jsxOpeningElement span name attributes closing types, 0⟩ :: chain) ⊆ all
      ∧ sightingsOf (⟨jsxOpeningElement span name attributes closing types, 1⟩ :: chain) .absent 0
          attributes ⊆ all
      ∧ types.sightings (⟨jsxOpeningElement span name attributes closing types, 3⟩ :: chain)
          ⊆ all := by
  simp only [sightings, sightingsOf, sightingHere, List.append_subset, List.append_nil] at h
  exact ⟨h.2.1, h.2.2.1, h.2.2.2.2⟩

/-- What is seen in the parts of an identifier is seen in the identifier. -/
theorem subset_of_identifier {name : String} {o d : Tree}
    (h : (identifier span name o d).sightings chain ⊆ all) :
    o.sightings (⟨identifier span name o d, 1⟩ :: chain) ⊆ all
      ∧ d.sightings (⟨identifier span name o d, 2⟩ :: chain) ⊆ all := by
  simp only [sightings, sightingsOf, List.append_subset, List.append_nil] at h
  exact h.2.2

/-- What is seen in the value of a property is seen in the property. -/
theorem subset_of_property {key value : Tree}
    (h : (keyValueProperty key value).sightings chain ⊆ all) :
    value.sightings (⟨keyValueProperty key value, 1⟩ :: chain) ⊆ all := by
  simp only [sightings, sightingsOf, List.append_subset, List.append_nil] at h
  exact h.2.2

/-- What is seen in the fields of a node is seen in the node. -/
theorem subset_of_node {kind : Kind} {fields : List Tree}
    (h : (node kind span fields).sightings chain ⊆ all) :
    sightingsOf chain (node kind span fields) 0 fields ⊆ all := by
  rw [sightings] at h
  exact (List.append_subset.mp h).2

theorem subset_of_append {parent : Tree} {i : Nat} {ts us : List Tree}
    (h : sightingsOf chain parent i (ts ++ us) ⊆ all) : sightingsOf chain parent i ts ⊆ all := by
  induction ts generalizing i with
  | nil => exact List.nil_subset _
  | cons t ts ih =>
    obtain ⟨head, tail⟩ := List.append_subset.mp h
    exact List.append_subset.mpr ⟨head, ih tail⟩

theorem subset_of_tail {parent : Tree} {i : Nat} {ts : List Tree}
    (h : sightingsOf chain parent i ts ⊆ all) :
    sightingsOf chain parent (i + 1) ts.tail ⊆ all := by
  cases ts with
  | nil => exact List.nil_subset _
  | cons t ts => exact (List.append_subset.mp h).2

end Syntax.Tree

namespace Pass

variable {pass pass' : Pass} {r : Registry} {renames : List String} {before after : Tree}

theorem Rewrites.keepsForm {names : List String} {t u : Tree} (h : pass.Rewrites r names t u) :
    Syntax.Tree.KeepsForm t u := by
  cases h with
  | list => exact ⟨fun _ _ => ⟨_, rfl⟩, nofun⟩
  | text => exact ⟨nofun, fun _ eq => eq⟩
  | _ => exact ⟨nofun, nofun⟩

theorem RewritesAll.keepsForm {names : List String} {ts us : List Tree}
    (h : pass.RewritesAll r names ts us) : List.Forall₂ Syntax.Tree.KeepsForm ts us :=
  h.forall₂.imp fun _ _ => Rewrites.keepsForm

/-- What names a function after a run is taken for no more than before. -/
theorem IsLater.callee (later : IsLater pass pass' renames before after) {names : List String}
    {chain chain' : List Frame} {t u : Tree} (h : pass.Rewrites r names t u)
    (subset : names ⊆ renames) (follows : Follows renames names chain chain')
    (seen : t.sightings chain ⊆ before.sightings [])
    (seen' : u.sightings chain' ⊆ after.sightings []) (reference' : Reference)
    (named' : Reference.ofCallee? u = some reference') :
    ∃ reference, Reference.ofCallee? t = some reference
      ∧ pass.Agrees pass' reference reference' := by
  obtain ⟨reference, named, rfl⟩ := h.ofCallee? named'
  obtain ⟨extra, plain, sighted⟩ := Reference.sighted_of_ofCallee? named chain
  obtain ⟨extra', -, sighted'⟩ := Reference.sighted_of_ofCallee? named' chain'
  rw [Reference.root_rename] at sighted'
  exact ⟨reference, named, later.agrees subset (follows.extend plain) (seen sighted) (seen' sighted')⟩

/-- A call that marks after a run has marked as much before it. -/
theorem IsLater.helperCall? (later : IsLater pass pass' renames before after) {names : List String}
    {chain chain' : List Frame} {span : Option Span} {callee callee' : Tree} {args args' : List Tree}
    {call' : HelperCall} (function : pass.Rewrites r names callee callee') (subset : names ⊆ renames)
    (follows : Follows renames names chain chain')
    (seen : callee.sightings chain ⊆ before.sightings [])
    (seen' : callee'.sightings chain' ⊆ after.sightings [])
    (found' : pass'.helperCall? span callee' args' = some call') :
    ∃ call, pass.helperCall? span callee args = some call ∧ call.kind = call'.kind :=
  Agrees.helperCall? later.config (later.callee function subset follows seen seen') found'

/-- What names a tag after a run is taken for no more than before. -/
theorem IsLater.tagName (later : IsLater pass pass' renames before after) {names : List String}
    {chain chain' : List Frame} {t u : Tree} (h : pass.Rewrites r names t u)
    (subset : names ⊆ renames) (follows : Follows renames names chain chain')
    (seen : t.sightings chain ⊆ before.sightings [])
    (seen' : u.sightings chain' ⊆ after.sightings []) (reference' : Reference)
    (named' : Reference.ofTag? u = some reference') :
    ∃ reference, Reference.ofTag? t = some reference
      ∧ pass.Agrees pass' reference reference' := by
  obtain ⟨reference, named, rfl⟩ := h.ofTag? named'
  obtain ⟨extra, plain, sighted⟩ := Reference.sighted_of_ofTag? named chain
  obtain ⟨extra', -, sighted'⟩ := Reference.sighted_of_ofTag? named' chain'
  rw [Reference.root_rename] at sighted'
  exact ⟨reference, named, later.agrees subset (follows.extend plain) (seen sighted) (seen' sighted')⟩

/-- A call for many messages that a run has left as it was is left so by a later pass. -/
theorem IsLater.held_of_bulk (later : IsLater pass pass' renames before after) {names : List String}
    {span : Option Span} {callee callee' : Tree} {args args' : List Tree} {call call' : HelperCall}
    (marks : pass.helperCall? span callee args = some call)
    (marks' : pass'.helperCall? span callee' args' = some call') (sameKind : call.kind = call'.kind)
    (kind : call.kind = .bulk) (kept : call.replacement? = none)
    (held : ∀ finding ∈ call.findings pass, finding.IsHeld r) (subset : names ⊆ renames)
    (given : pass.RewritesAll r names args args') :
    call'.kind = .bulk ∧ call'.replacement? = none
      ∧ ∀ finding ∈ call'.findings pass', finding.IsHeld r := by
  rw [← args_of_helperCall? marks, ← args_of_helperCall? marks'] at given
  have kind' : call'.kind = .bulk := sameKind ▸ kind
  obtain ⟨kept', held'⟩ :=
    given.findings_held (fun mem => later.defined (subset mem)) kind kind' kept held
  exact ⟨kind', kept', findings_held_of_config later.config kind' held'⟩

/-- A call for many messages in array form is left by a later pass as the run has made it. -/
theorem IsLater.held_of_merged (later : IsLater pass pass' renames before after)
    {span : Option Span} {callee' : Tree} {rest : List Tree} {call call' : HelperCall}
    {value : StaticValue}
    (marks' : pass'.helperCall? span callee' (.element none value.toTree :: rest) = some call')
    (sameKind : call.kind = call'.kind) (kind : call.kind = .bulk)
    (array : call.argument = .merged value)
    (held : ∀ finding ∈ call.findings pass, finding.IsHeld r) :
    call'.kind = .bulk ∧ call'.replacement? = none
      ∧ ∀ finding ∈ call'.findings pass', finding.IsHeld r := by
  have kind' : call'.kind = .bulk := sameKind ▸ kind
  obtain ⟨kept', held'⟩ := findings_held_of_merged kind kind' array (args_of_helperCall? marks') held
  exact ⟨kind', kept', findings_held_of_config later.config kind' held'⟩

/-! ### One form of tree each -/

/-- Whether `u`, as what a run makes of `t` under new names, is settled for a later pass wherever both are
seen. -/
def Settles (pass' : Pass) (r : Registry) (renames : List String) (before after : Tree)
    (names : List String) (t u : Tree) : Prop :=
  ∀ ⦃chain chain' : List Frame⦄, Follows renames names chain chain' →
    t.sightings chain ⊆ before.sightings [] → u.sightings chain' ⊆ after.sightings [] →
      pass'.Settled r u

/-- Whether the same holds of several trees, in places that declare the same but for the new names. -/
def SettlesAll (pass' : Pass) (r : Registry) (renames : List String) (before after : Tree)
    (names : List String) (ts us : List Tree) : Prop :=
  ∀ ⦃chain chain' : List Frame⦄ ⦃parent parent' : Tree⦄ ⦃i : Nat⦄, Follows renames names chain chain' →
    (∀ j name, name ∈ parent.declaredNames j → renamed names name ∈ parent'.declaredNames j) →
    Tree.sightingsOf chain parent i ts ⊆ before.sightings [] →
    Tree.sightingsOf chain' parent' i us ⊆ after.sightings [] → pass'.SettledAll r us

/-- The items of a list are declared nothing. -/
theorem absent_declares {names : List String} {parent' : Tree} (j : Nat) (name : String)
    (h : name ∈ Tree.absent.declaredNames j) : renamed names name ∈ parent'.declaredNames j :=
  absurd h List.not_mem_nil

section Forms

variable {names : List String} {span : Option Span} {t u callee callee' types types' : Tree}
  {ts us args args' : List Tree}

theorem settles_list (items : SettlesAll pass' r renames before after names ts us) :
    Settles pass' r renames before after names (.list ts) (.list us) := fun _ _ follows seen seen' =>
  items follows absent_declares seen seen'

theorem settlesAll_nil : SettlesAll pass' r renames before after names [] [] :=
  fun _ _ _ _ _ _ _ _ _ => trivial

theorem settlesAll_cons (head : Settles pass' r renames before after names t u)
    (tail : SettlesAll pass' r renames before after names ts us) :
    SettlesAll pass' r renames before after names (t :: ts) (u :: us) := by
  intro chain chain' parent parent' i follows declared seen seen'
  obtain ⟨seenHead, seenTail⟩ := List.append_subset.mp seen
  obtain ⟨seenHead', seenTail'⟩ := List.append_subset.mp seen'
  have inside : Follows renames names (⟨parent, i⟩ :: chain) (⟨parent', i⟩ :: chain') :=
    follows.cons (declared i)
  exact ⟨head inside seenHead seenHead', tail follows declared seenTail seenTail'⟩

/-- What is settled can be put behind. -/
theorem settlesAll_append {added : List Tree}
    (given : SettlesAll pass' r renames before after names ts us) (settled : pass'.SettledAll r added) :
    SettlesAll pass' r renames before after names ts (us ++ added) :=
  fun _ _ _ _ _ follows declared seen seen' =>
    (settledAll_append _ _).mpr ⟨given follows declared seen (Tree.subset_of_append seen'), settled⟩

/-- Something settled can take the place of the first tree. -/
theorem settlesAll_replaced (settled : pass'.Settled r u)
    (given : SettlesAll pass' r renames before after names ts.tail us) :
    SettlesAll pass' r renames before after names ts (u :: us) :=
  fun _ _ _ _ _ follows declared seen seen' =>
    ⟨settled, given follows declared (Tree.subset_of_tail seen) (List.append_subset.mp seen').2⟩

theorem settles_identifier {name name' : String} {o o' d d' : Tree} (subset : names ⊆ renames)
    (isOptional : Settles pass' r renames before after [] o o')
    (declaredType : Settles pass' r renames before after names d d') :
    Settles pass' r renames before after names (.identifier span name o d)
      (.identifier span name' o' d') := by
  intro chain chain' follows seen seen'
  obtain ⟨seenO, seenD⟩ := Tree.subset_of_identifier seen
  obtain ⟨seenO', seenD'⟩ := Tree.subset_of_identifier seen'
  exact ⟨trivial, isOptional ((follows.of_subset subset).undeclared rfl) seenO seenO',
    declaredType (follows.undeclared rfl) seenD seenD', trivial⟩

/-- The parts of a call are settled one by one, and the call if what it marks is marked already. -/
theorem settles_call
    (marks : ∀ ⦃chain chain' : List Frame⦄, Follows renames names chain chain' →
      callee.sightings chain ⊆ before.sightings [] → callee'.sightings chain' ⊆ after.sightings [] →
      ∀ call', pass'.helperCall? span callee' args' = some call' →
        call'.kind = .bulk ∧ call'.replacement? = none
          ∧ ∀ finding ∈ call'.findings pass', finding.IsHeld r)
    (function : Settles pass' r renames before after names callee callee')
    (given : SettlesAll pass' r renames before after names args args')
    (typeArguments : Settles pass' r renames before after names types types') :
    Settles pass' r renames before after names (.callExpression span callee args types)
      (.callExpression span callee' args' types') := by
  intro chain chain' follows seen seen'
  obtain ⟨seenCallee, seenArgs, seenTypes⟩ := Tree.subset_of_call seen
  obtain ⟨seenCallee', seenArgs', seenTypes'⟩ := Tree.subset_of_call seen'
  exact ⟨marks (follows.undeclared rfl) seenCallee seenCallee',
    function (follows.undeclared rfl) seenCallee seenCallee',
    given (follows.undeclared rfl) absent_declares seenArgs seenArgs',
    typeArguments (follows.undeclared rfl) seenTypes seenTypes'⟩

theorem settles_otherCall (later : IsLater pass pass' renames before after) (subset : names ⊆ renames)
    (other : pass.helperCall? span callee args = none) (callees : pass.Rewrites r names callee callee')
    (function : Settles pass' r renames before after names callee callee')
    (given : SettlesAll pass' r renames before after names args args')
    (typeArguments : Settles pass' r renames before after names types types') :
    Settles pass' r renames before after names (.callExpression span callee args types)
      (.callExpression span callee' args' types') := by
  refine settles_call (fun _ _ follows seen seen' call' found' => ?_) function given typeArguments
  obtain ⟨call, found, -⟩ := later.helperCall? callees subset follows seen seen' found'
  rw [other] at found
  contradiction

/-- The function that a call for one message is made on now stands two nodes deeper: in the member that binds
it, in the call of that. -/
theorem settles_bound (later : IsLater pass pass' renames before after)
    (function : Settles pass' r renames before after names callee callee') :
    Settles pass' r renames before after names callee (HelperCall.bound callee') := by
  intro chain chain' follows seen seen'
  have seenMember' := (Tree.subset_of_call seen').1
  have seenFunction' := (List.append_subset.mp (Tree.subset_of_node seenMember')).1
  exact settled_bound (later.config ▸ later.translate) (later.config ▸ later.define)
    (function follows.made.made seen seenFunction')

theorem settles_single (later : IsLater pass pass' renames before after) {added : List Tree}
    (settled : pass'.SettledAll r added)
    (function : Settles pass' r renames before after names callee callee')
    (given : SettlesAll pass' r renames before after names args args')
    (typeArguments : Settles pass' r renames before after names types types') :
    Settles pass' r renames before after names (.callExpression span callee args types)
      (.callExpression span (HelperCall.bound callee') (args' ++ added) types') := by
  refine settles_call (fun _ _ _ _ _ call' found' => ?_) (settles_bound later function)
    (settlesAll_append given settled) typeArguments
  -- A call of a call marks nothing.
  obtain ⟨reference, named, -⟩ := helperCall?_some found'
  contradiction

theorem settles_bulk (later : IsLater pass pass' renames before after) (subset : names ⊆ renames)
    {call : HelperCall} (marks : pass.helperCall? span callee args = some call) (kind : call.kind = .bulk)
    (kept : call.replacement? = none) (held : ∀ finding ∈ call.findings pass, finding.IsHeld r)
    (callees : pass.Rewrites r names callee callee') (arguments : pass.RewritesAll r names args args')
    (function : Settles pass' r renames before after names callee callee')
    (given : SettlesAll pass' r renames before after names args args')
    (typeArguments : Settles pass' r renames before after names types types') :
    Settles pass' r renames before after names (.callExpression span callee args types)
      (.callExpression span callee' args' types') := by
  refine settles_call (fun _ _ follows seen seen' call' found' => ?_) function given typeArguments
  obtain ⟨call, found, sameKind⟩ := later.helperCall? callees subset follows seen seen' found'
  obtain rfl := Option.some.inj (marks.symm.trans found)
  exact later.held_of_bulk marks found' sameKind kind kept held subset arguments

theorem settles_merged (later : IsLater pass pass' renames before after) (subset : names ⊆ renames)
    {call : HelperCall} {value : StaticValue} (marks : pass.helperCall? span callee args = some call)
    (kind : call.kind = .bulk) (array : call.argument = .merged value)
    (held : ∀ finding ∈ call.findings pass, finding.IsHeld r)
    (callees : pass.Rewrites r names callee callee')
    (function : Settles pass' r renames before after names callee callee')
    (given : SettlesAll pass' r renames before after names args.tail args')
    (typeArguments : Settles pass' r renames before after names types types') :
    Settles pass' r renames before after names (.callExpression span callee args types)
      (.callExpression span callee' (.element none value.toTree :: args') types') := by
  have element : pass'.Settled r (.element none value.toTree) := ⟨settled_toTree value, trivial⟩
  refine settles_call (fun _ _ follows seen seen' call' found' => ?_) function
    (settlesAll_replaced element given) typeArguments
  obtain ⟨call, found, sameKind⟩ := later.helperCall? callees subset follows seen seen' found'
  obtain rfl := Option.some.inj (marks.symm.trans found)
  exact later.held_of_merged found' sameKind kind array held

theorem settles_tag (later : IsLater pass pass' renames before after) (subset : names ⊆ renames)
    {name name' closing closing' : Tree} {attributes attributes' : List Tree}
    (held : ∀ finding ∈ pass.tagFindings span name attributes, finding.IsHeld r)
    (names' : pass.Rewrites r names name name')
    (attributed : pass.RewritesAll r names attributes attributes')
    (tagName : Settles pass' r renames before after names name name')
    (given : SettlesAll pass' r renames before after names attributes attributes')
    (typeArguments : Settles pass' r renames before after names types types') :
    Settles pass' r renames before after names (.jsxOpeningElement span name attributes closing types)
      (.jsxOpeningElement span name' (attributes' ++ pass.addedAttributes name attributes) closing'
        types') := by
  intro chain chain' follows seen seen'
  obtain ⟨seenName, seenAttributes, seenTypes⟩ := Tree.subset_of_tag seen
  obtain ⟨seenName', seenAttributes', seenTypes'⟩ := Tree.subset_of_tag seen'
  have remains := Agrees.tagMeaning? later.config
    (later.tagName names' subset (follows.undeclared rfl) seenName seenName')
  have behind := settlesAll_append given (settled_addedAttributes pass name attributes)
  exact ⟨attributed.tag_held (fun mem => later.defined (subset mem)) later.config remains held,
    tagName (follows.undeclared rfl) seenName seenName',
    behind (follows.undeclared rfl) absent_declares seenAttributes seenAttributes',
    typeArguments (follows.undeclared rfl) seenTypes seenTypes'⟩

theorem settles_object (properties : SettlesAll pass' r renames before after names ts us) :
    Settles pass' r renames before after names (.objectExpression span ts) (.objectExpression span us) := by
  intro chain chain' follows seen seen'
  have inner := (List.append_subset.mp (Tree.subset_of_node seen)).1
  have inner' := (List.append_subset.mp (Tree.subset_of_node seen')).1
  exact ⟨properties (follows.undeclared rfl) absent_declares inner inner', trivial⟩

/-- The value of a property that is written out stands one node deeper than the name it was written as. -/
theorem settles_shorthand {name : String} {o o' d d' : Tree} (subset : names ⊆ renames)
    (isOptional : Settles pass' r renames before after [] o o')
    (declaredType : Settles pass' r renames before after [] d d') :
    Settles pass' r renames before after names (.identifier span name o d)
      (.keyValueProperty (.identifierName span name) (.identifier span (internalName name) o' d')) := by
  intro chain chain' follows seen seen'
  obtain ⟨seenO, seenD⟩ := Tree.subset_of_identifier seen
  obtain ⟨seenO', seenD'⟩ := Tree.subset_of_identifier (Tree.subset_of_property seen')
  have inside := follows.of_subset subset
  exact ⟨⟨trivial, trivial⟩,
    ⟨trivial, isOptional (inside.made.undeclared rfl) seenO seenO',
      declaredType (inside.made.undeclared rfl) seenD seenD', trivial⟩,
    trivial⟩

theorem settles_exportSpecifier (fields : SettlesAll pass' r renames before after names ts us) :
    Settles pass' r renames before after names (.node .exportSpecifier span ts)
      (.node .exportSpecifier span us) := fun _ _ follows seen seen' =>
  fields follows (fun _ _ declared => absurd declared List.not_mem_nil) (Tree.subset_of_node seen)
    (Tree.subset_of_node seen')

theorem settles_node {kind : Syntax.Kind}
    (plain : (Syntax.Tree.node kind span ts).isPlain = true)
    (rewritten : pass.RewritesAll r names ts us)
    (fields : SettlesAll pass' r renames before after names ts us) :
    Settles pass' r renames before after names (.node kind span ts) (.node kind span us) := by
  intro chain chain' follows seen seen'
  refine (settled_plain (Syntax.Tree.isPlain_of_keepsForm plain rewritten.keepsForm)).mpr ?_
  exact fields follows (fun j _ mem => (Rewrites.node plain rewritten).declaredNames j mem)
    (Tree.subset_of_node seen) (Tree.subset_of_node seen')

/-- Where no new names are in force, what holds without them holds. -/
theorem Settles.of_nil (h : Settles pass' r renames before after [] t u) (subset : names ⊆ renames) :
    Settles pass' r renames before after names t u := fun _ _ follows seen seen' =>
  h (follows.of_subset subset) seen seen'

end Forms

/-! ### All trees -/

mutual
/-- What a run makes of a tree is settled for a later pass. -/
theorem settled_of_rewrites (later : IsLater pass pass' renames before after) :
    {t u : Tree} → {names : List String} → pass.Rewrites r names t u → names ⊆ renames →
      Settles pass' r renames before after names t u
  | _, _, _, .absent, _ | _, _, _, .flag, _ | _, _, _, .text, _ | _, _, _, .number, _ =>
    fun _ _ _ _ _ => trivial
  | _, _, _, .list items, subset => settles_list (settledAll_of_rewrites later items subset)
  | _, _, _, .identifier isOptional declaredType, subset =>
    settles_identifier subset (settled_of_rewrites later isOptional (List.nil_subset _))
      (settled_of_rewrites later declaredType subset)
  | _, _, _, .otherCall other function given types, subset =>
    settles_otherCall later subset other function (settled_of_rewrites later function subset)
      (settledAll_of_rewrites later given subset) (settled_of_rewrites later types subset)
  | _, _, _, .single _ _ _ function given types, subset =>
    settles_single later (settled_missingArguments _ _ _ _) (settled_of_rewrites later function subset)
      (settledAll_of_rewrites later given subset) (settled_of_rewrites later types subset)
  | _, _, _, .bulk marks kind kept held function given types, subset =>
    settles_bulk later subset marks kind kept held function given
      (settled_of_rewrites later function subset) (settledAll_of_rewrites later given subset)
      (settled_of_rewrites later types subset)
  | _, _, _, .merged marks kind array held function given types, subset =>
    settles_merged later subset marks kind array held function
      (settled_of_rewrites later function subset) (settledAll_of_rewrites later given subset)
      (settled_of_rewrites later types subset)
  | _, _, _, .tag held tagName given types, subset =>
    settles_tag later subset held tagName given (settled_of_rewrites later tagName subset)
      (settledAll_of_rewrites later given subset) (settled_of_rewrites later types subset)
  | _, _, _, .object properties, subset =>
    settles_object (settledProperties_of_rewrites later properties subset)
  | _, _, _, .exportSpecifier fields, subset =>
    (settles_exportSpecifier (settledAll_of_rewrites later fields (List.nil_subset _))).of_nil subset
  | _, _, _, .node plain fields, subset =>
    settles_node plain fields (settledAll_of_rewrites later fields subset)

/-- What a run makes of several trees is settled for a later pass. -/
theorem settledAll_of_rewrites (later : IsLater pass pass' renames before after) :
    {ts us : List Tree} → {names : List String} → pass.RewritesAll r names ts us → names ⊆ renames →
      SettlesAll pass' r renames before after names ts us
  | _, _, _, .nil, _ => settlesAll_nil
  | _, _, _, .cons head tail, subset =>
    settlesAll_cons (settled_of_rewrites later head subset) (settledAll_of_rewrites later tail subset)

/-- What a run makes of the properties of an object literal is settled for a later pass. -/
theorem settledProperties_of_rewrites (later : IsLater pass pass' renames before after) :
    {ts us : List Tree} → {names : List String} → pass.RewritesProperties r names ts us →
      names ⊆ renames → SettlesAll pass' r renames before after names ts us
  | _, _, _, .nil, _ => settlesAll_nil
  | _, _, _, .shorthand _ isOptional declaredType tail, subset =>
    settlesAll_cons (settles_shorthand subset (settled_of_rewrites later isOptional (List.nil_subset _))
        (settled_of_rewrites later declaredType (List.nil_subset _)))
      (settledProperties_of_rewrites later tail subset)
  | _, _, _, .otherShorthand _ isOptional declaredType tail, subset =>
    settlesAll_cons
      ((settles_identifier (List.nil_subset _) (settled_of_rewrites later isOptional (List.nil_subset _))
        (settled_of_rewrites later declaredType (List.nil_subset _))).of_nil subset)
      (settledProperties_of_rewrites later tail subset)
  | _, _, _, .property _ head tail, subset =>
    settlesAll_cons (settled_of_rewrites later head subset)
      (settledProperties_of_rewrites later tail subset)
end

end Pass

end MessageExtraction
