import MessageExtraction.Proofs.Extraction.Keeping
import MessageExtraction.Proofs.Extraction.Merging
import MessageExtraction.Proofs.Extraction.Rewriting
import MessageExtraction.Proofs.Report.SourceLine

/-!
# Where findings are reported

A finding is reported at the call or tag that it is found at, or at a part of it: an item of an array, the
value of a property, an attribute. The object that replaces an array is not in the source, so what is wrong
with a message of such an object is reported at the call.

* `IsParsed`: what a parser makes; each node has its place in the source, or its parts have.
* `exists_foundAt`: what is found in a tree is found at one of its nodes.
* `FoundAt.isReportedIn`: what is found at a node is reported at a node of the source.
* `extractFile_reports`: so all that comes of a file is reported on a line of it.
-/

namespace MessageExtraction

open Syntax (Tree Span Kind)

/-! ## Parsed trees -/

namespace Syntax.Tree

/-- Whether a tree is a node with a place in the source. -/
def isPlaced : Tree → Bool
  | .node _ (some span) _ => !span.isMade
  | _ => false

/-- Whether a tree can be a property of an object literal in the source. -/
def isParsedProperty (t : Tree) : Bool :=
  match t with
  | .keyValueProperty _ _ => true
  | t => t.kind? == some .spreadElement || t.isPlaced

/-- Whether a node is as a parser makes it: it has its place in the source, or the parts of it that count
have theirs. -/
def isParsedNode (t : Tree) : Bool :=
  match t with
  | .element _ e => e.isPlaced
  | .keyValueProperty _ value => value.isPlaced
  | .objectExpression _ properties => t.isPlaced && properties.all isParsedProperty
  | .node kind _ _ => kind.shape.spanField != .span || t.isPlaced
  | _ => true

/-- Whether a tree is as a parser makes it. -/
def IsParsed (t : Tree) : Prop := ∀ u ∈ t.nodes, u.isParsedNode = true

instance (t : Tree) : Decidable t.IsParsed :=
  inferInstanceAs (Decidable (∀ u ∈ t.nodes, u.isParsedNode = true))

variable {t u : Tree} {ts : List Tree} {kind : Kind} {span : Option Span}

theorem nodes_subset_nodesOf (mem : t ∈ ts) : t.nodes ⊆ nodesOf ts := by
  induction ts with
  | nil => contradiction
  | cons u ts ih =>
    rw [nodesOf]
    rcases List.mem_cons.mp mem with rfl | mem
    · exact List.subset_append_left _ _
    · exact List.Subset.trans (ih mem) (List.subset_append_right _ _)

theorem nodes_subset_of_field (mem : t ∈ ts) : t.nodes ⊆ (Tree.node kind span ts).nodes :=
  List.Subset.trans (nodes_subset_nodesOf mem) (List.subset_cons_self _ _)

theorem nodes_subset_of_listed {fields : List Tree} (mem : t ∈ ts) (listed : .list ts ∈ fields) :
    t.nodes ⊆ (Tree.node kind span fields).nodes :=
  List.Subset.trans (nodes_subset_nodesOf mem) (nodes_subset_of_field listed)

mutual
/-- The nodes below a node of a tree are nodes of the tree. -/
theorem nodes_subset : (t : Tree) → ∀ u ∈ t.nodes, u.nodes ⊆ t.nodes
  | .node kind span fields, u, mem => by
    rcases List.mem_cons.mp mem with rfl | mem
    · exact List.Subset.refl _
    · exact List.Subset.trans (nodesOf_subset fields u mem) (List.subset_cons_self _ _)
  | .list items, u, mem => nodesOf_subset items u mem

theorem nodesOf_subset : (ts : List Tree) → ∀ u ∈ nodesOf ts, u.nodes ⊆ nodesOf ts
  | t :: ts, u, mem => by
    rcases List.mem_append.mp mem with mem | mem
    · exact List.Subset.trans (nodes_subset t u mem) (List.subset_append_left _ _)
    · exact List.Subset.trans (nodesOf_subset ts u mem) (List.subset_append_right _ _)
end

theorem IsParsed.of_subset (parsed : t.IsParsed) (below : u.nodes ⊆ t.nodes) : u.IsParsed :=
  fun v mem => parsed v (below mem)

/-- A node of a kind that has a place of its own is placed. -/
theorem IsParsed.isPlaced {fields : List Tree} (parsed : (Tree.node kind span fields).IsParsed)
    (standing : kind.shape.spanField = .span) : (Tree.node kind span fields).isPlaced = true := by
  have whole := parsed _ List.mem_cons_self
  unfold isParsedNode at whole
  split at whole
  · rename_i eq
    cases eq
    contradiction
  · rename_i eq
    cases eq
    contradiction
  · exact ((Bool.and_eq_true _ _).mp whole).1
  · rename_i eq
    cases eq
    simpa [standing] using whole
  · rename_i other
    exact absurd rfl (other kind span fields)

theorem mem_nodes_of_isPlaced (placed : t.isPlaced = true) : t ∈ t.nodes := by
  cases t with
  | node kind span fields => exact List.mem_cons_self
  | _ => contradiction

/-- The nodes inside parentheses and type annotations are nodes of the whole. -/
theorem nodes_unwrap_subset (t : Tree) : t.unwrap.nodes ⊆ t.nodes := by
  fun_induction unwrap t with
  | case1 _ _ ih | case3 _ _ ih | case2 _ _ _ ih | case4 _ _ _ ih =>
    exact List.Subset.trans ih (nodes_subset_of_field List.mem_cons_self)
  | case5 => exact List.Subset.refl _

theorem nodes_subset_of_unwrap {e : Tree} (inside : e.unwrap = t) :
    t.nodes ⊆ (Tree.element span e).nodes :=
  List.Subset.trans (inside ▸ nodes_unwrap_subset e) (nodes_subset_of_field List.mem_cons_self)

end Syntax.Tree

/-! ## Where a finding is reported -/

/-- Whether a finding is reported at a node of a tree that has its place in the source. -/
def Finding.IsReportedIn (finding : Finding) (t : Tree) : Prop :=
  ∃ u ∈ t.nodes, u.isPlaced = true ∧ finding.span = u.span?

theorem Finding.IsReportedIn.of_subset {finding : Finding} {t u : Tree} (h : finding.IsReportedIn u)
    (below : u.nodes ⊆ t.nodes) : finding.IsReportedIn t := by
  obtain ⟨v, mem, placed, span⟩ := h
  exact ⟨v, below mem, placed, span⟩

theorem Finding.isReportedIn_of_isPlaced {finding : Finding} {t : Tree} (placed : t.isPlaced = true)
    (span : finding.span = t.span?) : finding.IsReportedIn t :=
  ⟨t, Syntax.Tree.mem_nodes_of_isPlaced placed, placed, span⟩

open Finding (isReportedIn_of_isPlaced)
open Syntax.Tree (isPlaced isParsedProperty nodes_subset_of_field nodes_subset_of_listed
  nodes_subset_of_unwrap)

/-! ## Calls: properties -/

theorem Pass.span_of_mem_fieldsFindings {pass : Pass} {fields : Descriptor.Fields} {required : Bool}
    {span : Option Span} {finding : Finding} (mem : finding ∈ pass.fieldsFindings fields required span) :
    finding.span = span := by
  rw [fieldsFindings] at mem
  split at mem
  · rw [List.mem_singleton.mp mem]
  · contradiction
  · rw [List.mem_singleton.mp mem]

namespace HelperCall

variable {call : HelperCall} {pass : Pass} {finding : Finding} {property : Tree}

theorem span_of_keyValueProperty {key value : Tree}
    (mem : finding ∈ call.propertyFindings pass (.keyValueProperty key value)) :
    finding.span = call.spanOr value.span? := by
  rw [propertyFindings] at mem
  split at mem
  · rw [List.mem_singleton.mp mem, staticFault]
  split at mem
  · rw [List.mem_singleton.mp mem, staticFault]
  split at mem
  · rw [List.mem_singleton.mp mem, shapeFault]
  split at mem
  · rw [List.mem_singleton.mp mem]
  · exact Pass.span_of_mem_fieldsFindings mem

theorem spanOr_of_isPlaced {value : Tree} (placed : value.isPlaced = true) :
    call.spanOr value.span? = value.span? := by
  have real : value.span? ≠ some .made := by
    intro made
    unfold isPlaced at placed
    split at placed
    · cases made
      contradiction
    · contradiction
  rw [spanOr, if_neg real]

/-- What a property in the source holds is reported at its value, at the property or at the call. -/
theorem isReportedIn_of_mem_propertyFindings (parsed : property.IsParsed)
    (isProperty : property.isParsedProperty = true)
    (mem : finding ∈ call.propertyFindings pass property) :
    finding.span = call.span ∨ finding.IsReportedIn property := by
  have found := mem
  rw [propertyFindings.eq_def] at mem
  split at mem
  · rename_i key value
    have placed : value.isPlaced = true := parsed _ List.mem_cons_self
    refine .inr ((isReportedIn_of_isPlaced placed ?_).of_subset (nodes_subset_of_field (by simp)))
    rw [span_of_keyValueProperty found, spanOr_of_isPlaced placed]
  · rename_i span name _ _
    refine .inr (isReportedIn_of_isPlaced isProperty ?_)
    rw [List.mem_singleton.mp mem]
    rfl
  · rename_i notKeyValue _
    split at mem
    · rw [List.mem_singleton.mp mem]
      exact .inl rfl
    · rename_i notSpread
      have placed : property.isPlaced = true := by
        unfold isParsedProperty at isProperty
        split at isProperty
        · exact absurd rfl (notKeyValue _ _)
        · simpa [notSpread] using isProperty
      refine .inr (isReportedIn_of_isPlaced placed ?_)
      rw [List.mem_singleton.mp mem]
      rfl

theorem span_toTree (value : StaticValue) : value.toTree.span? = some .made := by
  cases value <;> rfl

/-- What a property that is not in the source holds is reported at the call. -/
theorem span_of_mem_propertyTrees {entries : List (String × StaticValue)}
    (made : property ∈ StaticValue.propertyTrees entries)
    (mem : finding ∈ call.propertyFindings pass property) : finding.span = call.span := by
  induction entries with
  | nil => contradiction
  | cons entry entries ih =>
    rcases List.mem_cons.mp made with rfl | made
    · rw [span_of_keyValueProperty mem, span_toTree, spanOr, if_pos rfl]
    · exact ih made

/-! ## Calls: arguments -/

theorem exists_objectExpression {properties : List Tree}
    (h : call.argument = .properties properties) :
    ∃ e span, .element none e ∈ call.args ∧ e.unwrap = .objectExpression span properties := by
  rw [argument] at h
  split at h
  · rename_i e _ args
    split at h
    · cases h
    · rename_i object
      cases h
      exact ⟨e, _, args ▸ List.mem_cons_self, object⟩
    · split at h <;> cases h
    · cases h
  · cases h

theorem isReportedIn_of_unusable (parsed : ∀ argument ∈ call.args, argument.IsParsed)
    (unusable : call.argument = .unusable finding) :
    finding.span = call.span ∨ ∃ argument ∈ call.args, finding.IsReportedIn argument := by
  obtain ⟨items, refuses, origin⟩ := refuses_of_unusable unusable
  refine refuses.place.imp id ?_
  rintro ⟨item, mem, place⟩
  obtain ⟨e, span, given, array⟩ := origin.resolve_left (List.ne_nil_of_mem mem)
  have below : (Tree.element none item).nodes ⊆ (Tree.element none e).nodes :=
    List.Subset.trans (nodes_subset_of_listed mem List.mem_cons_self) (nodes_subset_of_unwrap array)
  have placed : item.isPlaced = true := parsed _ given _ (below List.mem_cons_self)
  refine ⟨_, given, (isReportedIn_of_isPlaced placed place).of_subset ?_⟩
  exact List.Subset.trans (nodes_subset_of_field List.mem_cons_self) below

theorem isReportedIn_of_mem_properties (parsed : ∀ argument ∈ call.args, argument.IsParsed)
    (ofCall : property ∈ call.properties) (mem : finding ∈ call.propertyFindings pass property) :
    finding.span = call.span ∨ ∃ argument ∈ call.args, finding.IsReportedIn argument := by
  rw [properties] at ofCall
  split at ofCall
  · rename_i listed argument
    obtain ⟨e, span, given, object⟩ := exists_objectExpression argument
    have below : (Tree.objectExpression span listed).nodes ⊆ (Tree.element none e).nodes :=
      nodes_subset_of_unwrap object
    have inside : property.nodes ⊆ (Tree.element none e).nodes :=
      List.Subset.trans (nodes_subset_of_listed ofCall List.mem_cons_self) below
    have whole : (Tree.objectExpression span listed).isParsedNode = true :=
      parsed _ given _ (below List.mem_cons_self)
    have isProperty : property.isParsedProperty = true :=
      List.all_eq_true.mp ((Bool.and_eq_true _ _).mp whole).2 property ofCall
    have reported := isReportedIn_of_mem_propertyFindings ((parsed _ given).of_subset inside)
      isProperty mem
    exact reported.imp id fun reported => ⟨_, given, reported.of_subset inside⟩
  · rename_i argument
    obtain ⟨-, entries, rfl⟩ := Pass.args_of_merged argument
    exact .inl (span_of_mem_propertyTrees ofCall mem)
  · contradiction
  · contradiction

/-- What a call holds is reported at the call or in one of its arguments. -/
theorem isReportedIn_of_mem_findings (parsed : ∀ argument ∈ call.args, argument.IsParsed)
    (mem : finding ∈ call.findings pass) :
    finding.span = call.span ∨ ∃ argument ∈ call.args, finding.IsReportedIn argument := by
  rw [findings] at mem
  split at mem
  · split at mem
    all_goals
      rw [List.mem_singleton.mp mem]
      exact .inl rfl
  split at mem
  · rename_i unusable
    obtain rfl := List.mem_singleton.mp mem
    exact isReportedIn_of_unusable parsed unusable
  · obtain ⟨property, ofCall, mem⟩ := List.mem_flatMap.mp mem
    exact isReportedIn_of_mem_properties parsed ofCall mem

end HelperCall

namespace Pass

variable {pass : Pass} {finding : Finding} {span place : Option Span} {name : Tree}
  {attributes : List Tree}

/-! ## Tags -/

/-- An attribute without a known value is reported at its own place. -/
theorem exists_mem_of_readFields {fields : Descriptor.Fields} {unread : String}
    (refused : Markup.readFields fields attributes = .error (unread, place)) :
    ∃ written value, .jsxAttribute place written value ∈ attributes := by
  fun_induction Markup.readFields fields attributes with
  | case1 => cases refused
  | case2 _ _ _ _ _ _ _ ih | case4 _ _ _ _ _ _ _ _ _ ih | case5 _ _ _ _ _ _ _ _ _ _ ih
  | case6 _ _ _ _ ih =>
    obtain ⟨written, value, mem⟩ := ih refused
    exact ⟨written, value, List.mem_cons_of_mem _ mem⟩
  | case3 =>
    cases refused
    exact ⟨_, _, List.mem_cons_self⟩

/-- What a tag holds is reported at the tag or at one of its attributes. -/
theorem span_of_mem_tagFindings (mem : finding ∈ pass.tagFindings span name attributes) :
    finding.span = span
      ∨ ∃ written value, .jsxAttribute finding.span written value ∈ attributes := by
  rw [tagFindings] at mem
  split at mem
  · contradiction
  · rw [List.mem_singleton.mp mem]
    exact .inl rfl
  split at mem
  · rw [literalFindings] at mem
    split at mem
    · contradiction
    · rw [List.mem_singleton.mp mem]
      exact .inl rfl
  · rw [knownFindings] at mem
    split at mem
    · rename_i refused
      rw [List.mem_singleton.mp mem]
      exact .inr (exists_mem_of_readFields refused)
    · split at mem
      · contradiction
      · exact .inl (span_of_mem_fieldsFindings mem)

/-! ## Surveys -/

/-- Whether a finding is what a node holds by itself. -/
inductive FoundAt (pass : Pass) (finding : Finding) : Tree → Prop
  | call {span : Option Span} {callee types : Tree} {args : List Tree} :
      finding ∈ pass.callFindings span callee args →
      pass.FoundAt finding (.callExpression span callee args types)
  | tag {span : Option Span} {name closing types : Tree} {attributes : List Tree} :
      finding ∈ pass.tagFindings span name attributes →
      pass.FoundAt finding (.jsxOpeningElement span name attributes closing types)

/-- What is found at a node below is found in the whole. -/
theorem exists_foundAt_of_subset {nodes nodes' : List Tree} (below : nodes ⊆ nodes')
    (found : ∃ u ∈ nodes, pass.FoundAt finding u) : ∃ u ∈ nodes', pass.FoundAt finding u := by
  obtain ⟨u, mem, found⟩ := found
  exact ⟨u, below mem, found⟩

mutual
/-- What is found in a tree is found at one of its nodes. -/
theorem exists_foundAt :
    (t : Tree) → finding ∈ pass.survey t → ∃ u ∈ t.nodes, pass.FoundAt finding u
  | t, mem => by
    rw [survey.eq_def] at mem
    split at mem
    · rename_i span callee args types
      simp only [List.mem_append] at mem
      rcases mem with ((mem | mem) | mem) | mem
      · exact ⟨_, List.mem_cons_self, .call mem⟩
      · exact exists_foundAt_of_subset (nodes_subset_of_field (by simp)) (exists_foundAt callee mem)
      · have below : (Tree.list args).nodes ⊆ (Tree.callExpression span callee args types).nodes :=
          nodes_subset_of_field (by simp)
        exact exists_foundAt_of_subset below (exists_foundAt_arguments _ args mem)
      · exact exists_foundAt_of_subset (nodes_subset_of_field (by simp)) (exists_foundAt types mem)
    · rename_i span name attributes closing types
      simp only [List.mem_append] at mem
      rcases mem with ((mem | mem) | mem) | mem
      · exact ⟨_, List.mem_cons_self, .tag mem⟩
      · exact exists_foundAt_of_subset (nodes_subset_of_field (by simp)) (exists_foundAt name mem)
      · have below : (Tree.list attributes).nodes
            ⊆ (Tree.jsxOpeningElement span name attributes closing types).nodes :=
          nodes_subset_of_field (by simp)
        exact exists_foundAt_of_subset below (exists_foundAt_all attributes mem)
      · exact exists_foundAt_of_subset (nodes_subset_of_field (by simp)) (exists_foundAt types mem)
    · rename_i span items interpreter
      have below : (Tree.list items).nodes ⊆ (Tree.sourceModule span items interpreter).nodes :=
        nodes_subset_of_field (by simp)
      exact exists_foundAt_of_subset below (exists_foundAt_all items mem)
    · rename_i fields _ _ _
      exact exists_foundAt_of_subset (List.subset_cons_self _ _) (exists_foundAt_all fields mem)
    · rename_i items
      exact exists_foundAt_all items mem
    · contradiction
termination_by t => sizeOf t

theorem exists_foundAt_all : (ts : List Tree) → finding ∈ pass.surveyAll ts →
    ∃ u ∈ Syntax.Tree.nodesOf ts, pass.FoundAt finding u
  | [], mem => by contradiction
  | t :: ts, mem => by
    rcases List.mem_append.mp mem with mem | mem
    · exact exists_foundAt_of_subset (List.subset_append_left _ _) (exists_foundAt t mem)
    · exact exists_foundAt_of_subset (List.subset_append_right _ _) (exists_foundAt_all ts mem)
termination_by ts => sizeOf ts

theorem exists_foundAt_arguments (isLeaf : Bool) : (ts : List Tree) →
    finding ∈ pass.surveyArguments isLeaf ts → ∃ u ∈ Syntax.Tree.nodesOf ts, pass.FoundAt finding u
  | [], mem => by contradiction
  | t :: ts, mem => by
    rcases List.mem_append.mp mem with mem | mem
    · split at mem
      · contradiction
      · exact exists_foundAt_of_subset (List.subset_append_left _ _) (exists_foundAt t mem)
    · exact exists_foundAt_of_subset (List.subset_append_right _ _) (exists_foundAt_all ts mem)
termination_by ts => sizeOf ts
end

/-- What is found at a node is reported in it. -/
theorem FoundAt.isReportedIn {t : Tree} (found : pass.FoundAt finding t) (parsed : t.IsParsed) :
    finding.IsReportedIn t := by
  cases found with
  | @call span callee types args mem =>
    have below {argument : Tree} (given : argument ∈ args) :
        argument.nodes ⊆ (Tree.callExpression span callee args types).nodes :=
      nodes_subset_of_listed given (by simp)
    rw [callFindings] at mem
    split at mem
    · rename_i call marks
      have same : call.span = span ∧ call.args = args := by
        obtain ⟨reference, -, ⟨-, rfl⟩ | ⟨-, -, rfl⟩⟩ := helperCall?_some marks <;> exact ⟨rfl, rfl⟩
      obtain ⟨same, rfl⟩ := same
      rcases HelperCall.isReportedIn_of_mem_findings
          (fun argument given => parsed.of_subset (below given)) mem with
        own | ⟨argument, given, reported⟩
      · exact isReportedIn_of_isPlaced (parsed.isPlaced rfl) (own.trans same)
      · exact reported.of_subset (below given)
    · contradiction
  | @tag span name closing types attributes mem =>
    rcases span_of_mem_tagFindings mem with own | ⟨written, value, given⟩
    · exact isReportedIn_of_isPlaced (parsed.isPlaced rfl) own
    · have below : (Tree.jsxAttribute finding.span written value).nodes
          ⊆ (Tree.jsxOpeningElement span name attributes closing types).nodes :=
        nodes_subset_of_listed given (by simp)
      have placed := (parsed.of_subset below).isPlaced rfl
      exact (isReportedIn_of_isPlaced placed rfl).of_subset below

end Pass

/-! ## Locations -/

/-- Whether a location is the place, in the text of a file, of a node of its tree. -/
def SourceFile.PointsInto (file : SourceFile) (tree : Tree) (location : Location) : Prop :=
  ∃ u ∈ tree.nodes, ∃ span, u.span? = some span ∧ span.isMade = false
    ∧ location = file.locate (some span) ∧ 1 ≤ location.line

theorem SourceFile.one_le_line_locate (file : SourceFile) {span : Span}
    (real : span.isMade = false) : 1 ≤ (file.locate (some span)).line := by
  obtain ⟨before, line, rest, stands⟩ := file.exists_standsOn span
  rw [line_locate real stands]
  exact Nat.le_add_left _ _

theorem Finding.IsReportedIn.pointsInto {finding : Finding} {tree : Tree}
    (h : finding.IsReportedIn tree) (file : SourceFile) :
    file.PointsInto tree (file.locate finding.span) := by
  obtain ⟨u, mem, placed, same⟩ := h
  obtain ⟨span, place, real⟩ : ∃ span, u.span? = some span ∧ span.isMade = false := by
    unfold isPlaced at placed
    split at placed
    · exact ⟨_, rfl, by simpa using placed⟩
    · contradiction
  rw [same, place]
  exact ⟨u, mem, span, place, real, rfl, file.one_le_line_locate real⟩

/-- What a session reports is what comes of its file. -/
theorem Session.Reports.finish {session : Session} {P : Location → Prop} (h : session.Reports P)
    (config : Config) (fs : FileSystem) (source root : Path) :
    (∀ result, (session.finish config fs source root).2 = .ok result →
        ∀ warning ∈ result.warnings, P warning.location)
      ∧ ∀ fault, (session.finish config fs source root).2 = .error (.fault fault) →
        P fault.location := by
  unfold Session.finish
  split
  · rename_i found
    refine ⟨nofun, fun fault eq => ?_⟩
    cases eq
    exact h.fault _ found
  · split
    · exact ⟨nofun, nofun⟩
    · refine ⟨fun result eq => ?_, nofun⟩
      cases eq
      exact h.warnings

/-- What a file ends in is what comes of taking the findings of its survey in. -/
theorem extractFile_eq_finish (config : Config) (fs : FileSystem) (root : Path) (file : SourceFile)
    (tree : Tree) (translate : "bind" ∉ config.translateFunctions)
    (define : "bind" ∉ config.defineMessagesFunctions) :
    (extractFile config fs root file tree).2
      = (Session.recordAll file {} ((Pass.ofModule config file tree).survey tree)).finish config fs
        ⟨file.path⟩ root := by
  have taken := @Session.Gathers.recordAll file {} ((Pass.ofModule config file tree).survey tree)
  rw [extractFile_gathered config fs root file tree translate define, Session.finish_eq, taken]
  rfl

/-- All that comes of a parsed module points into it: a warning and a fault are at the place of one of its
nodes, and so on a line of the file, unless the configuration names `bind` among the marking functions. -/
theorem extractFile_reports (config : Config) (fs : FileSystem) (root : Path) (file : SourceFile)
    (tree : Tree) (translate : "bind" ∉ config.translateFunctions)
    (define : "bind" ∉ config.defineMessagesFunctions) (parsed : tree.IsParsed) :
    (∀ result, (extractFile config fs root file tree).2.2 = .ok result →
        ∀ warning ∈ result.warnings, file.PointsInto tree warning.location)
      ∧ ∀ fault, (extractFile config fs root file tree).2.2 = .error (.fault fault) →
        file.PointsInto tree fault.location := by
  have reports : (Session.recordAll file {} ((Pass.ofModule config file tree).survey tree)).Reports
      (file.PointsInto tree) := by
    refine Session.reports_empty.recordAll fun finding mem => ?_
    obtain ⟨u, inside, found⟩ := Pass.exists_foundAt tree mem
    have below : u.nodes ⊆ tree.nodes := Syntax.Tree.nodes_subset tree u inside
    exact ((found.isReportedIn (parsed.of_subset below)).of_subset below).pointsInto file
  rw [extractFile_eq_finish config fs root file tree translate define]
  exact reports.finish config fs ⟨file.path⟩ root

/-- A file with an array of one message without a description. -/
def undescribedFile : SourceFile :=
  ⟨"src/a.ts", "import { defineMessages } from \"react-intl\";\ndefineMessages([\x7b id: \"a\" \x7d]);"⟩

/-- The tree of `undescribedFile`. -/
def undescribedTree : Tree :=
  .sourceModule (some ⟨1, 76⟩)
    [.importDeclaration (some ⟨1, 45⟩)
        [.importSpecifier (some ⟨10, 24⟩) (.identifier (some ⟨10, 24⟩) "defineMessages" .absent .absent)
          .absent (.flag false)]
        (.stringLiteral (some ⟨32, 44⟩) (.text "react-intl") .absent) (.flag false) .absent
        (.text "evaluation"),
      .expressionStatement (some ⟨46, 76⟩)
        (.callExpression (some ⟨46, 75⟩)
          (.identifier (some ⟨46, 60⟩) "defineMessages" .absent .absent)
          [.element none (.arrayExpression (some ⟨61, 74⟩)
            [.element none (.objectExpression (some ⟨62, 73⟩)
              [.keyValueProperty (.identifierName (some ⟨64, 66⟩) "id")
                (.stringLiteral (some ⟨68, 71⟩) (.text "a") .absent)])])] .absent)]
    .absent

/-- A configuration that wants a description for each message. -/
def describing : Config := { enforceDescriptions := true }

/-- Where descriptions are enforced, the message in the object that replaces the array is a fault. It is
reported at the call, on the second line. -/
theorem extractFile_undescribedTree :
    undescribedTree.IsParsed
      ∧ (extractFile describing default ⟨"."⟩ undescribedFile undescribedTree).2.2
        = .error (.fault ⟨.rejected (.descriptionRequired "a"), ⟨"src/a.ts", 2, 1⟩⟩)
      ∧ undescribedFile.PointsInto undescribedTree ⟨"src/a.ts", 2, 1⟩ := by
  have parsed : undescribedTree.IsParsed := by decide +kernel
  have refused : (extractFile describing default ⟨"."⟩ undescribedFile undescribedTree).2.2
      = .error (.fault ⟨.rejected (.descriptionRequired "a"), ⟨"src/a.ts", 2, 1⟩⟩) := by
    decide +kernel
  have reports := extractFile_reports describing default ⟨"."⟩ undescribedFile undescribedTree
    (by decide) (by decide) parsed
  exact ⟨parsed, refused, reports.2 _ refused⟩

end MessageExtraction
