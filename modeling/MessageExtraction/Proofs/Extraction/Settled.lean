import MessageExtraction.Proofs.Extraction.Inert

/-!
# Settled trees

A tree is settled for a pass and a registry if a walk of the pass leaves it as it is and finds nothing that
the registry does not hold.

* `walk_of_settled`, `held_of_settled`: what settled trees are for.
* `settled_bound`, `settled_of_inert`: what a walk makes is settled.
-/

namespace MessageExtraction

open Syntax (Tree Span Identifier)
open Component (rename renameAll)

/-! ## Settled trees -/

namespace Pass

mutual
/-- Whether a walk of a pass leaves a tree as it is and finds nothing that the registry does not hold. -/
def Settled (pass : Pass) (r : Registry) : Tree → Prop
  | .callExpression span callee args typeArguments =>
      (∀ call, pass.helperCall? span callee args = some call →
        call.kind = .bulk ∧ call.replacement? = none
          ∧ ∀ finding ∈ call.findings pass, finding.IsHeld r)
        ∧ Settled pass r callee ∧ SettledAll pass r args ∧ Settled pass r typeArguments
  | .jsxOpeningElement span name attributes _ typeArguments =>
      (pass.addedAttributes name attributes = []
        ∧ ∀ finding ∈ pass.tagFindings span name attributes, finding.IsHeld r)
        ∧ Settled pass r name ∧ SettledAll pass r attributes ∧ Settled pass r typeArguments
  | .sourceModule _ _ _ => False
  | .node _ _ fields => SettledAll pass r fields
  | .list items => SettledAll pass r items
  | _ => True

/-- Whether several trees are settled. -/
def SettledAll (pass : Pass) (r : Registry) : List Tree → Prop
  | [] => True
  | t :: ts => Settled pass r t ∧ SettledAll pass r ts
end

variable {pass : Pass} {r : Registry}

theorem settledAll_append (ts us : List Tree) :
    pass.SettledAll r (ts ++ us) ↔ pass.SettledAll r ts ∧ pass.SettledAll r us := by
  induction ts with
  | nil => simp [SettledAll]
  | cons t ts ih => rw [List.cons_append, SettledAll, SettledAll, ih, and_assoc]

theorem settledAll_of_forall {ts : List Tree} (h : ∀ t ∈ ts, pass.Settled r t) :
    pass.SettledAll r ts := by
  induction ts with
  | nil => trivial
  | cons t ts ih =>
    exact ⟨h t List.mem_cons_self, ih fun u hu => h u (List.mem_cons_of_mem t hu)⟩

mutual
/-- A walk leaves a settled tree as it is. -/
theorem walk_of_settled : (t : Tree) → {s : Session} → pass.Settled r t → (pass.walk s t).1 = t
  | t, s, h => by
    rw [walk.eq_def]
    split
    · rename_i span callee args types
      obtain ⟨call, hCallee, hArgs, hTypes⟩ := h
      split
      · rfl
      split
      · dsimp only
        rw [walk_of_settled callee hCallee, walkAll_of_settled args hArgs, walk_of_settled types hTypes]
      · rename_i found
        obtain ⟨kind, kept, -⟩ := call _ found
        rw [kind]
        dsimp only
        rw [kept, walkArguments_none, walk_of_settled callee hCallee, walkAll_of_settled args hArgs,
          walk_of_settled types hTypes]
    · rename_i span name attributes closing types
      obtain ⟨⟨added, -⟩, hName, hAttributes, hTypes⟩ := h
      split
      · rfl
      · dsimp only
        rw [added, List.append_nil, walk_of_settled name hName, walkAll_of_settled attributes hAttributes,
          walk_of_settled types hTypes]
    · contradiction
    · rename_i kind span fields call tag module
      rw [Settled.eq_4 pass r kind span fields call tag module] at h
      dsimp only
      rw [walkAll_of_settled fields h]
    · rename_i items
      dsimp only
      rw [walkAll_of_settled items h]
    · rfl
termination_by t => sizeOf t

theorem walkAll_of_settled :
    (ts : List Tree) → {s : Session} → pass.SettledAll r ts → (pass.walkAll s ts).1 = ts
  | [], _, _ => rfl
  | t :: ts, s, h => by
    rw [walkAll]
    dsimp only
    rw [walk_of_settled t h.1, walkAll_of_settled ts h.2]
termination_by ts => sizeOf ts
end

theorem isArrayForm_of_kept {span : Option Span} {callee : Tree} {args : List Tree}
    (h : ∀ call, pass.helperCall? span callee args = some call → call.replacement? = none) :
    pass.isArrayForm span callee args = false := by
  cases found : pass.helperCall? span callee args with
  | none => exact isArrayForm_of_none found
  | some call => rw [isArrayForm_of_some found, h call found, Option.isSome_none, Bool.and_false]

mutual
/-- What is found in a settled tree is held. -/
theorem held_of_settled : (t : Tree) → pass.Settled r t →
    ∀ finding ∈ pass.survey t, finding.IsHeld r
  | t, h => by
    rw [survey.eq_def]
    split
    · rename_i span callee args types
      obtain ⟨call, hCallee, hArgs, hTypes⟩ := h
      have form := isArrayForm_of_kept fun c found => (call c found).2.1
      rw [form, surveyArguments_false, callFindings]
      intro finding mem
      rcases List.mem_append.mp mem with mem | mem
      · rcases List.mem_append.mp mem with mem | mem
        · rcases List.mem_append.mp mem with mem | mem
          · split at mem
            · rename_i found
              exact (call _ found).2.2 finding mem
            · contradiction
          · exact held_of_settled callee hCallee finding mem
        · exact heldAll_of_settled args hArgs finding mem
      · exact held_of_settled types hTypes finding mem
    · rename_i span name attributes closing types
      obtain ⟨⟨-, tag⟩, hName, hAttributes, hTypes⟩ := h
      intro finding mem
      rcases List.mem_append.mp mem with mem | mem
      · rcases List.mem_append.mp mem with mem | mem
        · rcases List.mem_append.mp mem with mem | mem
          · exact tag finding mem
          · exact held_of_settled name hName finding mem
        · exact heldAll_of_settled attributes hAttributes finding mem
      · exact held_of_settled types hTypes finding mem
    · contradiction
    · rename_i kind span fields call tag module
      rw [Settled.eq_4 pass r kind span fields call tag module] at h
      exact heldAll_of_settled fields h
    · rename_i items
      exact heldAll_of_settled items h
    · simp
termination_by t => sizeOf t

theorem heldAll_of_settled : (ts : List Tree) → pass.SettledAll r ts →
    ∀ finding ∈ pass.surveyAll ts, finding.IsHeld r
  | [], _ => by simp [surveyAll]
  | t :: ts, h => by
    intro finding mem
    rcases List.mem_append.mp mem with mem | mem
    · exact held_of_settled t h.1 finding mem
    · exact heldAll_of_settled ts h.2 finding mem
termination_by ts => sizeOf ts
end

/-! ## What a walk makes is settled -/

mutual
/-- Where there is nothing to look at, nothing is changed or found. -/
theorem settled_of_inert : (t : Tree) → t.IsInert → pass.Settled r t
  | .absent, _ | .flag _, _ | .text _, _ | .number _, _ => trivial
  | .list items, inert => settledAll_of_inert items inert
  | .node kind span fields, inert => by
    obtain ⟨call, tag, module⟩ := Syntax.Tree.isThrough_of_isInert inert
    rw [Settled.eq_4 _ _ _ _ _ call tag module]
    exact settledAll_of_inert fields (Syntax.Tree.isInert_node.mp inert).2

theorem settledAll_of_inert : (ts : List Tree) → Tree.AreInert ts → pass.SettledAll r ts
  | [], _ => trivial
  | t :: ts, inert => by
    obtain ⟨head, tail⟩ := Syntax.Tree.areInert_cons.mp inert
    exact ⟨settled_of_inert t head, settledAll_of_inert ts tail⟩
end

theorem settled_plain {kind : Syntax.Kind} {span : Option Span} {fields : List Tree}
    (plain : (Syntax.Tree.node kind span fields).isPlain = true) :
    pass.Settled r (.node kind span fields) ↔ pass.SettledAll r fields := by
  obtain ⟨call, tag, module⟩ := Syntax.Tree.isThrough_of_isPlain plain
  rw [Settled.eq_4 _ _ _ _ _ call tag module]

theorem settled_missingArguments (call : HelperCall) (component : Option ComponentKind)
    (props : String) (names : List String) :
    pass.SettledAll r (renameAll names (call.missingArguments component props)) := by
  rw [Component.renameAll_eq_map]
  refine settledAll_of_forall fun u renamed => ?_
  obtain ⟨t, mem, rfl⟩ := List.mem_map.mp renamed
  obtain ⟨e, rfl, given⟩ := HelperCall.eq_of_mem_missingArguments mem
  rcases given with rfl | rfl | rfl | rfl <;>
    simp [rename, renameAll, Component.renameProperties, Identifier.toTree, Settled, SettledAll]

theorem settled_addedAttributes (pass' : Pass) (name : Tree) (attributes : List Tree) :
    pass.SettledAll r (pass'.addedAttributes name attributes) :=
  settledAll_of_inert _ (inert_addedAttributes pass' name attributes)

theorem settled_toTree (v : StaticValue) : pass.Settled r v.toTree :=
  settled_of_inert _ (StaticValue.inert_toTree v)

theorem settled_bound (translate : "bind" ∉ pass.config.translateFunctions)
    (define : "bind" ∉ pass.config.defineMessagesFunctions) {callee : Tree}
    (h : pass.Settled r callee) : pass.Settled r (HelperCall.bound callee) := by
  refine ⟨fun call found => ?_, ⟨h, ⟨trivial, trivial⟩, trivial⟩, ⟨⟨?_, trivial⟩, trivial⟩, trivial⟩
  · rw [helperCall?_bindMember translate define] at found
    contradiction
  · simp [Settled, SettledAll]

end Pass

end MessageExtraction
