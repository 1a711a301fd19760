import Mathlib.Data.List.Induction
import MessageExtraction.Proofs.Descriptor.Registration

/-!
# Registrations one after the other

What a registry holds after any number of registrations, accepted and refused ones mixed. The entries and
the index of a registry are compared with the plain history of the accepted descriptors, which keeps
repeated ones too.

* `Records.after`: one registration keeps the registry in step with the history.
* `records_ofCalls`: so all registrations do.
* `registry_ofCalls`: the entries are the first descriptors of the history for each id, and the index has
  their positions. The next registration is accepted exactly if there is no objection to it, else the first
  objection is the answer. One that is refused or repeated changes nothing.
-/

namespace MessageExtraction

/-! ## The history -/

/-- A descriptor that is to be registered, and what its registration must have. -/
structure Registration where
  descriptor : Descriptor
  policy : Policy
deriving DecidableEq, Repr

namespace Registration

/-- Whether one of the descriptors has the id of another one with other texts. -/
def Conflicts (history : List Descriptor) (d : Descriptor) : Prop :=
  ∃ e ∈ history, e.id = d.id ∧ ¬(e.description = d.description ∧ e.defaultMessage = d.defaultMessage)

instance (history : List Descriptor) (d : Descriptor) : Decidable (Conflicts history d) :=
  inferInstanceAs (Decidable (∃ e ∈ history, _))

/-- All that speaks against a registration after a history, in the order in which it is looked for. -/
def objections (history : List Descriptor) (call : Registration) : List Rejection :=
  (if call.descriptor.id = "" then [.missingId] else [])
    ++ (if call.policy.requireDefaultMessage = true ∧ call.descriptor.defaultMessage = none then
        [.missingDefaultMessage call.descriptor.id]
      else [])
    ++ (if call.policy.requireDescription = true ∧ call.descriptor.description = none then
        [.descriptionRequired call.descriptor.id]
      else [])
    ++ if Conflicts history call.descriptor then [.duplicateId call.descriptor.id] else []

/-- The history with a registration, unless something speaks against it. -/
def extend (history : List Descriptor) (call : Registration) : List Descriptor :=
  if call.objections history = [] then history ++ [call.descriptor] else history

/-- The accepted descriptors of registrations, in their order. -/
def accepted (calls : List Registration) : List Descriptor := calls.foldl extend []

theorem not_conflicts_iff {history : List Descriptor} {d : Descriptor} :
    ¬Conflicts history d
      ↔ ∀ e ∈ history, e.id = d.id →
        e.description = d.description ∧ e.defaultMessage = d.defaultMessage := by
  rw [Conflicts, not_exists]
  refine forall_congr' fun e => ?_
  rw [not_and, not_and, not_not]

theorem objections_eq_nil_iff {history : List Descriptor} {call : Registration} :
    call.objections history = []
      ↔ call.descriptor.id ≠ ""
        ∧ (call.policy.requireDefaultMessage = true → call.descriptor.defaultMessage ≠ none)
        ∧ (call.policy.requireDescription = true → call.descriptor.description ≠ none)
        ∧ ∀ e ∈ history, e.id = call.descriptor.id →
          e.description = call.descriptor.description
            ∧ e.defaultMessage = call.descriptor.defaultMessage := by
  rw [← not_conflicts_iff]
  simp [objections]

end Registration

/-- The first of the descriptors with each id. -/
def firstOfEach : List Descriptor → List Descriptor
  | [] => []
  | d :: ds => d :: (firstOfEach ds).filter fun e => e.id ≠ d.id

theorem firstOfEach_concat (ds : List Descriptor) (d : Descriptor) :
    firstOfEach (ds ++ [d])
      = if ∃ e ∈ ds, e.id = d.id then firstOfEach ds else firstOfEach ds ++ [d] := by
  induction ds with
  | nil => rfl
  | cons first ds ih =>
    rw [List.cons_append, firstOfEach, ih, firstOfEach]
    by_cases later : ∃ e ∈ ds, e.id = d.id
    · rw [if_pos later, if_pos (later.imp fun e h => ⟨List.mem_cons_of_mem _ h.1, h.2⟩)]
    · rw [if_neg later, List.filter_append]
      by_cases same : first.id = d.id
      · rw [if_pos ⟨first, List.mem_cons_self, same⟩]
        simp [same]
      · rw [if_neg (by simpa [same] using later)]
        simp [Ne.symm same]

theorem subset_firstOfEach (ds : List Descriptor) : firstOfEach ds ⊆ ds := by
  induction ds with
  | nil => exact List.Subset.refl _
  | cons d ds ih =>
    exact List.cons_subset_cons d fun e mem => ih ((List.mem_filter.mp mem).1)

/-! ## Registries and histories -/

namespace Registry

variable {r : Registry} {history : List Descriptor} {call : Registration} {d : Descriptor}

/-- The registry after a registration; one that is refused leaves it as it was. -/
def after (r : Registry) (call : Registration) : Registry :=
  match r.register call.policy call.descriptor with
  | .ok r' => r'
  | .error _ => r

/-- The registry after registrations, one after the other. -/
def ofCalls (calls : List Registration) : Registry := calls.foldl after {}

/-- Whether a registry is what a history of accepted descriptors leads to. -/
structure Records (r : Registry) (history : List Descriptor) : Prop where
  entries : r.entries = firstOfEach history
  single : ∀ d ∈ history, ∀ e ∈ history, d.id = e.id → d = e
  named : ∀ d ∈ history, d.id ≠ ""

theorem mem_firstOfEach (single : ∀ d ∈ history, ∀ e ∈ history, d.id = e.id → d = e) :
    d ∈ firstOfEach history ↔ d ∈ history := by
  refine ⟨fun mem => subset_firstOfEach history mem, fun mem => ?_⟩
  induction history with
  | nil => contradiction
  | cons first rest ih =>
    rw [firstOfEach, List.mem_cons, List.mem_filter]
    by_cases same : d.id = first.id
    · exact .inl (single d mem first List.mem_cons_self same)
    · have behind : d ∈ rest := (List.mem_cons.mp mem).resolve_left fun eq => same (by rw [eq])
      have mem' := ih (fun a ha b hb => single a (List.mem_cons_of_mem _ ha) b
        (List.mem_cons_of_mem _ hb)) behind
      exact .inr ⟨mem', by simpa using same⟩

theorem Records.mem_iff (h : r.Records history) : d ∈ r.entries ↔ d ∈ history := by
  rw [h.entries, mem_firstOfEach h.single]

theorem Records.conflicts_iff (h : r.Records history) :
    Registration.Conflicts history d
      ↔ ∃ e, r.get? d.id = some e
        ∧ ¬(e.description = d.description ∧ e.defaultMessage = d.defaultMessage) := by
  simp only [Registration.Conflicts, get?_eq_some_iff, h.mem_iff, and_assoc]

/-- What a registration is answered with: the first objection, if there is one. -/
theorem Records.register_eq (h : r.Records history) :
    r.register call.policy call.descriptor
      = match (call.objections history).head? with
        | some rejection => .error rejection
        | none =>
            if new : r.get? call.descriptor.id = none then .ok (r.push call.descriptor new)
            else .ok r := by
  rw [Registry.register, Registration.objections]
  by_cases id : call.descriptor.id = ""
  · simp [id]
  by_cases text : call.policy.requireDefaultMessage = true ∧ call.descriptor.defaultMessage = none
  · simp [id, text]
  rw [if_neg id, if_neg id, if_neg (by simpa using text), if_neg text]
  by_cases described : call.policy.requireDescription = true ∧ call.descriptor.description = none
  · simp [described]
  rw [if_neg (by simpa using described), if_neg described]
  have conflicts := h.conflicts_iff (d := call.descriptor)
  split
  · rename_i e found
    rw [found] at conflicts
    by_cases same : e.description = call.descriptor.description
        ∧ e.defaultMessage = call.descriptor.defaultMessage
    · have free : ¬Registration.Conflicts history call.descriptor := by simp [conflicts, same]
      simp [same, free, found]
    · have taken : Registration.Conflicts history call.descriptor := conflicts.mpr ⟨e, rfl, same⟩
      simp [same, taken]
  · rename_i missing
    have free : ¬Registration.Conflicts history call.descriptor := by simp [conflicts, missing]
    simp [free, missing]

theorem Records.get?_eq_none_iff (h : r.Records history) :
    r.get? d.id = none ↔ ¬∃ e ∈ history, e.id = d.id := by
  rw [Option.eq_none_iff_forall_ne_some]
  simp only [ne_eq, get?_eq_some_iff, h.mem_iff, not_exists]

/-- A descriptor without objections fits into a history. -/
theorem Records.concat {r' : Registry} (h : r.Records history)
    (free : call.objections history = [])
    (entries : r'.entries = firstOfEach (history ++ [call.descriptor])) :
    r'.Records (history ++ [call.descriptor]) := by
  obtain ⟨named, -, -, agrees⟩ := Registration.objections_eq_nil_iff.mp free
  have single : ∀ d ∈ history, d.id = call.descriptor.id → d = call.descriptor := by
    intro d mem same
    have texts := agrees d mem same
    cases d
    cases eq : call.descriptor
    simp_all
  refine ⟨entries, ?_, ?_⟩
  · intro d hd e he same
    simp only [List.mem_append, List.mem_singleton] at hd he
    rcases hd with hd | rfl <;> rcases he with he | rfl
    · exact h.single d hd e he same
    · exact single d hd same
    · exact (single e he same.symm).symm
    · rfl
  · intro d mem
    rcases List.mem_append.mp mem with mem | mem
    · exact h.named d mem
    · exact List.mem_singleton.mp mem ▸ named

/-- A registration keeps a registry in step with the history. -/
theorem Records.after (h : r.Records history) (call : Registration) :
    (r.after call).Records (call.extend history) := by
  rw [Registry.after, h.register_eq, Registration.extend]
  by_cases free : call.objections history = []
  · rw [free, if_pos rfl, List.head?_nil]
    refine h.concat free ?_
    rw [firstOfEach_concat, ← h.entries]
    by_cases new : r.get? call.descriptor.id = none
    · simp only [dif_pos new, if_neg (h.get?_eq_none_iff.mp new)]
      rfl
    · simp only [dif_neg new, if_pos (not_not.mp (mt h.get?_eq_none_iff.mpr new))]
  · obtain ⟨rejection, rest, eq⟩ := List.exists_cons_of_ne_nil free
    rw [if_neg free, eq]
    exact h

theorem records_ofCalls (calls : List Registration) :
    (ofCalls calls).Records (Registration.accepted calls) := by
  induction calls using List.reverseRecOn with
  | nil => exact ⟨rfl, by simp [Registration.accepted], by simp [Registration.accepted]⟩
  | append_singleton calls call ih =>
    rw [ofCalls, Registration.accepted, List.foldl_append, List.foldl_append]
    exact ih.after call

theorem Records.accepted_iff (h : r.Records history) :
    (∃ r', r.register call.policy call.descriptor = .ok r') ↔ call.objections history = [] := by
  rw [h.register_eq, ← List.head?_eq_none_iff]
  cases (call.objections history).head? with
  | some rejection => simp
  | none =>
    simp only [iff_true]
    split
    · exact ⟨_, rfl⟩
    · exact ⟨_, rfl⟩

theorem Records.refused_iff (h : r.Records history) (rejection : Rejection) :
    r.register call.policy call.descriptor = .error rejection
      ↔ (call.objections history).head? = some rejection := by
  rw [h.register_eq]
  cases (call.objections history).head? with
  | some first => simp
  | none =>
    simp only [reduceCtorEq, iff_false]
    split
    · simp
    · simp

/-- A registration that is refused or repeated leaves the registry as it was. -/
theorem Records.after_of_known (h : r.Records history)
    (known : call.objections history ≠ [] ∨ call.descriptor ∈ history) : r.after call = r := by
  rw [Registry.after, h.register_eq]
  split
  · rename_i r' eq
    split at eq
    · contradiction
    · rename_i free
      have mem := known.resolve_left (not_not.mpr (List.head?_eq_none_iff.mp free))
      rw [dif_neg fun new => h.get?_eq_none_iff.mp new ⟨_, mem, rfl⟩] at eq
      exact (Except.ok.inj eq).symm
  · rfl

/-- What registrations make of a registry, and what the next one is answered with. The entries are the first
accepted descriptors for each id in the order of their acceptance, under distinct ids that are not empty,
and the index has these ids with their positions and no others. The next registration is accepted exactly if
it has an id and the texts that its policy asks for, and no descriptor accepted before has its id with other
texts; else it is refused for the first of these that fails. The registry stays as it is if it is
refused, or its descriptor was accepted before. -/
theorem registry_ofCalls (calls : List Registration) (next : Registration) :
    let r := ofCalls calls
    let history := Registration.accepted calls
    let d := next.descriptor
    (r.entries = firstOfEach history
        ∧ (r.entries.map Descriptor.id).Nodup ∧ "" ∉ r.entries.map Descriptor.id
        ∧ ∀ id i, r.index.lookup id = some i ↔ (firstOfEach history)[i]?.map Descriptor.id = some id)
      ∧ (((∃ r', r.register next.policy d = .ok r')
            ↔ d.id ≠ "" ∧ (next.policy.requireDefaultMessage = true → d.defaultMessage ≠ none)
              ∧ (next.policy.requireDescription = true → d.description ≠ none)
              ∧ ∀ e ∈ history, e.id = d.id →
                e.description = d.description ∧ e.defaultMessage = d.defaultMessage)
        ∧ ((∃ r', r.register next.policy d = .ok r')
            ↔ Registration.accepted (calls ++ [next]) = history ++ [d])
        ∧ ∀ rejection, r.register next.policy d = .error rejection
            ↔ (next.objections history).head? = some rejection)
      ∧ ((∃ rejection, r.register next.policy d = .error rejection) ∨ d ∈ history →
        ofCalls (calls ++ [next]) = r) := by
  intro r history d
  have records : r.Records history := records_ofCalls calls
  have later : ofCalls (calls ++ [next]) = r.after next := by
    rw [ofCalls, List.foldl_append]
    rfl
  have grown : Registration.accepted (calls ++ [next]) = next.extend history := by
    rw [Registration.accepted, List.foldl_append]
    rfl
  refine ⟨⟨records.entries, r.nodup_ids, ?_, ?_⟩, ⟨?_, ?_, records.refused_iff⟩, ?_⟩
  · intro mem
    obtain ⟨e, entry, named⟩ := List.mem_map.mp mem
    exact records.named e (records.mem_iff.mp entry) named
  · rw [← records.entries]
    exact r.indexed
  · exact records.accepted_iff.trans Registration.objections_eq_nil_iff
  · rw [records.accepted_iff, grown, Registration.extend]
    split
    · rename_i free
      exact iff_of_true free rfl
    · rename_i refused
      exact iff_of_false refused (by simp)
  · intro known
    rw [later]
    refine records.after_of_known (known.imp_left fun ⟨rejection, refused⟩ free => ?_)
    rw [records.refused_iff, free] at refused
    contradiction

end Registry

end MessageExtraction
