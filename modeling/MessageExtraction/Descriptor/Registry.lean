import MessageExtraction.Descriptor.Basic

/-!
# The descriptors of one file

A registry holds the descriptors of a file in the order in which they were first registered. An id stands
for one message: registering it again is accepted only with the same description and default text.
-/

namespace MessageExtraction

/-- The optional fields that a registration must have. -/
structure Policy where
  requireDescription : Bool := false
  requireDefaultMessage : Bool := false
deriving DecidableEq, Repr, Inhabited

/-- Why a registration is refused. -/
inductive Rejection where
  | missingId
  | missingDefaultMessage (id : String)
  | descriptionRequired (id : String)
  | duplicateId (id : String)
deriving DecidableEq, Repr, Inhabited

/-- The wording of a rejection. -/
def Rejection.text : Rejection → String
  | .missingId => "message descriptor is missing an `id`"
  | .missingDefaultMessage id => "message `" ++ id ++ "` is missing a `defaultMessage`"
  | .descriptionRequired id => "message `" ++ id ++ "` must have a `description`"
  | .duplicateId id =>
      "duplicate message id `" ++ id ++ "` with a different description or defaultMessage"

/-- An empty index agrees with no entries. -/
theorem Registry.indexed_nil (id : String) (i : Nat) :
    List.lookup id ([] : List (String × Nat)) = some i
      ↔ ([] : List Descriptor)[i]?.map Descriptor.id = some id := by
  simp

/-- The descriptors of a file, in the order of their first registration, and where the entry of each id is
among them. -/
structure Registry where
  entries : List Descriptor := []
  /-- The ids with the positions of their entries, the newest first. -/
  index : List (String × Nat) := []
  /-- Each entry is found at its position under its id, and nothing else is found. -/
  indexed : ∀ id i, index.lookup id = some i ↔ entries[i]?.map Descriptor.id = some id := by
    exact Registry.indexed_nil
deriving DecidableEq, Repr

namespace Registry

instance : Inhabited Registry := ⟨{}⟩

/-- The entry of that id. -/
def get? (r : Registry) (id : String) : Option Descriptor := do
  let i ← r.index.lookup id
  r.entries[i]?

/-- An id has an entry exactly if one of the entries has that id. -/
theorem get?_eq_some_iff {r : Registry} {id : String} {e : Descriptor} :
    r.get? id = some e ↔ e ∈ r.entries ∧ e.id = id := by
  rw [get?, Option.bind_eq_bind, Option.bind_eq_some_iff]
  constructor
  · rintro ⟨i, found, entry⟩
    have named := (r.indexed id i).mp found
    rw [entry] at named
    exact ⟨List.mem_of_getElem? entry, Option.some.inj named⟩
  · rintro ⟨mem, rfl⟩
    obtain ⟨i, entry⟩ := List.getElem?_of_mem mem
    exact ⟨i, (r.indexed e.id i).mpr (by rw [entry, Option.map_some]), entry⟩

/-- An id without an entry is not in the index. -/
theorem lookup_of_get?_none {r : Registry} {id : String} (missing : r.get? id = none) :
    r.index.lookup id = none := by
  cases found : r.index.lookup id with
  | none => rfl
  | some i =>
    obtain ⟨e, entry, -⟩ := Option.map_eq_some_iff.mp ((r.indexed id i).mp found)
    simp [get?, found, entry] at missing

/-- With an entry behind the others, and its id in front of the index, the two agree again. -/
theorem indexed_push {r : Registry} {d : Descriptor} (new : r.get? d.id = none) (id : String)
    (i : Nat) :
    ((d.id, r.entries.length) :: r.index).lookup id = some i
      ↔ (r.entries ++ [d])[i]?.map Descriptor.id = some id := by
  have old := r.indexed id i
  have missing := lookup_of_get?_none new
  have behind : r.entries.length < i → (r.entries ++ [d])[i]? = none := fun gt =>
    List.getElem?_eq_none (by simp; omega)
  by_cases same : id = d.id
  · subst same
    have before : r.entries[i]?.map Descriptor.id ≠ some d.id := fun found => by
      simp [old.mpr found] at missing
    rcases Nat.lt_trichotomy i r.entries.length with lt | rfl | gt
    · rw [List.getElem?_append_left lt]
      simp [before, Nat.ne_of_gt lt]
    · simp
    · simp [behind gt, Nat.ne_of_lt gt]
  · rw [List.lookup_cons, beq_false_of_ne same]
    rcases Nat.lt_trichotomy i r.entries.length with lt | rfl | gt
    · rw [List.getElem?_append_left lt]
      exact old
    · simp [Ne.symm same, old]
    · simp [behind gt, old, Nat.le_of_lt gt]

/-- A registry with one more entry, for an id that had none. -/
def push (r : Registry) (d : Descriptor) (new : r.get? d.id = none) : Registry where
  entries := r.entries ++ [d]
  index := (d.id, r.entries.length) :: r.index
  indexed := indexed_push new

/-- Registers a descriptor. Of several reasons to refuse it the first in the order of `Rejection` is
given. -/
def register (r : Registry) (policy : Policy) (d : Descriptor) : Except Rejection Registry :=
  if d.id = "" then .error .missingId
  else if policy.requireDefaultMessage && d.defaultMessage.isNone then
    .error (.missingDefaultMessage d.id)
  else if policy.requireDescription && d.description.isNone then
    .error (.descriptionRequired d.id)
  else
    match found : r.get? d.id with
    | some e =>
        if e.description = d.description ∧ e.defaultMessage = d.defaultMessage then .ok r
        else .error (.duplicateId d.id)
    | none => .ok (r.push d found)

end Registry

end MessageExtraction
