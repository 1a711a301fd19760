import Mathlib.Data.List.Nodup
import MessageExtraction.Descriptor.Registry

/-!
# Registrations

What a registration does that is not refused, and when it is not refused.

* `register_ok`: the descriptor is among the entries, or is the new last one.
* `register_of_mem`: a descriptor of one registry can be registered in every registry with less.
-/

namespace MessageExtraction

/-- Whether a descriptor has all that its registration must have. -/
def Policy.Accepts (policy : Policy) (d : Descriptor) : Prop :=
  d.id ≠ "" ∧ (policy.requireDefaultMessage && d.defaultMessage.isNone) = false
    ∧ (policy.requireDescription && d.description.isNone) = false

namespace Registry

variable {r r' full : Registry} {policy : Policy} {d e : Descriptor}

/-- Whether a registry has every descriptor of another. -/
def Within (r full : Registry) : Prop := ∀ d ∈ r.entries, d ∈ full.entries

theorem Within.refl (r : Registry) : r.Within r := fun _ h => h

theorem Within.trans {r₁ r₂ r₃ : Registry} (h : r₁.Within r₂) (h' : r₂.Within r₃) : r₁.Within r₃ :=
  fun d hd => h' d (h d hd)

/-- Each id of a registry stands for one message. -/
theorem eq_of_id_eq (hd : d ∈ r.entries) (he : e ∈ r.entries) (same : d.id = e.id) : d = e :=
  Option.some.inj ((get?_eq_some_iff.mpr ⟨hd, same⟩).symm.trans (get?_eq_some_iff.mpr ⟨he, rfl⟩))

/-- The ids of a registry are distinct, for the index gives each one position. -/
theorem nodup_ids (r : Registry) : (r.entries.map Descriptor.id).Nodup := by
  rw [List.nodup_iff_getElem?_ne_getElem?]
  intro i j lt bound same
  rw [List.length_map] at bound
  rw [List.getElem?_map, List.getElem?_map, List.getElem?_eq_getElem bound] at same
  have first := (r.indexed r.entries[j].id i).mpr same
  have second := (r.indexed r.entries[j].id j).mpr (by rw [List.getElem?_eq_getElem bound]; rfl)
  exact absurd (Option.some.inj (first.symm.trans second)) (Nat.ne_of_lt lt)

theorem register_of_accepts (h : policy.Accepts d) :
    (∃ e, r.get? d.id = some e ∧ r.register policy d
        = if e = d then .ok r else .error (.duplicateId d.id))
      ∨ ∃ new, r.register policy d = .ok (r.push d new) := by
  obtain ⟨id, text, description⟩ := h
  have checked : r.register policy d = _ :=
    (if_neg id).trans ((if_neg (by simp [text])).trans (if_neg (by simp [description])))
  rw [checked]
  split
  · rename_i e found
    refine .inl ⟨e, found, ?_⟩
    have same : (e.description = d.description ∧ e.defaultMessage = d.defaultMessage) ↔ e = d := by
      have id := (get?_eq_some_iff.mp found).2
      cases e
      cases d
      simp_all
    simp only [same]
  · rename_i missing
    exact .inr ⟨missing, rfl⟩

theorem accepts_of_register (h : r.register policy d = .ok r') : policy.Accepts d := by
  rw [register] at h
  split at h
  · contradiction
  rename_i id
  split at h
  · contradiction
  rename_i text
  split at h
  · contradiction
  rename_i description
  exact ⟨id, Bool.eq_false_iff.mpr text, Bool.eq_false_iff.mpr description⟩

/-- What a registration that is not refused does. -/
theorem register_ok (h : r.register policy d = .ok r') :
    (d ∈ r.entries ∧ r' = r) ∨ ∃ new, r' = r.push d new := by
  rcases register_of_accepts (r := r) (accepts_of_register h) with ⟨e, found, eq⟩ | ⟨new, eq⟩
  · rw [eq] at h
    split at h
    · rename_i same
      cases h
      exact .inl ⟨same ▸ (get?_eq_some_iff.mp found).1, rfl⟩
    · contradiction
  · rw [eq] at h
    cases h
    exact .inr ⟨new, rfl⟩

theorem mem_of_register (h : r.register policy d = .ok r') : d ∈ r'.entries := by
  rcases register_ok h with ⟨mem, rfl⟩ | ⟨new, rfl⟩
  · exact mem
  · simp [push]

theorem within_of_register (h : r.register policy d = .ok r') : r.Within r' := by
  rcases register_ok h with ⟨-, rfl⟩ | ⟨new, rfl⟩
  · exact .refl _
  · exact fun e he => List.mem_append_left _ he

/-- A message of a registry can be registered in any registry with less. -/
theorem register_of_mem (accepts : policy.Accepts d) (mem : d ∈ full.entries)
    (within : r.Within full) : ∃ r', r.register policy d = .ok r' ∧ r'.Within full := by
  rcases register_of_accepts (r := r) accepts with ⟨e, found, eq⟩ | ⟨new, eq⟩
  · obtain ⟨he, id⟩ := get?_eq_some_iff.mp found
    rw [eq, if_pos (eq_of_id_eq (within e he) mem id)]
    exact ⟨r, rfl, within⟩
  · refine ⟨_, eq, fun e he => ?_⟩
    rcases List.mem_append.mp he with he | he
    · exact within e he
    · rwa [List.mem_singleton.mp he]

end Registry

end MessageExtraction
