import MessageExtraction.Proofs.Catalog.Sorting
import MessageExtraction.Proofs.Descriptor.History

/-!
# The order of registrations

Whether registrations are all accepted depends on which ones they are, and not on their order: each needs
what its policy asks for, and all that is registered under one id has to be the same (`IsSingle`).

* `register_ok_iff`, `mem_entries_of_register`: one registration.
* `registerAll_ok_iff`, `mem_entries_of_registerAll`: all of them, by membership alone.
* `registerAll_perm`: so registrations that are accepted in one order are accepted in every order, with the
  same entries in the end, and with the same catalog unless two ids differ in nothing but case.
-/

namespace MessageExtraction

/-- Whether each id among the descriptors stands for one of them. -/
def IsSingle (ds : List Descriptor) : Prop := ∀ d ∈ ds, ∀ e ∈ ds, d.id = e.id → d = e

theorem isSingle_congr {ds ds' : List Descriptor} (same : ∀ d, d ∈ ds ↔ d ∈ ds') :
    IsSingle ds ↔ IsSingle ds' := by
  simp only [IsSingle, same]

namespace Registry

variable {r r' : Registry} {policy : Policy} {d e : Descriptor} {calls calls' : List Registration}

theorem isSingle_entries (r : Registry) : IsSingle r.entries := fun _ hd _ he => eq_of_id_eq hd he

/-! ## One registration -/

theorem register_ok_iff :
    (∃ r', r.register policy d = .ok r')
      ↔ policy.Accepts d ∧ ∀ e ∈ r.entries, e.id = d.id → e = d := by
  constructor
  · rintro ⟨r', h⟩
    refine ⟨accepts_of_register h, fun e mem same => ?_⟩
    exact eq_of_id_eq (within_of_register h e mem) (mem_of_register h) same
  · rintro ⟨accepts, single⟩
    rcases register_of_accepts (r := r) accepts with ⟨e, found, eq⟩ | ⟨new, eq⟩
    · obtain ⟨mem, same⟩ := get?_eq_some_iff.mp found
      rw [eq, if_pos (single e mem same)]
      exact ⟨r, rfl⟩
    · exact ⟨_, eq⟩

/-- A registration adds its descriptor to the entries, if it is not among them. -/
theorem mem_entries_of_register (h : r.register policy d = .ok r') :
    e ∈ r'.entries ↔ e ∈ r.entries ∨ e = d := by
  rcases register_ok h with ⟨mem, rfl⟩ | ⟨new, rfl⟩
  · exact ⟨.inl, fun known => known.elim id fun eq => eq ▸ mem⟩
  · simp [push]

/-! ## All registrations -/

/-- Registers descriptors one after the other, up to the first one that is refused. -/
def registerAll (r : Registry) (calls : List Registration) : Except Rejection Registry :=
  calls.foldlM (fun r call => r.register call.policy call.descriptor) r

/-- Registrations are all accepted if the first is, and the others are afterwards. -/
theorem registerAll_cons {call : Registration} :
    r.registerAll (call :: calls) = .ok r'
      ↔ ∃ r₁, r.register call.policy call.descriptor = .ok r₁ ∧ r₁.registerAll calls = .ok r' := by
  rw [registerAll, List.foldlM_cons]
  cases r.register call.policy call.descriptor with
  | error rejection => simp [bind, Except.bind]
  | ok r₁ => simp [bind, Except.bind, registerAll]

theorem mem_entries_of_registerAll (h : r.registerAll calls = .ok r') :
    e ∈ r'.entries ↔ e ∈ r.entries ++ calls.map Registration.descriptor := by
  induction calls generalizing r with
  | nil =>
    cases h
    simp
  | cons call calls ih =>
    obtain ⟨r₁, first, h⟩ := registerAll_cons.mp h
    rw [ih h]
    simp [mem_entries_of_register first, or_assoc]

/-- Registrations are all accepted exactly if each has what its policy asks for, and all that is
registered under one id is the same. -/
theorem registerAll_ok_iff :
    (∃ r', r.registerAll calls = .ok r')
      ↔ (∀ call ∈ calls, call.policy.Accepts call.descriptor)
        ∧ IsSingle (r.entries ++ calls.map Registration.descriptor) := by
  induction calls generalizing r with
  | nil => simp [registerAll, pure, Except.pure, isSingle_entries]
  | cons call calls ih =>
    -- What is registered after the first step is what was to be registered before it.
    have step {r₁ : Registry} (first : r.register call.policy call.descriptor = .ok r₁) :
        IsSingle (r₁.entries ++ calls.map Registration.descriptor)
          ↔ IsSingle (r.entries ++ (call :: calls).map Registration.descriptor) :=
      isSingle_congr fun e => by simp [mem_entries_of_register first, or_assoc]
    constructor
    · rintro ⟨r', h⟩
      obtain ⟨r₁, first, h⟩ := registerAll_cons.mp h
      obtain ⟨accepts, single⟩ := ih.mp ⟨r', h⟩
      exact ⟨List.forall_mem_cons.mpr ⟨accepts_of_register first, accepts⟩, (step first).mp single⟩
    · rintro ⟨accepts, single⟩
      obtain ⟨first, rest⟩ := List.forall_mem_cons.mp accepts
      have free : ∀ e ∈ r.entries, e.id = call.descriptor.id → e = call.descriptor :=
        fun e mem => single e (by simp [mem]) call.descriptor (by simp)
      obtain ⟨r₁, registered⟩ := register_ok_iff.mpr ⟨first, free⟩
      obtain ⟨r', h⟩ := ih.mpr ⟨rest, (step registered).mpr single⟩
      exact ⟨r', registerAll_cons.mpr ⟨r₁, registered, h⟩⟩

/-- Registries with the same descriptors have them in some order each. -/
theorem perm_entries (same : ∀ d, d ∈ r.entries ↔ d ∈ r'.entries) : r.entries.Perm r'.entries :=
  (List.perm_ext_iff_of_nodup (.of_map _ r.nodup_ids) (.of_map _ r'.nodup_ids)).mpr same

/-- Registrations that are all accepted in one order are all accepted in every other, and lead to the same
entries in some order. If no two ids have the same lower case, they lead to the same catalog. -/
theorem registerAll_perm (perm : calls.Perm calls') (accepted : r.registerAll calls = .ok r') :
    ∃ r'', r.registerAll calls' = .ok r'' ∧ r'.entries.Perm r''.entries
      ∧ ((∀ d ∈ r'.entries, ∀ e ∈ r'.entries,
            Text.lowercase d.id = Text.lowercase e.id → d.id = e.id) →
          Catalog.text r'.entries = Catalog.text r''.entries) := by
  obtain ⟨accepts, single⟩ := registerAll_ok_iff.mp ⟨r', accepted⟩
  have registered (e : Descriptor) : e ∈ r.entries ++ calls.map Registration.descriptor
      ↔ e ∈ r.entries ++ calls'.map Registration.descriptor :=
    ((perm.map Registration.descriptor).append_left r.entries).mem_iff
  obtain ⟨r'', accepted'⟩ := registerAll_ok_iff.mpr
    ⟨fun call mem => accepts call (perm.mem_iff.mpr mem), (isSingle_congr registered).mp single⟩
  have entries : r'.entries.Perm r''.entries := perm_entries fun e => by
    rw [mem_entries_of_registerAll accepted, mem_entries_of_registerAll accepted', registered]
  refine ⟨r'', accepted', entries, fun apart => Catalog.text_eq_of_perm entries ?_⟩
  intro d hd e he key
  exact eq_of_id_eq hd he (apart d hd e he key)

/-- Registrations with different policies, one of them twice, in two orders: the entries change places and
the catalog stays. -/
theorem registerAll_rotated :
    let b : Descriptor := ⟨"b", none, some "B"⟩
    let a : Descriptor := ⟨"A", some "first", none⟩
    let calls : List Registration := [⟨b, ⟨false, true⟩⟩, ⟨a, ⟨true, false⟩⟩, ⟨b, {}⟩]
    let calls' : List Registration := [⟨a, ⟨true, false⟩⟩, ⟨b, {}⟩, ⟨b, ⟨false, true⟩⟩]
    ∃ r r' : Registry, Registry.registerAll {} calls = .ok r ∧ Registry.registerAll {} calls' = .ok r'
      ∧ r.entries = [b, a] ∧ r'.entries = [a, b] ∧ Catalog.text r.entries = Catalog.text r'.entries := by
  intro b a calls calls'
  have accepted : Registry.registerAll {} calls = .ok ((({} : Registry).push b rfl).push a rfl) := by
    decide
  have perm : calls.Perm calls' := by decide
  obtain ⟨r', accepted', -, same⟩ := registerAll_perm perm accepted
  have rotated : Registry.registerAll {} calls' = .ok ((({} : Registry).push a rfl).push b rfl) := by
    decide
  obtain rfl := Except.ok.inj (accepted'.symm.trans rotated)
  exact ⟨_, _, accepted, accepted', rfl, rfl, same (by decide +kernel)⟩

end Registry

end MessageExtraction
