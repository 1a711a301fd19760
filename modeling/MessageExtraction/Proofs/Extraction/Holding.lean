import MessageExtraction.Proofs.Descriptor.Registration
import MessageExtraction.Proofs.Extraction.Survey

/-!
# Findings that a registry holds

The registry at the end of a run has every message found in it. A later run that finds some of them again
and nothing else has no fault, whatever it has registered by then.

* `held_of_foldlM`: what was taken in without a fault is held by the registry at the end.
* `foldlM_of_held`: what a registry holds can be taken in by any registry with less.
-/

namespace MessageExtraction

/-! ## Findings -/

/-- Whether a registry has the message of a finding. Remarks need no message, and faults are never held. -/
def Finding.IsHeld (r : Registry) (finding : Finding) : Prop :=
  match finding.event with
  | .warning _ => True
  | .fault _ => False
  | .message d policy => policy.Accepts d ∧ d ∈ r.entries

theorem Finding.IsHeld.mono {r r' : Registry} (within : r.Within r') {finding : Finding}
    (h : finding.IsHeld r) : finding.IsHeld r' := by
  obtain ⟨event, span⟩ := finding
  cases event with
  | warning text => trivial
  | fault cause => exact h
  | message d policy => exact ⟨h.1, within d h.2⟩

namespace Gathered

variable {file : SourceFile} {g g' : Gathered} {finding : Finding} {findings : List Finding}
  {full : Registry}

theorem take_ok (h : g.take file finding = .ok g') :
    finding.IsHeld g'.registry ∧ g.registry.Within g'.registry := by
  rw [take] at h
  rw [Finding.IsHeld]
  cases e : finding.event with
  | warning text =>
    rw [e] at h
    cases h
    exact ⟨trivial, .refl _⟩
  | fault cause =>
    rw [e] at h
    contradiction
  | message d policy =>
    rw [e] at h
    dsimp only at h
    split at h
    · rename_i registry registered
      cases h
      exact ⟨⟨Registry.accepts_of_register registered, Registry.mem_of_register registered⟩,
        Registry.within_of_register registered⟩
    · contradiction

theorem held_of_foldlM (h : findings.foldlM (take file) g = .ok g') :
    (∀ finding ∈ findings, finding.IsHeld g'.registry) ∧ g.registry.Within g'.registry := by
  induction findings generalizing g with
  | nil =>
    cases h
    exact ⟨by simp, .refl _⟩
  | cons first rest ih =>
    rw [List.foldlM_cons] at h
    cases taken : g.take file first with
    | error fault =>
      rw [taken] at h
      contradiction
    | ok next =>
      rw [taken] at h
      obtain ⟨held, within⟩ := take_ok taken
      obtain ⟨heldRest, withinRest⟩ := ih h
      refine ⟨fun finding mem => ?_, within.trans withinRest⟩
      rcases List.mem_cons.mp mem with rfl | mem
      · exact held.mono withinRest
      · exact heldRest finding mem

theorem take_of_held (held : finding.IsHeld full) (within : g.registry.Within full) :
    ∃ g', g.take file finding = .ok g' ∧ g'.registry.Within full := by
  rw [Finding.IsHeld] at held
  rw [take]
  cases e : finding.event with
  | warning text => exact ⟨_, rfl, within⟩
  | fault cause =>
    rw [e] at held
    contradiction
  | message d policy =>
    rw [e] at held
    obtain ⟨r, registered, less⟩ := Registry.register_of_mem held.1 held.2 within
    exact ⟨{ g with registry := r }, by dsimp only; rw [registered], less⟩

theorem foldlM_of_held (held : ∀ finding ∈ findings, finding.IsHeld full)
    (within : g.registry.Within full) :
    ∃ g', findings.foldlM (take file) g = .ok g' ∧ g'.registry.Within full := by
  induction findings generalizing g with
  | nil => exact ⟨g, rfl, within⟩
  | cons first rest ih =>
    obtain ⟨next, taken, less⟩ :=
      @take_of_held file g first full (held first List.mem_cons_self) within
    obtain ⟨g', takenRest, lessRest⟩ :=
      ih (fun finding mem => held finding (List.mem_cons_of_mem first mem)) less
    refine ⟨g', ?_, lessRest⟩
    rw [List.foldlM_cons, taken]
    exact takenRest

end Gathered

namespace Session

variable {session session' : Session} {file : SourceFile} {findings : List Finding}

theorem gathered_of_not_failed (h : session.failed = false) :
    session.gathered = .ok ⟨session.registry, session.warnings⟩ := by
  rw [failed, Option.isSome_eq_false_iff, Option.isNone_iff_eq_none] at h
  rw [gathered, h]

theorem not_failed_of_gathered {g : Gathered} (h : session.gathered = .ok g) :
    session.failed = false ∧ g.registry = session.registry := by
  rw [gathered] at h
  split at h
  · contradiction
  · rename_i none
    cases h
    exact ⟨by simp [failed, none], rfl⟩

/-- A session without a fault has the findings that it took in. -/
theorem Gathers.held (h : Gathers file session session' findings)
    (ok : session'.failed = false) :
    session.failed = false ∧ ∀ finding ∈ findings, finding.IsHeld session'.registry := by
  rw [Gathers, gathered_of_not_failed ok] at h
  cases gathered : session.gathered with
  | error fault =>
    rw [gathered] at h
    contradiction
  | ok g =>
    rw [gathered] at h
    exact ⟨(not_failed_of_gathered gathered).1, (Gathered.held_of_foldlM h.symm).1⟩

/-- Findings that a registry holds bring no fault into a session with a part of that registry. -/
theorem Gathers.of_held {full : Registry} (h : Gathers file session session' findings)
    (ok : session.failed = false) (within : session.registry.Within full)
    (held : ∀ finding ∈ findings, finding.IsHeld full) :
    session'.failed = false ∧ session'.registry.Within full := by
  rw [Gathers, gathered_of_not_failed ok] at h
  obtain ⟨g', taken, less⟩ :=
    @Gathered.foldlM_of_held file ⟨session.registry, session.warnings⟩ findings full held within
  obtain ⟨finished, registry⟩ := not_failed_of_gathered (h.trans taken)
  exact ⟨finished, registry ▸ less⟩

end Session

end MessageExtraction
