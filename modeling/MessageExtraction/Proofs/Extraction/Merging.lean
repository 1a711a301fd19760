import MessageExtraction.Extraction.Call
import MessageExtraction.Proofs.Static.Values

/-!
# Merged arrays

The items of an array of descriptors become the properties of an object, each under its id.

* `entries_of_mergeItems`: the object has the first item of each id, in the order of the array.
* `mergeItems_conflict_iff`: when an item is refused for the id that it shares with another.
* `refuses_of_unusable`: what is wrong with an array is reported at the call or at one of its items.
-/

namespace MessageExtraction

open Syntax (Tree Span)

namespace HelperCall

variable {call : HelperCall} {seen entries merged : List (String × StaticValue)} {id : String}
  {v : StaticValue} {item e : Tree} {items : List Tree}

/-! ## Entries -/

/-- The id and the value of an item of an array of descriptors. -/
def keyed? : Tree → Option (String × StaticValue)
  | .element none e => do
      let v ← e.evaluate
      let id ← v.fieldText? "id"
      some (id, v)
  | _ => none

/-- The first of the entries with each id. -/
def firsts : List (String × StaticValue) → List (String × StaticValue)
  | [] => []
  | entry :: entries => entry :: (firsts entries).filter (·.1 != entry.1)

theorem lookup_filter_ne {other : String} (ne : id ≠ other) (entries : List (String × StaticValue)) :
    (entries.filter (·.1 != other)).lookup id = entries.lookup id := by
  induction entries with
  | nil => rfl
  | cons entry entries ih =>
    rw [List.filter_cons, List.lookup_cons]
    split
    · rw [List.lookup_cons, ih]
    · rename_i same
      have absent : (id == entry.1) = false := by
        rw [beq_eq_false_iff_ne]
        rintro rfl
        exact ne (by simpa using same)
      rw [absent, ih]

theorem lookup_firsts (entries : List (String × StaticValue)) :
    (firsts entries).lookup id = entries.lookup id := by
  induction entries with
  | nil => rfl
  | cons entry entries ih =>
    rw [firsts, List.lookup_cons, List.lookup_cons]
    split
    · rfl
    · rename_i other
      rw [lookup_filter_ne (beq_eq_false_iff_ne.mp other), ih]

/-- An entry comes after the others, unless there is one of its id among them. -/
theorem firsts_concat (entries : List (String × StaticValue)) (id : String) (v : StaticValue) :
    firsts (entries ++ [(id, v)])
      = if (entries.lookup id).isSome then firsts entries else firsts entries ++ [(id, v)] := by
  induction entries with
  | nil => rfl
  | cons entry entries ih =>
    rw [List.cons_append, firsts, firsts, ih, List.lookup_cons]
    by_cases same : id = entry.1
    · subst same
      cases (entries.lookup entry.1).isSome <;> simp
    · rw [beq_eq_false_iff_ne.mpr same]
      cases (entries.lookup id).isSome <;> simp [same]

/-- The values of entries with one id differ in nothing but signs of zeros. -/
def Agree (entries : List (String × StaticValue)) : Prop :=
  ∀ id v w, (id, v) ∈ entries → (id, w) ∈ entries → v.unsigned = w.unsigned

theorem agree_nil : Agree [] := fun _ _ _ mem => absurd mem List.not_mem_nil

theorem agree_concat : Agree (entries ++ [(id, v)])
    ↔ Agree entries ∧ ∀ w, (id, w) ∈ entries → w.unsigned = v.unsigned := by
  constructor
  · intro agree
    exact ⟨fun id v w hv hw => agree id v w (List.mem_append_left _ hv) (List.mem_append_left _ hw),
      fun w hw => agree id w v (List.mem_append_left _ hw) (List.mem_append_right _ List.mem_cons_self)⟩
  · rintro ⟨agree, same⟩ id' v' w' hv hw
    simp only [List.mem_append, List.mem_singleton, Prod.mk.injEq] at hv hw
    rcases hv with hv | ⟨rfl, rfl⟩ <;> rcases hw with hw | ⟨same', rfl⟩
    · exact agree id' v' w' hv hw
    · subst same'
      exact same v' hv
    · exact (same w' hw).symm
    · rfl

/-- If the values of an id agree, a value that equals the first equals all of them. -/
theorem all_equal_iff (agree : Agree seen) (numbers : ∀ entry ∈ seen, entry.2.hasNaN = false)
    (number : v.hasNaN = false) :
    (seen.lookup id).all (·.equal v) = true ↔ ∀ w, (id, w) ∈ seen → w.unsigned = v.unsigned := by
  cases found : seen.lookup id with
  | none =>
    rw [List.lookup_eq_none_iff] at found
    exact iff_of_true rfl fun w mem => absurd (found _ mem) (by simp)
  | some u =>
    obtain ⟨before, behind, rfl, -⟩ := List.lookup_eq_some_iff.mp found
    have mem : (id, u) ∈ before ++ (id, u) :: behind := by simp
    rw [Option.all_some, StaticValue.equal_iff u v (numbers _ mem) number]
    exact ⟨fun same w hw => (agree id w u hw mem).trans same, fun same => same u mem⟩

/-! ## Merging -/

theorem keyed?_some : keyed? (.element none e) = some (id, v)
    ↔ e.evaluate = some v ∧ v.fieldText? "id" = some id := by
  simp only [keyed?, Option.bind_eq_bind, Option.bind_eq_some_iff, Option.some.injEq, Prod.mk.injEq]
  constructor
  · rintro ⟨_, value, _, text, rfl, rfl⟩
    exact ⟨value, text⟩
  · rintro ⟨value, text⟩
    exact ⟨v, value, id, text, rfl, rfl⟩

theorem eq_element_of_keyed? (h : keyed? item = some (id, v)) : ∃ e, item = .element none e := by
  rw [keyed?.eq_def] at h
  split at h
  · exact ⟨_, rfl⟩
  · contradiction

theorem isObject_of_fieldText? {key text : String} (h : v.fieldText? key = some text) :
    v.isObject = true := by
  cases v with
  | object => rfl
  | _ => contradiction

/-- What an item with an id does: it comes to the others, or it is refused because it is not equal to the
first one of its id. -/
theorem mergeItems_of_entry (readable : keyed? (.element none e) = some (id, v)) :
    call.mergeItems (firsts seen) (.element none e :: items)
      = if (seen.lookup id).all (·.equal v) then call.mergeItems (firsts (seen ++ [(id, v)])) items
        else .error ⟨.fault (.rejected (.duplicateId id)), e.span?⟩ := by
  obtain ⟨value, text⟩ := keyed?_some.mp readable
  rw [mergeItems, value]
  simp only [isObject_of_fieldText? text, text, lookup_firsts, firsts_concat]
  cases seen.lookup id <;> rfl

/-- An item without an id is refused, for another reason than its id. -/
theorem mergeItems_of_none (unreadable : keyed? item = none) :
    ∃ finding, call.mergeItems merged (item :: items) = .error finding
      ∧ ∀ id, finding.event ≠ .fault (.rejected (.duplicateId id)) := by
  rw [mergeItems.eq_def]
  split
  · contradiction
  · exact ⟨_, rfl, nofun⟩
  · rename_i e items eq
    obtain ⟨rfl, rfl⟩ := List.cons.inj eq
    split
    · exact ⟨_, rfl, nofun⟩
    rename_i v value
    split
    · exact ⟨_, rfl, nofun⟩
    split
    · exact ⟨_, rfl, nofun⟩
    rename_i id text
    rw [keyed?_some.mpr ⟨value, text⟩] at unreadable
    contradiction
  · exact ⟨_, rfl, nofun⟩

/-- Merged items are the first ones of each id. -/
theorem entries_of_mergeItems (h : call.mergeItems (firsts seen) items = .ok merged) :
    ∃ entries, items.map keyed? = entries.map some ∧ merged = firsts (seen ++ entries) := by
  induction items generalizing seen with
  | nil =>
    cases h
    exact ⟨[], rfl, by rw [List.append_nil]⟩
  | cons item items ih =>
    cases readable : keyed? item with
    | none =>
      obtain ⟨finding, refused, -⟩ := @mergeItems_of_none call (firsts seen) item items readable
      rw [refused] at h
      contradiction
    | some entry =>
      obtain ⟨id, v⟩ := entry
      obtain ⟨e, rfl⟩ := eq_element_of_keyed? readable
      rw [mergeItems_of_entry readable] at h
      split at h
      · obtain ⟨entries, read, rfl⟩ := ih h
        exact ⟨(id, v) :: entries, by rw [List.map_cons, List.map_cons, readable, read],
          by rw [List.append_assoc, List.singleton_append]⟩
      · contradiction

/-- Whether the first item with which anything is wrong is one that has the id of an earlier one and another
value, and stands at that place. -/
def Conflict (seen : List (String × StaticValue)) (items : List Tree) (id : String)
    (place : Option Span) : Prop :=
  ∃ before e behind entries v w, items = before ++ .element none e :: behind ∧ place = e.span?
    ∧ before.map keyed? = entries.map some ∧ Agree (seen ++ entries)
    ∧ keyed? (.element none e) = some (id, v) ∧ (id, w) ∈ seen ++ entries ∧ w.unsigned ≠ v.unsigned

theorem not_conflict_nil {place : Option Span} : ¬ Conflict seen [] id place := by
  rintro ⟨before, e, behind, _, _, _, eq, -⟩
  simp at eq

theorem not_conflict_of_none {place : Option Span} (unreadable : keyed? item = none) :
    ¬ Conflict seen (item :: items) id place := by
  rintro ⟨before, e, behind, entries, v, w, eq, -, read, -, found, -⟩
  cases before with
  | nil =>
    obtain ⟨rfl, rfl⟩ := List.cons.inj eq
    rw [unreadable] at found
    contradiction
  | cons first before =>
    obtain ⟨rfl, rfl⟩ := List.cons.inj eq
    rw [List.map_cons, unreadable] at read
    cases entries <;> simp at read

/-- The conflict is at the first item, or the first item agrees with those before it. -/
theorem conflict_cons {place : Option Span} {id' : String} (agree : Agree seen)
    (readable : keyed? (.element none e) = some (id', v)) :
    Conflict seen (.element none e :: items) id place
      ↔ (∀ w, (id', w) ∈ seen → w.unsigned = v.unsigned)
          ∧ Conflict (seen ++ [(id', v)]) items id place
        ∨ (∃ w, (id', w) ∈ seen ∧ w.unsigned ≠ v.unsigned) ∧ id = id' ∧ place = e.span? := by
  constructor
  · rintro ⟨before, e', behind, entries, v', w, eq, rfl, read, agrees, found, mem, differs⟩
    cases before with
    | nil =>
      cases eq
      rw [readable] at found
      cases found
      obtain rfl : entries = [] := List.map_eq_nil_iff.mp read.symm
      rw [List.append_nil] at mem
      exact .inr ⟨⟨w, mem, differs⟩, rfl, rfl⟩
    | cons first before =>
      obtain ⟨rfl, rfl⟩ := List.cons.inj eq
      cases entries with
      | nil => simp at read
      | cons entry entries =>
        rw [List.map_cons, List.map_cons, readable] at read
        obtain ⟨same, others⟩ := List.cons.inj read
        cases same
        refine .inl ⟨fun w mem => agrees id' w v (List.mem_append_left _ mem)
          (List.mem_append_right _ List.mem_cons_self), before, e', behind, entries, v', w, rfl, rfl,
          others, ?_, found, ?_, differs⟩
        · rwa [List.append_assoc, List.singleton_append]
        · rwa [List.append_assoc, List.singleton_append]
  · rintro (⟨same, before, e', behind, entries, v', w, rfl, rfl, read, agrees, found, mem, differs⟩
      | ⟨⟨w, mem, differs⟩, rfl, rfl⟩)
    · rw [List.append_assoc, List.singleton_append] at agrees mem
      exact ⟨.element none e :: before, e', behind, (id', v) :: entries, v', w, rfl, rfl,
        by rw [List.map_cons, List.map_cons, readable, read], agrees, found, mem, differs⟩
    · exact ⟨[], e, items, [], v, w, rfl, rfl, rfl, by rwa [List.append_nil], readable,
        by rwa [List.append_nil], differs⟩

/-- An item is refused for its id if it is the first with which anything is wrong, and another item before
it has the id and another value. -/
theorem mergeItems_conflict_iff {place : Option Span} (agree : Agree seen)
    (numbers : ∀ entry ∈ seen, entry.2.hasNaN = false)
    (itemNumbers : ∀ item ∈ items, ∀ id v, keyed? item = some (id, v) → v.hasNaN = false) :
    call.mergeItems (firsts seen) items = .error ⟨.fault (.rejected (.duplicateId id)), place⟩
      ↔ Conflict seen items id place := by
  induction items generalizing seen with
  | nil => exact iff_of_false nofun not_conflict_nil
  | cons item items ih =>
    cases readable : keyed? item with
    | none =>
      refine iff_of_false (fun conflict => ?_) (not_conflict_of_none readable)
      obtain ⟨finding, refused, other⟩ := @mergeItems_of_none call (firsts seen) item items readable
      rw [refused] at conflict
      cases conflict
      exact other id rfl
    | some entry =>
      obtain ⟨id', v⟩ := entry
      obtain ⟨e, rfl⟩ := eq_element_of_keyed? readable
      have number := itemNumbers _ List.mem_cons_self id' v readable
      have equal := @all_equal_iff seen id' v agree numbers number
      rw [mergeItems_of_entry readable, conflict_cons agree readable]
      split
      · rename_i accepted
        have same := equal.mp accepted
        have numbers' : ∀ entry ∈ seen ++ [(id', v)], entry.2.hasNaN = false := by
          simpa [or_imp, forall_and, number] using numbers
        rw [ih (agree_concat.mpr ⟨agree, same⟩) numbers' fun item mem =>
          itemNumbers item (List.mem_cons_of_mem _ mem)]
        constructor
        · exact fun later => .inl ⟨same, later⟩
        · rintro (⟨-, later⟩ | ⟨⟨w, mem, differs⟩, -⟩)
          · exact later
          · exact absurd (same w mem) differs
      · rename_i refused
        rw [equal] at refused
        constructor
        · intro conflict
          cases conflict
          push Not at refused
          exact .inr ⟨refused, rfl, rfl⟩
        · rintro (⟨same, -⟩ | ⟨-, rfl, rfl⟩)
          · exact absurd same refused
          · rfl

/-! ## Refusals -/

/-- What can be wrong with the items of an array: a fault of the call or of an item. -/
structure Refuses (call : HelperCall) (items : List Tree) (finding : Finding) : Prop where
  fault : ∃ cause, finding.event = .fault cause
  place : finding.span = call.span ∨ ∃ e, .element none e ∈ items ∧ finding.span = e.span?

theorem refuses_of_mem (mem : .element none e ∈ items) (cause : FaultCause) :
    call.Refuses items ⟨.fault cause, e.span?⟩ :=
  ⟨⟨cause, rfl⟩, .inr ⟨e, mem, rfl⟩⟩

theorem refuses_of_mergeItems {finding : Finding}
    (refused : call.mergeItems merged items = .error finding) : call.Refuses items finding := by
  induction items generalizing merged with
  | nil => contradiction
  | cons item items ih =>
    have later {merged' : List (String × StaticValue)}
        (refused : call.mergeItems merged' items = .error finding) :
        call.Refuses (item :: items) finding :=
      ⟨(ih refused).fault,
        (ih refused).place.imp id fun ⟨e, mem, place⟩ => ⟨e, List.mem_cons_of_mem _ mem, place⟩⟩
    rw [mergeItems.eq_def] at refused
    split at refused
    · contradiction
    · cases refused
      exact ⟨⟨_, rfl⟩, .inl rfl⟩
    · rename_i eq
      obtain ⟨rfl, rfl⟩ := List.cons.inj eq
      split at refused
      · cases refused
        exact refuses_of_mem List.mem_cons_self _
      split at refused
      · cases refused
        exact refuses_of_mem List.mem_cons_self _
      split at refused
      · cases refused
        exact refuses_of_mem List.mem_cons_self _
      split at refused
      · split at refused
        · exact later refused
        · cases refused
          exact refuses_of_mem List.mem_cons_self _
      · exact later refused
    · cases refused
      exact ⟨⟨_, rfl⟩, .inl rfl⟩

/-- What is wrong with an argument is a fault of the call, or of an item of the array that it is. -/
theorem refuses_of_unusable {finding : Finding} (unusable : call.argument = .unusable finding) :
    ∃ items, call.Refuses items finding
      ∧ (items = [] ∨ ∃ e span, .element none e ∈ call.args ∧ e.unwrap = .arrayExpression span items) := by
  rw [argument] at unusable
  split at unusable
  · rename_i e _ args
    split at unusable
    · contradiction
    · contradiction
    · rename_i span items array
      split at unusable
      · contradiction
      rename_i refused
      cases unusable
      exact ⟨items, refuses_of_mergeItems refused, .inr ⟨e, _, args ▸ List.mem_cons_self, array⟩⟩
    · cases unusable
      exact ⟨[], ⟨⟨_, rfl⟩, .inl rfl⟩, .inl rfl⟩
  · cases unusable
    exact ⟨[], ⟨⟨_, rfl⟩, .inl rfl⟩, .inl rfl⟩

end HelperCall

end MessageExtraction
