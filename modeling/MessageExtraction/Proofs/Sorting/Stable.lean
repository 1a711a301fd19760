import Mathlib.Data.List.Basic
import Mathlib.Order.Lattice

/-!
# Stable sorting

A stable sort by keys keeps the elements of each key in their order, and is determined by that.

* `eq_of_filter`: two sorted lists with the same elements of each key, in the same order, are equal.
* `filter_mergeSort`, `pairwise_mergeSort`: sorting keeps the elements of each key, and orders the keys.
* `mergeSort_eq_of_filter`: so it depends only on the order of the elements with equal keys.
* `pairwise_eraseReps`: a sorted list without its repetitions increases strictly.
-/

namespace MessageExtraction

variable {α κ : Type} [LinearOrder κ] {key : α → κ} {xs ys : List α}

/-- Two sorted lists that have the same elements of each key, in the same order, are equal. -/
theorem eq_of_filter (sorted : xs.Pairwise fun a b => key a ≤ key b)
    (sorted' : ys.Pairwise fun a b => key a ≤ key b)
    (same : ∀ k, xs.filter (key · = k) = ys.filter (key · = k)) : xs = ys := by
  induction xs generalizing ys with
  | nil =>
    cases ys with
    | nil => rfl
    | cons y ys => simpa using same (key y)
  | cons x xs ih =>
    cases ys with
    | nil => simpa using same (key x)
    | cons y ys =>
      rw [List.pairwise_cons] at sorted sorted'
      -- Each of the two first elements is found in the other list.
      have le : key x ≤ key y := by
        have mem : y ∈ (x :: xs).filter (key · = key y) := by simp [same]
        rcases List.mem_cons.mp (List.mem_of_mem_filter mem) with rfl | mem
        · exact le_rfl
        · exact sorted.1 y mem
      have ge : key y ≤ key x := by
        have mem : x ∈ (y :: ys).filter (key · = key x) := by simp [← same]
        rcases List.mem_cons.mp (List.mem_of_mem_filter mem) with rfl | mem
        · exact le_rfl
        · exact sorted'.1 x mem
      have equal : key x = key y := le_antisymm le ge
      have first : x = y := by
        have heads := same (key x)
        rw [List.filter_cons_of_pos (by simp), List.filter_cons_of_pos (by simp [equal])] at heads
        exact (List.cons.inj heads).1
      subst first
      congr 1
      refine ih sorted.2 sorted'.2 fun k => ?_
      have both := same k
      simp only [List.filter_cons] at both
      split at both
      · exact (List.cons.inj both).2
      · exact both

variable {le : α → α → Bool}

theorem trans_of_key (compares : ∀ a b, le a b = true ↔ key a ≤ key b) (a b c : α) :
    le a b → le b c → le a c := by
  simp only [compares]
  exact le_trans

theorem total_of_key (compares : ∀ a b, le a b = true ↔ key a ≤ key b) (a b : α) :
    le a b || le b a := by
  simpa [compares] using le_total (key a) (key b)

/-- Sorting keeps the order of the elements with one key. -/
theorem filter_mergeSort (compares : ∀ a b, le a b = true ↔ key a ≤ key b) (k : κ) (xs : List α) :
    (xs.mergeSort le).filter (key · = k) = xs.filter (key · = k) := by
  have ties : (xs.filter (key · = k)).Pairwise fun a b => le a b = true := by
    refine List.pairwise_of_forall_mem_list fun a ha b hb => ?_
    have ka : key a = k := by simpa using List.of_mem_filter ha
    have kb : key b = k := by simpa using List.of_mem_filter hb
    rw [compares, ka, kb]
  have kept := (List.sublist_mergeSort (trans_of_key compares) (total_of_key compares) ties
    List.filter_sublist).filter (key · = k)
  rw [List.filter_filter] at kept
  simp only [Bool.and_self] at kept
  refine (kept.eq_of_length ?_).symm
  exact ((List.mergeSort_perm xs le).filter _).length_eq.symm

theorem pairwise_mergeSort (compares : ∀ a b, le a b = true ↔ key a ≤ key b) (xs : List α) :
    (xs.mergeSort le).Pairwise fun a b => key a ≤ key b :=
  (List.pairwise_mergeSort (trans_of_key compares) (total_of_key compares) xs).imp
    fun {a b} => (compares a b).mp

/-- What comes of a stable sort depends only on the order of the elements with equal keys. -/
theorem mergeSort_eq_of_filter (compares : ∀ a b, le a b = true ↔ key a ≤ key b)
    (same : ∀ k, xs.filter (key · = k) = ys.filter (key · = k)) :
    xs.mergeSort le = ys.mergeSort le := by
  refine eq_of_filter (pairwise_mergeSort compares xs) (pairwise_mergeSort compares ys) fun k => ?_
  rw [filter_mergeSort compares, filter_mergeSort compares, same k]

/-! ## Repetitions -/

section Repetitions

variable {a b : α} [DecidableEq α]

@[simp]
theorem eraseReps_singleton (a : α) : [a].eraseReps = [a] := rfl

theorem eraseReps_cons_cons (a b : α) (xs : List α) :
    (a :: b :: xs).eraseReps = if a = b then (b :: xs).eraseReps else a :: (b :: xs).eraseReps := by
  -- The first elements wait in reverse order for the rest to be looked at.
  have waiting (c : α) (ys before : List α) :
      List.eraseRepsBy.loop (· == ·) c ys before
        = before.reverse ++ List.eraseRepsBy.loop (· == ·) c ys [] := by
    induction ys generalizing c before with
    | nil => simp [List.eraseRepsBy.loop]
    | cons d ys ih =>
      rw [List.eraseRepsBy.loop, List.eraseRepsBy.loop]
      split
      · exact ih c before
      · rw [ih, ih d [c]]
        simp
  unfold List.eraseReps List.eraseRepsBy
  dsimp only
  rw [List.eraseRepsBy.loop]
  split
  · rename_i same
    rw [if_pos (beq_iff_eq.mp same), beq_iff_eq.mp same]
  · rename_i other
    rw [if_neg (by simpa using other), waiting]
    rfl

@[simp]
theorem mem_eraseReps : a ∈ xs.eraseReps ↔ a ∈ xs := by
  induction xs with
  | nil => rfl
  | cons b xs ih =>
    cases xs with
    | nil => rfl
    | cons c xs =>
      rw [eraseReps_cons_cons]
      split
      · rename_i eq
        simp [ih, eq]
      · rw [List.mem_cons, ih, ← List.mem_cons]

end Repetitions

/-- A sorted list without its repetitions increases strictly. -/
theorem pairwise_eraseReps {xs : List κ} (h : xs.Pairwise (· ≤ ·)) : xs.eraseReps.Pairwise (· < ·) := by
  induction xs with
  | nil => exact List.Pairwise.nil
  | cons a xs ih =>
    cases xs with
    | nil => exact List.pairwise_singleton _ _
    | cons b xs =>
      rw [List.pairwise_cons] at h
      rw [eraseReps_cons_cons]
      split
      · exact ih h.2
      · rename_i other
        refine List.pairwise_cons.mpr ⟨fun c mem => ?_, ih h.2⟩
        have first : a < b := lt_of_le_of_ne (h.1 b List.mem_cons_self) other
        rcases List.mem_cons.mp (mem_eraseReps.mp mem) with rfl | mem
        · exact first
        · exact lt_of_lt_of_le first ((List.pairwise_cons.mp h.2).1 c mem)

end MessageExtraction
