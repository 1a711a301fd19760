import Mathlib.Data.String.Basic
import MessageExtraction.Catalog.Text
import MessageExtraction.Proofs.Sorting.Stable

/-!
# The order of catalogs

The descriptors of a catalog stand in the order of the lower case of their ids. Where two ids have the same
lower case, the order in which they were given decides.

* `sorted_perm`, `pairwise_sorted`, `filter_sorted`: nothing is lost by sorting, the keys do not decrease, and
  descriptors with one key stay in order.
* `sorted_eq_of_perm`, `text_eq_of_perm`: where each key belongs to one descriptor, the order in which they
  are given does not show.
-/

namespace MessageExtraction.Catalog

variable {ds ds' : List Descriptor}

/-- The key by which descriptors are sorted. -/
def sortKey (d : Descriptor) : String := Text.lowercase d.id

/-- The keys are computed once, but the sort is one of the descriptors by their keys. -/
theorem sorted_eq_mergeSort (ds : List Descriptor) :
    sorted ds = ds.mergeSort fun d e => decide (sortKey d ≤ sortKey e) := by
  have paired := List.map_mergeSort (l := ds) (f := fun d => (sortKey d, d))
    (r := fun d e => decide (sortKey d ≤ sortKey e))
    (s := fun (a b : String × Descriptor) => decide (a.1 ≤ b.1)) fun _ _ _ _ => rfl
  have unpaired := congrArg (List.map Prod.snd) paired
  rw [List.map_map, List.map_congr_left fun _ _ => Function.comp_apply, List.map_id'] at unpaired
  exact unpaired.symm

theorem compares_sortKey (d e : Descriptor) :
    decide (sortKey d ≤ sortKey e) = true ↔ sortKey d ≤ sortKey e := decide_eq_true_iff

theorem sorted_perm (ds : List Descriptor) : (sorted ds).Perm ds := by
  rw [sorted_eq_mergeSort]
  exact List.mergeSort_perm ds _

theorem pairwise_sorted (ds : List Descriptor) :
    (sorted ds).Pairwise fun d e => sortKey d ≤ sortKey e := by
  rw [sorted_eq_mergeSort]
  exact pairwise_mergeSort compares_sortKey ds

theorem filter_sorted (ds : List Descriptor) (key : String) :
    (sorted ds).filter (sortKey · = key) = ds.filter (sortKey · = key) := by
  rw [sorted_eq_mergeSort]
  exact filter_mergeSort compares_sortKey key ds

/-- Descriptors with keys of their own are sorted in one way. -/
theorem sorted_eq_of_perm (perm : ds.Perm ds')
    (apart : ∀ d ∈ ds, ∀ e ∈ ds, sortKey d = sortKey e → d = e) : sorted ds = sorted ds' := by
  have both : (sorted ds).Perm (sorted ds') :=
    (sorted_perm ds).trans (perm.trans (sorted_perm ds').symm)
  refine List.Perm.eq_of_pairwise ?_ (pairwise_sorted ds) (pairwise_sorted ds') both
  intro d e hd he le ge
  have mem : d ∈ ds := (sorted_perm ds).mem_iff.mp hd
  have mem' : e ∈ ds := perm.mem_iff.mpr ((sorted_perm ds').mem_iff.mp he)
  exact apart d mem e mem' (String.le_antisymm le ge)

theorem text_eq_of_perm (perm : ds.Perm ds')
    (apart : ∀ d ∈ ds, ∀ e ∈ ds, sortKey d = sortKey e → d = e) : text ds = text ds' := by
  rw [text, text, sorted_eq_of_perm perm apart]

end MessageExtraction.Catalog
