import MessageExtraction.Catalog.Reading
import MessageExtraction.Proofs.Catalog.Sorting
import MessageExtraction.Proofs.Json.RoundTrip

/-!
# Catalogs read back

The text of a catalog holds the descriptors themselves, in the order of the catalog.

* `ofJson?_toJson`: a descriptor is read back, its absent fields absent.
* `IsCatalogOf`: the order of a catalog, said without a sort.
* `parse?_text`: what is read back, and which lists of descriptors have one text.
-/

namespace MessageExtraction

theorem Descriptor.ofJson?_toJson (d : Descriptor) : ofJson? d.toJson = some d := by
  obtain ⟨id, description, defaultMessage⟩ := d
  cases description <;> cases defaultMessage <;> rfl

theorem Descriptor.isSpelled_toJson (d : Descriptor) : d.toJson.isSpelled = true := by
  obtain ⟨id, description, defaultMessage⟩ := d
  cases description <;> cases defaultMessage <;> rfl

namespace Catalog

variable {ds ds' es : List Descriptor}

theorem isSpelled_array (ds : List Descriptor) :
    (Json.array (ds.map Descriptor.toJson)).isSpelled = true := by
  rw [Json.isSpelled]
  induction ds with
  | nil => rfl
  | cons d ds ih => rw [List.map_cons, Json.areSpelled, d.isSpelled_toJson, ih, Bool.and_self]

/-- The text of a catalog is read as its descriptors. -/
theorem parse?_text_eq_sorted (ds : List Descriptor) : parse? (text ds) = some (sorted ds) := by
  have read : Json.parse? (text ds) = some (.array ((sorted ds).map Descriptor.toJson)) :=
    Json.parse?_pretty (isSpelled_array (sorted ds)) (List.all_eq_true.mp (by decide))
  rw [parse?, read]
  exact Json.mapM_map_eq_some Descriptor.ofJson?_toJson (sorted ds)

/-- Whether descriptors stand in the order of a catalog of others: they are the others, the lower case of
their ids does not decrease, and those with one lower case are in the order in which the others have them. -/
structure IsCatalogOf (es ds : List Descriptor) : Prop where
  perm : es.Perm ds
  ordered : es.Pairwise fun d e => Text.lowercase d.id ≤ Text.lowercase e.id
  stable : ∀ key, es.filter (Text.lowercase ·.id = key) = ds.filter (Text.lowercase ·.id = key)

theorem isCatalogOf_sorted (ds : List Descriptor) : IsCatalogOf (sorted ds) ds :=
  ⟨sorted_perm ds, pairwise_sorted ds, filter_sorted ds⟩

theorem IsCatalogOf.eq_sorted (h : IsCatalogOf es ds) : es = sorted ds :=
  eq_of_filter h.ordered (pairwise_sorted ds) fun key => (h.stable key).trans (filter_sorted ds key).symm

/-- The text of a catalog is read back as its descriptors, in the order of a catalog and with the fields that
they have. Other descriptors have the same text exactly if they stand in a catalog in the same order. -/
theorem parse?_text (ds : List Descriptor) :
    ∃ es, parse? (text ds) = some es ∧ IsCatalogOf es ds
      ∧ ∀ ds', text ds' = text ds ↔ IsCatalogOf es ds' := by
  refine ⟨sorted ds, parse?_text_eq_sorted ds, isCatalogOf_sorted ds, fun ds' => ⟨fun eq => ?_, fun h => ?_⟩⟩
  · have same : some (sorted ds') = some (sorted ds) := by
      rw [← parse?_text_eq_sorted, ← parse?_text_eq_sorted, eq]
    rw [← Option.some.inj same]
    exact isCatalogOf_sorted ds'
  · rw [text, text, h.eq_sorted]

end Catalog

end MessageExtraction
