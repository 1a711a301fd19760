import MessageExtraction.Descriptor.Basic
import MessageExtraction.Json.Printer
import MessageExtraction.Text.Case

/-!
# What catalogs hold

The text of a catalog is a JSON array of descriptors, sorted by the lower case of their ids.
-/

namespace MessageExtraction.Catalog

/-- The descriptors by the lower case of their ids, those with equal lower case in the given order. -/
def sorted (ds : List Descriptor) : List Descriptor :=
  (ds.map fun d => (Text.lowercase d.id, d)).mergeSort (fun a b => decide (a.1 ≤ b.1))
    |>.map Prod.snd

/-- The text of a catalog. -/
def text (ds : List Descriptor) : String :=
  (Json.array ((sorted ds).map Descriptor.toJson)).pretty ++ "\n"

end MessageExtraction.Catalog
