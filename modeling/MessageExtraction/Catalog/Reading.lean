import MessageExtraction.Config.Setting
import MessageExtraction.Descriptor.Basic

/-!
# Reading catalogs

A descriptor is read from an object by its keys, or from an array by the order of the fields. It must have an
id. The other fields are absent where they are missing or nothing, an unknown key is passed over, and a key
may not come twice.
-/

namespace MessageExtraction

namespace Descriptor

/-- The descriptor with a field read from a value. -/
def Key.read? (key : Key) (j : Json) (d : Descriptor) : Option Descriptor :=
  match key with
  | .id => j.text?.map fun text => { d with id := text }
  | .description => (Setting.optionalText? j).map fun text => { d with description := text }
  | .defaultMessage => (Setting.optionalText? j).map fun text => { d with defaultMessage := text }

/-- Reads the fields of an object over a descriptor of which the fields `done` have been read, and says which
have been read in the end. -/
def readFields? (done : List Key) (d : Descriptor) :
    List (String × Json) → Option (List Key × Descriptor)
  | [] => some (done, d)
  | (name, j) :: fields =>
      match Key.ofName? name with
      | none => readFields? done d fields
      | some key =>
          if key ∈ done then none
          else do readFields? (key :: done) (← key.read? j d) fields

/-- Reads values for the first of the given fields. More values than fields are refused. -/
def readItems? (d : Descriptor) : List Key → List Json → Option Descriptor
  | _, [] => some d
  | [], _ :: _ => none
  | key :: keys, j :: js => do readItems? (← key.read? j d) keys js

/-- Reads a descriptor. -/
def ofJson? : Json → Option Descriptor
  | .object fields => do
      let (done, d) ← readFields? [] ⟨"", none, none⟩ fields
      if .id ∈ done then some d else none
  | .array [] => none
  | .array items => readItems? ⟨"", none, none⟩ [.id, .description, .defaultMessage] items
  | _ => none

end Descriptor

/-- Reads the descriptors of a catalog from its text. -/
def Catalog.parse? (text : String) : Option (List Descriptor) :=
  Json.parse? text >>= Json.items? >>= List.mapM Descriptor.ofJson?

end MessageExtraction
