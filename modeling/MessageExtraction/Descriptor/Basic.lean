import MessageExtraction.Message.Printer
import MessageExtraction.Json.Basic

/-!
# Message descriptors

A descriptor names a message by its id, and may describe it and give its default text.
-/

namespace MessageExtraction

/-- A message descriptor. -/
structure Descriptor where
  id : String
  description : Option String := none
  defaultMessage : Option String := none
deriving DecidableEq, Repr, Inhabited

namespace Descriptor

/-- The names of the fields of a descriptor. -/
inductive Key where
  | id
  | description
  | defaultMessage
deriving DecidableEq, Repr, Inhabited

/-- The spelling of a field name. -/
def Key.name : Key → String
  | .id => "id"
  | .description => "description"
  | .defaultMessage => "defaultMessage"

/-- The field of that name. -/
def Key.ofName? (name : String) : Option Key :=
  [Key.id, .description, .defaultMessage].find? fun key => key.name = name

/-- The fields in order, without the absent ones. -/
def toJson (d : Descriptor) : Json :=
  .object ([("id", .string d.id)]
    ++ (d.description.map fun text => ("description", Json.string text)).toList
    ++ (d.defaultMessage.map fun text => ("defaultMessage", Json.string text)).toList)

/-- The text of a field as the source has it, with the kind of literal it stood in. -/
structure FieldText where
  text : String
  origin : Message.Origin := .script
deriving DecidableEq, Repr, Inhabited

/-- The fields of a descriptor that have been read so far. -/
structure Fields where
  id : Option FieldText := none
  description : Option FieldText := none
  defaultMessage : Option FieldText := none
deriving DecidableEq, Repr, Inhabited

/-- Stores a field, over an earlier one of that name. -/
def Fields.set (fields : Fields) (key : Key) (text : FieldText) : Fields :=
  match key with
  | .id => { fields with id := some text }
  | .description => { fields with description := some text }
  | .defaultMessage => { fields with defaultMessage := some text }

/-- Whether no field has been read. -/
def Fields.isEmpty (fields : Fields) : Bool :=
  fields.id.isNone && fields.description.isNone && fields.defaultMessage.isNone

end Descriptor

end MessageExtraction
