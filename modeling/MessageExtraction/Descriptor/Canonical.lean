import MessageExtraction.Config.Basic
import MessageExtraction.Descriptor.Basic

/-!
# Canonical descriptors

The field that holds the message text is put into canonical form; the others are taken over.
-/

namespace MessageExtraction.Descriptor

/-- A field in canonical form. -/
def FieldText.canonical (field : FieldText) : Except Message.SyntaxError String :=
  Message.normalize field.origin field.text

/-- The descriptor of the fields read, with its message text in canonical form. Nothing if the message text
is missing; the id stands in for a missing default text. -/
def Fields.canonical (fields : Fields) :
    MessageField → Except Message.SyntaxError (Option Descriptor)
  | .defaultMessage =>
      match fields.defaultMessage <|> fields.id with
      | none => .ok none
      | some source => do
          let text ← source.canonical
          .ok (some ⟨(fields.id.map FieldText.text).getD "",
            fields.description.map FieldText.text, some text⟩)
  | .id =>
      match fields.id with
      | none => .ok none
      | some source => do
          let text ← source.canonical
          .ok (some ⟨text, fields.description.map FieldText.text,
            fields.defaultMessage.map FieldText.text⟩)

end MessageExtraction.Descriptor
