import MessageExtraction.Extraction.Finding
import MessageExtraction.Static.Evaluate

/-!
# Markup

Tags of the marking components. In one mode the attributes are literals, and a tag with an id but without a
default text is given a copy of the id for it; in the other each attribute has a value that is known before
the program runs.
-/

namespace MessageExtraction

open Syntax (Tree Span)

/-- What a tag means to the extraction. -/
inductive TagMeaning where
  | message
  | deprecated (name : String)
deriving DecidableEq, Repr

namespace Markup

/-- The text of a literal attribute, in quotes or in braces. -/
def literal? : Tree → Option String
  | .jsxExpressionContainer _ e => e.unwrap.stringValue?
  | value => value.stringValue?

/-- The values of the attributes with a name. -/
def valuesOf (name : String) (attributes : List Tree) : List Tree :=
  attributes.filterMap fun
    | .jsxAttribute _ (.identifierName _ written) value =>
        if written = name then some value else none
    | _ => none

/-- The text of the last attribute with a name, if that is a literal. -/
def literalOf? (name : String) (attributes : List Tree) : Option String :=
  (valuesOf name attributes).getLast? >>= literal?

/-- The default text for a tag in the mode for literals that has an id but no default text. -/
def missingDefaultMessage (attributes : List Tree) : List Tree :=
  match literalOf? "id" attributes, valuesOf "defaultMessage" attributes with
  | some id, [] =>
      [.jsxAttribute (some .made) (.identifierName (some .made) "defaultMessage")
        (StaticValue.stringNode id)]
  | _, _ => []

/-- The text of an attribute that has a value before the program runs. The outer option is none if it has
no such value, the inner one if the attribute counts as absent. -/
def fieldText? : Tree → Option (Option Descriptor.FieldText)
  | .stringLiteral _ (.text value) _ => some (some ⟨value, .markup⟩)
  | .stringLiteral _ _ _ => some none
  | .jsxExpressionContainer _ e =>
      e.evaluateText.map fun text => text.map fun text => ⟨text, .script⟩
  | _ => none

/-- The fields of a descriptor among the attributes of a tag, or the name and place of the first that has no
value before the program runs. -/
def readFields (fields : Descriptor.Fields) :
    List Tree → Except (String × Option Span) Descriptor.Fields
  | [] => .ok fields
  | .jsxAttribute span (.identifierName _ name) value :: attributes =>
      match Descriptor.Key.ofName? name with
      | none => readFields fields attributes
      | some key =>
          match fieldText? value with
          | none => .error (name, span)
          | some none => readFields fields attributes
          | some (some text) => readFields (fields.set key text) attributes
  | _ :: attributes => readFields fields attributes

end Markup

namespace Pass

/-- What a tag means. -/
def tagMeaning? (pass : Pass) (name : Tree) : Option TagMeaning := do
  let reference ← Reference.ofTag? name
  if pass.isHelper pass.config.deprecatedComponentNames reference then
    some (.deprecated reference.text)
  else if pass.isHelper pass.config.componentNames reference then some .message
  else none

/-- What the attributes of a marking component hold, in the mode for literals. -/
def literalFindings (pass : Pass) (span : Option Span) (attributes : List Tree) : List Finding :=
  match Markup.literalOf? "id" attributes with
  | none => []
  | some id =>
      [⟨.message ⟨id, Markup.literalOf? "description" attributes, none⟩ (pass.policy false), span⟩]

/-- What the attributes of a marking component hold, in the mode for known values. A tag without any field
of a descriptor holds nothing. -/
def knownFindings (pass : Pass) (span : Option Span) (attributes : List Tree) : List Finding :=
  match Markup.readFields {} attributes with
  | .error (name, place) => [⟨.fault (.notStatic name), place⟩]
  | .ok fields => if fields.isEmpty then [] else pass.fieldsFindings fields false span

/-- What an opening tag holds. -/
def tagFindings (pass : Pass) (span : Option Span) (name : Tree) (attributes : List Tree) :
    List Finding :=
  match pass.tagMeaning? name with
  | none => []
  | some (.deprecated written) =>
      [⟨.warning ("`" ++ written ++ "` is deprecated and its message is not extracted"), span⟩]
  | some .message =>
      match pass.config.markupMode with
      | .attribute => pass.literalFindings span attributes
      | .descriptor => pass.knownFindings span attributes

/-- The attributes that a tag is given behind its own. -/
def addedAttributes (pass : Pass) (name : Tree) (attributes : List Tree) : List Tree :=
  match pass.tagMeaning? name, pass.config.markupMode with
  | some .message, .attribute => Markup.missingDefaultMessage attributes
  | _, _ => []

end Pass

end MessageExtraction
