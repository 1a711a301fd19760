import MessageExtraction.Component.Classify
import MessageExtraction.Extraction.Finding

/-!
# Calls

Calls of the marking functions. Some take the id of one message and up to three more arguments; their calls
get all four, and are made on the function bound to `this`. Others take many descriptors, as the values of
an object or as the items of an array; an array is replaced by the object that has each item under its id.
-/

namespace MessageExtraction

open Syntax (Tree Span Identifier)

/-- The kinds of marking functions. -/
inductive HelperKind where
  | single
  | bulk
deriving DecidableEq, Repr

/-- A call of a marking function. -/
structure HelperCall where
  kind : HelperKind
  /-- The function as it is written. -/
  callee : String
  span : Option Span
  args : List Tree
deriving Repr

namespace HelperCall

/-- Whether an argument is spread. -/
def isSpread : Tree → Bool
  | .element (some _) _ => true
  | _ => false

/-- The expression of an argument or of an item of an array literal. -/
def expression : Tree → Tree
  | .element _ e => e
  | t => t

/-- How many arguments a function for one message takes. -/
def fullCount : Nat := 4

/-! ## Calls for one message -/

/-- The descriptor of a call for one message: its first argument is the id, its third the description. -/
def descriptor (call : HelperCall) : Except FaultCause Descriptor :=
  if call.args.length > fullCount || call.args.tail.any isSpread then
    .error (.argumentCount call.callee fullCount)
  else
    match call.args with
    | [] => .error (.rejected .missingId)
    | first :: more =>
        if isSpread first then .error (.notStatic "id")
        else
          match (expression first).evaluateText with
          | none => .error (.notStatic "id")
          | some none => .error (.rejected .missingId)
          | some (some id) =>
              match more[1]? with
              | none => .ok ⟨id, none, none⟩
              | some third =>
                  match (expression third).evaluateText with
                  | none => .error (.notStatic "description")
                  | some description => .ok ⟨id, description, none⟩

/-! ## Calls for many messages -/

/-- The finding of a fault in the form of the argument. -/
def shapeFault (call : HelperCall) (span : Option Span) : Finding :=
  ⟨.fault (.argumentShape call.callee), span⟩

/-- The finding of a value that is not known. -/
def staticFault (name : String) (span : Option Span) : Finding := ⟨.fault (.notStatic name), span⟩

/-- The items of an array of descriptors under their ids, after those of `merged`; or what is wrong with the
first item that cannot be one. An item may come again if it is equal. -/
def mergeItems (call : HelperCall) (merged : List (String × StaticValue)) :
    List Tree → Except Finding (List (String × StaticValue))
  | [] => .ok merged
  | .element (some _) _ :: _ => .error (staticFault call.callee call.span)
  | .element none e :: items =>
      match e.evaluate with
      | none => .error (staticFault call.callee e.span?)
      | some v =>
          if !v.isObject then .error (call.shapeFault e.span?)
          else
            match v.fieldText? "id" with
            | none => .error ⟨.fault (.rejected .missingId), e.span?⟩
            | some id =>
                match merged.lookup id with
                | some w =>
                    if w.equal v then mergeItems call merged items
                    else .error ⟨.fault (.rejected (.duplicateId id)), e.span?⟩
                | none => mergeItems call (merged ++ [(id, v)]) items
  | _ :: _ => .error (call.shapeFault call.span)

/-- What the argument of a call for many messages is. -/
inductive Argument where
  /-- A string, whose messages are elsewhere. -/
  | text
  /-- The properties of an object literal. -/
  | properties (properties : List Tree)
  /-- The properties of the object that replaces an array. -/
  | merged (value : StaticValue)
  /-- What is wrong with it. -/
  | unusable (finding : Finding)

/-- The argument of a call for many messages. -/
def argument (call : HelperCall) : Argument :=
  match call.args with
  | .element none e :: _ =>
      match e.unwrap with
      | .stringLiteral _ _ _ => .text
      | .objectExpression _ properties => .properties properties
      | .arrayExpression _ items =>
          match call.mergeItems [] items with
          | .ok merged => .merged (.object merged)
          | .error finding => .unusable finding
      | _ => .unusable (call.shapeFault call.span)
  | _ => .unusable (call.shapeFault call.span)

/-- The fields of a descriptor that a value holds. -/
def fieldsOf (v : StaticValue) : Descriptor.Fields :=
  let field := fun key => (v.fieldText? key).map fun text => (⟨text, .script⟩ : Descriptor.FieldText)
  ⟨field "id", field "description", field "defaultMessage"⟩

/-- The span of a property's value, the call's if it is not in the source. -/
def spanOr (call : HelperCall) (span : Option Span) : Option Span :=
  if span = some .made then call.span else span

/-- What a property of an object of descriptors holds. -/
def propertyFindings (call : HelperCall) (pass : Pass) : Tree → List Finding
  | .keyValueProperty key value =>
      let span := call.spanOr value.span?
      match key.staticKey? with
      | none => [staticFault call.callee span]
      | some key =>
          match value.evaluate with
          | none => [staticFault key span]
          | some v =>
              if !v.isObject then [call.shapeFault span]
              else if (v.fieldText? "id").isNone then [⟨.fault (.rejected .missingId), span⟩]
              else pass.fieldsFindings (fieldsOf v) true span
  | .identifier span name _ _ => [staticFault name span]
  | t => if t.kind? = some .spreadElement then [staticFault call.callee call.span]
      else [call.shapeFault t.span?]

/-- The properties of the object of descriptors that a call is given. -/
def properties (call : HelperCall) : List Tree :=
  match call.argument with
  | .properties properties => properties
  | .merged value =>
      match value.toTree with
      | .objectExpression _ properties => properties
      | _ => []
  | .text | .unusable _ => []

/-- What a call of a marking function holds. -/
def findings (call : HelperCall) (pass : Pass) : List Finding :=
  match call.kind with
  | .single =>
      match call.descriptor with
      | .error cause => [⟨.fault cause, call.span⟩]
      | .ok d => [⟨.message d (pass.policy false), call.span⟩]
  | .bulk =>
      match call.argument with
      | .unusable finding => [finding]
      | _ => call.properties.flatMap (call.propertyFindings pass)

/-! ## The form that calls get -/

/-- The arguments that a call for one message lacks. -/
def missingArguments (call : HelperCall) (component : Option ComponentKind) (props : String) :
    List Tree :=
  let propsReference :=
    match component with
    | some .classBased =>
        .memberExpression (some .made) (.thisExpression (some .made))
          (.identifierName (some .made) "props")
    | some .functional | none => (Identifier.made props).toTree
  [.objectExpression (some .made) [], .nullLiteral (some .made), propsReference].drop
    (call.args.length - 1) |>.map (.element none)

/-- The member of a function that binds it. -/
def bindMember (callee : Tree) : Tree :=
  .memberExpression (some .made) callee (.identifierName (some .made) "bind")

/-- The arguments of the call that binds a function. -/
def bindArguments : List Tree := [.element none (.thisExpression (some .made))]

/-- A function bound to `this`. -/
def bound (callee : Tree) : Tree :=
  .callExpression (some .made) (bindMember callee) bindArguments .absent

/-- What replaces the first argument of a call for many messages. -/
def replacement? (call : HelperCall) : Option Tree :=
  match call.argument with
  | .merged value => some value.toTree
  | _ => none

end HelperCall

namespace Pass

/-- The call of a marking function that a call with that callee is. -/
def helperCall? (pass : Pass) (span : Option Span) (callee : Tree) (args : List Tree) :
    Option HelperCall := do
  let reference ← Reference.ofCallee? callee
  if pass.isHelper pass.config.translateFunctions reference then
    some ⟨.single, reference.text, span, args⟩
  else if pass.isHelper pass.config.defineMessagesFunctions reference then
    some ⟨.bulk, reference.text, span, args⟩
  else none

/-- What the call that binds a function holds. It holds nothing unless the binding is itself named among the
marking functions. -/
def bindFindings (pass : Pass) (callee : Tree) : List Finding :=
  match pass.helperCall? (some .made) (HelperCall.bindMember callee) HelperCall.bindArguments with
  | some call => call.findings pass
  | none => []

end Pass

end MessageExtraction
