import MessageExtraction.Component.Wrapping
import MessageExtraction.Extraction.Call
import MessageExtraction.Extraction.Markup
import MessageExtraction.Extraction.Session

/-!
# The walk over a module

One walk gathers the messages of a module and transforms it: calls and tags on the way down, and at the end
the exported components. A node is looked at before the nodes below it. Once a fault is found nothing more
is gathered or changed.
-/

namespace MessageExtraction

open Syntax (Tree Identifier)

namespace Session

/-- Notes that a component is to be wrapped, and gives its name; a component that has been wrapped already
is not wrapped again. -/
def plan (session : Session) : Option Component → Option String × Session
  | none => (none, session)
  | some component =>
      let name := component.identifier.name
      if name ∈ session.converted then (none, session)
      else
        (some name,
          { session with
            converted := session.converted ++ [name, Component.internalName name] })

end Session

namespace Pass

/-- What the wrapping function is called in the file, and whether its import is still missing. -/
def wrapper (pass : Pass) (session : Session) : Identifier × Bool :=
  match session.wrapper with
  | some identifier => (identifier, false)
  | none =>
      match pass.imports.find? pass.config.wrapperModule (.named pass.config.wrapperFunction) with
      | some i => (i.binding, false)
      | none => (.made pass.config.wrapperFunction, true)

/-- Wraps components: the items of a module come paired with the names of the components in them that are to
be wrapped. -/
def wrapAll (pass : Pass) (session : Session) (items : List (Tree × Option String)) :
    List Tree × Session :=
  match items.filterMap Prod.snd with
  | [] => (items.map Prod.fst, session)
  | name :: names =>
      let (wrapper, isMissing) := pass.wrapper session
      let items := items.map fun (item, component) =>
        (Component.rename (name :: names) item, component)
      let wrapped := Component.insertExports wrapper items
      let wrapped :=
        if isMissing then Component.wrapperImport wrapper pass.config.wrapperModule :: wrapped
        else wrapped
      (wrapped, { session with wrapper := some wrapper })

/-- The items of a walked module: with its components wrapped, or as they are after a fault. -/
def finishItems (pass : Pass) (session : Session) (items : List (Tree × Option String)) :
    List Tree × Session :=
  if session.failed then (items.map Prod.fst, session) else pass.wrapAll session items

mutual
/-- Gathers the messages of a tree and transforms it. -/
def walk (pass : Pass) (session : Session) : Tree → Tree × Session
  | .callExpression span callee args typeArguments =>
      if session.failed then (.callExpression span callee args typeArguments, session)
      else
        match pass.helperCall? span callee args with
        | none =>
            let (callee, session) := pass.walk session callee
            let (args, session) := pass.walkAll session args
            let (typeArguments, session) := pass.walk session typeArguments
            (.callExpression span callee args typeArguments, session)
        | some call =>
            let session := session.recordAll pass.file (call.findings pass)
            match call.kind with
            | .bulk =>
                let (callee, session) := pass.walk session callee
                let (args, session) := pass.walkArguments session call.replacement? args
                let (typeArguments, session) := pass.walk session typeArguments
                (.callExpression span callee args typeArguments, session)
            | .single =>
                if session.failed then (.callExpression span callee args typeArguments, session)
                else
                  let session := session.recordAll pass.file (pass.bindFindings callee)
                  let (callee, session) := pass.walk session callee
                  let (args, session) := pass.walkAll session args
                  let (typeArguments, session) := pass.walk session typeArguments
                  (.callExpression span (HelperCall.bound callee)
                    (args ++ call.missingArguments session.component pass.config.propsIdentifier)
                    typeArguments, session)
  | .jsxOpeningElement span name attributes selfClosing typeArguments =>
      if session.failed then
        (.jsxOpeningElement span name attributes selfClosing typeArguments, session)
      else
        let added := pass.addedAttributes name attributes
        let session := session.recordAll pass.file (pass.tagFindings span name attributes)
        let (name, session) := pass.walk session name
        let (attributes, session) := pass.walkAll session attributes
        let (typeArguments, session) := pass.walk session typeArguments
        (.jsxOpeningElement span name (attributes ++ added) selfClosing typeArguments, session)
  | .sourceModule span items interpreter =>
      if session.failed then (.sourceModule span items interpreter, session)
      else
        let (items, session) := pass.walkItems session items
        let (items, session) := pass.finishItems session items
        (.sourceModule span items interpreter, session)
  | .node kind span fields =>
      let (fields, session) := pass.walkAll session fields
      (.node kind span fields, session)
  | .list items =>
      let (items, session) := pass.walkAll session items
      (.list items, session)
  | t => (t, session)

/-- Walks over several trees, one after the other. -/
def walkAll (pass : Pass) (session : Session) : List Tree → List Tree × Session
  | [] => ([], session)
  | t :: ts =>
      let (t, session) := pass.walk session t
      let (ts, session) := pass.walkAll session ts
      (t :: ts, session)

/-- Walks over arguments, but for a first one that is replaced. -/
def walkArguments (pass : Pass) (session : Session) (replacement : Option Tree) :
    List Tree → List Tree × Session
  | [] => ([], session)
  | t :: ts =>
      match replacement with
      | some e =>
          let (ts, session) := pass.walkAll session ts
          (.element none e :: ts, session)
      | none =>
          let (t, session) := pass.walk session t
          let (ts, session) := pass.walkAll session ts
          (t :: ts, session)

/-- Walks over the items of a module, and pairs each with the name of the component in it that is to be
wrapped. -/
def walkItems (pass : Pass) (session : Session) :
    List Tree → List (Tree × Option String) × Session
  | [] => ([], session)
  | item :: items =>
      let component := Component.ofItem? pass.config item
      let (item, session) :=
        pass.walk { session with component := component.map Component.kind } item
      let session := { session with component := none }
      if session.failed then ((item, none) :: items.map (·, none), session)
      else
        let (name, session) := session.plan component
        let (items, session) := pass.walkItems session items
        ((item, name) :: items, session)
end

end Pass

end MessageExtraction
