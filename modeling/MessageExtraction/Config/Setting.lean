import MessageExtraction.Config.Basic
import MessageExtraction.Json.Printer
import MessageExtraction.Json.Reader

/-!
# Settings

Each field of a configuration is a setting with a key. Settings are read from and written to JSON, all of
them in one fixed order. A missing setting keeps its default, an unknown key is passed over, and a key may
not come twice.
-/

namespace MessageExtraction

/-- The fields of a configuration. -/
inductive Setting where
  | ignores
  | includes
  | sourceRoot
  | ignoreTestFiles
  | moduleSourceName
  | messagesDir
  | enforceDescriptions
  | markupMode
  | messageField
  | componentNames
  | deprecatedComponentNames
  | translateFunctions
  | defineMessagesFunctions
  | internalPathMarkers
  | wrapperFunction
  | wrapperModule
  | baseComponentNames
  | excludedBaseClass
  | propsIdentifier
deriving DecidableEq, Repr

namespace Setting

/-- All settings in order. -/
def all : List Setting :=
  [.ignores, .includes, .sourceRoot, .ignoreTestFiles, .moduleSourceName, .messagesDir,
    .enforceDescriptions, .markupMode, .messageField, .componentNames, .deprecatedComponentNames,
    .translateFunctions, .defineMessagesFunctions, .internalPathMarkers, .wrapperFunction,
    .wrapperModule, .baseComponentNames, .excludedBaseClass, .propsIdentifier]

/-- The key of a setting. -/
def key : Setting → String
  | .ignores => "ignores"
  | .includes => "includes"
  | .sourceRoot => "sourceRoot"
  | .ignoreTestFiles => "ignoreTestFiles"
  | .moduleSourceName => "moduleSourceName"
  | .messagesDir => "messagesDir"
  | .enforceDescriptions => "enforceDescriptions"
  | .markupMode => "markupMode"
  | .messageField => "messageField"
  | .componentNames => "componentNames"
  | .deprecatedComponentNames => "deprecatedComponentNames"
  | .translateFunctions => "translateFunctions"
  | .defineMessagesFunctions => "defineMessagesFunctions"
  | .internalPathMarkers => "internalPathMarkers"
  | .wrapperFunction => "wrapperFunction"
  | .wrapperModule => "wrapperModule"
  | .baseComponentNames => "baseComponentNames"
  | .excludedBaseClass => "excludedBaseClass"
  | .propsIdentifier => "propsIdentifier"

/-- The setting of a key. The directory of the catalogs may also be called the root of the messages. -/
def ofKey? (key : String) : Option Setting :=
  if key = "messagesRoot" then some .messagesDir
  else all.find? fun setting => setting.key = key

/-! ## Values -/

/-- A truth value. -/
def bool? : Json → Option Bool
  | .bool b => some b
  | _ => none

/-- A text, or nothing. -/
def optionalText? : Json → Option (Option String)
  | .null => some none
  | .string text => some (some text)
  | _ => none

/-- One of several choices: its name, or an object that holds the name and nothing for it. -/
def choice? : Json → Option String
  | .string name => some name
  | .object [(name, .null)] => some name
  | _ => none

/-- The markup mode of that name. -/
def markupMode? : String → Option MarkupMode
  | "attribute" => some .attribute
  | "descriptor" => some .descriptor
  | _ => none

/-- The message field of that name. -/
def messageField? : String → Option MessageField
  | "id" => some .id
  | "defaultMessage" => some .defaultMessage
  | _ => none

/-- The name of a markup mode. -/
def markupModeName : MarkupMode → String
  | .attribute => "attribute"
  | .descriptor => "descriptor"

/-- The name of a message field. -/
def messageFieldName : MessageField → String
  | .id => "id"
  | .defaultMessage => "defaultMessage"

/-- The configuration with a setting read from a value. -/
def read? (setting : Setting) (j : Json) (config : Config) : Option Config :=
  match setting with
  | .ignores => j.texts?.map fun v => { config with ignores := v }
  | .includes => j.texts?.map fun v => { config with includes := v }
  | .sourceRoot => j.text?.map fun v => { config with sourceRoot := v }
  | .ignoreTestFiles => (bool? j).map fun v => { config with ignoreTestFiles := v }
  | .moduleSourceName => (optionalText? j).map fun v => { config with moduleSourceName := v }
  | .messagesDir => (optionalText? j).map fun v => { config with messagesDir := v }
  | .enforceDescriptions => (bool? j).map fun v => { config with enforceDescriptions := v }
  | .markupMode => (choice? j >>= markupMode?).map fun v => { config with markupMode := v }
  | .messageField => (choice? j >>= messageField?).map fun v => { config with messageField := v }
  | .componentNames => j.texts?.map fun v => { config with componentNames := v }
  | .deprecatedComponentNames =>
      j.texts?.map fun v => { config with deprecatedComponentNames := v }
  | .translateFunctions => j.texts?.map fun v => { config with translateFunctions := v }
  | .defineMessagesFunctions => j.texts?.map fun v => { config with defineMessagesFunctions := v }
  | .internalPathMarkers => j.texts?.map fun v => { config with internalPathMarkers := v }
  | .wrapperFunction => j.text?.map fun v => { config with wrapperFunction := v }
  | .wrapperModule => j.text?.map fun v => { config with wrapperModule := v }
  | .baseComponentNames => j.texts?.map fun v => { config with baseComponentNames := v }
  | .excludedBaseClass => j.text?.map fun v => { config with excludedBaseClass := v }
  | .propsIdentifier => j.text?.map fun v => { config with propsIdentifier := v }

/-- A list of texts as JSON. -/
def textsJson (texts : List String) : Json := .array (texts.map .string)

/-- The value of a setting, none if it is absent. -/
def write? (setting : Setting) (config : Config) : Option Json :=
  match setting with
  | .ignores => some (textsJson config.ignores)
  | .includes => some (textsJson config.includes)
  | .sourceRoot => some (.string config.sourceRoot)
  | .ignoreTestFiles => some (.bool config.ignoreTestFiles)
  | .moduleSourceName => config.moduleSourceName.map .string
  | .messagesDir => config.messagesDir.map .string
  | .enforceDescriptions => some (.bool config.enforceDescriptions)
  | .markupMode => some (.string (markupModeName config.markupMode))
  | .messageField => some (.string (messageFieldName config.messageField))
  | .componentNames => some (textsJson config.componentNames)
  | .deprecatedComponentNames => some (textsJson config.deprecatedComponentNames)
  | .translateFunctions => some (textsJson config.translateFunctions)
  | .defineMessagesFunctions => some (textsJson config.defineMessagesFunctions)
  | .internalPathMarkers => some (textsJson config.internalPathMarkers)
  | .wrapperFunction => some (.string config.wrapperFunction)
  | .wrapperModule => some (.string config.wrapperModule)
  | .baseComponentNames => some (textsJson config.baseComponentNames)
  | .excludedBaseClass => some (.string config.excludedBaseClass)
  | .propsIdentifier => some (.string config.propsIdentifier)

end Setting

namespace Config

/-- Reads the fields of an object over a configuration in which the settings `done` have been read. -/
def readFields? (done : List Setting) (config : Config) : List (String × Json) → Option Config
  | [] => some config
  | (key, j) :: fields =>
      match Setting.ofKey? key with
      | none => readFields? done config fields
      | some setting =>
          if setting ∈ done then none
          else do readFields? (setting :: done) (← setting.read? j config) fields

/-- Reads values for the first of the given settings. More values than settings are refused. -/
def readItems? (config : Config) : List Setting → List Json → Option Config
  | _, [] => some config
  | [], _ :: _ => none
  | setting :: settings, j :: js => do readItems? (← setting.read? j config) settings js

/-- Reads a configuration from an object by its keys, or from an array by the order of the settings. -/
def ofJson? : Json → Option Config
  | .object fields => readFields? [] {} fields
  | .array items => readItems? {} Setting.all items
  | _ => none

/-- Reads a configuration from its JSON text. -/
def parse? (text : String) : Option Config := Json.parse? text >>= ofJson?

/-- The configuration as an object with a field for each setting that is not absent. -/
def toJson (config : Config) : Json :=
  .object (Setting.all.filterMap fun setting =>
    (setting.write? config).map fun j => (setting.key, j))

/-- The JSON text of a configuration. -/
def text (config : Config) : String := config.toJson.pretty

end Config

end MessageExtraction
