import Mathlib.Data.List.Nodup
import Mathlib.Logic.Function.Basic
import MessageExtraction.Config.Setting
import MessageExtraction.Proofs.Json.RoundTrip

/-!
# Configurations read back

The text of a configuration is read as the configuration, and the text of what is left of it without some of
the keys as the configuration with the defaults in their places.

* `Config.collect`: a configuration whose fields come from several, and `read?_write?`, `collect_of_absent`:
  a setting that is read brings one field with it, and one that is not written is at its default.
* `readFields?_written`: the settings that are listed come from the configuration, the others stay.
* `parse?_deleting`: the whole, whatever is deleted and however the text is laid out.
-/

namespace MessageExtraction

open Function (update)

/-! ## Configurations field by field -/

/-- The configuration that has each setting from the configuration given for it. -/
def Config.collect (of : Setting → Config) : Config where
  ignores := (of .ignores).ignores
  includes := (of .includes).includes
  sourceRoot := (of .sourceRoot).sourceRoot
  ignoreTestFiles := (of .ignoreTestFiles).ignoreTestFiles
  moduleSourceName := (of .moduleSourceName).moduleSourceName
  messagesDir := (of .messagesDir).messagesDir
  enforceDescriptions := (of .enforceDescriptions).enforceDescriptions
  markupMode := (of .markupMode).markupMode
  messageField := (of .messageField).messageField
  componentNames := (of .componentNames).componentNames
  deprecatedComponentNames := (of .deprecatedComponentNames).deprecatedComponentNames
  translateFunctions := (of .translateFunctions).translateFunctions
  defineMessagesFunctions := (of .defineMessagesFunctions).defineMessagesFunctions
  internalPathMarkers := (of .internalPathMarkers).internalPathMarkers
  wrapperFunction := (of .wrapperFunction).wrapperFunction
  wrapperModule := (of .wrapperModule).wrapperModule
  baseComponentNames := (of .baseComponentNames).baseComponentNames
  excludedBaseClass := (of .excludedBaseClass).excludedBaseClass
  propsIdentifier := (of .propsIdentifier).propsIdentifier

/-- A configuration with some of its settings at their defaults. -/
def Config.resetting (reset : Setting → Bool) (config : Config) : Config :=
  .collect fun setting => if reset setting then {} else config

/-- An object without some of its keys. -/
def Json.deleting (deleted : String → Bool) : Json → Json
  | .object fields => .object (fields.filter fun field => !deleted field.1)
  | j => j

variable {config : Config} {of : Setting → Config} {setting : Setting} {j : Json}

namespace Setting

theorem mem_all (setting : Setting) : setting ∈ all := by
  cases setting <;> decide

theorem nodup_all : all.Nodup := by decide

theorem ofKey?_key (setting : Setting) : ofKey? setting.key = some setting := by
  cases setting <;> decide

theorem texts?_textsJson (texts : List String) : (textsJson texts).texts? = some texts := by
  have each (text : String) : (Json.string text).text? = some text := rfl
  exact Json.mapM_map_eq_some each texts

theorem markupMode?_markupModeName (mode : MarkupMode) :
    choice? (.string (markupModeName mode)) >>= markupMode? = some mode := by
  cases mode <;> rfl

theorem messageField?_messageFieldName (field : MessageField) :
    choice? (.string (messageFieldName field)) >>= messageField? = some field := by
  cases field <;> rfl

/-- What is written for a setting is read as its field. -/
theorem read?_write? (of : Setting → Config) (h : setting.write? config = some j) :
    setting.read? j (.collect of) = some (.collect (update of setting config)) := by
  cases setting with
  | moduleSourceName | messagesDir =>
    -- An optional text is written only if there is one.
    obtain ⟨text, eq, rfl⟩ := Option.map_eq_some_iff.mp h
    simp [read?, optionalText?, Config.collect, eq]
  | markupMode =>
    cases h
    rw [read?, markupMode?_markupModeName]
    rfl
  | messageField =>
    cases h
    rw [read?, messageField?_messageFieldName]
    rfl
  | sourceRoot | wrapperFunction | wrapperModule | excludedBaseClass | propsIdentifier
  | ignoreTestFiles | enforceDescriptions =>
    cases h
    rfl
  | _ =>
    cases h
    rw [read?, texts?_textsJson]
    rfl

/-- A setting that is not written is at its default. -/
theorem collect_of_absent (h : setting.write? config = none) (default : of setting = {}) :
    Config.collect (update of setting config) = .collect of := by
  cases setting with
  | moduleSourceName | messagesDir =>
    have absent := Option.map_eq_none_iff.mp h
    simp [Config.collect, absent, default]
  | _ => cases h

theorem isSpelled_textsJson (texts : List String) : (textsJson texts).isSpelled = true := by
  rw [textsJson, Json.isSpelled]
  induction texts with
  | nil => rfl
  | cons text texts ih => rw [List.map_cons, Json.areSpelled, ih, Json.isSpelled, Bool.and_self]

theorem isSpelled_write? (h : setting.write? config = some j) : j.isSpelled = true := by
  cases setting with
  | moduleSourceName | messagesDir =>
    obtain ⟨text, -, rfl⟩ := Option.map_eq_some_iff.mp h
    rfl
  | sourceRoot | wrapperFunction | wrapperModule | excludedBaseClass | propsIdentifier
  | ignoreTestFiles | enforceDescriptions | markupMode | messageField =>
    cases h
    rfl
  | _ =>
    cases h
    exact isSpelled_textsJson _

end Setting

/-! ## Configurations key by key -/

namespace Config

/-- The field of a configuration for a setting, unless it is absent. -/
def field? (config : Config) (setting : Setting) : Option (String × Json) :=
  (setting.write? config).map fun j => (setting.key, j)

theorem collect_const (config : Config) : collect (fun _ => config) = config := rfl

theorem collect_congr {of of' : Setting → Config} (h : ∀ setting, of setting = of' setting) :
    collect of = collect of' := congrArg collect (funext h)

/-- The settings whose fields are read come from the configuration that has been written, and the others
stay. -/
theorem readFields?_written {settings done : List Setting} (distinct : settings.Nodup)
    (new : ∀ setting ∈ settings, setting ∉ done) (default : ∀ setting ∈ settings, of setting = {}) :
    readFields? done (collect of) (settings.filterMap config.field?)
      = some (collect fun setting => if setting ∈ settings then config else of setting) := by
  induction settings generalizing done of with
  | nil => simp [readFields?]
  | cons setting settings ih =>
    rw [List.nodup_cons] at distinct
    rw [List.forall_mem_cons] at new default
    have apart : ∀ other ∈ settings, other ≠ setting := fun other mem eq => distinct.1 (eq ▸ mem)
    have settled : ∀ other ∈ settings, update of setting config other = {} := fun other mem => by
      rw [Function.update_of_ne (apart other mem), default.2 other mem]
    have same (other : Setting) :
        (if other ∈ settings then config else update of setting config other)
          = if other ∈ setting :: settings then config else of other := by
      by_cases eq : other = setting <;> simp [eq]
    cases written : setting.write? config with
    | none =>
      have skipped : config.field? setting = none := by rw [field?, written]; rfl
      rw [List.filterMap_cons_none skipped, ← Setting.collect_of_absent written default.1,
        ih distinct.2 new.2 settled, collect_congr same]
    | some j =>
      have field : config.field? setting = some (setting.key, j) := by rw [field?, written]; rfl
      have fresh : ∀ other ∈ settings, other ∉ setting :: done := fun other mem => by
        rw [List.mem_cons, not_or]
        exact ⟨apart other mem, new.2 other mem⟩
      rw [List.filterMap_cons_some field, readFields?, Setting.ofKey?_key]
      dsimp only
      rw [if_neg new.1, Setting.read?_write? of written, Option.bind_eq_bind, Option.bind_some,
        ih distinct.2 fresh settled, collect_congr same]

theorem deleting_toJson (config : Config) (deleted : String → Bool) :
    config.toJson.deleting deleted
      = .object ((Setting.all.filter fun setting => !deleted setting.key).filterMap config.field?) := by
  rw [toJson, Json.deleting, List.filter_filterMap, List.filterMap_filter]
  congr 2
  funext setting
  rw [field?]
  cases setting.write? config <;> simp [Option.filter]

theorem deleting_none (j : Json) : j.deleting (fun _ => false) = j := by
  cases j <;> simp [Json.deleting]

theorem isSpelled_deleting_toJson (config : Config) (deleted : String → Bool) :
    (config.toJson.deleting deleted).isSpelled = true := by
  rw [deleting_toJson, Json.isSpelled]
  generalize Setting.all.filter _ = settings
  induction settings with
  | nil => rfl
  | cons setting settings ih =>
    rw [List.filterMap_cons, field?]
    cases written : setting.write? config with
    | none => exact ih
    | some j =>
      rw [Option.map_some, Json.haveSpelled, Setting.isSpelled_write? written, ih]
      rfl

/-- What is left of a written configuration is read with the defaults for what has been deleted. -/
theorem ofJson?_deleting (config : Config) (deleted : String → Bool) :
    ofJson? (config.toJson.deleting deleted)
      = some (config.resetting fun setting => deleted setting.key) := by
  rw [deleting_toJson, ofJson?, ← collect_const {},
    readFields?_written (Setting.nodup_all.filter _) (fun _ _ => List.not_mem_nil) (fun _ _ => rfl),
    resetting]
  refine congrArg some (collect_congr fun setting => ?_)
  cases gone : deleted setting.key <;> simp [gone, Setting.mem_all]

theorem parse?_of_deleting {text : String} {deleted : String → Bool}
    (read : Json.parse? text = some (config.toJson.deleting deleted)) :
    parse? text = some (config.resetting fun setting => deleted setting.key) := by
  rw [parse?, read]
  exact ofJson?_deleting config deleted

theorem parse?_pretty_deleting (config : Config) (deleted : String → Bool) :
    Json.parse? (config.toJson.deleting deleted).pretty = some (config.toJson.deleting deleted) := by
  have read : Json.parse? ((config.toJson.deleting deleted).pretty ++ "") = _ :=
    Json.parse?_pretty (isSpelled_deleting_toJson config deleted) (by simp)
  rwa [String.append_empty] at read

/-- The text of a configuration is that of an object, and it is read as the configuration. What is left of the
object without some of its keys has a text too, and whatever text it has, it is read as the configuration with
just those settings at their defaults. -/
theorem parse?_deleting (config : Config) :
    parse? config.text = some config
      ∧ Json.parse? config.text = some config.toJson
      ∧ ∀ deleted : String → Bool,
        Json.parse? (config.toJson.deleting deleted).pretty = some (config.toJson.deleting deleted)
          ∧ ∀ text, Json.parse? text = some (config.toJson.deleting deleted) →
            parse? text = some (config.resetting fun setting => deleted setting.key) := by
  have whole : Json.parse? config.text = some (config.toJson.deleting fun _ => false) := by
    have printed := parse?_pretty_deleting config fun _ => false
    rwa [deleting_none] at printed ⊢
  refine ⟨parse?_of_deleting whole, ?_, fun deleted =>
    ⟨parse?_pretty_deleting config deleted, fun _ => parse?_of_deleting⟩⟩
  rwa [deleting_none] at whole

/-- A configuration of which the modes and the texts that may be absent are not the default ones. -/
def attributeConfig : Config :=
  { includes := [], moduleSourceName := some "", messagesDir := some "é", markupMode := .attribute,
    messageField := .id }

/-- Whether `attributeConfig` loses the setting of a key. -/
def isDropped (key : String) : Bool := key != "messagesDir" && key != "markupMode"

/-- What is left of `attributeConfig`, with a line feed behind it. -/
def leftText : String := (attributeConfig.toJson.deleting isDropped).pretty ++ "\n"

/-- Two settings are left of `attributeConfig`. -/
theorem parse?_leftText :
    Json.parse? leftText = some (attributeConfig.toJson.deleting isDropped)
      ∧ parse? leftText = some { messagesDir := some "é", markupMode := .attribute } := by
  have left : Json.parse? leftText = some (attributeConfig.toJson.deleting isDropped) :=
    Json.parse?_pretty (isSpelled_deleting_toJson _ _) (List.all_eq_true.mp (by decide))
  exact ⟨left, (((parse?_deleting attributeConfig).2.2 isDropped).2 _ left).trans (by decide)⟩

example : leftText = "\x7b\n  \"messagesDir\": \"é\",\n  \"markupMode\": \"attribute\"\n\x7d\n" := by decide

end Config

end MessageExtraction
