/-
  The file of the presets (`RecordingPresetStore.cpp`): `Save` writes the user's presets, the selection
  and the live configuration; `Load` reads them back, item by item, and says whether it had to drop
  one.

  The text of a TOML document is a parameter: `TomlText` says that what this store writes is read
  back as the document it was written from. What the environment decides of a save comes with the
  call. A file that is not there, and a store without a path, are a first run.
-/
import Exosnap.Models.PresetSanitizer
import Exosnap.Models.RecordingPresetRegistry
import Exosnap.Settings.PresetToml

namespace Exosnap.Settings

open Capability Models

abbrev Preset := RecordingPreset RecordingPresetConfig

def kPresetSchemaVersion : Int := 25
def kPresetSchemaColorRangeMigratedThrough : Int := 19

structure PersistedPresetState where
  userPresets : List Preset := []
  selectedId : String
  live : Option RecordingPresetConfig := none
  repaired : Bool := false

/-! ## The document -/

/-- The document that `Save` writes, without the presets that are shipped. -/
def presetDocument (presets : List Preset) (selectedId : String) (live : RecordingPresetConfig) :
    Toml :=
  .ofEntries
    [("schema_version", .integer kPresetSchemaVersion),
      ("selected_id", .string selectedId),
      ("live", configToToml live),
      ("presets", .array ((presets.filter fun p => !isBuiltInPresetId p.id).map presetToToml))]

/-- Up to schema 19 a full range was the default of the time. -/
def migrateColorRange (migrate : Bool) (config : RecordingPresetConfig) : RecordingPresetConfig :=
  if migrate && config.output.colorRange == .full then
    { config with output := { config.output with colorRange := .limited } }
  else config

/-- Where the loop over the items stands. -/
structure LoadProgress where
  accepted : List Preset := []
  seenIds : List String := []
  itemDropped : Bool := false
  carriedOverDefaultConfig : Option RecordingPresetConfig := none

section
variable (rules : ConfigRules RecordingPresetConfig) (migrate : Bool)

/-- One item of the `presets` array. -/
def loadItem (p : LoadProgress) : Toml → LoadProgress
  | .table fields =>
      match presetFromToml (.table fields) with
      | none => { p with itemDropped := true }
      | some raw =>
          if raw.id.isEmpty then { p with itemDropped := true }
          else if isBuiltInPresetId raw.id then
            if raw.id == kDefaultPresetId && p.carriedOverDefaultConfig.isNone then
              { p with carriedOverDefaultConfig := some raw.config }
            else p
          else if p.seenIds.contains raw.id then { p with itemDropped := true }
          else
            let sanitized := sanitizePreset rules "" raw
            { p with
              seenIds := raw.id :: p.seenIds
              accepted := p.accepted ++
                [{ sanitized with config := migrateColorRange migrate sanitized.config }] }
  | _ => { p with itemDropped := true }

def loadItems : Option Toml → LoadProgress
  | some (.array elems) => elems.foldl (loadItem rules migrate) {}
  | _ => {}

/-- The live configuration, or that of an ordinary preset under the id of the default one. -/
def loadLive (carriedOver : Option RecordingPresetConfig) (node : Option Toml) :
    Option RecordingPresetConfig :=
  let migrateAndSanitize := fun config => rules.sanitize (migrateColorRange migrate config)
  match node with
  | some (.table fields) => some (migrateAndSanitize (configFromToml (.table fields)))
  | _ => carriedOver.map migrateAndSanitize

end

section
variable (rules : ConfigRules RecordingPresetConfig)

def loadDocument (doc : Toml) : PersistedPresetState :=
  let schemaVersion := tomlInt (nodeAt (some doc) "schema_version") (-1)
  let migrate := schemaVersion ≥ 0 && schemaVersion ≤ kPresetSchemaColorRangeMigratedThrough
  let progress := loadItems rules migrate (nodeAt (some doc) "presets")
  let selectedId := tomlStr (nodeAt (some doc) "selected_id") ""
  let selectedIsBuiltin := isBuiltInPresetId selectedId
  let selectedInUserList := progress.accepted.any fun p => p.id == selectedId
  { userPresets := progress.accepted
    selectedId :=
      if !selectedIsBuiltin && !selectedInUserList then kDefaultPresetId else selectedId
    live := loadLive rules migrate progress.carriedOverDefaultConfig (nodeAt (some doc) "live")
    repaired := progress.itemDropped }

/-! ## The file -/

/-- The writer and the parser of TOML text, over the type of a file's contents. -/
structure TomlText (τ : Type) where
  print : Toml → τ
  parse : τ → Option Toml
  parse_print (presets : List Preset) (selectedId : String) (live : RecordingPresetConfig) :
    parse (print (presetDocument presets selectedId live)) =
      some (presetDocument presets selectedId live)

/-- What the environment decides of a save: is the directory made, does the file open, is it written
    and committed. -/
structure SaveAccess where
  makesPath : Bool := true
  opens : Bool := true
  writes : Bool := true
  commits : Bool := true
  deriving DecidableEq, Repr

variable {τ : Type} (text : TomlText τ) (filePath : String)

def firstRunState : PersistedPresetState := { selectedId := kDefaultPresetId }

def load (disk : Option τ) : PersistedPresetState :=
  if filePath.isEmpty then firstRunState
  else
    match disk with
    | none => firstRunState
    | some contents =>
        match text.parse contents with
        | none => { selectedId := kDefaultPresetId, repaired := true }
        | some doc => loadDocument rules doc

/-- Whether it succeeded, and what the file holds then. -/
def save (disk : Option τ) (access : SaveAccess) (presets : List Preset) (selectedId : String)
    (live : RecordingPresetConfig) : Bool × Option τ :=
  if filePath.isEmpty then (true, disk)
  else if !access.makesPath then (false, disk)
  else if !access.opens then (false, disk)
  else if !access.writes then (false, disk)
  else if !access.commits then (false, disk)
  else (true, some (text.print (presetDocument presets selectedId live)))

end

end Exosnap.Settings
