/-
  Presets that come in from a file (`ImportPresetsFromFile`, `RecordingPresetStore.cpp`), beside the
  same presets read by `Load`.

  Both readers take an item through `PresetFromToml` and `SanitizePreset`; what is asked is whether
  they agree on its configuration. An item is followed by its place in the array: a reader took it
  when its list of presets grew by one there.
-/
import Exosnap.Settings.PresetRestart

namespace Exosnap.Settings

open Capability Models

/-! ## The import -/

/-- Where the loop over the items stands. -/
structure ImportProgress where
  result : List Preset := []
  usedIds : List String
  /-- How many ids were generated so far. -/
  generated : Nat := 0

section
variable (rules : ConfigRules RecordingPresetConfig) (generatePresetId : Nat → String)

/-- One item of the `presets` array. What was read has an id: `SanitizePreset` makes none. -/
def importItem (p : ImportProgress) : Toml → ImportProgress
  | .table fields =>
      match presetFromToml (.table fields) with
      | none => p
      | some raw =>
          let sanitized := sanitizePreset rules "" raw
          let collides := p.usedIds.contains sanitized.id
          let preset :=
            if collides then { sanitized with id := generatePresetId p.generated } else sanitized
          { result := p.result ++ [preset]
            usedIds := preset.id :: p.usedIds
            generated := if collides then p.generated + 1 else p.generated }
  | _ => p

def importItems (existingIds : List String) (elems : List Toml) : ImportProgress :=
  elems.foldl (importItem rules generatePresetId) { usedIds := existingIds }

/-- What is imported, and the error if there is one. -/
structure ImportResult where
  presets : List Preset := []
  err : Option String := none

/-- The error of a file that another schema may explain. -/
def importError (fileVersion : Int) (noneOf otherwise : String) : ImportResult where
  err :=
    some <|
      if fileVersion ≠ kPresetSchemaVersion then
        "Preset file has an unsupported schema version (" ++ toString fileVersion ++
          ", expected " ++ toString kPresetSchemaVersion ++ "). No " ++ noneOf ++ " be imported."
      else otherwise

def importDocument (path : String) (existingIds : List String) (doc : Toml) : ImportResult :=
  let fileVersion := tomlInt (nodeAt (some doc) "schema_version") (-1)
  match nodeAt (some doc) "presets" with
  | some (.array (elem :: elems)) =>
      let result := (importItems rules generatePresetId existingIds (elem :: elems)).result
      if result.isEmpty then
        importError fileVersion "valid items could" ("No valid presets found in file: " ++ path)
      else { presets := result }
  | _ => importError fileVersion "items could" "Preset file contains no items."

def importPresetsFromFile {τ : Type} (text : TomlText τ) (path : String)
    (existingIds : List String) (disk : Option τ) : ImportResult :=
  if path.isEmpty then { err := some "Import path is empty." }
  else
    match disk with
    | none => { err := some ("File not found: " ++ path) }
    | some contents =>
        match text.parse contents with
        | none => { err := some ("Could not parse preset file (invalid TOML): " ++ path) }
        | some doc => importDocument rules generatePresetId path existingIds doc

end

/-! ## The items one by one -/

/-- `Load` migrates the colour range of a document's presets. -/
def migratesColorRange (doc : Toml) : Bool :=
  let schemaVersion := tomlInt (nodeAt (some doc) "schema_version") (-1)
  schemaVersion ≥ 0 && schemaVersion ≤ kPresetSchemaColorRangeMigratedThrough

/-- A reader of the items took a preset from the one that comes after `before`. -/
def Takes (read : List Toml → List Preset) (before : List Toml) (tbl : Toml) (preset : Preset) :
    Prop :=
  read (before ++ [tbl]) = read before ++ [preset]

def loadedItems (rules : ConfigRules RecordingPresetConfig) (migrate : Bool) (elems : List Toml) :
    List Preset :=
  (elems.foldl (loadItem rules migrate) {}).accepted

def importedItems (rules : ConfigRules RecordingPresetConfig) (generatePresetId : Nat → String)
    (existingIds : List String) (elems : List Toml) : List Preset :=
  (importItems rules generatePresetId existingIds elems).result

section
variable {rules : ConfigRules RecordingPresetConfig} {migrate : Bool}
  {generatePresetId : Nat → String} {existingIds : List String}

theorem presetFromToml_config {tbl : Toml} {raw : Preset} (h : presetFromToml tbl = some raw) :
    raw.config = configFromToml tbl := by
  simp only [presetFromToml] at h
  split at h
  · cases h
  · cases h
    rfl

/-- One item more: `Load` leaves its list alone or adds one preset at the end, and that is the
    sanitized one of the item, migrated. -/
theorem loadItem_accepted (rules : ConfigRules RecordingPresetConfig) (migrate : Bool)
    (p : LoadProgress) (tbl : Toml) :
    (loadItem rules migrate p tbl).accepted = p.accepted ∨
      ∃ fields raw preset, tbl = .table fields ∧ presetFromToml tbl = some raw ∧
        (loadItem rules migrate p tbl).accepted = p.accepted ++ [preset] ∧
        preset.config = migrateColorRange migrate (rules.sanitize raw.config) := by
  cases tbl with
  | table fields =>
    simp only [loadItem]
    cases hraw : presetFromToml (.table fields) with
    | none => exact .inl rfl
    | some raw =>
      dsimp only
      split
      · exact .inl rfl
      split
      · split <;> exact .inl rfl
      split
      · exact .inl rfl
      · exact .inr ⟨fields, raw, _, rfl, rfl, rfl, rfl⟩
  | string _ | integer _ | float _ | boolean _ | array _ => exact .inl rfl

/-- One item more: `Import` adds a preset for each that is read, sanitized and nothing else. -/
theorem importItem_result (rules : ConfigRules RecordingPresetConfig)
    (generatePresetId : Nat → String) (p : ImportProgress) {fields : List (String × Toml)} {raw : Preset}
    (hraw : presetFromToml (.table fields) = some raw) :
    ∃ preset, (importItem rules generatePresetId p (.table fields)).result = p.result ++ [preset] ∧
      preset.config = rules.sanitize raw.config := by
  simp only [importItem, hraw]
  refine ⟨_, rfl, ?_⟩
  split <;> rfl

theorem importItem_extends (p : ImportProgress) (tbl : Toml) :
    p.result <+: (importItem rules generatePresetId p tbl).result := by
  cases tbl with
  | table fields =>
    cases hraw : presetFromToml (.table fields) with
    | none => simp only [importItem, hraw, List.prefix_rfl]
    | some raw =>
      obtain ⟨preset, hresult, -⟩ := importItem_result rules generatePresetId p hraw
      rw [hresult]
      exact List.prefix_append _ _
  | string _ | integer _ | float _ | boolean _ | array _ => exact List.prefix_rfl

theorem loadItem_extends (p : LoadProgress) (tbl : Toml) :
    p.accepted <+: (loadItem rules migrate p tbl).accepted := by
  obtain h | ⟨_, _, preset, _, _, h, _⟩ := loadItem_accepted rules migrate p tbl
  · exact h ▸ List.prefix_rfl
  · exact h ▸ List.prefix_append _ _

/-- What `Load` took from an item is among the presets of the whole array. -/
theorem mem_loadedItems {before : List Toml} (after : List Toml) {tbl : Toml} {preset : Preset}
    (h : Takes (loadedItems rules migrate) before tbl preset) :
    preset ∈ loadedItems rules migrate (before ++ tbl :: after) := by
  have hprefix : loadedItems rules migrate (before ++ [tbl]) <+:
      loadedItems rules migrate (before ++ tbl :: after) := by
    rw [show before ++ tbl :: after = (before ++ [tbl]) ++ after by simp]
    unfold loadedItems
    rw [List.foldl_append (l := before ++ [tbl])]
    exact StepRun.foldl_invariant
      (I := fun p => ((before ++ [tbl]).foldl (loadItem rules migrate) {}).accepted <+: p.accepted)
      (fun p tbl h => h.trans (loadItem_extends p tbl)) after List.prefix_rfl
  refine hprefix.subset ?_
  rw [h]
  simp

theorem mem_importedItems {before : List Toml} (after : List Toml) {tbl : Toml} {preset : Preset}
    (h : Takes (importedItems rules generatePresetId existingIds) before tbl preset) :
    preset ∈ importedItems rules generatePresetId existingIds (before ++ tbl :: after) := by
  have hprefix : importedItems rules generatePresetId existingIds (before ++ [tbl]) <+:
      importedItems rules generatePresetId existingIds (before ++ tbl :: after) := by
    rw [show before ++ tbl :: after = (before ++ [tbl]) ++ after by simp]
    unfold importedItems importItems
    rw [List.foldl_append (l := before ++ [tbl])]
    exact StepRun.foldl_invariant
      (I := fun p => ((before ++ [tbl]).foldl (importItem rules generatePresetId)
        { usedIds := existingIds }).result <+: p.result)
      (fun p tbl h => h.trans (importItem_extends p tbl)) after List.prefix_rfl
  refine hprefix.subset ?_
  rw [h]
  simp

/-- What `Load` takes from an item: the configuration in it, sanitized and migrated. -/
theorem loaded_config {before : List Toml} {tbl : Toml} {preset : Preset}
    (h : Takes (loadedItems rules migrate) before tbl preset) :
    ∃ fields raw, tbl = .table fields ∧ presetFromToml tbl = some raw ∧
      preset.config = migrateColorRange migrate (rules.sanitize (configFromToml tbl)) := by
  have hstep : (loadItem rules migrate (before.foldl (loadItem rules migrate) {}) tbl).accepted =
      (before.foldl (loadItem rules migrate) {}).accepted ++ [preset] := by
    unfold Takes loadedItems at h
    rwa [List.foldl_append] at h
  obtain hsame | ⟨fields, raw, taken, htbl, hraw, hgrows, hconfig⟩ :=
    loadItem_accepted rules migrate
      (before.foldl (loadItem rules migrate) {}) tbl
  · rw [hsame] at hstep
    simp at hstep
  · obtain rfl : taken = preset := by simpa [hgrows] using hstep
    exact ⟨fields, raw, htbl, hraw, by rw [hconfig, presetFromToml_config hraw]⟩

/-- What `Import` takes from the same item: the configuration in it, sanitized. -/
theorem exists_imported (rules : ConfigRules RecordingPresetConfig)
    (generatePresetId : Nat → String) (existingIds : List String) (before : List Toml) {fields : List (String × Toml)} {raw : Preset}
    (hraw : presetFromToml (.table fields) = some raw) :
    ∃ preset,
      Takes (importedItems rules generatePresetId existingIds) before (.table fields) preset ∧
      preset.config = rules.sanitize (configFromToml (.table fields)) := by
  obtain ⟨preset, hgrows, hconfig⟩ := importItem_result rules generatePresetId
    (importItems rules generatePresetId existingIds before) hraw
  refine ⟨preset, ?_, by rw [hconfig, presetFromToml_config hraw]⟩
  unfold Takes importedItems
  rw [← hgrows]
  unfold importItems
  rw [List.foldl_append, List.foldl_cons, List.foldl_nil]

theorem loadDocument_userPresets {doc : Toml} {elems : List Toml}
    (hdoc : nodeAt (some doc) "presets" = some (.array elems)) :
    (loadDocument rules doc).userPresets = loadedItems rules (migratesColorRange doc) elems := by
  unfold loadDocument
  rw [hdoc]
  rfl

theorem importDocument_presets {doc : Toml} {path : String} {elems : List Toml} {preset : Preset}
    (hdoc : nodeAt (some doc) "presets" = some (.array elems))
    (hmem : preset ∈ importedItems rules generatePresetId existingIds elems) :
    (importDocument rules generatePresetId path existingIds doc).presets =
      importedItems rules generatePresetId existingIds elems := by
  unfold importedItems at hmem ⊢
  cases elems with
  | nil => cases hmem
  | cons elem elems =>
    have hsome : (importItems rules generatePresetId existingIds (elem :: elems)).result.isEmpty =
        false := by
      rw [List.isEmpty_eq_false_iff_exists_mem]
      exact ⟨preset, hmem⟩
    simp [importDocument, hdoc, hsome]

section
variable {τ : Type} {text : TomlText τ} {path : String} {contents : τ} {doc tbl : Toml}
  {before after : List Toml} {preset : Preset}

/-- What was taken from an item is what the call returns for it. -/
theorem mem_load (hpath : path.isEmpty = false) (hparse : text.parse contents = some doc)
    (hdoc : nodeAt (some doc) "presets" = some (.array (before ++ tbl :: after)))
    (h : Takes (loadedItems rules (migratesColorRange doc)) before tbl preset) :
    preset ∈ (load rules text path (some contents)).userPresets := by
  simp only [load, hpath, hparse]
  rw [if_neg Bool.false_ne_true, loadDocument_userPresets hdoc]
  exact mem_loadedItems after h

theorem mem_import (hpath : path.isEmpty = false) (hparse : text.parse contents = some doc)
    (hdoc : nodeAt (some doc) "presets" = some (.array (before ++ tbl :: after)))
    (h : Takes (importedItems rules generatePresetId existingIds) before tbl preset) :
    preset ∈ (importPresetsFromFile rules generatePresetId text path existingIds
      (some contents)).presets := by
  have hmem := mem_importedItems after h
  simp only [importPresetsFromFile, hpath, hparse]
  rw [if_neg Bool.false_ne_true, importDocument_presets hdoc hmem]
  exact hmem

end

end

/-! ## The two readers -/

/-- Sanitizing leaves the colour range alone. -/
@[simp] theorem sanitizePresetConfig_colorRange (config : RecordingPresetConfig) :
    (sanitizePresetConfig config).output.colorRange = config.output.colorRange := rfl

theorem migrateColorRange_eq_self {migrate : Bool} {config : RecordingPresetConfig} :
    migrateColorRange migrate config = config ↔
      ¬(migrate = true ∧ config.output.colorRange = .full) := by
  unfold migrateColorRange
  constructor
  · rintro h ⟨rfl, hfull⟩
    rw [if_pos (by simp [hfull])] at h
    have hlimited := congrArg (fun c => c.output.colorRange) h
    rw [hfull] at hlimited
    cases hlimited
  · intro h
    refine if_neg fun hboth => h ?_
    simpa using hboth

/-- A preset that `Load` accepts from a file is imported from that file too, and with the same
    configuration unless the file is of schema 0 to 19 and the preset's colour range is full: only
    `Load` rewrites that one. -/
theorem load_import_config_iff (videosFolder : String) {τ : Type} (text : TomlText τ)
    (generatePresetId : Nat → String) (existingIds : List String) {path : String} {contents : τ}
    {doc tbl : Toml} {before after : List Toml} {loaded : Preset} (hpath : path.isEmpty = false)
    (hparse : text.parse contents = some doc)
    (hdoc : nodeAt (some doc) "presets" = some (.array (before ++ tbl :: after)))
    (hload : Takes (loadedItems (configRules videosFolder) (migratesColorRange doc)) before tbl
      loaded) :
    loaded ∈ (load (configRules videosFolder) text path (some contents)).userPresets ∧
      ∃ imported,
        Takes (importedItems (configRules videosFolder) generatePresetId existingIds) before tbl
          imported ∧
        imported ∈ (importPresetsFromFile (configRules videosFolder) generatePresetId text path
          existingIds (some contents)).presets ∧
        (loaded.config = imported.config ↔
          ¬(migratesColorRange doc = true ∧ (configFromToml tbl).output.colorRange = .full)) := by
  obtain ⟨fields, raw, rfl, hraw, hconfig⟩ := loaded_config hload
  obtain ⟨imported, htakes, hsanitized⟩ :=
    exists_imported (configRules videosFolder) generatePresetId existingIds before hraw
  refine ⟨mem_load hpath hparse hdoc hload, imported, htakes,
    mem_import hpath hparse hdoc htakes, ?_⟩
  rw [hconfig, hsanitized, migrateColorRange_eq_self]
  rfl

/-! ## A file of schema 19 -/

/-- A preset as the older code wrote it. -/
def oldPreset : Toml :=
  .table [("id", .string "preset.a1"), ("name", .string "Old"),
    ("output", .table [("color_range", .string "full")])]

def oldFile : Toml := .table [("presets", .array [oldPreset]), ("schema_version", .integer 19)]

theorem parse_oldFile : plainText.parse oldFile = some oldFile := rfl

theorem presets_oldFile :
    nodeAt (some oldFile) "presets" = some (.array ([] ++ oldPreset :: [])) := rfl

theorem presetFromToml_oldPreset :
    presetFromToml oldPreset = some ⟨"preset.a1", "Old", configFromToml oldPreset⟩ := by
  have hid : trimmed (tomlStr (nodeAt (some oldPreset) "id") "") = "preset.a1" := by decide
  have hname : tomlStr (nodeAt (some oldPreset) "name") "" = "Old" := by decide
  simp only [presetFromToml, hid, hname]
  rfl

theorem takes_oldPreset :
    Takes (loadedItems (configRules "Videos") (migratesColorRange oldFile)) [] oldPreset
      ⟨"preset.a1", "Old",
        migrateColorRange true (sanitizePresetConfig (configFromToml oldPreset))⟩ := by
  have hbuiltIn : isBuiltInPresetId "preset.a1" = false := by decide
  have hname : trimWhitespace "Old" = "Old" := by decide
  have hitem := presetFromToml_oldPreset
  unfold oldPreset at hitem
  simp [Takes, loadedItems, loadItem, oldPreset, hitem, hbuiltIn, sanitizePreset, hname]
  rfl

theorem takes_oldPreset_import :
    Takes (importedItems (configRules "Videos") (fun _ => "preset.b2") []) [] oldPreset
      ⟨"preset.a1", "Old", sanitizePresetConfig (configFromToml oldPreset)⟩ := by
  have hname : trimWhitespace "Old" = "Old" := by decide
  have hitem := presetFromToml_oldPreset
  unfold oldPreset at hitem
  simp [Takes, importedItems, importItems, importItem, oldPreset, hitem, sanitizePreset, hname]
  rfl

theorem load_import_config_iff_oldPreset :
    ∃ loaded imported,
      Takes (loadedItems (configRules "Videos") (migratesColorRange oldFile)) [] oldPreset loaded ∧
        Takes (importedItems (configRules "Videos") (fun _ => "preset.b2") []) [] oldPreset
          imported ∧
        (loaded.config = imported.config ↔
          ¬(migratesColorRange oldFile = true ∧
            (configFromToml oldPreset).output.colorRange = .full)) := by
  have hpath : "presets.toml".isEmpty = false := by decide
  obtain ⟨_, imported, himported, _, hiff⟩ :=
    load_import_config_iff "Videos" plainText (fun _ => "preset.b2") [] hpath parse_oldFile
      presets_oldFile takes_oldPreset
  exact ⟨_, imported, takes_oldPreset, himported, hiff⟩

/-- The preset of an old file is limited when it is loaded and full when it is imported. -/
theorem import_keeps_full_range :
    ∃ loaded imported,
      Takes (loadedItems (configRules "Videos") (migratesColorRange oldFile)) [] oldPreset loaded ∧
        Takes (importedItems (configRules "Videos") (fun _ => "preset.b2") []) [] oldPreset
          imported ∧
        loaded ∈ (load (configRules "Videos") plainText "presets.toml" (some oldFile)).userPresets ∧
        imported ∈ (importPresetsFromFile (configRules "Videos") (fun _ => "preset.b2") plainText
          "presets.toml" [] (some oldFile)).presets ∧
        loaded.config.output.colorRange = .limited ∧ imported.config.output.colorRange = .full := by
  have hpath : "presets.toml".isEmpty = false := by decide
  refine ⟨_, _, takes_oldPreset, takes_oldPreset_import,
    mem_load hpath parse_oldFile presets_oldFile takes_oldPreset,
    mem_import hpath parse_oldFile presets_oldFile takes_oldPreset_import, ?_, ?_⟩
  · decide +kernel
  · decide +kernel

end Exosnap.Settings
