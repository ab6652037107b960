/-
  The presets over a restart: what is loaded after a save is what was saved, but that every key frame
  interval is back at its default; a restart changes nothing exactly when they all were there before
  (`restart_iff`). The ids have to be ones that the reader does not trim, and the store has to have a
  file.
-/
import Exosnap.Models.RegistryReload
import Exosnap.Settings.PresetRoundTrip
import Exosnap.Settings.RecordingPresetStore

namespace Exosnap.Settings

open Capability Models

variable {videosFolder : String}

/-! ## What any document gives -/

/-- What holds of every preset that comes out of a document. -/
def Loaded (p : Preset) : Prop :=
  trimmed p.id = p.id ∧ p.config.video.keyframeInterval = .seconds2

theorem loaded_of_presetFromToml {tbl : Toml} {p : Preset} (h : presetFromToml tbl = some p) :
    Loaded p := by
  unfold presetFromToml at h
  dsimp only at h
  split_ifs at h
  obtain rfl := Option.some.inj h
  exact ⟨Trimming.trimString_trimString _, rfl⟩

theorem keyframeInterval_migrateColorRange (migrate : Bool) (config : RecordingPresetConfig) :
    (migrateColorRange migrate config).video.keyframeInterval = config.video.keyframeInterval := by
  unfold migrateColorRange
  split <;> rfl

theorem loaded_loadItem {migrate : Bool} {progress : LoadProgress}
    (h : ∀ p ∈ progress.accepted, Loaded p) (elem : Toml) :
    ∀ p ∈ (loadItem (configRules videosFolder) migrate progress elem).accepted, Loaded p := by
  unfold loadItem
  split
  · split
    · exact h
    · next raw hraw =>
      split_ifs with hempty hshipped hdefault hseen
      · exact h
      · exact h
      · exact h
      · exact h
      · intro p hp
        rcases List.mem_append.mp hp with hp | hp
        · exact h p hp
        · obtain ⟨hid, hinterval⟩ := loaded_of_presetFromToml hraw
          obtain rfl := List.mem_singleton.mp hp
          refine ⟨?_, (keyframeInterval_migrateColorRange _ _).trans hinterval⟩
          simp [id_sanitizePreset, hempty, hid]
  · exact h

theorem loaded_foldl {migrate : Bool} (elems : List Toml) {progress : LoadProgress}
    (h : ∀ p ∈ progress.accepted, Loaded p) :
    ∀ p ∈ (elems.foldl (loadItem (configRules videosFolder) migrate) progress).accepted,
      Loaded p := by
  induction elems generalizing progress with
  | nil => exact h
  | cons elem rest ih => exact ih (loaded_loadItem h elem)

theorem loaded_loadDocument (doc : Toml) :
    ∀ p ∈ (loadDocument (configRules videosFolder) doc).userPresets, Loaded p := by
  have hnone : ∀ p ∈ ({} : LoadProgress).accepted, Loaded p := fun p hp => nomatch hp
  dsimp only [loadDocument]
  unfold loadItems
  split
  · exact loaded_foldl _ hnone
  · exact hnone

/-- A live configuration that was stored comes back with the default key frame interval. -/
theorem keyframeInterval_loadLive {migrate : Bool} {carriedOver : Option RecordingPresetConfig}
    {fields : List (String × Toml)} {live : RecordingPresetConfig}
    (h : loadLive (configRules videosFolder) migrate carriedOver (some (.table fields)) = some live) :
    live.video.keyframeInterval = .seconds2 := by
  obtain rfl := Option.some.inj h
  exact keyframeInterval_migrateColorRange _ _

/-! ## What the document of a save gives -/

def storedPreset (p : Preset) : Preset := { p with config := storedConfig p.config }

@[simp] theorem storedPreset_id (p : Preset) : (storedPreset p).id = p.id := rfl

/-- A preset that is saved: it is in use, and under an id that the reader does not change. -/
structure Saved (p : Preset) : Prop where
  settled : Settled p.config
  id_ne : p.id ≠ ""
  id_trimmed : trimmed p.id = p.id
  shown : Shown p.name
  user : isBuiltInPresetId p.id = false

theorem sanitizePreset_storedPreset {p : Preset} (h : Saved p) :
    sanitizePreset (configRules videosFolder) "" (storedPreset p) = storedPreset p := by
  have hconfig : sanitizePresetConfig (storedConfig p.config) = storedConfig p.config :=
    (sanitizePresetConfig_storedConfig p.config).trans (congrArg storedConfig h.settled.sanitized)
  rw [sanitizePreset_of_shown (p := storedPreset p) h.id_ne h.shown]
  exact congrArg (fun config => { storedPreset p with config }) hconfig

theorem loadItem_presetToToml {p : Preset} (h : Saved p) {progress : LoadProgress}
    (hnew : p.id ∉ progress.seenIds) :
    loadItem (configRules videosFolder) false progress (presetToToml p) =
      { progress with
        seenIds := p.id :: progress.seenIds
        accepted := progress.accepted ++ [storedPreset p] } := by
  have hread : presetFromToml (.table _) = some (storedPreset p) :=
    presetFromToml_presetToToml h.settled.readable h.id_ne h.id_trimmed
  have hseen : progress.seenIds.contains (storedPreset p).id = false := by simpa using hnew
  have hempty : (storedPreset p).id.isEmpty = false := by simpa using h.id_ne
  have huser : isBuiltInPresetId (storedPreset p).id = false := h.user
  simp only [loadItem, presetToToml, Toml.ofEntries, hread, hempty, huser, hseen,
    sanitizePreset_storedPreset h, migrateColorRange, Bool.false_and, Bool.false_eq_true, if_false]
  rfl

/-- The presets of a save are all taken, one after another. -/
theorem foldl_presetToToml {ps : List Preset} (h : ∀ p ∈ ps, Saved p)
    (hids : (ps.map (·.id)).Nodup) {progress : LoadProgress}
    (hnew : ∀ p ∈ ps, p.id ∉ progress.seenIds) :
    (ps.map presetToToml).foldl (loadItem (configRules videosFolder) false) progress =
      { progress with
        seenIds := (ps.map (·.id)).reverse ++ progress.seenIds
        accepted := progress.accepted ++ ps.map storedPreset } := by
  induction ps generalizing progress with
  | nil => simp
  | cons p rest ih =>
    obtain ⟨hp, hrest⟩ := List.nodup_cons.mp hids
    have hlater : ∀ q ∈ rest, q.id ∉ p.id :: progress.seenIds := by
      intro q hq hmem
      rcases List.mem_cons.mp hmem with hid | hmem
      · exact hp (List.mem_map.mpr ⟨q, hq, hid⟩)
      · exact hnew q (List.mem_cons_of_mem p hq) hmem
    rw [List.map_cons, List.foldl_cons,
      loadItem_presetToToml (h p List.mem_cons_self) (hnew p List.mem_cons_self),
      ih (fun q hq => h q (List.mem_cons_of_mem p hq)) hrest hlater]
    simp

/-- The nodes of the document of a save. -/
theorem nodeAt_presetDocument (presets : List Preset) (selectedId : String)
    (live : RecordingPresetConfig) :
    nodeAt (some (presetDocument presets selectedId live)) "schema_version" =
        some (.integer kPresetSchemaVersion) ∧
      nodeAt (some (presetDocument presets selectedId live)) "selected_id" =
        some (.string selectedId) ∧
      nodeAt (some (presetDocument presets selectedId live)) "live" = some (configToToml live) ∧
      nodeAt (some (presetDocument presets selectedId live)) "presets" =
        some (.array ((userPresets presets).map presetToToml)) := by
  simp [presetDocument, List.lookup, userPresets]

theorem loadLive_configToToml {live : RecordingPresetConfig} (h : Settled live)
    (carriedOver : Option RecordingPresetConfig) :
    loadLive (configRules videosFolder) false carriedOver (some (configToToml live)) =
      some (storedConfig live) := by
  have hread : configFromToml (.table _) = storedConfig live :=
    configFromToml_configToToml h.readable
  have hsanitized : sanitizePresetConfig (storedConfig live) = storedConfig live :=
    (sanitizePresetConfig_storedConfig live).trans (congrArg storedConfig h.sanitized)
  simp only [loadLive, configToToml, Toml.ofEntries, hread, migrateColorRange, Bool.false_and,
    Bool.false_eq_true, if_false]
  exact congrArg some hsanitized

/-- What is loaded from the document of a save: the user's presets in their order, the selection and
    the live configuration, each configuration as it is stored; and nothing was dropped. -/
theorem loadDocument_presetDocument {presets : List Preset} {selectedId : String}
    {live : RecordingPresetConfig} (h : ∀ p ∈ userPresets presets, Saved p)
    (hids : ((userPresets presets).map (·.id)).Nodup) (hlive : Settled live)
    (hselected : isBuiltInPresetId selectedId = true ∨ ∃ p ∈ userPresets presets, p.id = selectedId) :
    loadDocument (configRules videosFolder) (presetDocument presets selectedId live) =
      { userPresets := (userPresets presets).map storedPreset
        selectedId
        live := some (storedConfig live)
        repaired := false } := by
  obtain ⟨hversion, hselectedId, hlive', hpresets⟩ := nodeAt_presetDocument presets selectedId live
  have hitems : loadItems (configRules videosFolder) false
      (some (.array ((userPresets presets).map presetToToml))) =
        { seenIds := ((userPresets presets).map (·.id)).reverse
          accepted := (userPresets presets).map storedPreset } := by
    have hnew : ∀ p ∈ userPresets presets, p.id ∉ ({} : LoadProgress).seenIds :=
      fun p _ hmem => nomatch hmem
    rw [loadItems, foldl_presetToToml h hids hnew]
    simp
  have hkept : (!isBuiltInPresetId selectedId &&
      !((userPresets presets).map storedPreset).any fun p => p.id == selectedId) = false := by
    rcases hselected with hshipped | ⟨p, hp, hid⟩
    · rw [hshipped]
      rfl
    · have hany : ((userPresets presets).map storedPreset).any (fun p => p.id == selectedId) = true :=
        List.any_eq_true.mpr ⟨storedPreset p, List.mem_map_of_mem hp, by simpa using hid⟩
      rw [hany]
      simp
  have hmigrate : (decide (kPresetSchemaVersion ≥ 0) &&
      decide (kPresetSchemaVersion ≤ kPresetSchemaColorRangeMigratedThrough)) = false := by decide
  simp only [loadDocument, hversion, hselectedId, hlive', hpresets, tomlInt, tomlStr_string, hmigrate,
    hitems, hkept, loadLive_configToToml hlive, Bool.false_eq_true, if_false]

/-! ## A restart -/

section
variable {τ : Type} {text : TomlText τ} {filePath : String} {disk disk' : Option τ}
  {access : SaveAccess} {r : RecordingPresetRegistry RecordingPresetConfig}
  {live : RecordingPresetConfig}

/-- What a file holds brings back the registry and the live configuration, and drops nothing. -/
def Survives (videosFolder : String) (text : TomlText τ) (filePath : String) (disk : Option τ)
    (r : RecordingPresetRegistry RecordingPresetConfig) (live : RecordingPresetConfig) : Prop :=
  let state := load (configRules videosFolder) text filePath disk
  state.repaired = false ∧ state.live = some live ∧
    RecordingPresetRegistry.loadState (configRules videosFolder) state.userPresets state.selectedId =
      some r

/-- After a save the file holds the document. -/
theorem load_of_save (hpath : filePath ≠ "")
    (hsave : save text filePath disk access r.presets r.selectedId live = (true, disk')) :
    load (configRules videosFolder) text filePath disk' =
      loadDocument (configRules videosFolder) (presetDocument r.presets r.selectedId live) := by
  have hfile : filePath.isEmpty = false := by simpa using hpath
  unfold save at hsave
  simp only [hfile, Bool.false_eq_true, if_false] at hsave
  split_ifs at hsave <;> simp only [Prod.mk.injEq, Bool.false_eq_true, false_and, true_and] at hsave
  subst hsave
  simp only [load, hfile, text.parse_print, Bool.false_eq_true, if_false]

theorem survives_of_loaded (hr : RegistryInvariant (configRules videosFolder) r)
    (hconfigs : ∀ p ∈ userPresets r.presets, Settled p.config) (hlive : Settled live)
    (hsave : save text filePath disk access r.presets r.selectedId live = (true, disk'))
    (hpath : filePath ≠ "") (hloaded : ∀ p ∈ userPresets r.presets, Loaded p)
    (hinterval : live.video.keyframeInterval = .seconds2) :
    Survives videosFolder text filePath disk' r live := by
  have hsaved : ∀ p ∈ userPresets r.presets, Saved p := by
    intro p hp
    obtain ⟨hmem, huser⟩ := mem_userPresets.mp hp
    exact
      { settled := hconfigs p hp
        id_ne := hr.ids_ne p hmem
        id_trimmed := (hloaded p hp).1
        shown := hr.shown p hmem
        user := huser }
  have hids : ((userPresets r.presets).map (·.id)).Nodup :=
    hr.ids.sublist (List.filter_sublist.map _)
  have hselected : isBuiltInPresetId r.selectedId = true ∨
      ∃ p ∈ userPresets r.presets, p.id = r.selectedId := by
    obtain ⟨p, hp, hid⟩ := hr.selected
    cases huser : isBuiltInPresetId p.id with
    | true => exact .inl (hid ▸ huser)
    | false => exact .inr ⟨p, mem_userPresets.mpr ⟨hp, huser⟩, hid⟩
  have hstored : (userPresets r.presets).map storedPreset = userPresets r.presets := by
    refine (List.map_congr_left fun p hp => ?_).trans (List.map_id _)
    unfold storedPreset
    rw [storedConfig_eq_self.mpr (hloaded p hp).2]
    rfl
  unfold Survives
  rw [load_of_save hpath hsave, loadDocument_presetDocument hsaved hids hlive hselected, hstored,
    storedConfig_eq_self.mpr hinterval]
  exact ⟨rfl, rfl, loadState_self hr fun p hp => (hconfigs p hp).sanitized⟩

theorem loaded_of_survives
    (hsave : save text filePath disk access r.presets r.selectedId live = (true, disk'))
    (h : Survives videosFolder text filePath disk' r live) :
    filePath ≠ "" ∧ (∀ p ∈ userPresets r.presets, Loaded p) ∧
      live.video.keyframeInterval = .seconds2 := by
  obtain ⟨-, hlive, hstate⟩ := h
  have hpath : filePath ≠ "" := by
    rintro rfl
    exact nomatch hlive
  rw [load_of_save hpath hsave] at hlive hstate
  refine ⟨hpath, fun p hp => ?_, ?_⟩
  · obtain ⟨q, hq, hid, hconfig⟩ := mem_loadState hstate hp
    obtain ⟨htrim, hinterval⟩ := loaded_loadDocument _ q hq
    refine ⟨hid ▸ htrim, ?_⟩
    rw [← hconfig]
    exact hinterval
  · obtain ⟨-, -, hnode, -⟩ := nodeAt_presetDocument r.presets r.selectedId live
    dsimp only [loadDocument] at hlive
    rw [hnode] at hlive
    exact keyframeInterval_loadLive hlive

end

/-- Whatever the session before it, a save and a restart bring back the presets, the selection and the
    live configuration exactly when each key frame interval is the default one, no id begins or ends
    with white space, and the store has a file. -/
theorem restart_iff (videosFolder : String) {τ : Type} (text : TomlText τ) (filePath : String) (disk disk' : Option τ)
    (access : SaveAccess) (calls : List (RegistryCall RecordingPresetConfig))
    (r : RecordingPresetRegistry RecordingPresetConfig) (live : RecordingPresetConfig)
    (hrun : StepRun.exec (RecordingPresetRegistry.step (configRules videosFolder))
      (RecordingPresetRegistry.initial (configRules videosFolder)) calls = some r)
    (hconfigs : ∀ p ∈ userPresets r.presets, Settled p.config) (hlive : Settled live)
    (hsave : save text filePath disk access r.presets r.selectedId live = (true, disk')) :
    Survives videosFolder text filePath disk' r live ↔
      filePath ≠ "" ∧
      (∀ p ∈ userPresets r.presets,
        trimmed p.id = p.id ∧ p.config.video.keyframeInterval = .seconds2) ∧
      live.video.keyframeInterval = .seconds2 := by
  have hr : RegistryInvariant (configRules videosFolder) r :=
    StepRun.exec_invariant_all
      (fun _ _ _ hI hs => RecordingPresetRegistry.step_invariant hI hs)
      (RecordingPresetRegistry.initial_invariant _) hrun
  refine ⟨loaded_of_survives hsave, fun ⟨hpath, hloaded, hinterval⟩ => ?_⟩
  exact survives_of_loaded hr hconfigs hlive hsave hpath hloaded hinterval

/-- Documents that are their own text. -/
def plainText : TomlText Toml where
  print := id
  parse := some
  parse_print _ _ _ := rfl

/-- A session in which the shipped configuration was kept as a preset. -/
def keptClips : List (RegistryCall RecordingPresetConfig) :=
  [.addPreset "preset.a1" (makeDefaultConfig "Videos") "Clips"]

/-- The registry after it. -/
def clipsRegistry : RecordingPresetRegistry RecordingPresetConfig where
  presets := makeBuiltInPresets (configRules "Videos") ++
    [{ id := "preset.a1", name := "Clips", config := makeDefaultConfig "Videos" }]
  selectedId := "preset.a1"

theorem exec_keptClips :
    StepRun.exec (RecordingPresetRegistry.step (configRules "Videos"))
      (RecordingPresetRegistry.initial (configRules "Videos")) keptClips = some clipsRegistry := by
  have hid : (RecordingPresetRegistry.initial (configRules "Videos")).freshId "preset.a1" = true := by
    decide
  have hname : Shown "Clips" := ⟨by decide, by decide⟩
  have hfree : foldPresetName "Clips" ∉
      (RecordingPresetRegistry.initial (configRules "Videos")).presets.map
        fun p => foldPresetName p.name := by
    decide +kernel
  have hconfig : sanitizePresetConfig (stripEnvironmentFields "Videos" (makeDefaultConfig "Videos")) =
      makeDefaultConfig "Videos" := by
    decide
  unfold keptClips
  rw [StepRun.exec_cons, step_addPreset _ hid hname hfree]
  exact congrArg
    (fun config => some (⟨makeBuiltInPresets (configRules "Videos") ++ [⟨"preset.a1", "Clips", config⟩],
      "preset.a1"⟩ : RecordingPresetRegistry RecordingPresetConfig)) hconfig

theorem settled_makeDefaultConfig : Settled (makeDefaultConfig "Videos") where
  sanitized := by decide
  cq := by decide
  folder := by decide
  pattern := by decide
  mic := fun _ h => nomatch h
  pid := fun _ h => nomatch h
  region := by decide

theorem userPresets_clipsRegistry :
    userPresets clipsRegistry.presets =
      [{ id := "preset.a1", name := "Clips", config := makeDefaultConfig "Videos" }] := by
  have hshipped : userPresets (makeBuiltInPresets (configRules "Videos")) = [] :=
    List.filter_eq_nil_iff.mpr fun p hp => by simp [isBuiltIn_of_mem hp]
  unfold userPresets at hshipped
  unfold userPresets clipsRegistry
  rw [List.filter_append, hshipped]
  rfl

theorem restart_iff_keptClips :
    StepRun.exec (RecordingPresetRegistry.step (configRules "Videos"))
        (RecordingPresetRegistry.initial (configRules "Videos")) keptClips = some clipsRegistry ∧
      Survives "Videos" plainText "presets.toml"
        (some (presetDocument clipsRegistry.presets "preset.a1" (makeDefaultConfig "Videos")))
        clipsRegistry (makeDefaultConfig "Videos") := by
  have huser : ∀ p ∈ userPresets clipsRegistry.presets,
      p.id = "preset.a1" ∧ p.config = makeDefaultConfig "Videos" := by
    rw [userPresets_clipsRegistry]
    intro p hp
    obtain rfl := List.mem_singleton.mp hp
    exact ⟨rfl, rfl⟩
  have hconfigs : ∀ p ∈ userPresets clipsRegistry.presets, Settled p.config :=
    fun p hp => (huser p hp).2 ▸ settled_makeDefaultConfig
  have hiff := restart_iff "Videos" plainText "presets.toml" none _ {} keptClips
    clipsRegistry (makeDefaultConfig "Videos") exec_keptClips hconfigs settled_makeDefaultConfig rfl
  refine ⟨exec_keptClips, hiff.mpr ⟨by decide, fun p hp => ?_, rfl⟩⟩
  obtain ⟨hid, hconfig⟩ := huser p hp
  rw [hid, hconfig]
  exact ⟨by decide, rfl⟩

/-- The live configuration with a key frame every second. -/
def oneSecondConfig : RecordingPresetConfig :=
  { makeDefaultConfig "Videos" with
    video := { (makeDefaultConfig "Videos").video with keyframeInterval := .seconds1 } }

/-- A key frame interval of a second is two seconds after a restart. -/
theorem keyframeInterval_lost :
    Settled oneSecondConfig ∧
      save plainText "presets.toml" none {}
        (RecordingPresetRegistry.initial (configRules "Videos")).presets kDefaultPresetId
        oneSecondConfig =
          (true, some (presetDocument (makeBuiltInPresets (configRules "Videos")) kDefaultPresetId
            oneSecondConfig)) ∧
      ¬Survives "Videos" plainText "presets.toml"
        (some (presetDocument (makeBuiltInPresets (configRules "Videos")) kDefaultPresetId
          oneSecondConfig))
        (RecordingPresetRegistry.initial (configRules "Videos")) oneSecondConfig := by
  have hsave : save plainText "presets.toml" none {}
      (RecordingPresetRegistry.initial (configRules "Videos")).presets kDefaultPresetId
      oneSecondConfig =
        (true, some (presetDocument (makeBuiltInPresets (configRules "Videos")) kDefaultPresetId
          oneSecondConfig)) := rfl
  have hsettled : Settled oneSecondConfig :=
    { settled_makeDefaultConfig with sanitized := by decide }
  refine ⟨hsettled, hsave, fun hsurvives => ?_⟩
  obtain ⟨-, -, hinterval⟩ := loaded_of_survives hsave hsurvives
  exact nomatch hinterval

end Exosnap.Settings
