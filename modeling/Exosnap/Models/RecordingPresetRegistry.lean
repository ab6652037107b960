/-
  The registry of presets (`RecordingPresetRegistry.cpp`), and its operations as the calls of a
  session.

  Ids that are generated come with the call and are taken to be fresh. An operation whose search for a
  free name did not end would have no result: one candidate more than there are presets is enough, so
  the search is given that many. A suffix is a number without a bound.
-/
import Exosnap.Lib.FirstFree
import Exosnap.Lib.StepRun
import Exosnap.Models.RecordingPreset

namespace Exosnap.Models

structure RecordingPresetRegistry (κ : Type) where
  presets : List (RecordingPreset κ)
  selectedId : String
  deriving DecidableEq, Repr

/-! ## The operations -/

section
variable {κ : Type}

def nameExists (presets : List (RecordingPreset κ)) (folded : String) : Bool :=
  presets.any fun p => foldPresetName p.name == folded

/-- The name itself where it is free, else the first number that makes it so. -/
def deduplicateName (presets : List (RecordingPreset κ)) (base : String) : Option String :=
  if !nameExists presets (foldPresetName base) then some base
  else
    (FirstFree.firstFree (fun suffix => nameExists presets (foldPresetName (numberedName base suffix)))
      (presets.length + 1) 2).map (numberedName base)

/-- The name of a preset that is added, with the fallback for one in which nothing is left. -/
def newPresetName (presets : List (RecordingPreset κ)) (fallback name : String) : Option String := do
  let deduplicated ← deduplicateName presets (normalizePresetName name)
  if deduplicated.isEmpty then deduplicateName presets fallback else some deduplicated

def indexById (presets : List (RecordingPreset κ)) (id : String) : Option Nat :=
  presets.findIdx? (·.id == id)

def isNameTaken (presets : List (RecordingPreset κ)) (name excludeId : String) : Bool :=
  let folded := foldPresetName name
  presets.any fun p =>
    if !excludeId.isEmpty && p.id == excludeId then false else foldPresetName p.name == folded

variable (rules : ConfigRules κ)

/-- The user's presets of a snapshot, after the presets there are. -/
def loadPresets (seenIds : List String) (presets : List (RecordingPreset κ)) :
    List (RecordingPreset κ) → Option (List (RecordingPreset κ))
  | [] => some presets
  | p :: rest =>
      if p.id.isEmpty then loadPresets seenIds presets rest
      else if seenIds.contains p.id then loadPresets seenIds presets rest
      else do
        let sanitized := sanitizePreset rules "" p
        let name ← deduplicateName presets sanitized.name
        loadPresets (p.id :: seenIds) (presets ++ [{ sanitized with name }]) rest

namespace RecordingPresetRegistry

def initial : RecordingPresetRegistry κ where
  presets := makeBuiltInPresets rules
  selectedId := kDefaultPresetId

def loadState (presets : List (RecordingPreset κ)) (selectedId : String) :
    Option (RecordingPresetRegistry κ) := do
  let builtIns := makeBuiltInPresets rules
  let loaded ← loadPresets rules (builtIns.map (·.id)) builtIns presets
  let selectedValid := (indexById loaded selectedId).isSome
  return { presets := loaded, selectedId := if selectedValid then selectedId else kDefaultPresetId }

variable (r : RecordingPresetRegistry κ)

def setSelected (id : String) : Bool × RecordingPresetRegistry κ :=
  if (indexById r.presets id).isNone then (false, r) else (true, { r with selectedId := id })

def addPreset (generatedId : String) (config : κ) (name : String) :
    Option (String × RecordingPresetRegistry κ) := do
  let presetName ← newPresetName r.presets "New preset" name
  let preset := sanitizePreset rules generatedId
    { id := generatedId, name := presetName, config := rules.strip config }
  return (preset.id, { presets := r.presets ++ [preset], selectedId := preset.id })

def importPreset (generatedId : String) (preset : RecordingPreset κ) :
    Option (RecordingPresetRegistry κ) := do
  let presetName ← newPresetName r.presets "Imported preset" preset.name
  let imported := sanitizePreset rules generatedId
    { preset with name := presetName, config := rules.strip preset.config }
  return { r with presets := r.presets ++ [imported] }

def renameSelected (newName : String) : Bool × RecordingPresetRegistry κ :=
  if isBuiltInPresetId r.selectedId then (false, r)
  else
    let normalized := normalizePresetName newName
    if normalized.isEmpty then (false, r)
    else if isNameTaken r.presets normalized r.selectedId then (false, r)
    else
      match indexById r.presets r.selectedId with
      | none => (false, r)
      | some idx =>
          (true, { r with presets := r.presets.modify idx fun p => { p with name := normalized } })

def deleteSelected : Bool × RecordingPresetRegistry κ :=
  if isBuiltInPresetId r.selectedId then (false, r)
  else
    match indexById r.presets r.selectedId with
    | none => (false, r)
    | some delIdx =>
        (true, { presets := r.presets.eraseIdx delIdx, selectedId := kDefaultPresetId })

end RecordingPresetRegistry

inductive RegistryCall (κ : Type) where
  | loadState (presets : List (RecordingPreset κ)) (selectedId : String)
  | setSelected (id : String)
  | addPreset (generatedId : String) (config : κ) (name : String)
  | importPreset (generatedId : String) (preset : RecordingPreset κ)
  | renameSelected (newName : String)
  | deleteSelected
  deriving Repr

namespace RecordingPresetRegistry

/-- The registry after a call, if the call's search for a name ends. -/
def apply (r : RecordingPresetRegistry κ) : RegistryCall κ → Option (RecordingPresetRegistry κ)
  | .loadState presets selectedId => loadState rules presets selectedId
  | .setSelected id => some (r.setSelected id).2
  | .addPreset generatedId config name => (r.addPreset rules generatedId config name).map (·.2)
  | .importPreset generatedId preset => r.importPreset rules generatedId preset
  | .renameSelected newName => some (r.renameSelected newName).2
  | .deleteSelected => some r.deleteSelected.2

def freshId (r : RecordingPresetRegistry κ) (id : String) : Bool :=
  !id.isEmpty && !(r.presets.map (·.id)).contains id

/-- What a caller sees to: generated ids are fresh, and an imported preset has an id not in use. -/
def allowed (r : RecordingPresetRegistry κ) : RegistryCall κ → Bool
  | .addPreset generatedId _ _ => r.freshId generatedId
  | .importPreset generatedId preset =>
      if preset.id.isEmpty then r.freshId generatedId else r.freshId preset.id
  | _ => true

def step (r : RecordingPresetRegistry κ) (call : RegistryCall κ) :
    Option (RecordingPresetRegistry κ) :=
  if r.allowed call then r.apply rules call else none

end RecordingPresetRegistry

end

end Exosnap.Models
