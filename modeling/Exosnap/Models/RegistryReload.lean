/-
  Loading a registry from its own presets: it is what it was before, if sanitizing leaves the
  configurations of the user's presets alone. In general a preset of the registry is a shipped one or
  comes from one that was loaded, with its id, and its configuration sanitized.
-/
import Exosnap.Models.RegistrySessions

namespace Exosnap.Models

variable {κ : Type} {rules : ConfigRules κ} {presets : List (RecordingPreset κ)}

/-- The presets that are stored. -/
def userPresets (presets : List (RecordingPreset κ)) : List (RecordingPreset κ) :=
  presets.filter fun p => !isBuiltInPresetId p.id

theorem mem_userPresets {p : RecordingPreset κ} :
    p ∈ userPresets presets ↔ p ∈ presets ∧ isBuiltInPresetId p.id = false := by
  simp [userPresets]

/-- The shipped presets have the ids of shipped presets, and all of them. -/
theorem isBuiltInPresetId_iff {id : String} :
    isBuiltInPresetId id = true ↔ id ∈ (makeBuiltInPresets rules).map (·.id) := by
  simp [isBuiltInPresetId, makeBuiltInPresets, or_assoc]

/-- The presets are the shipped ones, and after them those of the user. -/
theorem PresetsInvariant.eq_append (h : PresetsInvariant rules presets) :
    presets = makeBuiltInPresets rules ++ userPresets presets := by
  obtain ⟨rest, hrest⟩ := h.builtIns
  have hids := h.ids
  rw [← hrest, List.map_append] at hids
  have hshipped : userPresets (makeBuiltInPresets rules) = [] := by
    refine List.filter_eq_nil_iff.mpr fun p hp => ?_
    simp [isBuiltIn_of_mem hp]
  have huser : userPresets rest = rest := by
    refine List.filter_eq_self.mpr fun p hp => ?_
    have hnot : p.id ∉ (makeBuiltInPresets rules).map (·.id) := fun hmem =>
      List.disjoint_of_nodup_append hids hmem (List.mem_map_of_mem hp)
    rw [← isBuiltInPresetId_iff] at hnot
    simpa using hnot
  have hpresets : userPresets presets = rest := by
    rw [← hrest]
    unfold userPresets at hshipped huser ⊢
    rw [List.filter_append, hshipped, huser, List.nil_append]
  rw [hpresets, hrest]

/-- A name that is free is taken as it is. -/
theorem deduplicateName_of_free {name : String}
    (h : foldPresetName name ∉ presets.map fun p => foldPresetName p.name) :
    deduplicateName presets name = some name := by
  have hfree : nameExists presets (foldPresetName name) = false := by
    rw [Bool.eq_false_iff, Ne, nameExists_iff]
    exact h
  simp [deduplicateName, hfree]

/-- Presets that stand after others in a registry are loaded as they are. -/
theorem loadPresets_self {rest : List (RecordingPreset κ)} {seenIds : List String}
    (h : PresetsInvariant rules (presets ++ rest))
    (hseen : ∀ id ∈ seenIds, id ∈ presets.map (·.id))
    (hconfigs : ∀ p ∈ rest, rules.sanitize p.config = p.config) :
    loadPresets rules seenIds presets rest = some (presets ++ rest) := by
  induction rest generalizing presets seenIds with
  | nil => rw [loadPresets, List.append_nil]
  | cons p rest ih =>
    have hp : p ∈ presets ++ p :: rest := List.mem_append_right _ List.mem_cons_self
    have hids := h.ids
    have hnames := h.names
    rw [List.map_append, List.map_cons] at hids hnames
    have hid : p.id ∉ seenIds := fun hmem =>
      List.disjoint_of_nodup_append hids (hseen _ hmem) List.mem_cons_self
    have hfold : foldPresetName p.name ∉ presets.map fun p => foldPresetName p.name := fun hmem =>
      List.disjoint_of_nodup_append hnames hmem List.mem_cons_self
    have hsanitized : sanitizePreset rules "" p = p := by
      rw [sanitizePreset_of_shown (h.ids_ne p hp) (h.shown p hp), hconfigs p List.mem_cons_self]
    have hseen' : ∀ id ∈ p.id :: seenIds, id ∈ (presets ++ [p]).map (·.id) := by
      intro id hmem
      rw [List.map_append, List.mem_append]
      rcases List.mem_cons.mp hmem with rfl | hmem
      · exact .inr List.mem_cons_self
      · exact .inl (hseen id hmem)
    have hnext : PresetsInvariant rules ((presets ++ [p]) ++ rest) := by simpa using h
    have hrest := ih hnext hseen' fun q hq => hconfigs q (List.mem_cons_of_mem p hq)
    rw [List.append_assoc, List.singleton_append] at hrest
    unfold loadPresets
    rw [if_neg (by simpa using h.ids_ne p hp), if_neg (by simpa using hid), hsanitized]
    dsimp only
    rw [deduplicateName_of_free hfold]
    exact hrest

theorem indexById_isSome {id : String} (h : ∃ p ∈ presets, p.id = id) :
    (indexById presets id).isSome = true := by
  obtain ⟨p, hp, hid⟩ := h
  unfold indexById
  rw [List.findIdx?_isSome, List.any_eq_true]
  exact ⟨p, hp, by simpa using hid⟩

/-- A registry is loaded from its own presets as it was. -/
theorem loadState_self {r : RecordingPresetRegistry κ} (h : RegistryInvariant rules r)
    (hconfigs : ∀ p ∈ userPresets r.presets, rules.sanitize p.config = p.config) :
    RecordingPresetRegistry.loadState rules (userPresets r.presets) r.selectedId = some r := by
  have happend := h.toPresetsInvariant.eq_append
  have hloaded : loadPresets rules ((makeBuiltInPresets rules).map (·.id)) (makeBuiltInPresets rules)
      (userPresets r.presets) = some r.presets := by
    rw [loadPresets_self (happend ▸ h.toPresetsInvariant) (fun _ hid => hid) hconfigs, ← happend]
  have hselected : (indexById r.presets r.selectedId).isSome = true := indexById_isSome h.selected
  simp [RecordingPresetRegistry.loadState, hloaded, hselected]

/-- Where a loaded preset comes from. -/
theorem mem_loadPresets {seenIds : List String} {incoming loaded : List (RecordingPreset κ)}
    (h : loadPresets rules seenIds presets incoming = some loaded) {p : RecordingPreset κ}
    (hp : p ∈ loaded) :
    p ∈ presets ∨ ∃ q ∈ incoming, q.id = p.id ∧ rules.sanitize q.config = p.config := by
  induction incoming generalizing presets seenIds with
  | nil =>
    obtain rfl := Option.some.inj h
    exact .inl hp
  | cons q rest ih =>
    have hlater : (∃ q ∈ rest, q.id = p.id ∧ rules.sanitize q.config = p.config) →
        ∃ q' ∈ q :: rest, q'.id = p.id ∧ rules.sanitize q'.config = p.config :=
      fun ⟨q', hq', h'⟩ => ⟨q', List.mem_cons_of_mem q hq', h'⟩
    unfold loadPresets at h
    split_ifs at h with hempty hknown
    · exact (ih h).imp_right hlater
    · exact (ih h).imp_right hlater
    · obtain ⟨name, -, hrest⟩ := Option.bind_eq_some_iff.mp h
      rcases ih hrest with hmem | hfound
      · rcases List.mem_append.mp hmem with hmem | hmem
        · exact .inl hmem
        · obtain rfl := List.mem_singleton.mp hmem
          have hid : (sanitizePreset rules "" q).id = q.id := id_sanitizePreset.trans (if_neg hempty)
          exact .inr ⟨q, List.mem_cons_self, hid.symm, rfl⟩
      · exact .inr (hlater hfound)

theorem mem_loadState {r : RecordingPresetRegistry κ} {incoming : List (RecordingPreset κ)}
    {selectedId : String}
    (h : RecordingPresetRegistry.loadState rules incoming selectedId = some r)
    {p : RecordingPreset κ} (hp : p ∈ userPresets r.presets) :
    ∃ q ∈ incoming, q.id = p.id ∧ rules.sanitize q.config = p.config := by
  obtain ⟨hmem, huser⟩ := mem_userPresets.mp hp
  obtain ⟨loaded, hloaded, hr⟩ := Option.bind_eq_some_iff.mp h
  obtain rfl := Option.some.inj hr
  refine (mem_loadPresets hloaded hmem).resolve_left fun hshipped => ?_
  rw [isBuiltIn_of_mem hshipped] at huser
  exact nomatch huser

/-- A preset that is added under a name to show that is free. -/
theorem step_addPreset {r : RecordingPresetRegistry κ} {generatedId name : String} (config : κ)
    (hid : r.freshId generatedId = true) (hname : Shown name)
    (hfree : foldPresetName name ∉ r.presets.map fun p => foldPresetName p.name) :
    r.step rules (.addPreset generatedId config name) =
      some
        { presets := r.presets ++
            [{ id := generatedId, name, config := rules.sanitize (rules.strip config) }]
          selectedId := generatedId } := by
  have hne : generatedId ≠ "" := (RecordingPresetRegistry.freshId_iff.mp hid).1
  have hnew : newPresetName r.presets "New preset" name = some name := by
    unfold newPresetName
    rw [hname.2, deduplicateName_of_free hfree]
    simp [hname.1]
  have hallowed : r.allowed (.addPreset generatedId config name) = true := hid
  unfold RecordingPresetRegistry.step
  rw [if_pos hallowed]
  simp [RecordingPresetRegistry.apply, RecordingPresetRegistry.addPreset, hnew,
    sanitizePreset_of_shown, hne, hname]

end Exosnap.Models
