/-
  What holds of the registry over any session: the shipped presets are first, ids and names are
  distinct, and the selection is a preset. Every search for a free name ends.
-/
import Exosnap.Models.RecordingPresetRegistry

namespace Exosnap.Models

variable {κ : Type} {rules : ConfigRules κ} {presets : List (RecordingPreset κ)}

/-- What holds of the presets between two calls. -/
structure PresetsInvariant (rules : ConfigRules κ) (presets : List (RecordingPreset κ)) : Prop where
  builtIns : makeBuiltInPresets rules <+: presets
  ids : (presets.map (·.id)).Nodup
  ids_ne : ∀ p ∈ presets, p.id ≠ ""
  names_ne : ∀ p ∈ presets, p.name ≠ ""
  names_trimmed : ∀ p ∈ presets, normalizePresetName p.name = p.name
  names : (presets.map fun p => foldPresetName p.name).Nodup

/-- What holds of the registry between two calls. -/
structure RegistryInvariant (rules : ConfigRules κ) (r : RecordingPresetRegistry κ) : Prop
    extends PresetsInvariant rules r.presets where
  selected : ∃ p ∈ r.presets, p.id = r.selectedId

/-! ## The search for a name -/

theorem nameExists_iff {folded : String} :
    nameExists presets folded = true ↔ folded ∈ presets.map fun p => foldPresetName p.name := by
  unfold nameExists
  rw [List.any_eq_true, List.mem_map]
  exact exists_congr fun p => and_congr_right fun _ => beq_iff_eq

/-- The search for a free name ends. -/
theorem deduplicateName_exists (presets : List (RecordingPreset κ)) (base : String) :
    ∃ name, deduplicateName presets base = some name := by
  unfold deduplicateName
  split_ifs
  · exact ⟨base, rfl⟩
  · have htaken : ∀ suffix, nameExists presets (foldPresetName (numberedName base suffix)) = true →
        foldPresetName (numberedName base suffix) ∈ presets.map fun p => foldPresetName p.name :=
      fun _ => nameExists_iff.mp
    have hlength : (presets.map fun p => foldPresetName p.name).length < presets.length + 1 := by
      rw [List.length_map]
      omega
    obtain ⟨suffix, hsuffix⟩ := FirstFree.firstFree_exists
      (foldPresetName_numberedName_injective base) htaken 2 hlength
    exact ⟨numberedName base suffix, by rw [hsuffix, Option.map_some]⟩

theorem deduplicateName_spec {base name : String} (h : deduplicateName presets base = some name) :
    (name = base ∨ ∃ suffix, name = numberedName base suffix) ∧
      foldPresetName name ∉ presets.map fun p => foldPresetName p.name := by
  unfold deduplicateName at h
  split_ifs at h with hfree
  · obtain rfl := Option.some.inj h
    refine ⟨.inl rfl, fun hmem => ?_⟩
    rw [nameExists_iff.mpr hmem] at hfree
    exact nomatch hfree
  · obtain ⟨suffix, hsuffix, rfl⟩ := Option.map_eq_some_iff.mp h
    refine ⟨.inr ⟨suffix, rfl⟩, fun hmem => ?_⟩
    have hnot := FirstFree.not_taken_of_firstFree hsuffix
    rw [nameExists_iff.mpr hmem] at hnot
    exact nomatch hnot

/-- A name to show: there is something in it, and nothing to trim. -/
def Shown (name : String) : Prop := name ≠ "" ∧ normalizePresetName name = name

theorem shown_deduplicateName {base name : String} (hbase : Shown base)
    (h : deduplicateName presets base = some name) : Shown name := by
  rcases (deduplicateName_spec h).1 with rfl | ⟨suffix, rfl⟩
  · exact hbase
  · exact ⟨numberedName_ne_empty base suffix,
      normalizePresetName_numberedName hbase.2 hbase.1 suffix⟩

/-- The search for the name of a new preset ends with one to show that is free. -/
theorem newPresetName_exists (hnames : ∀ p ∈ presets, Shown p.name) {fallback : String}
    (hfallback : Shown fallback) (name : String) :
    ∃ presetName, newPresetName presets fallback name = some presetName ∧ Shown presetName ∧
      foldPresetName presetName ∉ presets.map fun p => foldPresetName p.name := by
  obtain ⟨deduplicated, hded⟩ := deduplicateName_exists presets (normalizePresetName name)
  unfold newPresetName
  rw [hded, Option.bind_eq_bind, Option.bind_some]
  by_cases hempty : deduplicated = ""
  · obtain ⟨presetName, hpreset⟩ := deduplicateName_exists presets fallback
    rw [if_pos (by simpa using hempty)]
    exact ⟨presetName, hpreset, shown_deduplicateName hfallback hpreset,
      (deduplicateName_spec hpreset).2⟩
  · rw [if_neg (by simpa using hempty)]
    refine ⟨deduplicated, rfl, ?_, (deduplicateName_spec hded).2⟩
    refine shown_deduplicateName ⟨fun hbase => hempty ?_,
      normalizePresetName_normalizePresetName name⟩ hded
    -- the empty name is free, as no preset folds to it
    rw [hbase] at hded
    have hfree : nameExists presets (foldPresetName "") = false := by
      rw [Bool.eq_false_iff, Ne, nameExists_iff]
      intro hmem
      obtain ⟨p, hp, hfold⟩ := List.mem_map.mp hmem
      have hname := hnames p hp
      have hnothing : foldPresetName "" = "" := by decide +kernel
      rw [hnothing, foldPresetName_eq_empty, hname.2] at hfold
      exact hname.1 hfold
    unfold deduplicateName at hded
    rw [hfree] at hded
    exact (Option.some.inj hded).symm

/-! ## What keeps the invariant -/

theorem PresetsInvariant.shown (h : PresetsInvariant rules presets) :
    ∀ p ∈ presets, Shown p.name :=
  fun p hp => ⟨h.names_ne p hp, h.names_trimmed p hp⟩

theorem presetsInvariant_builtIns (rules : ConfigRules κ) :
    PresetsInvariant rules (makeBuiltInPresets rules) where
  builtIns := List.prefix_rfl
  ids := by
    show [kDefaultPresetId, kQualityPresetId, kCompactPresetId, kPerformancePresetId,
      kCompatibilityPresetId].Nodup
    decide
  ids_ne := by simp [makeBuiltInPresets, kDefaultPresetId, kQualityPresetId, kCompactPresetId,
    kPerformancePresetId, kCompatibilityPresetId]
  names_ne := by simp [makeBuiltInPresets]
  names_trimmed := by
    simp only [makeBuiltInPresets, List.forall_mem_cons, List.not_mem_nil, false_imp_iff,
      implies_true, and_true]
    decide
  names := by
    show (["Default", "Quality", "Compact", "Performance", "Compatibility"].map
      foldPresetName).Nodup
    decide +kernel

theorem nodup_snoc {α : Type} {l : List α} {a : α} (h : l.Nodup) (ha : a ∉ l) : (l ++ [a]).Nodup := by
  refine List.nodup_append.mpr ⟨h, List.nodup_singleton a, fun b hb c hc => ?_⟩
  rintro rfl
  exact ha (List.mem_singleton.mp hc ▸ hb)

theorem PresetsInvariant.snoc (h : PresetsInvariant rules presets) {p : RecordingPreset κ}
    (hid : p.id ∉ presets.map (·.id)) (hne : p.id ≠ "") (hname : Shown p.name)
    (hfold : foldPresetName p.name ∉ presets.map fun p => foldPresetName p.name) :
    PresetsInvariant rules (presets ++ [p]) where
  builtIns := h.builtIns.trans (List.prefix_append _ _)
  ids := by
    rw [List.map_append]
    exact nodup_snoc h.ids hid
  ids_ne := by
    intro q hq
    rcases List.mem_append.mp hq with hq | hq
    · exact h.ids_ne q hq
    · exact List.mem_singleton.mp hq ▸ hne
  names_ne := by
    intro q hq
    rcases List.mem_append.mp hq with hq | hq
    · exact h.names_ne q hq
    · exact List.mem_singleton.mp hq ▸ hname.1
  names_trimmed := by
    intro q hq
    rcases List.mem_append.mp hq with hq | hq
    · exact h.names_trimmed q hq
    · exact List.mem_singleton.mp hq ▸ hname.2
  names := by
    rw [List.map_append]
    exact nodup_snoc h.names hfold

/-- A name to show and an id that is there pass through the sanitizer. -/
theorem sanitizePreset_of_shown {generatedId : String} {p : RecordingPreset κ} (hid : p.id ≠ "")
    (hname : Shown p.name) :
    sanitizePreset rules generatedId p = { p with config := rules.sanitize p.config } := by
  unfold sanitizePreset
  have htrim : trimWhitespace p.name = p.name := hname.2
  simp [htrim, hid, hname.1]

theorem name_sanitizePreset {generatedId : String} {p : RecordingPreset κ} (hname : Shown p.name) :
    (sanitizePreset rules generatedId p).name = p.name := by
  unfold sanitizePreset
  have htrim : trimWhitespace p.name = p.name := hname.2
  simp [htrim, hname.1]

theorem id_sanitizePreset {generatedId : String} {p : RecordingPreset κ} :
    (sanitizePreset rules generatedId p).id = if p.id.isEmpty then generatedId else p.id := rfl

theorem shown_sanitizePreset {generatedId : String} {p : RecordingPreset κ} :
    Shown (sanitizePreset rules generatedId p).name := by
  unfold sanitizePreset
  dsimp only
  split_ifs with h
  · exact ⟨by decide, by decide⟩
  · exact ⟨by simpa using h, normalizePresetName_normalizePresetName p.name⟩

/-! ## Loading -/

/-- The presets of a snapshot are taken in one after another. -/
theorem loadPresets_invariant {seenIds : List String} (h : PresetsInvariant rules presets)
    (hseen : ∀ id ∈ presets.map (·.id), id ∈ seenIds) (incoming : List (RecordingPreset κ)) :
    ∃ loaded, loadPresets rules seenIds presets incoming = some loaded ∧
      PresetsInvariant rules loaded := by
  induction incoming generalizing seenIds presets with
  | nil => exact ⟨presets, rfl, h⟩
  | cons p rest ih =>
    unfold loadPresets
    split_ifs with hempty hknown
    · exact ih h hseen
    · exact ih h hseen
    · obtain ⟨name, hname⟩ := deduplicateName_exists presets (sanitizePreset rules "" p).name
      have hid : (sanitizePreset rules "" p).id = p.id := by
        unfold sanitizePreset
        rw [if_neg hempty]
      have hnew : p.id ∉ presets.map (·.id) := fun hmem =>
        hknown (List.contains_iff_mem.mpr (hseen _ hmem))
      have hsnoc := h.snoc (p := { sanitizePreset rules "" p with name }) (hid ▸ hnew)
        (by rw [hid]; simpa using hempty) (shown_deduplicateName shown_sanitizePreset hname)
        (deduplicateName_spec hname).2
      have hseen' : ∀ id ∈ List.map (fun q : RecordingPreset κ => q.id)
          (presets ++ [{ sanitizePreset rules "" p with name }]), id ∈ p.id :: seenIds := by
        intro id hmem
        rw [List.map_append, List.mem_append] at hmem
        rcases hmem with hmem | hmem
        · exact List.mem_cons_of_mem _ (hseen id hmem)
        · rw [List.map_singleton, List.mem_singleton] at hmem
          rw [hmem, hid]
          exact List.mem_cons_self
      obtain ⟨loaded, hloaded, hinv⟩ := ih hsnoc hseen'
      exact ⟨loaded, by simpa [hname] using hloaded, hinv⟩

theorem mem_of_indexById {id : String} (h : (indexById presets id).isSome = true) :
    ∃ p ∈ presets, p.id = id := by
  unfold indexById at h
  rw [List.findIdx?_isSome, List.any_eq_true] at h
  obtain ⟨p, hp, hid⟩ := h
  exact ⟨p, hp, by simpa using hid⟩

/-- The default preset is shipped, and so it is there. -/
theorem PresetsInvariant.default_mem (h : PresetsInvariant rules presets) :
    ∃ p ∈ presets, p.id = kDefaultPresetId :=
  ⟨{ id := kDefaultPresetId, name := "Default", config := rules.default },
    h.builtIns.subset List.mem_cons_self, rfl⟩

theorem loadState_invariant (rules : ConfigRules κ) (incoming : List (RecordingPreset κ))
    (selectedId : String) :
    ∃ r, RecordingPresetRegistry.loadState rules incoming selectedId = some r ∧
      RegistryInvariant rules r := by
  obtain ⟨loaded, hloaded, hinv⟩ := loadPresets_invariant (presetsInvariant_builtIns rules)
    (fun _ hid => hid) incoming
  refine ⟨_, by simp [RecordingPresetRegistry.loadState, hloaded]; rfl, hinv, ?_⟩
  dsimp only
  split_ifs with hselected
  · exact mem_of_indexById hselected
  · exact hinv.default_mem

/-! ## Renaming and deleting -/

/-- With distinct ids, changing the preset at the index of an id changes the one with that id. -/
theorem modify_eq_map {id : String} {idx : Nat} (hids : (presets.map (·.id)).Nodup)
    (hidx : indexById presets id = some idx) (f : RecordingPreset κ → RecordingPreset κ) :
    presets.modify idx f = presets.map fun p => if p.id = id then f p else p := by
  unfold indexById at hidx
  induction presets generalizing idx with
  | nil => exact nomatch hidx
  | cons p rest ih =>
    obtain ⟨hp, hrest⟩ := List.nodup_cons.mp hids
    rw [List.findIdx?_cons] at hidx
    by_cases hid : p.id = id
    · have hothers : ∀ q ∈ rest, (if q.id = id then f q else q) = q := fun q hq =>
        if_neg fun hq' => hp (List.mem_map.mpr ⟨q, hq, hq'.trans hid.symm⟩)
      obtain rfl : 0 = idx := by simpa [hid] using hidx
      rw [List.modify_zero_cons, List.map_cons, if_pos hid,
        (List.map_congr_left hothers).trans (List.map_id' rest)]
    · rw [if_neg (by simpa using hid)] at hidx
      obtain ⟨k, hk, rfl⟩ := Option.map_eq_some_iff.mp hidx
      rw [List.modify_succ_cons, List.map_cons, if_neg hid, ih hrest hk]

/-- With distinct ids, erasing at the index of an id leaves the presets with other ids. -/
theorem eraseIdx_eq_filter {id : String} {idx : Nat} (hids : (presets.map (·.id)).Nodup)
    (hidx : indexById presets id = some idx) :
    presets.eraseIdx idx = presets.filter (·.id != id) := by
  unfold indexById at hidx
  induction presets generalizing idx with
  | nil => exact nomatch hidx
  | cons p rest ih =>
    obtain ⟨hp, hrest⟩ := List.nodup_cons.mp hids
    rw [List.findIdx?_cons] at hidx
    by_cases hid : p.id = id
    · have hothers : ∀ q ∈ rest, (q.id != id) = true := fun q hq =>
        bne_iff_ne.mpr fun hq' => hp (List.mem_map.mpr ⟨q, hq, hq'.trans hid.symm⟩)
      obtain rfl : 0 = idx := by simpa [hid] using hidx
      rw [List.eraseIdx_cons_zero, List.filter_cons_of_neg (by simpa using hid),
        List.filter_eq_self.mpr hothers]
    · rw [if_neg (by simpa using hid)] at hidx
      obtain ⟨k, hk, rfl⟩ := Option.map_eq_some_iff.mp hidx
      rw [List.eraseIdx_cons_succ, List.filter_cons_of_pos (by simpa using hid), ih hrest hk]

theorem isBuiltIn_of_mem {p : RecordingPreset κ} (h : p ∈ makeBuiltInPresets rules) :
    isBuiltInPresetId p.id = true := by
  simp only [makeBuiltInPresets, List.mem_cons, List.not_mem_nil, or_false] at h
  rcases h with rfl | rfl | rfl | rfl | rfl <;> rfl

theorem isNameTaken_false {name excludeId : String}
    (h : isNameTaken presets name excludeId = false) :
    ∀ p ∈ presets, p.id ≠ excludeId → foldPresetName p.name ≠ foldPresetName name := by
  intro p hp hid hfold
  unfold isNameTaken at h
  refine Bool.eq_false_iff.mp h (List.any_eq_true.mpr ⟨p, hp, ?_⟩)
  simp [hid, hfold]

theorem RegistryInvariant.rename {r : RecordingPresetRegistry κ} (h : RegistryInvariant rules r)
    {name : String} (hname : Shown name) (huser : isBuiltInPresetId r.selectedId = false)
    (hfree : isNameTaken r.presets name r.selectedId = false) :
    RegistryInvariant rules
      { r with
        presets := r.presets.map fun p => if p.id = r.selectedId then { p with name } else p } := by
  have hid : ∀ p : RecordingPreset κ, (if p.id = r.selectedId then { p with name } else p).id = p.id := by
    intro p
    split_ifs <;> rfl
  have hids : (r.presets.map fun p => if p.id = r.selectedId then { p with name } else p).map (·.id) =
      r.presets.map (·.id) := by
    rw [List.map_map]
    exact List.map_congr_left fun p _ => hid p
  obtain ⟨selected, hselected, hsel⟩ := h.selected
  have hfresh := isNameTaken_false hfree
  refine ⟨⟨?_, hids ▸ h.ids, ?_, ?_, ?_, ?_⟩, ?_⟩
  · obtain ⟨rest, hrest⟩ := h.builtIns
    rw [← hrest, List.map_append]
    have hkept : (makeBuiltInPresets rules).map
        (fun p => if p.id = r.selectedId then { p with name } else p) = makeBuiltInPresets rules := by
      refine (List.map_congr_left fun p hp => if_neg fun hp' => ?_).trans (List.map_id' _)
      rw [← hp', isBuiltIn_of_mem hp] at huser
      exact nomatch huser
    rw [hkept]
    exact List.prefix_append _ _
  · intro q hq
    obtain ⟨p, hp, rfl⟩ := List.mem_map.mp hq
    rw [hid p]
    exact h.ids_ne p hp
  · intro q hq
    obtain ⟨p, hp, rfl⟩ := List.mem_map.mp hq
    split_ifs
    · exact hname.1
    · exact h.names_ne p hp
  · intro q hq
    obtain ⟨p, hp, rfl⟩ := List.mem_map.mp hq
    split_ifs
    · exact hname.2
    · exact h.names_trimmed p hp
  · rw [List.map_map]
    refine List.Nodup.map_on (fun p hp q hq hpq => ?_) h.ids.of_map
    simp only [Function.comp_apply] at hpq
    split_ifs at hpq with hps hqs hqs
    · exact List.inj_on_of_nodup_map h.ids hp hq (hps.trans hqs.symm)
    · exact absurd hpq.symm (hfresh q hq hqs)
    · exact absurd hpq (hfresh p hp hps)
    · exact List.inj_on_of_nodup_map h.names hp hq hpq
  · exact ⟨_, List.mem_map_of_mem hselected, (hid selected).trans hsel⟩

theorem PresetsInvariant.delete (h : PresetsInvariant rules presets) {id : String}
    (huser : isBuiltInPresetId id = false) :
    PresetsInvariant rules (presets.filter (·.id != id)) where
  builtIns := by
    obtain ⟨rest, hrest⟩ := h.builtIns
    rw [← hrest, List.filter_append, List.filter_eq_self.mpr]
    · exact List.prefix_append _ _
    · intro p hp
      refine bne_iff_ne.mpr fun hp' => ?_
      rw [← hp', isBuiltIn_of_mem hp] at huser
      exact nomatch huser
  ids := h.ids.sublist (List.filter_sublist.map _)
  ids_ne := fun p hp => h.ids_ne p (List.mem_filter.mp hp).1
  names_ne := fun p hp => h.names_ne p (List.mem_filter.mp hp).1
  names_trimmed := fun p hp => h.names_trimmed p (List.mem_filter.mp hp).1
  names := h.names.sublist (List.filter_sublist.map _)

/-! ## A session -/

namespace RecordingPresetRegistry

variable {r : RecordingPresetRegistry κ}

theorem freshId_iff {id : String} :
    r.freshId id = true ↔ id ≠ "" ∧ id ∉ r.presets.map (·.id) := by
  simp [freshId]

/-- A preset that is appended by either call: shown, under a name and an id of its own. -/
theorem appended_invariant (h : RegistryInvariant rules r) {p : RecordingPreset κ}
    {selectedId : String} (hid : r.freshId p.id = true) (hname : Shown p.name)
    (hfold : foldPresetName p.name ∉ r.presets.map fun p => foldPresetName p.name)
    (hselected : selectedId = p.id ∨ selectedId = r.selectedId) :
    RegistryInvariant rules { presets := r.presets ++ [p], selectedId } := by
  obtain ⟨hne, hnew⟩ := freshId_iff.mp hid
  refine ⟨h.toPresetsInvariant.snoc hnew hne hname hfold, ?_⟩
  rcases hselected with rfl | rfl
  · exact ⟨p, List.mem_append_right _ (List.mem_singleton_self p), rfl⟩
  · obtain ⟨q, hq, hsel⟩ := h.selected
    exact ⟨q, List.mem_append_left _ hq, hsel⟩

theorem addPreset_invariant (h : RegistryInvariant rules r) {generatedId : String}
    (hid : r.freshId generatedId = true) (config : κ) (name : String) :
    ∃ result, r.addPreset rules generatedId config name = some result ∧
      RegistryInvariant rules result.2 := by
  have hfallback : Shown "New preset" := ⟨by decide, by decide⟩
  obtain ⟨presetName, hpreset, hshown, hfold⟩ :=
    newPresetName_exists h.toPresetsInvariant.shown hfallback name
  unfold addPreset
  rw [hpreset]
  refine ⟨_, rfl, ?_⟩
  rw [sanitizePreset_of_shown (freshId_iff.mp hid).1 hshown]
  exact appended_invariant h hid hshown hfold (.inl rfl)

theorem importPreset_invariant (h : RegistryInvariant rules r) {generatedId : String}
    {preset : RecordingPreset κ}
    (hid : (if preset.id.isEmpty then r.freshId generatedId else r.freshId preset.id) = true) :
    ∃ result, r.importPreset rules generatedId preset = some result ∧
      RegistryInvariant rules result := by
  have hfallback : Shown "Imported preset" := ⟨by decide, by decide⟩
  obtain ⟨presetName, hpreset, hshown, hfold⟩ :=
    newPresetName_exists h.toPresetsInvariant.shown hfallback preset.name
  unfold importPreset
  rw [hpreset]
  refine ⟨_, rfl, ?_⟩
  refine appended_invariant h ?_ ?_ ?_ (.inr rfl)
  · rw [id_sanitizePreset]
    split_ifs at hid ⊢ <;> exact hid
  · rw [name_sanitizePreset hshown]
    exact hshown
  · rw [name_sanitizePreset hshown]
    exact hfold

theorem renameSelected_invariant (h : RegistryInvariant rules r) (newName : String) :
    RegistryInvariant rules (r.renameSelected newName).2 := by
  unfold renameSelected
  cases huser : isBuiltInPresetId r.selectedId with
  | true => exact h
  | false =>
    simp only [Bool.false_eq_true, if_false]
    split_ifs with hempty htaken
    · exact h
    · exact h
    · cases hidx : indexById r.presets r.selectedId with
      | none => exact h
      | some idx =>
        simp only [modify_eq_map h.ids hidx]
        exact h.rename ⟨by simpa using hempty, normalizePresetName_normalizePresetName newName⟩ huser
          (by simpa using htaken)

theorem deleteSelected_invariant (h : RegistryInvariant rules r) :
    RegistryInvariant rules r.deleteSelected.2 := by
  unfold deleteSelected
  cases huser : isBuiltInPresetId r.selectedId with
  | true => exact h
  | false =>
    simp only [Bool.false_eq_true, if_false]
    cases hidx : indexById r.presets r.selectedId with
    | none => exact h
    | some idx =>
      simp only [eraseIdx_eq_filter h.ids hidx]
      have hdelete := h.toPresetsInvariant.delete huser
      exact ⟨hdelete, hdelete.default_mem⟩

theorem setSelected_invariant (h : RegistryInvariant rules r) (id : String) :
    RegistryInvariant rules (r.setSelected id).2 := by
  unfold setSelected
  split_ifs with hnone
  · exact h
  · refine ⟨h.toPresetsInvariant, mem_of_indexById ?_⟩
    rw [← Option.not_isNone, Bool.eq_false_iff.mpr hnone]
    rfl

/-- Every call ends, and keeps the invariant. -/
theorem apply_invariant (h : RegistryInvariant rules r) {call : RegistryCall κ}
    (hallowed : r.allowed call = true) :
    ∃ r', r.apply rules call = some r' ∧ RegistryInvariant rules r' := by
  cases call with
  | loadState presets selectedId => exact loadState_invariant rules presets selectedId
  | setSelected id => exact ⟨_, rfl, setSelected_invariant h id⟩
  | addPreset generatedId config name =>
    obtain ⟨result, hresult, hinv⟩ := addPreset_invariant h hallowed config name
    exact ⟨result.2, by simp only [apply, hresult, Option.map_some], hinv⟩
  | importPreset generatedId preset => exact importPreset_invariant h hallowed
  | renameSelected newName => exact ⟨_, rfl, renameSelected_invariant h newName⟩
  | deleteSelected => exact ⟨_, rfl, deleteSelected_invariant h⟩

theorem initial_invariant (rules : ConfigRules κ) : RegistryInvariant rules (initial rules) :=
  ⟨presetsInvariant_builtIns rules, (presetsInvariant_builtIns rules).default_mem⟩

theorem step_invariant {call : RegistryCall κ} {r' : RecordingPresetRegistry κ}
    (h : RegistryInvariant rules r) (hs : r.step rules call = some r') :
    RegistryInvariant rules r' := by
  unfold step at hs
  split_ifs at hs with hallowed
  obtain ⟨next, hnext, hinv⟩ := apply_invariant h hallowed
  obtain rfl := Option.some.inj (hnext.symm.trans hs)
  exact hinv

/-- After any session the shipped presets are first and as they were, ids and folded names are
    distinct, no name is empty, and the selection is a preset; and every search for a free name and
    every further call ends. -/
theorem registry_sessions (rules : ConfigRules κ) (calls : List (RegistryCall κ))
    {r : RecordingPresetRegistry κ}
    (hrun : StepRun.exec (step rules) (initial rules) calls = some r) :
    RegistryInvariant rules r ∧
      (∀ base, (deduplicateName r.presets base).isSome = true) ∧
      ∀ call, r.allowed call = true → (r.apply rules call).isSome = true := by
  have hinv : RegistryInvariant rules r :=
    StepRun.exec_invariant_all (fun _ _ _ hI hs => step_invariant hI hs) (initial_invariant rules) hrun
  refine ⟨hinv, fun base => ?_, fun call hallowed => ?_⟩
  · obtain ⟨name, hname⟩ := deduplicateName_exists r.presets base
    rw [hname]
    rfl
  · obtain ⟨next, hnext, -⟩ := apply_invariant hinv hallowed
    rw [hnext]
    rfl

/-- Configurations that are just numbers, stripped to 0 and capped at 9. -/
def countedRules : ConfigRules Nat where
  strip := fun _ => 0
  sanitize := min 9
  default := 1
  quality := 2
  compact := 3
  performance := 4
  compatibility := 5

/-- A preset under the name of a shipped one, imported and then selected. -/
def importedDefault : List (RegistryCall Nat) :=
  [.importPreset "" { id := "preset.a1", name := " default", config := 12 },
    .setSelected "preset.a1"]

theorem newPresetName_default :
    newPresetName (makeBuiltInPresets countedRules) "Imported preset" " default" =
      some "default (2)" := by
  have hnormal : normalizePresetName " default" = "default" := by decide
  have hfold : foldPresetName "default" = "default" := by decide +kernel
  have htaken : nameExists (makeBuiltInPresets countedRules) "default" = true := by decide +kernel
  have hnumbered : numberedName "default" 2 = "default (2)" := by decide
  have hfree : nameExists (makeBuiltInPresets countedRules) (foldPresetName "default (2)") =
      false := by decide +kernel
  have hdedup : deduplicateName (makeBuiltInPresets countedRules) "default" =
      some "default (2)" := by
    unfold deduplicateName
    rw [hfold, htaken, ← hnumbered]
    unfold FirstFree.firstFree
    rw [hnumbered, hfree]
    rfl
  unfold newPresetName
  rw [hnormal, hdedup]
  rfl

theorem registry_sessions_importedDefault :
    ∃ r : RecordingPresetRegistry Nat,
      StepRun.exec (step countedRules) (initial countedRules) importedDefault = some r ∧
        r.presets.map (·.name) =
          ["Default", "Quality", "Compact", "Performance", "Compatibility", "default (2)"] ∧
        RegistryInvariant countedRules r := by
  have himport : step countedRules (initial countedRules)
      (.importPreset "" { id := "preset.a1", name := " default", config := 12 }) =
        some { initial countedRules with
          presets := (initial countedRules).presets ++
            [sanitizePreset countedRules ""
              { id := "preset.a1", name := "default (2)", config := 0 }] } := by
    unfold step
    rw [if_pos (by decide)]
    unfold apply importPreset initial
    dsimp only
    rw [newPresetName_default]
    rfl
  have hrun : (StepRun.exec (step countedRules) (initial countedRules) importedDefault).map
      (fun r => r.presets.map (·.name)) =
        some ["Default", "Quality", "Compact", "Performance", "Compatibility", "default (2)"] := by
    unfold importedDefault
    rw [StepRun.exec_cons, himport]
    decide
  obtain ⟨r, hr, hnames⟩ := Option.map_eq_some_iff.mp hrun
  exact ⟨r, hr, hnames, (registry_sessions countedRules importedDefault hr).1⟩

end RecordingPresetRegistry

end Exosnap.Models
