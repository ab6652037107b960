/-
  The capability set of an adapter against its probe: which combinations it holds selectable
  although the probe denied the codec, or 4:4:4 with it.

  The overrides that are erased are those of a codec that is not selectable; one of a 4:4:4
  combination stays where the codec is, whatever the probe said of 4:4:4.
-/
import Exosnap.Capability.EncoderDeviceResolver

namespace Exosnap.Capability

/-- No selectable combination uses a codec that the probe denied, or 4:4:4 with a codec that it
    denied 4:4:4. -/
def ProbeRespected (base : CapabilitySet) (adapter : AdapterInfo)
    (capability : AdapterEncoderCapability) : Prop :=
  ∀ c v a cs bd,
    ((capabilitySetForAdapter base adapter capability).queryCombo c v a cs bd).isSelectable = true →
    capability.facts.encodes v = true ∧ (cs = .cs444 → capability.facts.encodes444 v = true)

/-- A selectable override of a 4:4:4 combination, with a codec that is selectable and that the probe
    grants, but not in 4:4:4. -/
def PinnedDenied444 (base : CapabilitySet) (capability : AdapterEncoderCapability) : Prop :=
  ∃ key note, base.comboOverrides key = some note ∧ note.isSelectable = true ∧
    key.cs = .cs444 ∧ (base.queryVideoCodec key.v).isSelectable = true ∧
    capability.facts.encodes key.v = true ∧ capability.facts.encodes444 key.v = false

section
variable {caps base : CapabilitySet} {c : Container} {v : VideoCodec} {a : AudioCodec}
  {cs : ChromaSubsampling} {bd : BitDepth}

theorem queryCombo_of_override {note : SupportAnnotation}
    (h : caps.comboOverrides ⟨c, v, a, cs, bd⟩ = some note) :
    caps.queryCombo c v a cs bd = note := by
  unfold CapabilitySet.queryCombo
  rw [h]

theorem queryVideoCodec_isSelectable :
    (caps.queryVideoCodec v).isSelectable = true ↔ Selects caps.videoCodecs v :=
  lookupAnnotation_isSelectable

theorem queryChroma444_isSelectable :
    (caps.queryChroma444 v).isSelectable = true ↔ Selects caps.chroma444 v :=
  lookupAnnotation_isSelectable

/-- The purge adds no override. -/
theorem eraseOverrides_some {key : ComboKey} {note : SupportAnnotation}
    (h : (eraseOverrides caps).comboOverrides key = some note) :
    caps.comboOverrides key = some note := by
  unfold eraseOverrides at h
  dsimp only at h
  split at h
  · exact h
  · exact nomatch h

/-- After the purge, what is selectable has a selectable video codec. -/
theorem eraseOverrides_videoCodec
    (h : ((eraseOverrides caps).queryCombo c v a cs bd).isSelectable = true) :
    Selects caps.videoCodecs v := by
  rw [← queryVideoCodec_isSelectable]
  by_contra hvideo
  have hnone : (eraseOverrides caps).comboOverrides ⟨c, v, a, cs, bd⟩ = none := if_neg hvideo
  exact hvideo ((CapabilitySet.queryCombo_isSelectable _ hnone).mp h).2.2.1

/-- After the purge, what is selectable in 4:4:4 has it from its codec or from an override. -/
theorem eraseOverrides_chroma444
    (h : ((eraseOverrides caps).queryCombo c v a .cs444 bd).isSelectable = true) :
    Selects caps.chroma444 v ∨
      ∃ note, caps.comboOverrides ⟨c, v, a, .cs444, bd⟩ = some note ∧
        note.isSelectable = true := by
  cases hoverride : (eraseOverrides caps).comboOverrides ⟨c, v, a, .cs444, bd⟩ with
  | none =>
    left
    rw [← queryChroma444_isSelectable]
    exact ((CapabilitySet.queryCombo_isSelectable _ hoverride).mp h).2.2.2.2.2.2 rfl
  | some note =>
    right
    rw [queryCombo_of_override hoverride] at h
    exact ⟨note, eraseOverrides_some hoverride, h⟩

/-- The purge leaves a selectable override of a selectable codec. -/
theorem eraseOverrides_pinned {key : ComboKey} {note : SupportAnnotation}
    (hvideo : Selects caps.videoCodecs key.v) (hoverride : caps.comboOverrides key = some note)
    (hselectable : note.isSelectable = true) :
    ((eraseOverrides caps).queryCombo key.c key.v key.a key.cs key.bd).isSelectable = true := by
  have hkept : (eraseOverrides caps).comboOverrides key = some note := by
    unfold eraseOverrides
    dsimp only
    rw [if_pos (queryVideoCodec_isSelectable.mpr hvideo), hoverride]
  rw [queryCombo_of_override hkept]
  exact hselectable

/-- Overrides that are not selectable stay so. -/
theorem capabilitySetForAdapter_noSelectableOverride (h : base.NoSelectableOverride)
    (adapter : AdapterInfo) (capability : AdapterEncoderCapability) :
    (capabilitySetForAdapter base adapter capability).NoSelectableOverride := by
  intro key note hkey
  refine h key note ?_
  have hbefore := eraseOverrides_some hkey
  split at hbefore
  · exact hbefore
  · simpa using hbefore

/-- Whatever is selectable on an adapter is of NVIDIA's. -/
theorem capabilitySetForAdapter_nvidia {adapter : AdapterInfo}
    {capability : AdapterEncoderCapability}
    (h : ((capabilitySetForAdapter base adapter capability).queryCombo c v a cs bd).isSelectable = true) :
    adapter.vendor = .nvidia := by
  by_contra hvendor
  unfold capabilitySetForAdapter at h
  rw [if_pos hvendor] at h
  obtain ⟨note, hnote, hselectable⟩ := eraseOverrides_videoCodec h
  obtain rfl := Option.some.inj hnote
  exact nomatch hselectable

/-! ## The probe -/

/-- The probe is respected, unless an override pins 4:4:4 with a codec that has none. -/
theorem probe_respected_iff (base : CapabilitySet) (adapter : AdapterInfo)
    (capability : AdapterEncoderCapability) (hprobed : capability.probed = true) :
    ProbeRespected base adapter capability ↔
      ¬ (adapter.vendor = .nvidia ∧ PinnedDenied444 base capability) := by
  have hfacts : capability.facts.nvencCodecProbed = true := hprobed
  have hvideo : ∀ {v}, Selects (applyNvencYuv444Support (applyNvencCodecSupport base capability.facts)
      capability.facts).videoCodecs v ↔
      (base.queryVideoCodec v).isSelectable = true ∧ capability.facts.encodes v = true := by
    intro v
    rw [applyNvencYuv444Support_videoCodecs, selects_applyNvencCodecSupport hfacts]
    exact and_congr_left fun _ => queryVideoCodec_isSelectable.symm
  constructor
  · rintro h ⟨hvendor, key, note, hoverride, hselectable, hcs, hcodec, hencodes, hdenied⟩
    have hkept : ((capabilitySetForAdapter base adapter capability).queryCombo
        key.c key.v key.a key.cs key.bd).isSelectable = true := by
      unfold capabilitySetForAdapter
      rw [if_neg (not_not.mpr hvendor)]
      exact eraseOverrides_pinned (hvideo.mpr ⟨hcodec, hencodes⟩) (by simpa using hoverride) hselectable
    have hgranted := (h _ _ _ _ _ hkept).2 hcs
    rw [hdenied] at hgranted
    exact nomatch hgranted
  · intro hpinned c v a cs bd h
    have hvendor := capabilitySetForAdapter_nvidia h
    unfold capabilitySetForAdapter at h
    rw [if_neg (not_not.mpr hvendor)] at h
    obtain ⟨hcodec, hencodes⟩ := hvideo.mp (eraseOverrides_videoCodec h)
    refine ⟨hencodes, ?_⟩
    rintro rfl
    rcases eraseOverrides_chroma444 h with h444 | ⟨note, hoverride, hselectable⟩
    · exact ((selects_applyNvencYuv444Support hfacts).mp h444).2
    · by_contra hdenied
      refine hpinned ⟨hvendor, ⟨c, v, a, .cs444, bd⟩, note, by simpa using hoverride, hselectable,
        rfl, hcodec, hencodes, by simpa using hdenied⟩

end

/-- HEVC in 4:4:4, pinned for another adapter. -/
def pinned444 : CapabilitySet :=
  { buildStaticValidatedBaseline with
    comboOverrides := assign (fun _ => none) ⟨.matroska, .hevc, .opus, .cs444, .bit8⟩
      ⟨.available, "Validated on the capture adapter."⟩ }

/-- A probe that grants every codec, and 4:4:4 with none. -/
def no444 : AdapterEncoderCapability where
  probed := true
  provenance := "probed via NVENC encode GUIDs"
  h264 := true
  hevc := true
  av1 := true

theorem probe_respected_iff_baseline :
    ProbeRespected buildStaticValidatedBaseline { vendor := .nvidia, vendorId := 0x10DE } no444 :=
  (probe_respected_iff buildStaticValidatedBaseline { vendor := .nvidia, vendorId := 0x10DE } no444
    rfl).mpr fun h => by
      obtain ⟨_, key, note, hoverride, _⟩ := h
      exact nomatch hoverride

/-- The override of another adapter is kept against the probe of this one. -/
theorem denied444_resurrected :
    no444.probed = true ∧
      ¬ ProbeRespected pinned444 { vendor := .nvidia, vendorId := 0x10DE } no444 := by
  refine ⟨rfl, fun h => ?_⟩
  have hdenied := (h .matroska .hevc .opus .cs444 .bit8 (by decide)).2 rfl
  exact nomatch hdenied

end Exosnap.Capability
