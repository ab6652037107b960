/-
  Where capability sets are made (`capability_builder.cpp`): the static baseline, the effective set
  of a machine, and the downgrades that a probe of an NVENC session brings.

  The probe's facts about B-frames, lookahead and temporal AQ, and the HDR10 annotations, do not
  bear on combinations and are left out.
-/
import Exosnap.Capability.CapabilitySet

namespace Exosnap.Capability

/-! ## The static baseline -/

def buildStaticValidatedBaseline : CapabilitySet where
  containers
    | .matroska => some ⟨.available, "Primary validated container."⟩
    | .mp4 => some ⟨.available, "Validated MP4 H.264+AAC path."⟩
    | .webM => some ⟨.available, "Primary validated WebM container."⟩
  videoCodecs
    | .av1 => some ⟨.available, "Validated NVENC AV1 path."⟩
    | .hevc => some ⟨.validUnvalidated,
        "HEVC NVENC + Matroska V_MPEGH/ISO/HEVC implemented in 0.7.0; " ++
          "not yet validated on recording hardware."⟩
    | .h264 => some ⟨.available, "Validated NVENC H.264 path."⟩
  audioCodecs
    | .opus => some ⟨.available, "Opus encoder implemented via libopus (static); M4 Phase 3."⟩
    | .aac => some ⟨.available,
        "AAC-LC via FFmpeg's bundled native encoder (LGPL); always available."⟩
    | .pcm => some ⟨.available,
        "Uncompressed S16LE PCM (A_PCM/INT/LIT); Matroska-only (0.6.0 Audio v2)."⟩
    | .flac => some ⟨.available,
        "Lossless FLAC (A_FLAC) via libFLAC; Matroska-only (0.6.0 Audio v2)."⟩
  chromaModes
    | .cs420 => some ⟨.available, "Validated chroma mode."⟩
    | .cs422 => some ⟨.notImplemented, "4:2:2 path is not implemented."⟩
    | .cs444 => some ⟨.validUnvalidated,
        "4:4:4 (8-bit H.264/HEVC) implemented; not yet validated on recording hardware."⟩
  chroma444
    | .h264 => some ⟨.validUnvalidated,
        "H.264 High 4:4:4 Predictive (8-bit); not yet validated on recording hardware."⟩
    | .hevc => some ⟨.validUnvalidated,
        "HEVC Range Extensions 4:4:4 (8-bit); not yet validated on recording hardware."⟩
    | .av1 => some ⟨.notImplemented, "AV1 NVENC is 4:2:0 only; use H.264 or HEVC for 4:4:4."⟩
  bitDepths
    | .bit8 => some ⟨.available, "Validated bit depth."⟩
    | .bit10 => some ⟨.validUnvalidated,
        "10-bit HEVC/AV1 via NVENC Main10/P010 implemented in 0.7.0 " ++
          "(SDR BT.709); not yet validated on recording hardware. " ++
          "Requires HEVC or AV1; H.264 is 8-bit only."⟩
  resolutionConstraint := { maxWidth := 0, maxHeight := 0, mustBeEven := true }

/-! ## Downgrades by a probe -/

/-- The facts about NVENC that decide combinations. -/
structure NvidiaRuntimeFacts where
  nvencDllPresent : Bool := false
  nvencApiVersionValid : Bool := false
  nvencCodecProbed : Bool := false
  nvencAv1 : Bool := false
  nvencHevc : Bool := false
  nvencH264 : Bool := false
  nvencYuv444H264 : Bool := false
  nvencYuv444Hevc : Bool := false
  deriving DecidableEq, Repr

/-- An annotation that is not selectable already is kept. -/
def downgradeIfUnsupported (map : VideoCodec → Option SupportAnnotation) (codec : VideoCodec)
    (supported : Bool) (reason : String) : VideoCodec → Option SupportAnnotation :=
  if supported then map
  else match map codec with
    | none => assign map codec ⟨.notImplemented, reason⟩
    | some note =>
        if note.isSelectable then assign map codec ⟨.notImplemented, reason⟩ else map

def applyNvencCodecSupport (caps : CapabilitySet) (facts : NvidiaRuntimeFacts) : CapabilitySet :=
  if !facts.nvencCodecProbed then caps
  else
    let map := downgradeIfUnsupported caps.videoCodecs .av1 facts.nvencAv1
      ("This GPU does not support AV1 NVENC encoding " ++
        "(NVIDIA Ada Lovelace / RTX 40 series or newer is required).")
    let map := downgradeIfUnsupported map .hevc facts.nvencHevc
      "This GPU does not support HEVC (H.265) NVENC encoding."
    let map := downgradeIfUnsupported map .h264 facts.nvencH264
      "This GPU does not support H.264 NVENC encoding."
    { caps with videoCodecs := map }

def applyNvencYuv444Support (caps : CapabilitySet) (facts : NvidiaRuntimeFacts) : CapabilitySet :=
  if !facts.nvencCodecProbed then caps
  else
    let map := downgradeIfUnsupported caps.chroma444 .h264 facts.nvencYuv444H264
      "This GPU does not support H.264 4:4:4 (YUV444) NVENC encoding."
    let map := downgradeIfUnsupported map .hevc facts.nvencYuv444Hevc
      "This GPU does not support HEVC 4:4:4 (YUV444) NVENC encoding."
    { caps with chroma444 := map }

/-- Whether a map holds a codec selectable: what a lookup that finds nothing answers is not. -/
def Selects {κ : Type} (map : κ → Option SupportAnnotation) (key : κ) : Prop :=
  ∃ note, map key = some note ∧ note.isSelectable = true

theorem lookupAnnotation_isSelectable {κ : Type} {map : κ → Option SupportAnnotation} {key : κ}
    {dimensionName : String} :
    ( lookupAnnotation map key dimensionName).isSelectable = true ↔ Selects map key := by
  unfold lookupAnnotation Selects
  cases map key with
  | none => simp [ SupportAnnotation.isSelectable]
  | some note => simp

/-- A downgrade takes what is not supported, and nothing else. -/
theorem selects_downgradeIfUnsupported {map : VideoCodec → Option SupportAnnotation}
    {codec key : VideoCodec} {supported : Bool} {reason : String} :
    Selects (downgradeIfUnsupported map codec supported reason) key ↔
      Selects map key ∧ (key = codec → supported = true) := by
  have hassigned : Selects (assign map codec ⟨.notImplemented, reason⟩) key ↔
      Selects map key ∧ key ≠ codec := by
    unfold Selects assign
    split
    · simp_all [ SupportAnnotation.isSelectable]
    · simp_all
  cases supported with
  | true => simp [downgradeIfUnsupported]
  | false =>
    unfold downgradeIfUnsupported
    rw [if_neg Bool.false_ne_true]
    cases hmap : map codec with
    | none => simpa using hassigned
    | some note =>
      dsimp only
      split
      · simpa using hassigned
      · refine ⟨fun h => ⟨h, ?_⟩, fun h => h.1⟩
        rintro rfl
        obtain ⟨a, ha, hselectable⟩ := h
        rw [hmap] at ha
        obtain rfl := Option.some.inj ha
        contradiction

/-- What a probe says of a codec. -/
def NvidiaRuntimeFacts.encodes (facts : NvidiaRuntimeFacts) : VideoCodec → Bool
  | .av1 => facts.nvencAv1
  | .hevc => facts.nvencHevc
  | .h264 => facts.nvencH264

/-- What a probe says of 4:4:4 with a codec; AV1 is not asked. -/
def NvidiaRuntimeFacts.encodes444 (facts : NvidiaRuntimeFacts) : VideoCodec → Bool
  | .av1 => true
  | .hevc => facts.nvencYuv444Hevc
  | .h264 => facts.nvencYuv444H264

theorem selects_applyNvencCodecSupport {caps : CapabilitySet} {facts : NvidiaRuntimeFacts}
    (hprobed : facts.nvencCodecProbed = true) {codec : VideoCodec} :
    Selects (applyNvencCodecSupport caps facts).videoCodecs codec ↔
      Selects caps.videoCodecs codec ∧ facts.encodes codec = true := by
  unfold applyNvencCodecSupport
  rw [if_neg (by simp [hprobed])]
  simp only [selects_downgradeIfUnsupported]
  cases codec <;> simp [NvidiaRuntimeFacts.encodes]

theorem selects_applyNvencYuv444Support {caps : CapabilitySet} {facts : NvidiaRuntimeFacts}
    (hprobed : facts.nvencCodecProbed = true) {codec : VideoCodec} :
    Selects (applyNvencYuv444Support caps facts).chroma444 codec ↔
      Selects caps.chroma444 codec ∧ facts.encodes444 codec = true := by
  unfold applyNvencYuv444Support
  rw [if_neg (by simp [hprobed])]
  simp only [selects_downgradeIfUnsupported]
  cases codec <;> simp [NvidiaRuntimeFacts.encodes444]

@[simp] theorem applyNvencCodecSupport_comboOverrides (caps : CapabilitySet)
    (facts : NvidiaRuntimeFacts) :
    (applyNvencCodecSupport caps facts).comboOverrides = caps.comboOverrides := by
  unfold applyNvencCodecSupport
  split
  · rfl
  · rfl

@[simp] theorem applyNvencYuv444Support_comboOverrides (caps : CapabilitySet)
    (facts : NvidiaRuntimeFacts) :
    (applyNvencYuv444Support caps facts).comboOverrides = caps.comboOverrides := by
  unfold applyNvencYuv444Support
  split
  · rfl
  · rfl

@[simp] theorem applyNvencYuv444Support_videoCodecs (caps : CapabilitySet)
    (facts : NvidiaRuntimeFacts) :
    (applyNvencYuv444Support caps facts).videoCodecs = caps.videoCodecs := by
  unfold applyNvencYuv444Support
  split
  · rfl
  · rfl

@[simp] theorem applyNvencCodecSupport_chroma444 (caps : CapabilitySet)
    (facts : NvidiaRuntimeFacts) :
    (applyNvencCodecSupport caps facts).chroma444 = caps.chroma444 := by
  unfold applyNvencCodecSupport
  split
  · rfl
  · rfl

/-! ## The set of a machine -/

/-- Without NVENC: no codec, no 10 bits, and overrides for the primary combinations. -/
def downgradeWithoutNvenc (caps : CapabilitySet) : CapabilitySet :=
  let nvencReason : String := "NVIDIA NVENC is not available on this system. " ++
    "Install a supported NVIDIA driver or switch to a non-NVENC recording profile."
  let missing : SupportAnnotation := ⟨.notImplemented, nvencReason⟩
  { caps with
    videoCodecs := assign (assign (assign caps.videoCodecs .av1 missing) .h264 missing) .hevc missing
    bitDepths := assign caps.bitDepths .bit10 missing
    comboOverrides :=
      assign (assign (assign caps.comboOverrides ⟨.matroska, .av1, .aac, .cs420, .bit8⟩ missing)
        ⟨.matroska, .h264, .aac, .cs420, .bit8⟩ missing) ⟨.mp4, .h264, .aac, .cs420, .bit8⟩ missing }

def buildEffectiveCapabilities (nvidia : NvidiaRuntimeFacts) : CapabilitySet :=
  let caps := buildStaticValidatedBaseline
  let caps :=
    if !nvidia.nvencDllPresent || !nvidia.nvencApiVersionValid then downgradeWithoutNvenc caps
    else caps
  applyNvencYuv444Support (applyNvencCodecSupport caps nvidia) nvidia

/-- No override makes a combination selectable. -/
def CapabilitySet.NoSelectableOverride (caps : CapabilitySet) : Prop :=
  ∀ key note, caps.comboOverrides key = some note → note.isSelectable = false

theorem buildStaticValidatedBaseline_noSelectableOverride :
    buildStaticValidatedBaseline.NoSelectableOverride :=
  fun _ _ h => nomatch h

theorem buildEffectiveCapabilities_noSelectableOverride (nvidia : NvidiaRuntimeFacts) :
    (buildEffectiveCapabilities nvidia).NoSelectableOverride := by
  intro key note h
  unfold buildEffectiveCapabilities at h
  simp only [applyNvencYuv444Support_comboOverrides, applyNvencCodecSupport_comboOverrides] at h
  split at h
  · simp only [downgradeWithoutNvenc, assign] at h
    split at h
    · exact Option.some.inj h ▸ rfl
    split at h
    · exact Option.some.inj h ▸ rfl
    split at h
    · exact Option.some.inj h ▸ rfl
    · exact buildStaticValidatedBaseline_noSelectableOverride key note h
  · exact buildStaticValidatedBaseline_noSelectableOverride key note h

/-- Where no override is selectable, a selectable combination has none. -/
theorem CapabilitySet.NoSelectableOverride.none {caps : CapabilitySet}
    (h : caps.NoSelectableOverride) {c : Container} {v : VideoCodec} {a : AudioCodec}
    {cs : ChromaSubsampling} {bd : BitDepth}
    (hselectable : (caps.queryCombo c v a cs bd).isSelectable = true) :
    caps.comboOverrides ⟨c, v, a, cs, bd⟩ = none := by
  cases hoverride : caps.comboOverrides ⟨c, v, a, cs, bd⟩ with
  | none => rfl
  | some note =>
    have hquery : caps.queryCombo c v a cs bd = note := by
      unfold CapabilitySet.queryCombo
      rw [hoverride]
    rw [hquery, h _ _ hoverride] at hselectable
    exact nomatch hselectable

end Exosnap.Capability
