/-
  `translation.cpp`: the configuration of the engine for a user's configuration, and the second gate
  that stands before it, an allow-list of combinations.

  Throws are errors; `validation` is what the caller is left with. The fields of `RecorderConfig`
  that a translation does not write are left out.
-/
import Exosnap.Capability.AdapterCapability
import Exosnap.Capability.ResolverSoundness
import Exosnap.Engine.SessionTypes

namespace Exosnap.Engine

/-! ## Formats of the engine -/

inductive Container where
  | webM
  | matroska
  | mp4
  deriving DecidableEq, Repr

inductive AudioCodec where
  | aac
  | opus
  | pcm
  | flac
  deriving DecidableEq, Repr

inductive ChromaSubsampling where
  | cs420
  | cs444
  deriving DecidableEq, Repr

inductive BitDepth where
  | bit8
  | bit10
  deriving DecidableEq, Repr

inductive ColorRange where
  | unspecified
  | limited
  | full
  deriving DecidableEq, Repr

/-- `RecorderConfig`, with the range and the bits of its colour. -/
structure RecorderConfig where
  container : Container := .webM
  videoCodec : VideoCodec := .av1
  audioCodec : AudioCodec := .opus
  chroma : ChromaSubsampling := .cs420
  bitDepth : BitDepth := .bit8
  colorRange : ColorRange := .limited
  bitsPerChannel : UInt32 := 8
  hdrMode : Capability.HdrMode := .tonemapSdr
  frameRateNum : UInt32 := 60
  frameRateDen : UInt32 := 1
  outputWidth : UInt32 := 0
  outputHeight : UInt32 := 0
  deriving DecidableEq, Repr

end Exosnap.Engine

namespace Exosnap.Capability

/-! ## The allow-list -/

def codecSupports10Bit (codec : VideoCodec) : Bool :=
  codec == .hevc || codec == .av1

def codecSupportsChroma444 (codec : VideoCodec) : Bool :=
  codec == .h264 || codec == .hevc

def validChromaDepth (config : UserRecorderConfig) : Bool :=
  let bitDepthOk := config.bitDepth == .bit8 ||
    (config.bitDepth == .bit10 && codecSupports10Bit config.videoCodec)
  let chromaOk := config.chroma == .cs420 ||
    (config.chroma == .cs444 && codecSupportsChroma444 config.videoCodec && config.bitDepth == .bit8)
  chromaOk && bitDepthOk

/-- The flag of one combination. -/
def isCombo (config : UserRecorderConfig) (c : Container) (v : VideoCodec) (a : AudioCodec) : Bool :=
  config.container == c && config.videoCodec == v && config.audioCodec == a && validChromaDepth config

def isTranslatable (config : UserRecorderConfig) : Bool :=
  isCombo config .webM .av1 .opus || isCombo config .matroska .av1 .aac ||
  isCombo config .matroska .av1 .opus || isCombo config .matroska .h264 .aac ||
  isCombo config .matroska .h264 .opus || isCombo config .matroska .av1 .pcm ||
  isCombo config .matroska .h264 .pcm || isCombo config .matroska .av1 .flac ||
  isCombo config .matroska .h264 .flac || isCombo config .matroska .hevc .aac ||
  isCombo config .matroska .hevc .opus || isCombo config .matroska .hevc .pcm ||
  isCombo config .matroska .hevc .flac || isCombo config .mp4 .h264 .aac ||
  isCombo config .mp4 .hevc .aac

/-- The container and the codecs of the engine, by the first flag that is set. -/
def coreFormat (config : UserRecorderConfig) :
    Engine.Container × Engine.VideoCodec × Engine.AudioCodec :=
  if isCombo config .webM .av1 .opus then (.webM, .av1, .opus)
  else if isCombo config .matroska .av1 .opus then (.matroska, .av1, .opus)
  else if isCombo config .matroska .h264 .aac then (.matroska, .h264, .aac)
  else if isCombo config .matroska .h264 .opus then (.matroska, .h264, .opus)
  else if isCombo config .matroska .av1 .pcm then (.matroska, .av1, .pcm)
  else if isCombo config .matroska .h264 .pcm then (.matroska, .h264, .pcm)
  else if isCombo config .matroska .av1 .flac then (.matroska, .av1, .flac)
  else if isCombo config .matroska .h264 .flac then (.matroska, .h264, .flac)
  else if isCombo config .matroska .hevc .aac then (.matroska, .hevc, .aac)
  else if isCombo config .matroska .hevc .opus then (.matroska, .hevc, .opus)
  else if isCombo config .matroska .hevc .pcm then (.matroska, .hevc, .pcm)
  else if isCombo config .matroska .hevc .flac then (.matroska, .hevc, .flac)
  else if isCombo config .mp4 .h264 .aac then (.mp4, .h264, .aac)
  else if isCombo config .mp4 .hevc .aac then (.mp4, .hevc, .aac)
  else (.matroska, .av1, .aac)

def coreConfig (config : UserRecorderConfig) : Engine.RecorderConfig :=
  let (container, videoCodec, audioCodec) := coreFormat config
  { chroma := if config.chroma = .cs444 then .cs444 else .cs420
    bitDepth := if config.bitDepth = .bit10 then .bit10 else .bit8
    colorRange := if config.colorRange = .limited then .limited else .full
    bitsPerChannel := if config.bitDepth = .bit10 then 10 else 8
    hdrMode := config.hdrMode
    frameRateNum := config.frameRateNum
    frameRateDen := config.frameRateDen
    outputWidth := config.outputWidth
    outputHeight := config.outputHeight
    container := container
    videoCodec := videoCodec
    audioCodec := audioCodec }

structure Translation where
  outcome : Except String Engine.RecorderConfig
  validation : ResolveResult

def toRecorderCoreConfig (config : UserRecorderConfig) (caps : CapabilitySet) : Translation :=
  let resolved := validateConfig caps config
  if !resolved.succeeded then
    { outcome := .error (match resolved.invalidity.head? with
        | none => "Configuration validation failed."
        | some reason => "Configuration validation failed." ++ " " ++ reason.message)
      validation := resolved }
  else if !isTranslatable resolved.resolvedConfig then
    let message :=
      "Only WebM+AV1+Opus, Matroska+AV1+(AAC|Opus|PCM|FLAC), Matroska+H264+(AAC|Opus|PCM|FLAC), " ++
      "Matroska+HEVC+(AAC|Opus|PCM|FLAC), or MP4+(H264|HEVC)+AAC, with 4:2:0 8-bit " ++
      "(or 10-bit with HEVC/AV1) or 4:4:4 8-bit with H.264/HEVC, " ++
      "can be translated to recorder_core."
    { outcome := .error message
      validation := { resolved with
        succeeded := false, invalidity := resolved.invalidity ++ [⟨"translation", message⟩] } }
  else { outcome := .ok (coreConfig resolved.resolvedConfig), validation := resolved }

/-! ## What the gates let through -/

section
variable {caps : CapabilitySet} {config : UserRecorderConfig} {c : Container} {v : VideoCodec}
  {a : AudioCodec} {cs : ChromaSubsampling} {bd : BitDepth}

/-- The static matrix is the registry, and a rule for each format. -/
theorem staticMatrixAnnotation_isSelectable
    (h : ( staticMatrixAnnotation c v a cs bd).isSelectable = true) :
    ( registryEntryToSupportAnnotation (ContainerCompatRegistry.query c v a)).isSelectable = true ∧
      cs ≠ .cs422 ∧ ¬ (cs = .cs444 ∧ v = .av1) ∧ ¬ (cs = .cs444 ∧ bd = .bit10) ∧
      ¬ (bd = .bit10 ∧ v ≠ .hevc ∧ v ≠ .av1) := by
  unfold staticMatrixAnnotation at h
  dsimp only at h
  split at h
  case isTrue hinvalid =>
    unfold SupportAnnotation.isSelectable at h
    rw [hinvalid] at h
    exact nomatch h
  split at h
  case isTrue => exact nomatch h
  case isFalse h422 =>
  split at h
  case isTrue => exact nomatch h
  case isFalse hav1 =>
  split at h
  case isTrue => exact nomatch h
  case isFalse h444 =>
  split at h
  case isTrue => exact nomatch h
  case isFalse h10 =>
  simp only [Bool.and_eq_true, decide_eq_true_eq] at hav1 h444 h10
  exact ⟨h, h422, hav1, h444, fun h => h10 ⟨⟨h.1, h.2.1⟩, h.2.2⟩⟩

/-- The chroma mode and the bit depth that the static matrix takes with a codec are those of the
    allow-list. -/
theorem validChromaDepth_of_rules (h422 : config.chroma ≠ .cs422)
    (hav1 : ¬ (config.chroma = .cs444 ∧ config.videoCodec = .av1))
    (h444 : ¬ (config.chroma = .cs444 ∧ config.bitDepth = .bit10))
    (h10 : ¬ (config.bitDepth = .bit10 ∧ config.videoCodec ≠ .hevc ∧ config.videoCodec ≠ .av1)) :
    validChromaDepth config = true := by
  unfold validChromaDepth codecSupports10Bit codecSupportsChroma444
  revert h422 hav1 h444 h10
  generalize config.chroma = cs, config.bitDepth = bd, config.videoCodec = v
  cases cs <;> cases bd <;> cases v <;> simp

/-- The codecs that the registry takes in a container are those of the allow-list. -/
theorem isTranslatable_of_registry (hformat : validChromaDepth config = true)
    (h : ( registryEntryToSupportAnnotation (ContainerCompatRegistry.query config.container
      config.videoCodec config.audioCodec)).isSelectable = true) :
    isTranslatable config = true := by
  unfold isTranslatable isCombo
  rw [hformat]
  revert h
  generalize config.container = c, config.videoCodec = v, config.audioCodec = a
  cases c <;> cases v <;> cases a <;>
    simp [ContainerCompatRegistry.query, registryEntryToSupportAnnotation,
      SupportAnnotation.isSelectable]

/-- What is selectable without overrides is on the allow-list. -/
theorem isTranslatable_of_selectable (hcaps : caps.NoSelectableOverride)
    (h : (queryResolvedCombo caps config).isSelectable = true) : isTranslatable config = true := by
  obtain ⟨hmatrix, _⟩ := (caps.queryCombo_isSelectable (hcaps.none h)).mp h
  obtain ⟨hregistry, h422, hav1, h444, h10⟩ := staticMatrixAnnotation_isSelectable hmatrix
  exact isTranslatable_of_registry (validChromaDepth_of_rules h422 hav1 h444 h10) hregistry

/-! ## What the engine is given -/

def Container.toEngine : Container → Engine.Container
  | matroska => .matroska
  | mp4 => .mp4
  | webM => .webM

def VideoCodec.toEngine : VideoCodec → Engine.VideoCodec
  | av1 => .av1
  | hevc => .hevc
  | h264 => .h264

def AudioCodec.toEngine : AudioCodec → Engine.AudioCodec
  | opus => .opus
  | aac => .aac
  | pcm => .pcm
  | flac => .flac

/-- The engine has no 4:2:2. -/
def ChromaSubsampling.toEngine : ChromaSubsampling → Option Engine.ChromaSubsampling
  | cs420 => some .cs420
  | cs422 => none
  | cs444 => some .cs444

def BitDepth.toEngine : BitDepth → Engine.BitDepth
  | bit8 => .bit8
  | bit10 => .bit10

/-- The engine's configuration is the user's. -/
structure Carries (core : Engine.RecorderConfig) (config : UserRecorderConfig) : Prop where
  container : core.container = config.container.toEngine
  videoCodec : core.videoCodec = config.videoCodec.toEngine
  audioCodec : core.audioCodec = config.audioCodec.toEngine
  chroma : config.chroma.toEngine = some core.chroma
  bitDepth : core.bitDepth = config.bitDepth.toEngine
  frameRate : core.frameRateNum = config.frameRateNum ∧ core.frameRateDen = config.frameRateDen
  size : core.outputWidth = config.outputWidth ∧ core.outputHeight = config.outputHeight

/-- On the allow-list, the first flag that is set is the only one. -/
theorem coreFormat_eq (h : isTranslatable config = true) :
    coreFormat config =
      (config.container.toEngine, config.videoCodec.toEngine, config.audioCodec.toEngine) := by
  unfold isTranslatable isCombo at h
  unfold coreFormat isCombo
  revert h
  generalize config.container = c, config.videoCodec = v, config.audioCodec = a,
    validChromaDepth config = b
  cases c <;> cases v <;> cases a <;> cases b <;> decide

theorem validChromaDepth_of_isTranslatable (h : isTranslatable config = true) :
    validChromaDepth config = true := by
  unfold isTranslatable isCombo at h
  cases hformat : validChromaDepth config with
  | true => rfl
  | false => simp [hformat] at h

theorem coreConfig_carries (h : isTranslatable config = true) : Carries (coreConfig config) config := by
  have hformat := validChromaDepth_of_isTranslatable h
  unfold coreConfig
  rw [coreFormat_eq h]
  refine ⟨rfl, rfl, rfl, ?_, ?_, ⟨rfl, rfl⟩, rfl, rfl⟩
  · show config.chroma.toEngine = some (if config.chroma = .cs444 then .cs444 else .cs420)
    cases hchroma : config.chroma with
    | cs420 => rfl
    | cs422 => simp [validChromaDepth, hchroma] at hformat
    | cs444 => rfl
  · show (if config.bitDepth = .bit10 then Engine.BitDepth.bit10 else .bit8) = config.bitDepth.toEngine
    cases config.bitDepth with
    | bit8 => rfl
    | bit10 => rfl

/-- The sets that are built have no selectable override, and for such sets the translation throws
    exactly when validation fails, and carries over what validation resolves to. -/
theorem translation_agrees :
    (buildStaticValidatedBaseline.NoSelectableOverride ∧
      (∀ nvidia, (buildEffectiveCapabilities nvidia).NoSelectableOverride) ∧
      ∀ base : CapabilitySet, base.NoSelectableOverride → ∀ adapter capability,
        (capabilitySetForAdapter base adapter capability).NoSelectableOverride) ∧
    ∀ caps : CapabilitySet, caps.NoSelectableOverride → ∀ config,
      ((∃ message, (toRecorderCoreConfig config caps).outcome = .error message) ↔
        (validateConfig caps config).succeeded = false) ∧
      ∀ core, (toRecorderCoreConfig config caps).outcome = .ok core →
        Carries core (validateConfig caps config).resolvedConfig := by
  refine ⟨⟨buildStaticValidatedBaseline_noSelectableOverride,
    buildEffectiveCapabilities_noSelectableOverride, fun base hbase adapter capability =>
      capabilitySetForAdapter_noSelectableOverride hbase adapter capability⟩, ?_⟩
  intro caps hcaps config
  unfold toRecorderCoreConfig
  dsimp only
  cases hok : (validateConfig caps config).succeeded with
  | false => exact ⟨⟨fun _ => rfl, fun _ => ⟨_, rfl⟩⟩, fun core h => nomatch h⟩
  | true =>
    have hselectable := (validateConfig_settled hok).selectable
    have htranslatable := isTranslatable_of_selectable hcaps hselectable
    rw [if_neg (by simp), if_neg (by simp [htranslatable])]
    refine ⟨⟨(fun h => nomatch h), (fun h => nomatch h)⟩, fun core h => ?_⟩
    rw [← Except.ok.inj h]
    exact coreConfig_carries htranslatable

end

/-- Opus in MP4 on a machine without a probe is resolved to AAC, and so translated. -/
theorem translation_agrees_mp4 :
    Carries { container := .mp4, videoCodec := .h264, audioCodec := .aac }
      (validateConfig (buildEffectiveCapabilities
          { nvencDllPresent := true, nvencApiVersionValid := true })
        { container := .mp4, videoCodec := .h264 }).resolvedConfig :=
  (translation_agrees.2
    (buildEffectiveCapabilities { nvencDllPresent := true, nvencApiVersionValid := true })
    (translation_agrees.1.2.1 _) { container := .mp4, videoCodec := .h264 }).2
    { container := .mp4, videoCodec := .h264, audioCodec := .aac } (by decide)

end Exosnap.Capability
