/-
  `SanitizePresetConfig` and the configurations that are shipped (`RecordingPreset.cpp`,
  `OutputSettingsModel.cpp`, `WebcamSettings.h`).

  Where the videos of the user are kept is asked of the system: it comes as an argument. An
  enumeration has no values but its own, so that the checks of a value cast from outside are left
  out, but for the byte of the frame pacing.
-/
import Exosnap.Models.PresetConfig
import Exosnap.Models.RecordingPreset

namespace Exosnap.Models

/-! ## Floating-point numbers -/

/-- `std::clamp`. -/
def clampFloat (value lo hi : Float32) : Float32 :=
  if value < lo then lo else if hi < value then hi else value

def clampFinite (value minValue maxValue fallback : Float32) : Float32 :=
  if !value.isFinite then fallback else clampFloat value minValue maxValue

/-- `std::max`. -/
def maxFloat (a b : Float32) : Float32 := if a < b then b else a

/-! ## Output -/

def kMinCustomWidth : UInt32 := 320
def kMinCustomHeight : UInt32 := 180
def kMaxCustomDimension : UInt32 := 7680

def isCustomSizeUsable (width height : UInt32) : Bool :=
  width ≥ kMinCustomWidth && height ≥ kMinCustomHeight && width ≤ kMaxCustomDimension &&
    height ≤ kMaxCustomDimension

def alignOutputDimensionEven (value : UInt32) : UInt32 := value &&& ~~~1

def sanitizeOutputResolution (settings : OutputResolutionSettings) : OutputResolutionSettings :=
  if settings.mode ≠ .custom then { settings with customWidth := 0, customHeight := 0 }
  else if !isCustomSizeUsable settings.customWidth settings.customHeight then
    { settings with mode := .native, customWidth := 0, customHeight := 0 }
  else
    { settings with
      customWidth := alignOutputDimensionEven settings.customWidth
      customHeight := alignOutputDimensionEven settings.customHeight }

def clampUInt32 (value lo hi : UInt32) : UInt32 :=
  if value < lo then lo else if value > hi then hi else value

def sanitizeSplitSettings (s : SplitRecordingSettings) : SplitRecordingSettings :=
  { s with
    customMinutes := clampUInt32 s.customMinutes SplitRecordingSettings.kMinMinutes
      SplitRecordingSettings.kMaxMinutes
    customSizeMb := clampUInt32 s.customSizeMb SplitRecordingSettings.kMinSizeMb
      SplitRecordingSettings.kMaxSizeMb }

/-! ## Video -/

def kMinBitrateKbps : UInt32 := 1000
def kMaxBitrateKbps : UInt32 := 200000

def isFrameRateValid (num den : UInt32) : Bool := den == 1 && num ≥ 1 && num ≤ 240

/-- A degenerate rate and one outside 1 to 240 frames a second end alike. -/
def sanitizeVideo (video : VideoSettingsModel) : VideoSettingsModel :=
  let fpsValid := isFrameRateValid video.frameRateNum video.frameRateDen
  { video with
    frameRateNum := if fpsValid then video.frameRateNum else 60
    frameRateDen := if fpsValid then video.frameRateDen else 1
    framePacing := if video.framePacing > 1 then 0 else video.framePacing
    rateControl := if video.rateControl = .lossless then .constantQuality else video.rateControl
    bitrateKbps := clampUInt32 video.bitrateKbps kMinBitrateKbps kMaxBitrateKbps }

/-! ## Audio -/

def sanitizeSourceRow (row : Engine.AudioSourceRow) : Engine.AudioSourceRow :=
  { row with gainDb := clampFinite row.gainDb Engine.kMinGainDb Engine.kMaxGainDb 0.0 }

/-- The first row has no row above it. -/
def sanitizeSourceRows : List Engine.AudioSourceRow → List Engine.AudioSourceRow
  | [] => []
  | first :: rest => ({ first with mergeWithAbove := false } :: rest).map sanitizeSourceRow

def kValidRates : List UInt32 := [44100, 48000, 96000]
def kPcmDepths : List UInt32 := [16, 24, 32]
def kFlacDepths : List UInt32 := [16, 24]

def sanitizeSampleRate (codec : Capability.AudioCodec) (rate : UInt32) : UInt32 :=
  if codec = .opus then 48000 else if kValidRates.contains rate then rate else 48000

def sanitizeBitDepth (codec : Capability.AudioCodec) (depth : UInt32) : UInt32 :=
  match codec with
  | .pcm => if kPcmDepths.contains depth then depth else 16
  | .flac => if kFlacDepths.contains depth then depth else 16
  | .opus | .aac => 16

def clampInt32 (value lo hi : Int32) : Int32 :=
  if value < lo then lo else if value > hi then hi else value

/-- Above the ceiling, or no number: the ceiling. -/
def sanitizeLimiterCeiling (ceiling : Float32) : Float32 :=
  if !ceiling.isFinite || ceiling > 0.0 then 0.0 else if ceiling < -60.0 then -60.0 else ceiling

def sanitizeAudio (codec : Capability.AudioCodec) (audio : Capability.AudioUiState) :
    Capability.AudioUiState :=
  let bitDepth := sanitizeBitDepth codec audio.audioBitDepth
  { audio with
    sourceRows := sanitizeSourceRows audio.sourceRows
    micGainLinear :=
      if !audio.micGainLinear.isFinite || audio.micGainLinear ≤ 0.0 then 1.0 else audio.micGainLinear
    audioBitrateKbps :=
      if audio.audioBitrateKbps > Engine.kOpusBitrateKbpsMax then Engine.kOpusBitrateKbpsMax
      else audio.audioBitrateKbps
    opusComplexity := clampInt32 audio.opusComplexity 0 10
    audioChannels :=
      if audio.audioChannels ≠ 1 && audio.audioChannels ≠ 2 then 2 else audio.audioChannels
    audioSampleRate := sanitizeSampleRate codec audio.audioSampleRate
    audioBitDepth := bitDepth
    audioPcmFloat :=
      if audio.audioPcmFloat && (codec ≠ .pcm || bitDepth ≠ 32) then false else audio.audioPcmFloat
    flacCompressionLevel := clampInt32 audio.flacCompressionLevel 0 8
    limiterCeilingDb := sanitizeLimiterCeiling audio.limiterCeilingDb
    micHpfCutoffHz := clampFinite audio.micHpfCutoffHz 20.0 1000.0 80.0
    micGateThresholdDb := clampFinite audio.micGateThresholdDb (-80.0) 0.0 (-45.0)
    micAgcTargetDb := clampFinite audio.micAgcTargetDb (-40.0) 0.0 (-18.0) }

/-! ## Webcam -/

def kMinSizeNorm : Float32 := 0.05
def kMaxSizeNorm : Float32 := 1.0

/-- One direction of the overlay: a start and a length that do not reach over the edge. -/
def sanitizeOverlayExtent (start length : Float32) : Float32 × Float32 :=
  let x := clampFinite start 0.0 (1.0 - kMinSizeNorm) 0.0
  let w := clampFinite length kMinSizeNorm kMaxSizeNorm 0.25
  let w := if x + w > 1.0 then maxFloat kMinSizeNorm (1.0 - x) else w
  let x := if x + w > 1.0 then maxFloat 0.0 (1.0 - w) else x
  (x, w)

def sanitizeWebcamOverlayRect (overlay : WebcamOverlayRect) : WebcamOverlayRect :=
  let (x, w) := sanitizeOverlayExtent overlay.xNorm overlay.wNorm
  let (y, h) := sanitizeOverlayExtent overlay.yNorm overlay.hNorm
  { xNorm := x, yNorm := y, wNorm := w, hNorm := h }

def sanitizeChromaKey (ck : WebcamChromaKeySettings) : WebcamChromaKeySettings :=
  { ck with
    tolerance := clampFloat (if !ck.tolerance.isFinite then 0.40 else ck.tolerance) 0.0 1.0
    softness := clampFloat (if !ck.softness.isFinite then 0.15 else ck.softness) 0.0 1.0
    spillReduction :=
      clampFloat (if !ck.spillReduction.isFinite then 0.30 else ck.spillReduction) 0.0 1.0 }

def sanitizeWebcamSettings (settings : WebcamSettings) : WebcamSettings :=
  { settings with
    width := if settings.width > 0 then settings.width else 1280
    height := if settings.height > 0 then settings.height else 720
    fps := if settings.fps > 0 then settings.fps else 30
    overlay := sanitizeWebcamOverlayRect settings.overlay
    chromaKey := sanitizeChromaKey settings.chromaKey
    opacity := clampFloat (if !settings.opacity.isFinite then 1.0 else settings.opacity) 0.0 1.0 }

/-! ## The whole -/

def kValidCountdowns : List Int32 := [0, 3, 5, 10]

def sanitizeCapture (capture : PresetCaptureTarget) : PresetCaptureTarget :=
  if capture.kind = .region && (capture.regionWNorm ≤ 0.0 || capture.regionHNorm ≤ 0.0) then
    { capture with hasRegion := false }
  else capture

def outputFormatRequest (config : RecordingPresetConfig) : Capability.OutputFormatRequest where
  container := config.output.container
  videoCodec := config.output.videoCodec
  audioCodec := config.output.audioCodec
  bitDepth := config.output.bitDepth
  chroma := config.output.chromaSubsampling
  cfr := config.video.cfr

def sanitizePresetConfig (config : RecordingPresetConfig) : RecordingPresetConfig :=
  let resolved := (Capability.reconcileOutputFormat (outputFormatRequest config)).resolved
  { capture := sanitizeCapture config.capture
    output :=
      { config.output with
        container := resolved.container
        videoCodec := resolved.videoCodec
        audioCodec := resolved.audioCodec
        bitDepth := resolved.bitDepth
        chromaSubsampling := resolved.chroma
        resolution := sanitizeOutputResolution config.output.resolution
        split := sanitizeSplitSettings config.output.split }
    video := sanitizeVideo { config.video with cfr := resolved.cfr }
    audio := sanitizeAudio resolved.audioCodec config.audio
    webcam := sanitizeWebcamSettings config.webcam
    countdownSeconds :=
      if kValidCountdowns.contains config.countdownSeconds then config.countdownSeconds else 0 }

/-! ## What is shipped -/

namespace OutputSettingsModel

def defaults (videosFolder : String) : OutputSettingsModel := { outputFolder := videosFolder }

end OutputSettingsModel

def stripEnvironmentFields (videosFolder : String) (config : RecordingPresetConfig) :
    RecordingPresetConfig :=
  let defaults := OutputSettingsModel.defaults videosFolder
  { config with
    capture := {}
    output := { config.output with bitDepth := defaults.bitDepth, hdrMode := defaults.hdrMode } }

def kDefaultPipInsetNorm : Float32 := 0.03
def kPipSize : Float32 := 0.25

/-- The configuration of `MakeDefaultPreset`. -/
def makeDefaultConfig (videosFolder : String) : RecordingPresetConfig where
  output :=
    { OutputSettingsModel.defaults videosFolder with
      container := .matroska, videoCodec := .av1, audioCodec := .opus }
  video := { cq := Engine.canonicalCq .high }
  audio :=
    { sourceRows :=
        [{ kind := .systemOutput, enabled := true, mergeWithAbove := false },
          { kind := .mic, enabled := false, mergeWithAbove := false }] }
  webcam :=
    { overlay :=
        { xNorm := 1.0 - kPipSize - kDefaultPipInsetNorm
          yNorm := 1.0 - kPipSize - kDefaultPipInsetNorm
          wNorm := kPipSize
          hNorm := kPipSize } }

/-- What is done to configurations, on a machine whose videos are kept in a folder. -/
def configRules (videosFolder : String) : ConfigRules RecordingPresetConfig :=
  let config := makeDefaultConfig videosFolder
  { strip := stripEnvironmentFields videosFolder
    sanitize := sanitizePresetConfig
    default := config
    quality := { config with video := { config.video with cq := Engine.canonicalCq .ultra } }
    compact :=
      { config with
        video := { config.video with cq := Engine.canonicalCq .low }
        output := { config.output with nvencPreset := .p6 } }
    performance := { config with output := { config.output with nvencPreset := .p2 } }
    compatibility :=
      { config with
        output := { config.output with container := .mp4, videoCodec := .h264, audioCodec := .aac } } }

end Exosnap.Models
