/-
  What a preset configures (`RecordingPreset.h`, `OutputSettingsModel.h`, `VideoSettingsModel.h`,
  `audio_ui_state.h`, `WebcamSettings.h`, `StableDisplayId.h`), with the defaults of each field.

  A string is a sequence of Unicode characters, and a path is its text. `FramePacingMode` is kept as
  its underlying byte, as a stored number is cast to it unchecked.
-/
import Exosnap.Capability.OutputFormat
import Exosnap.Engine.AudioThread
import Exosnap.Engine.EncoderDevice

namespace Exosnap.Engine

inductive NvencPreset where
  | p1 | p2 | p3 | p4 | p5 | p6 | p7
  deriving DecidableEq, Repr

inductive RateControlMode where
  | constantQuality
  | variableBitrate
  | constantBitrate
  | lossless
  deriving DecidableEq, Repr

inductive MicChannelMode where
  | auto
  | preserveStereo
  | monoMix
  | leftToStereo
  | rightToStereo
  deriving DecidableEq, Repr

inductive OpusFrameDuration where
  | ms20 | ms10 | ms5 | ms2_5
  deriving DecidableEq, Repr

inductive OutputFitMode where
  | contain
  deriving DecidableEq, Repr

inductive QualityPreset where
  | high | balanced | low | draft | ultra
  deriving DecidableEq, Repr

def kCqMin : UInt32 := 1
def kCqMax : UInt32 := 51
def kOpusBitrateKbpsMax : UInt32 := 510
def kMinGainDb : Float32 := -60.0
def kMaxGainDb : Float32 := 24.0

def canonicalCq : QualityPreset → UInt32
  | .ultra => 16
  | .high => 19
  | .low => 30
  | .draft => 35
  | .balanced => 24

structure AudioSourceRow where
  kind : AudioSourceKind := .app
  enabled : Bool := true
  mergeWithAbove : Bool := false
  gainDb : Float32 := 0.0
  muted : Bool := false
  deriving DecidableEq

end Exosnap.Engine

namespace Exosnap.Capability

inductive CaptureTargetKind where
  | window
  | display
  deriving DecidableEq, Repr

structure AudioUiState where
  targetKind : CaptureTargetKind := .display
  sourceRows : List Engine.AudioSourceRow := []
  micChannelMode : Engine.MicChannelMode := .auto
  selectedMicDeviceId : Option String := none
  micGainLinear : Float32 := 1.0
  selectedWindowPid : Option UInt32 := none
  audioBitrateKbps : UInt32 := 160
  opusFrameDuration : Engine.OpusFrameDuration := .ms20
  opusComplexity : Int32 := 10
  limiterEnabled : Bool := true
  limiterCeilingDb : Float32 := 0.0
  clockSlavingEnabled : Bool := true
  micHpfEnabled : Bool := false
  micHpfCutoffHz : Float32 := 80.0
  micGateEnabled : Bool := false
  micGateThresholdDb : Float32 := -45.0
  micAgcEnabled : Bool := false
  micAgcTargetDb : Float32 := -18.0
  micRnnoiseEnabled : Bool := false
  audioSampleRate : UInt32 := 48000
  audioChannels : UInt32 := 2
  audioBitDepth : UInt32 := 16
  audioPcmFloat : Bool := false
  flacCompressionLevel : Int32 := 5
  deriving DecidableEq

end Exosnap.Capability

namespace Exosnap.Models

open Capability (Container VideoCodec AudioCodec BitDepth ChromaSubsampling ColorRange HdrMode)

/-! ## Output -/

inductive OutputResolutionMode where
  | native
  | uhd2160
  | qhd1440
  | fhd1080
  | hd720
  | custom
  deriving DecidableEq, Repr

structure OutputResolutionSettings where
  mode : OutputResolutionMode := .native
  customWidth : UInt32 := 0
  customHeight : UInt32 := 0
  fit : Engine.OutputFitMode := .contain
  deriving DecidableEq, Repr

inductive SplitRecordingMode where
  | off
  | every15Min
  | every30Min
  | every60Min
  | custom
  deriving DecidableEq, Repr

inductive SplitSizeMode where
  | off
  | custom
  deriving DecidableEq, Repr

structure SplitRecordingSettings where
  mode : SplitRecordingMode := .off
  customMinutes : UInt32 := 30
  sizeMode : SplitSizeMode := .off
  customSizeMb : UInt32 := 2048
  deriving DecidableEq, Repr

namespace SplitRecordingSettings

def kMinMinutes : UInt32 := 1
def kMaxMinutes : UInt32 := 24 * 60
def kMinSizeMb : UInt32 := 50
def kMaxSizeMb : UInt32 := 1024 * 1024

end SplitRecordingSettings

structure OutputSettingsModel where
  outputFolder : String := ""
  namingPattern : String := "\x7bdatetime\x7d_\x7bapp\x7d_\x7btitle\x7d"
  container : Container := .matroska
  videoCodec : VideoCodec := .h264
  audioCodec : AudioCodec := .aac
  bitDepth : BitDepth := .bit8
  chromaSubsampling : ChromaSubsampling := .cs420
  colorRange : ColorRange := .limited
  nvencPreset : Engine.NvencPreset := .p4
  hdrMode : HdrMode := .tonemapSdr
  resolution : OutputResolutionSettings := {}
  split : SplitRecordingSettings := {}
  deriving DecidableEq, Repr

/-! ## Video -/

inductive KeyframeIntervalMode where
  | seconds2
  | seconds1
  | seconds0_5
  deriving DecidableEq, Repr

structure VideoSettingsModel where
  cq : UInt32 := Engine.canonicalCq .balanced
  rateControl : Engine.RateControlMode := .constantQuality
  bitrateKbps : UInt32 := 20000
  cfr : Bool := true
  framePacing : UInt8 := 0
  captureCursor : Bool := true
  frameRateNum : UInt32 := 60
  frameRateDen : UInt32 := 1
  keyframeInterval : KeyframeIntervalMode := .seconds2
  encoderDevice : Engine.EncoderDevicePreference := {}
  deriving DecidableEq, Repr

/-! ## Webcam -/

structure WebcamOverlayRect where
  xNorm : Float32 := 0.0
  yNorm : Float32 := 0.0
  wNorm : Float32 := 0.25
  hNorm : Float32 := 0.25
  deriving DecidableEq

inductive WebcamChromaKeyColorMode where
  | green
  | blue
  | magenta
  | custom
  deriving DecidableEq, Repr

structure WebcamChromaKeySettings where
  enabled : Bool := false
  colorMode : WebcamChromaKeyColorMode := .green
  customR : UInt8 := 0
  customG : UInt8 := 255
  customB : UInt8 := 0
  tolerance : Float32 := 0.40
  softness : Float32 := 0.15
  spillReduction : Float32 := 0.30
  deriving DecidableEq

structure WebcamSettings where
  enabled : Bool := false
  deviceId : String := ""
  width : Int32 := 1280
  height : Int32 := 720
  fps : Int32 := 30
  overlay : WebcamOverlayRect := {}
  overlayUserPlaced : Bool := false
  aspectRatioLocked : Bool := true
  mirror : Bool := false
  opacity : Float32 := 1.0
  chromaKey : WebcamChromaKeySettings := {}
  deriving DecidableEq

/-! ## The capture target -/

structure StableDisplayId where
  devicePath : String := ""
  edidVendor : String := ""
  edidProduct : UInt32 := 0
  serial : String := ""
  friendlyName : String := ""
  gdiName : String := ""
  seqHint : Int32 := 0
  deriving DecidableEq, Repr

inductive PresetCaptureKind where
  | display
  | window
  | region
  deriving DecidableEq, Repr

structure PresetCaptureTarget where
  kind : PresetCaptureKind := .display
  displayId : StableDisplayId := {}
  windowKey : String := ""
  hasRegion : Bool := false
  regionDisplayId : StableDisplayId := {}
  regionXNorm : Float32 := 0.0
  regionYNorm : Float32 := 0.0
  regionWNorm : Float32 := 0.0
  regionHNorm : Float32 := 0.0
  deriving DecidableEq

/-! ## The whole -/

structure RecordingPresetConfig where
  capture : PresetCaptureTarget := {}
  output : OutputSettingsModel := {}
  video : VideoSettingsModel := {}
  audio : Capability.AudioUiState := {}
  webcam : WebcamSettings := {}
  countdownSeconds : Int32 := 0
  deriving DecidableEq

end Exosnap.Models
