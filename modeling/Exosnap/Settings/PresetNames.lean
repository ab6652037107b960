/-
  The names under which a preset is stored (`RecordingPresetStore.cpp`): for each enumeration, the
  name of a value and the value of a name, which it is the inverse of.
-/
import Exosnap.Models.PresetConfig
import Exosnap.Settings.RecoveryManifestStore

namespace Exosnap.Settings

open Capability Models

/-- The value of a name, whatever the case and the white space around it. -/
def enumFromString {α : Type} (names : List (String × α)) (s : String) : Option α :=
  names.lookup (toLower (trimmed s))

def containerToString : Container → String
  | .matroska => "mkv"
  | .mp4 => "mp4"
  | .webM => "webm"

def containerFromString : String → Option Container :=
  enumFromString [("mkv", .matroska), ("mp4", .mp4), ("webm", .webM)]

def videoCodecToString : VideoCodec → String
  | .h264 => "h264"
  | .hevc => "hevc"
  | .av1 => "av1"

def videoCodecFromString : String → Option VideoCodec :=
  enumFromString [("h264", .h264), ("hevc", .hevc), ("av1", .av1)]

def videoBitDepthToString : BitDepth → String
  | .bit8 => "8"
  | .bit10 => "10"

def videoBitDepthFromString : String → Option BitDepth :=
  enumFromString [("8", .bit8), ("10", .bit10)]

def chromaSubsamplingToString : ChromaSubsampling → String
  | .cs420 => "420"
  | .cs422 => "422"
  | .cs444 => "444"

/-- The one name that is not taken to lower case. -/
def chromaSubsamplingFromString (s : String) : Option ChromaSubsampling :=
  [("420", ChromaSubsampling.cs420), ("422", .cs422), ("444", .cs444)].lookup (trimmed s)

def colorRangeToString : ColorRange → String
  | .full => "full"
  | .limited => "limited"

def colorRangeFromString : String → Option ColorRange :=
  enumFromString [("full", .full), ("limited", .limited)]

def audioCodecToString : AudioCodec → String
  | .aac => "aac"
  | .opus => "opus"
  | .pcm => "pcm"
  | .flac => "flac"

def audioCodecFromString : String → Option AudioCodec :=
  enumFromString [("opus", .opus), ("aac", .aac), ("pcm", .pcm), ("flac", .flac)]

def nvencPresetToString : Engine.NvencPreset → String
  | .p1 => "p1"
  | .p2 => "p2"
  | .p3 => "p3"
  | .p4 => "p4"
  | .p5 => "p5"
  | .p6 => "p6"
  | .p7 => "p7"

def nvencPresetFromString : String → Option Engine.NvencPreset :=
  enumFromString [("p1", .p1), ("p2", .p2), ("p3", .p3), ("p4", .p4), ("p5", .p5), ("p6", .p6),
    ("p7", .p7)]

def encoderDeviceModeToString : Engine.EncoderDevicePreference.Mode → String
  | .explicit => "explicit"
  | .auto => "auto"

def encoderDeviceModeFromString : String → Option Engine.EncoderDevicePreference.Mode :=
  enumFromString [("auto", .auto), ("explicit", .explicit)]

def hdrModeToString : HdrMode → String
  | .off => "off"
  | .tonemapSdr => "tonemap_sdr"
  | .hdr10 => "hdr10"

def hdrModeFromString : String → Option HdrMode :=
  enumFromString [("off", .off), ("tonemap_sdr", .tonemapSdr), ("hdr10", .hdr10)]

def rateControlModeToString : Engine.RateControlMode → String
  | .constantQuality => "cq"
  | .variableBitrate => "vbr"
  | .constantBitrate => "cbr"
  | .lossless => "lossless"

def rateControlModeFromString : String → Option Engine.RateControlMode :=
  enumFromString [("cq", .constantQuality), ("vbr", .variableBitrate), ("cbr", .constantBitrate),
    ("lossless", .lossless)]

def micChannelModeToString : Engine.MicChannelMode → String
  | .auto => "auto"
  | .preserveStereo => "preserve"
  | .monoMix => "mono_mix"
  | .leftToStereo => "left"
  | .rightToStereo => "right"

def micChannelModeFromString : String → Option Engine.MicChannelMode :=
  enumFromString [("auto", .auto), ("preserve", .preserveStereo), ("mono_mix", .monoMix),
    ("left", .leftToStereo), ("right", .rightToStereo)]

def captureTargetKindToString : CaptureTargetKind → String
  | .window => "window"
  | .display => "display"

def captureTargetKindFromString : String → Option CaptureTargetKind :=
  enumFromString [("window", .window), ("display", .display)]

def audioSourceKindToString : Engine.AudioSourceKind → String
  | .app => "app"
  | .mic => "mic"
  | .sys => "sys"
  | .systemOutput => "system_output"

def audioSourceKindFromString : String → Option Engine.AudioSourceKind :=
  enumFromString [("app", .app), ("mic", .mic), ("sys", .sys), ("system_output", .systemOutput)]

def webcamChromaKeyColorModeToString : WebcamChromaKeyColorMode → String
  | .green => "green"
  | .blue => "blue"
  | .magenta => "magenta"
  | .custom => "custom"

def webcamChromaKeyColorModeFromString : String → Option WebcamChromaKeyColorMode :=
  enumFromString [("green", .green), ("blue", .blue), ("magenta", .magenta), ("custom", .custom)]

def presetCaptureKindToString : PresetCaptureKind → String
  | .display => "display"
  | .window => "window"
  | .region => "region"

def presetCaptureKindFromString : String → Option PresetCaptureKind :=
  enumFromString [("display", .display), ("window", .window), ("region", .region)]

def outputResolutionModeToString : OutputResolutionMode → String
  | .native => "native"
  | .uhd2160 => "uhd2160"
  | .qhd1440 => "qhd1440"
  | .fhd1080 => "fhd1080"
  | .hd720 => "hd720"
  | .custom => "custom"

def outputResolutionModeFromString : String → Option OutputResolutionMode :=
  enumFromString [("native", .native), ("uhd2160", .uhd2160), ("4k", .uhd2160),
    ("qhd1440", .qhd1440), ("1440p", .qhd1440), ("fhd1080", .fhd1080), ("1080p", .fhd1080),
    ("hd720", .hd720), ("720p", .hd720), ("custom", .custom)]

def splitRecordingModeToString : SplitRecordingMode → String
  | .off => "off"
  | .every15Min => "every15"
  | .every30Min => "every30"
  | .every60Min => "every60"
  | .custom => "custom"

def splitRecordingModeFromString : String → Option SplitRecordingMode :=
  enumFromString [("off", .off), ("every15", .every15Min), ("every30", .every30Min),
    ("every60", .every60Min), ("custom", .custom)]

def splitSizeModeToString : SplitSizeMode → String
  | .off => "off"
  | .custom => "custom"

def splitSizeModeFromString : String → Option SplitSizeMode :=
  enumFromString [("off", .off), ("custom", .custom)]

def outputFitModeToString : Engine.OutputFitMode → String
  | .contain => "contain"

def outputFitModeFromString : String → Option Engine.OutputFitMode :=
  enumFromString [("contain", .contain), ("fit", .contain)]

def opusFrameDurationToString : Engine.OpusFrameDuration → String
  | .ms20 => "20ms"
  | .ms10 => "10ms"
  | .ms5 => "5ms"
  | .ms2_5 => "2.5ms"

def opusFrameDurationFromString : String → Option Engine.OpusFrameDuration :=
  enumFromString [("20ms", .ms20), ("10ms", .ms10), ("5ms", .ms5), ("2.5ms", .ms2_5)]

/-! ## What is stored is read back -/

/-- Neither white space nor a capital. -/
def isPlain (c : Char) : Bool :=
  !isSpace c && (if c = '\u212A' then 'k' else c.toLower) == c

theorem trimmed_of_plain {s : String} (hs : s.toList.all isPlain = true) : trimmed s = s := by
  have hspace : ∀ c ∈ s.toList, isSpace c = false := by
    intro c hc
    have hplain := List.all_eq_true.mp hs c hc
    unfold isPlain at hplain
    simp_all
  exact Trimming.trimString_eq_self
    ⟨fun c hc => hspace c (List.mem_of_mem_head? hc), fun c hc => hspace c (List.mem_of_getLast? hc)⟩

theorem toLower_of_plain {s : String} (hs : s.toList.all isPlain = true) : toLower s = s := by
  unfold toLower
  rw [← String.toList_inj, String.toList_map]
  refine (List.map_congr_left fun c hc => ?_).trans (List.map_id _)
  have hplain := List.all_eq_true.mp hs c hc
  unfold isPlain at hplain
  simp_all

/-- A plain name is looked up as it is. -/
theorem enumFromString_eq {α : Type} {names : List (String × α)} {s : String} {a : α}
    (hs : s.toList.all isPlain = true) (h : names.lookup s = some a) :
    enumFromString names s = some a := by
  unfold enumFromString
  rw [trimmed_of_plain hs, toLower_of_plain hs, h]

@[simp] theorem containerFromString_toString (v : Container) :
    containerFromString (containerToString v) = some v := by
  cases v <;> exact enumFromString_eq (by decide) rfl

@[simp] theorem videoCodecFromString_toString (v : VideoCodec) :
    videoCodecFromString (videoCodecToString v) = some v := by
  cases v <;> exact enumFromString_eq (by decide) rfl

@[simp] theorem videoBitDepthFromString_toString (v : BitDepth) :
    videoBitDepthFromString (videoBitDepthToString v) = some v := by
  cases v <;> exact enumFromString_eq (by decide) rfl

@[simp] theorem chromaSubsamplingFromString_toString (v : ChromaSubsampling) :
    chromaSubsamplingFromString (chromaSubsamplingToString v) = some v := by
  unfold chromaSubsamplingFromString
  cases v <;> rw [trimmed_of_plain (by decide)] <;> rfl

@[simp] theorem colorRangeFromString_toString (v : ColorRange) :
    colorRangeFromString (colorRangeToString v) = some v := by
  cases v <;> exact enumFromString_eq (by decide) rfl

@[simp] theorem audioCodecFromString_toString (v : AudioCodec) :
    audioCodecFromString (audioCodecToString v) = some v := by
  cases v <;> exact enumFromString_eq (by decide) rfl

@[simp] theorem nvencPresetFromString_toString (v : Engine.NvencPreset) :
    nvencPresetFromString (nvencPresetToString v) = some v := by
  cases v <;> exact enumFromString_eq (by decide) rfl

@[simp] theorem encoderDeviceModeFromString_toString (v : Engine.EncoderDevicePreference.Mode) :
    encoderDeviceModeFromString (encoderDeviceModeToString v) = some v := by
  cases v <;> exact enumFromString_eq (by decide) rfl

@[simp] theorem hdrModeFromString_toString (v : HdrMode) :
    hdrModeFromString (hdrModeToString v) = some v := by
  cases v <;> exact enumFromString_eq (by decide) rfl

@[simp] theorem rateControlModeFromString_toString (v : Engine.RateControlMode) :
    rateControlModeFromString (rateControlModeToString v) = some v := by
  cases v <;> exact enumFromString_eq (by decide) rfl

@[simp] theorem micChannelModeFromString_toString (v : Engine.MicChannelMode) :
    micChannelModeFromString (micChannelModeToString v) = some v := by
  cases v <;> exact enumFromString_eq (by decide) rfl

@[simp] theorem captureTargetKindFromString_toString (v : CaptureTargetKind) :
    captureTargetKindFromString (captureTargetKindToString v) = some v := by
  cases v <;> exact enumFromString_eq (by decide) rfl

@[simp] theorem audioSourceKindFromString_toString (v : Engine.AudioSourceKind) :
    audioSourceKindFromString (audioSourceKindToString v) = some v := by
  cases v <;> exact enumFromString_eq (by decide) rfl

@[simp] theorem webcamChromaKeyColorModeFromString_toString (v : WebcamChromaKeyColorMode) :
    webcamChromaKeyColorModeFromString (webcamChromaKeyColorModeToString v) = some v := by
  cases v <;> exact enumFromString_eq (by decide) rfl

@[simp] theorem presetCaptureKindFromString_toString (v : PresetCaptureKind) :
    presetCaptureKindFromString (presetCaptureKindToString v) = some v := by
  cases v <;> exact enumFromString_eq (by decide) rfl

@[simp] theorem outputResolutionModeFromString_toString (v : OutputResolutionMode) :
    outputResolutionModeFromString (outputResolutionModeToString v) = some v := by
  cases v <;> exact enumFromString_eq (by decide) rfl

@[simp] theorem splitRecordingModeFromString_toString (v : SplitRecordingMode) :
    splitRecordingModeFromString (splitRecordingModeToString v) = some v := by
  cases v <;> exact enumFromString_eq (by decide) rfl

@[simp] theorem splitSizeModeFromString_toString (v : SplitSizeMode) :
    splitSizeModeFromString (splitSizeModeToString v) = some v := by
  cases v <;> exact enumFromString_eq (by decide) rfl

@[simp] theorem outputFitModeFromString_toString (v : Engine.OutputFitMode) :
    outputFitModeFromString (outputFitModeToString v) = some v := by
  cases v
  exact enumFromString_eq (by decide) rfl

@[simp] theorem opusFrameDurationFromString_toString (v : Engine.OpusFrameDuration) :
    opusFrameDurationFromString (opusFrameDurationToString v) = some v := by
  cases v <;> exact enumFromString_eq (by decide) rfl

end Exosnap.Settings
