/-
  A preset as a TOML document (`RecordingPresetStore.cpp`): the writer and the reader of a
  configuration, section by section.

  A floating-point number of a document is a binary64 number, to which the fields are widened and from
  which they are narrowed. An integer is a 64-bit number; a cast to a field keeps its low bits. What
  has no use here (dates and times) is left out of the documents.
-/
import Exosnap.Lib.FloatWidening
import Exosnap.Lib.OrderedTable
import Exosnap.Models.PresetConfig
import Exosnap.Models.RecordingPreset
import Exosnap.Settings.PresetNames

namespace Exosnap.Settings

open FloatWidening (widen narrow)
open Capability Models

/-! ## TOML -/

/-- A value. A table is kept in the order of its keys. -/
inductive Toml where
  | string (value : String)
  | integer (value : Int)
  | float (value : Float)
  | boolean (value : Bool)
  | array (values : List Toml)
  | table (fields : List (String × Toml))

namespace Toml

/-- A table to which entries are added one after another. -/
def ofEntries (entries : List (String × Toml)) : Toml := .table (OrderedTable.ofList entries)

/-- A field of an unsigned type, as the number it is. -/
def ofUInt32 (n : UInt32) : Toml := .integer n.toNat

def ofInt32 (n : Int32) : Toml := .integer n.toInt

def ofUInt8 (n : UInt8) : Toml := .integer n.toNat

def ofFloat32 (f : Float32) : Toml := .float (widen f)

end Toml

/-- The node at a key, if there is one. -/
def nodeAt (node : Option Toml) (key : String) : Option Toml :=
  match node with
  | some (.table fields) => fields.lookup key
  | _ => none

def tomlStr (node : Option Toml) (default : String) : String :=
  match node with
  | some (.string s) => s
  | _ => default

def tomlBool (node : Option Toml) (default : Bool) : Bool :=
  match node with
  | some (.boolean b) => b
  | _ => default

def tomlInt (node : Option Toml) (default : Int) : Int :=
  match node with
  | some (.integer i) => i
  | _ => default

/-- An integer is taken for the number it is. -/
def tomlFloat (node : Option Toml) (default : Float) : Float :=
  match node with
  | some (.float f) => f
  | some (.integer i) => Float.ofInt i
  | _ => default

/-! ## The capture target -/

def stableDisplayIdToToml (id : StableDisplayId) : Toml :=
  .ofEntries
    [("device_path", .string id.devicePath),
      ("edid_vendor", .string id.edidVendor),
      ("edid_product", .ofUInt32 id.edidProduct),
      ("serial", .string id.serial),
      ("friendly_name", .string id.friendlyName),
      ("gdi_name", .string id.gdiName),
      ("seq_hint", .ofInt32 id.seqHint)]

def stableDisplayIdFromToml (node : Option Toml) : StableDisplayId where
  devicePath := tomlStr (nodeAt node "device_path") ""
  edidVendor := tomlStr (nodeAt node "edid_vendor") ""
  edidProduct := .ofInt (tomlInt (nodeAt node "edid_product") 0)
  serial := tomlStr (nodeAt node "serial") ""
  friendlyName := tomlStr (nodeAt node "friendly_name") ""
  gdiName := tomlStr (nodeAt node "gdi_name") ""
  seqHint := .ofInt (tomlInt (nodeAt node "seq_hint") 0)

def captureToToml (cap : PresetCaptureTarget) : Toml :=
  .ofEntries
    [("kind", .string (presetCaptureKindToString cap.kind)),
      ("display_id", stableDisplayIdToToml cap.displayId),
      ("window_key", .string cap.windowKey),
      ("has_region", .boolean cap.hasRegion),
      ("region_display_id", stableDisplayIdToToml cap.regionDisplayId),
      ("region_x_norm", .ofFloat32 cap.regionXNorm),
      ("region_y_norm", .ofFloat32 cap.regionYNorm),
      ("region_w_norm", .ofFloat32 cap.regionWNorm),
      ("region_h_norm", .ofFloat32 cap.regionHNorm)]

def captureFromToml (node : Option Toml) : PresetCaptureTarget where
  kind := (presetCaptureKindFromString (tomlStr (nodeAt node "kind") "")).getD .display
  displayId := stableDisplayIdFromToml (nodeAt node "display_id")
  windowKey := tomlStr (nodeAt node "window_key") ""
  hasRegion := tomlBool (nodeAt node "has_region") false
  regionDisplayId := stableDisplayIdFromToml (nodeAt node "region_display_id")
  regionXNorm := narrow (tomlFloat (nodeAt node "region_x_norm") 0.0)
  regionYNorm := narrow (tomlFloat (nodeAt node "region_y_norm") 0.0)
  regionWNorm := narrow (tomlFloat (nodeAt node "region_w_norm") 0.0)
  regionHNorm := narrow (tomlFloat (nodeAt node "region_h_norm") 0.0)

/-! ## Output -/

def outputToToml (out : OutputSettingsModel) : Toml :=
  .ofEntries
    [("folder", .string out.outputFolder),
      ("naming_pattern", .string out.namingPattern),
      ("container", .string (containerToString out.container)),
      ("video_codec", .string (videoCodecToString out.videoCodec)),
      ("bit_depth", .string (videoBitDepthToString out.bitDepth)),
      ("chroma_subsampling", .string (chromaSubsamplingToString out.chromaSubsampling)),
      ("color_range", .string (colorRangeToString out.colorRange)),
      ("nvenc_preset", .string (nvencPresetToString out.nvencPreset)),
      ("hdr_mode", .string (hdrModeToString out.hdrMode)),
      ("audio_codec", .string (audioCodecToString out.audioCodec)),
      ("resolution_mode", .string (outputResolutionModeToString out.resolution.mode)),
      ("custom_width", .ofUInt32 out.resolution.customWidth),
      ("custom_height", .ofUInt32 out.resolution.customHeight),
      ("fit_mode", .string (outputFitModeToString out.resolution.fit)),
      ("split_mode", .string (splitRecordingModeToString out.split.mode)),
      ("split_custom_minutes", .ofUInt32 out.split.customMinutes),
      ("split_size_mode", .string (splitSizeModeToString out.split.sizeMode)),
      ("split_custom_size_mb", .ofUInt32 out.split.customSizeMb)]

/-- A number that is positive, else what stands there already. -/
def positiveOr (default : UInt32) (n : Int) : UInt32 := if n > 0 then .ofInt n else default

/-- Both dimensions are taken, or neither. -/
def resolutionFromToml (node : Option Toml) : OutputResolutionSettings :=
  let resolution : OutputResolutionSettings := {}
  let w := tomlInt (nodeAt node "custom_width") 0
  let h := tomlInt (nodeAt node "custom_height") 0
  { mode :=
      (outputResolutionModeFromString (tomlStr (nodeAt node "resolution_mode") "")).getD
        resolution.mode
    customWidth := if w ≥ 0 ∧ h ≥ 0 then .ofInt w else resolution.customWidth
    customHeight := if w ≥ 0 ∧ h ≥ 0 then .ofInt h else resolution.customHeight
    fit := (outputFitModeFromString (tomlStr (nodeAt node "fit_mode") "")).getD resolution.fit }

def splitFromToml (node : Option Toml) : SplitRecordingSettings :=
  let split : SplitRecordingSettings := {}
  { mode := (splitRecordingModeFromString (tomlStr (nodeAt node "split_mode") "")).getD split.mode
    customMinutes := positiveOr split.customMinutes (tomlInt (nodeAt node "split_custom_minutes") 30)
    sizeMode := (splitSizeModeFromString (tomlStr (nodeAt node "split_size_mode") "")).getD split.sizeMode
    customSizeMb :=
      positiveOr split.customSizeMb (tomlInt (nodeAt node "split_custom_size_mb") 2048) }

def outputFromToml (node : Option Toml) : OutputSettingsModel :=
  let out : OutputSettingsModel := {}
  let folder := tomlStr (nodeAt node "folder") ""
  let pat := tomlStr (nodeAt node "naming_pattern") ""
  { outputFolder := if folder ≠ "" then folder else out.outputFolder
    namingPattern := if pat ≠ "" then pat else out.namingPattern
    container := (containerFromString (tomlStr (nodeAt node "container") "")).getD out.container
    videoCodec := (videoCodecFromString (tomlStr (nodeAt node "video_codec") "")).getD out.videoCodec
    bitDepth := (videoBitDepthFromString (tomlStr (nodeAt node "bit_depth") "")).getD out.bitDepth
    chromaSubsampling :=
      (chromaSubsamplingFromString (tomlStr (nodeAt node "chroma_subsampling") "")).getD
        out.chromaSubsampling
    colorRange := (colorRangeFromString (tomlStr (nodeAt node "color_range") "")).getD out.colorRange
    nvencPreset :=
      (nvencPresetFromString (tomlStr (nodeAt node "nvenc_preset") "")).getD out.nvencPreset
    hdrMode := (hdrModeFromString (tomlStr (nodeAt node "hdr_mode") "")).getD out.hdrMode
    audioCodec := (audioCodecFromString (tomlStr (nodeAt node "audio_codec") "")).getD out.audioCodec
    resolution := resolutionFromToml node
    split := splitFromToml node }

/-! ## Video -/

/-- There is no entry for `keyframe_interval`. -/
def videoToToml (vid : VideoSettingsModel) : Toml :=
  .ofEntries
    [("cq", .ofUInt32 vid.cq),
      ("rate_control", .string (rateControlModeToString vid.rateControl)),
      ("bitrate_kbps", .ofUInt32 vid.bitrateKbps),
      ("cfr", .boolean vid.cfr),
      ("frame_pacing", .ofUInt8 vid.framePacing),
      ("capture_cursor", .boolean vid.captureCursor),
      ("frame_rate_num", .ofUInt32 vid.frameRateNum),
      ("frame_rate_den", .ofUInt32 vid.frameRateDen),
      ("encoder_device", .string (encoderDeviceModeToString vid.encoderDevice.mode)),
      ("encoder_device_vendor_id", .ofUInt32 vid.encoderDevice.device.vendorId),
      ("encoder_device_id", .ofUInt32 vid.encoderDevice.device.deviceId),
      ("encoder_device_subsystem_id", .ofUInt32 vid.encoderDevice.device.subsystemId),
      ("encoder_device_name", .string vid.encoderDevice.device.name)]

def encoderDeviceFromToml (node : Option Toml) : Engine.EncoderDevicePreference :=
  let preference : Engine.EncoderDevicePreference := {}
  { mode :=
      (encoderDeviceModeFromString (tomlStr (nodeAt node "encoder_device") "")).getD preference.mode
    device :=
      { vendorId := positiveOr preference.device.vendorId
          (tomlInt (nodeAt node "encoder_device_vendor_id") 0)
        deviceId := positiveOr preference.device.deviceId
          (tomlInt (nodeAt node "encoder_device_id") 0)
        subsystemId := positiveOr preference.device.subsystemId
          (tomlInt (nodeAt node "encoder_device_subsystem_id") 0)
        name := tomlStr (nodeAt node "encoder_device_name") "" } }

/-- The key frame interval is never set, and stays what it is by default. -/
def videoFromToml (node : Option Toml) : VideoSettingsModel :=
  let vid : VideoSettingsModel := {}
  let cq := tomlInt (nodeAt node "cq") vid.cq.toNat
  let num := tomlInt (nodeAt node "frame_rate_num") 60
  let den := tomlInt (nodeAt node "frame_rate_den") 1
  { vid with
    cq := if cq ≥ Engine.kCqMin.toNat ∧ cq ≤ Engine.kCqMax.toNat then .ofInt cq else vid.cq
    rateControl :=
      (rateControlModeFromString (tomlStr (nodeAt node "rate_control") "")).getD vid.rateControl
    bitrateKbps := positiveOr vid.bitrateKbps (tomlInt (nodeAt node "bitrate_kbps") 20000)
    cfr := if (nodeAt node "cfr").isSome then tomlBool (nodeAt node "cfr") true else vid.cfr
    captureCursor :=
      if (nodeAt node "capture_cursor").isSome then tomlBool (nodeAt node "capture_cursor") true
      else vid.captureCursor
    frameRateNum := if num > 0 ∧ den > 0 then .ofInt num else vid.frameRateNum
    frameRateDen := if num > 0 ∧ den > 0 then .ofInt den else vid.frameRateDen
    framePacing := .ofInt (tomlInt (nodeAt node "frame_pacing") 0)
    encoderDevice := encoderDeviceFromToml node }

/-! ## Audio -/

def sourceRowToToml (row : Engine.AudioSourceRow) : Toml :=
  .ofEntries
    [("kind", .string (audioSourceKindToString row.kind)),
      ("enabled", .boolean row.enabled),
      ("merge", .boolean row.mergeWithAbove),
      ("gain_db", .ofFloat32 row.gainDb),
      ("muted", .boolean row.muted)]

/-- A row is left out when it is no table, or of no kind that is known. -/
def sourceRowFromToml : Toml → Option Engine.AudioSourceRow
  | .table fields => do
      let node := some (Toml.table fields)
      let kind ← audioSourceKindFromString (tomlStr (nodeAt node "kind") "")
      return {
        kind
        enabled := tomlBool (nodeAt node "enabled") true
        mergeWithAbove := tomlBool (nodeAt node "merge") false
        gainDb := narrow (tomlFloat (nodeAt node "gain_db") 0.0)
        muted := tomlBool (nodeAt node "muted") false }
  | _ => none

def sourceRowsFromToml : Option Toml → List Engine.AudioSourceRow
  | some (.array elems) => elems.filterMap sourceRowFromToml
  | _ => []

def audioToToml (aud : AudioUiState) : Toml :=
  .ofEntries
    [("target_kind", .string (captureTargetKindToString aud.targetKind)),
      ("mic_channel_mode", .string (micChannelModeToString aud.micChannelMode)),
      ("selected_mic_device_id", .string (aud.selectedMicDeviceId.getD "")),
      ("mic_gain_linear", .ofFloat32 aud.micGainLinear),
      ("has_window_pid", .boolean aud.selectedWindowPid.isSome),
      ("window_pid", .ofUInt32 (aud.selectedWindowPid.getD 0)),
      ("audio_bitrate_kbps", .ofUInt32 aud.audioBitrateKbps),
      ("opus_frame_duration", .string (opusFrameDurationToString aud.opusFrameDuration)),
      ("opus_complexity", .ofInt32 aud.opusComplexity),
      ("limiter_enabled", .boolean aud.limiterEnabled),
      ("limiter_ceiling_db", .ofFloat32 aud.limiterCeilingDb),
      ("clock_slaving_enabled", .boolean aud.clockSlavingEnabled),
      ("mic_hpf_enabled", .boolean aud.micHpfEnabled),
      ("mic_hpf_cutoff_hz", .ofFloat32 aud.micHpfCutoffHz),
      ("mic_gate_enabled", .boolean aud.micGateEnabled),
      ("mic_gate_threshold_db", .ofFloat32 aud.micGateThresholdDb),
      ("mic_agc_enabled", .boolean aud.micAgcEnabled),
      ("mic_agc_target_db", .ofFloat32 aud.micAgcTargetDb),
      ("mic_rnnoise_enabled", .boolean aud.micRnnoiseEnabled),
      ("audio_sample_rate", .ofUInt32 aud.audioSampleRate),
      ("audio_channels", .ofUInt32 aud.audioChannels),
      ("audio_bit_depth", .ofUInt32 aud.audioBitDepth),
      ("pcm_float", .boolean aud.audioPcmFloat),
      ("flac_compression_level", .ofInt32 aud.flacCompressionLevel),
      ("sources", .array (aud.sourceRows.map sourceRowToToml))]

def micDeviceIdFromToml (node : Option Toml) : Option String :=
  let micDev := trimmed (tomlStr (nodeAt node "selected_mic_device_id") "")
  if micDev = "" then none else some micDev

def windowPidFromToml (node : Option Toml) : Option UInt32 :=
  if tomlBool (nodeAt node "has_window_pid") false then
    let pid := tomlInt (nodeAt node "window_pid") 0
    if pid > 0 then some (.ofInt pid) else none
  else none

/-- One of a few numbers, else a default. -/
def oneOf (allowed : List Int) (default : UInt32) (n : Int) : UInt32 :=
  if allowed.contains n then .ofInt n else default

/-- A number of a range, else a default. -/
def inRange (lo hi : Int) (default : Int32) (n : Int) : Int32 :=
  if n ≥ lo ∧ n ≤ hi then .ofInt n else default

def audioFromToml (node : Option Toml) : AudioUiState :=
  let aud : AudioUiState := {}
  let bk := tomlInt (nodeAt node "audio_bitrate_kbps") 160
  { targetKind :=
      (captureTargetKindFromString (tomlStr (nodeAt node "target_kind") "")).getD aud.targetKind
    sourceRows := sourceRowsFromToml (nodeAt node "sources")
    micChannelMode :=
      (micChannelModeFromString (tomlStr (nodeAt node "mic_channel_mode") "")).getD aud.micChannelMode
    selectedMicDeviceId := micDeviceIdFromToml node
    micGainLinear := narrow (tomlFloat (nodeAt node "mic_gain_linear") 1.0)
    selectedWindowPid := windowPidFromToml node
    audioBitrateKbps := if bk ≥ 0 then .ofInt bk else 160
    opusFrameDuration :=
      (opusFrameDurationFromString (tomlStr (nodeAt node "opus_frame_duration") "")).getD .ms20
    opusComplexity := inRange 0 10 10 (tomlInt (nodeAt node "opus_complexity") 10)
    limiterEnabled := tomlBool (nodeAt node "limiter_enabled") true
    limiterCeilingDb := narrow (tomlFloat (nodeAt node "limiter_ceiling_db") 0.0)
    clockSlavingEnabled := tomlBool (nodeAt node "clock_slaving_enabled") true
    micHpfEnabled := tomlBool (nodeAt node "mic_hpf_enabled") false
    micHpfCutoffHz := narrow (tomlFloat (nodeAt node "mic_hpf_cutoff_hz") 80.0)
    micGateEnabled := tomlBool (nodeAt node "mic_gate_enabled") false
    micGateThresholdDb := narrow (tomlFloat (nodeAt node "mic_gate_threshold_db") (-45.0))
    micAgcEnabled := tomlBool (nodeAt node "mic_agc_enabled") false
    micAgcTargetDb := narrow (tomlFloat (nodeAt node "mic_agc_target_db") (-18.0))
    micRnnoiseEnabled := tomlBool (nodeAt node "mic_rnnoise_enabled") false
    audioSampleRate :=
      oneOf [44100, 48000, 96000] 48000 (tomlInt (nodeAt node "audio_sample_rate") 48000)
    audioChannels := oneOf [1, 2] 2 (tomlInt (nodeAt node "audio_channels") 2)
    audioBitDepth := oneOf [16, 24, 32] 16 (tomlInt (nodeAt node "audio_bit_depth") 16)
    audioPcmFloat := tomlBool (nodeAt node "pcm_float") false
    flacCompressionLevel := inRange 0 8 5 (tomlInt (nodeAt node "flac_compression_level") 5) }

/-! ## Webcam -/

def chromaKeyToToml (ck : WebcamChromaKeySettings) : Toml :=
  .ofEntries
    [("enabled", .boolean ck.enabled),
      ("color_mode", .string (webcamChromaKeyColorModeToString ck.colorMode)),
      ("custom_r", .ofUInt8 ck.customR),
      ("custom_g", .ofUInt8 ck.customG),
      ("custom_b", .ofUInt8 ck.customB),
      ("tolerance", .ofFloat32 ck.tolerance),
      ("softness", .ofFloat32 ck.softness),
      ("spill", .ofFloat32 ck.spillReduction)]

def chromaKeyFromToml (node : Option Toml) : WebcamChromaKeySettings :=
  let ck : WebcamChromaKeySettings := {}
  { enabled := tomlBool (nodeAt node "enabled") false
    colorMode :=
      (webcamChromaKeyColorModeFromString (tomlStr (nodeAt node "color_mode") "")).getD ck.colorMode
    customR := .ofInt (tomlInt (nodeAt node "custom_r") 0)
    customG := .ofInt (tomlInt (nodeAt node "custom_g") 255)
    customB := .ofInt (tomlInt (nodeAt node "custom_b") 0)
    tolerance := narrow (tomlFloat (nodeAt node "tolerance") 0.40)
    softness := narrow (tomlFloat (nodeAt node "softness") 0.15)
    spillReduction := narrow (tomlFloat (nodeAt node "spill") 0.30) }

def webcamToToml (wc : WebcamSettings) : Toml :=
  .ofEntries
    [("enabled", .boolean wc.enabled),
      ("device_id", .string wc.deviceId),
      ("width", .ofInt32 wc.width),
      ("height", .ofInt32 wc.height),
      ("fps", .ofInt32 wc.fps),
      ("overlay_x", .ofFloat32 wc.overlay.xNorm),
      ("overlay_y", .ofFloat32 wc.overlay.yNorm),
      ("overlay_w", .ofFloat32 wc.overlay.wNorm),
      ("overlay_h", .ofFloat32 wc.overlay.hNorm),
      ("overlay_user_placed", .boolean wc.overlayUserPlaced),
      ("aspect_ratio_locked", .boolean wc.aspectRatioLocked),
      ("mirror", .boolean wc.mirror),
      ("opacity", .ofFloat32 wc.opacity),
      ("chroma_key", chromaKeyToToml wc.chromaKey)]

def webcamFromToml (node : Option Toml) : WebcamSettings where
  enabled := tomlBool (nodeAt node "enabled") false
  deviceId := tomlStr (nodeAt node "device_id") ""
  width := .ofInt (tomlInt (nodeAt node "width") 1280)
  height := .ofInt (tomlInt (nodeAt node "height") 720)
  fps := .ofInt (tomlInt (nodeAt node "fps") 30)
  overlay :=
    { xNorm := narrow (tomlFloat (nodeAt node "overlay_x") 0.0)
      yNorm := narrow (tomlFloat (nodeAt node "overlay_y") 0.0)
      wNorm := narrow (tomlFloat (nodeAt node "overlay_w") 0.25)
      hNorm := narrow (tomlFloat (nodeAt node "overlay_h") 0.25) }
  overlayUserPlaced := tomlBool (nodeAt node "overlay_user_placed") false
  aspectRatioLocked := tomlBool (nodeAt node "aspect_ratio_locked") true
  mirror := tomlBool (nodeAt node "mirror") false
  opacity := narrow (tomlFloat (nodeAt node "opacity") 1.0)
  chromaKey := chromaKeyFromToml (nodeAt node "chroma_key")

/-! ## Configurations and presets -/

def configEntries (config : RecordingPresetConfig) : List (String × Toml) :=
  [("capture", captureToToml config.capture),
    ("output", outputToToml config.output),
    ("video", videoToToml config.video),
    ("audio", audioToToml config.audio),
    ("webcam", webcamToToml config.webcam),
    ("countdown_seconds", .ofInt32 config.countdownSeconds)]

def configToToml (config : RecordingPresetConfig) : Toml := .ofEntries (configEntries config)

def presetToToml (preset : RecordingPreset RecordingPresetConfig) : Toml :=
  .ofEntries
    (configEntries preset.config ++ [("id", .string preset.id), ("name", .string preset.name)])

def configFromToml (tbl : Toml) : RecordingPresetConfig where
  capture := captureFromToml (nodeAt (some tbl) "capture")
  output := outputFromToml (nodeAt (some tbl) "output")
  video := videoFromToml (nodeAt (some tbl) "video")
  audio := audioFromToml (nodeAt (some tbl) "audio")
  webcam := webcamFromToml (nodeAt (some tbl) "webcam")
  countdownSeconds := .ofInt (tomlInt (nodeAt (some tbl) "countdown_seconds") 0)

/-- No preset without an id. -/
def presetFromToml (tbl : Toml) : Option (RecordingPreset RecordingPresetConfig) :=
  let id := trimmed (tomlStr (nodeAt (some tbl) "id") "")
  if id.isEmpty then none
  else some { id, name := tomlStr (nodeAt (some tbl) "name") "", config := configFromToml tbl }

end Exosnap.Settings
