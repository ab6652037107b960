/-
  What a configuration is after it was written and read back: itself, but for the key frame interval,
  which is not written. Each section has its lemma; `ReadableConfig` is what the reader asks of the
  fields it checks.
-/
import Exosnap.Models.PresetSanitizer
import Exosnap.Settings.PresetToml

namespace Exosnap.Settings

open FloatWidening (widen narrow narrow_widen)
open Capability Models

/-! ## Nodes -/

@[simp] theorem nodeAt_ofEntries (entries : List (String × Toml)) (key : String) :
    nodeAt (some (.ofEntries entries)) key = entries.lookup key :=
  OrderedTable.lookup_ofList entries key

@[simp] theorem tomlStr_string (s default : String) : tomlStr (some (.string s)) default = s := rfl

@[simp] theorem tomlBool_boolean (b default : Bool) : tomlBool (some (.boolean b)) default = b := rfl

@[simp] theorem tomlInt_ofUInt32 (n : UInt32) (default : Int) :
    tomlInt (some (.ofUInt32 n)) default = n.toNat := rfl

@[simp] theorem tomlInt_ofInt32 (n : Int32) (default : Int) :
    tomlInt (some (.ofInt32 n)) default = n.toInt := rfl

@[simp] theorem tomlInt_ofUInt8 (n : UInt8) (default : Int) :
    tomlInt (some (.ofUInt8 n)) default = n.toNat := rfl

@[simp] theorem narrow_tomlFloat_ofFloat32 (f : Float32) (default : Float) :
    narrow (tomlFloat (some (.ofFloat32 f)) default) = f := narrow_widen f

@[simp] theorem ofInt_toNat_uint32 (n : UInt32) : UInt32.ofInt n.toNat = n := by
  have hn := n.toNat_lt
  have hmod : ((n.toNat : Int) % 2 ^ 32).toNat = n.toNat := by omega
  rw [UInt32.ofInt, hmod, UInt32.ofNat_toNat]

@[simp] theorem ofInt_toNat_uint8 (n : UInt8) : UInt8.ofInt n.toNat = n := by
  have hn := n.toNat_lt
  have hmod : ((n.toNat : Int) % 2 ^ 8).toNat = n.toNat := by omega
  rw [UInt8.ofInt, hmod, UInt8.ofNat_toNat]

theorem positiveOr_of_pos {n : UInt32} (default : UInt32) (h : 0 < n) :
    positiveOr default n.toNat = n := by
  have hn : (n.toNat : Int) > 0 := by exact_mod_cast UInt32.lt_iff_toNat_lt.mp h
  rw [positiveOr, if_pos hn, ofInt_toNat_uint32]

@[simp] theorem positiveOr_zero (n : UInt32) : positiveOr 0 n.toNat = n := by
  by_cases h : 0 < n
  · exact positiveOr_of_pos 0 h
  · have hzero : n = 0 := UInt32.toNat_inj.mp (by
      rw [UInt32.lt_iff_toNat_lt] at h
      simpa using h)
    rw [hzero]
    rfl

theorem inRange_of_mem {lo hi n : Int32} (default : Int32) (h : lo ≤ n ∧ n ≤ hi) :
    inRange lo.toInt hi.toInt default n.toInt = n := by
  have hn : n.toInt ≥ lo.toInt ∧ n.toInt ≤ hi.toInt :=
    ⟨Int32.le_iff_toInt_le.mp h.1, Int32.le_iff_toInt_le.mp h.2⟩
  rw [inRange, if_pos hn, Int32.ofInt_toInt]

/-! ## Sections -/

@[simp] theorem stableDisplayIdFromToml_toToml (id : StableDisplayId) :
    stableDisplayIdFromToml (some (stableDisplayIdToToml id)) = id := by
  simp [stableDisplayIdFromToml, stableDisplayIdToToml, List.lookup]

@[simp] theorem captureFromToml_toToml (cap : PresetCaptureTarget) :
    captureFromToml (some (captureToToml cap)) = cap := by
  simp [captureFromToml, captureToToml, List.lookup]

theorem resolutionFromToml_toToml (out : OutputSettingsModel) :
    resolutionFromToml (some (outputToToml out)) = out.resolution := by
  simp [resolutionFromToml, outputToToml, List.lookup]

theorem splitFromToml_toToml {out : OutputSettingsModel} (hminutes : 0 < out.split.customMinutes)
    (hsize : 0 < out.split.customSizeMb) :
    splitFromToml (some (outputToToml out)) = out.split := by
  simp [splitFromToml, outputToToml, List.lookup, positiveOr_of_pos _ hminutes,
    positiveOr_of_pos _ hsize]

theorem outputFromToml_toToml {out : OutputSettingsModel} (hfolder : out.outputFolder ≠ "")
    (hpattern : out.namingPattern ≠ "") (hminutes : 0 < out.split.customMinutes)
    (hsize : 0 < out.split.customSizeMb) : outputFromToml (some (outputToToml out)) = out := by
  unfold outputFromToml
  rw [resolutionFromToml_toToml, splitFromToml_toToml hminutes hsize]
  simp [outputToToml, List.lookup, hfolder, hpattern]

theorem encoderDeviceFromToml_toToml (vid : VideoSettingsModel) :
    encoderDeviceFromToml (some (videoToToml vid)) = vid.encoderDevice := by
  simp [encoderDeviceFromToml, videoToToml, List.lookup]

/-- The key frame interval is not written, and is read as its default. -/
theorem videoFromToml_toToml {vid : VideoSettingsModel}
    (hcq : Engine.kCqMin ≤ vid.cq ∧ vid.cq ≤ Engine.kCqMax) (hbitrate : 0 < vid.bitrateKbps)
    (hrate : 0 < vid.frameRateNum ∧ 0 < vid.frameRateDen) :
    videoFromToml (some (videoToToml vid)) = { vid with keyframeInterval := .seconds2 } := by
  have hmin : Engine.kCqMin.toNat ≤ vid.cq.toNat := UInt32.le_iff_toNat_le.mp hcq.1
  have hmax : vid.cq.toNat ≤ Engine.kCqMax.toNat := UInt32.le_iff_toNat_le.mp hcq.2
  have hnum : vid.frameRateNum.toNat ≠ 0 := Nat.pos_iff_ne_zero.mp (UInt32.lt_iff_toNat_lt.mp hrate.1)
  have hden : vid.frameRateDen.toNat ≠ 0 := Nat.pos_iff_ne_zero.mp (UInt32.lt_iff_toNat_lt.mp hrate.2)
  unfold videoFromToml
  rw [encoderDeviceFromToml_toToml]
  simp [videoToToml, List.lookup, positiveOr_of_pos _ hbitrate, hmin, hmax, hnum, hden,
    Nat.pos_iff_ne_zero]

theorem sourceRowFromToml_toToml (row : Engine.AudioSourceRow) :
    sourceRowFromToml (sourceRowToToml row) = some row := by
  have hnode : ∀ key, nodeAt (some (sourceRowToToml row)) key = _ := nodeAt_ofEntries _
  unfold sourceRowToToml Toml.ofEntries at hnode ⊢
  simp [sourceRowFromToml, hnode, List.lookup]

theorem sourceRowsFromToml_toToml (rows : List Engine.AudioSourceRow) :
    sourceRowsFromToml (some (.array (rows.map sourceRowToToml))) = rows := by
  simp only [sourceRowsFromToml, List.filterMap_map]
  exact (List.filterMap_congr fun row _ => sourceRowFromToml_toToml row).trans List.filterMap_some

theorem micDeviceIdFromToml_toToml {aud : AudioUiState}
    (hmic : ∀ id ∈ aud.selectedMicDeviceId, id ≠ "" ∧ trimmed id = id) :
    micDeviceIdFromToml (some (audioToToml aud)) = aud.selectedMicDeviceId := by
  unfold micDeviceIdFromToml audioToToml
  rw [nodeAt_ofEntries]
  cases hid : aud.selectedMicDeviceId with
  | none => simp [List.lookup]; rfl
  | some id =>
    obtain ⟨hne, htrim⟩ := hmic id hid
    simp [List.lookup, htrim, hne]

theorem windowPidFromToml_toToml {aud : AudioUiState}
    (hpid : ∀ pid ∈ aud.selectedWindowPid, 0 < pid) :
    windowPidFromToml (some (audioToToml aud)) = aud.selectedWindowPid := by
  unfold windowPidFromToml audioToToml
  rw [nodeAt_ofEntries, nodeAt_ofEntries]
  cases h : aud.selectedWindowPid with
  | none => simp [List.lookup]
  | some pid =>
    have hpos : pid.toNat ≠ 0 := Nat.pos_iff_ne_zero.mp (UInt32.lt_iff_toNat_lt.mp (hpid pid h))
    simp [List.lookup, hpos, Nat.pos_iff_ne_zero]

theorem audioFromToml_toToml {aud : AudioUiState}
    (hmic : ∀ id ∈ aud.selectedMicDeviceId, id ≠ "" ∧ trimmed id = id)
    (hpid : ∀ pid ∈ aud.selectedWindowPid, 0 < pid)
    (hcomplexity : 0 ≤ aud.opusComplexity ∧ aud.opusComplexity ≤ 10)
    (hrate : aud.audioSampleRate ∈ kValidRates)
    (hchannels : aud.audioChannels = 1 ∨ aud.audioChannels = 2)
    (hdepth : aud.audioBitDepth ∈ kPcmDepths)
    (hflac : 0 ≤ aud.flacCompressionLevel ∧ aud.flacCompressionLevel ≤ 8) :
    audioFromToml (some (audioToToml aud)) = aud := by
  have hcomplexity' : inRange 0 10 10 aud.opusComplexity.toInt = aud.opusComplexity :=
    inRange_of_mem 10 hcomplexity
  have hflac' : inRange 0 8 5 aud.flacCompressionLevel.toInt = aud.flacCompressionLevel :=
    inRange_of_mem 5 hflac
  have hrate' : oneOf [44100, 48000, 96000] 48000 aud.audioSampleRate.toNat = aud.audioSampleRate := by
    simp only [kValidRates, List.mem_cons, List.not_mem_nil, or_false] at hrate
    rcases hrate with h | h | h <;> rw [h] <;> rfl
  have hchannels' : oneOf [1, 2] 2 aud.audioChannels.toNat = aud.audioChannels := by
    rcases hchannels with h | h <;> rw [h] <;> rfl
  have hdepth' : oneOf [16, 24, 32] 16 aud.audioBitDepth.toNat = aud.audioBitDepth := by
    simp only [kPcmDepths, List.mem_cons, List.not_mem_nil, or_false] at hdepth
    rcases hdepth with h | h | h <;> rw [h] <;> rfl
  unfold audioFromToml
  rw [micDeviceIdFromToml_toToml hmic, windowPidFromToml_toToml hpid]
  simp [audioToToml, List.lookup, sourceRowsFromToml_toToml, hcomplexity', hflac', hrate', hchannels',
    hdepth']

@[simp] theorem chromaKeyFromToml_toToml (ck : WebcamChromaKeySettings) :
    chromaKeyFromToml (some (chromaKeyToToml ck)) = ck := by
  simp [chromaKeyFromToml, chromaKeyToToml, List.lookup]

@[simp] theorem webcamFromToml_toToml (wc : WebcamSettings) :
    webcamFromToml (some (webcamToToml wc)) = wc := by
  simp [webcamFromToml, webcamToToml, List.lookup]

/-! ## Configurations -/

/-- What the reader asks of the fields it checks. -/
structure ReadableConfig (config : RecordingPresetConfig) : Prop where
  folder : config.output.outputFolder ≠ ""
  pattern : config.output.namingPattern ≠ ""
  minutes : 0 < config.output.split.customMinutes
  sizeMb : 0 < config.output.split.customSizeMb
  cq : Engine.kCqMin ≤ config.video.cq ∧ config.video.cq ≤ Engine.kCqMax
  bitrate : 0 < config.video.bitrateKbps
  frameRate : 0 < config.video.frameRateNum ∧ 0 < config.video.frameRateDen
  mic : ∀ id ∈ config.audio.selectedMicDeviceId, id ≠ "" ∧ trimmed id = id
  pid : ∀ pid ∈ config.audio.selectedWindowPid, 0 < pid
  complexity : 0 ≤ config.audio.opusComplexity ∧ config.audio.opusComplexity ≤ 10
  sampleRate : config.audio.audioSampleRate ∈ kValidRates
  channels : config.audio.audioChannels = 1 ∨ config.audio.audioChannels = 2
  bitDepth : config.audio.audioBitDepth ∈ kPcmDepths
  flac : 0 ≤ config.audio.flacCompressionLevel ∧ config.audio.flacCompressionLevel ≤ 8

/-- What a configuration is after it was written and read. -/
def storedConfig (config : RecordingPresetConfig) : RecordingPresetConfig :=
  { config with video := { config.video with keyframeInterval := .seconds2 } }

theorem storedConfig_eq_self {config : RecordingPresetConfig} :
    storedConfig config = config ↔ config.video.keyframeInterval = .seconds2 := by
  refine ⟨fun h => (congrArg (·.video.keyframeInterval) h).symm, fun h => ?_⟩
  unfold storedConfig
  rw [← h]

/-- A configuration is read back from its entries, whatever entries come after them. -/
theorem configFromToml_configEntries {config : RecordingPresetConfig} (h : ReadableConfig config)
    (others : List (String × Toml)) :
    configFromToml (.ofEntries (configEntries config ++ others)) = storedConfig config := by
  simp [configFromToml, configEntries, List.lookup, storedConfig,
    outputFromToml_toToml h.folder h.pattern h.minutes h.sizeMb,
    videoFromToml_toToml h.cq h.bitrate h.frameRate,
    audioFromToml_toToml h.mic h.pid h.complexity h.sampleRate h.channels h.bitDepth h.flac]

theorem configFromToml_configToToml {config : RecordingPresetConfig} (h : ReadableConfig config) :
    configFromToml (configToToml config) = storedConfig config := by
  have hconfig := configFromToml_configEntries h []
  rwa [List.append_nil] at hconfig

/-- A preset with an id to read is read back. -/
theorem presetFromToml_presetToToml {p : RecordingPreset RecordingPresetConfig}
    (h : ReadableConfig p.config) (hid : p.id ≠ "") (htrim : trimmed p.id = p.id) :
    presetFromToml (presetToToml p) = some { p with config := storedConfig p.config } := by
  unfold presetFromToml presetToToml
  rw [configFromToml_configEntries h]
  simp [configEntries, List.lookup, htrim, hid]

/-- No document sets the key frame interval. -/
theorem keyframeInterval_configFromToml (tbl : Toml) :
    (configFromToml tbl).video.keyframeInterval = .seconds2 := rfl

/-! ## Sanitized configurations -/

theorem le_of_clampUInt32 {value lo hi : UInt32} (h : clampUInt32 value lo hi = value) :
    lo ≤ value := by
  unfold clampUInt32 at h
  split at h
  · exact h ▸ UInt32.le_refl lo
  · next hlo => exact UInt32.not_lt.mp hlo

theorem mem_of_clampInt32 {value lo hi : Int32} (hle : lo ≤ hi)
    (h : clampInt32 value lo hi = value) : lo ≤ value ∧ value ≤ hi := by
  unfold clampInt32 at h
  split at h
  · exact h ▸ ⟨Int32.le_refl lo, hle⟩
  · next hlo =>
    split at h
    · exact h ▸ ⟨hle, Int32.le_refl hi⟩
    · next hhi => exact ⟨Int32.not_lt.mp hlo, Int32.not_lt.mp hhi⟩

theorem frameRate_of_sanitizeVideo {video : VideoSettingsModel}
    (hnum : (sanitizeVideo video).frameRateNum = video.frameRateNum)
    (hden : (sanitizeVideo video).frameRateDen = video.frameRateDen) :
    0 < video.frameRateNum ∧ 0 < video.frameRateDen := by
  dsimp only [sanitizeVideo] at hnum hden
  split at hnum
  · next hvalid =>
    unfold isFrameRateValid at hvalid
    simp only [Bool.and_eq_true, beq_iff_eq, decide_eq_true_eq] at hvalid
    obtain ⟨⟨hden', hnum'⟩, -⟩ := hvalid
    exact ⟨UInt32.lt_of_lt_of_le (by decide) hnum', hden' ▸ by decide⟩
  · next hvalid =>
    rw [if_neg hvalid] at hden
    exact ⟨hnum ▸ by decide, hden ▸ by decide⟩

theorem sampleRate_mem {codec : AudioCodec} {rate : UInt32}
    (h : sanitizeSampleRate codec rate = rate) : rate ∈ kValidRates := by
  unfold sanitizeSampleRate at h
  split at h
  · exact h ▸ by decide
  · split at h
    · next hrate => simpa using hrate
    · exact h ▸ by decide

theorem bitDepth_mem {codec : AudioCodec} {depth : UInt32}
    (h : sanitizeBitDepth codec depth = depth) : depth ∈ kPcmDepths := by
  have hflac : depth ∈ kFlacDepths → depth ∈ kPcmDepths := by
    simp only [kFlacDepths, kPcmDepths, List.mem_cons, List.not_mem_nil, or_false]
    exact fun hdepth => hdepth.imp_right .inl
  unfold sanitizeBitDepth at h
  split at h
  · split at h
    · next hdepth => simpa using hdepth
    · exact h ▸ by decide
  · split at h
    · next hdepth => exact hflac (by simpa using hdepth)
    · exact h ▸ by decide
  · exact h ▸ by decide
  · exact h ▸ by decide

theorem channels_of_sanitizeAudio {codec : AudioCodec} {audio : AudioUiState}
    (h : (sanitizeAudio codec audio).audioChannels = audio.audioChannels) :
    audio.audioChannels = 1 ∨ audio.audioChannels = 2 := by
  dsimp only [sanitizeAudio] at h
  split at h
  · exact .inr h.symm
  · next hchannels => simpa [or_iff_not_imp_left] using hchannels

/-- What holds of a configuration that is in use: sanitizing leaves it alone, and what the sanitizer
    does not look at is what the pages of the settings allow. -/
structure Settled (config : RecordingPresetConfig) : Prop where
  sanitized : sanitizePresetConfig config = config
  cq : Engine.kCqMin ≤ config.video.cq ∧ config.video.cq ≤ Engine.kCqMax
  folder : config.output.outputFolder ≠ ""
  pattern : config.output.namingPattern ≠ ""
  mic : ∀ id ∈ config.audio.selectedMicDeviceId, id ≠ "" ∧ trimmed id = id
  pid : ∀ pid ∈ config.audio.selectedWindowPid, 0 < pid
  region : config.capture.regionXNorm.isFinite ∧ config.capture.regionYNorm.isFinite ∧
    config.capture.regionWNorm.isFinite ∧ config.capture.regionHNorm.isFinite

theorem Settled.readable {config : RecordingPresetConfig} (h : Settled config) :
    ReadableConfig config where
  folder := h.folder
  pattern := h.pattern
  minutes := UInt32.lt_of_lt_of_le (by decide)
    (le_of_clampUInt32 (congrArg (·.output.split.customMinutes) h.sanitized))
  sizeMb := UInt32.lt_of_lt_of_le (by decide)
    (le_of_clampUInt32 (congrArg (·.output.split.customSizeMb) h.sanitized))
  cq := h.cq
  bitrate := UInt32.lt_of_lt_of_le (by decide)
    (le_of_clampUInt32 (congrArg (·.video.bitrateKbps) h.sanitized))
  frameRate := frameRate_of_sanitizeVideo (congrArg (·.video.frameRateNum) h.sanitized)
    (congrArg (·.video.frameRateDen) h.sanitized)
  mic := h.mic
  pid := h.pid
  complexity := mem_of_clampInt32 (by decide) (congrArg (·.audio.opusComplexity) h.sanitized)
  sampleRate := sampleRate_mem (congrArg (·.audio.audioSampleRate) h.sanitized)
  channels := channels_of_sanitizeAudio (congrArg (·.audio.audioChannels) h.sanitized)
  bitDepth := bitDepth_mem (congrArg (·.audio.audioBitDepth) h.sanitized)
  flac := mem_of_clampInt32 (by decide) (congrArg (·.audio.flacCompressionLevel) h.sanitized)

theorem sanitizePresetConfig_storedConfig (config : RecordingPresetConfig) :
    sanitizePresetConfig (storedConfig config) = storedConfig (sanitizePresetConfig config) := rfl

theorem keyframeInterval_sanitizePresetConfig (config : RecordingPresetConfig) :
    (sanitizePresetConfig config).video.keyframeInterval = config.video.keyframeInterval := rfl

end Exosnap.Settings
