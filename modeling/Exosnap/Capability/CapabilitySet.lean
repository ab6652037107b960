/-
  What can be recorded (`config_types.h`, `support_level.h`, `container_compat_registry.cpp`,
  `capability_set.cpp`): the compatibility registry, the static matrix over it, and the queries of
  a capability set.

  A capability set annotates each container, codec, chroma mode and bit depth; `queryCombo` is the
  most severe of the static matrix and the annotations of a combination, unless an override says
  otherwise. The maps are functions to `Option`.
-/
import Mathlib.Tactic.Common

namespace Exosnap.Capability

/-! ## Formats -/

inductive Container where
  | matroska
  | mp4
  | webM
  deriving DecidableEq, Repr

inductive VideoCodec where
  | av1
  | hevc
  | h264
  deriving DecidableEq, Repr

inductive AudioCodec where
  | opus
  | aac
  | pcm
  | flac
  deriving DecidableEq, Repr

inductive ChromaSubsampling where
  | cs420
  | cs422
  | cs444
  deriving DecidableEq, Repr

inductive BitDepth where
  | bit8
  | bit10
  deriving DecidableEq, Repr

inductive ColorRange where
  | full
  | limited
  deriving DecidableEq, Repr

inductive HdrMode where
  | off
  | tonemapSdr
  | hdr10
  deriving DecidableEq, Repr

inductive FramePacingMode where
  | smooth
  | newest
  deriving DecidableEq, Repr

structure ResolutionConstraint where
  maxWidth : UInt32 := 0
  maxHeight : UInt32 := 0
  mustBeEven : Bool := true
  deriving DecidableEq, Repr

def Container.toString : Container → String
  | matroska => "Matroska"
  | mp4 => "MP4"
  | webM => "WebM"

def VideoCodec.toString : VideoCodec → String
  | av1 => "AV1 NVENC"
  | hevc => "HEVC NVENC"
  | h264 => "H.264 NVENC"

def AudioCodec.toString : AudioCodec → String
  | opus => "Opus"
  | aac => "AAC"
  | pcm => "PCM"
  | flac => "FLAC"

def ChromaSubsampling.toString : ChromaSubsampling → String
  | cs420 => "4:2:0"
  | cs422 => "4:2:2"
  | cs444 => "4:4:4"

def BitDepth.toString : BitDepth → String
  | bit8 => "8-bit"
  | bit10 => "10-bit"

structure UserRecorderConfig where
  container : Container := .matroska
  videoCodec : VideoCodec := .av1
  audioCodec : AudioCodec := .opus
  chroma : ChromaSubsampling := .cs420
  bitDepth : BitDepth := .bit8
  colorRange : ColorRange := .limited
  outputWidth : UInt32 := 0
  outputHeight : UInt32 := 0
  frameRateNum : UInt32 := 60
  frameRateDen : UInt32 := 1
  framePacing : FramePacingMode := .smooth
  hdrMode : HdrMode := .tonemapSdr
  deriving DecidableEq, Repr

/-! ## Annotations -/

inductive SupportLevel where
  | available
  | validUnvalidated
  | notImplemented
  | invalid
  deriving DecidableEq, Repr

structure SupportAnnotation where
  level : SupportLevel := .invalid
  reason : String
  deriving DecidableEq, Repr

def SupportAnnotation.isSelectable (a : SupportAnnotation) : Bool :=
  a.level == .available || a.level == .validUnvalidated

def severityRank : SupportLevel → Nat
  | .available => 0
  | .validUnvalidated => 1
  | .notImplemented => 2
  | .invalid => 3

def combineAnnotations (current candidate : SupportAnnotation) : SupportAnnotation :=
  if severityRank candidate.level > severityRank current.level then candidate
  else if severityRank candidate.level = severityRank current.level && current.reason.isEmpty then
    candidate
  else current

theorem isSelectable_eq (a : SupportAnnotation) :
    a.isSelectable = decide (severityRank a.level ≤ 1) := by
  obtain ⟨level, reason⟩ := a
  cases level <;> rfl

/-- Of two annotations the more severe decides. -/
theorem severityRank_combineAnnotations (a b : SupportAnnotation) :
    severityRank (combineAnnotations a b).level = max (severityRank a.level) (severityRank b.level) := by
  unfold combineAnnotations
  split
  · omega
  · split
    · simp_all
    · omega

@[simp] theorem combineAnnotations_isSelectable (a b : SupportAnnotation) :
    (combineAnnotations a b).isSelectable = (a.isSelectable && b.isSelectable) := by
  simp only [isSelectable_eq, severityRank_combineAnnotations, Nat.max_le, Bool.decide_and]

def lookupAnnotation {κ : Type} (map : κ → Option SupportAnnotation) (key : κ)
    (dimensionName : String) : SupportAnnotation :=
  match map key with
  | none => { level := .invalid, reason := "Missing capability annotation for " ++ dimensionName }
  | some note => note

/-! ## The compatibility registry -/

inductive ContainerCompatLevel where
  | recommended
  | allowed
  | experimental
  | fallback
  | prohibited
  deriving DecidableEq, Repr

structure ContainerCompatEntry where
  level : ContainerCompatLevel := .prohibited
  reason : String
  deriving DecidableEq, Repr

namespace ContainerCompatRegistry

def query (container : Container) (video : VideoCodec) (audio : AudioCodec) :
    ContainerCompatEntry :=
  match container with
  | .matroska =>
      match video, audio with
      | .av1, .opus => ⟨.recommended, "Primary validated MKV path: AV1 NVENC + Opus."⟩
      | .av1, .aac => ⟨.recommended, "Validated MKV path: AV1 NVENC + AAC (M3.2)."⟩
      | .av1, .pcm =>
          ⟨.allowed, "MKV + AV1 + PCM: uncompressed 16-bit signed little-endian PCM " ++
            "(A_PCM/INT/LIT). Large files; lossless audio. Matroska-only (0.6.0 Audio v2)."⟩
      | .av1, .flac =>
          ⟨.allowed, "MKV + AV1 + FLAC: lossless FLAC (A_FLAC) via libFLAC. " ++
            "Smaller than PCM, still lossless. Matroska-only (0.6.0 Audio v2)."⟩
      | .h264, .aac => ⟨.recommended, "Validated MKV path: H.264 NVENC + AAC."⟩
      | .h264, .opus =>
          ⟨.allowed, "MKV + H.264 + Opus: Matroska carries Opus natively and the Opus-in-MKV " ++
            "write path is production-validated (AV1+Opus). A dedicated player-matrix pass for " ++
            "this exact pairing is not yet on file (pair-specific compatibility is unvalidated)."⟩
      | .h264, .pcm =>
          ⟨.allowed, "MKV + H.264 + PCM: uncompressed 16-bit signed little-endian PCM " ++
            "(A_PCM/INT/LIT). Large files; lossless audio. Matroska-only (0.6.0 Audio v2)."⟩
      | .h264, .flac =>
          ⟨.allowed, "MKV + H.264 + FLAC: lossless FLAC (A_FLAC) via libFLAC. " ++
            "Smaller than PCM, still lossless. Matroska-only (0.6.0 Audio v2)."⟩
      | .hevc, .aac =>
          ⟨.allowed, "MKV + HEVC + AAC: HEVC NVENC with Matroska V_MPEGH/ISO/HEVC (hvcC " ++
            "codec-private, length-prefixed samples). Implemented in 0.7.0."⟩
      | .hevc, .opus =>
          ⟨.allowed, "MKV + HEVC + Opus: HEVC NVENC with Matroska V_MPEGH/ISO/HEVC (hvcC " ++
            "codec-private, length-prefixed samples). Implemented in 0.7.0."⟩
      | .hevc, .pcm =>
          ⟨.allowed, "MKV + HEVC + PCM: HEVC NVENC with Matroska V_MPEGH/ISO/HEVC (hvcC " ++
            "codec-private, length-prefixed samples) + uncompressed PCM (A_PCM/INT/LIT). " ++
            "Implemented in 0.7.0."⟩
      | .hevc, .flac =>
          ⟨.allowed, "MKV + HEVC + FLAC: HEVC NVENC with Matroska V_MPEGH/ISO/HEVC (hvcC " ++
            "codec-private, length-prefixed samples) + lossless FLAC (A_FLAC). " ++
            "Implemented in 0.7.0."⟩
  | .mp4 =>
      match video, audio with
      | _, .opus =>
          ⟨.prohibited, "Opus audio is not supported in MP4. Select AAC for MP4 recordings."⟩
      | .h264, .aac =>
          ⟨.recommended, "Primary validated MP4 path: H.264 NVENC + AAC via remux-on-stop."⟩
      | .h264, .pcm =>
          ⟨.experimental, "MP4 + H.264 + PCM: libavformat writes an ipcm (ISO/IEC 23003-5) sample " ++
            "entry for pcm_s16le/pcm_s24le/pcm_s32le in MP4 (confirmed via ffprobe " ++
            "codec_tag_string=ipcm). ipcm has limited player support — Windows Films & TV, " ++
            "QuickTime, and many NLEs do not play it. Deferred until a broadly-compatible " ++
            "sample-entry mapping (e.g. sowt/in24) is validated; use MKV for PCM."⟩
      | .h264, .flac =>
          ⟨.experimental,
            "MP4 + H.264 + FLAC: FLAC-in-MP4 not specified in this build (use MKV for FLAC)."⟩
      | .hevc, .aac =>
          ⟨.allowed, "MP4 + HEVC + AAC: HEVC recorded to a transient MKV and remuxed to MP4 with " ++
            "the 'hvc1' sample-entry FourCC (parameter sets out-of-band in hvcC) for " ++
            "Apple/QuickTime/NLE compatibility."⟩
      | .hevc, .pcm =>
          ⟨.experimental, "MP4 + HEVC + PCM: not implemented (MP4 audio is AAC-only)."⟩
      | .hevc, .flac =>
          ⟨.experimental, "MP4 + HEVC + FLAC: not implemented (MP4 audio is AAC-only)."⟩
      | .av1, .aac =>
          ⟨.experimental,
            "MP4 + AV1 + AAC: deferred; AV1-in-MP4 container support not yet validated."⟩
      | .av1, .pcm => ⟨.experimental, "MP4 + AV1 + PCM: not implemented."⟩
      | .av1, .flac => ⟨.experimental, "MP4 + AV1 + FLAC: not implemented."⟩
  | .webM =>
      match video, audio with
      | .h264, _ | .hevc, _ =>
          ⟨.prohibited, "WebM supports only AV1 in ExoSnap's product matrix. " ++
            "H.264 and HEVC are prohibited in WebM."⟩
      | .av1, .opus => ⟨.recommended, "Primary validated WebM path: AV1 NVENC + Opus."⟩
      | .av1, .aac => ⟨.prohibited, "WebM does not support AAC. Use Opus for WebM recordings."⟩
      | .av1, .pcm => ⟨.prohibited, "WebM does not support PCM. Use Opus for WebM recordings."⟩
      | .av1, .flac => ⟨.prohibited, "WebM does not support FLAC. Use Opus for WebM recordings."⟩

def preferredAudioCodec : Container → AudioCodec
  | .matroska => .opus
  | .mp4 => .aac
  | .webM => .opus

def preferredVideoCodec : Container → VideoCodec
  | .matroska => .av1
  | .mp4 => .h264
  | .webM => .av1

end ContainerCompatRegistry

def registryEntryToSupportAnnotation (entry : ContainerCompatEntry) : SupportAnnotation :=
  match entry.level with
  | .recommended => ⟨.available, entry.reason⟩
  | .allowed => ⟨.validUnvalidated, entry.reason⟩
  | .experimental => ⟨.notImplemented, entry.reason⟩
  | .fallback => ⟨.notImplemented, entry.reason⟩
  | .prohibited => ⟨.invalid, entry.reason⟩

def staticMatrixAnnotation (c : Container) (v : VideoCodec) (a : AudioCodec)
    (cs : ChromaSubsampling) (bd : BitDepth) : SupportAnnotation :=
  let base := registryEntryToSupportAnnotation (ContainerCompatRegistry.query c v a)
  if base.level = .invalid then base
  else if cs = .cs422 then ⟨.notImplemented, "4:2:2 chroma is not implemented."⟩
  else if cs = .cs444 && v = .av1 then
    ⟨.notImplemented, "AV1 NVENC is 4:2:0 only; use H.264 or HEVC for 4:4:4."⟩
  else if cs = .cs444 && bd = .bit10 then
    ⟨.notImplemented, "4:4:4 is 8-bit only; 10-bit 4:4:4 is not implemented."⟩
  else if bd = .bit10 && v ≠ .hevc && v ≠ .av1 then
    ⟨.notImplemented, "10-bit requires the HEVC or AV1 codec; H.264 is 8-bit only."⟩
  else base

/-! ## Capability sets -/

structure ComboKey where
  c : Container
  v : VideoCodec
  a : AudioCodec
  cs : ChromaSubsampling
  bd : BitDepth
  deriving DecidableEq, Repr

/-- A map with the value of one key set. -/
def assign {κ α : Type} [DecidableEq κ] (map : κ → Option α) (key : κ) (value : α) :
    κ → Option α :=
  fun k => if k = key then some value else map k

/-- A capability set, as far as combinations are decided by it. -/
structure CapabilitySet where
  containers : Container → Option SupportAnnotation
  videoCodecs : VideoCodec → Option SupportAnnotation
  audioCodecs : AudioCodec → Option SupportAnnotation
  chromaModes : ChromaSubsampling → Option SupportAnnotation
  bitDepths : BitDepth → Option SupportAnnotation
  chroma444 : VideoCodec → Option SupportAnnotation
  comboOverrides : ComboKey → Option SupportAnnotation := fun _ => none
  resolutionConstraint : ResolutionConstraint := {}

namespace CapabilitySet
variable (caps : CapabilitySet)

def queryContainer (c : Container) : SupportAnnotation :=
  lookupAnnotation caps.containers c "container"

def queryVideoCodec (v : VideoCodec) : SupportAnnotation :=
  lookupAnnotation caps.videoCodecs v "video codec"

def queryAudioCodec (a : AudioCodec) : SupportAnnotation :=
  lookupAnnotation caps.audioCodecs a "audio codec"

def queryChroma (cs : ChromaSubsampling) : SupportAnnotation :=
  lookupAnnotation caps.chromaModes cs "chroma mode"

def queryBitDepth (bd : BitDepth) : SupportAnnotation :=
  lookupAnnotation caps.bitDepths bd "bit depth"

def queryChroma444 (v : VideoCodec) : SupportAnnotation :=
  lookupAnnotation caps.chroma444 v "4:4:4 codec"

def queryCombo (c : Container) (v : VideoCodec) (a : AudioCodec) (cs : ChromaSubsampling)
    (bd : BitDepth) : SupportAnnotation :=
  let result := staticMatrixAnnotation c v a cs bd
  let result := combineAnnotations result (caps.queryContainer c)
  let result := combineAnnotations result (caps.queryVideoCodec v)
  let result := combineAnnotations result (caps.queryAudioCodec a)
  let result := combineAnnotations result (caps.queryChroma cs)
  let result := combineAnnotations result (caps.queryBitDepth bd)
  let result :=
    if cs = .cs444 then combineAnnotations result (caps.queryChroma444 v) else result
  match caps.comboOverrides ⟨c, v, a, cs, bd⟩ with
  | some override => override
  | none => result

/-- Without an override, a combination is selectable if the static matrix and every annotation
    that bears on it are. -/
theorem queryCombo_isSelectable {c : Container} {v : VideoCodec} {a : AudioCodec}
    {cs : ChromaSubsampling} {bd : BitDepth} (h : caps.comboOverrides ⟨c, v, a, cs, bd⟩ = none) :
    (caps.queryCombo c v a cs bd).isSelectable = true ↔
      ( staticMatrixAnnotation c v a cs bd).isSelectable = true ∧
        (caps.queryContainer c).isSelectable = true ∧ (caps.queryVideoCodec v).isSelectable = true ∧
        (caps.queryAudioCodec a).isSelectable = true ∧ (caps.queryChroma cs).isSelectable = true ∧
        (caps.queryBitDepth bd).isSelectable = true ∧
        (cs = .cs444 → (caps.queryChroma444 v).isSelectable = true) := by
  unfold queryCombo
  simp only [h]
  by_cases hcs : cs = .cs444
  · simp [hcs, and_assoc]
  · simp [hcs, and_assoc]

end CapabilitySet

end Exosnap.Capability
