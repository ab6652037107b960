/-
  `ReconcileOutputFormat` (`resolver.cpp`, `container_compat_registry.cpp`): the format a user stored,
  changed to one that is implemented.
-/
import Exosnap.Capability.Translation

namespace Exosnap.Capability

namespace ContainerCompatRegistry

def isWorkingCombo (level : ContainerCompatLevel) : Bool :=
  level == .recommended || level == .allowed

def audioCandidates : List AudioCodec := [.aac, .opus, .pcm, .flac]

def reconcileCodecs (container : Container) (video : VideoCodec) (audio : AudioCodec) :
    VideoCodec × AudioCodec :=
  if isWorkingCombo (query container video audio).level then (video, audio)
  else
    match audioCandidates.find? fun candidate =>
        candidate != audio && isWorkingCombo (query container video candidate).level with
    | some candidate => (video, candidate)
    | none => (preferredVideoCodec container, preferredAudioCodec container)

end ContainerCompatRegistry

structure OutputFormatRequest where
  container : Container := .matroska
  videoCodec : VideoCodec := .av1
  audioCodec : AudioCodec := .opus
  bitDepth : BitDepth := .bit8
  chroma : ChromaSubsampling := .cs420
  cfr : Bool := true
  deriving DecidableEq, Repr

/-- The format, and which rules changed it. -/
structure OutputFormatReconciliation where
  resolved : OutputFormatRequest
  codecsAdjusted : Bool
  bitDepthDemoted : Bool
  chromaSnapped : Bool
  cfrForced : Bool
  deriving DecidableEq, Repr

/-- Each rule sees what the rules before it have left. -/
def reconcileOutputFormat (request : OutputFormatRequest) : OutputFormatReconciliation :=
  let (video, audio) :=
    ContainerCompatRegistry.reconcileCodecs request.container request.videoCodec request.audioCodec
  let demoted := request.bitDepth == .bit10 && !codecSupports10Bit video
  let bitDepth := if demoted then .bit8 else request.bitDepth
  let snapped := request.chroma == .cs444 && (!codecSupportsChroma444 video || bitDepth != .bit8)
  let forced := request.container == .mp4 && !request.cfr
  { resolved :=
      { container := request.container
        videoCodec := video
        audioCodec := audio
        bitDepth := bitDepth
        chroma := if snapped then .cs420 else request.chroma
        cfr := if forced then true else request.cfr }
    codecsAdjusted := video != request.videoCodec || audio != request.audioCodec
    bitDepthDemoted := demoted
    chromaSnapped := snapped
    cfrForced := forced }

end Exosnap.Capability
