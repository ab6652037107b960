/-
  Types the engine's threads exchange: encoded packets (`packet_types.h`), the items of the
  mux queue and the first-failure record (`session_internal.h`), and the identity of a
  recording (`recorder_session.h`, `session_stop_reset.h`).
-/
import Mathlib.Tactic.Common

namespace Exosnap.Engine

structure EncodedVideoPacket where
  bytes : List UInt8
  ptsNs : UInt64 := 0
  keyframe : Bool := false
  deriving DecidableEq, Repr

structure EncodedAudioPacket where
  bytes : List UInt8
  ptsNs : UInt64 := 0
  trackId : UInt32 := 0
  deriving DecidableEq, Repr

inductive SplitTriggerSource where
  | automaticDuration
  | automaticSize
  | manualButton
  | hotkey
  deriving DecidableEq, Repr

structure SplitSentinel where
  newSegmentIndex : UInt32 := 0
  trigger : SplitTriggerSource := .manualButton
  deriving DecidableEq, Repr

inductive MuxItem where
  | video (payload : EncodedVideoPacket)
  | audio (payload : EncodedAudioPacket)
  | videoEos
  | audioEos (trackId : UInt32)
  | split (sentinel : SplitSentinel)
  deriving DecidableEq, Repr

inductive VideoCodec where
  | h264
  | hevc
  | av1
  deriving DecidableEq, Repr

/-- `CodecPrivateData::kMaxAudioTracks` -/
def kMaxAudioTracks : UInt32 := 3

/-! ## Recordings -/

/-- Identifies one `Record()` call on a session. -/
abbrev RecordRequestId := UInt64

/-- The id of a call that names no recording. -/
def kUnscopedRecordRequest : RecordRequestId := 0

/-- Whether a command naming `stopRequest` applies to the recording `recordRequest`. The
    unscoped id matches from either side. -/
def recordRequestMatches (recordRequest stopRequest : RecordRequestId) : Bool :=
  recordRequest == kUnscopedRecordRequest || stopRequest == kUnscopedRecordRequest ||
    recordRequest == stopRequest

/-! ## Failures -/

inductive HResult where
  | eFail
  | eInvalidArg
  | fromWin32 (code : UInt32)
  deriving DecidableEq, Repr

/-- A failure of the mux phase. -/
structure MuxFailure where
  hr : HResult
  detail : String
  deriving DecidableEq, Repr

end Exosnap.Engine
