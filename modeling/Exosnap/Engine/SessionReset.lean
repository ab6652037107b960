/-
  Reuse of a `SessionState` by the next `Record()` call: `ResetForNewRecording`,
  `ResetStopRequestedForNewSession`, what `Record` installs under the lock, and the stores that
  workers and live calls make while a recording runs.

  `Host` collects the types and functions whose values the reset and the installs only pass on;
  what is proved holds for all of them. Outside the model: mutexes, condition variables, and the
  swap to a fresh object after a leaked worker.
-/
import Exosnap.Engine.SessionTypes

namespace Exosnap.Engine.SessionReset

/-! ## The session state -/

structure Host where
  Config : Type
  defaultConfig : Config
  /-- The configuration with the transient output path of an MP4 recording. -/
  engineConfig : Config → Config
  recordAudio : Config → Bool
  /-- `audio_track_plan.tracks.size()` -/
  audioTracks : Config → Nat
  /-- `color.hdr` -/
  hdr : Config → Bool
  Overlay : Type
  defaultOverlay : Overlay
  liveOverlayFromConfig : Config → Overlay
  Stats : Type
  noStats : Stats
  Callback : Type
  EncoderFactory : Type
  OutputIoFailure : Type
  StaticConfig : Type
  defaultStaticConfig : StaticConfig
  makeDiagnosticsStaticConfig : Config → StaticConfig
  Thresholds : Type
  defaultThresholds : Thresholds
  /-- The members of the diagnostics aggregator that its `Reset` gives their initial values. -/
  Counters : Type
  noCounters : Counters

inductive ErrorPhase where
  | none
  | prepare
  | videoCapture
  | videoEncode
  | audioCapture
  | audioEncode
  | mux
  | finalize
  | shutdown
  deriving DecidableEq, Repr

structure SessionFailure where
  errorCode : Int := 0
  errorPhase : ErrorPhase := .none
  errorDetail : String := ""
  deriving DecidableEq, Repr

structure AudioCodecPrivateSlot where
  bytes : List UInt8 := []
  codecDelaySamples : UInt32 := 0
  deriving DecidableEq, Repr

structure CodecPrivateData where
  av1CodecPrivate : List UInt8 := []
  av1Ready : Bool := false
  h264SpsPps : List UInt8 := []
  h264Ready : Bool := false
  hevcVpsSpsPps : List UInt8 := []
  hevcReady : Bool := false
  audioCodecPrivate : Fin kMaxAudioTracks.toNat → AudioCodecPrivateSlot := fun _ => {}
  audioTrackReady : Fin kMaxAudioTracks.toNat → Bool := fun _ => false

/-- Immutable for the lifetime of a state object. -/
structure Seams (H : Host) where
  outputIoFailure : Option H.OutputIoFailure
  videoEncoderFactory : H.EncoderFactory
  muxQueuePacketLimit : Nat
  muxQueueByteLimit : Nat
  muxQueueFullTimeoutMs : UInt32
  /-- Whether `CreateEventW` returned an event. -/
  hasStopEvent : Bool

/-- `PipelineDiagnosticsAggregator`. Times are steady-clock nanoseconds. -/
structure Aggregator (H : Host) where
  thresholds : H.Thresholds := H.defaultThresholds
  cfg : H.StaticConfig := H.defaultStaticConfig
  generation : UInt64 := 0
  counters : H.Counters := H.noCounters
  haveOutputTime : Bool := false
  lastOutputTime : Int := 0
  haveProgressTime : Bool := false
  lastProgressTime : Int := 0
  /-- In microseconds. -/
  gpuExecP99 : Nat := 0

structure SessionState (H : Host) where
  seams : Seams H
  stopRequested : Bool := false
  callerStopRequested : Bool := false
  captureEndNs : Int := 0
  /-- `stop_event` is signalled. -/
  stopEvent : Bool := false
  pauseRequested : Bool := false
  audioMuteMask : UInt32 := 0
  pausedNs : Int := 0
  measuredMaxCllNits : UInt32 := 0
  measuredMaxFallNits : UInt32 := 0
  splitRequest : UInt64 := 0
  sizeSplitArmed : Bool := false
  muxBytesWritten : UInt64 := 0
  /-- With the gate of its `Record()` call, as the other callbacks of worker threads. -/
  segmentCallback : Option (Nat × H.Callback) := none
  snapshotRequested : Bool := false
  snapshotCallback : Option (Nat × H.Callback) := none
  failureRecorded : Bool := false
  failure : SessionFailure := {}
  videoPremux : List EncodedVideoPacket := []
  audioPremux : List EncodedAudioPacket := []
  codecPrivate : CodecPrivateData := {}
  muxQueue : List MuxItem := []
  muxQueueBytes : Nat := 0
  stats : H.Stats := H.noStats
  statsCallback : Option H.Callback := none
  meterCallback : Option H.Callback := none
  diagnostics : Aggregator H := {}
  diagnosticsCallback : Option H.Callback := none
  previewSharedHandleCb : Option (Nat × H.Callback) := none
  previewFramePublishedCb : Option (Nat × H.Callback) := none
  config : H.Config := H.defaultConfig
  webcamOverlay : H.Overlay := H.defaultOverlay
  audioTrackCount : UInt32 := 0
  encodeWidth : UInt32 := 0
  encodeHeight : UInt32 := 0
  sessionStartQpc100ns : UInt64 := 0
  videoEpochQpc100ns : UInt64 := 0
  audioEpochQpc100ns : Fin kMaxAudioTracks.toNat → UInt64 := fun _ => 0
  webcamOverlaySequence : UInt64 := 0

/-- `make_shared<SessionState>()` -/
def SessionState.fresh {H : Host} (seams : Seams H) : SessionState H := { seams := seams }

/-! ## The reset and the installs -/

/-- What a `Record()` call brings to the block in which it takes the state over. -/
structure RecordCall (H : Host) where
  config : H.Config
  preStop : Bool := false
  gate : Nat := 0
  qpc : UInt64 := 0
  frequency : UInt64 := 1
  diagnosticsGeneration : UInt64 := 1
  statsCallback : Option H.Callback := none
  meterCallback : Option H.Callback := none
  diagnosticsCallback : Option H.Callback := none
  segmentCallback : Option H.Callback := none
  previewSharedHandleCallback : Option H.Callback := none
  previewFramePublishedCallback : Option H.Callback := none

section
variable {H : Host}

def Aggregator.reset (d : Aggregator H) (generation : UInt64) (cfg : H.StaticConfig) :
    Aggregator H :=
  { d with
    generation := generation, cfg := cfg, counters := H.noCounters
    haveOutputTime := false, haveProgressTime := false }

namespace SessionState

def resetForNewRecording (st : SessionState H) : SessionState H :=
  { st with
    captureEndNs := 0
    callerStopRequested := false
    pauseRequested := false
    audioMuteMask := 0
    pausedNs := 0
    splitRequest := 0
    sizeSplitArmed := false
    muxBytesWritten := 0
    snapshotRequested := false
    snapshotCallback := none
    failureRecorded := false
    failure := {}
    videoPremux := []
    audioPremux := []
    codecPrivate := {}
    muxQueue := []
    muxQueueBytes := 0
    stats := H.noStats
    encodeWidth := 0
    encodeHeight := 0
    videoEpochQpc100ns := 0
    audioEpochQpc100ns := fun _ => 0 }

def resetStopRequestedForNewSession (st : SessionState H) (preStop : Bool) : SessionState H :=
  { st with
    stopRequested := preStop
    stopEvent := if st.seams.hasStopEvent then preStop else st.stopEvent }

def seedWebcamOverlayFromConfig (st : SessionState H) : SessionState H :=
  { st with webcamOverlay := H.liveOverlayFromConfig st.config }

end SessionState

def RecordCall.audioTrackCount (call : RecordCall H) : UInt32 :=
  if !H.recordAudio call.config then 0
  else if H.audioTracks call.config = 0 then 1
  else (H.audioTracks call.config).toUInt32

/-- Divide-first, so that the product does not wrap. -/
def RecordCall.sessionStartQpc100ns (call : RecordCall H) : UInt64 :=
  call.qpc / call.frequency * 10000000 + call.qpc % call.frequency * 10000000 / call.frequency

/-- The block of `Record` under the lock, on the state object it reuses. -/
def SessionState.takeOver (st : SessionState H) (call : RecordCall H) : SessionState H :=
  let st := st.resetForNewRecording.resetStopRequestedForNewSession call.preStop
  let st := { st with config := H.engineConfig call.config }.seedWebcamOverlayFromConfig
  { st with
    audioTrackCount := call.audioTrackCount
    sessionStartQpc100ns := call.sessionStartQpc100ns
    statsCallback := call.statsCallback
    meterCallback := call.meterCallback
    diagnosticsCallback := call.diagnosticsCallback
    segmentCallback := call.segmentCallback.map fun cb => (call.gate, cb)
    previewSharedHandleCb := call.previewSharedHandleCallback.map fun cb => (call.gate, cb)
    previewFramePublishedCb := call.previewFramePublishedCallback.map fun cb => (call.gate, cb)
    diagnostics := st.diagnostics.reset call.diagnosticsGeneration
      (H.makeDiagnosticsStaticConfig (H.engineConfig call.config)) }

/-! ## Stores -/

/-- A store into the diagnostics aggregator. -/
inductive DiagnosticsStore (H : Host) where
  | counters (value : H.Counters)
  | outputTime (now : Int)
  | progressTime (now : Int)
  | gpuExecP99 (value : Nat)

def Aggregator.store (d : Aggregator H) : DiagnosticsStore H → Aggregator H
  | .counters value => { d with counters := value }
  | .outputTime now => { d with haveOutputTime := true, lastOutputTime := now }
  | .progressTime now => { d with haveProgressTime := true, lastProgressTime := now }
  | .gpuExecP99 value => { d with gpuExecP99 := value }

/-- A store of a worker, the stats collector or a live call into a running session. -/
inductive Store (H : Host) where
  | stopRequested
  | stopEvent
  | callerStopRequested
  | captureEnded (now : Int)
  | pauseRequested (value : Bool)
  | audioMuteMask (value : UInt32)
  | pausedNs (value : Int)
  | measuredMaxCllNits (value : UInt32)
  | measuredMaxFallNits (value : UInt32)
  | splitRequest (value : UInt64)
  | sizeSplitArmed (value : Bool)
  | muxBytesWritten (value : UInt64)
  | snapshot (callback : Option (Nat × H.Callback))
  | failure (value : SessionFailure)
  | videoPremux (value : List EncodedVideoPacket)
  | audioPremux (value : List EncodedAudioPacket)
  | codecPrivate (value : CodecPrivateData)
  | muxQueue (items : List MuxItem) (bytes : Nat)
  | stats (value : H.Stats)
  | diagnostics (store : DiagnosticsStore H)
  | webcamOverlay (value : H.Overlay)
  | encodeSize (width height : UInt32)
  | videoEpochQpc100ns (value : UInt64)
  | audioEpochQpc100ns (value : Fin kMaxAudioTracks.toNat → UInt64)

def SessionState.store (st : SessionState H) : Store H → SessionState H
  | .stopRequested => { st with stopRequested := true }
  | .stopEvent => { st with stopEvent := st.seams.hasStopEvent || st.stopEvent }
  | .callerStopRequested => { st with callerStopRequested := true }
  -- The first request wins.
  | .captureEnded now =>
      { st with captureEndNs := if st.captureEndNs = 0 then now else st.captureEndNs }
  | .pauseRequested value => { st with pauseRequested := value }
  | .audioMuteMask value => { st with audioMuteMask := value }
  | .pausedNs value => { st with pausedNs := value }
  | .measuredMaxCllNits value => { st with measuredMaxCllNits := value }
  | .measuredMaxFallNits value => { st with measuredMaxFallNits := value }
  | .splitRequest value => { st with splitRequest := value }
  | .sizeSplitArmed value => { st with sizeSplitArmed := value }
  | .muxBytesWritten value => { st with muxBytesWritten := value }
  | .snapshot callback =>
      { st with snapshotRequested := callback.isSome, snapshotCallback := callback }
  -- The first failure wins.
  | .failure value =>
      if st.failureRecorded then st else { st with failureRecorded := true, failure := value }
  | .videoPremux value => { st with videoPremux := value }
  | .audioPremux value => { st with audioPremux := value }
  | .codecPrivate value => { st with codecPrivate := value }
  | .muxQueue items bytes => { st with muxQueue := items, muxQueueBytes := bytes }
  | .stats value => { st with stats := value }
  | .diagnostics store => { st with diagnostics := st.diagnostics.store store }
  | .webcamOverlay value =>
      { st with webcamOverlay := value, webcamOverlaySequence := st.webcamOverlaySequence + 1 }
  | .encodeSize width height => { st with encodeWidth := width, encodeHeight := height }
  | .videoEpochQpc100ns value => { st with videoEpochQpc100ns := value }
  | .audioEpochQpc100ns value => { st with audioEpochQpc100ns := value }

/-- What happens to a state object: a store, or a `Record()` call that takes it over. -/
inductive SessionEvent (H : Host) where
  | store (store : Store H)
  | record (call : RecordCall H)

def SessionState.apply (st : SessionState H) : SessionEvent H → SessionState H
  | .store store => st.store store
  | .record call => st.takeOver call

/-- The state object after its uses so far. -/
def SessionState.after (seams : Seams H) (history : List (SessionEvent H)) : SessionState H :=
  history.foldl SessionState.apply (.fresh seams)

/-! ## The header of a file -/

/-- `kContentLightLevelCeiling` -/
def kContentLightLevelCeiling : UInt64 := 0xFFFF

def clampContentLightLevel (nits : UInt32) : UInt64 :=
  if nits.toUInt64 > kContentLightLevelCeiling then kContentLightLevelCeiling else nits.toUInt64

/-- MaxCLL and MaxFALL as `finalize_segment` has them written to the header of a file: `none`
    where nothing was reserved for them. -/
def SessionState.contentLightLevels (st : SessionState H) : Option (UInt64 × UInt64) :=
  if H.hdr st.config then
    some (clampContentLightLevel st.measuredMaxCllNits,
      clampContentLightLevel st.measuredMaxFallNits)
  else none

end

end Exosnap.Engine.SessionReset
