/-
  How a segment split is requested and reached: `RecorderSession::RequestSplit` and the size
  check of `MuxThread` publish requests in the split-request word; `maybeArmSplit` and
  `routePacket` of `VideoThread` turn them into boundaries, each a `SplitSentinel` in the mux
  queue.

  A step is one atomic access, or the code of one thread between two of them, so that a run
  interleaves any number of `RequestSplit` callers, the mux thread and the video thread. A
  caller that another recording left between its load and its compare-exchange is allowed at
  the start. When a packet is routed, how the encoder marked it, whether the codec headers are
  there and what the wait for queue room said are given with the step, with any values.

  Outside the model: the forced-keyframe request to the encoder, logs and diagnostics, the
  items of the audio threads, and codec-header extraction. A boundary's log line is the event
  `armed`. `history`, `muxPopped` and `splitArmedManual` are bookkeeping.
-/
import Mathlib.Logic.Function.Basic
import Exosnap.Lib.EventGroups
import Exosnap.Lib.StepRun
import Exosnap.Engine.SplitRequest

namespace Exosnap.Engine.SplitCoordination

/-! ## State -/

/-- What the configuration fixes: `split.duration_ms` and the size threshold, 0 for none. -/
structure SplitConfig where
  durationMs : UInt64 := 0
  sizeSplitThreshold : UInt64 := 0
  deriving DecidableEq, Repr

def SplitConfig.splitAutoEnabled (cfg : SplitConfig) : Bool := decide (cfg.durationMs > 0)

def SplitConfig.splitAutoIntervalNs (cfg : SplitConfig) : UInt64 :=
  if cfg.splitAutoEnabled then cfg.durationMs * 1000000 else 0

/-- `SessionState::kVideoPremuxLimit` -/
def kVideoPremuxLimit : Nat := 120

inductive MuxQueueWait where
  | ready
  | timedOut
  | stopping
  | failed
  deriving DecidableEq, Repr

/-- Whose request it is: the `n`-th caller of `RequestSplit`, or the size check. -/
inductive RequesterId where
  | caller (n : Nat)
  | mux
  deriving DecidableEq, Repr

/-- Where a thread is in publishing one request. -/
inductive Requester where
  | idle
  /-- `recording` was set; the request id is still to be compared. -/
  | entered (source : SplitTriggerSource) (requestId : RecordRequestId)
  | admitted (source : SplitTriggerSource)
  | loaded (source : SplitTriggerSource) (expected : UInt64)
  deriving DecidableEq, Repr

/-- The locals of the video thread that splitting uses. -/
structure VideoLocals where
  currentSegmentIndex : UInt32 := 0
  segmentStartSessionPtsNs : UInt64 := 0
  splitLastSeq : UInt64
  splitArmed : Bool := false
  splitForcedPtsNs : UInt64 := 0
  splitArmedTrigger : SplitTriggerSource := .manualButton
  splitArmedSecondaryLogged : Bool := false
  nextAutoThresholdNs : UInt64
  /-- The word `maybeArmSplit` loaded, while its compare-exchange is still to come. -/
  consuming : Option UInt64 := none
  /-- `routePacket` has returned false. -/
  failed : Bool := false
  /-- Whether a request armed the pending boundary. -/
  splitArmedManual : Bool := false
  deriving DecidableEq, Repr

inductive SplitEvent where
  /-- A request's compare-exchange succeeded. -/
  | published (trigger : SplitTriggerSource)
  /-- A boundary was armed, with the triggers it reports. -/
  | armed (manual : Bool) (coalesced : UInt32)
  /-- A boundary's sentinel was put in the queue. -/
  | landed (manual : Bool) (sentinel : SplitSentinel)
  deriving DecidableEq, Repr

structure SplitState where
  recording : Bool := false
  activeRequest : RecordRequestId := kUnscopedRecordRequest
  splitRequest : UInt64 := 0
  sizeSplitArmed : Bool := false
  requesters : RequesterId → Requester
  /-- `none` until the video thread has sampled the word. -/
  video : Option VideoLocals := none
  videoPremux : List EncodedVideoPacket := []
  muxQueue : List MuxItem := []
  /-- What the mux thread has taken from the queue. -/
  muxPopped : List MuxItem := []
  /-- Newest first. -/
  history : List SplitEvent := []

/-- After `ResetForNewRecording`, before the workers start. -/
def SplitState.initial (callers : Nat → Requester) : SplitState where
  requesters
    | .caller n => callers n
    | .mux => .idle

def SplitState.setRequester (s : SplitState) (r : RequesterId) (p : Requester) : SplitState :=
  { s with requesters := Function.update s.requesters r p }

/-! ## Requesters -/

/-- `RequestSplit` up to its check of `recording`. -/
def requestSplit (s : SplitState) (n : Nat) (source : SplitTriggerSource)
    (requestId : RecordRequestId) : Option SplitState :=
  match s.requesters (.caller n) with
  | .idle =>
      if !s.recording then some s
      else some (s.setRequester (.caller n) (.entered source requestId))
  | _ => none

/-- The check under `state_mutex`. -/
def matchRequest (s : SplitState) (n : Nat) : Option SplitState :=
  match s.requesters (.caller n) with
  | .entered source requestId =>
      if !recordRequestMatches s.activeRequest requestId then
        some (s.setRequester (.caller n) .idle)
      else some (s.setRequester (.caller n) (.admitted source))
  | _ => none

def loadWord (s : SplitState) (r : RequesterId) : Option SplitState :=
  match s.requesters r with
  | .admitted source => some (s.setRequester r (.loaded source s.splitRequest))
  | _ => none

/-- One `compare_exchange_weak` of the loop, which may fail spuriously. -/
def exchangeWord (s : SplitState) (r : RequesterId) (spurious : Bool) : Option SplitState :=
  match s.requesters r with
  | .loaded source expected =>
      if !spurious && s.splitRequest == expected then
        some { s.setRequester r .idle with
                splitRequest := splitRequestWith expected source.toUInt32
                history := .published source :: s.history }
      else some (s.setRequester r (.loaded source s.splitRequest))
  | _ => none

/-- The size check, for a segment with `bytes` written. -/
def sampleMuxDiagnostics (cfg : SplitConfig) (s : SplitState) (bytes : UInt64) :
    Option SplitState :=
  match s.requesters .mux with
  | .idle =>
      if cfg.sizeSplitThreshold > 0 && bytes ≥ cfg.sizeSplitThreshold && !s.sizeSplitArmed then
        some { s.setRequester .mux (.admitted .automaticSize) with sizeSplitArmed := true }
      else some s
  | _ => none

/-- The mux thread takes an item; `begin_new_segment` resets the size trigger unless the
    segment before it could not be finalized (`finalized` false). -/
def popMuxItem (s : SplitState) (finalized : Bool) : Option SplitState :=
  match s.requesters .mux, s.muxQueue with
  | .idle, item :: rest =>
      let popped := { s with muxQueue := rest, muxPopped := s.muxPopped ++ [item] }
      match item with
      | .split _ => if finalized then some { popped with sizeSplitArmed := false } else some popped
      | _ => some popped
  | _, _ => none

/-! ## The video thread -/

def VideoLocals.start (cfg : SplitConfig) (word : UInt64) : VideoLocals where
  splitLastSeq := (unpackSplitRequest word).sequence
  nextAutoThresholdNs := if cfg.splitAutoEnabled then cfg.splitAutoIntervalNs else ~~~0

def startVideo (cfg : SplitConfig) (s : SplitState) : Option SplitState :=
  match s.video with
  | none => some { s with video := some (.start cfg s.splitRequest) }
  | some _ => none

namespace VideoLocals

/-- A request was published that the thread has not acted on. -/
def manual (v : VideoLocals) (word : UInt64) : Bool :=
  (unpackSplitRequest word).sequence != v.splitLastSeq

def automatic (v : VideoLocals) (ptsNs : UInt64) : Bool :=
  decide (ptsNs ≥ v.nextAutoThresholdNs)

/-- The locals once `maybeArmSplit` has armed a boundary. -/
def arm (v : VideoLocals) (word ptsNs : UInt64) : VideoLocals :=
  { v with
    splitLastSeq := (unpackSplitRequest word).sequence
    splitArmed := true
    splitForcedPtsNs := ptsNs
    splitArmedSecondaryLogged := false
    splitArmedTrigger :=
      if v.manual word then .ofUInt32 (unpackSplitRequest word).primaryTrigger
      else .automaticDuration
    consuming := if v.manual word then some word else none
    splitArmedManual := v.manual word }

/-- The locals once a boundary has landed on the packet at `ptsNs`. -/
def land (cfg : SplitConfig) (v : VideoLocals) (ptsNs : UInt64) : VideoLocals :=
  { v with
    currentSegmentIndex := v.currentSegmentIndex + 1
    segmentStartSessionPtsNs := ptsNs
    nextAutoThresholdNs :=
      if cfg.splitAutoEnabled then ptsNs + cfg.splitAutoIntervalNs else v.nextAutoThresholdNs
    splitArmed := false }

def sentinel (v : VideoLocals) : SplitSentinel where
  newSegmentIndex := v.currentSegmentIndex + 1
  trigger := v.splitArmedTrigger

end VideoLocals

/-- `maybeArmSplit` up to its compare-exchange. -/
def maybeArmSplit (s : SplitState) (v : VideoLocals) (ptsNs : UInt64) : SplitState :=
  if v.splitArmed then
    if (v.manual s.splitRequest || v.automatic ptsNs) && !v.splitArmedSecondaryLogged then
      { s with video := some { v with splitArmedSecondaryLogged := true } }
    else s
  else if !v.manual s.splitRequest && !v.automatic ptsNs then s
  else
    { s with
      video := some (v.arm s.splitRequest ptsNs)
      history := .armed (v.manual s.splitRequest)
        (unpackSplitRequest s.splitRequest).coalescedTriggers :: s.history }

/-- The single compare-exchange of `maybeArmSplit`, after it loaded `word`. -/
def consumeRequest (s : SplitState) (v : VideoLocals) (word : UInt64) : SplitState :=
  let request := unpackSplitRequest word
  let observed := packSplitRequest request
  { s with
    splitRequest :=
      if s.splitRequest = observed then splitRequestConsumed request else s.splitRequest
    video := some { v with consuming := none } }

def landBoundary (cfg : SplitConfig) (s : SplitState) (v : VideoLocals)
    (pkt : EncodedVideoPacket) : SplitState :=
  { s with
    video := some (v.land cfg pkt.ptsNs)
    muxQueue := s.muxQueue ++ [.split v.sentinel]
    history := .landed v.splitArmedManual v.sentinel :: s.history }

/-- `routePacket`. -/
def routePacket (cfg : SplitConfig) (s : SplitState) (v : VideoLocals) (pkt : EncodedVideoPacket)
    (bothReady : Bool) (room : MuxQueueWait) : SplitState :=
  if pkt.bytes.isEmpty then s
  else if !bothReady then
    if s.videoPremux.length ≥ kVideoPremuxLimit then
      { s with video := some { v with failed := true } }
    else { s with videoPremux := s.videoPremux ++ [pkt] }
  else if room ≠ .ready then { s with video := some { v with failed := true } }
  else
    let routed :=
      if shouldEmitSplitSentinel v.splitArmed v.splitForcedPtsNs pkt.keyframe pkt.ptsNs then
        landBoundary cfg s v pkt
      else s
    { routed with muxQueue := routed.muxQueue ++ [.video pkt] }

/-! ## The interleaving -/

inductive SplitAction where
  /-- `Record()` sets its flag and its request. -/
  | session (recording : Bool) (activeRequest : RecordRequestId)
  | requestSplit (n : Nat) (source : SplitTriggerSource) (requestId : RecordRequestId)
  | matchRequest (n : Nat)
  | loadWord (r : RequesterId)
  | exchangeWord (r : RequesterId) (spurious : Bool)
  | sampleMuxDiagnostics (bytes : UInt64)
  | popMuxItem (finalized : Bool)
  | startVideo
  | maybeArmSplit (ptsNs : UInt64)
  | consumeRequest
  | routePacket (pkt : EncodedVideoPacket) (bothReady : Bool) (room : MuxQueueWait)
  deriving DecidableEq, Repr

/-- The video thread runs `f` when it is started, has not failed, and is not between the load
    and the compare-exchange of `maybeArmSplit`. -/
def SplitState.onVideo (s : SplitState) (f : VideoLocals → SplitState) : Option SplitState :=
  match s.video with
  | some v => if v.failed || v.consuming.isSome then none else some (f v)
  | none => none

def step (cfg : SplitConfig) (s : SplitState) : SplitAction → Option SplitState
  | .session recording activeRequest =>
      some { s with recording := recording, activeRequest := activeRequest }
  | .requestSplit n source requestId => requestSplit s n source requestId
  | .matchRequest n => matchRequest s n
  | .loadWord r => loadWord s r
  | .exchangeWord r spurious => exchangeWord s r spurious
  | .sampleMuxDiagnostics bytes => sampleMuxDiagnostics cfg s bytes
  | .popMuxItem finalized => popMuxItem s finalized
  | .startVideo => startVideo cfg s
  | .maybeArmSplit ptsNs => s.onVideo fun v => maybeArmSplit s v ptsNs
  | .consumeRequest =>
      match s.video with
      | some v => v.consuming.map (consumeRequest s v)
      | none => none
  | .routePacket pkt bothReady room => s.onVideo fun v => routePacket cfg s v pkt bothReady room

/-- The step is a compare-exchange that publishes a request. -/
def publishes (s : SplitState) : SplitAction → Bool
  | .exchangeWord r spurious =>
      match s.requesters r with
      | .loaded _ expected => !spurious && s.splitRequest == expected
      | _ => false
  | _ => false

/-! ## Actions of one request and of one frame -/

/-- Caller `n` publishes one request and nothing comes between its steps. -/
def publishSteps (n : Nat) (source : SplitTriggerSource) (requestId : RecordRequestId) :
    List SplitAction :=
  [.requestSplit n source requestId, .matchRequest n, .loadWord (.caller n),
    .exchangeWord (.caller n) false]

/-- A frame at `ptsNs`: the arming decision, and the frame's packet routed as a keyframe. -/
def frameSteps (ptsNs : UInt64) : List SplitAction :=
  [.maybeArmSplit ptsNs, .consumeRequest,
    .routePacket { bytes := [1], ptsNs := ptsNs, keyframe := true } true .ready]

end Exosnap.Engine.SplitCoordination
