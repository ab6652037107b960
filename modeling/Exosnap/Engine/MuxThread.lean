/-
  `mux_thread.cpp`, `MuxThread::Run`: the packets of the mux queue are placed on segment
  timelines and pushed into one Matroska writer per segment.

  A step handles one item (`handle`): a packet held back before the tracks were initialised
  (premux), or an item popped from the queue. The premux loops run the statements of
  `handle_payload`, so a run is one list of items (`MuxInput.steps`). What other threads
  publish in atomics is given with each step (`SharedView`), and may differ from step to step
  in any way; no step loads one of these atomics twice.

  Outside the model: diagnostics and log lines, the file size of a segment, the size-split
  request (in `SplitCoordination`), and the wait for codec headers before the first segment.

  The last five fields of `MuxState`, the origin in a held packet and the push lists are
  bookkeeping that no branch reads: they say where each audio packet went.
-/
import Mathlib.Logic.Function.Basic
import Exosnap.Engine.AvEpochAlign
import Exosnap.Engine.MatroskaStreamWriter
import Exosnap.Engine.SessionTypes

namespace Exosnap.Engine.MuxThread

/-! ## What the thread reads -/

/-- Why `DeriveSegmentPath` found no path: a file-system error, or none left to try. -/
structure SegmentPathFailure where
  error : Option UInt32
  message : String
  deriving DecidableEq, Repr

/-- What is fixed for the run: the session's configuration, the conversions of
    `annexb_to_avcc.cpp` and `annexb_to_hvcc.cpp`, and the answers of the file system for each
    segment index. -/
structure MuxEnv where
  trackCount : UInt32
  codecDelaySamples : UInt32 → UInt32
  audioSampleRate : UInt32
  videoCodec : VideoCodec
  convertAnnexBToAvcc : List UInt8 → Option (List UInt8)
  convertAnnexBToHevcSample : List UInt8 → Option (List UInt8)
  /-- `sw_config_template` -/
  writerConfig : MatroskaStreamConfig
  sessionStartQpc100ns : UInt64
  segmentPathFailure : UInt32 → Option SegmentPathFailure
  outputIo : UInt32 → OutputIo

/-- The session's atomics as a step finds them. -/
structure SharedView where
  videoEpochQpc100ns : UInt64
  audioEpochQpc100ns : UInt32 → UInt64
  measuredMaxCllNits : UInt32 := 0
  measuredMaxFallNits : UInt32 := 0

namespace MuxEnv

def frameDurNs (env : MuxEnv) : UInt64 :=
  if 0 < env.writerConfig.frameRateNum ∧ 0 < env.writerConfig.frameRateDen then
    env.writerConfig.frameRateDen.toUInt64 * 1000000000 / env.writerConfig.frameRateNum.toUInt64
  else 0

/-- `audio_codec_delay_ns` -/
def audioCodecDelayNs (env : MuxEnv) (track : UInt32) : UInt64 :=
  (env.codecDelaySamples track).toUInt64 * 1000000000 / (max 1 env.audioSampleRate).toUInt64

/-- The track id of a packet that `push_audio` does not skip. -/
def inRange (env : MuxEnv) (track : UInt32) : Bool :=
  decide (track < env.trackCount) && decide (track < kMaxAudioTracks)

end MuxEnv

/-! ## State -/

/-- The `seq`-th non-empty audio packet that was handled. -/
structure AudioArrival where
  seq : Nat
  packet : EncodedAudioPacket
  deriving DecidableEq, Repr

/-- An audio packet in a hold queue, with the packet it arrived as. -/
structure HeldAudio where
  payload : EncodedAudioPacket
  origin : AudioArrival
  deriving DecidableEq, Repr

inductive PushSource where
  | video (packet : EncodedVideoPacket)
  | audio (origin : AudioArrival)
  deriving DecidableEq, Repr

/-- One call of `MatroskaStreamWriter::Push`. -/
structure WriterPush where
  source : PushSource
  packet : MuxPacket
  deriving DecidableEq, Repr

structure SegmentState where
  writer : Option Writer := none
  index : UInt32 := 0
  epochSessionPtsNs : UInt64 := 0
  epochSet : Bool := false
  maxLocalPtsNs : UInt64 := 0
  /-- What was pushed into the open writer. -/
  pushes : List WriterPush := []

/-- A segment's epoch is its first video packet's session PTS. -/
def SegmentState.withEpoch (seg : SegmentState) (ptsNs : UInt64) : SegmentState :=
  if !seg.epochSet then { seg with epochSessionPtsNs := ptsNs, epochSet := true } else seg

/-- The report of a finalized segment, with its file and what was pushed into it. -/
structure CompletedSegment where
  index : UInt32
  sessionStartMs : UInt64
  durationMs : UInt64
  succeeded : Bool
  sessionEnd : Bool
  file : Writer
  pushes : List WriterPush

structure MuxState where
  seg : SegmentState := {}
  writeError : Bool := false
  anySegmentOpened : Bool := false
  failure : Option MuxFailure := none
  epochResolved : Bool := false
  videoEpoch100ns : UInt64 := 0
  pendingAudio : List HeldAudio := []
  /-- `audio_shift_ns[track]` once `audio_shift_resolved[track]` -/
  audioShift : UInt32 → Option Int64 := fun _ => none
  segmentPendingAudio : List HeldAudio := []
  trimmedAudioPackets : Nat := 0
  alignedAudioEndNs : UInt32 → UInt64 := fun _ => 0
  videoEos : Bool := false
  audioEos : UInt32 → Bool := fun _ => false
  completed : List CompletedSegment := []
  /-- Every non-empty audio packet handled, in order. -/
  arrivals : List AudioArrival := []
  /-- Counted in `trimmedAudioPackets`. -/
  trimmed : List AudioArrival := []
  /-- Dropped because the shifted PTS was negative. -/
  dropped : List AudioArrival := []
  /-- Skipped because the track id is out of range. -/
  skipped : List AudioArrival := []
  /-- Lost because there was a write error or no open writer. -/
  abandoned : List AudioArrival := []

def recordFailure (st : MuxState) (hr : HResult) (detail : String) : MuxState :=
  match st.failure with
  | some _ => st
  | none => { st with failure := some ⟨hr, detail⟩ }

/-! ## Segments -/

def openSegment (env : MuxEnv) (st : MuxState) (index : UInt32) (epochSessionPtsNs : UInt64)
    (epochSet : Bool) : MuxState × Bool :=
  match env.segmentPathFailure index with
  | some failed =>
      (recordFailure st (failed.error.elim .eFail .fromWin32)
        ("failed to derive segment path (segment " ++ toString index.toNat ++ "): " ++ failed.message),
        false)
  | none =>
      let seg : SegmentState :=
        { index := index, epochSessionPtsNs := epochSessionPtsNs, epochSet := epochSet }
      match Writer.openFile (env.outputIo index) {} env.writerConfig with
      | (w, false) =>
          (recordFailure { st with seg := seg } (.fromWin32 110)
            ("Matroska stream writer open failed (segment " ++ toString index.toNat ++ "): " ++ w.error),
            false)
      | (w, true) => ({ st with seg := { seg with writer := some w }, anySegmentOpened := true }, true)

def finalizeSegment (env : MuxEnv) (view : SharedView) (sessionEnd : Bool) (st : MuxState) :
    MuxState :=
  match st.seg.writer with
  | none => st
  | some w =>
      let r := (w.setContentLightLevels view.measuredMaxCllNits view.measuredMaxFallNits).finalize
        (env.outputIo st.seg.index)
      -- the last video frame's interval; an audio-only segment has none
      let tailNs := if 0 < st.seg.maxLocalPtsNs ∧ st.seg.epochSet = true then env.frameDurNs else 0
      { st with
        seg := { st.seg with writer := none, pushes := [] }
        writeError := st.writeError || !r.2
        completed := st.completed ++ [{
          index := st.seg.index
          sessionStartMs := st.seg.epochSessionPtsNs / 1000000
          durationMs := (st.seg.maxLocalPtsNs + tailNs) / 1000000
          succeeded := r.2
          sessionEnd := sessionEnd
          file := r.1
          pushes := st.seg.pushes }] }

/-! ## Alignment -/

def resolveEpoch (view : SharedView) (st : MuxState) : MuxState :=
  if st.epochResolved then st
  else if view.videoEpochQpc100ns = 0 then st
  else { st with videoEpoch100ns := view.videoEpochQpc100ns, epochResolved := true }

/-- The shift a track is aligned with: the measured epoch when it is believable, else the
    session start. -/
def measuredShift (env : MuxEnv) (view : SharedView) (st : MuxState) (track : UInt32) : Int64 :=
  let measured := view.audioEpochQpc100ns track
  let usable := isPlausibleAudioEpoch measured st.videoEpoch100ns
  let audioEpoch := if usable then measured else env.sessionStartQpc100ns
  audioTimelineShiftNs audioEpoch st.videoEpoch100ns

/-- `audio_shift_for`: resolved on a track's first packet and kept. -/
def audioShiftFor (env : MuxEnv) (view : SharedView) (st : MuxState) (track : UInt32) :
    Int64 × MuxState :=
  if !st.epochResolved then (0, st)
  else if kMaxAudioTracks ≤ track then (0, st)
  else
    match st.audioShift track with
    | some shift => (shift, st)
    | none =>
        let shift := measuredShift env view st track
        (shift, { st with audioShift := Function.update st.audioShift track (some shift) })

/-! ## Pushing -/

/-- Writes a placed audio packet. -/
def writeAudio (env : MuxEnv) (st : MuxState) (w : Writer) (payload : EncodedAudioPacket)
    (origin : AudioArrival) (localPtsNs : UInt64) : MuxState :=
  let track := payload.trackId
  let localNs := localPtsNs + env.audioCodecDelayNs track
  let mp : MuxPacket :=
    { ptsNs := localNs, trackNum := (2 + track).toUInt64, isKey := true, bytes := payload.bytes }
  let r := w.push (env.outputIo st.seg.index) mp
  let st := { st with seg := { st.seg with
    maxLocalPtsNs := if st.seg.maxLocalPtsNs < localNs then localNs else st.seg.maxLocalPtsNs
    writer := some r.1
    pushes := st.seg.pushes ++ [⟨.audio origin, mp⟩] } }
  if !r.2 then { st with writeError := true }
  else
    let alignedEnd := payload.ptsNs + env.audioCodecDelayNs track
    if st.alignedAudioEndNs track < alignedEnd then
      { st with alignedAudioEndNs := Function.update st.alignedAudioEndNs track alignedEnd }
    else st

def pushAudio (env : MuxEnv) (view : SharedView) (st : MuxState) (h : HeldAudio) : MuxState :=
  if st.writeError then { st with abandoned := st.abandoned ++ [h.origin] }
  else
    match st.seg.writer with
    | none => { st with abandoned := st.abandoned ++ [h.origin] }
    | some w =>
        if !env.inRange h.payload.trackId then { st with skipped := st.skipped ++ [h.origin] }
        else
          match audioShiftFor env view st h.payload.trackId with
          | (shift, st) =>
              match shiftAudioPts h.payload.ptsNs shift with
              | none => { st with dropped := st.dropped ++ [h.origin] }
              | some shiftedPtsNs =>
                  let payload := { h.payload with ptsNs := shiftedPtsNs }
                  let placed :=
                    placeOnSegmentTimeline payload.ptsNs st.seg.epochSet st.seg.epochSessionPtsNs
                  match placed.placement with
                  | .defer =>
                      -- the packet is held with its PTS already shifted
                      { st with
                        segmentPendingAudio := st.segmentPendingAudio ++ [⟨payload, h.origin⟩] }
                  | .trim =>
                      { st with
                        trimmedAudioPackets := st.trimmedAudioPackets + 1
                        trimmed := st.trimmed ++ [h.origin] }
                  | .write => writeAudio env st w payload h.origin placed.localPtsNs

/-- The sample as the track's CodecPrivate needs it, or the failure text. -/
def videoSample (env : MuxEnv) (bytes : List UInt8) : Except String (List UInt8) :=
  match env.videoCodec with
  | .h264 =>
      match env.convertAnnexBToAvcc bytes with
      | some avcc => .ok avcc
      | none => .error "Failed to convert H.264 Annex-B packet to AVCC for Matroska"
  | .hevc =>
      match env.convertAnnexBToHevcSample bytes with
      | some sample => .ok sample
      | none => .error "Failed to convert HEVC Annex-B packet to hvcC sample for Matroska"
  | .av1 => .ok bytes

def pushVideo (env : MuxEnv) (st : MuxState) (payload : EncodedVideoPacket) : MuxState :=
  if st.writeError then st
  else
    match st.seg.writer with
    | none => st
    | some w =>
        let st := { st with seg := st.seg.withEpoch payload.ptsNs }
        let placed := placeOnSegmentTimeline payload.ptsNs st.seg.epochSet st.seg.epochSessionPtsNs
        if placed.placement ≠ .write then
          recordFailure { st with writeError := true } .eFail
            "video packet could not be placed on its own segment's timeline"
        else
          match videoSample env payload.bytes with
          | .error detail => recordFailure { st with writeError := true } .eFail detail
          | .ok sample =>
              let localNs := placed.localPtsNs
              let mp : MuxPacket :=
                { ptsNs := localNs, trackNum := 1, isKey := payload.keyframe, bytes := sample }
              let r := w.push (env.outputIo st.seg.index) mp
              { st with
                seg := { st.seg with
                  maxLocalPtsNs :=
                    if st.seg.maxLocalPtsNs < localNs then localNs else st.seg.maxLocalPtsNs
                  writer := some r.1
                  pushes := st.seg.pushes ++ [⟨.video payload, mp⟩] }
                writeError := !r.2 }

/-! ## Draining the hold queues -/

/-- The loop of both drains: packets from the front until one fails to be written. The second
    component is what is left. -/
def drainHeld (env : MuxEnv) (view : SharedView) : MuxState → List HeldAudio → MuxState × List HeldAudio
  | st, [] => (st, [])
  | st, h :: rest =>
      if st.writeError then (st, h :: rest) else drainHeld env view (pushAudio env view st h) rest

/-- The loop over `pending_audio`. -/
def drainPendingLoop (env : MuxEnv) (view : SharedView) (st : MuxState) : MuxState :=
  let r := drainHeld env view { st with pendingAudio := [] } st.pendingAudio
  { r.1 with pendingAudio := r.2 }

def drainPendingAudio (env : MuxEnv) (view : SharedView) (st : MuxState) : MuxState :=
  if !st.epochResolved then st else drainPendingLoop env view st

/-- The held packets are moved out first; what a write error leaves of them is lost. -/
def drainSegmentPendingAudio (env : MuxEnv) (view : SharedView) (st : MuxState) : MuxState :=
  if !st.seg.epochSet || st.segmentPendingAudio.isEmpty then st
  else
    let r := drainHeld env view { st with segmentPendingAudio := [] } st.segmentPendingAudio
    { r.1 with abandoned := r.1.abandoned ++ r.2.map HeldAudio.origin }

def beginNewSegment (env : MuxEnv) (view : SharedView) (st : MuxState) (s : SplitSentinel) :
    MuxState :=
  if st.writeError then st
  else
    let st := drainPendingAudio env view st
    let st := drainSegmentPendingAudio env view st
    let st := finalizeSegment env view false st
    if st.writeError then st else (openSegment env st s.newSegmentIndex 0 false).1

/-! ## The run -/

/-- `handle_payload` -/
def handle (env : MuxEnv) (st : MuxState) (step : SharedView × MuxItem) : MuxState :=
  let view := step.1
  match step.2 with
  | .video payload =>
      if payload.bytes.isEmpty then st
      else
        let st := resolveEpoch view st
        let st := pushVideo env st payload
        let st := drainPendingAudio env view st
        drainSegmentPendingAudio env view st
  | .audio payload =>
      if payload.bytes.isEmpty then st
      else
        let origin : AudioArrival := ⟨st.arrivals.length, payload⟩
        let st := resolveEpoch view { st with arrivals := st.arrivals ++ [origin] }
        if st.epochResolved then
          pushAudio env view (drainPendingAudio env view st) ⟨payload, origin⟩
        else { st with pendingAudio := st.pendingAudio ++ [⟨payload, origin⟩] }
  | .split s => beginNewSegment env view st s
  | .videoEos => { st with videoEos := true }
  | .audioEos track =>
      if env.inRange track then { st with audioEos := Function.update st.audioEos track true } else st

/-- The flush behind the last item: without a video epoch the session hold goes out un-rebased;
    what the last segment still holds is placed, or counted as trimmed. -/
def flushTail (env : MuxEnv) (view : SharedView) (st : MuxState) : MuxState :=
  let st := if !st.epochResolved then drainPendingLoop env view st else st
  let st := drainSegmentPendingAudio env view st
  { st with
    trimmedAudioPackets := st.trimmedAudioPackets + st.segmentPendingAudio.length
    trimmed := st.trimmed ++ st.segmentPendingAudio.map HeldAudio.origin
    segmentPendingAudio := [] }

def finish (env : MuxEnv) (view : SharedView) (st : MuxState) : MuxState :=
  let st := finalizeSegment env view true (flushTail env view st)
  if st.writeError || !st.anySegmentOpened then
    recordFailure st .eFail "Matroska stream write failed"
  else st

/-- The packets a run handles, each with the atomics it finds. -/
structure MuxInput where
  videoPremux : List (SharedView × EncodedVideoPacket)
  audioPremux : List (SharedView × EncodedAudioPacket)
  queue : List (SharedView × MuxItem)
  tail : SharedView

def MuxInput.steps (input : MuxInput) : List (SharedView × MuxItem) :=
  input.videoPremux.map (fun p => (p.1, .video p.2)) ++
    input.audioPremux.map (fun p => (p.1, .audio p.2)) ++ input.queue

/-- The state once the first segment was opened. -/
def started (env : MuxEnv) : MuxState × Bool := openSegment env {} 0 0 false

def run (env : MuxEnv) (input : MuxInput) : MuxState :=
  if kMaxAudioTracks < env.trackCount then
    recordFailure {} .eInvalidArg "Audio track count exceeds maximum supported"
  else
    match started env with
    | (st, false) => st
    | (st, true) => finish env input.tail (input.steps.foldl (handle env) st)

end Exosnap.Engine.MuxThread
