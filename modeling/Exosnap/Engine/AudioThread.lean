/-
  `EncodeLoop` of `audio_thread.cpp`: capture, mute, silence and the drains at stop.

  One step is one turn of one of its loops. `top` is the head of the capture loop, `pausing` and
  `draining` are its inner loops, `tail` is the loop behind `BeginDrain`. What a turn reads from
  outside is a `Tick`: the flags of the session, the clocks, what the capture sources report and
  answer, and whether the encoded packets could be queued. A capture source is asked as often as
  the source asks it; a reading that is not asked for is not used.

  `fed` is what is handed to the encoder, one entry for each frame of the output format.

  The clock slaving (drift estimator and controller) is a parameter: it sees device timings, the
  silence filled in, and frame counts. A reactivation that is not due is a tick without one. Left
  out are the encoder, diagnostics, the level meter and the published epoch.
-/
import Exosnap.Engine.MixedAudioSrc
import Exosnap.Engine.OutputFormatAudioSrc

namespace Exosnap.Engine

inductive AudioSourceKind where
  | app | mic | sys | systemOutput
  deriving DecidableEq

def AudioSourceKind.toNat : AudioSourceKind → Nat
  | .app => 0
  | .mic => 1
  | .sys => 2
  | .systemOutput => 3

def audioSourceKindBit (kind : AudioSourceKind) : BitVec 32 := 1#32 <<< kind.toNat

/-- Whether a mute mask holds the bit of a kind. -/
def masked (mask : BitVec 32) (kind : AudioSourceKind) : Bool :=
  mask &&& audioSourceKindBit kind != 0#32

/-! ## Silence for wall-clock time -/

def kSilentStallThresholdNs : Nat := 300000000

def kMaxFillPerIter : Nat := 48000 * 5

def silenceFillFrames (nowNs lastAccountedNs sampleRate maxFrames : Nat) : Nat :=
  if sampleRate = 0 ∨ nowNs ≤ lastAccountedNs then 0
  else min ((nowNs - lastAccountedNs) * sampleRate / 1000000000) maxFrames

def isSilentStall (nowNs lastAccountedNs : Nat) : Bool :=
  decide (lastAccountedNs < nowNs) && decide (kSilentStallThresholdNs ≤ nowNs - lastAccountedNs)

def remainingGapFrames (gapFrames : UInt32) (alreadyFilledFrames : Nat) : Nat :=
  gapFrames.toNat - alreadyFilledFrames

/-! ## What the loop reads -/

/-- One capture source: the frames it reports, its answer, and the clock once it is read. -/
structure Reading (α : Type*) where
  pending : Nat
  answer : CaptureAnswer α
  clockNs : Nat

structure DeviceTiming where
  devicePositionNs : Nat
  qpcPositionNs : Nat

structure Tick (α : Type*) where
  stopRequested : Bool := false
  pauseRequested : Bool := false
  muteMask : BitVec 32 := 0
  /-- `QpcNowNs`, and once more behind a reactivation. -/
  nowNs : Nat := 0
  laterNs : Nat := 0
  reading : Nat → Reading α
  /-- The mixer's clock where it is asked for pending frames, and where it emits. -/
  pendingClockNs : Nat := 0
  clockNs : Nat := 0
  timing : Option DeviceTiming := none
  /-- A reactivation: the stream each source comes back with. -/
  reinit : Option (Nat → Option InnerStream) := none
  /-- The class of the failure that the source reports. -/
  degradeSource : Bool := false
  /-- Whether the packets encoded in this turn found room, and those behind a reactivation. -/
  routed : Bool := true
  laterRouted : Bool := true

/-- Drift estimator and slaving controller. -/
structure ClockSlaving (δ : Type*) where
  /-- An observation with the frames in and out and their rates, and the compensation to set. -/
  observe : δ → DeviceTiming → Int → Int → Nat → Nat → δ × Option Compensation
  notifySilenceFilled : δ → Nat → δ
  reset : δ → δ

/-- What the loop is built from: the converter over a bare source, over a source of the mixer and
    over the mixer, the limiter, and the slaving. -/
structure Parts (σ κ δ α β : Type*) where
  bare : Resampler σ α β
  inner : Resampler σ α Frame
  outer : Resampler σ Frame β
  limiter : κ → List Frame → κ × List Frame
  slaving : ClockSlaving δ
  silentOut : β

/-- `source_` behind the output format. -/
inductive Capture (σ κ : Type*) where
  | bare
  | mixed (inners : List (OutputFormatAudioSrc σ)) (mixer : MixedAudioSrc κ)

def Capture.isBare {σ κ : Type*} : Capture σ κ → Bool
  | .bare => true
  | .mixed _ _ => false

inductive LoopPhase where
  | top
  | pausing
  | draining (trackMuted : Bool)
  | tail
  | done
  deriving DecidableEq

structure AudioThread (σ κ δ β : Type*) where
  sourceKinds : List AudioSourceKind
  outputFormat : OutputFormatAudioSrc σ
  capture : Capture σ κ
  slaving : δ
  phase : LoopPhase := .top
  bareDegraded : Bool := false
  silentStalled : Bool := false
  lastAccountedQpcNs : Nat := 0
  silenceFilledFramesSincePacket : Nat := 0
  lastMuteMask : BitVec 32 := 0
  failed : Bool := false
  fed : List β := []

namespace AudioThread

variable {σ κ δ α β : Type*}

def captureSourceCount (t : AudioThread σ κ δ β) : Nat :=
  match t.capture with
  | .bare => 1
  | .mixed _ mixer => mixer.sourceCount

def degradedSourceCount (t : AudioThread σ κ δ β) : Nat :=
  match t.capture with
  | .bare => 0
  | .mixed _ mixer => mixer.degradedSourceCount

/-- A merged source has its own timeline. -/
def sourceOwnsTimeline (t : AudioThread σ κ δ β) : Bool :=
  match t.capture with
  | .bare => false
  | .mixed _ mixer => decide (1 < mixer.sourceCount)

def feed (t : AudioThread σ κ δ β) (frames : List β) : AudioThread σ κ δ β :=
  { t with fed := t.fed ++ frames }

def fail (t : AudioThread σ κ δ β) : AudioThread σ κ δ β :=
  { t with failed := true, phase := .done }

variable (p : Parts σ κ δ α β)

/-! ## The source -/

def pendingFrameCount (t : AudioThread σ κ δ β) (k : Tick α) : Nat :=
  match t.capture with
  | .bare => (k.reading 0).pending
  | .mixed _ mixer =>
      mixer.pendingFrameCount k.pendingClockNs
        ((List.range mixer.sourceCount).map fun i => (k.reading i).pending)

/-- A source of the mixer read through its decorator, unless the mixer leaves it alone. -/
def pollSource (mixer : MixedAudioSrc κ) (k : Tick α) (source : OutputFormatAudioSrc σ × Nat) :
    OutputFormatAudioSrc σ × MixedAudioSrc.Poll :=
  let (inner, i) := source
  let degraded := (mixer.sources[i]?.map (·.degraded)).getD true
  if mixer.draining || degraded || (k.reading i).pending == 0 then (inner, .idle)
  else match inner.acquireBuffer p.inner (k.reading i).answer with
    | (inner, .failed lost) => (inner, .failed lost)
    | (inner, .packet buf qpcNs) => (inner, .packet buf qpcNs (k.reading i).clockNs)

def pollSources (inners : List (OutputFormatAudioSrc σ)) (mixer : MixedAudioSrc κ) (k : Tick α) :
    List (OutputFormatAudioSrc σ × MixedAudioSrc.Poll) :=
  inners.zipIdx.map (pollSource p mixer k)

/-- `LastBufferQpcNs` of the mixer. -/
def mixerQpcNs (inners : List (OutputFormatAudioSrc σ)) (mixer : MixedAudioSrc κ) : Nat :=
  if mixer.sourceCount = 1 then (inners.head?.map (·.outputQpcNs)).getD 0
  else mixer.lastOutputQpcNs

/-- `source_->AcquireBuffer`. -/
def acquireBuffer (t : AudioThread σ κ δ β) (k : Tick α) :
    AudioThread σ κ δ β × CaptureAnswer β :=
  match t.capture with
  | .bare =>
      let (d, answer) := t.outputFormat.acquireBuffer p.bare (k.reading 0).answer
      ({ t with outputFormat := d }, answer)
  | .mixed inners mixer =>
      let polled := pollSources p inners mixer k
      let inners := polled.map Prod.fst
      let (mixer, buf) := mixer.acquireBuffer p.limiter (polled.map Prod.snd) k.clockNs
      let (d, answer) :=
        t.outputFormat.acquireBuffer p.outer (.packet buf (mixerQpcNs inners mixer))
      ({ t with outputFormat := d, capture := .mixed inners mixer }, answer)

/-- A degraded source of the mixer reacquired. -/
def reinitInner (mixer : MixedAudioSrc κ) (answers : Nat → Option InnerStream)
    (source : OutputFormatAudioSrc σ × Nat) : OutputFormatAudioSrc σ × Bool :=
  let (inner, i) := source
  if (mixer.sources[i]?.map (·.degraded)).getD false then inner.reinit p.inner (answers i)
  else (inner, false)

/-- `source_->Reinit`, with whether it succeeded. -/
def reinit (t : AudioThread σ κ δ β) (answers : Nat → Option InnerStream) :
    AudioThread σ κ δ β × Bool :=
  match t.capture with
  | .bare =>
      let (d, ok) := t.outputFormat.reinit p.bare (answers 0)
      ({ t with outputFormat := d }, ok)
  | .mixed inners mixer =>
      let reacquired := inners.zipIdx.map (reinitInner p mixer answers)
      let mixer := mixer.reinit (reacquired.map Prod.snd)
      let stream : Option InnerStream :=
        if mixer.degradedSourceCount = 0 then
          some ⟨MixedAudioSrc.kOutputSampleRate, 2, false⟩
        else none
      let (d, ok) := t.outputFormat.reinit p.outer stream
      ({ t with outputFormat := d, capture := .mixed (reacquired.map Prod.fst) mixer }, ok)

/-! ## The capture loop -/

/-- Silence for the time since the last accounted frame. -/
def emitSilenceForElapsed (t : AudioThread σ κ δ β) (nowNs : Nat) (routed : Bool) :
    AudioThread σ κ δ β :=
  let sampleRate := t.outputFormat.targetRate
  let frames := silenceFillFrames nowNs t.lastAccountedQpcNs sampleRate kMaxFillPerIter
  if frames = 0 then t
  else
    let filledNs := frames * 1000000000 / sampleRate
    let t :=
      { t.feed (List.replicate frames p.silentOut) with
        lastAccountedQpcNs := t.lastAccountedQpcNs + filledNs
        slaving := p.slaving.notifySilenceFilled t.slaving filledNs
        silenceFilledFramesSincePacket := t.silenceFilledFramesSincePacket + frames }
    if routed then t else t.fail

/-- A reactivation attempt and, once it succeeded, the silence for the time it took. -/
def reactivate (t : AudioThread σ κ δ β) (k : Tick α) (realign : Bool)
    (answers : Nat → Option InnerStream) : AudioThread σ κ δ β :=
  let (t, ok) := t.reinit p answers
  if ok && realign then
    { t with bareDegraded := false, slaving := p.slaving.reset t.slaving }.emitSilenceForElapsed p
      k.laterNs k.laterRouted
  else t

/-- A turn with the sole source lost. -/
def degradedTurn (t : AudioThread σ κ δ β) (k : Tick α) : AudioThread σ κ δ β :=
  let t := t.emitSilenceForElapsed p k.nowNs k.routed
  if t.failed then t
  else match k.reinit with
    | none => t
    | some answers => t.reactivate p k true answers

/-- The health of the sources of a mixer. -/
def mergedHealth (t : AudioThread σ κ δ β) (k : Tick α) : AudioThread σ κ δ β :=
  let degraded := t.degradedSourceCount
  if degraded = 0 then t
  else
    let clockDriven :=
      decide (0 < t.captureSourceCount) && degraded == t.captureSourceCount &&
        !t.sourceOwnsTimeline
    let t := if clockDriven then t.emitSilenceForElapsed p k.nowNs k.routed else t
    if t.failed then t
    else match k.reinit with
      | none => t
      | some answers => t.reactivate p k clockDriven answers

/-- A turn in which the source has nothing pending. -/
def idleTurn (t : AudioThread σ κ δ β) (k : Tick α) : AudioThread σ κ δ β :=
  if !t.sourceOwnsTimeline && (t.silentStalled || isSilentStall k.nowNs t.lastAccountedQpcNs) then
    { t with silentStalled := true }.emitSilenceForElapsed p k.nowNs k.routed
  else t

/-- The bits of a mask as the mutes of the mixer's sources. -/
def pushMask (kinds : List AudioSourceKind) (mask : BitVec 32) (mixer : MixedAudioSrc κ) :
    MixedAudioSrc κ :=
  kinds.zipIdx.foldl (fun mixer s => mixer.setSourceMuted s.2 (masked mask s.1)) mixer

/-- The mute mask, read once for a drain. -/
def enterDrain (t : AudioThread σ κ δ β) (mask : BitVec 32) : AudioThread σ κ δ β :=
  match t.capture with
  | .bare =>
      let trackMuted :=
        match t.sourceKinds with
        | [kind] => masked mask kind
        | _ => false
      { t with phase := .draining trackMuted }
  | .mixed inners mixer =>
      if mask ≠ t.lastMuteMask then
        { t with
          capture := .mixed inners (pushMask t.sourceKinds mask mixer)
          lastMuteMask := mask
          phase := .draining false }
      else { t with phase := .draining false }

/-! ## Stop -/

/-- The tail of the output format's resampler. -/
def drainOutput (t : AudioThread σ κ δ β) : AudioThread σ κ δ β :=
  let (d, frames) :=
    match t.capture with
    | .bare => t.outputFormat.drainResampler p.bare
    | .mixed _ _ => t.outputFormat.drainResampler p.outer
  { t.feed frames with outputFormat := d, phase := .done }

/-- Behind the capture loop. -/
def stop (t : AudioThread σ κ δ β) : AudioThread σ κ δ β :=
  match t.capture with
  | .bare => t.drainOutput p
  | .mixed inners mixer =>
      let drained := inners.map (·.drainResampler p.inner)
      { t with
        capture := .mixed (drained.map Prod.fst) (mixer.beginDrain (drained.map Prod.snd))
        phase := .tail }

/-! ## One turn -/

def topTurn (t : AudioThread σ κ δ β) (k : Tick α) : AudioThread σ κ δ β :=
  if k.stopRequested then t.stop p
  else if k.pauseRequested then { t with phase := .pausing }
  else if t.bareDegraded then t.degradedTurn p k
  else
    let t := t.mergedHealth p k
    if t.failed then t
    else if t.pendingFrameCount k = 0 then t.idleTurn p k
    else t.enterDrain k.muteMask

/-- Behind the loop that discards what is captured during a pause. -/
def leavePause (t : AudioThread σ κ δ β) (k : Tick α) : AudioThread σ κ δ β :=
  { t with
    lastAccountedQpcNs := k.nowNs
    silentStalled := false
    silenceFilledFramesSincePacket := 0
    phase := .top }

def pauseTurn (t : AudioThread σ κ δ β) (k : Tick α) : AudioThread σ κ δ β :=
  if t.pendingFrameCount k = 0 then t.leavePause k
  else match t.acquireBuffer p k with
    | (t, .packet _ _) => t
    | (t, .failed lost) =>
        if lost && k.degradeSource && decide (t.captureSourceCount ≤ 1) then
          { t with bareDegraded := true }.leavePause k
        else t.leavePause k

/-- `output_format_src_->SetCompensationPpm`. -/
def setCompensationPpm (capture : Capture σ κ) (d : OutputFormatAudioSrc σ) (c : Compensation) :
    OutputFormatAudioSrc σ :=
  match capture with
  | .bare => d.setCompensationPpm p.bare c
  | .mixed _ _ => d.setCompensationPpm p.outer c

/-- The slaving fed by a packet, where the source has one device clock. -/
def observeTiming (t : AudioThread σ κ δ β) (k : Tick α) : AudioThread σ κ δ β :=
  match (if t.captureSourceCount = 1 then k.timing else none) with
  | none => t
  | some timing =>
      let d := t.outputFormat
      let (slaving, compensation) :=
        p.slaving.observe t.slaving timing d.inTotal d.outTotal d.inner.rate d.targetRate
      let t := { t with slaving := slaving }
      match compensation with
      | none => t
      | some c => { t with outputFormat := setCompensationPpm p t.capture d c }

/-- The frames of a packet as they are fed, `none` where they have no bytes. -/
def packetFrames (trackMuted : Bool) (buf : RawAudioBuffer β) : Option (List β) :=
  if buf.silent || trackMuted then some (List.replicate buf.numFrames p.silentOut)
  else buf.bytes.map fun frames =>
    (List.range buf.numFrames).map fun i => frames.getD i p.silentOut

/-- A captured packet behind the silence for its gap. -/
def feedPacket (t : AudioThread σ κ δ β) (k : Tick α) (trackMuted : Bool)
    (buf : RawAudioBuffer β) : AudioThread σ κ δ β :=
  let gap := remainingGapFrames buf.gapFrames t.silenceFilledFramesSincePacket
  let t := (t.observeTiming p k).feed (List.replicate gap p.silentOut)
  match packetFrames p trackMuted buf with
  | none => t.fail
  | some frames =>
      let t := t.feed frames
      let t :=
        if 0 < buf.numFrames then
          { t with
            lastAccountedQpcNs := k.nowNs
            silentStalled := false
            silenceFilledFramesSincePacket := 0 }
        else t
      if k.routed then t else t.fail

def drainTurn (t : AudioThread σ κ δ β) (k : Tick α) (trackMuted : Bool) :
    AudioThread σ κ δ β :=
  if t.pendingFrameCount k = 0 then { t with phase := .top }
  else match t.acquireBuffer p k with
    | (t, .failed lost) =>
        { t with bareDegraded := t.bareDegraded || (lost && k.degradeSource), phase := .top }
    | (t, .packet buf _) => t.feedPacket p k trackMuted buf

def tailTurn (t : AudioThread σ κ δ β) (k : Tick α) : AudioThread σ κ δ β :=
  if t.pendingFrameCount k = 0 then t.drainOutput p
  else match t.acquireBuffer p k with
    | (t, .failed _) => t.fail
    | (t, .packet buf _) =>
        let t := t.feed ((List.range buf.numFrames).map fun i =>
          (buf.bytes.getD []).getD i p.silentOut)
        if k.routed then t else t.fail

def step (t : AudioThread σ κ δ β) (k : Tick α) : AudioThread σ κ δ β :=
  match t.phase with
  | .top => t.topTurn p k
  | .pausing => t.pauseTurn p k
  | .draining trackMuted => t.drainTurn p k trackMuted
  | .tail => t.tailTurn p k
  | .done => t

def run (t : AudioThread σ κ δ β) (ks : List (Tick α)) : AudioThread σ κ δ β :=
  ks.foldl (step p) t

/-- Where the loop begins, behind the `Init` of its source. -/
def start (sourceKinds : List AudioSourceKind) (outputFormat : OutputFormatAudioSrc σ)
    (capture : Capture σ κ) (slaving : δ) (nowNs : Nat) : AudioThread σ κ δ β where
  sourceKinds := sourceKinds
  outputFormat := outputFormat
  capture := capture
  slaving := slaving
  lastAccountedQpcNs := nowNs

end AudioThread

end Exosnap.Engine
