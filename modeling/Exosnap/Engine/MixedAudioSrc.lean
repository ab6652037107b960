/-
  `mixed_audio_src.{h,cpp}`: several capture sources summed into one stereo stream.

  The sources are read through their output-format decorators, so a packet here is 48 kHz stereo
  float; what the decorators answer to one call is a list of `Poll`s. The vectors indexed by
  sources are one list of records. A ring of `kMaxFifoFrames` slots is a function of the slot: a
  frame with the position it is tagged by, or nothing where the tag is still the minimum. The
  FIFOs matter for a single source only, and are one list. Time stamps are nanoseconds below
  `2^64`, for which `SamplePosition` does not overflow.

  The limiter is a parameter: a state of type `κ` and the function that bends a block.

  `history` (newest first) records each frame stored in a ring and each frame mixed from the
  rings, before the limiter. No branch reads it.
-/
import Exosnap.Engine.AudioFrame
import Mathlib.Logic.Function.Basic

namespace Exosnap.Engine

namespace MixedAudioSrc

def kMixFrameCount : Nat := 480

def kOutputSampleRate : Nat := 48000

def kMaxFifoFrames : Nat := kOutputSampleRate / 2

def kArrivalHorizonNs : Nat := 30000000

def samplePosition (ns : Nat) : Int :=
  (ns / 1000000000 * kOutputSampleRate +
    (ns % 1000000000 * kOutputSampleRate + 500000000) / 1000000000 : Nat)

/-- The slot of a position. -/
def slot (position : Int) : Nat := (position % kMaxFifoFrames).toNat

/-- What a source answers when it is polled. -/
inductive Poll where
  /-- No pending frames. -/
  | idle
  /-- Acquiring failed; `lost` for a non-empty error. -/
  | failed (lost : Bool)
  /-- A packet, the time of its first frame (0 if unknown), and the clock where it is read. -/
  | packet (buf : RawAudioBuffer Frame) (qpcNs clockNs : Nat)

inductive Event where
  | store (source : Nat) (position : Int) (frame : Frame)
  | emit (position : Int) (frame : Frame)
  deriving DecidableEq

structure TimelineSource where
  gainMultiplier : Float32
  degraded : Bool := false
  ring : Nat → Option (Int × Frame) := fun _ => none
  endFrame : Int := 0
  seen : Bool := false

end MixedAudioSrc

open MixedAudioSrc

structure MixedAudioSrc (κ : Type*) where
  sources : List TimelineSource
  limiterEnabled : Bool
  limiter : κ
  sourceMuteMask : BitVec 32 := 0
  outputFrame : Int := 0
  latestFrame : Int := 0
  timelineStarted : Bool := false
  timelineEmitted : Bool := false
  draining : Bool := false
  timelineDiscontinuityPending : Bool := false
  lastOutputQpcNs : Nat := 0
  fifo : List Frame := []
  singleSourcePendingGapFrames : UInt32 := 0
  history : List Event := []

namespace MixedAudioSrc

variable {κ : Type*}

def sourceCount (m : MixedAudioSrc κ) : Nat := m.sources.length

/-- After `Init`, with the clock as it reads it. -/
def init (gainMultipliers : List Float32) (limiterEnabled : Bool) (limiter : κ) (clockNs : Nat) :
    MixedAudioSrc κ :=
  let m : MixedAudioSrc κ :=
    { sources := gainMultipliers.map fun g => { gainMultiplier := g }
      limiterEnabled := limiterEnabled
      limiter := limiter }
  if 1 < m.sourceCount then
    { m with
      outputFrame := samplePosition clockNs
      latestFrame := samplePosition clockNs
      timelineStarted := true }
  else m

/-! ## Mute -/

def setSourceMuted (m : MixedAudioSrc κ) (index : Nat) (muted : Bool) : MixedAudioSrc κ :=
  if 32 ≤ index then m
  else if muted then { m with sourceMuteMask := m.sourceMuteMask ||| (1#32 <<< index) }
  else { m with sourceMuteMask := m.sourceMuteMask &&& ~~~(1#32 <<< index) }

def muted (m : MixedAudioSrc κ) (index : Nat) : Bool :=
  decide (index < 32) && (m.sourceMuteMask &&& (1#32 <<< index)) != 0#32

/-! ## The timeline of several sources -/

def modifySource (m : MixedAudioSrc κ) (index : Nat) (f : TimelineSource → TimelineSource) :
    MixedAudioSrc κ :=
  { m with sources := m.sources.modify index f }

/-- One frame into the ring of a source, tagged by its position. -/
def storeFrame (m : MixedAudioSrc κ) (index : Nat) (position : Int) (frame : Frame) :
    MixedAudioSrc κ :=
  { m.modifySource index fun s =>
      { s with ring := Function.update s.ring (slot position) (some (position, frame)) } with
    history := .store index position frame :: m.history }

/-- What a packet contributes at its frame `f`. -/
def contribution (muted : Bool) (gain : Float32) (packet : RawAudioBuffer Frame) (f : Nat) :
    Frame :=
  if muted || packet.silent then silence
  else match packet.bytes with
    | none => silence
    | some samples => ((samples.getD f silence).1 * gain, (samples.getD f silence).2 * gain)

/-- Where a packet begins on the timeline. -/
def packetStart (m : MixedAudioSrc κ) (source : TimelineSource) (packet : RawAudioBuffer Frame)
    (qpcNs clockNs : Nat) (tail : Bool) : Int :=
  if tail then source.endFrame
  else if qpcNs ≠ 0 then samplePosition qpcNs
  else if source.seen then
    max (source.endFrame + packet.gapFrames.toNat)
      (samplePosition clockNs - samplePosition kArrivalHorizonNs)
  else if m.timelineStarted then m.outputFrame
  else samplePosition clockNs - packet.numFrames

/-- The bounds of the timeline with a packet from `start` on. -/
def extendTimeline (m : MixedAudioSrc κ) (index : Nat) (start : Int) (numFrames : Nat) :
    MixedAudioSrc κ :=
  let m :=
    if !m.timelineStarted then
      { m with outputFrame := start, latestFrame := start, timelineStarted := true }
    else if !m.timelineEmitted then { m with outputFrame := min m.outputFrame start }
    else m
  { m.modifySource index fun s => { s with seen := true, endFrame := start + numFrames } with
    latestFrame := max m.latestFrame (start + numFrames) }

/-- The frames of a packet that lie in the ring's window. -/
def storeFrames (m : MixedAudioSrc κ) (index : Nat) (start : Int) (numFrames : Nat)
    (frame : Nat → Frame) : MixedAudioSrc κ :=
  (List.range numFrames).foldl (fun m (f : Nat) =>
    let position := start + (f : Int)
    if position < m.outputFrame ∨ m.outputFrame + kMaxFifoFrames ≤ position then m
    else m.storeFrame index position (frame f)) m

def storeTimelinePacket (m : MixedAudioSrc κ) (index : Nat) (packet : RawAudioBuffer Frame)
    (qpcNs clockNs : Nat) (tail : Bool) : MixedAudioSrc κ :=
  if packet.numFrames = 0 then m
  else match m.sources[index]? with
    | none => m
    | some source =>
        let start := m.packetStart source packet qpcNs clockNs tail
        let gain := source.gainMultiplier / Float32.ofNat m.sourceCount
        (m.extendTimeline index start packet.numFrames).storeFrames index start packet.numFrames
          (contribution (m.muted index) gain packet)

def timelineFramesReady (m : MixedAudioSrc κ) (clockNs : Nat) : Nat :=
  if !m.timelineStarted then 0
  else
    let ready :=
      if m.draining then m.latestFrame
      else
        let slowest := m.sources.foldl (fun ready s =>
          if s.degraded then ready
          else min ready (if s.seen then s.endFrame else m.outputFrame)) m.latestFrame
        max slowest (samplePosition clockNs - samplePosition kArrivalHorizonNs)
    (max 0 (min (ready - m.outputFrame) kMixFrameCount)).toNat

/-- The frame of a source at a position, where its tag says so. -/
def TimelineSource.frameAt (s : TimelineSource) (position : Int) : Option Frame :=
  match s.ring (slot position) with
  | some (tag, frame) => if tag = position then some frame else none
  | none => none

def mixFrame (m : MixedAudioSrc κ) (position : Int) : Frame :=
  m.sources.foldl (fun sum s =>
    match s.frameAt position with
    | some frame => sum + frame
    | none => sum) silence

def emitFrame (h : List Event) (e : Int × Frame) : List Event := .emit e.1 e.2 :: h

/-- The next `frames` frames of the timeline. -/
def mixTimeline (m : MixedAudioSrc κ) (frames : Nat) : MixedAudioSrc κ × List Frame :=
  let mix := (List.range frames).map fun f : Nat =>
    (m.outputFrame + (f : Int), m.mixFrame (m.outputFrame + (f : Int)))
  ({ m with
      lastOutputQpcNs := deviceFramesToNs m.outputFrame.toNat kOutputSampleRate
      outputFrame := m.outputFrame + frames
      timelineEmitted := true
      history := mix.foldl emitFrame m.history },
    mix.map Prod.snd)

/-! ## The FIFO of a single source -/

def scaled (gain : Float32) (frame : Frame) : Frame := (gain * frame.1, gain * frame.2)

/-- The packet behind what the FIFO holds, the oldest frames dropped past the cap. -/
def pushFifo (m : MixedAudioSrc κ) (source : TimelineSource) (index : Nat)
    (buf : RawAudioBuffer Frame) : MixedAudioSrc κ :=
  if buf.numFrames = 0 then m
  else
    let gain := 1 / Float32.ofNat m.sourceCount * source.gainMultiplier
    let frames :=
      match buf.bytes with
      | some samples =>
          if m.muted index || buf.silent then List.replicate buf.numFrames silence
          else (List.range buf.numFrames).map fun f => scaled gain (samples.getD f silence)
      | none => List.replicate buf.numFrames silence
    let fifo := m.fifo ++ frames
    { m with fifo := fifo.drop (fifo.length - kMaxFifoFrames) }

/-! ## Reading the sources -/

/-- One source in `PumpOnePacketPerSource`, with whether a discontinuity was seen. -/
def pumpSource (r : MixedAudioSrc κ × Bool) (answer : Poll × Nat) : MixedAudioSrc κ × Bool :=
  let (m, anyDiscontinuity) := r
  let (poll, index) := answer
  match m.sources[index]? with
  | none => r
  | some source =>
      if source.degraded then r
      else match poll with
        | .idle => r
        | .failed lost =>
            if lost then (m.modifySource index fun s => { s with degraded := true }, anyDiscontinuity)
            else r
        | .packet buf qpcNs clockNs =>
            let anyDiscontinuity := anyDiscontinuity || buf.dataDiscontinuity
            if m.sourceCount = 1 then
              ({ m with
                  singleSourcePendingGapFrames := m.singleSourcePendingGapFrames + buf.gapFrames
                }.pushFifo source index buf, anyDiscontinuity)
            else (m.storeTimelinePacket index buf qpcNs clockNs false, anyDiscontinuity)

def pumpOnePacketPerSource (m : MixedAudioSrc κ) (polls : List Poll) : MixedAudioSrc κ × Bool :=
  if m.draining then (m, false) else polls.zipIdx.foldl pumpSource (m, false)

def emittableFrames (m : MixedAudioSrc κ) (clockNs : Nat) : Nat :=
  if 1 < m.sourceCount then m.timelineFramesReady clockNs else m.fifo.length

/-- `innerPending` is what the sources report. -/
def pendingFrameCount (m : MixedAudioSrc κ) (clockNs : Nat) (innerPending : List Nat) : Nat :=
  let emittable := m.emittableFrames clockNs
  if 0 < emittable then emittable
  else if m.draining then 0
  else (m.sources.zip innerPending).foldl (fun pending s =>
    if s.1.degraded then pending else max pending s.2) 0

/-- The block before it is limited. -/
def mixBlock (m : MixedAudioSrc κ) (n : Nat) : MixedAudioSrc κ × List Frame :=
  if 1 < m.sourceCount then m.mixTimeline n
  else ({ m with fifo := m.fifo.drop n }, (m.fifo.take n).map (silence + ·))

def clampSample (s : Float32) : Float32 := if 1 < s then 1 else if s < -1 then -1 else s

def isZero (frame : Frame) : Bool := frame.1 == 0 && frame.2 == 0

variable (process : κ → List Frame → κ × List Frame)

/-- Peaks bent by the limiter, or clipped where it is off. -/
def limit (m : MixedAudioSrc κ) (mix : List Frame) : MixedAudioSrc κ × List Frame :=
  if m.limiterEnabled then
    let (limiter, out) := process m.limiter mix
    ({ m with limiter := limiter }, out)
  else (m, mix.map fun frame => (clampSample frame.1, clampSample frame.2))

/-- `AcquireBuffer`, which never fails. The clock is read once more behind the pump. -/
def acquireBuffer (m : MixedAudioSrc κ) (polls : List Poll) (clockNs : Nat) :
    MixedAudioSrc κ × RawAudioBuffer Frame :=
  let (m, anyDiscontinuity) := m.pumpOnePacketPerSource polls
  let m :=
    { m with
      timelineDiscontinuityPending := m.timelineDiscontinuityPending || anyDiscontinuity }
  let n := m.emittableFrames clockNs
  if n = 0 then (m, { silent := true, dataDiscontinuity := anyDiscontinuity })
  else
    let (m, mix) := m.mixBlock n
    let (m, out) := m.limit process mix
    let gap :=
      if m.sourceCount = 1 then
        scaleDiscontinuityGapFrames m.singleSourcePendingGapFrames kOutputSampleRate
          kOutputSampleRate
      else 0
    ({ m with
        timelineDiscontinuityPending := false
        singleSourcePendingGapFrames :=
          if m.sourceCount = 1 then 0 else m.singleSourcePendingGapFrames },
      { bytes := some out
        numFrames := n
        silent := mix.all isZero
        dataDiscontinuity := m.timelineDiscontinuityPending
        gapFrames := gap })

/-! ## Stop and reactivation -/

/-- The resampler tail of one source. A single source's goes behind its FIFO. -/
def drainSource (m : MixedAudioSrc κ) (answer : List Frame × Nat) : MixedAudioSrc κ :=
  let (tail, index) := answer
  match m.sources[index]? with
  | none => m
  | some source =>
      if tail.length = 0 then m
      else if 1 < m.sourceCount then
        m.storeTimelinePacket index { bytes := some tail, numFrames := tail.length } 0 0 true
      else
        { m with
          fifo := m.fifo ++ tail.map fun frame =>
            (frame.1 * source.gainMultiplier, frame.2 * source.gainMultiplier) }

def beginDrain (m : MixedAudioSrc κ) (tails : List (List Frame)) : MixedAudioSrc κ :=
  if m.draining then m else tails.zipIdx.foldl drainSource { m with draining := true }

/-- `recovered` is whether the source could be reacquired. -/
def reinitSource (m : MixedAudioSrc κ) (answer : Bool × Nat) : MixedAudioSrc κ :=
  let (recovered, index) := answer
  match m.sources[index]? with
  | none => m
  | some source =>
      if source.degraded && recovered then
        m.modifySource index fun s =>
          { s with degraded := false, seen := if 1 < m.sourceCount then false else s.seen }
      else m

def reinit (m : MixedAudioSrc κ) (answers : List Bool) : MixedAudioSrc κ :=
  answers.zipIdx.foldl reinitSource m

def degradedSourceCount (m : MixedAudioSrc κ) : Nat := m.sources.countP (·.degraded)

end MixedAudioSrc

end Exosnap.Engine
