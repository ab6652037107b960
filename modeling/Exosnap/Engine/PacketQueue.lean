/-
  The two packet queues of one playback run, each the other's peer. A queue has its own mutex; what
  the peer sees of it without that mutex are the mirrors of its level and of whether its consumer is
  alive.

  Modelled from src/libs/engine/src/edit_player_engine.cpp (`PacketQueue`) and
  src/libs/engine/src/edit_playback_pacing.h (`ShouldAdmitDemuxedPacket`). A step is what the holder
  of a mutex does between two points where the other queue may be looked at, so the two queues
  interleave freely. A wait is a `Push` that has given the mutex back and takes it again at any
  time, or a `Pop` that is not enabled yet. `av_rescale_q` rounds to the nearest and answers
  `INT64_MIN` when the result is not representable; sums are 64-bit.
-/
import Exosnap.Lib.StepRun
import Exosnap.Lib.WeightedQueue

namespace Exosnap.Engine

def INT64_MAX : Int := 2 ^ 63 - 1

def INT64_MIN : Int := -2 ^ 63

def wrapInt64 (x : Int) : Int := x.bmod (2 ^ 64)

structure TimeBase where
  num : Nat
  den : Nat
  den_pos : 0 < den

structure QueuedStream where
  streamIndex : Int
  timeBase : TimeBase

/-- A packet, by its number among all that are handed to the queues. -/
structure AVPacket where
  number : Nat
  streamIndex : Int
  duration : Int
deriving DecidableEq

/-- A duration in microseconds, to the nearest. -/
def rescaledUs (duration : Nat) (timeBase : TimeBase) : Nat :=
  (2 * duration * timeBase.num * 1000000 + timeBase.den) / (2 * timeBase.den)

def av_rescale_q (duration : Nat) (timeBase : TimeBase) : Int :=
  if (rescaledUs duration timeBase : Int) ≤ INT64_MAX then rescaledUs duration timeBase
  else INT64_MIN

structure PacketQueueLimits where
  softCapacityUs : Int
  hardCapacityUs : Int
  hardCapacityPackets : Nat
  peerLowWaterUs : Int

def kPacketQueueLimits : PacketQueueLimits where
  softCapacityUs := 1000000
  hardCapacityUs := 8000000
  hardCapacityPackets := 8192
  peerLowWaterUs := 250000

structure PacketAdmissionState where
  aborted : Bool
  queuedUs : Int
  queuedPackets : Nat
  peerConsuming : Bool
  peerQueuedUs : Int

def ShouldAdmitDemuxedPacket (state : PacketAdmissionState) (limits : PacketQueueLimits) : Bool :=
  if state.aborted then false
  else if state.queuedUs ≥ limits.hardCapacityUs ∨
      state.queuedPackets ≥ limits.hardCapacityPackets then false
  else if state.queuedUs < limits.softCapacityUs then true
  else state.peerConsuming && state.peerQueuedUs < limits.peerLowWaterUs

/-- What the holder of the mutex is at. A `Push` looks at its queue's flags, then at the peer's
    consumer, then at the peer's level, and inserts its packet; a `Push` that has inserted, a `Pop`
    that has taken and an `Abort` or `CloseForConsumer` that has cleared still have the level to
    store. -/
inductive Holder where
  | free
  | checking (packet : AVPacket)
  | peerLevel (packet : AVPacket) (peerConsuming : Bool)
  | admitted (packet : AVPacket)
  | storing
  | closing
  | clearing
  | cleared
deriving DecidableEq

/-- A `Push` that begins to wait: its queue and what there is to see of the peer at that moment. -/
structure Wait where
  aborted : Bool
  consumerGone : Bool
  packets : List AVPacket
  peerAlive : Bool
  peerLevelUs : Int

/-- A `Pop` that returns `EndOfStream`. -/
structure StreamEnd where
  endOfStream : Bool
  packets : List AVPacket

structure PacketQueue where
  streams : List QueuedStream
  holder : Holder := .free
  /-- The packets of the `Push` calls that wait. -/
  parked : List AVPacket := []
  packets : List AVPacket := []
  bufferedUs : Int := 0
  endOfStream : Bool := false
  aborted : Bool := false
  consumerGone : Bool := false
  levelUs : Int := 0
  consumerAlive : Bool := true
  accepted : List AVPacket := []
  popped : List AVPacket := []
  freed : List AVPacket := []
  waits : List Wait := []
  ends : List StreamEnd := []

inductive QueueAction where
  | push (packet : AVPacket)
  | recheck (packet : AVPacket)
  | advance (allocated : Bool)
  | pop
  | signalEndOfStream
  | abort
  | closeForConsumer
deriving DecidableEq

namespace PacketQueue

/-- A packet of no known duration, or of a stream that is not the queue's, counts for nothing. -/
def DurationUs (q : PacketQueue) (packet : AVPacket) : Int :=
  if packet.duration ≤ 0 then 0
  else match q.streams.find? fun stream => stream.streamIndex == packet.streamIndex with
  | some stream => av_rescale_q packet.duration.toNat stream.timeBase
  | none => 0

def streamCount (q : PacketQueue) : Nat := max q.streams.length 1

/-- The division cuts towards zero. -/
def PerStreamLevelUsLocked (q : PacketQueue) : Int := q.bufferedUs.tdiv q.streamCount

/-- The state a `Push` decides on, with what it has read of the peer. -/
def AdmissionStateLocked (q : PacketQueue) (peerConsuming : Bool) (peerQueuedUs : Int) :
    PacketAdmissionState where
  aborted := q.aborted
  queuedUs := q.PerStreamLevelUsLocked
  queuedPackets := q.packets.length
  peerConsuming := peerConsuming
  peerQueuedUs := peerQueuedUs

/-- What the holder of the mutex does next; `allocated` tells whether there was memory for the
    packet. -/
def advance (q peer : PacketQueue) (allocated : Bool) : Option PacketQueue :=
  match q.holder with
  | .free => none
  | .checking packet =>
      some { q with
        holder := if q.aborted || q.consumerGone then .free
          else .peerLevel packet peer.consumerAlive }
  | .peerLevel packet peerConsuming =>
      if ShouldAdmitDemuxedPacket (q.AdmissionStateLocked peerConsuming peer.levelUs)
          kPacketQueueLimits then
        some { q with holder := .admitted packet }
      else
        some { q with
          holder := .free, parked := packet :: q.parked,
          waits := ⟨q.aborted, q.consumerGone, q.packets, peer.consumerAlive, peer.levelUs⟩ ::
            q.waits }
  | .admitted packet =>
      if allocated then
        some { q with
          holder := .storing, bufferedUs := wrapInt64 (q.bufferedUs + q.DurationUs packet),
          packets := q.packets ++ [packet], accepted := q.accepted ++ [packet] }
      else some { q with holder := .free }
  | .storing => some { q with holder := .free, levelUs := q.PerStreamLevelUsLocked }
  | .closing => some { q with holder := .clearing, consumerAlive := false }
  | .clearing =>
      some { q with
        holder := .cleared, packets := [], bufferedUs := 0, freed := q.freed ++ q.packets }
  | .cleared => some { q with holder := .free, levelUs := 0 }

/-- What a thread that finds the mutex free does with it first. -/
def enter (q : PacketQueue) : QueueAction → Option PacketQueue
  | .push packet => some { q with holder := .checking packet }
  | .recheck packet =>
      if packet ∈ q.parked then
        some { q with holder := .checking packet, parked := q.parked.erase packet }
      else none
  | .advance _ => none
  | .pop =>
      if q.aborted then some q
      else match q.packets with
      | [] =>
          if q.endOfStream then some { q with ends := ⟨q.endOfStream, q.packets⟩ :: q.ends }
          else none
      | front :: rest =>
          let bufferedUs := wrapInt64 (q.bufferedUs - q.DurationUs front)
          some { q with
            holder := .storing, packets := rest, popped := q.popped ++ [front],
            bufferedUs := if bufferedUs < 0 then 0 else bufferedUs }
  | .signalEndOfStream => some { q with endOfStream := true }
  | .abort => some { q with aborted := true, holder := .clearing }
  | .closeForConsumer => some { q with consumerGone := true, holder := .closing }

def step (q peer : PacketQueue) (action : QueueAction) : Option PacketQueue :=
  match action with
  | .advance allocated => q.advance peer allocated
  | action => if q.holder = .free then q.enter action else none

end PacketQueue

inductive Side where
  | video
  | audio
deriving DecidableEq

structure PeeredQueues where
  video : PacketQueue
  audio : PacketQueue

namespace PeeredQueues

def queue (s : PeeredQueues) : Side → PacketQueue
  | .video => s.video
  | .audio => s.audio

def peer (s : PeeredQueues) : Side → PacketQueue
  | .video => s.audio
  | .audio => s.video

def setQueue (s : PeeredQueues) (q : PacketQueue) : Side → PeeredQueues
  | .video => { s with video := q }
  | .audio => { s with audio := q }

def start (videoStreams audioStreams : List QueuedStream) : PeeredQueues where
  video := { streams := videoStreams }
  audio := { streams := audioStreams }

def step (s : PeeredQueues) (action : Side × QueueAction) : Option PeeredQueues :=
  ((s.queue action.1).step (s.peer action.1) action.2).map fun q => s.setQueue q action.1

def exec : PeeredQueues → List (Side × QueueAction) → Option PeeredQueues := StepRun.exec step

end PeeredQueues

end Exosnap.Engine
