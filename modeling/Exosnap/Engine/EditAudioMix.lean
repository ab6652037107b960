/-
  `edit_audio_mix.{h,cpp}`: the mixer of the edit player's audio tracks.

  A sample frame is the pair of its two channels (`kChannels`), so that the accumulator's length
  is counted in frames; the two vectors that are indexed by tracks are one list. Addition is that
  of binary32. The limiter works on a block on its way out and the mixer reads nothing back from
  it: `interleavedStereo` is the block in front of it. Microseconds and frame indices are
  unbounded; the source computes them in `int64_t`, which is exact for the timestamps whose
  product with the sample rate fits (six years).

  A run is a list of calls behind one `reset`. Beside the blocks handed out it records the frames
  that arrived, those at or behind the origin of that moment and those in front of it.
-/
import Exosnap.Lib.PositionSums
import Exosnap.Lib.StepRun
import Exosnap.Engine.AudioFrame

namespace Exosnap.Engine

open PositionSums

namespace EditAudioMix

def kSampleRate : Nat := 48000

/-- How far behind the leading track a lagging one may fall. -/
def kMaxTrackLagFrames : Nat := kSampleRate / 4

/-- The same for tracks while one of them has not produced its first block. -/
def kStartupGraceFrames : Nat := kSampleRate * 3 / 4

def frameIndexForUs (us : Int) : Int := (max us 0 * kSampleRate + 500000) / 1000000

def usForFrameIndex (frame : Int) : Int := (frame * 1000000).tdiv kSampleRate

end EditAudioMix

open EditAudioMix

structure EditAudioMixer.Track where
  throughFrame : Int
  hasContributed : Bool
  deriving DecidableEq

structure MixedBlock where
  ptsUs : Int := 0
  frameCount : UInt32 := 0
  interleavedStereo : List Frame := []
  deriving DecidableEq

structure EditAudioMixer where
  originFrame : Int := 0
  tracks : List EditAudioMixer.Track := []
  accum : List Frame := []
  lateFramesDropped : Nat := 0
  deriving DecidableEq

namespace EditAudioMixer

def reset (_m : EditAudioMixer) (trackCount : Nat) (startUs : Int) : EditAudioMixer :=
  { originFrame := frameIndexForUs startUs
    tracks := List.replicate trackCount ⟨frameIndexForUs startUs, false⟩
    accum := []
    lateFramesDropped := 0 }

/-- The track has delivered through `blockEnd`. -/
def Track.deliver (blockEnd : Int) (t : Track) : Track :=
  { hasContributed := true
    throughFrame := if t.throughFrame < blockEnd then blockEnd else t.throughFrame }

def submit (m : EditAudioMixer) (track : Nat) (ptsUs : Int) (interleavedStereo : List Frame) :
    EditAudioMixer :=
  if m.tracks.length ≤ track ∨ interleavedStereo.length = 0 then m
  else
    let frameCount := interleavedStereo.length
    let blockStart := frameIndexForUs ptsUs
    let blockEnd := blockStart + frameCount
    let m := { m with tracks := m.tracks.modify track (Track.deliver blockEnd) }
    let offset := blockStart - m.originFrame
    if offset < 0 then
      let late := -offset
      if frameCount ≤ late then { m with lateFramesDropped := m.lateFramesDropped + frameCount }
      else
        let skip := late.toNat
        { m with
          lateFramesDropped := m.lateFramesDropped + skip
          accum := addAt silence m.accum 0 (interleavedStereo.drop skip) }
    else { m with accum := addAt silence m.accum offset.toNat interleavedStereo }

def takeFrames (m : EditAudioMixer) (frames : Nat) : EditAudioMixer × Option MixedBlock :=
  if frames = 0 then (m, none)
  else
    ({ m with accum := m.accum.drop frames, originFrame := m.originFrame + frames },
      some
        { ptsUs := usForFrameIndex m.originFrame
          frameCount := frames.toUInt32
          interleavedStereo := m.accum.take frames })

def accumEnd (m : EditAudioMixer) : Int := m.originFrame + m.accum.length

def newest (m : EditAudioMixer) : Int :=
  m.tracks.foldl (fun newest t => max newest t.throughFrame) m.originFrame

def allStarted (m : EditAudioMixer) : Bool := m.tracks.all (·.hasContributed)

def lagFrames (m : EditAudioMixer) : Int :=
  if m.allStarted then kMaxTrackLagFrames else kStartupGraceFrames

/-- The frame the mix is handed on through. -/
def barrier (m : EditAudioMixer) : Int :=
  let barrier := m.tracks.foldl (fun barrier t => min barrier t.throughFrame) m.accumEnd
  let barrier := max barrier (m.newest - m.lagFrames)
  min barrier m.accumEnd

def take (m : EditAudioMixer) : EditAudioMixer × Option MixedBlock :=
  if m.tracks.length = 0 ∨ m.accum = [] then (m, none)
  else if m.barrier ≤ m.originFrame then (m, none)
  else m.takeFrames (m.barrier - m.originFrame).toNat

def takeRemainder (m : EditAudioMixer) : EditAudioMixer × Option MixedBlock :=
  if m.accum = [] then (m, none)
  else m.takeFrames m.accum.length

/-! ## Runs -/

inductive Call where
  | submit (track : Nat) (ptsUs : Int) (interleavedStereo : List Frame)
  | take
  deriving DecidableEq

/-- The frames of a call, at their indices. Blocks of a track that was not announced are
    ignored. -/
def Call.arrivals (trackCount : Nat) : Call → List (Placed Frame)
  | .submit track ptsUs frames =>
      if track < trackCount then place track (frameIndexForUs ptsUs) frames else []
  | .take => []

structure Run where
  mixer : EditAudioMixer
  blocks : List MixedBlock := []
  /-- The frames that arrived at the origin of the moment or behind it. -/
  onTime : List (Placed Frame) := []
  /-- The frames that arrived in front of it. -/
  late : List (Placed Frame) := []
  deriving DecidableEq

def Run.handOut (r : Run) (taken : EditAudioMixer × Option MixedBlock) : Run :=
  { r with mixer := taken.1, blocks := r.blocks ++ taken.2.toList }

/-- The arrivals on record. -/
def Run.arrive (r : Run) (arrivals : List (Placed Frame)) : Run :=
  { r with
    onTime := r.onTime ++ arrivals.filter fun x : Placed Frame => r.mixer.originFrame ≤ x.position
    late := r.late ++ arrivals.filter fun x : Placed Frame => x.position < r.mixer.originFrame }

def Run.step (r : Run) (c : Call) : Run :=
  let r := r.arrive (c.arrivals r.mixer.tracks.length)
  match c with
  | .submit track ptsUs frames => { r with mixer := r.mixer.submit track ptsUs frames }
  | .take => r.handOut r.mixer.take

def run (trackCount : Nat) (startUs : Int) (calls : List Call) : Run :=
  calls.foldl Run.step { mixer := ({} : EditAudioMixer).reset trackCount startUs }

/-- The run with everything still buffered handed out. -/
def finish (trackCount : Nat) (startUs : Int) (calls : List Call) : Run :=
  let r := run trackCount startUs calls
  r.handOut r.mixer.takeRemainder

def Run.output (r : Run) : List Frame := r.blocks.flatMap (·.interleavedStereo)

end EditAudioMixer

end Exosnap.Engine
