/-
  Sample frames and capture buffers (`IAudioCaptureSource.h`, `discontinuity_gap.h`).

  A frame of the engine's stereo float format is the pair of its channels, with the addition of
  binary32. A buffer whose `bytes` is `none` is the source's null pointer.
-/
import Mathlib.Algebra.Notation.Prod

namespace Exosnap.Engine

abbrev Frame := Float32 × Float32

def silence : Frame := (0, 0)

/-- A buffer of frames of type `φ`, valid until it is released. -/
structure RawAudioBuffer (φ : Type*) where
  bytes : Option (List φ) := none
  numFrames : Nat := 0
  silent : Bool := false
  dataDiscontinuity : Bool := false
  gapFrames : UInt32 := 0

/-- A device position in nanoseconds. -/
def deviceFramesToNs (frames : Nat) (sampleRate : Nat) : Nat :=
  if sampleRate = 0 then 0
  else frames / sampleRate * 1000000000 + frames % sampleRate * 1000000000 / sampleRate

/-- A gap measured at one rate in frames of another. -/
def scaleDiscontinuityGapFrames (gapFrames : UInt32) (fromRate toRate : Nat) : UInt32 :=
  if gapFrames = 0 ∨ fromRate = 0 ∨ fromRate = toRate then gapFrames
  else ((gapFrames.toNat * toRate + fromRate / 2) / fromRate).toUInt32

end Exosnap.Engine
