/-
  `frame_pacing.h` and `frame_pacing.cpp`: the pure decisions of the constant-rate loop. The
  ring's size, the resync skip, which ring entry a slot encodes, and whether the held screen
  is composited again.
-/
import Mathlib.Tactic.Common

namespace Exosnap.Engine

inductive FramePacingMode where
  | smooth
  | newest
  deriving DecidableEq, Repr

def computePacingRingSize (monitorRefreshHz outputFps : UInt32) : Nat :=
  if monitorRefreshHz = 0 ∨ outputFps = 0 then 8
  else
    let ratio := ((monitorRefreshHz + outputFps - 1) / outputFps).toNat
    max 4 (min (ratio + 2) 12)

/-- How many frame indices to skip, so that one catch-up budget of lag is left. -/
def computeCatchUpSkip (lag100ns frameInterval100ns maxCatchUpFrames : UInt64) : UInt64 :=
  if frameInterval100ns = 0 then 0
  else
    let framesBehind := lag100ns / frameInterval100ns
    if framesBehind ≤ maxCatchUpFrames then 0 else framesBehind - maxCatchUpFrames

structure PacingDecision where
  emit : Bool := false
  index : Nat := 0
  /-- Fresh entries older than the chosen one. -/
  newlyDropped : Nat := 0
  deriving DecidableEq, Repr

def slotDistance (presentQpc slotQpc : UInt64) : UInt64 :=
  if presentQpc ≥ slotQpc then presentQpc - slotQpc else slotQpc - presentQpc

/-- The loop of smooth mode, at entry `i` with the best distance and choice so far. -/
def nearestToSlot (slotQpc : UInt64) : List UInt64 → Nat → UInt64 → Nat → Nat
  | [], _, _, chosen => chosen
  | p :: ps, i, best, chosen =>
      if slotDistance p slotQpc < best then
        nearestToSlot slotQpc ps (i + 1) (slotDistance p slotQpc) i
      else nearestToSlot slotQpc ps (i + 1) best chosen

def selectFrameForSlot (ringPresentQpc : List UInt64) (slotQpc lastEmittedPresentQpc : UInt64)
    (mode : FramePacingMode) : PacingDecision :=
  let firstFresh := ringPresentQpc.findIdx fun p => decide (p > lastEmittedPresentQpc)
  if firstFresh = ringPresentQpc.length then {}
  else
    let chosen :=
      match mode with
      | .newest => ringPresentQpc.length - 1
      | .smooth =>
          nearestToSlot slotQpc (ringPresentQpc.drop firstFresh) firstFresh (~~~0) firstFresh
    { emit := true, index := chosen, newlyDropped := chosen - firstFresh }

def shouldRecompositeHeldScreen (hasFreshSource odHolding dynamicOverlayChanged
    hasHeldScreen : Bool) : Bool :=
  if hasFreshSource then false
  else if odHolding || !hasHeldScreen then false
  else dynamicOverlayChanged

theorem shouldRecompositeHeldScreen_changed {fresh holding changed held : Bool}
    (h : shouldRecompositeHeldScreen fresh holding changed held = true) : changed = true := by
  unfold shouldRecompositeHeldScreen at h
  split at h
  · cases h
  split at h
  · cases h
  · exact h

end Exosnap.Engine
