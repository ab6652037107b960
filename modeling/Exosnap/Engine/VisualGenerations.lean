/-
  `visual_generations.h` and `webcam_frame_observation.h`: one counter for each input of the
  composited picture, and the key that snapshots them.

  The counters are `Nat`: at one step for each captured frame or input change, 64 bits do not
  wrap. Keys are ordered component by component, which is the order their histories move in.
-/
import Mathlib.Order.Nat

namespace Exosnap.Engine

structure VisualGenerations where
  screen : Nat := 0
  webcam : Nat := 0
  cursor : Nat := 0
  overlay : Nat := 0
  colorPipeline : Nat := 0
  deriving DecidableEq, Repr

@[ext] structure VisualFrameKey where
  screenGeneration : Nat := 0
  webcamGeneration : Nat := 0
  cursorGeneration : Nat := 0
  overlayGeneration : Nat := 0
  colorPipelineGeneration : Nat := 0
  deriving DecidableEq, Repr

def makeVisualFrameKey (gens : VisualGenerations) : VisualFrameKey where
  screenGeneration := gens.screen
  webcamGeneration := gens.webcam
  cursorGeneration := gens.cursor
  overlayGeneration := gens.overlay
  colorPipelineGeneration := gens.colorPipeline

instance : PartialOrder VisualFrameKey :=
  PartialOrder.lift (fun k : VisualFrameKey => (k.screenGeneration, k.webcamGeneration,
    k.cursorGeneration, k.overlayGeneration, k.colorPipelineGeneration)) fun a b h => by
      simp only [Prod.mk.injEq] at h
      exact VisualFrameKey.ext h.1 h.2.1 h.2.2.1 h.2.2.2.1 h.2.2.2.2

theorem VisualFrameKey.le_def {a b : VisualFrameKey} :
    a ≤ b ↔ a.screenGeneration ≤ b.screenGeneration ∧ a.webcamGeneration ≤ b.webcamGeneration ∧
      a.cursorGeneration ≤ b.cursorGeneration ∧ a.overlayGeneration ≤ b.overlayGeneration ∧
      a.colorPipelineGeneration ≤ b.colorPipelineGeneration :=
  Iff.rfl

/-! ## Webcam observation -/

/-- A decoded camera frame: its generation, and `image` for its pixels. -/
structure WebcamFrameSnapshot where
  generation : UInt64
  image : Nat
  deriving DecidableEq, Repr

/-- `WebcamFrameObservation::Observe`: the counters after `next` replaces `frame`. -/
def observeWebcam (gens : VisualGenerations) (frame next : Option WebcamFrameSnapshot) :
    VisualGenerations :=
  if frame.isSome != next.isSome || (next.isSome &&
      frame.map WebcamFrameSnapshot.generation != next.map WebcamFrameSnapshot.generation) then
    { gens with webcam := gens.webcam + 1 }
  else gens

theorem observeWebcam_le (gens : VisualGenerations) (frame next : Option WebcamFrameSnapshot) :
    makeVisualFrameKey gens ≤ makeVisualFrameKey (observeWebcam gens frame next) := by
  unfold observeWebcam
  split
  · exact VisualFrameKey.le_def.mpr ⟨le_refl _, Nat.le_succ _, le_refl _, le_refl _, le_refl _⟩
  · exact le_refl _

end Exosnap.Engine
