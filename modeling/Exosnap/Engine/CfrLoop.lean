/-
  `video_thread.cpp`, the constant-rate encode loop: capture drains, pause, epoch, lag resync,
  and the ticks that composite a picture into an encoder slot or repeat the last one.

  An iteration drains (`CfrAction.odAcquire` and the like, any number), then enters its ticks
  (`enterTicks`), then runs them one by one (`tick`) until the wall clock is caught up or the
  catch-up budget is spent. Clock readings, captured frames, what the pointer, overlay and
  camera show, the slot the encoder frees and the result of each GPU or encoder call are given
  with the action, with any values.

  A texture is modelled by what was last written into it, a `Picture` by everything its
  composite pass read: two equal pictures have equal pixels, whatever the shaders do. A failed
  conversion writes nothing. Capture textures change owner by a swap, and each is owned once.

  Outside the model: diagnostics, logs, the preview tap, snapshots, HDR state checks, split
  arming and routing (in `SplitCoordination`). `submissions` and `lastComposited` are
  bookkeeping.
-/
import Mathlib.Logic.Function.Basic
import Exosnap.Engine.FramePacing
import Exosnap.Engine.VisualGenerations

namespace Exosnap.Engine.CfrLoop

/-! ## Pictures -/

/-- Stands for the pixels of a captured image. -/
abbrev Image := Nat

/-- The fields that the loop branches on, and `settings` for the others. -/
structure WebcamOverlayLive where
  enabled : Bool := false
  settings : Nat := 0
  deriving DecidableEq, Repr

/-- The pointer of the session's capture backend. -/
structure CursorState where
  visible : Bool := false
  posX : Int := 0
  posY : Int := 0
  /-- `none` until a shape is known. -/
  shape : Option Image := none
  /-- The Win32 handle the shape was captured from. -/
  handle : Option Nat := none
  deriving DecidableEq, Repr

structure Picture where
  screen : Image
  webcam : Option (WebcamOverlayLive × WebcamFrameSnapshot) := none
  cursor : Option CursorState := none
  /-- The colour conversion the pass ran with. -/
  conversion : Nat := 0
  deriving DecidableEq, Repr

/-! ## Configuration and state -/

structure CfrConfig where
  useOdCapture : Bool
  cfrPacingMode : FramePacingMode := .smooth
  captureCursor : Bool := true
  /-- The first frame the wait loop captured, in the texture it was copied to. -/
  firstFrame : Option Image
  refreshRateHz : UInt32 := 60
  /-- Whether every texture of the ring could be created. -/
  ringAllocated : Bool := true
  /-- Whether `refNv12` could be created. -/
  refAllocated : Bool := true
  gpuCompositorReady : Bool := true
  webcamProviderAvailable : Bool := true
  odDesktopOriginValid : Bool := true
  slotCount : Nat
  frameRateNum : UInt32 := 60
  frameRateDen : UInt32 := 1
  qpcFreq : UInt64 := 10000000
  deriving DecidableEq, Repr

namespace CfrConfig

def frameInterval100ns (cfg : CfrConfig) : UInt64 :=
  if 0 < cfg.frameRateDen ∧ 0 < cfg.frameRateNum then
    10000000 * cfg.frameRateDen.toUInt64 / cfg.frameRateNum.toUInt64
  else 166667

def frameIntervalNs (cfg : CfrConfig) : UInt64 := cfg.frameInterval100ns * 100

theorem frameIntervalNs_toNat (cfg : CfrConfig) :
    cfg.frameIntervalNs.toNat = cfg.frameInterval100ns.toNat * 100 := by
  have hfits : cfg.frameInterval100ns.toNat * 100 < 2 ^ 64 := by
    unfold frameInterval100ns
    split
    · have hproduct : (10000000 * cfg.frameRateDen.toUInt64).toNat ≤
          10000000 * cfg.frameRateDen.toNat := by
        rw [UInt64.toNat_mul]
        exact Nat.mod_le _ _
      have hden := cfg.frameRateDen.toNat_lt
      rw [UInt64.toNat_div]
      have hdiv := Nat.div_le_self (10000000 * cfg.frameRateDen.toUInt64).toNat
        cfg.frameRateNum.toUInt64.toNat
      omega
    · decide
  rw [frameIntervalNs, UInt64.toNat_mul]
  exact Nat.mod_eq_of_lt hfits

def kMaxCatchUpFrames (cfg : CfrConfig) : UInt64 :=
  if 0 < cfg.frameRateDen ∧ 0 < cfg.frameRateNum then
    (cfg.frameRateNum / cfg.frameRateDen).toUInt64
  else 60

def usePhaseCorrect (cfg : CfrConfig) : Bool :=
  cfg.useOdCapture && cfg.firstFrame.isSome && decide (cfg.cfrPacingMode = .smooth) &&
    cfg.ringAllocated

def ringSize (cfg : CfrConfig) : Nat :=
  let outFps := if cfg.frameRateDen > 0 then cfg.frameRateNum / cfg.frameRateDen else 0
  computePacingRingSize cfg.refreshRateHz outFps

/-- QPC ticks of a time in 100 ns units. -/
def toRawQpc (cfg : CfrConfig) (t100ns : UInt64) : UInt64 :=
  (t100ns / 10000000) * cfg.qpcFreq + (t100ns % 10000000) * cfg.qpcFreq / 10000000

end CfrConfig

def kSustainedLagResyncTicks : Nat := 3

structure CaptureRingEntry where
  tex : Image := 0
  /-- 0 for an empty or consumed entry. -/
  presentQpc : UInt64 := 0
  deriving DecidableEq, Repr

/-- An encoder input slot: its texture, and the key it is known to contain, if any. -/
structure SlotState where
  content : Picture
  containedKey : Option VisualFrameKey := none
  deriving DecidableEq, Repr

/-- One call of `EncodeFrame`. -/
structure Submission where
  slot : Nat
  ptsNs : UInt64
  duplicate : Bool
  /-- What the slot's texture held. -/
  content : Picture
  /-- What `refNv12` held. -/
  reference : Option Picture
  deriving DecidableEq, Repr

inductive CfrPhase where
  | drain
  /-- In the tick loop of an iteration that read `elapsed100ns`. -/
  | ticks (elapsed100ns catchUpFrames : UInt64)
  | ended
  deriving DecidableEq, Repr

/-- The inputs of the composited picture, with their counters. -/
structure VisualInputs where
  visualGenerations : VisualGenerations := {}
  cursor : CursorState := {}
  odPointerReportedByDxgi : Bool := false
  lastOverlaySnapshot : Option WebcamOverlayLive := none
  webcamFrame : Option WebcamFrameSnapshot := none
  deriving DecidableEq, Repr

structure CfrState where
  phase : CfrPhase := .drain
  stopRequested : Bool := false
  sourceLost : Bool := false
  odHolding : Bool := false
  -- capture
  odCapturedTex : Option Image := none
  odCapturedTexValid : Bool := false
  pendingWgcTex : Option Image := none
  heldWgcTex : Option Image := none
  captureRing : List CaptureRingEntry := []
  ringHead : Nat := 0
  lastEmittedPresentQpc : UInt64 := 0
  phaseRingHasFrame : Bool := false
  inputs : VisualInputs := {}
  lastCompositedKey : Option VisualFrameKey := none
  -- encode textures; `refNv12` is `none` while it is not valid
  slots : Nat → SlotState
  refNv12 : Option (VisualFrameKey × Picture) := none
  -- timeline
  videoEpochSet : Bool := false
  epochQpc100ns : UInt64 := 0
  cfrFrameIdx : UInt64 := 0
  nextTick100ns : UInt64 := 0
  sustainedLagTicks : Nat := 0
  cfrWasPaused : Bool := false
  cfrPauseStart100ns : UInt64 := 0
  lastVideoPts : UInt64 := 0
  -- counters
  droppedFrames : Nat := 0
  slotStallCount : Nat := 0
  duplicatedFrames : Nat := 0
  videoFramesCaptured : Nat := 0
  submissions : List Submission := []
  /-- The picture of the latest successful composite. -/
  lastComposited : Option Picture := none

/-- The state as the loop starts, with the inputs as the wait loop left them, and the slot
    textures before anything is written to them. -/
def CfrState.initial (cfg : CfrConfig) (inputs : VisualInputs) (textures : Nat → Picture) :
    CfrState where
  odCapturedTex := if cfg.useOdCapture then cfg.firstFrame else none
  odCapturedTexValid := cfg.useOdCapture && cfg.firstFrame.isSome
  pendingWgcTex := if cfg.useOdCapture then none else cfg.firstFrame
  captureRing := if cfg.usePhaseCorrect then List.replicate cfg.ringSize {} else []
  inputs := inputs
  slots := fun i => { content := textures i }

namespace VisualInputs

def currentVisualKey (v : VisualInputs) : VisualFrameKey := makeVisualFrameKey v.visualGenerations

def bumpScreen (v : VisualInputs) : VisualInputs :=
  { v with
    visualGenerations :=
      { v.visualGenerations with screen := v.visualGenerations.screen + 1 } }

/-- The pointer changed. -/
def setCursor (v : VisualInputs) (cursor : CursorState) : VisualInputs :=
  { v with
    cursor := cursor
    visualGenerations :=
      { v.visualGenerations with cursor := v.visualGenerations.cursor + 1 } }

/-- The pointer is at `x`, `y` now, shown or not; a change if it was not before. -/
def moveCursor (v : VisualInputs) (visible : Bool) (x y : Int) : VisualInputs :=
  if v.cursor.visible != visible || v.cursor.posX != x || v.cursor.posY != y then
    v.setCursor { v.cursor with visible := visible, posX := x, posY := y }
  else v

end VisualInputs

/-! ## Capture drains -/

inductive OdFrameCheck where
  | ok
  | skip
  | fatal
  deriving DecidableEq, Repr

inductive OdAcquireKind where
  | desktopPresent
  | cursorOnly
  | ignorable
  deriving DecidableEq, Repr

def classifyOdAcquire (hasPresent hasMouseUpdate cursorCaptureEnabled : Bool) : OdAcquireKind :=
  if hasPresent then .desktopPresent
  else if hasMouseUpdate && cursorCaptureEnabled then .cursorOnly
  else .ignorable

inductive OdAcquireFailAction where
  | idle
  | recover
  | fail
  deriving DecidableEq, Repr

/-- `DXGI_OUTDUPL_FRAME_INFO`, with the shape that `GetFramePointerShape` returned, if any. -/
structure OdFrameInfo where
  lastPresentTime : UInt64 := 0
  lastMouseUpdateTime : UInt64 := 0
  pointerVisible : Bool := false
  pointerX : Int := 0
  pointerY : Int := 0
  pointerShape : Option Image := none
  deriving DecidableEq, Repr

/-- A presented desktop frame goes into the ring, or into `odCapturedTex`. -/
def writeOdFrame (cfg : CfrConfig) (s : CfrState) (frame : Image) (presentQpc : UInt64) :
    CfrState :=
  if cfg.usePhaseCorrect then
    let entry := s.captureRing.getD s.ringHead {}
    let evicts := entry.presentQpc != 0 && decide (entry.presentQpc > s.lastEmittedPresentQpc)
    { s with
      droppedFrames := if evicts then s.droppedFrames + 1 else s.droppedFrames
      captureRing := s.captureRing.set s.ringHead { tex := frame, presentQpc := presentQpc }
      ringHead := (s.ringHead + 1) % s.captureRing.length
      phaseRingHasFrame := true }
  else { s with odCapturedTex := some frame }

/-- The pointer part of an acquired frame. -/
def updateOdCursor (cfg : CfrConfig) (v : VisualInputs) (info : OdFrameInfo) : VisualInputs :=
  let shaped :=
    match info.pointerShape with
    | some shape =>
        if cfg.captureCursor then v.setCursor { v.cursor with shape := some shape } else v
    | none => v
  if info.lastMouseUpdateTime != 0 then
    { shaped with odPointerReportedByDxgi := true }.moveCursor info.pointerVisible info.pointerX
      info.pointerY
  else shaped

/-- Without the ring, a frame that was not encoded yet is replaced. -/
def markOdFrame (s : CfrState) : CfrState :=
  { s with
    droppedFrames := if s.odCapturedTexValid then s.droppedFrames + 1 else s.droppedFrames
    odCapturedTexValid := true }

/-- One successful `TryAcquireFrame` of the drain. -/
def odAcquire (cfg : CfrConfig) (s : CfrState) (check : OdFrameCheck) (frame : Image)
    (info : OdFrameInfo) : CfrState :=
  match check with
  | .skip => s
  | .fatal => { s with stopRequested := true }
  | .ok =>
      match classifyOdAcquire (info.lastPresentTime != 0) (info.lastMouseUpdateTime != 0)
          cfg.captureCursor with
      | .ignorable => s
      | .cursorOnly => { s with inputs := updateOdCursor cfg s.inputs info }
      | .desktopPresent =>
          let written := { writeOdFrame cfg s frame info.lastPresentTime with
            inputs := updateOdCursor cfg s.inputs.bumpScreen info }
          if cfg.usePhaseCorrect then written else markOdFrame written

/-- `HandleOdAcquireFailure` -/
def odAcquireFailure (s : CfrState) (action : OdAcquireFailAction) (topologyChanged : Bool) :
    CfrState :=
  match action with
  | .idle => if topologyChanged then { s with odHolding := true } else s
  | .recover => { s with odHolding := true }
  | .fail => { s with stopRequested := true }

/-- How a drained WGC frame ended. -/
inductive WgcFrameOutcome where
  /-- Copied out of the pool. -/
  | encode (frame : Image)
  /-- Held back: a minimized window's frame, or no access to its surface. -/
  | hold
  | sourceLost
  deriving DecidableEq, Repr

/-- One WGC drain of `count` frames, the newest of which ended as `outcome`. -/
def wgcDrain (s : CfrState) (count : Nat) (outcome : WgcFrameOutcome) : CfrState :=
  if count = 0 then s
  else
    -- every frame walked past one that was not encoded is a drop
    let drained := { s with
      droppedFrames :=
        if s.pendingWgcTex.isSome then s.droppedFrames + count else s.droppedFrames + (count - 1) }
    match outcome with
    | .encode frame =>
        { drained with pendingWgcTex := some frame, inputs := s.inputs.bumpScreen }
    | .hold => drained
    | .sourceLost => { drained with sourceLost := true }

/-! ## From the drain to the ticks -/

/-- A pause discards what was captured. -/
def discardCaptured (cfg : CfrConfig) (s : CfrState) (now : UInt64) : CfrState :=
  let paused := { s with
    cfrWasPaused := true
    cfrPauseStart100ns := if s.cfrWasPaused then s.cfrPauseStart100ns else now
    pendingWgcTex := none
    odCapturedTexValid := false }
  if cfg.usePhaseCorrect then
    { paused with
      captureRing := s.captureRing.map fun entry => { entry with presentQpc := 0 }
      ringHead := 0
      phaseRingHasFrame := false }
  else paused

/-- The first iteration after a pause moves the epoch by the pause. -/
def resumeEpoch (s : CfrState) (now : UInt64) : CfrState :=
  if s.cfrWasPaused then
    { s with
      epochQpc100ns := s.epochQpc100ns + (now - s.cfrPauseStart100ns)
      cfrWasPaused := false }
  else s

def hasNewFrame (cfg : CfrConfig) (s : CfrState) : Bool :=
  if cfg.useOdCapture then
    if cfg.usePhaseCorrect then s.phaseRingHasFrame || s.odCapturedTexValid
    else s.odCapturedTexValid
  else s.pendingWgcTex.isSome

def openEpoch (cfg : CfrConfig) (s : CfrState) (now : UInt64) : CfrState :=
  if !s.videoEpochSet && hasNewFrame cfg s then
    { s with epochQpc100ns := now, videoEpochSet := true, nextTick100ns := 0, lastVideoPts := 0 }
  else s

/-- How far the media clock trails the wall clock. -/
def lag100ns (s : CfrState) (elapsed100ns : UInt64) : UInt64 :=
  if elapsed100ns > s.nextTick100ns then elapsed100ns - s.nextTick100ns else 0

def nextLagTicks (cfg : CfrConfig) (s : CfrState) (elapsed100ns : UInt64) : Nat :=
  if lag100ns s elapsed100ns > cfg.kMaxCatchUpFrames * cfg.frameInterval100ns then
    s.sustainedLagTicks + 1
  else 0

/-- Skips frame indices once the media clock has trailed for `kSustainedLagResyncTicks`
    iterations. -/
def resync (cfg : CfrConfig) (s : CfrState) (elapsed100ns : UInt64) : CfrState :=
  let skip :=
    computeCatchUpSkip (lag100ns s elapsed100ns) cfg.frameInterval100ns cfg.kMaxCatchUpFrames
  if nextLagTicks cfg s elapsed100ns ≥ kSustainedLagResyncTicks then
    { s with
      sustainedLagTicks := 0
      cfrFrameIdx := s.cfrFrameIdx + skip
      nextTick100ns := s.nextTick100ns + skip * cfg.frameInterval100ns
      droppedFrames := s.droppedFrames + skip.toNat }
  else { s with sustainedLagTicks := nextLagTicks cfg s elapsed100ns }

/-- The loop's clock readings between its drain and its ticks. -/
structure ClockReadings where
  /-- At the start or the end of a pause. -/
  pause : UInt64
  epoch : UInt64
  now : UInt64
  deriving DecidableEq, Repr

/-- The code between the drain and the ticks; `reaped` is what `reapAndRoute` returned. -/
def enterTicks (cfg : CfrConfig) (s : CfrState) (pauseRequested : Bool) (clock : ClockReadings)
    (reaped : Bool) : CfrState :=
  if pauseRequested then discardCaptured cfg s clock.pause
  else
    let opened := openEpoch cfg (resumeEpoch s clock.pause) clock.epoch
    if !opened.videoEpochSet then opened
    else if !reaped then { opened with phase := .ended }
    else
      let elapsed100ns := clock.now - opened.epochQpc100ns
      { resync cfg opened elapsed100ns with phase := .ticks elapsed100ns 0 }

/-! ## Source of a tick -/

/-- The live entries, oldest first, each with its place in the ring. -/
def liveEntries (s : CfrState) : List (Nat × UInt64) :=
  ((List.range s.captureRing.length).map fun i => (s.ringHead + i) % s.captureRing.length).filterMap
    fun phys =>
      let presentQpc := (s.captureRing.getD phys {}).presentQpc
      if presentQpc != 0 then some (phys, presentQpc) else none

/-- This tick's ideal present time, in raw QPC. -/
def slotQpc (cfg : CfrConfig) (s : CfrState) : UInt64 :=
  cfg.toRawQpc s.epochQpc100ns + cfg.toRawQpc (s.cfrFrameIdx * cfg.frameInterval100ns)

def pacingDecision (cfg : CfrConfig) (s : CfrState) : PacingDecision :=
  selectFrameForSlot ((liveEntries s).map Prod.snd) (slotQpc cfg s) s.lastEmittedPresentQpc .smooth

/-- Emits entry `index`: it and every older one are consumed, and its texture changes places
    with the held screen (`AdoptEmittedAsHeldScreen`). -/
def emitEntry (s : CfrState) (index : Nat) : CfrState :=
  let (phys, presentQpc) := (liveEntries s).getD index (0, 0)
  let consumed := s.captureRing.map fun entry =>
    if entry.presentQpc != 0 && decide (entry.presentQpc ≤ presentQpc) then
      { entry with presentQpc := 0 }
    else entry
  let emitted := consumed.getD phys {}
  { s with
    lastEmittedPresentQpc := presentQpc
    captureRing := consumed.set phys { emitted with tex := s.odCapturedTex.getD 0 }
    odCapturedTex := some emitted.tex }

/-- The source texture of a tick, before the held screen is considered. -/
def selectSource (cfg : CfrConfig) (s : CfrState) : Option Image × CfrState :=
  if cfg.usePhaseCorrect then
    let dec := pacingDecision cfg s
    let counted := { s with droppedFrames := s.droppedFrames + dec.newlyDropped }
    if dec.emit then
      let emitted := emitEntry counted dec.index
      (emitted.odCapturedTex, emitted)
    else if s.refNv12.isNone && s.odCapturedTexValid then (s.odCapturedTex, counted)
    else (none, counted)
  else if cfg.useOdCapture then (if s.odCapturedTexValid then s.odCapturedTex else none, s)
  else (s.pendingWgcTex, s)

/-! ## Visual inputs of a tick -/

/-- What Win32 says about the pointer, mapped into the source. -/
structure Win32Cursor where
  /-- The DPI scope could be entered. -/
  dpiScope : Bool := true
  /-- `GetCursorInfo` succeeded, and the pointer is showing with a handle. -/
  showing : Bool := false
  handle : Nat := 0
  /-- What `CaptureWin32CursorBitmap` returned. -/
  bitmap : Option Image := none
  boundsValid : Bool := true
  x : Int := 0
  y : Int := 0
  deriving DecidableEq, Repr

/-- The shape of a newly shown handle; `none` when it could not be captured. -/
def captureShape (v : VisualInputs) (info : Win32Cursor) : Option VisualInputs :=
  if v.cursor.handle != some info.handle then
    info.bitmap.map fun shape =>
      v.setCursor { v.cursor with shape := some shape, handle := some info.handle }
  else some v

def hideCursor (v : VisualInputs) : VisualInputs :=
  if v.cursor.visible then v.setCursor { v.cursor with visible := false } else v

def sampleWgcCursor (cfg : CfrConfig) (v : VisualInputs) (info : Win32Cursor) : VisualInputs :=
  if cfg.useOdCapture || !cfg.captureCursor then v
  else if !info.dpiScope then v
  else if !info.showing then hideCursor v
  else
    match captureShape v info with
    | none => v
    | some shaped => if !info.boundsValid then shaped else shaped.moveCursor true info.x info.y

def seedOdCursorFromWin32 (cfg : CfrConfig) (v : VisualInputs) (info : Win32Cursor) :
    VisualInputs :=
  if !cfg.useOdCapture || !cfg.captureCursor || v.odPointerReportedByDxgi ||
      !cfg.odDesktopOriginValid then v
  else if !info.showing then hideCursor v
  else
    match captureShape v info with
    | none => v
    | some shaped => shaped.moveCursor true info.x info.y

def sampleOverlay (v : VisualInputs) (overlay : WebcamOverlayLive) : VisualInputs :=
  if v.lastOverlaySnapshot = some overlay then v
  else
    { v with
      lastOverlaySnapshot := some overlay
      visualGenerations :=
        { v.visualGenerations with overlay := v.visualGenerations.overlay + 1 } }

/-- `Observe` on the provider's snapshot. -/
def observeProvider (cfg : CfrConfig) (v : VisualInputs) (overlay : WebcamOverlayLive)
    (provided : Option WebcamFrameSnapshot) : VisualInputs :=
  let next := if overlay.enabled && cfg.webcamProviderAvailable then provided else none
  { v with
    visualGenerations := observeWebcam v.visualGenerations v.webcamFrame next
    webcamFrame := next }

inductive ConvertOutcome where
  | ok
  /-- No input view, or the `VideoProcessorBlt` failed: the tick is dropped. -/
  | dropped
  /-- A failure is recorded and the loop ends. -/
  | failed
  deriving DecidableEq, Repr

/-- What a tick is given. -/
structure TickInput where
  /-- The slot the encoder freed, at once or after the bounded wait. -/
  slot : Option Nat
  /-- What `reapAndRoute` returned in that wait. -/
  reaped : Bool := true
  cursor : Win32Cursor := {}
  overlay : WebcamOverlayLive := {}
  webcam : Option WebcamFrameSnapshot := none
  /-- The pointer as the composite pass finds it. -/
  compositeCursor : Win32Cursor := {}
  /-- Tone-map and composite succeeded. -/
  composited : Bool := true
  conversion : Nat := 0
  convert : ConvertOutcome := .ok
  encoded : Bool := true
  /-- Every packet the encoder returned was routed. -/
  routed : Bool := true
  deriving DecidableEq, Repr

/-- Pointer, overlay and camera are sampled before the key is taken. -/
def sampleInputs (cfg : CfrConfig) (v : VisualInputs) (inp : TickInput) : VisualInputs :=
  observeProvider cfg (sampleOverlay (sampleWgcCursor cfg v inp.cursor) inp.overlay) inp.overlay
    inp.webcam

def dynamicOverlayChanged (cfg : CfrConfig) (lastCompositedKey : Option VisualFrameKey)
    (current : VisualFrameKey) (overlay : WebcamOverlayLive) : Bool :=
  match lastCompositedKey with
  | none => true
  | some last =>
      current.cursorGeneration != last.cursorGeneration ||
        current.overlayGeneration != last.overlayGeneration ||
        (overlay.enabled && cfg.webcamProviderAvailable &&
          current.webcamGeneration != last.webcamGeneration)

/-- The held screen, when it is to be composited again. -/
def heldSource (cfg : CfrConfig) (s : CfrState) (source : Option Image)
    (overlay : WebcamOverlayLive) : Option Image :=
  let heldScreenTex := if cfg.useOdCapture then s.odCapturedTex else s.heldWgcTex
  let changed := dynamicOverlayChanged cfg s.lastCompositedKey s.inputs.currentVisualKey overlay
  if shouldRecompositeHeldScreen source.isSome s.odHolding changed heldScreenTex.isSome then
    heldScreenTex
  else source

/-! ## Pictures of a tick -/

/-- What the composite pass draws: `compositeFrameGpu` after its pointer seed. -/
def picture (cfg : CfrConfig) (v : VisualInputs) (source : Image) (inp : TickInput) : Picture where
  screen := source
  webcam :=
    if cfg.gpuCompositorReady && inp.overlay.enabled && cfg.webcamProviderAvailable then
      v.webcamFrame.map fun frame => (inp.overlay, frame)
    else none
  cursor :=
    if cfg.gpuCompositorReady && cfg.captureCursor && v.cursor.visible && v.cursor.shape.isSome then
      some v.cursor
    else none
  conversion := inp.conversion

/-- The fresh frame is consumed, whether its conversion succeeds or not. -/
def consumeSource (cfg : CfrConfig) (s : CfrState) : CfrState :=
  if cfg.useOdCapture then { s with odCapturedTexValid := false }
  else
    match s.pendingWgcTex with
    | some frame => { s with heldWgcTex := some frame, pendingWgcTex := none }
    | none => s

/-- A converted picture under `key`: in the slot, and in the reference where there is one. -/
def storePicture (cfg : CfrConfig) (s : CfrState) (slot : Nat) (key : VisualFrameKey)
    (pic : Picture) : CfrState :=
  { s with
    slots := Function.update s.slots slot { content := pic, containedKey := some key }
    refNv12 := if cfg.refAllocated then some (key, pic) else s.refNv12
    lastCompositedKey := some key
    lastComposited := some pic }

inductive TickResult where
  | composited
  | duplicated
  | notWritten
  | ended
  deriving DecidableEq, Repr

def compositeTick (cfg : CfrConfig) (s : CfrState) (slot : Nat) (source : Image)
    (inp : TickInput) : TickResult × CfrState :=
  let key := s.inputs.currentVisualKey
  let seeded := { s with
    inputs :=
      if cfg.gpuCompositorReady then seedOdCursorFromWin32 cfg s.inputs inp.compositeCursor
      else s.inputs }
  let pic := picture cfg seeded.inputs source inp
  if !inp.composited then (.ended, seeded)
  else
    let consumed := consumeSource cfg seeded
    match inp.convert with
    | .failed => (.ended, consumed)
    | .dropped => (.notWritten, consumed)
    | .ok => (.composited, storePicture cfg consumed slot key pic)

/-- The slot may hold the reference's picture already; else it is copied. -/
def duplicateTick (s : CfrState) (slot : Nat) (key : VisualFrameKey) (pic : Picture) : CfrState :=
  let slotAlreadyCurrent := (s.slots slot).containedKey == some key
  { s with
    slots :=
      if slotAlreadyCurrent then s.slots
      else Function.update s.slots slot { content := pic, containedKey := some key }
    duplicatedFrames := s.duplicatedFrames + 1 }

/-- Composite, duplicate, or nothing to write. -/
def writeSlot (cfg : CfrConfig) (s : CfrState) (slot : Nat) (source : Option Image)
    (inp : TickInput) : TickResult × CfrState :=
  match source with
  | some tex => compositeTick cfg s slot tex inp
  | none =>
      match s.refNv12 with
      | some (key, pic) => (.duplicated, duplicateTick s slot key pic)
      | none => (.notWritten, s)

/-! ## A tick -/

def advance (cfg : CfrConfig) (s : CfrState) : CfrState :=
  { s with
    cfrFrameIdx := s.cfrFrameIdx + 1
    nextTick100ns := s.nextTick100ns + cfg.frameInterval100ns }

/-- `EncodeFrame` on the slot, its packets, and the step to the next tick. -/
def submit (cfg : CfrConfig) (s : CfrState) (slot : Nat) (ptsNs : UInt64) (duplicate : Bool)
    (inp : TickInput) (elapsed100ns catchUpFrames : UInt64) : CfrState :=
  let submission : Submission := {
    slot := slot, ptsNs := ptsNs, duplicate := duplicate, content := (s.slots slot).content
    reference := s.refNv12.map Prod.snd }
  let submitted := { s with submissions := s.submissions ++ [submission] }
  if !inp.encoded then { submitted with phase := .ended }
  else
    let counted := { submitted with
      videoFramesCaptured := s.videoFramesCaptured + 1
      lastVideoPts := ptsNs }
    if !inp.routed then { counted with phase := .ended }
    else { advance cfg counted with phase := .ticks elapsed100ns (catchUpFrames + 1) }

/-- The state in which a tick takes its key, and the source it found. -/
def tickSource (cfg : CfrConfig) (s : CfrState) (inp : TickInput) : Option Image × CfrState :=
  let selected := selectSource cfg s
  let sampled := { selected.2 with inputs := sampleInputs cfg selected.2.inputs inp }
  (heldSource cfg sampled selected.1 inp.overlay, sampled)

/-- A tick that has a slot. -/
def tickWithSlot (cfg : CfrConfig) (s : CfrState) (slot : Nat) (inp : TickInput)
    (elapsed100ns catchUpFrames : UInt64) : CfrState :=
  let ptsNs := s.cfrFrameIdx * cfg.frameIntervalNs
  let tick := tickSource cfg s inp
  let written := writeSlot cfg tick.2 slot tick.1 inp
  match written.1 with
  | .ended => { written.2 with phase := .ended }
  | .notWritten => advance cfg { written.2 with droppedFrames := written.2.droppedFrames + 1 }
  | .composited => submit cfg written.2 slot ptsNs false inp elapsed100ns catchUpFrames
  | .duplicated => submit cfg written.2 slot ptsNs true inp elapsed100ns catchUpFrames

/-- One round of the tick loop: its condition, the slot, and the tick. -/
def tick (cfg : CfrConfig) (s : CfrState) (elapsed100ns catchUpFrames : UInt64)
    (inp : TickInput) : CfrState :=
  if elapsed100ns ≥ s.nextTick100ns ∧ catchUpFrames < cfg.kMaxCatchUpFrames then
    match inp.slot with
    | some slot => tickWithSlot cfg s slot inp elapsed100ns catchUpFrames
    | none =>
        if !inp.reaped then { s with phase := .ended }
        else { s with slotStallCount := s.slotStallCount + 1, phase := .drain }
  else { s with phase := .drain }

/-! ## The loop -/

inductive CfrAction where
  /-- Another thread requests the stop. -/
  | requestStop
  /-- The loop head: the stop and source checks. -/
  | checkStop
  | reopen
  | odAcquire (check : OdFrameCheck) (frame : Image) (info : OdFrameInfo)
  | odAcquireFailure (action : OdAcquireFailAction) (topologyChanged : Bool)
  | wgcDrain (count : Nat) (outcome : WgcFrameOutcome)
  | enterTicks (pauseRequested : Bool) (clock : ClockReadings) (reaped : Bool)
  | tick (inp : TickInput)
  deriving DecidableEq, Repr

/-- The encoder hands out slots it has. -/
def TickInput.valid (cfg : CfrConfig) (inp : TickInput) : Bool :=
  inp.slot.all fun slot => decide (slot < cfg.slotCount)

def step (cfg : CfrConfig) (s : CfrState) (a : CfrAction) : Option CfrState :=
  match a, s.phase with
  | .requestStop, _ => some { s with stopRequested := true }
  | .checkStop, .drain =>
      some (if s.stopRequested || s.sourceLost then { s with phase := .ended } else s)
  | .reopen, .drain => if s.odHolding then some { s with odHolding := false } else none
  | .odAcquire check frame info, .drain =>
      if cfg.useOdCapture && !s.odHolding then some (odAcquire cfg s check frame info) else none
  | .odAcquireFailure action topologyChanged, .drain =>
      if cfg.useOdCapture && !s.odHolding then some (odAcquireFailure s action topologyChanged)
      else none
  | .wgcDrain count outcome, .drain =>
      if !cfg.useOdCapture then some (wgcDrain s count outcome) else none
  | .enterTicks pauseRequested clock reaped, .drain =>
      some (enterTicks cfg s pauseRequested clock reaped)
  | .tick inp, .ticks elapsed100ns catchUpFrames =>
      if inp.valid cfg then some (tick cfg s elapsed100ns catchUpFrames inp) else none
  | _, _ => none

end Exosnap.Engine.CfrLoop
