/-
  `RecordingCoordinator`: the calls of the UI thread, the recording thread from `StartRecording` to
  the posted result, and the remux thread, one load or store of a shared flag a step.

  A step of a thread carries one answer: what the check, the engine, the publication or the remux it
  stands at says. The low-disk monitor's own tests are left out: the flag it sets and the stop it
  queues may come at any time and for any recording. An entry of the recovery manifest has the id of
  the start that wrote it. The fields from `posts` on are a history that no step reads.
-/
import Exosnap.Capability.Translation
import Exosnap.Lib.StepRun

namespace Exosnap.Recording

open Capability (UserRecorderConfig CapabilitySet toRecorderCoreConfig)

inductive UiRecordingState where
  | loadingCapabilities
  | ready
  | blocked
  | countdown
  | preparing
  | regionSelecting
  | recording
  | paused
  | armedFromRecovery
  | stopping
  | saving
  | completed
  | failed
  deriving DecidableEq, Repr

/-- The states `StartRecording` starts from. -/
def UiRecordingState.startable : UiRecordingState → Bool
  | .ready | .completed | .failed | .armedFromRecovery => true
  | _ => false

/-- The states of a recording that is being made or saved. -/
def UiRecordingState.busy : UiRecordingState → Bool
  | .preparing | .recording | .paused | .stopping | .saving => true
  | _ => false

/-- The snapshot the recording thread works from, as far as it decides what the thread does. -/
structure PrepareContext where
  resolvedUserConfig : UserRecorderConfig
  caps : CapabilitySet

/-- What `ToRecorderCoreConfig` returns for the snapshot, or throws. -/
def PrepareContext.coreConfig (ctx : PrepareContext) : Except String Engine.RecorderConfig :=
  (toRecorderCoreConfig ctx.resolvedUserConfig ctx.caps).outcome

def PrepareContext.isMp4 (ctx : PrepareContext) : Bool :=
  match ctx.coreConfig with
  | .ok config => config.container == .mp4
  | .error _ => false

def PrepareContext.accepted (ctx : PrepareContext) : Bool :=
  match ctx.coreConfig with
  | .ok _ => true
  | .error _ => false

/-! ## The recording thread -/

/-- The steps of the preparation that can refuse the start. -/
inductive Check where
  | diskSpace
  | outputFolder
  | filename
  | createDirectory
  | createPartial
  | admission
  | targetPid
  | validate
  deriving DecidableEq, Repr

inductive Checkpoint where
  | afterFiles
  | afterConfig
  | afterWebcam
  | beforeCommit
  deriving DecidableEq, Repr

/-- Where the recording thread is. The stages of `Record()` and after it carry what the engine's
    result and the one for the UI say so far. -/
inductive Stage where
  | check (c : Check)
  | checkpoint (c : Checkpoint)
  | coreConfig
  | webcam
  | manifest
  | commit
  | recheck
  | uncommit
  | release
  | postRecording
  | startDiskMonitor
  | record
  | clearRecording (succeeded : Bool)
  | clearPaused (succeeded : Bool)
  | buildResult (succeeded : Bool)
  | segments (uiSucceeded : Bool)
  | postSaving (split uiSucceeded : Bool)
  | startRemux (uiSucceeded : Bool)
  | drain (uiSucceeded : Bool)
  | publish (uiSucceeded : Bool)
  | forgetEntry (uiSucceeded : Bool)
  | postResult (uiSucceeded completed : Bool)
  | postTerminal (completed : Bool)
  | failState
  | failResult
  | failRelease
  | unwindCancel
  | unwindWebcam
  | unwindManifest
  | unwindRelease
  | unwindReady
  | dropPartial
  deriving DecidableEq, Repr

structure Worker where
  request : Nat
  ctx : PrepareContext
  stage : Stage := .check .diskSpace
  webcamStartedByUs : Bool := false
  /-- `created_` of the thread's `PartialArtifactTransaction` -/
  partialCreated : Bool := false

/-- The remux thread of a recording that is one MP4 file. -/
inductive RemuxStage where
  | remux
  | clearRemuxing (ok : Bool)
  | forgetEntry (ok : Bool)
  | postResult (ok : Bool)
  | postTerminal (ok : Bool)
  deriving DecidableEq, Repr

structure Remux where
  request : Nat
  uiSucceeded : Bool
  stage : RemuxStage := .remux

/-! ## The UI thread -/

inductive Call where
  | startRecording (ctx : PrepareContext)
  | cancelPreparing
  | stopRecording
  | pauseRecording
  | resumeRecording
  | diskSpaceLow (request : Nat)

/-- Where the UI thread is in one of its calls. -/
inductive UiStep where
  | idle
  | startIsRecording (ctx : PrepareContext)
  | startClaim (ctx : PrepareContext)
  | startMint (ctx : PrepareContext)
  | startGate (ctx : PrepareContext)
  | startReject
  | startClearCancel (ctx : PrepareContext)
  | startPost (ctx : PrepareContext)
  | startSpawn (ctx : PrepareContext)
  | startJoin
  | stopIsRecording
  | stopClearPaused
  | stopPost
  | stopSession
  | cancelIsRecording
  | cancelInFlight
  | cancelStore
  | cancelRecheck
  | pauseIsRecording
  | pauseIsPaused
  | pauseStore
  | pauseSession
  | pausePost
  | resumeIsPaused
  | resumeStore
  | resumeSession
  | resumePost
  | diskRequest (request : Nat)
  | diskIsRecording

def Call.first : Call → UiStep
  | .startRecording ctx => .startIsRecording ctx
  | .cancelPreparing => .cancelIsRecording
  | .stopRecording => .stopIsRecording
  | .pauseRecording => .pauseIsRecording
  | .resumeRecording => .resumeIsPaused
  | .diskSpaceLow request => .diskRequest request

/-! ## The coordinator -/

inductive Post where
  | state (s : UiRecordingState)
  | result (succeeded : Bool)
  deriving DecidableEq, Repr

structure Coordinator where
  state : UiRecordingState := .ready
  hasCaps : Bool := true
  isRecording : Bool := false
  isPaused : Bool := false
  prepareInFlight : Bool := false
  prepareCancelRequested : Bool := false
  isRemuxing : Bool := false
  diskStopTriggered : Bool := false
  recordRequest : Nat := 0
  nextRequest : Nat := 1
  currentManifestId : Option Nat := none
  ui : UiStep := .idle
  recordingThread : Option Worker := none
  /-- A thread that the UI thread joins before it returns from a later `StartRecording`. -/
  joining : Option Worker := none
  remuxThread : Option Remux := none
  /-- An exception left a thread. -/
  terminated : Bool := false
  /-- The entries of the recovery manifest. -/
  manifest : List Nat := []
  /-- The starts whose partial file is on the disk and has no other owner. -/
  partials : List Nat := []
  /-- The start that opened the webcam that is running. -/
  webcam : Option Nat := none
  /-- What the threads of each start posted, the last first. -/
  posts : List (Nat × Post) := []
  /-- The recordings named by a call of `Stop`. -/
  stops : List Nat := []
  /-- The starts on which `CancelPreparing` was called, with the recording its `Stop` named. -/
  pressStops : List (Nat × Nat) := []
  pauses : List Nat := []
  resumes : List Nat := []
  admitted : List Nat := []
  recorded : List Nat := []
  committed : List Nat := []
  unwound : List Nat := []
  /-- The starts whose entry or partial file could not be removed. -/
  unremoved : List Nat := []
  /-- The start on which the call of `CancelPreparing` under way was made. -/
  press : Option Nat := none
  /-- The starts on which a call of `CancelPreparing` was made that has returned. -/
  pressed : List Nat := []

namespace Coordinator

def running (s : Coordinator) (r : Nat) : Prop :=
  (∃ w ∈ s.recordingThread, w.request = r) ∨ (∃ w ∈ s.joining, w.request = r)

/-- What the threads of the start posted. -/
def postsOf (s : Coordinator) (r : Nat) : List Post :=
  (s.posts.filter fun post => post.1 = r).map Prod.snd

/-- A call of the UI thread returns. -/
def leave (s : Coordinator) : Coordinator :=
  { s with ui := .idle, press := none, pressed := s.press.toList ++ s.pressed }

def goto (s : Coordinator) (step : UiStep) : Coordinator := { s with ui := step }

/-! ## Steps of the UI thread -/

/-- A call begins. `CancelPreparing` is made on the start whose thread is there. -/
def call (s : Coordinator) (c : Call) : Option Coordinator :=
  match s.ui with
  | .idle =>
      match c with
      | .cancelPreparing =>
          some { s with ui := c.first, press := s.recordingThread.map Worker.request }
      | _ => some { s with ui := c.first }
  | _ => none

def startStep (s : Coordinator) : UiStep → Coordinator
  | .startIsRecording ctx => if s.isRecording then s.leave else s.goto (.startClaim ctx)
  | .startClaim ctx =>
      if s.prepareInFlight then s.leave
      else { s with prepareInFlight := true, ui := .startMint ctx }
  | .startMint ctx =>
      { s with recordRequest := s.nextRequest, nextRequest := s.nextRequest + 1, ui := .startGate ctx }
  | .startGate ctx =>
      if s.state.startable && s.hasCaps then s.goto (.startClearCancel ctx) else s.goto .startReject
  | .startReject => { s.leave with prepareInFlight := false }
  | .startClearCancel ctx => { s with prepareCancelRequested := false, ui := .startPost ctx }
  | .startPost ctx => { s with state := .preparing, ui := .startSpawn ctx }
  | .startSpawn ctx =>
      { s with
        recordingThread := some { request := s.recordRequest, ctx := ctx }
        joining := s.recordingThread
        admitted := s.recordRequest :: s.admitted
        ui := .startJoin }
  | _ => s

def stopStep (s : Coordinator) : UiStep → Coordinator
  | .stopIsRecording => if s.isRecording then s.goto .stopClearPaused else s.leave
  | .stopClearPaused => { s with isPaused := false, ui := .stopPost }
  | .stopPost => { s with state := .stopping, ui := .stopSession }
  | .stopSession =>
      { s.leave with
        stops := s.recordRequest :: s.stops
        pressStops := (s.press.toList.map fun r => (r, s.recordRequest)) ++ s.pressStops }
  | _ => s

def cancelStep (s : Coordinator) : UiStep → Coordinator
  | .cancelIsRecording =>
      if s.isRecording then s.goto .stopIsRecording else s.goto .cancelInFlight
  | .cancelInFlight => if s.prepareInFlight then s.goto .cancelStore else s.leave
  | .cancelStore => { s with prepareCancelRequested := true, ui := .cancelRecheck }
  | .cancelRecheck => if s.isRecording then s.goto .stopIsRecording else s.leave
  | _ => s

def pauseStep (s : Coordinator) : UiStep → Coordinator
  | .pauseIsRecording => if s.isRecording then s.goto .pauseIsPaused else s.leave
  | .pauseIsPaused => if s.isPaused then s.leave else s.goto .pauseStore
  | .pauseStore => { s with isPaused := true, ui := .pauseSession }
  | .pauseSession => { s with pauses := s.recordRequest :: s.pauses, ui := .pausePost }
  | .pausePost => { s.leave with state := .paused }
  | _ => s

def resumeStep (s : Coordinator) : UiStep → Coordinator
  | .resumeIsPaused => if s.isPaused then s.goto .resumeStore else s.leave
  | .resumeStore => { s with isPaused := false, ui := .resumeSession }
  | .resumeSession => { s with resumes := s.recordRequest :: s.resumes, ui := .resumePost }
  | .resumePost => { s.leave with state := .recording }
  | _ => s

/-- The monitor's stop, as the UI thread runs it from its queue. -/
def diskStep (s : Coordinator) : UiStep → Coordinator
  | .diskRequest request =>
      if s.recordRequest = request then s.goto .diskIsRecording else s.leave
  | .diskIsRecording => if s.isRecording then s.goto .stopIsRecording else s.leave
  | _ => s

def uiStep (s : Coordinator) : Option Coordinator :=
  match s.ui with
  | .idle => none
  | .startJoin => if s.joining.isNone then some s.leave else none
  | .startIsRecording _ | .startClaim _ | .startMint _ | .startGate _ | .startReject
  | .startClearCancel _ | .startPost _ | .startSpawn _ => some (s.startStep s.ui)
  | .stopIsRecording | .stopClearPaused | .stopPost | .stopSession => some (s.stopStep s.ui)
  | .cancelIsRecording | .cancelInFlight | .cancelStore | .cancelRecheck => some (s.cancelStep s.ui)
  | .pauseIsRecording | .pauseIsPaused | .pauseStore | .pauseSession | .pausePost =>
      some (s.pauseStep s.ui)
  | .resumeIsPaused | .resumeStore | .resumeSession | .resumePost => some (s.resumeStep s.ui)
  | .diskRequest _ | .diskIsRecording => some (s.diskStep s.ui)

/-! ## What the threads write -/

/-- `PostStateChange` on a thread of the start. -/
def postState (s : Coordinator) (r : Nat) (state : UiRecordingState) : Coordinator :=
  { s with state := state, posts := (r, .state state) :: s.posts }

def postResult (s : Coordinator) (r : Nat) (succeeded : Bool) : Coordinator :=
  { s with posts := (r, .result succeeded) :: s.posts }

/-- `TakeCurrentManifestId`, and the entry removed where `wanted`; `removed` is what the store says. -/
def takeEntry (s : Coordinator) (wanted removed : Bool) : Coordinator :=
  { s with
    currentManifestId := none
    manifest :=
      if wanted && removed then s.manifest.filter (some · ≠ s.currentManifestId) else s.manifest
    unremoved := if wanted && !removed then s.currentManifestId.toList ++ s.unremoved else s.unremoved }

/-- The start's partial file is removed, when the transaction still owns one. -/
def dropPartial (s : Coordinator) (w : Worker) (removed : Bool) : Coordinator :=
  { s with
    partials :=
      if w.partialCreated && removed then s.partials.filter (· ≠ w.request) else s.partials
    unremoved := if w.partialCreated && !removed then w.request :: s.unremoved else s.unremoved }

end Coordinator

def terminalOf (completed : Bool) : UiRecordingState := if completed then .completed else .failed

/-! ## Steps of the recording thread -/

def Check.next : Check → Stage
  | .diskSpace => .check .outputFolder
  | .outputFolder => .check .filename
  | .filename => .check .createDirectory
  | .createDirectory => .check .createPartial
  | .createPartial => .checkpoint .afterFiles
  | .admission => .checkpoint .afterConfig
  | .targetPid => .check .validate
  | .validate => .webcam

def Checkpoint.next : Checkpoint → Stage
  | .afterFiles => .coreConfig
  | .afterConfig => .check .targetPid
  | .afterWebcam => .manifest
  | .beforeCommit => .commit

/-- Where the thread goes from its stage, or `none` when it ends. -/
def Worker.next (s : Coordinator) (w : Worker) (answer : Bool) : Option Stage :=
  match w.stage with
  | .check c => some (if answer then c.next else .failState)
  | .checkpoint c => some (if s.prepareCancelRequested then .unwindCancel else c.next)
  | .coreConfig => some (if w.ctx.accepted then .check .admission else .coreConfig)
  | .webcam => some (.checkpoint .afterWebcam)
  | .manifest => some (.checkpoint .beforeCommit)
  | .commit => some .recheck
  | .recheck => some (if s.prepareCancelRequested then .uncommit else .release)
  | .uncommit => some .unwindCancel
  | .release => some .postRecording
  | .postRecording => some .startDiskMonitor
  | .startDiskMonitor => some .record
  | .record => some (.clearRecording answer)
  | .clearRecording succeeded => some (.clearPaused succeeded)
  | .clearPaused succeeded => some (.buildResult succeeded)
  | .buildResult succeeded =>
      let uiSucceeded := succeeded && !s.diskStopTriggered
      some (if succeeded && w.ctx.isMp4 then .segments uiSucceeded else .publish uiSucceeded)
  -- the answer: there are segments queued for a remux of their own
  | .segments uiSucceeded => some (.postSaving answer uiSucceeded)
  | .postSaving split uiSucceeded =>
      some (if split then .drain uiSucceeded else .startRemux uiSucceeded)
  | .startRemux _ => none
  | .drain uiSucceeded =>
      some (if answer then .postResult uiSucceeded true else .postResult false false)
  | .publish uiSucceeded => some (.forgetEntry (uiSucceeded && answer))
  | .forgetEntry uiSucceeded => some (.postResult uiSucceeded uiSucceeded)
  | .postResult _ completed => some (.postTerminal completed)
  | .postTerminal _ => none
  | .failState => some .failResult
  -- `FillResultFormat` translates the configuration again
  | .failResult => some (if w.ctx.accepted then .failRelease else .failResult)
  | .failRelease => some .dropPartial
  | .unwindCancel => some .unwindWebcam
  | .unwindWebcam => some .unwindManifest
  | .unwindManifest => some .unwindRelease
  | .unwindRelease => some .unwindReady
  | .unwindReady => some .dropPartial
  | .dropPartial => none

/-- What the thread keeps of its own. -/
def Worker.keep (w : Worker) (answer : Bool) : Worker :=
  match w.stage with
  | .check .createPartial => if answer then { w with partialCreated := true } else w
  | .webcam => if answer then { w with webcamStartedByUs := true } else w
  | .release => { w with partialCreated := false }
  | _ => w

namespace Coordinator

/-- What the step writes. -/
def effect (s : Coordinator) (w : Worker) (answer : Bool) : Coordinator :=
  match w.stage with
  | .check .createPartial =>
      { s with partials := if answer then w.request :: s.partials else s.partials }
  | .coreConfig => { s with terminated := !w.ctx.accepted }
  | .webcam => { s with webcam := if answer then some w.request else s.webcam }
  | .manifest =>
      { s with
        manifest := if answer then w.request :: s.manifest else s.manifest
        currentManifestId := if answer then some w.request else none }
  | .commit => { s with isRecording := true }
  | .uncommit => { s with isRecording := false }
  | .release => { s with prepareInFlight := false, committed := w.request :: s.committed }
  | .postRecording => s.postState w.request .recording
  | .startDiskMonitor => { s with diskStopTriggered := false }
  | .record => { s with recorded := w.request :: s.recorded }
  | .clearRecording _ => { s with isRecording := false }
  | .clearPaused _ => { s with isPaused := false }
  | .postSaving _ _ => s.postState w.request .saving
  | .startRemux uiSucceeded =>
      { s with
        isRemuxing := true
        remuxThread := some { request := w.request, uiSucceeded := uiSucceeded } }
  | .drain _ => { s with currentManifestId := none }
  | .forgetEntry uiSucceeded => s.takeEntry uiSucceeded answer
  | .postResult uiSucceeded _ => s.postResult w.request uiSucceeded
  | .postTerminal completed => s.postState w.request (terminalOf completed)
  | .failState => s.postState w.request .failed
  | .failResult =>
      { s with
        terminated := !w.ctx.accepted
        posts := if w.ctx.accepted then (w.request, .result false) :: s.posts else s.posts }
  | .failRelease => { s with prepareInFlight := false }
  | .unwindCancel => { s with prepareCancelRequested := false }
  | .unwindWebcam => { s with webcam := if w.webcamStartedByUs then none else s.webcam }
  | .unwindManifest => s.takeEntry true answer
  | .unwindRelease => { s with prepareInFlight := false }
  | .unwindReady => { s.postState w.request .ready with unwound := w.request :: s.unwound }
  | .dropPartial => s.dropPartial w answer
  | _ => s

def workerStep (s : Coordinator) (w : Worker) (answer : Bool) : Coordinator × Option Worker :=
  (s.effect w answer, (w.next s answer).map fun stage => { w.keep answer with stage := stage })

/-- A step of the remux thread. -/
def remuxStep (s : Coordinator) (t : Remux) (answer : Bool) : Coordinator :=
  match t.stage with
  | .remux => { s with remuxThread := some { t with stage := .clearRemuxing answer } }
  | .clearRemuxing ok =>
      { s with isRemuxing := false, remuxThread := some { t with stage := .forgetEntry ok } }
  | .forgetEntry ok =>
      { s.takeEntry ok answer with remuxThread := some { t with stage := .postResult ok } }
  | .postResult ok =>
      { s.postResult t.request (ok && t.uiSucceeded) with
        remuxThread := some { t with stage := .postTerminal ok } }
  | .postTerminal ok => { s.postState t.request (terminalOf ok) with remuxThread := none }

/-! ## Runs -/

end Coordinator

inductive Action where
  /-- A call of the UI thread begins. -/
  | call (c : Call)
  /-- The next step of the call. -/
  | ui
  | worker (answer : Bool)
  /-- A step of the recording thread that the UI thread waits for. -/
  | joining (answer : Bool)
  | remux (answer : Bool)
  /-- The low-disk monitor sets its flag. -/
  | diskSpaceLow

namespace Coordinator

def step (s : Coordinator) (a : Action) : Option Coordinator :=
  if s.terminated then none
  else
    match a with
    | .call c => s.call c
    | .ui => s.uiStep
    | .worker answer =>
        s.recordingThread.map fun w =>
          let (s', w') := s.workerStep w answer
          { s' with recordingThread := w' }
    | .joining answer =>
        s.joining.map fun w =>
          let (s', w') := s.workerStep w answer
          { s' with joining := w' }
    | .remux answer => s.remuxThread.map fun t => s.remuxStep t answer
    | .diskSpaceLow => some { s with diskStopTriggered := true }

def exec (s : Coordinator) (as : List Action) : Option Coordinator := StepRun.exec step s as

/-- The coordinator before its first recording. -/
def Fresh (s : Coordinator) : Prop :=
  ∃ state hasCaps, state.busy = false ∧ s = { state := state, hasCaps := hasCaps }

end Coordinator

/-! ## A start -/

/-- A recording into Matroska, or into MP4, on a machine with NVENC. -/
def sampleContext (container : Capability.Container) : PrepareContext where
  resolvedUserConfig := { container := container, videoCodec := .h264, audioCodec := .aac }
  caps := Capability.buildEffectiveCapabilities { nvencDllPresent := true, nvencApiVersionValid := true }

/-- `StartRecording`, up to where it returns. -/
def startActions (ctx : PrepareContext) : List Action :=
  .call (.startRecording ctx) :: List.replicate 8 .ui

/-- The preparation and the commit, up to `Record()`. -/
def recordActions : List Action := List.replicate 20 (.worker true)

end Exosnap.Recording
