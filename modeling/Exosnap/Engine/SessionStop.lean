/-
  `RecorderSession` as its callers drive it: `Record` from validation to return, `Stop`,
  `Pause` and `Resume` from any thread, and the failures that stop a session from inside.

  A step is one block under `state_mutex`, or one atomic access outside it, so that a run
  interleaves any number of live calls with the phases of `Record`. A live call holds the
  `SessionState` it found under the lock and makes its stores afterwards, one a step, however
  late. `Record` calls on one session follow one another; the caller runs a single one at a
  time.

  Outside the model: what validation looks at, the configuration, callbacks and diagnostics
  that `Record` installs, the condition variables a stop wakes, and a null `stop_event`. The
  members of `SessionState` are those a live call or the stop reset writes.

  `appliedStops`, `workersStopped` and `takeOvers` are bookkeeping that no step reads.
-/
import Mathlib.Logic.Function.Basic
import Exosnap.Lib.StepRun
import Exosnap.Engine.SessionTypes

namespace Exosnap.Engine.SessionStop

/-! ## Pending stops (session_stop_reset.h) -/

/-- A `Stop()` that must survive into the next `Record()` call. -/
structure PendingStopTracker where
  pending : Bool := false
  pendingRequest : RecordRequestId := kUnscopedRecordRequest
  deriving DecidableEq, Repr

namespace PendingStopTracker

def noteStop (p : PendingStopTracker) (recording : Bool) (requestId : RecordRequestId) :
    PendingStopTracker :=
  if !recording then { pending := true, pendingRequest := requestId } else p

/-- Whether a stop was pending for this request; it is dropped either way. -/
def consume (p : PendingStopTracker) (requestId : RecordRequestId) : Bool × PendingStopTracker :=
  (p.pending && recordRequestMatches requestId p.pendingRequest, {})

def clear (_ : PendingStopTracker) : PendingStopTracker := {}

end PendingStopTracker

/-! ## The stop members of a session -/

structure SessionState where
  stopRequested : Bool := false
  callerStopRequested : Bool := false
  /-- `capture_end_ns` is set. -/
  captureEnded : Bool := false
  /-- `stop_event` is signalled. -/
  stopEvent : Bool := false
  pauseRequested : Bool := false
  /-- The requests whose stops wrote here since the last reset, newest first. -/
  appliedStops : List RecordRequestId := []
  /-- A worker or `Record` itself stopped the session since the last reset. -/
  workersStopped : Bool := false
  deriving DecidableEq, Repr

namespace SessionState

def noteCaptureEnded (st : SessionState) : SessionState := { st with captureEnded := true }

def signalStopEvent (st : SessionState) : SessionState := { st with stopEvent := true }

def requestCleanStop (st : SessionState) : SessionState :=
  ({ st.noteCaptureEnded with stopRequested := true }).signalStopEvent

def resetForNewRecording (st : SessionState) : SessionState :=
  { st with captureEnded := false, callerStopRequested := false, pauseRequested := false
            appliedStops := [], workersStopped := false }

/-- `noted` is the request of the consumed stop. -/
def resetStopRequestedForNewSession (st : SessionState) (preStop : Bool)
    (noted : RecordRequestId) : SessionState :=
  { st with stopRequested := preStop, stopEvent := preStop
            appliedStops := if preStop then [noted] else [] }

end SessionState

/-! ## Live calls -/

/-- One store of a live call, made after the lock is released. -/
inductive LiveStore where
  | pauseRequested (value : Bool)
  | callerStopRequested
  /-- The three parts of `RequestCleanStop`. -/
  | captureEnded
  | stopRequested
  | stopEvent
  deriving DecidableEq, Repr

inductive LiveCommand where
  | stop
  | pause
  | resume
  deriving DecidableEq, Repr

def LiveCommand.stores : LiveCommand → List LiveStore
  | .stop =>
      [.pauseRequested false, .callerStopRequested, .captureEnded, .stopRequested, .stopEvent]
  | .pause => [.pauseRequested true]
  | .resume => [.pauseRequested false]

def SessionState.store (st : SessionState) : LiveStore → SessionState
  | .pauseRequested value => { st with pauseRequested := value }
  | .callerStopRequested => { st with callerStopRequested := true }
  | .captureEnded => st.noteCaptureEnded
  | .stopRequested => { st with stopRequested := true }
  | .stopEvent => st.signalStopEvent

/-- A live call that has released the lock and has not returned. -/
structure LiveCall where
  command : LiveCommand
  request : RecordRequestId
  /-- The session state it holds. -/
  target : Nat
  /-- The stores still to come. -/
  stores : List LiveStore
  stores_suffix : stores <:+ command.stores
  stores_ne_nil : stores ≠ []
  deriving DecidableEq, Repr

namespace LiveCall

def start (command : LiveCommand) (request : RecordRequestId) (target : Nat) : LiveCall where
  command := command
  request := request
  target := target
  stores := command.stores
  stores_suffix := List.suffix_rfl
  stores_ne_nil := by cases command <;> exact List.cons_ne_nil _ _

def next (call : LiveCall) : LiveStore := call.stores.head call.stores_ne_nil

/-- The call after its next store, `none` once it has returned. -/
def advance (call : LiveCall) : Option LiveCall :=
  if h : call.stores.tail = [] then none
  else some { call with
    stores := call.stores.tail
    stores_suffix := (List.tail_suffix _).trans call.stores_suffix
    stores_ne_nil := h }

/-- The next store of the call, in the state it holds. -/
def apply (call : LiveCall) (st : SessionState) : SessionState :=
  let st := st.store call.next
  if call.command = .stop then { st with appliedStops := call.request :: st.appliedStops }
  else st

end LiveCall

/-! ## The session -/

/-- Where the `Record()` call of the session is. -/
inductive RecordPhase where
  | idle
  /-- Called, with what validation will say. -/
  | entered (request : RecordRequestId) (valid : Bool)
  /-- The state is taken over and reset; the workers are not started. -/
  | installed (request : RecordRequestId)
  | running (request : RecordRequestId)
  /-- `WaitForWorkersThenJoin` has returned from its first wait. -/
  | draining (request : RecordRequestId)
  /-- `recording` is down; the result is built. -/
  | ending (request : RecordRequestId)
  deriving DecidableEq, Repr

namespace RecordPhase

/-- The recording whose `Record()` call owns the session state. -/
def owner : RecordPhase → Option RecordRequestId
  | .idle | .entered _ _ => none
  | .installed request | .running request | .draining request | .ending request => some request

/-- The recording whose `Record()` call takes the session state over next. -/
def arriving : RecordPhase → Option RecordRequestId
  | .entered request true => some request
  | _ => none

end RecordPhase

/-- Why the wait for the workers to finish ended. -/
inductive CaptureEnd where
  | stopSeen
  | workersExited
  | waitFailed
  | nullHandle
  deriving DecidableEq, Repr

/-- `RecorderSession::Impl`. Session states are numbered as they are constructed. -/
structure RecorderImpl where
  state : Nat := 0
  states : Nat → SessionState := fun _ => {}
  workersLeaked : Bool := false
  activeRequest : RecordRequestId := kUnscopedRecordRequest
  pendingStop : PendingStopTracker := {}
  recording : Bool := false
  record : RecordPhase := .idle
  /-- The live calls that have stores to make, by the order in which they took the lock. -/
  calls : Nat → Option LiveCall := fun _ => none
  nextCall : Nat := 0
  /-- How many `Record()` calls have taken over the session state. -/
  takeOvers : Nat := 0

namespace RecorderImpl

/-- The session state `m_impl->state` points to. -/
def session (s : RecorderImpl) : SessionState := s.states s.state

def setState (s : RecorderImpl) (target : Nat) (st : SessionState) : RecorderImpl :=
  { s with states := Function.update s.states target st }

def addCall (s : RecorderImpl) (call : LiveCall) : RecorderImpl :=
  { s with calls := Function.update s.calls s.nextCall (some call), nextCall := s.nextCall + 1 }

def setCall (s : RecorderImpl) (n : Nat) (call : Option LiveCall) : RecorderImpl :=
  { s with calls := Function.update s.calls n call }

/-! ## Stop, Pause, Resume -/

/-- The block of `Stop` under the lock. -/
def stop (s : RecorderImpl) (requestId : RecordRequestId) : RecorderImpl :=
  if s.recording && !recordRequestMatches s.activeRequest requestId then s
  else
    { s with pendingStop := s.pendingStop.noteStop s.recording requestId }.addCall
      (.start .stop requestId s.state)

/-- The block of `Pause` or `Resume` under the lock. -/
def liveCommand (s : RecorderImpl) (command : LiveCommand) (requestId : RecordRequestId) :
    RecorderImpl :=
  if !recordRequestMatches s.activeRequest requestId then s
  else s.addCall (.start command requestId s.state)

def pause (s : RecorderImpl) (requestId : RecordRequestId) : RecorderImpl :=
  s.liveCommand .pause requestId

def resume (s : RecorderImpl) (requestId : RecordRequestId) : RecorderImpl :=
  s.liveCommand .resume requestId

/-- The next store of call `n`. -/
def liveStore (s : RecorderImpl) (n : Nat) : Option RecorderImpl :=
  match s.calls n with
  | none => none
  | some call =>
      some ((s.setState call.target (call.apply (s.states call.target))).setCall n call.advance)

/-! ## Record -/

def enterRecord (s : RecorderImpl) (request : RecordRequestId) (valid : Bool) :
    Option RecorderImpl :=
  match s.record with
  | .idle => some { s with record := .entered request valid }
  | _ => none

/-- A configuration that validation rejected: the stop aimed at this call dies with it. -/
def rejectConfig (s : RecorderImpl) : Option RecorderImpl :=
  match s.record with
  | .entered request false =>
      some { s with pendingStop := (s.pendingStop.consume request).2, record := .idle }
  | _ => none

/-- The session state a take-over now would use: a fresh one after a leaked worker. -/
def nextState (s : RecorderImpl) : Nat := if s.workersLeaked then s.state + 1 else s.state

/-- The block of `Record` under the lock: a fresh state after a leak, the scope, the stop noted
    for this request, and the reset. -/
def takenOver (s : RecorderImpl) (request : RecordRequestId) : RecorderImpl :=
  let st := if s.workersLeaked then {} else s.states s.state
  let (preStop, pendingStop) := s.pendingStop.consume request
  { s.setState s.nextState (st.resetForNewRecording.resetStopRequestedForNewSession preStop
      s.pendingStop.pendingRequest) with
    state := s.nextState, workersLeaked := false, activeRequest := request
    pendingStop := pendingStop, record := .installed request, takeOvers := s.takeOvers + 1 }

def takeOver (s : RecorderImpl) : Option RecorderImpl :=
  match s.record with
  | .entered request true => some (s.takenOver request)
  | _ => none

def failPrepare (s : RecorderImpl) : Option RecorderImpl :=
  match s.record with
  | .installed _ => some { s with recording := false, record := .idle }
  | _ => none

def startWorkers (s : RecorderImpl) : Option RecorderImpl :=
  match s.record with
  | .installed request => some { s with recording := true, record := .running request }
  | _ => none

/-- Whether a worker, or `Record` while it joins them, may still stop the session state. -/
def workersAlive (s : RecorderImpl) (target : Nat) : Bool :=
  match s.record with
  | .running _ | .draining _ | .ending _ => target ≤ s.state
  -- Otherwise only a leaked worker is left, on the state it was started with.
  | _ => decide (target < s.state) || (s.workersLeaked && target == s.state)

/-- `RecordFailure`, or another `RequestCleanStop` from inside the session. -/
def workerStop (s : RecorderImpl) (target : Nat) : Option RecorderImpl :=
  if s.workersAlive target then
    some (s.setState target
      { (s.states target).requestCleanStop with workersStopped := true })
  else none

/-- Phase 1 of the join wait is over. -/
def endCapture (s : RecorderImpl) (cause : CaptureEnd) : Option RecorderImpl :=
  match s.record with
  | .running request =>
      if cause = .stopSeen ∧ s.session.stopRequested = false then none
      else some { s with record := .draining request }
  | _ => none

def dropRecording (s : RecorderImpl) : Option RecorderImpl :=
  match s.record with
  | .draining request => some { s with recording := false, record := .ending request }
  | _ => none

def markLeaked (s : RecorderImpl) : Option RecorderImpl :=
  match s.record with
  | .ending _ => some { s with workersLeaked := true }
  | _ => none

/-- The last block of `Record`. -/
def finish (s : RecorderImpl) : Option RecorderImpl :=
  match s.record with
  | .ending _ =>
      some { s with
        pendingStop := s.pendingStop.clear, activeRequest := kUnscopedRecordRequest
        record := .idle }
  | _ => none

end RecorderImpl

/-! ## Steps -/

inductive SessionAction where
  | stop (requestId : RecordRequestId)
  | pause (requestId : RecordRequestId)
  | resume (requestId : RecordRequestId)
  | liveStore (n : Nat)
  | enterRecord (request : RecordRequestId) (valid : Bool)
  | rejectConfig
  | takeOver
  | failPrepare
  | startWorkers
  | workerStop (target : Nat)
  | endCapture (cause : CaptureEnd)
  | dropRecording
  | markLeaked
  | finish
  deriving DecidableEq, Repr

def step (s : RecorderImpl) : SessionAction → Option RecorderImpl
  | .stop requestId => some (s.stop requestId)
  | .pause requestId => some (s.pause requestId)
  | .resume requestId => some (s.resume requestId)
  | .liveStore n => s.liveStore n
  | .enterRecord request valid => s.enterRecord request valid
  | .rejectConfig => s.rejectConfig
  | .takeOver => s.takeOver
  | .failPrepare => s.failPrepare
  | .startWorkers => s.startWorkers
  | .workerStop target => s.workerStop target
  | .endCapture cause => s.endCapture cause
  | .dropRecording => s.dropRecording
  | .markLeaked => s.markLeaked
  | .finish => s.finish

end Exosnap.Engine.SessionStop
