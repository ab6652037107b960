/-
  The DXGI hub service: the gate that holds the lease (`CaptureHubGate.cpp`), the command queue
  (`CaptureHubCommandQueue.h`) and the pump thread (`DxgiCaptureHubService.cpp`), as one machine
  whose steps are what the threads do under the queue's mutex, or the pump thread alone.

  A command is applied in stages, one for each flag of the gate's action in the order of the source,
  so that a post may come between any two. The publisher of the shared texture and the watch on the
  display's colour are left out. The log is not the program's: it keeps the commands in the order in
  which the gate took them, and the acknowledgements, newest first.
-/
import Exosnap.Lib.StepRun
import Exosnap.Services.CaptureHub

namespace Exosnap.Services

/-! ## The gate -/

inductive CaptureHubOp where
  | subscribe
  | unsubscribe
  | leaseRequest
  | leaseReturn
  deriving DecidableEq, Repr

structure CaptureHubGateState where
  leased : Bool := false
  subscribed : Bool := false
  deferred : Bool := false
  deriving DecidableEq, Repr

structure CaptureHubGateAction where
  next : CaptureHubGateState
  dropSubscription : Bool := false
  applySubscription : Bool := false
  releaseLease : Bool := false
  returnLease : Bool := false
  acknowledgeRelease : Bool := false
  resetPublisher : Bool := false
  deriving DecidableEq, Repr

def stepCaptureHubGate (state : CaptureHubGateState) : CaptureHubOp → CaptureHubGateAction
  | .subscribe =>
      if state.leased then
        { next := { state with subscribed := false, deferred := true }
          dropSubscription := true
          resetPublisher := true }
      else
        { next := { state with subscribed := true, deferred := false }
          dropSubscription := true
          resetPublisher := true
          applySubscription := true }
  | .unsubscribe =>
      { next := { state with subscribed := false, deferred := false }
        dropSubscription := true
        resetPublisher := true }
  | .leaseRequest =>
      { next := { state with leased := true }
        releaseLease := state.subscribed
        resetPublisher := true
        acknowledgeRelease := true }
  | .leaseReturn =>
      let next := { state with leased := false }
      if state.subscribed then { next := next, returnLease := true }
      else if state.deferred then
        { next := { next with subscribed := true, deferred := false }, applySubscription := true }
      else { next := next }

/-! ## The command queue -/

structure Entry (π : Type) where
  op : CaptureHubOp
  serial : Nat
  payload : π

structure CaptureHubCommandQueue (π : Type) where
  queue : List (Entry π) := []
  nextSerial : Nat := 1
  leaseReleasedSerial : Nat := 0
  stopping : Bool := false

namespace CaptureHubCommandQueue
variable {π : Type}

/-- The serial is used up even where nothing is queued any more. -/
def post (op : CaptureHubOp) (payload : π) (q : CaptureHubCommandQueue π) :
    CaptureHubCommandQueue π × Nat :=
  ({ q with
      queue := if q.stopping then q.queue else q.queue ++ [⟨op, q.nextSerial, payload⟩]
      nextSerial := q.nextSerial + 1 }, q.nextSerial)

def waitAndDrain (q : CaptureHubCommandQueue π) : CaptureHubCommandQueue π × List (Entry π) :=
  ({ q with queue := [] }, q.queue)

def publishLeaseRelease (serial : Nat) (q : CaptureHubCommandQueue π) : CaptureHubCommandQueue π :=
  { q with leaseReleasedSerial := max q.leaseReleasedSerial serial }

/-- What the wait returns when it ends. -/
def waitForLeaseRelease (serial : Nat) (q : CaptureHubCommandQueue π) : Bool :=
  serial ≤ q.leaseReleasedSerial

def shutdown (q : CaptureHubCommandQueue π) : CaptureHubCommandQueue π := { q with stopping := true }

end CaptureHubCommandQueue

/-! ## The pump thread -/

variable {σ φ : Type}

/-- A handle sink and a frame sink, either of them empty where it is `none`. -/
structure SubscribePayload (σ φ : Type) where
  deviceName : String := ""
  sink : Option σ := none
  frameSink : Option φ := none

def SubscribePayload.key (payload : SubscribePayload σ φ) : CaptureSourceKey where
  kind := .dxgiMonitor
  deviceName := payload.deviceName

inductive Happening (σ φ : Type) where
  | applied (command : Entry (SubscribePayload σ φ))
  | acknowledged (serial : Nat)

/-- What the pump thread owns. -/
structure Pump (σ φ : Type) where
  registry : CaptureHubRegistry := fun _ => none
  subscription : Option CaptureSubscription := none
  sink : Option σ := none
  frameSink : Option φ := none
  currentKey : CaptureSourceKey := {}
  gate : CaptureHubGateState := {}
  desired : SubscribePayload σ φ := {}
  log : List (Happening σ φ) := []

/-- What an action asks for, in the order in which the pump thread does it. -/
inductive Stage where
  | dropSubscription
  | releaseLease
  | returnLease
  | applySubscription
  | acknowledgeRelease
  deriving DecidableEq, Repr

def CaptureHubGateAction.stages (action : CaptureHubGateAction) : List Stage :=
  (if action.dropSubscription then [.dropSubscription] else []) ++
  (if action.releaseLease then [.releaseLease] else []) ++
  (if action.returnLease then [.returnLease] else []) ++
  (if action.applySubscription then [.applySubscription] else []) ++
  (if action.acknowledgeRelease then [.acknowledgeRelease] else [])

namespace Pump

/-- `subscription.Reset()` -/
def reset (s : Pump σ φ) : Pump σ φ :=
  match s.subscription with
  | none => s
  | some subscription =>
      { s with registry := s.registry.unsubscribe subscription, subscription := none }

/-- A command goes through the gate; its payload is what is desired from then on. -/
def take (command : Entry (SubscribePayload σ φ)) (s : Pump σ φ) : Pump σ φ :=
  { s with
    gate := (stepCaptureHubGate s.gate command.op).next
    desired := if command.op = .subscribe then command.payload else s.desired
    log := .applied command :: s.log }

/-- A stage; `serial` is that of the command, and `opens` what a producer answers that is opened. -/
def perform (serial : Nat) (opens : Bool) (s : Pump σ φ) : Stage → Pump σ φ
  | .dropSubscription => { s.reset with sink := none, frameSink := none, currentKey := {} }
  | .releaseLease => { s with registry := s.registry.requestLease s.currentKey }
  | .returnLease => { s with registry := s.registry.returnLease opens s.currentKey }
  | .applySubscription =>
      let (registry, subscription) := s.registry.subscribe opens s.desired.key
      { s with
        sink := s.desired.sink
        frameSink := s.desired.frameSink
        -- the sinks are moved out of what was desired
        desired := { s.desired with sink := none, frameSink := none }
        currentKey := s.desired.key
        registry := registry
        subscription := some subscription }
  | .acknowledgeRelease => { s with log := .acknowledged serial :: s.log }

end Pump

/-! ## The service -/

/-- Where the pump thread stands in its loop. -/
inductive PumpPhase (σ φ : Type) where
  | top
  /-- `WaitAndDrain` has returned. -/
  | drained (batch : List (Entry (SubscribePayload σ φ)))
  /-- Applying the batch: the stages left of the command with `serial`, and the commands after it. -/
  | applying (serial : Nat) (stages : List Stage) (batch : List (Entry (SubscribePayload σ φ)))
  | exited

structure Service (σ φ : Type) where
  commands : CaptureHubCommandQueue (SubscribePayload σ φ) := {}
  stopRequested : Bool := false
  phase : PumpPhase σ φ := .top
  pump : Pump σ φ := {}

inductive ServiceEvent (σ φ : Type) where
  | post (op : CaptureHubOp) (payload : SubscribePayload σ φ)
  | requestStop
  | shutdown
  | drain
  | begin
  | command
  | stage (opens : Bool)
  | cadence (pumps : Bool) (opens : CaptureSourceKey → Bool) (polls : CaptureSourceKey → ProducerPoll)
  | exit

namespace Service

/-- A command acknowledges under the mutex of the queue. -/
def performStage (serial : Nat) (opens : Bool) (stage : Stage) (s : Service σ φ) : Service σ φ :=
  { s with
    pump := s.pump.perform serial opens stage
    commands := if stage = .acknowledgeRelease then s.commands.publishLeaseRelease serial
      else s.commands }

def step (s : Service σ φ) : ServiceEvent σ φ → Option (Service σ φ)
  | .post op payload => some { s with commands := (s.commands.post op payload).1 }
  | .requestStop => some { s with stopRequested := true }
  | .shutdown => some { s with commands := s.commands.shutdown }
  | .drain =>
      match s.phase with
      | .top =>
          if s.stopRequested then none
          else some { s with
            commands := s.commands.waitAndDrain.1, phase := .drained s.commands.waitAndDrain.2 }
      | _ => none
  | .begin =>
      match s.phase with
      | .drained batch =>
          if s.stopRequested then none else some { s with phase := .applying 0 [] batch }
      | _ => none
  | .command =>
      match s.phase with
      | .applying _ [] (command :: batch) => some { s with
          pump := s.pump.take command
          phase := .applying command.serial (stepCaptureHubGate s.pump.gate command.op).stages batch }
      | _ => none
  | .stage opens =>
      match s.phase with
      | .applying serial (stage :: stages) batch =>
          some { s.performStage serial opens stage with phase := .applying serial stages batch }
      | _ => none
  | .cadence pumps opens polls =>
      match s.phase with
      | .applying _ [] [] => some { s with
          phase := .top
          pump := if pumps then { s.pump with registry := s.pump.registry.pumpAll opens polls }
            else s.pump }
      | _ => none
  | .exit =>
      if s.stopRequested then
        match s.phase with
        | .top | .drained _ => some { s with phase := .exited, pump := s.pump.reset }
        | _ => none
      else none

/-- Between two commands, or outside of the commands, of a pump thread that runs. -/
def Settled (s : Service σ φ) : Prop :=
  match s.phase with
  | .top | .drained _ | .applying _ [] _ => True
  | _ => False

end Service

end Exosnap.Services
