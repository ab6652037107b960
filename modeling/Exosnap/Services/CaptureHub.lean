/-
  The capture hub: its policy (`capture_hub_policy.cpp`), the hub that drives a producer by it
  (`CaptureSourceHub.cpp`) and the registry of hubs (`CaptureHubRegistry.cpp`).

  What a producer answers is an argument of the operations. Frames, and the callbacks that they
  are delivered to, are left out; so is the log line of a failed open.
-/
import Mathlib.Tactic.Common

namespace Exosnap.Services

/-! ## The policy -/

structure CaptureHubState where
  consumers : Nat := 0
  captureOpen : Bool := false
  leaseOut : Bool := false
  holding : Bool := false
  lost : Bool := false
  hasFrame : Bool := false
  deriving DecidableEq, Repr

inductive CaptureHubEvent where
  | consumerAdded
  | consumerRemoved
  | frameReceived
  | sourceLost
  | reopenSucceeded
  | reopenFailed
  | sourceUnrecoverable
  | leaseRequested
  | leaseReturned
  deriving DecidableEq, Repr

structure CaptureHubDecision where
  next : CaptureHubState
  openCapture : Bool := false
  closeCapture : Bool := false
  scheduleReopen : Bool := false
  grantLease : Bool := false
  deriving DecidableEq, Repr

def stepCaptureHub (state : CaptureHubState) : CaptureHubEvent → CaptureHubDecision
  | .consumerAdded =>
      let next := { state with consumers := state.consumers + 1 }
      -- Only the first consumer opens, and only what nobody else owns.
      if next.consumers = 1 && !state.captureOpen && !state.leaseOut && !state.lost then
        { next := { next with captureOpen := true, holding := true }, openCapture := true }
      else { next := next }
  | .consumerRemoved =>
      let next := { state with consumers := state.consumers - 1 }
      if next.consumers = 0 then
        let next := if state.captureOpen then { next with captureOpen := false } else next
        let next :=
          if !next.leaseOut then { next with holding := false, lost := false, hasFrame := false }
          else next
        { next := next, closeCapture := state.captureOpen }
      else { next := next }
  | .frameReceived => { next := { state with hasFrame := true, holding := false, lost := false } }
  | .sourceLost =>
      if state.captureOpen then { next := { state with holding := true }, scheduleReopen := true }
      else { next := state }
  | .reopenSucceeded => { next := state }
  | .reopenFailed => { next := state, scheduleReopen := state.captureOpen }
  | .sourceUnrecoverable =>
      { next := { state with captureOpen := false, holding := true, lost := true }
        closeCapture := state.captureOpen }
  | .leaseRequested =>
      { next := { state with captureOpen := false, leaseOut := true, holding := true, lost := false }
        closeCapture := state.captureOpen
        grantLease := true }
  | .leaseReturned =>
      if state.consumers > 0 then
        { next := { state with leaseOut := false, captureOpen := true, holding := true }
          openCapture := true }
      else { next := { state with leaseOut := false, holding := false, hasFrame := false } }

/-! ## The hub -/

inductive ProducerPoll where
  | frame
  | noFrame
  | lost
  | fatal
  deriving DecidableEq, Repr

structure CaptureSourceHub where
  producerOpen : Bool := false
  state : CaptureHubState := {}
  /-- The tokens of the subscribers. -/
  subscribers : List Nat := []
  nextToken : Nat := 1
  deriving DecidableEq, Repr

namespace CaptureSourceHub

def closeProducer (hub : CaptureSourceHub) : CaptureSourceHub := { hub with producerOpen := false }

/-- `Apply` of an event that opens nothing. -/
def settle (event : CaptureHubEvent) (hub : CaptureSourceHub) : CaptureSourceHub :=
  let d := stepCaptureHub hub.state event
  let hub := { hub with state := d.next }
  if d.closeCapture then hub.closeProducer else hub

/-- A producer that does not open is a source that is lost. -/
def openProducer (opens : Bool) (hub : CaptureSourceHub) : CaptureSourceHub :=
  if hub.producerOpen then hub
  else if opens then { hub with producerOpen := true }
  else hub.settle .sourceLost

/-- `Apply`; `opens` is what the producer answers, if it is opened. -/
def apply (opens : Bool) (event : CaptureHubEvent) (hub : CaptureSourceHub) : CaptureSourceHub :=
  let d := stepCaptureHub hub.state event
  if d.openCapture then (hub.settle event).openProducer opens else hub.settle event

/-- A lost source opens nothing, so `openProducer` ends there. -/
theorem apply_sourceLost (opens : Bool) (hub : CaptureSourceHub) :
    hub.apply opens .sourceLost = hub.settle .sourceLost := by
  unfold apply stepCaptureHub
  dsimp only
  split_ifs
  · contradiction
  · rfl
  · contradiction
  · rfl

def subscribe (opens : Bool) (hub : CaptureSourceHub) : CaptureSourceHub × Nat :=
  ({ hub with subscribers := hub.subscribers ++ [hub.nextToken], nextToken := hub.nextToken + 1 }.apply
    opens .consumerAdded, hub.nextToken)

/-- An unknown token is not a consumer that leaves. -/
def unsubscribe (token : Nat) (hub : CaptureSourceHub) : CaptureSourceHub :=
  if token ∈ hub.subscribers then
    { hub with subscribers := hub.subscribers.erase token }.apply false .consumerRemoved
  else hub

def pump (opens : Bool) (poll : ProducerPoll) (hub : CaptureSourceHub) : CaptureSourceHub :=
  if !hub.state.captureOpen then hub
  else if !hub.producerOpen then
    if opens then { hub with producerOpen := true }.apply opens .reopenSucceeded
    else hub.apply opens .reopenFailed
  else match poll with
    | .frame => hub.apply opens .frameReceived
    | .noFrame => hub
    | .lost => hub.closeProducer.apply opens .sourceLost
    | .fatal => hub.closeProducer.apply opens .sourceUnrecoverable

def requestLease (hub : CaptureSourceHub) : CaptureSourceHub := hub.apply false .leaseRequested

def returnLease (opens : Bool) (hub : CaptureSourceHub) : CaptureSourceHub :=
  hub.apply opens .leaseReturned

end CaptureSourceHub

/-! ## The registry -/

inductive CaptureSourceKey.Kind where
  | monitor
  | window
  | dxgiMonitor
  deriving DecidableEq, Repr

structure CaptureSourceKey where
  kind : CaptureSourceKey.Kind := .monitor
  nativeId : UInt64 := 0
  deviceName : String := ""
  deriving DecidableEq, Repr

/-- A consumer's hold on one hub; the empty one is `none` wherever a subscription stands. -/
structure CaptureSubscription where
  key : CaptureSourceKey
  token : Nat
  deriving DecidableEq, Repr

/-- The hubs by their keys. -/
abbrev CaptureHubRegistry := CaptureSourceKey → Option CaptureSourceHub

namespace CaptureHubRegistry

def put (registry : CaptureHubRegistry) (key : CaptureSourceKey) (hub : Option CaptureSourceHub) :
    CaptureHubRegistry :=
  fun k => if k = key then hub else registry k

def subscribe (opens : Bool) (key : CaptureSourceKey) (registry : CaptureHubRegistry) :
    CaptureHubRegistry × CaptureSubscription :=
  let hub := (registry key).getD {}
  let (hub, token) := hub.subscribe opens
  (registry.put key hub, ⟨key, token⟩)

/-- The hub goes with its last consumer. -/
def unsubscribe (subscription : CaptureSubscription) (registry : CaptureHubRegistry) :
    CaptureHubRegistry :=
  match registry subscription.key with
  | none => registry
  | some hub =>
      let hub := hub.unsubscribe subscription.token
      if hub.state.consumers = 0 then registry.put subscription.key none
      else registry.put subscription.key hub

def pumpAll (opens : CaptureSourceKey → Bool) (polls : CaptureSourceKey → ProducerPoll)
    (registry : CaptureHubRegistry) : CaptureHubRegistry :=
  fun key => (registry key).map (CaptureSourceHub.pump (opens key) (polls key))

def requestLease (key : CaptureSourceKey) (registry : CaptureHubRegistry) : CaptureHubRegistry :=
  match registry key with
  | none => registry
  | some hub => registry.put key hub.requestLease

def returnLease (opens : Bool) (key : CaptureSourceKey) (registry : CaptureHubRegistry) :
    CaptureHubRegistry :=
  match registry key with
  | none => registry
  | some hub => registry.put key (hub.returnLease opens)

end CaptureHubRegistry

end Exosnap.Services
