/-
  What the hub service keeps over any interleaving: no producer of it is open while the engine has
  an acknowledged lease, a wait for a release ends on a lease request that was applied, and the
  last subscription is the one that is live.

  Between commands the pump thread is at a `Boundary`. Within a command it is `Ready`: whatever the
  producers answer, the stages that are left lead to a boundary, and nothing on the way is unsafe.
-/
import Exosnap.Services.CaptureHubService

namespace Exosnap.Services

/-! ## Hubs -/

namespace CaptureSourceHub
variable {hub : CaptureSourceHub} {event : CaptureHubEvent} {opens : Bool} {poll : ProducerPoll}
  {token : Nat}

/-- A producer is open only for a capture that the hub owns. -/
def Sound (hub : CaptureSourceHub) : Prop :=
  hub.producerOpen = true → hub.state.captureOpen = true

/-- A capture that the policy gives up is closed. -/
theorem stepCaptureHub_gives_up (state : CaptureHubState) (event : CaptureHubEvent)
    (h : (stepCaptureHub state event).closeCapture = false) :
    state.captureOpen = true → (stepCaptureHub state event).next.captureOpen = true := by
  intro hopen
  cases event <;> simp_all [stepCaptureHub] <;> split_ifs <;> simp_all

theorem stepCaptureHub_opens (state : CaptureHubState) (event : CaptureHubEvent)
    (h : (stepCaptureHub state event).openCapture = true) :
    (stepCaptureHub state event).next.captureOpen = true := by
  revert h
  cases event <;> simp [stepCaptureHub] <;> split_ifs <;> simp

theorem settle_state : (hub.settle event).state = (stepCaptureHub hub.state event).next := by
  unfold settle closeProducer
  dsimp only
  split
  · rfl
  · rfl

theorem settle_subscribers : (hub.settle event).subscribers = hub.subscribers := by
  unfold settle closeProducer
  dsimp only
  split
  · rfl
  · rfl

theorem Sound.settle (h : hub.Sound) : (hub.settle event).Sound := by
  intro hopen
  rw [settle_state]
  unfold CaptureSourceHub.settle closeProducer at hopen
  dsimp only at hopen
  split at hopen
  case isTrue => exact nomatch hopen
  case isFalse hkept => exact stepCaptureHub_gives_up _ _ (by simpa using hkept) (h hopen)

theorem Sound.apply (h : hub.Sound) : (hub.apply opens event).Sound := by
  unfold CaptureSourceHub.apply
  dsimp only
  split
  case isFalse => exact h.settle
  case isTrue hopens =>
  unfold openProducer
  split
  · exact h.settle
  · split
    · intro _
      show (hub.settle event).state.captureOpen = true
      rw [settle_state]
      exact stepCaptureHub_opens _ _ hopens
    · exact h.settle.settle

theorem apply_subscribers : (hub.apply opens event).subscribers = hub.subscribers := by
  unfold CaptureSourceHub.apply openProducer
  dsimp only
  split_ifs
  · exact settle_subscribers
  · exact settle_subscribers
  · exact settle_subscribers.trans settle_subscribers
  · exact settle_subscribers

/-- Only consumers that come and go are counted. -/
theorem apply_consumers (hadded : event ≠ .consumerAdded) (hremoved : event ≠ .consumerRemoved) :
    (hub.apply opens event).state.consumers = hub.state.consumers := by
  have hstep : ∀ (state : CaptureHubState) {event : CaptureHubEvent}, event ≠ .consumerAdded →
      event ≠ .consumerRemoved → (stepCaptureHub state event).next.consumers = state.consumers := by
    intro state event hadded hremoved
    cases event <;> simp_all [stepCaptureHub] <;> split_ifs <;> rfl
  unfold CaptureSourceHub.apply openProducer
  dsimp only
  split_ifs
  · rw [settle_state, hstep _ hadded hremoved]
  · show (hub.settle event).state.consumers = _
    rw [settle_state, hstep _ hadded hremoved]
  · rw [settle_state, hstep _ (by decide) (by decide), settle_state, hstep _ hadded hremoved]
  · rw [settle_state, hstep _ hadded hremoved]

/-- A hub with the one consumer that the service has. -/
structure HasOne (token : Nat) (hub : CaptureSourceHub) : Prop where
  subscribers : hub.subscribers = [token]
  consumers : hub.state.consumers = 1
  sound : hub.Sound

theorem HasOne.mem (h : HasOne token hub) : token ∈ hub.subscribers := by simp [h.subscribers]

theorem HasOne.apply (h : HasOne token hub) (hadded : event ≠ .consumerAdded)
    (hremoved : event ≠ .consumerRemoved) : HasOne token (hub.apply opens event) :=
  ⟨apply_subscribers.trans h.subscribers, (apply_consumers hadded hremoved).trans h.consumers,
    h.sound.apply⟩

theorem HasOne.subscribe (opens : Bool) :
    HasOne ((({} : CaptureSourceHub).subscribe opens).2) (({} : CaptureSourceHub).subscribe opens).1 := by
  cases opens with
  | false => exact ⟨rfl, rfl, (fun h => nomatch h)⟩
  | true => exact ⟨rfl, rfl, fun _ => rfl⟩

/-- The only consumer that leaves is the last one. -/
theorem HasOne.unsubscribe (h : HasOne token hub) : (hub.unsubscribe token).state.consumers = 0 := by
  have hstep : ∀ state : CaptureHubState, state.consumers = 1 →
      (stepCaptureHub state .consumerRemoved).openCapture = false ∧
        (stepCaptureHub state .consumerRemoved).next.consumers = 0 := by
    intro state hone
    unfold stepCaptureHub
    dsimp only
    split_ifs <;> simp_all
  obtain ⟨hopen, hnone⟩ := hstep hub.state h.consumers
  unfold CaptureSourceHub.unsubscribe
  rw [if_pos (by simp [h.subscribers])]
  unfold CaptureSourceHub.apply
  dsimp only
  rw [if_neg (by simp [hopen]), settle_state]
  exact hnone

theorem HasOne.closed (h : HasOne token hub) (hclosed : hub.state.captureOpen = false) :
    hub.producerOpen = false := by
  cases hopen : hub.producerOpen with
  | false => rfl
  | true => exact absurd (h.sound hopen) (by simp [hclosed])

theorem HasOne.closeProducer (h : HasOne token hub) : HasOne token hub.closeProducer :=
  ⟨h.subscribers, h.consumers, (fun hopen => nomatch hopen)⟩

theorem HasOne.pump (h : HasOne token hub) : HasOne token (hub.pump opens poll) := by
  unfold CaptureSourceHub.pump
  split
  case isTrue => exact h
  case isFalse hopen =>
  split
  · split
    · have hopened : HasOne token { hub with producerOpen := true } :=
        ⟨h.subscribers, h.consumers, fun _ => by simpa using hopen⟩
      exact hopened.apply (by decide) (by decide)
    · exact h.apply (by decide) (by decide)
  · cases poll with
    | frame => exact h.apply (by decide) (by decide)
    | noFrame => exact h
    | lost => exact h.closeProducer.apply (by decide) (by decide)
    | fatal => exact h.closeProducer.apply (by decide) (by decide)

/-- What owns no capture is not pumped. -/
theorem pump_closed (h : hub.state.captureOpen = false) : hub.pump opens poll = hub := by
  unfold CaptureSourceHub.pump
  rw [if_pos (by simp [h])]

theorem requestLease_closed : hub.requestLease.state.captureOpen = false := by
  unfold requestLease CaptureSourceHub.apply
  exact congrArg CaptureHubState.captureOpen settle_state

end CaptureSourceHub

/-! ## The registry of the service -/

open CaptureSourceHub

/-- The registry has the hub of the subscription and no other. -/
def Held (registry : CaptureHubRegistry) : Option CaptureSubscription → Prop
  | none => ∀ key, registry key = none
  | some subscription => ∃ hub, registry subscription.key = some hub ∧
      HasOne subscription.token hub ∧ ∀ key, key ≠ subscription.key → registry key = none

def Closed (registry : CaptureHubRegistry) : Prop :=
  ∀ key hub, registry key = some hub → hub.state.captureOpen = false

/-- No producer of the service is open. -/
def NoProducer (registry : CaptureHubRegistry) : Prop :=
  ∀ key hub, registry key = some hub → hub.producerOpen = false

section
variable {registry : CaptureHubRegistry} {subscription : Option CaptureSubscription}

theorem Held.hasOne (h : Held registry subscription) {key : CaptureSourceKey} {hub : CaptureSourceHub}
    (hhub : registry key = some hub) : ∃ token, HasOne token hub := by
  cases subscription with
  | none => exact nomatch hhub.symm.trans (h key)
  | some s =>
    obtain ⟨hub', hhub', hone, hother⟩ := h
    by_cases hkey : key = s.key
    · subst hkey
      obtain rfl := Option.some.inj (hhub'.symm.trans hhub)
      exact ⟨s.token, hone⟩
    · exact nomatch hhub.symm.trans (hother key hkey)

theorem Held.noProducer (h : Held registry subscription) (hclosed : Closed registry) :
    NoProducer registry := by
  intro key hub hhub
  obtain ⟨token, hone⟩ := h.hasOne hhub
  exact hone.closed (hclosed key hub hhub)

/-- A hub that is put in the place of the subscribed one. -/
theorem Held.put {s : CaptureSubscription} {hub : CaptureSourceHub} (h : Held registry (some s))
    (hone : HasOne s.token hub) : Held (registry.put s.key hub) (some s) := by
  obtain ⟨_, _, _, hother⟩ := h
  refine ⟨hub, if_pos rfl, hone, fun key hkey => ?_⟩
  exact (if_neg hkey).trans (hother key hkey)

theorem Held.unsubscribe {s : CaptureSubscription} (h : Held registry (some s)) :
    Held (registry.unsubscribe s) none := by
  obtain ⟨hub, hhub, hone, hother⟩ := h
  intro key
  unfold CaptureHubRegistry.unsubscribe
  rw [hhub]
  dsimp only
  rw [if_pos hone.unsubscribe]
  by_cases hkey : key = s.key
  · exact if_pos hkey
  · exact (if_neg hkey).trans (hother key hkey)

theorem Held.subscribe (h : Held registry none) (opens : Bool) (key : CaptureSourceKey) :
    Held (registry.subscribe opens key).1 (some (registry.subscribe opens key).2) ∧
      (registry.subscribe opens key).2.key = key := by
  refine ⟨?_, rfl⟩
  unfold CaptureHubRegistry.subscribe
  rw [h key]
  refine ⟨_, if_pos rfl, HasOne.subscribe opens, fun k hk => ?_⟩
  exact (if_neg hk).trans (h k)

theorem Held.requestLease {s : CaptureSubscription} (h : Held registry (some s)) :
    Held (registry.requestLease s.key) (some s) ∧ Closed (registry.requestLease s.key) := by
  obtain ⟨hub, hhub, hone, hother⟩ := h
  unfold CaptureHubRegistry.requestLease
  rw [hhub]
  refine ⟨Held.put ⟨hub, hhub, hone, hother⟩ (hone.apply (by decide) (by decide)), fun key hub' hhub' => ?_⟩
  by_cases hkey : key = s.key
  · obtain rfl := Option.some.inj ((if_pos hkey).symm.trans hhub')
    exact requestLease_closed
  · exact nomatch hhub'.symm.trans ((if_neg hkey).trans (hother key hkey))

theorem Held.returnLease {s : CaptureSubscription} (h : Held registry (some s)) (opens : Bool) :
    Held (registry.returnLease opens s.key) (some s) := by
  obtain ⟨hub, hhub, hone, hother⟩ := h
  unfold CaptureHubRegistry.returnLease
  rw [hhub]
  exact Held.put ⟨hub, hhub, hone, hother⟩ (hone.apply (by decide) (by decide))

theorem Held.pumpAll (h : Held registry subscription) (opens : CaptureSourceKey → Bool)
    (polls : CaptureSourceKey → ProducerPoll) : Held (registry.pumpAll opens polls) subscription := by
  cases subscription with
  | none =>
    intro key
    unfold CaptureHubRegistry.pumpAll
    rw [h key]
    rfl
  | some s =>
    obtain ⟨hub, hhub, hone, hother⟩ := h
    refine ⟨hub.pump (opens s.key) (polls s.key), ?_, hone.pump, fun key hkey => ?_⟩
    · unfold CaptureHubRegistry.pumpAll
      rw [hhub]
      rfl
    · unfold CaptureHubRegistry.pumpAll
      rw [hother key hkey]
      rfl

theorem Closed.pumpAll (h : Closed registry) (opens : CaptureSourceKey → Bool)
    (polls : CaptureSourceKey → ProducerPoll) : Closed (registry.pumpAll opens polls) := by
  intro key hub hhub
  obtain ⟨hub', hhub', rfl⟩ := Option.map_eq_some_iff.mp hhub
  rw [pump_closed (h key hub' hhub')]
  exact h key hub' hhub'

end

/-! ## What a log says -/

variable {σ φ : Type}

/-- A lease request was taken, and no lease return since. -/
def leaseOut : List (Happening σ φ) → Bool
  | [] => false
  | .applied command :: log =>
      if command.op = .leaseRequest then true
      else if command.op = .leaseReturn then false
      else leaseOut log
  | .acknowledged _ :: log => leaseOut log

/-- An acknowledgement was published, and no lease return was taken since. -/
def acknowledged : List (Happening σ φ) → Bool
  | [] => false
  | .applied command :: log => if command.op = .leaseReturn then false else acknowledged log
  | .acknowledged _ :: _ => true

/-- The payload of the last subscribe, if no unsubscribe came after it. -/
def wanted : List (Happening σ φ) → Option (SubscribePayload σ φ)
  | [] => none
  | .applied command :: log =>
      if command.op = .subscribe then some command.payload
      else if command.op = .unsubscribe then none
      else wanted log
  | .acknowledged _ :: log => wanted log

/-! ## Between commands and within one -/

namespace Pump

/-- The subscription is live, with this payload. -/
structure Carries (s : Pump σ φ) (payload : SubscribePayload σ φ) : Prop where
  live : ∃ token hub, s.subscription = some ⟨payload.key, token⟩ ∧
    s.registry payload.key = some hub ∧ token ∈ hub.subscribers
  sink : s.sink = payload.sink
  frameSink : s.frameSink = payload.frameSink

/-- What becomes of the last subscribe: nothing, or it waits under the lease, or it is live. -/
def Serves (s : Pump σ φ) : Option (SubscribePayload σ φ) → Prop
  | none => s.subscription = none ∧ s.gate.deferred = false
  | some payload =>
      (s.subscription = none ∧ s.gate.deferred = true ∧ s.gate.leased = true ∧ s.desired = payload) ∨
      (s.Carries payload ∧ s.gate.deferred = false)

structure Boundary (s : Pump σ φ) : Prop where
  held : Held s.registry s.subscription
  current : ∀ subscription, s.subscription = some subscription → subscription.key = s.currentKey
  subscribed : s.gate.subscribed = s.subscription.isSome
  leased : s.gate.leased = leaseOut s.log
  acknowledged : acknowledged s.log = true → s.gate.leased = true
  closed : s.gate.leased = true → Closed s.registry
  serves : s.Serves (wanted s.log)

/-- No producer is open under an acknowledged lease. -/
def Safe (s : Pump σ φ) : Prop := acknowledged s.log = true → NoProducer s.registry

/-- Whatever the producers answer, the stages lead to a boundary, by way of what is safe. -/
def Ready (serial : Nat) : List Stage → Pump σ φ → Prop
  | [], s => s.Boundary
  | stage :: stages, s => s.Safe ∧ ∀ opens, Ready serial stages (s.perform serial opens stage)

variable {s : Pump σ φ} {serial : Nat}

theorem Boundary.safe (h : s.Boundary) : s.Safe :=
  fun hack => h.held.noProducer (h.closed (h.acknowledged hack))

theorem Ready.safe {stages : List Stage} (h : Ready serial stages s) : s.Safe := by
  cases stages with
  | nil => exact Boundary.safe h
  | cons stage stages => exact h.1

theorem boundary_init : ({} : Pump σ φ).Boundary where
  held _ := rfl
  current _ h := nomatch h
  subscribed := rfl
  leased := rfl
  acknowledged h := nomatch h
  closed h := nomatch h
  serves := ⟨rfl, rfl⟩

/-- After a reset nothing is held, and nothing else has changed. -/
theorem reset_held (h : Held s.registry s.subscription) :
    ∃ registry, Held registry none ∧ s.reset = { s with registry := registry, subscription := none } := by
  obtain ⟨registry, subscription, sink, frameSink, currentKey, gate, desired, log⟩ := s
  cases subscription with
  | none => exact ⟨registry, h, rfl⟩
  | some subscription => exact ⟨_, h.unsubscribe, rfl⟩

/-- What is held stays live under changes of the registry. -/
theorem Carries.of_held {s' : Pump σ φ} {payload : SubscribePayload σ φ} (h : s.Carries payload)
    (hheld : Held s'.registry s'.subscription) (hsubscription : s'.subscription = s.subscription)
    (hsink : s'.sink = s.sink) (hframeSink : s'.frameSink = s.frameSink) : s'.Carries payload := by
  obtain ⟨token, _, hsub, _⟩ := h.live
  rw [hsubscription, hsub] at hheld
  obtain ⟨hub, hhub, hone, _⟩ := hheld
  exact ⟨⟨token, hub, hsubscription.trans hsub, hhub, hone.mem⟩,
    hsink.trans h.sink, hframeSink.trans h.frameSink⟩

/-- A subscription that is made from what is desired is live with it. -/
theorem perform_applySubscription (serial : Nat) (opens : Bool) (hheld : Held s.registry none) :
    Held (s.perform serial opens .applySubscription).registry
      (s.perform serial opens .applySubscription).subscription ∧
    (s.perform serial opens .applySubscription).Carries s.desired := by
  obtain ⟨hheld', hkey⟩ := hheld.subscribe opens s.desired.key
  refine ⟨hheld', ?_⟩
  obtain ⟨hub, hhub, hone, _⟩ := hheld'
  exact ⟨⟨_, hub, rfl, hhub, hone.mem⟩, rfl, rfl⟩

/-! ## Commands -/

variable {command : Entry (SubscribePayload σ φ)}

/-- A command alone makes nothing unsafe. -/
theorem Boundary.take_safe (h : s.Boundary) : (s.take command).Safe := by
  intro hack
  unfold Pump.take at hack
  dsimp only [Services.acknowledged] at hack
  split at hack
  · exact nomatch hack
  · exact h.safe hack

theorem noProducer_of_held_none {registry : CaptureHubRegistry} (h : Held registry none) :
    NoProducer registry :=
  fun key _ hhub => nomatch hhub.symm.trans (h key)

theorem closed_of_held_none {registry : CaptureHubRegistry} (h : Held registry none) :
    Closed registry :=
  fun key _ hhub => nomatch hhub.symm.trans (h key)

/-- The last subscription goes first, and a new one waits for the lease. -/
theorem ready_subscribe (h : s.Boundary) (hop : command.op = .subscribe) :
    Ready command.serial (stepCaptureHubGate s.gate command.op).stages (s.take command) := by
  have hsafe : (s.take command).Safe := h.take_safe
  obtain ⟨registry, hnone, hreset⟩ := reset_held (s := s.take command) h.held
  have hout : leaseOut (s.take command).log = leaseOut s.log := by
    simp [Pump.take, leaseOut, hop]
  have hack : Services.acknowledged (s.take command).log = Services.acknowledged s.log := by
    simp [Pump.take, Services.acknowledged, hop]
  have hwanted : wanted (s.take command).log = some command.payload := by
    simp [Pump.take, wanted, hop]
  have hdesired : (s.take command).desired = command.payload := by simp [Pump.take, hop]
  cases hleased : s.gate.leased with
  | true =>
    have hstages : (stepCaptureHubGate s.gate command.op).stages = [.dropSubscription] := by
      simp [hop, stepCaptureHubGate, hleased, CaptureHubGateAction.stages]
    have hgate : (s.take command).gate = { s.gate with subscribed := false, deferred := true } := by
      simp [Pump.take, hop, stepCaptureHubGate, hleased]
    rw [hstages]
    refine ⟨hsafe, fun opens => ?_⟩
    show Boundary { (s.take command).reset with sink := none, frameSink := none, currentKey := {} }
    rw [hreset]
    refine ⟨hnone, (fun _ hs => nomatch hs), ?_, ?_, fun _ => ?_, fun _ => closed_of_held_none hnone, ?_⟩
    · rw [hgate]
      rfl
    · rw [hgate, hout]
      exact h.leased
    · rw [hgate]
      exact hleased
    · rw [hwanted]
      exact .inl ⟨rfl, congrArg CaptureHubGateState.deferred hgate,
        (congrArg CaptureHubGateState.leased hgate).trans hleased, hdesired⟩
  | false =>
    have hstages : (stepCaptureHubGate s.gate command.op).stages =
        [.dropSubscription, .applySubscription] := by
      simp [hop, stepCaptureHubGate, hleased, CaptureHubGateAction.stages]
    have hgate : (s.take command).gate = { s.gate with subscribed := true, deferred := false } := by
      simp [Pump.take, hop, stepCaptureHubGate, hleased]
    rw [hstages]
    refine ⟨hsafe, fun _ => ?_⟩
    show Ready command.serial [.applySubscription]
      { (s.take command).reset with sink := none, frameSink := none, currentKey := {} }
    rw [hreset]
    refine ⟨fun _ => noProducer_of_held_none hnone, fun opens => ?_⟩
    obtain ⟨hheld, hcarries⟩ := perform_applySubscription command.serial opens
      (s := { s.take command with
        registry := registry, subscription := none, sink := none, frameSink := none, currentKey := {} })
      hnone
    refine ⟨hheld, ?_, ?_, ?_, ?_, ?_, ?_⟩
    · intro subscription hs
      rw [← Option.some.inj hs]
      rfl
    · exact congrArg CaptureHubGateState.subscribed hgate
    · exact (congrArg CaptureHubGateState.leased hgate).trans (h.leased.trans hout.symm)
    · intro hack'
      exact absurd (h.acknowledged (hack.symm.trans hack')) (by simp [hleased])
    · intro hleased'
      exact absurd ((congrArg CaptureHubGateState.leased hgate).symm.trans hleased') (by simp [hleased])
    · show Serves _ (wanted (s.take command).log)
      rw [hwanted, ← hdesired]
      exact .inr ⟨hcarries, congrArg CaptureHubGateState.deferred hgate⟩

/-- An unsubscribe revokes what waits, too. -/
theorem ready_unsubscribe (h : s.Boundary) (hop : command.op = .unsubscribe) :
    Ready command.serial (stepCaptureHubGate s.gate command.op).stages (s.take command) := by
  obtain ⟨registry, hnone, hreset⟩ := reset_held (s := s.take command) h.held
  have hstages : (stepCaptureHubGate s.gate command.op).stages = [.dropSubscription] := by
    simp [hop, stepCaptureHubGate, CaptureHubGateAction.stages]
  have hgate : (s.take command).gate = { s.gate with subscribed := false, deferred := false } := by
    simp [Pump.take, hop, stepCaptureHubGate]
  have hout : leaseOut (s.take command).log = leaseOut s.log := by
    simp [Pump.take, leaseOut, hop]
  have hack : Services.acknowledged (s.take command).log = Services.acknowledged s.log := by
    simp [Pump.take, Services.acknowledged, hop]
  have hwanted : wanted (s.take command).log = none := by
    simp [Pump.take, wanted, hop]
  rw [hstages]
  refine ⟨h.take_safe, fun opens => ?_⟩
  show Boundary { (s.take command).reset with sink := none, frameSink := none, currentKey := {} }
  rw [hreset]
  refine ⟨hnone, (fun _ hs => nomatch hs), ?_, ?_, fun hack' => ?_,
    fun _ => closed_of_held_none hnone, ?_⟩
  · rw [hgate]
    rfl
  · rw [hgate, hout]
    exact h.leased
  · rw [hgate]
    exact h.acknowledged (hack.symm.trans hack')
  · rw [hwanted]
    exact ⟨rfl, congrArg CaptureHubGateState.deferred hgate⟩

/-- A lease request gives up the capture, and then acknowledges. -/
theorem ready_leaseRequest (h : s.Boundary) (hop : command.op = .leaseRequest) :
    Ready command.serial (stepCaptureHubGate s.gate command.op).stages (s.take command) := by
  have hgate : (s.take command).gate = { s.gate with leased := true } := by
    simp [Pump.take, hop, stepCaptureHubGate]
  have hwanted : wanted (s.take command).log = wanted s.log := by
    simp [Pump.take, wanted, hop]
  have hout : leaseOut (s.take command).log = true := by
    simp [Pump.take, leaseOut, hop]
  have hdesired : (s.take command).desired = s.desired := by simp [Pump.take, hop]
  -- what is left when the capture has been given up
  have hdone : ∀ registry, Held registry s.subscription → Closed registry →
      Boundary { s.take command with
        registry := registry, log := .acknowledged command.serial :: (s.take command).log } := by
    intro registry hheld hclosed
    refine ⟨hheld, h.current, ?_, ?_, fun _ => ?_, fun _ => hclosed, ?_⟩
    · rw [hgate]
      exact h.subscribed
    · rw [hgate]
      exact hout.symm
    · rw [hgate]
    · show Serves _ (wanted (s.take command).log)
      rw [hwanted]
      have hserves := h.serves
      cases hw : wanted s.log with
      | none =>
        rw [hw] at hserves
        exact ⟨hserves.1, (congrArg CaptureHubGateState.deferred hgate).trans hserves.2⟩
      | some payload =>
        rw [hw] at hserves
        rcases hserves with ⟨hnone, hdeferred, _, hpayload⟩ | ⟨hcarries, hdeferred⟩
        · exact .inl ⟨hnone, (congrArg CaptureHubGateState.deferred hgate).trans hdeferred,
            congrArg CaptureHubGateState.leased hgate, hdesired.trans hpayload⟩
        · exact .inr ⟨hcarries.of_held hheld rfl rfl rfl,
            (congrArg CaptureHubGateState.deferred hgate).trans hdeferred⟩
  cases hs : s.subscription with
  | none =>
    have hstages : (stepCaptureHubGate s.gate command.op).stages = [.acknowledgeRelease] := by
      simp [hop, stepCaptureHubGate, CaptureHubGateAction.stages, h.subscribed, hs]
    have hheld := h.held
    rw [hstages]
    refine ⟨h.take_safe, fun opens => hdone s.registry hheld ?_⟩
    rw [hs] at hheld
    exact closed_of_held_none hheld
  | some subscription =>
    have hstages : (stepCaptureHubGate s.gate command.op).stages =
        [.releaseLease, .acknowledgeRelease] := by
      simp [hop, stepCaptureHubGate, CaptureHubGateAction.stages, h.subscribed, hs]
    have hheld := h.held
    rw [hs] at hheld
    obtain ⟨hheld', hclosed⟩ := hheld.requestLease
    have hkey : s.registry.requestLease s.currentKey = s.registry.requestLease subscription.key := by
      rw [h.current subscription hs]
    rw [hstages]
    refine ⟨h.take_safe, fun _ => ⟨fun _ => ?_, fun opens => ?_⟩⟩
    · show NoProducer (s.registry.requestLease s.currentKey)
      rw [hkey]
      exact hheld'.noProducer hclosed
    · show Boundary { s.take command with
        registry := s.registry.requestLease s.currentKey
        log := .acknowledged command.serial :: (s.take command).log }
      rw [hkey]
      exact hdone _ (hs ▸ hheld') hclosed

/-- A lease return opens what was given up, or what has waited. -/
theorem ready_leaseReturn (h : s.Boundary) (hop : command.op = .leaseReturn) :
    Ready command.serial (stepCaptureHubGate s.gate command.op).stages (s.take command) := by
  have hwanted : wanted (s.take command).log = wanted s.log := by
    simp [Pump.take, wanted, hop]
  have hout : leaseOut (s.take command).log = false := by
    simp [Pump.take, leaseOut, hop]
  have hack : Services.acknowledged (s.take command).log = false := by
    simp [Pump.take, Services.acknowledged, hop]
  have hdesired : (s.take command).desired = s.desired := by simp [Pump.take, hop]
  have hserves := h.serves
  cases hs : s.subscription with
  | none =>
    have hheld := h.held
    rw [hs] at hheld
    cases hdeferred : s.gate.deferred with
    | false =>
      have hstages : (stepCaptureHubGate s.gate command.op).stages = [] := by
        simp [hop, stepCaptureHubGate, CaptureHubGateAction.stages, h.subscribed, hs, hdeferred]
      have hgate : (s.take command).gate = { s.gate with leased := false } := by
        simp [Pump.take, hop, stepCaptureHubGate, h.subscribed, hs, hdeferred]
      rw [hstages]
      refine ⟨h.held, h.current, ?_, ?_, fun hack' => ?_, fun _ => closed_of_held_none hheld, ?_⟩
      · rw [hgate]
        exact h.subscribed
      · rw [hgate]
        exact hout.symm
      · exact absurd (hack.symm.trans hack') Bool.noConfusion
      · rw [hwanted]
        cases hw : wanted s.log with
        | none => exact ⟨hs, (congrArg CaptureHubGateState.deferred hgate).trans hdeferred⟩
        | some payload =>
          rw [hw] at hserves
          rcases hserves with ⟨_, hwaits, _⟩ | ⟨hcarries, _⟩
          · exact absurd (hdeferred.symm.trans hwaits) Bool.noConfusion
          · obtain ⟨token, hub, hsub, _⟩ := hcarries.live
            exact nomatch hs.symm.trans hsub
    | true =>
      have hstages : (stepCaptureHubGate s.gate command.op).stages = [.applySubscription] := by
        simp [hop, stepCaptureHubGate, CaptureHubGateAction.stages, h.subscribed, hs, hdeferred]
      have hgate : (s.take command).gate =
          { s.gate with leased := false, subscribed := true, deferred := false } := by
        simp [Pump.take, hop, stepCaptureHubGate, h.subscribed, hs, hdeferred]
      rw [hstages]
      refine ⟨h.take_safe, fun opens => ?_⟩
      obtain ⟨hheld', hcarries⟩ := perform_applySubscription command.serial opens
        (s := s.take command) hheld
      refine ⟨hheld', ?_, ?_, ?_, ?_, ?_, ?_⟩
      · intro subscription hsub
        rw [← Option.some.inj hsub]
        rfl
      · exact congrArg CaptureHubGateState.subscribed hgate
      · exact (congrArg CaptureHubGateState.leased hgate).trans hout.symm
      · intro hack'
        exact absurd (hack.symm.trans hack') Bool.noConfusion
      · intro hleased
        exact absurd ((congrArg CaptureHubGateState.leased hgate).symm.trans hleased) Bool.noConfusion
      · show Serves _ (wanted (s.take command).log)
        rw [hwanted]
        cases hw : wanted s.log with
        | none =>
          rw [hw] at hserves
          exact absurd (hserves.2.symm.trans hdeferred) Bool.noConfusion
        | some payload =>
          rw [hw] at hserves
          rcases hserves with ⟨_, _, _, hpayload⟩ | ⟨_, hnot⟩
          · rw [← hpayload, ← hdesired]
            exact .inr ⟨hcarries, congrArg CaptureHubGateState.deferred hgate⟩
          · exact absurd (hnot.symm.trans hdeferred) Bool.noConfusion
  | some subscription =>
    have hstages : (stepCaptureHubGate s.gate command.op).stages = [.returnLease] := by
      simp [hop, stepCaptureHubGate, CaptureHubGateAction.stages, h.subscribed, hs]
    have hgate : (s.take command).gate = { s.gate with leased := false } := by
      simp [Pump.take, hop, stepCaptureHubGate, h.subscribed, hs]
    have hheld := h.held
    rw [hs] at hheld
    rw [hstages]
    refine ⟨h.take_safe, fun opens => ?_⟩
    have hheld' : Held (s.registry.returnLease opens s.currentKey) s.subscription := by
      rw [hs, ← h.current subscription hs]
      exact hheld.returnLease opens
    refine ⟨hheld', h.current, ?_, ?_, ?_, ?_, ?_⟩
    · exact (congrArg CaptureHubGateState.subscribed hgate).trans h.subscribed
    · exact (congrArg CaptureHubGateState.leased hgate).trans hout.symm
    · intro hack'
      exact absurd (hack.symm.trans hack') Bool.noConfusion
    · intro hleased
      exact absurd ((congrArg CaptureHubGateState.leased hgate).symm.trans hleased) Bool.noConfusion
    · show Serves _ (wanted (s.take command).log)
      rw [hwanted]
      cases hw : wanted s.log with
      | none =>
        rw [hw] at hserves
        exact nomatch hs.symm.trans hserves.1
      | some payload =>
        rw [hw] at hserves
        rcases hserves with ⟨hnone, _⟩ | ⟨hcarries, hdeferred⟩
        · exact nomatch hs.symm.trans hnone
        · exact .inr ⟨hcarries.of_held hheld' rfl rfl rfl,
            (congrArg CaptureHubGateState.deferred hgate).trans hdeferred⟩

/-- Every command leads from boundary to boundary. -/
theorem Boundary.ready (h : s.Boundary) :
    Ready command.serial (stepCaptureHubGate s.gate command.op).stages (s.take command) := by
  cases hop : command.op with
  | subscribe => exact hop ▸ ready_subscribe h hop
  | unsubscribe => exact hop ▸ ready_unsubscribe h hop
  | leaseRequest => exact hop ▸ ready_leaseRequest h hop
  | leaseReturn => exact hop ▸ ready_leaseReturn h hop

/-- Pumping the hubs leaves a boundary. -/
theorem Boundary.pumpAll (h : s.Boundary) (opens : CaptureSourceKey → Bool)
    (polls : CaptureSourceKey → ProducerPoll) :
    Boundary { s with registry := s.registry.pumpAll opens polls } := by
  have hheld := h.held.pumpAll opens polls
  refine ⟨hheld, h.current, h.subscribed, h.leased, h.acknowledged,
    fun hleased => (h.closed hleased).pumpAll opens polls, ?_⟩
  have hserves := h.serves
  show Serves _ (wanted s.log)
  cases hw : wanted s.log with
  | none =>
    rw [hw] at hserves
    exact hserves
  | some payload =>
    rw [hw] at hserves
    rcases hserves with hwaits | ⟨hcarries, hdeferred⟩
    · exact .inl hwaits
    · exact .inr ⟨hcarries.of_held hheld rfl rfl rfl, hdeferred⟩

end Pump

/-! ## Runs -/

/-- A lease request with this serial went through the gate. -/
def Requested (log : List (Happening σ φ)) (serial : Nat) : Prop :=
  ∃ command, .applied command ∈ log ∧ command.op = .leaseRequest ∧ command.serial = serial

theorem Requested.mono {log log' : List (Happening σ φ)} {serial : Nat} (h : Requested log serial)
    (hlog : ∀ happening ∈ log, happening ∈ log') : Requested log' serial := by
  obtain ⟨command, hmem, hop, hserial⟩ := h
  exact ⟨command, hlog _ hmem, hop, hserial⟩

namespace Service

/-- How the pump thread stands, by its phase. -/
def PumpSound (pump : Pump σ φ) : PumpPhase σ φ → Prop
  | .top | .drained _ => pump.Boundary
  | .applying serial stages _ => pump.Ready serial stages ∧
      (.acknowledgeRelease ∈ stages → Requested pump.log serial)
  | .exited => NoProducer pump.registry

structure Invariant (s : Service σ φ) : Prop where
  pump : PumpSound s.pump s.phase
  released : s.commands.leaseReleasedSerial = 0 ∨ Requested s.pump.log s.commands.leaseReleasedSerial

theorem invariant_init : ({} : Service σ φ).Invariant := ⟨Pump.boundary_init, .inl rfl⟩

variable {s s' : Service σ φ}

theorem acknowledge_mem_stages {action : CaptureHubGateAction}
    (h : .acknowledgeRelease ∈ action.stages) : action.acknowledgeRelease = true := by
  unfold CaptureHubGateAction.stages at h
  cases hack : action.acknowledgeRelease with
  | true => rfl
  | false =>
    rw [hack] at h
    cases action.dropSubscription <;> cases action.releaseLease <;> cases action.returnLease <;>
      cases action.applySubscription <;> simp at h

/-- Only a lease request acknowledges. -/
theorem requested_of_stages {pump : Pump σ φ} {command : Entry (SubscribePayload σ φ)}
    (h : .acknowledgeRelease ∈ (stepCaptureHubGate pump.gate command.op).stages) :
    Requested (pump.take command).log command.serial := by
  refine ⟨command, List.mem_cons_self, ?_, rfl⟩
  have hack := acknowledge_mem_stages h
  revert hack
  cases command.op with
  | leaseRequest => exact fun _ => rfl
  | unsubscribe => exact fun hack => nomatch hack
  | subscribe =>
    unfold stepCaptureHubGate
    dsimp only
    split
    · exact fun hack => nomatch hack
    · exact fun hack => nomatch hack
  | leaseReturn =>
    unfold stepCaptureHubGate
    dsimp only
    split_ifs
    · exact fun hack => nomatch hack
    · exact fun hack => nomatch hack
    · exact fun hack => nomatch hack

theorem perform_log {pump : Pump σ φ} {serial : Nat} {opens : Bool} {stage : Stage} :
    ∀ happening ∈ pump.log, happening ∈ (pump.perform serial opens stage).log := by
  intro happening h
  cases stage with
  | dropSubscription =>
    show happening ∈ pump.reset.log
    unfold Pump.reset
    split
    · exact h
    · exact h
  | releaseLease => exact h
  | returnLease => exact h
  | applySubscription => exact h
  | acknowledgeRelease => exact List.mem_cons_of_mem _ h

theorem Invariant.stage {serial : Nat} {opens : Bool} {stage : Stage} {stages : List Stage}
    {batch : List (Entry (SubscribePayload σ φ))} (h : s.Invariant)
    (hphase : s.phase = .applying serial (stage :: stages) batch) :
    Invariant { s.performStage serial opens stage with phase := .applying serial stages batch } := by
  have hpump := h.pump
  rw [hphase] at hpump
  obtain ⟨hready, hrequested⟩ := hpump
  refine ⟨⟨hready.2 opens, fun hmem => ?_⟩, ?_⟩
  · exact (hrequested (List.mem_cons_of_mem _ hmem)).mono perform_log
  · unfold performStage
    dsimp only
    by_cases hstage : stage = .acknowledgeRelease
    · rw [if_pos hstage]
      have hthis : Requested (s.pump.perform serial opens stage).log serial :=
        (hrequested (hstage ▸ List.mem_cons_self)).mono perform_log
      unfold CaptureHubCommandQueue.publishLeaseRelease
      dsimp only
      rcases Nat.le_total serial s.commands.leaseReleasedSerial with hle | hle
      · rw [Nat.max_eq_left hle]
        exact h.released.imp id fun hreleased => hreleased.mono perform_log
      · rw [Nat.max_eq_right hle]
        exact .inr hthis
    · rw [if_neg hstage]
      exact h.released.imp id fun hreleased => hreleased.mono perform_log

theorem Invariant.step {event : ServiceEvent σ φ} (h : s.Invariant) (hs : s.step event = some s') :
    s'.Invariant := by
  have hpump := h.pump
  cases event with
  | post op payload =>
    obtain rfl := Option.some.inj hs
    exact ⟨h.pump, h.released⟩
  | requestStop =>
    obtain rfl := Option.some.inj hs
    exact ⟨h.pump, h.released⟩
  | shutdown =>
    obtain rfl := Option.some.inj hs
    exact ⟨h.pump, h.released⟩
  | drain =>
    unfold Service.step at hs
    dsimp only at hs
    split at hs
    case h_1 hphase =>
      rw [hphase] at hpump
      split at hs
      · exact nomatch hs
      · obtain rfl := Option.some.inj hs
        exact ⟨hpump, h.released⟩
    case h_2 => exact nomatch hs
  | begin =>
    unfold Service.step at hs
    dsimp only at hs
    split at hs
    case h_1 batch hphase =>
      rw [hphase] at hpump
      split at hs
      · exact nomatch hs
      · obtain rfl := Option.some.inj hs
        exact ⟨⟨hpump, fun hmem => nomatch hmem⟩, h.released⟩
    case h_2 => exact nomatch hs
  | command =>
    unfold Service.step at hs
    dsimp only at hs
    split at hs
    case h_1 serial command batch hphase =>
      rw [hphase] at hpump
      obtain rfl := Option.some.inj hs
      refine ⟨⟨Pump.Boundary.ready hpump.1, requested_of_stages⟩, ?_⟩
      exact h.released.imp id fun hreleased => hreleased.mono fun _ hmem => List.mem_cons_of_mem _ hmem
    case h_2 => exact nomatch hs
  | stage opens =>
    unfold Service.step at hs
    dsimp only at hs
    split at hs
    case h_1 serial stage stages batch hphase =>
      obtain rfl := Option.some.inj hs
      exact h.stage hphase
    case h_2 => exact nomatch hs
  | cadence pumps opens polls =>
    unfold Service.step at hs
    dsimp only at hs
    split at hs
    case h_1 serial hphase =>
      rw [hphase] at hpump
      have hboundary : s.pump.Boundary := hpump.1
      obtain rfl := Option.some.inj hs
      cases pumps with
      | false => exact ⟨hboundary, h.released⟩
      | true => exact ⟨hboundary.pumpAll opens polls, h.released⟩
    case h_2 => exact nomatch hs
  | exit =>
    have hexit : ∀ {pump : Pump σ φ}, pump.Boundary → NoProducer pump.reset.registry ∧
        pump.reset.log = pump.log := by
      intro pump hboundary
      obtain ⟨registry, hnone, hreset⟩ := Pump.reset_held hboundary.held
      rw [hreset]
      exact ⟨Pump.noProducer_of_held_none hnone, rfl⟩
    unfold Service.step at hs
    dsimp only at hs
    split at hs
    case isFalse => exact nomatch hs
    case isTrue =>
    split at hs
    case h_1 hphase =>
      rw [hphase] at hpump
      obtain ⟨hnone, hlog⟩ := hexit hpump
      obtain rfl := Option.some.inj hs
      exact ⟨hnone, by rw [hlog]; exact h.released⟩
    case h_2 batch hphase =>
      rw [hphase] at hpump
      obtain ⟨hnone, hlog⟩ := hexit hpump
      obtain rfl := Option.some.inj hs
      exact ⟨hnone, by rw [hlog]; exact h.released⟩
    case h_3 => exact nomatch hs

theorem Invariant.safe (h : s.Invariant) : s.pump.Safe := by
  have hpump := h.pump
  cases hphase : s.phase with
  | top =>
    rw [hphase] at hpump
    exact Pump.Boundary.safe hpump
  | drained batch =>
    rw [hphase] at hpump
    exact Pump.Boundary.safe hpump
  | applying serial stages batch =>
    rw [hphase] at hpump
    exact hpump.1.safe
  | exited =>
    rw [hphase] at hpump
    exact fun _ => hpump

theorem Invariant.boundary (h : s.Invariant) (hsettled : s.Settled) : s.pump.Boundary := by
  have hpump := h.pump
  unfold Settled at hsettled
  split at hsettled
  case h_1 hphase =>
    rw [hphase] at hpump
    exact hpump
  case h_2 hphase =>
    rw [hphase] at hpump
    exact hpump
  case h_3 hphase =>
    rw [hphase] at hpump
    exact hpump.1
  case h_4 => exact hsettled.elim

end Service

/-- In every interleaving: under an acknowledged lease no producer is open, a wait for a release ends
    on a lease request that was applied, and without a lease the last subscription is live. -/
theorem capture_hub_exclusion (events : List (ServiceEvent σ φ)) (s : Service σ φ)
    (h : StepRun.exec Service.step {} events = some s) :
    (acknowledged s.pump.log = true → NoProducer s.pump.registry) ∧
    (∀ serial, 0 < serial → s.commands.waitForLeaseRelease serial = true →
      ∃ command, .applied command ∈ s.pump.log ∧ command.op = .leaseRequest ∧
        serial ≤ command.serial) ∧
    (s.Settled → leaseOut s.pump.log = false →
      s.pump.subscription.isSome = (wanted s.pump.log).isSome ∧
        ∀ payload, wanted s.pump.log = some payload → s.pump.Carries payload) := by
  have hinv : s.Invariant :=
    StepRun.exec_invariant_all (fun _ _ _ hI hs => Service.Invariant.step hI hs) Service.invariant_init h
  refine ⟨hinv.safe, fun serial hserial hwait => ?_, fun hsettled hout => ?_⟩
  · have hle : serial ≤ s.commands.leaseReleasedSerial := of_decide_eq_true hwait
    rcases hinv.released with hzero | ⟨command, hmem, hop, hreleased⟩
    · omega
    · exact ⟨command, hmem, hop, by omega⟩
  · have hboundary := hinv.boundary hsettled
    have hserves := hboundary.serves
    cases hw : wanted s.pump.log with
    | none =>
      rw [hw] at hserves
      exact ⟨by rw [hserves.1]; rfl, fun payload hp => nomatch hp⟩
    | some payload =>
      rw [hw] at hserves
      rcases hserves with ⟨_, _, hleased, _⟩ | ⟨hcarries, _⟩
      · exact absurd (hout.symm.trans (hboundary.leased.symm.trans hleased)) Bool.noConfusion
      · obtain ⟨token, hub, hsub, _⟩ := hcarries.live
        refine ⟨by rw [hsub]; rfl, fun p hp => ?_⟩
        exact Option.some.inj hp ▸ hcarries

/-- A subscription is posted under the lease, and served after its return. -/
def deferredEvents : List (ServiceEvent Unit Unit) :=
  [.post .leaseRequest {}, .post .subscribe { deviceName := "DISPLAY1", sink := some () }, .drain,
    .begin, .command, .stage true, .command, .stage true, .post .leaseReturn {},
    .cadence true (fun _ => true) (fun _ => .frame), .drain, .begin, .command, .stage true]

def deferredService : Service Unit Unit := (StepRun.exec Service.step {} deferredEvents).getD {}

theorem capture_hub_exclusion_deferred :
    deferredService.Settled ∧ leaseOut deferredService.pump.log = false ∧
      deferredService.pump.subscription.isSome = true ∧
      ∀ payload, wanted deferredService.pump.log = some payload →
        deferredService.pump.Carries payload := by
  obtain ⟨hlive, hcarries⟩ :=
    (capture_hub_exclusion deferredEvents deferredService rfl).2.2 trivial rfl
  exact ⟨trivial, rfl, hlive, hcarries⟩

end Exosnap.Services
