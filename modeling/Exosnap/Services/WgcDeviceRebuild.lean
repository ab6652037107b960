/-
  The pump thread of the WGC hub service (`WgcCaptureHubService::WorkerProc`), with the rebuilding
  of a capture device that was lost (`device_generation.h`).

  One iteration of the loop is one step: the commands drained, the pump of the hubs when the rate
  lets it, and the look at the source. What producers answer, the clock (in nanoseconds) and whether
  a device can be created are inputs. Frames, their sinks and the publisher of the shared texture are
  left out. The log keeps the lines about the device, newest first.

  A loss is answered at every look (`Pursued`) unless an attempt fails: it drops the subscription
  that the next one is made for.
-/
import Exosnap.Services.CaptureHubService
import Mathlib.Algebra.Order.Ring.Int

namespace Exosnap.Services.Wgc

/-! ## The policy of the rebuilds -/

inductive DeviceRebuildStep where
  | rebuild
  | waitRetry
  | giveUp
  deriving DecidableEq, Repr

structure DeviceRebuildPolicy where
  maxAttempts : Nat := 4
  retryIntervalMs : Nat := 500

def nextDeviceRebuildStep (attemptsMade msSinceLastAttempt : Nat) (policy : DeviceRebuildPolicy) :
    DeviceRebuildStep :=
  if attemptsMade ≥ policy.maxAttempts then .giveUp
  else if attemptsMade > 0 ∧ msSinceLastAttempt < policy.retryIntervalMs then .waitRetry
  else .rebuild

def kRebuildPolicy : DeviceRebuildPolicy := {}

/-- `duration_cast` to milliseconds, as a `uint64_t`. -/
def millisecondsSince (last now : Int) : Nat := (((now - last).tdiv 1000000) % 2 ^ 64).toNat

/-- The step at a reading of the clock, with so many attempts made. -/
def rebuildStep (attempts : Nat) (last now : Int) : DeviceRebuildStep :=
  nextDeviceRebuildStep attempts (if attempts = 0 then 0 else millisecondsSince last now)
    kRebuildPolicy

/-! ## The pump thread -/

inductive DeviceReport where
  /-- "capture device was replaced; rebuilt the producer (attempt %1)" -/
  | replaced (attempt : Nat)
  /-- "capture device is gone and a replacement could not be created (attempt %1)" -/
  | notCreated (attempt : Nat)
  /-- "giving up on the capture device after %1 attempts; …" -/
  | givingUp (attempts : Nat)
  deriving DecidableEq, Repr

structure Pump where
  /-- The generation of the device, unless there is none. -/
  device : Option Nat
  registry : CaptureHubRegistry := fun _ => none
  subscription : Option CaptureSubscription := none
  currentKey : CaptureSourceKey := {}
  gate : CaptureHubGateState := {}
  desired : CaptureSourceKey := {}
  rebuildAttempts : Nat := 0
  rebuildExhausted : Bool := false
  lastRebuildAttempt : Int
  log : List DeviceReport := []

/-- A command, with what a producer answers that it makes a hub open. -/
structure Command where
  op : CaptureHubOp
  key : CaptureSourceKey := {}
  opens : Bool := true

/-- What an iteration meets after its commands. -/
structure Tick where
  pumps : Bool
  opens : CaptureSourceKey → Bool
  polls : CaptureSourceKey → ProducerPoll
  now : Int
  /-- The generation of the device that `createDevice` would create. -/
  replacement : Option Nat
  /-- What a producer on that device answers when it is opened. -/
  reopens : Bool

structure Iteration where
  batch : List Command
  tick : Tick

namespace Pump

/-- `subscription.Reset()` -/
def reset (s : Pump) : Pump :=
  match s.subscription with
  | none => s
  | some subscription =>
      { s with registry := s.registry.unsubscribe subscription, subscription := none }

/-- `subscription = registry.Subscribe(current_key, …)` -/
def subscribe (opens : Bool) (s : Pump) : Pump :=
  let (registry, subscription) := s.registry.subscribe opens s.currentKey
  -- the assignment ends what was held before
  { { s with registry := registry }.reset with subscription := some subscription }

def sourceLost (s : Pump) : Bool :=
  match s.subscription with
  | none => false
  | some subscription => ((s.registry subscription.key).map (·.state.lost)).getD false

/-- A stage of a command's action. -/
def perform (opens : Bool) (s : Pump) : Stage → Pump
  | .dropSubscription => { s.reset with currentKey := {} }
  | .releaseLease => { s with registry := s.registry.requestLease s.currentKey }
  | .returnLease => { s with registry := s.registry.returnLease opens s.currentKey }
  | .applySubscription =>
      { s with
        rebuildAttempts := 0
        rebuildExhausted := false
        currentKey := s.desired }.subscribe opens
  | .acknowledgeRelease => s

def command (s : Pump) (c : Command) : Pump :=
  let action := stepCaptureHubGate s.gate c.op
  action.stages.foldl (perform c.opens)
    { s with gate := action.next, desired := if c.op = .subscribe then c.key else s.desired }

/-- The pump of the hubs. -/
def pumpAll (t : Tick) (s : Pump) : Pump :=
  if t.pumps then { s with registry := s.registry.pumpAll t.opens t.polls } else s

/-- What is done about a source that is lost, or live again. -/
def attend (t : Tick) (s : Pump) : Pump :=
  if s.sourceLost then
    match rebuildStep s.rebuildAttempts s.lastRebuildAttempt t.now with
    | .rebuild =>
        let s := { s.reset with
          rebuildAttempts := s.rebuildAttempts + 1
          lastRebuildAttempt := t.now
          device := none }
        match t.replacement with
        | some generation =>
            let s := { s with device := some generation }.subscribe t.reopens
            { s with log := .replaced s.rebuildAttempts :: s.log }
        | none => { s with log := .notCreated s.rebuildAttempts :: s.log }
    | .giveUp =>
        if s.rebuildExhausted then s
        else { s.reset with
          rebuildExhausted := true
          log := .givingUp s.rebuildAttempts :: s.log }
    | .waitRetry => s
  else if s.subscription.isSome && s.rebuildAttempts != 0 then
    { s with rebuildAttempts := 0, rebuildExhausted := false }
  else s

/-- The state of an iteration when it comes to look at the source. -/
def look (s : Pump) (i : Iteration) : Pump := (i.batch.foldl command s).pumpAll i.tick

def iterate (s : Pump) (i : Iteration) : Pump := (s.look i).attend i.tick

def run (s : Pump) (iterations : List Iteration) : Pump := iterations.foldl iterate s

/-- No command has arrived. -/
def runQuiet (s : Pump) (ticks : List Tick) : Pump := s.run (ticks.map (⟨[], ·⟩))

/-- The thread enters its loop with a device. -/
def start (generation : Nat) (now : Int) : Pump where
  device := some generation
  lastRebuildAttempt := now

/-! ## What a lost device is owed -/

/-- A source that is there and not lost. -/
def live (s : Pump) : Bool := s.subscription.isSome && !s.sourceLost

/-- What a look at the source does while the loss is not over: nothing before the next attempt is
    due, then an attempt, after which, unless it succeeds, it goes on; and no attempts being left,
    one report, and none ever after. -/
def Answers (s : Pump) (t : Tick) (goesOn : Prop) : Prop :=
  match rebuildStep s.rebuildAttempts s.lastRebuildAttempt t.now with
  | .waitRetry => (s.attend t).log = s.log ∧ goesOn
  | .rebuild => (s.attend t).log = .replaced (s.rebuildAttempts + 1) :: s.log ∨
      ((s.attend t).log = .notCreated (s.rebuildAttempts + 1) :: s.log ∧ goesOn)
  | .giveUp => (s.attend t).log = .givingUp s.rebuildAttempts :: s.log ∧
      ∀ later, ((s.attend t).runQuiet later).log = (s.attend t).log

/-- The loss is answered at every look until it is over. -/
def Pursued (s : Pump) (t : Tick) : List Tick → Prop
  | [] => s.Answers t True
  | next :: quiet =>
      let looked := (s.attend t).pumpAll next
      s.Answers t (looked.live = true ∨ looked.Pursued next quiet)

/-- The look at which the first attempt is made for a loss, and the ticks behind it. Up to there the
    hubs are pumped only. -/
def firstAttempt (s : Pump) (t : Tick) (quiet : List Tick) : Option (Tick × List Tick) :=
  match rebuildStep s.rebuildAttempts s.lastRebuildAttempt t.now with
  | .rebuild => some (t, quiet)
  | .giveUp => none
  | .waitRetry =>
      match quiet with
      | [] => none
      | next :: quiet =>
          if (s.pumpAll next).live then none else (s.pumpAll next).firstAttempt next quiet

/-! ## A pump that holds no subscription -/

@[simp] theorem pumpAll_subscription (t : Tick) (s : Pump) :
    (s.pumpAll t).subscription = s.subscription := by
  rw [pumpAll]
  split_ifs <;> rfl

@[simp] theorem pumpAll_attempts (t : Tick) (s : Pump) :
    (s.pumpAll t).rebuildAttempts = s.rebuildAttempts := by
  rw [pumpAll]
  split_ifs <;> rfl

@[simp] theorem pumpAll_last (t : Tick) (s : Pump) :
    (s.pumpAll t).lastRebuildAttempt = s.lastRebuildAttempt := by
  rw [pumpAll]
  split_ifs <;> rfl

@[simp] theorem pumpAll_exhausted (t : Tick) (s : Pump) :
    (s.pumpAll t).rebuildExhausted = s.rebuildExhausted := by
  rw [pumpAll]
  split_ifs <;> rfl

@[simp] theorem pumpAll_log (t : Tick) (s : Pump) : (s.pumpAll t).log = s.log := by
  rw [pumpAll]
  split_ifs <;> rfl

@[simp] theorem reset_subscription (s : Pump) : s.reset.subscription = none := by
  unfold reset
  split <;> simp_all

@[simp] theorem reset_log (s : Pump) : s.reset.log = s.log := by
  unfold reset
  split <;> rfl

@[simp] theorem reset_exhausted (s : Pump) : s.reset.rebuildExhausted = s.rebuildExhausted := by
  unfold reset
  split <;> rfl

theorem attend_of_none {s : Pump} (h : s.subscription = none) (t : Tick) : s.attend t = s := by
  have hlost : s.sourceLost = false := by rw [sourceLost, h]
  rw [attend, hlost, h]
  rfl

theorem runQuiet_of_none {s : Pump} (h : s.subscription = none) (ticks : List Tick) :
    (s.runQuiet ticks).log = s.log := by
  induction ticks generalizing s with
  | nil => rfl
  | cons t ticks ih =>
      have hlook : (s.pumpAll t).subscription = none := by rw [pumpAll_subscription, h]
      have hstep : s.iterate ⟨[], t⟩ = s.pumpAll t := attend_of_none hlook t
      change ((s.iterate ⟨[], t⟩).runQuiet ticks).log = s.log
      rw [hstep, ih hlook, pumpAll_log]

theorem answers_of_none {s : Pump} (h : s.subscription = none) (t : Tick) (goesOn : Prop) :
    s.Answers t goesOn ↔
      rebuildStep s.rebuildAttempts s.lastRebuildAttempt t.now = .waitRetry ∧ goesOn := by
  rw [Answers, attend_of_none h]
  cases rebuildStep s.rebuildAttempts s.lastRebuildAttempt t.now with
  | rebuild => simp
  | waitRetry => simp
  | giveUp => simp

/-- Without a subscription no attempt is made, so none may be due. -/
theorem pursued_of_none {s : Pump} (h : s.subscription = none) (t : Tick) (quiet : List Tick) :
    s.Pursued t quiet ↔
      ∀ j ∈ t :: quiet, rebuildStep s.rebuildAttempts s.lastRebuildAttempt j.now = .waitRetry := by
  induction quiet generalizing s t with
  | nil => rw [Pursued, answers_of_none h, List.forall_mem_singleton, and_true]
  | cons next quiet ih =>
      have hlook : (s.pumpAll next).subscription = none := by rw [pumpAll_subscription, h]
      have hdead : ¬ (s.pumpAll next).live = true := by
        rw [live, hlook]
        exact Bool.false_ne_true
      rw [Pursued, answers_of_none h, attend_of_none h, or_iff_right hdead, ih hlook,
        pumpAll_attempts, pumpAll_last]
      simp only [List.mem_cons, forall_eq_or_imp]

/-! ## A loss -/

theorem subscription_of_lost {s : Pump} (h : s.sourceLost = true) :
    s.subscription.isSome = true := by
  cases hs : s.subscription with
  | none =>
      rw [sourceLost, hs] at h
      exact absurd h Bool.false_ne_true
  | some subscription => rfl

theorem lost_of_not_live {s : Pump} (h : s.subscription.isSome = true) (hlive : ¬ s.live = true) :
    s.sourceLost = true := by
  rw [live, h, Bool.true_and, Bool.not_eq_true', Bool.not_eq_false] at hlive
  exact hlive

/-- After a failed attempt there is no subscription. -/
theorem attend_notCreated {s : Pump} {t : Tick} (hlost : s.sourceLost = true)
    (hstep : rebuildStep s.rebuildAttempts s.lastRebuildAttempt t.now = .rebuild)
    (hfailed : t.replacement = none) :
    (s.attend t).subscription = none ∧ (s.attend t).rebuildAttempts = s.rebuildAttempts + 1 ∧
      (s.attend t).lastRebuildAttempt = t.now ∧
      (s.attend t).log = .notCreated (s.rebuildAttempts + 1) :: s.log := by
  rw [attend, if_pos hlost, hstep, hfailed]
  exact ⟨s.reset_subscription, rfl, rfl, congrArg _ s.reset_log⟩

theorem subscribe_log (opens : Bool) (s : Pump) : (s.subscribe opens).log = s.log := by
  unfold subscribe
  exact reset_log _

theorem subscribe_attempts (opens : Bool) (s : Pump) :
    (s.subscribe opens).rebuildAttempts = s.rebuildAttempts := by
  unfold subscribe reset
  dsimp only
  split <;> rfl

theorem attend_replaced {s : Pump} {t : Tick} {generation : Nat} (hlost : s.sourceLost = true)
    (hstep : rebuildStep s.rebuildAttempts s.lastRebuildAttempt t.now = .rebuild)
    (hcreated : t.replacement = some generation) :
    (s.attend t).log = .replaced (s.rebuildAttempts + 1) :: s.log := by
  rw [attend, if_pos hlost, hstep, hcreated]
  dsimp only
  rw [subscribe_log, subscribe_attempts]
  exact congrArg _ s.reset_log

theorem attend_givingUp {s : Pump} {t : Tick} (hlost : s.sourceLost = true)
    (hstep : rebuildStep s.rebuildAttempts s.lastRebuildAttempt t.now = .giveUp)
    (hfresh : s.rebuildExhausted = false) :
    (s.attend t).subscription = none ∧
      (s.attend t).log = .givingUp s.rebuildAttempts :: s.log := by
  rw [attend, if_pos hlost, hstep, hfresh]
  exact ⟨s.reset_subscription, rfl⟩

theorem attend_waitRetry {s : Pump} {t : Tick} (hlost : s.sourceLost = true)
    (hstep : rebuildStep s.rebuildAttempts s.lastRebuildAttempt t.now = .waitRetry) :
    s.attend t = s := by
  rw [attend, if_pos hlost, hstep]

theorem pursued_of_lost {s : Pump} (hlost : s.sourceLost = true)
    (hfresh : s.rebuildExhausted = false) (t : Tick) (quiet : List Tick) :
    s.Pursued t quiet ↔ ∀ first behind, s.firstAttempt t quiet = some (first, behind) →
      first.replacement = none →
        ∀ j ∈ behind, rebuildStep (s.rebuildAttempts + 1) first.now j.now = .waitRetry := by
  induction quiet generalizing s t with
  | nil =>
      rw [Pursued, Answers, firstAttempt]
      cases hstep : rebuildStep s.rebuildAttempts s.lastRebuildAttempt t.now with
      | rebuild =>
          refine iff_of_true ?_ ?_
          · cases hcreated : t.replacement with
            | none => exact .inr ⟨(attend_notCreated hlost hstep hcreated).2.2.2, trivial⟩
            | some generation => exact .inl (attend_replaced hlost hstep hcreated)
          · intro first behind h _ j hj
            obtain ⟨rfl, rfl⟩ := Prod.mk.inj (Option.some.inj h)
            exact absurd hj List.not_mem_nil
      | waitRetry => exact iff_of_true ⟨congrArg _ (attend_waitRetry hlost hstep), trivial⟩ nofun
      | giveUp =>
          obtain ⟨hnone, hlog⟩ := attend_givingUp hlost hstep hfresh
          exact iff_of_true ⟨hlog, runQuiet_of_none hnone⟩ nofun
  | cons next quiet ih =>
      rw [Pursued, Answers, firstAttempt]
      cases hstep : rebuildStep s.rebuildAttempts s.lastRebuildAttempt t.now with
      | rebuild =>
          cases hcreated : t.replacement with
          | none =>
              obtain ⟨hnone, hattempts, hlast, hlog⟩ := attend_notCreated hlost hstep hcreated
              have hlook : ((s.attend t).pumpAll next).subscription = none := by
                rw [pumpAll_subscription, hnone]
              have hdead : ¬ ((s.attend t).pumpAll next).live = true := by
                rw [live, hlook]
                exact Bool.false_ne_true
              have hpursued := pursued_of_none hlook next quiet
              rw [pumpAll_attempts, pumpAll_last, hattempts, hlast] at hpursued
              dsimp only
              rw [hlog, or_iff_right (fun h => nomatch h), eq_self, true_and, or_iff_right hdead,
                hpursued]
              constructor
              · intro hall first behind h _
                obtain ⟨rfl, rfl⟩ := Prod.mk.inj (Option.some.inj h)
                exact hall
              · exact fun hall => hall t (next :: quiet) rfl hcreated
          | some generation =>
              refine iff_of_true (.inl (attend_replaced hlost hstep hcreated)) ?_
              intro first behind h hfailed
              obtain ⟨rfl, rfl⟩ := Prod.mk.inj (Option.some.inj h)
              exact nomatch hcreated.symm.trans hfailed
      | waitRetry =>
          have hkept := attend_waitRetry hlost hstep
          have hsome : (s.pumpAll next).subscription.isSome = true := by
            rw [pumpAll_subscription]
            exact subscription_of_lost hlost
          rw [hkept]
          dsimp only
          by_cases hlive : (s.pumpAll next).live = true
          · rw [if_pos hlive]
            exact iff_of_true ⟨rfl, .inl hlive⟩ nofun
          · rw [if_neg hlive, or_iff_right hlive, eq_self, true_and,
              ih (lost_of_not_live hsome hlive) (by rw [pumpAll_exhausted, hfresh]),
              pumpAll_attempts]
      | giveUp =>
          obtain ⟨hnone, hlog⟩ := attend_givingUp hlost hstep hfresh
          exact iff_of_true ⟨hlog, runQuiet_of_none hnone⟩ nofun

/-! ## Every run -/

/-- Only a pump without a subscription has given up. -/
def Fresh (s : Pump) : Prop := s.subscription.isSome = true → s.rebuildExhausted = false

theorem fresh_of_none {s : Pump} (h : s.subscription = none) : s.Fresh := by
  intro hsome
  rw [h] at hsome
  exact absurd hsome Bool.false_ne_true

theorem subscribe_exhausted (opens : Bool) (s : Pump) :
    (s.subscribe opens).rebuildExhausted = s.rebuildExhausted := by
  unfold subscribe
  exact reset_exhausted _

theorem fresh_perform {opens : Bool} {s : Pump} (h : s.Fresh) (stage : Stage) :
    (s.perform opens stage).Fresh := by
  cases stage with
  | dropSubscription => exact fresh_of_none s.reset_subscription
  | releaseLease => exact h
  | returnLease => exact h
  | applySubscription =>
      intro _
      rw [perform, subscribe_exhausted]
  | acknowledgeRelease => exact h

theorem fresh_command {s : Pump} (h : s.Fresh) (c : Command) : (s.command c).Fresh := by
  rw [command]
  have hstages : ∀ (stages : List Stage) (s : Pump), s.Fresh →
      (stages.foldl (perform c.opens) s).Fresh := by
    intro stages
    induction stages with
    | nil => exact fun _ h => h
    | cons stage stages ih => exact fun s h => ih _ (fresh_perform h stage)
  exact hstages _ _ h

theorem fresh_look {s : Pump} (h : s.Fresh) (i : Iteration) : (s.look i).Fresh := by
  have hcommands : ∀ (batch : List Command) (s : Pump), s.Fresh →
      (batch.foldl command s).Fresh := by
    intro batch
    induction batch with
    | nil => exact fun _ h => h
    | cons c batch ih => exact fun s h => ih _ (fresh_command h c)
  rw [look, Fresh, pumpAll_subscription, pumpAll_exhausted]
  exact hcommands _ _ h

theorem fresh_attend {s : Pump} (h : s.Fresh) (t : Tick) : (s.attend t).Fresh := by
  by_cases hlost : s.sourceLost = true
  · have hfresh := h (subscription_of_lost hlost)
    cases hstep : rebuildStep s.rebuildAttempts s.lastRebuildAttempt t.now with
    | rebuild =>
        cases hcreated : t.replacement with
        | none => exact fresh_of_none (attend_notCreated hlost hstep hcreated).1
        | some generation =>
            intro _
            rw [attend, if_pos hlost, hstep, hcreated]
            dsimp only
            rw [subscribe_exhausted]
            exact s.reset_exhausted.trans hfresh
    | waitRetry => rwa [attend_waitRetry hlost hstep]
    | giveUp => exact fresh_of_none (attend_givingUp hlost hstep hfresh).1
  · rw [attend, if_neg hlost]
    split_ifs
    · exact fun _ => rfl
    · exact h

theorem fresh_run {s : Pump} (h : s.Fresh) (iterations : List Iteration) :
    (s.run iterations).Fresh := by
  induction iterations generalizing s with
  | nil => exact h
  | cons i iterations ih => exact ih (fresh_attend (fresh_look h i) i.tick)

/-- In every run in which the source of a live subscription is found lost, and from then on without
    commands, the loss is answered at every look exactly when the first attempt creates a device, or
    none is due again after it. -/
theorem rebuild_pursued_iff (generation : Nat) (now : Int) (before : List Iteration)
    (i : Iteration) (quiet : List Tick)
    (hlost : (((start generation now).run before).look i).sourceLost = true) :
    (((start generation now).run before).look i).Pursued i.tick quiet ↔
      ∀ first behind,
        (((start generation now).run before).look i).firstAttempt i.tick quiet =
          some (first, behind) → first.replacement = none →
        ∀ j ∈ behind, rebuildStep
          ((((start generation now).run before).look i).rebuildAttempts + 1) first.now j.now =
            .waitRetry := by
  have hstart : (start generation now).Fresh := fresh_of_none rfl
  have hfresh := fresh_look (fresh_run hstart before) i
  exact pursued_of_lost hlost (hfresh (subscription_of_lost hlost)) i.tick quiet

/-- The source is lost in the iteration that subscribes to it, and no device can be had. -/
def lostAtOnce : Iteration where
  batch := [{ op := .subscribe, key := { kind := .monitor, nativeId := 1 } }]
  tick := ⟨true, fun _ => true, fun _ => .fatal, 0, none, true⟩

def halfASecondLater : Tick := ⟨true, fun _ => true, fun _ => .frame, 500000000, some 2, true⟩

theorem rebuild_pursued_lostAtOnce :
    (((start 1 0).run []).look lostAtOnce).Pursued lostAtOnce.tick [halfASecondLater] ↔
      ∀ first behind,
        (((start 1 0).run []).look lostAtOnce).firstAttempt lostAtOnce.tick
          [halfASecondLater] = some (first, behind) → first.replacement = none →
        ∀ j ∈ behind, rebuildStep ((((start 1 0).run []).look lostAtOnce).rebuildAttempts + 1)
          first.now j.now = .waitRetry :=
  rebuild_pursued_iff 1 0 [] lostAtOnce [halfASecondLater] (by decide)

/-- No second attempt is made, half a second after the first has failed. -/
theorem not_pursued_lostAtOnce :
    (((start 1 0).run []).look lostAtOnce).sourceLost = true ∧
      ¬ (((start 1 0).run []).look lostAtOnce).Pursued lostAtOnce.tick [halfASecondLater] := by
  refine ⟨by decide, fun h => ?_⟩
  have hdue : rebuildStep (((start 1 0).run []).look lostAtOnce).rebuildAttempts
      (((start 1 0).run []).look lostAtOnce).lastRebuildAttempt lostAtOnce.tick.now = .rebuild := by
    decide
  rw [Pursued, Answers, hdue] at h
  rcases h with h | ⟨_, h | h⟩
  · exact absurd h (by decide)
  · exact absurd h (by decide)
  · have hagain : rebuildStep
        (((((start 1 0).run []).look lostAtOnce).attend lostAtOnce.tick).pumpAll
          halfASecondLater).rebuildAttempts
        (((((start 1 0).run []).look lostAtOnce).attend lostAtOnce.tick).pumpAll
          halfASecondLater).lastRebuildAttempt halfASecondLater.now = .rebuild := by
      decide
    rw [Pursued, Answers, hagain] at h
    rcases h with h | ⟨h, _⟩
    · exact absurd h (by decide)
    · exact absurd h (by decide)

end Pump

end Exosnap.Services.Wgc
