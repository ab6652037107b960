/-
  The gate between the producers of preview frames and the scene graph
  (`PreviewUpdateScheduler.h`), with the threads that drive it: producers in `ArmWake`
  (`RecordPreviewAdapter.cpp`), the GUI thread that requests updates (`RecordPreviewAdapter.cpp`,
  `ExoPreviewItem.cpp`), and the render thread that takes frames off the transport
  (`ExoPreviewItem.cpp`).

  Each atomic operation is a step, in one order for all threads. The transport is a slot with the
  newest frame, the same one throughout, and its render loop stays active. Any number of producers
  may be under way. A render pass may miss at any time. The window may drop an update, and an adapter
  without a surface requests none. Timings, the counters of metrics and the frame rate that arms the
  timer are left out. `refills`, `spent` and `dropped` are a history that no step reads.
-/
import Exosnap.Lib.StepRun
import Mathlib.Algebra.GroupWithZero.Nat
import Mathlib.Order.Lattice

namespace Exosnap.Preview

def kRetriesPerMiss : Nat := 3

/-- Where the GUI thread is. -/
inductive Gui where
  | idle
  /-- After `DisarmWake`, or when the timer fires. -/
  | requesting
  /-- In `HasUnrenderedPublish`, with the published generation it read. -/
  | reissuing (published : Nat)
  deriving DecidableEq

/-- Where the render pass is. -/
inductive Pass where
  | idle
  | begun (generation : Nat)
  | missed
  | owed
  | taken (generation : Nat)
  | noted
  deriving DecidableEq

structure PreviewUpdateScheduler where
  /-- The transport holds a frame. -/
  slot : Bool := false
  publishedGeneration : Nat := 0
  presentedGeneration : Nat := 0
  retryBudget : Nat := 0
  wakeInFlight : Bool := false
  /-- Producers that have published and not yet counted it, then that have not yet refilled the
      budget, not yet armed the wake-up, and not yet posted the wake-up that they armed. -/
  publishing : Nat := 0
  refilling : Nat := 0
  arming : Nat := 0
  posting : Nat := 0
  wakes : Nat := 0
  retries : Nat := 0
  gui : Gui := .idle
  timer : Bool := false
  update : Bool := false
  pass : Pass := .idle
  /-- A request was lost since the last lifecycle transition. -/
  dropped : Bool := false
  refills : Nat := 0
  spent : Nat := 0
  deriving DecidableEq

inductive PreviewAction where
  | publish
  /-- The steps of `ArmWake`. -/
  | countPublish
  | refillBudget
  | exchangeWake
  | postWake
  /-- The steps of the GUI thread. -/
  | disarmWake
  | requestUpdate
  | deferUpdate
  | timeout
  | withoutSurface
  | handleRetry
  | transition
  | reissue
  /-- The window does not render. -/
  | dropUpdate
  /-- The steps of a render pass. -/
  | beginRenderPass
  | miss
  | take
  | checkDebt
  | spendRetry
  | notePresented
  | refillPresented
  deriving DecidableEq

namespace PreviewUpdateScheduler

def step (s : PreviewUpdateScheduler) : PreviewAction → Option PreviewUpdateScheduler
  | .publish => some { s with slot := true, publishing := s.publishing + 1 }
  | .countPublish =>
      if s.publishing = 0 then none
      else some { s with
        publishing := s.publishing - 1
        publishedGeneration := s.publishedGeneration + 1
        refilling := s.refilling + 1 }
  | .refillBudget =>
      if s.refilling = 0 then none
      else some { s with
        refilling := s.refilling - 1
        retryBudget := kRetriesPerMiss
        arming := s.arming + 1
        refills := s.refills + 1 }
  | .exchangeWake =>
      if s.arming = 0 then none
      else some { s with
        arming := s.arming - 1
        wakeInFlight := true
        posting := if s.wakeInFlight then s.posting else s.posting + 1 }
  | .postWake =>
      if s.posting = 0 then none
      else some { s with posting := s.posting - 1, wakes := s.wakes + 1 }
  | .disarmWake =>
      if s.gui = .idle ∧ s.wakes ≠ 0 then
        some { s with wakes := s.wakes - 1, wakeInFlight := false, gui := .requesting }
      else none
  | .requestUpdate =>
      if s.gui = .requesting then some { s with gui := .idle, timer := false, update := true }
      else none
  | .deferUpdate =>
      if s.gui = .requesting then some { s with gui := .idle, timer := true } else none
  | .timeout =>
      if s.gui = .idle ∧ s.timer = true then some { s with timer := false, gui := .requesting }
      else none
  | .withoutSurface =>
      if s.gui = .requesting then some { s with gui := .idle, dropped := true } else none
  | .handleRetry =>
      if s.gui = .idle ∧ s.retries ≠ 0 then
        some { s with retries := s.retries - 1, gui := .reissuing s.publishedGeneration }
      else none
  | .transition =>
      if s.gui = .idle then
        some { s with gui := .reissuing s.publishedGeneration, dropped := false }
      else none
  | .reissue =>
      match s.gui with
      | .reissuing published =>
          some { s with
            gui := .idle
            update := s.update || decide (s.presentedGeneration < published) }
      | _ => none
  | .dropUpdate => if s.update then some { s with update := false, dropped := true } else none
  | .beginRenderPass =>
      if s.pass = .idle then
        some { s with update := false, pass := .begun s.publishedGeneration }
      else none
  | .miss =>
      match s.pass with
      | .begun _ => some { s with pass := .missed }
      | _ => none
  | .take =>
      match s.pass with
      | .begun generation =>
          if s.slot then some { s with slot := false, pass := .taken generation } else none
      | _ => none
  | .checkDebt =>
      if s.pass = .missed then
        some { s with
          pass := if s.presentedGeneration < s.publishedGeneration then .owed else .idle }
      else none
  | .spendRetry =>
      if s.pass = .owed then
        if s.retryBudget = 0 then some { s with pass := .idle }
        else some { s with
          pass := .idle
          retryBudget := s.retryBudget - 1
          retries := s.retries + 1
          spent := s.spent + 1 }
      else none
  | .notePresented =>
      match s.pass with
      | .taken generation =>
          some { s with
            presentedGeneration := max s.presentedGeneration generation, pass := .noted }
      | _ => none
  | .refillPresented =>
      if s.pass = .noted then
        some { s with retryBudget := kRetriesPerMiss, pass := .idle, refills := s.refills + 1 }
      else none

def exec (s : PreviewUpdateScheduler) (as : List PreviewAction) : Option PreviewUpdateScheduler :=
  StepRun.exec step s as

variable {s s' : PreviewUpdateScheduler} {a : PreviewAction} {as : List PreviewAction}

/-! ## A. The gate -/

/-- One wake-up at most is on its way to the GUI thread, and the flag says whether one is. The
    retries that were asked for are paid by the refills. -/
structure Gated (s : PreviewUpdateScheduler) : Prop where
  wakes : s.posting + s.wakes = if s.wakeInFlight then 1 else 0
  retries : s.spent + s.retryBudget ≤ kRetriesPerMiss * s.refills

theorem Gated.step (h : Gated s) (hstep : s.step a = some s') : Gated s' := by
  obtain ⟨hwakes, hretries⟩ := h
  cases a with
  | publish => cases hstep; exact ⟨hwakes, hretries⟩
  | countPublish =>
      obtain ⟨-, hs⟩ := Option.ite_none_left_eq_some.mp hstep
      cases hs
      exact ⟨hwakes, hretries⟩
  | refillBudget =>
      obtain ⟨-, hs⟩ := Option.ite_none_left_eq_some.mp hstep
      cases hs
      refine ⟨hwakes, ?_⟩
      show s.spent + kRetriesPerMiss ≤ kRetriesPerMiss * (s.refills + 1)
      rw [Nat.mul_succ]
      omega
  | exchangeWake =>
      obtain ⟨-, hs⟩ := Option.ite_none_left_eq_some.mp hstep
      cases hs
      refine ⟨?_, hretries⟩
      cases hflight : s.wakeInFlight with
      | false =>
          rw [hflight] at hwakes
          simp only [Bool.false_eq_true, if_false, if_true] at hwakes ⊢
          omega
      | true =>
          rw [hflight] at hwakes
          simpa using hwakes
  | postWake =>
      obtain ⟨hposting, hs⟩ := Option.ite_none_left_eq_some.mp hstep
      cases hs
      refine ⟨?_, hretries⟩
      rw [← hwakes]
      show s.posting - 1 + (s.wakes + 1) = s.posting + s.wakes
      omega
  | disarmWake =>
      obtain ⟨⟨-, hqueued⟩, hs⟩ := Option.ite_none_right_eq_some.mp hstep
      cases hs
      refine ⟨?_, hretries⟩
      -- the wake-up that is handled was the only one
      have hone : s.posting + s.wakes ≤ 1 := by
        rw [hwakes]
        split_ifs <;> omega
      show s.posting + (s.wakes - 1) = 0
      omega
  | requestUpdate =>
      obtain ⟨-, hs⟩ := Option.ite_none_right_eq_some.mp hstep
      cases hs
      exact ⟨hwakes, hretries⟩
  | deferUpdate =>
      obtain ⟨-, hs⟩ := Option.ite_none_right_eq_some.mp hstep
      cases hs
      exact ⟨hwakes, hretries⟩
  | timeout =>
      obtain ⟨-, hs⟩ := Option.ite_none_right_eq_some.mp hstep
      cases hs
      exact ⟨hwakes, hretries⟩
  | withoutSurface =>
      obtain ⟨-, hs⟩ := Option.ite_none_right_eq_some.mp hstep
      cases hs
      exact ⟨hwakes, hretries⟩
  | handleRetry =>
      obtain ⟨-, hs⟩ := Option.ite_none_right_eq_some.mp hstep
      cases hs
      exact ⟨hwakes, hretries⟩
  | transition =>
      obtain ⟨-, hs⟩ := Option.ite_none_right_eq_some.mp hstep
      cases hs
      exact ⟨hwakes, hretries⟩
  | reissue =>
      simp only [PreviewUpdateScheduler.step] at hstep
      split at hstep <;> cases hstep
      exact ⟨hwakes, hretries⟩
  | dropUpdate =>
      obtain ⟨-, hs⟩ := Option.ite_none_right_eq_some.mp hstep
      cases hs
      exact ⟨hwakes, hretries⟩
  | beginRenderPass =>
      obtain ⟨-, hs⟩ := Option.ite_none_right_eq_some.mp hstep
      cases hs
      exact ⟨hwakes, hretries⟩
  | miss =>
      simp only [PreviewUpdateScheduler.step] at hstep
      split at hstep <;> cases hstep
      exact ⟨hwakes, hretries⟩
  | take =>
      simp only [PreviewUpdateScheduler.step] at hstep
      split at hstep
      · obtain ⟨-, hs⟩ := Option.ite_none_right_eq_some.mp hstep
        cases hs
        exact ⟨hwakes, hretries⟩
      · cases hstep
  | checkDebt =>
      obtain ⟨-, hs⟩ := Option.ite_none_right_eq_some.mp hstep
      cases hs
      exact ⟨hwakes, hretries⟩
  | spendRetry =>
      obtain ⟨-, hs⟩ := Option.ite_none_right_eq_some.mp hstep
      split_ifs at hs with hbudget <;> cases hs
      · exact ⟨hwakes, hretries⟩
      · refine ⟨hwakes, ?_⟩
        show s.spent + 1 + (s.retryBudget - 1) ≤ kRetriesPerMiss * s.refills
        omega
  | notePresented =>
      simp only [PreviewUpdateScheduler.step] at hstep
      split at hstep <;> cases hstep
      exact ⟨hwakes, hretries⟩
  | refillPresented =>
      obtain ⟨-, hs⟩ := Option.ite_none_right_eq_some.mp hstep
      cases hs
      refine ⟨hwakes, ?_⟩
      show s.spent + kRetriesPerMiss ≤ kRetriesPerMiss * (s.refills + 1)
      rw [Nat.mul_succ]
      omega

/-! ## B. The debt -/

/-- The newest generation that is presented, or will be with the frame that the pass has taken. -/
def settled (s : PreviewUpdateScheduler) : Nat :=
  match s.pass with
  | .taken generation => max s.presentedGeneration generation
  | _ => s.presentedGeneration

/-- A frame that is in the slot is owed, from the count of its publish on. -/
structure Owing (s : PreviewUpdateScheduler) : Prop where
  begun : ∀ g, s.pass = .begun g → g ≤ s.publishedGeneration
  settled : s.settled ≤ s.publishedGeneration
  owed : s.slot = true → s.publishing = 0 → s.settled < s.publishedGeneration

theorem settled_eq_of_pass (h : ∀ g, s.pass ≠ .taken g) : s.settled = s.presentedGeneration := by
  unfold settled
  split
  · exact absurd ‹_› (h _)
  · rfl

/-- The steps that touch neither the slot nor a generation nor the pass. -/
theorem Owing.of_same (h : Owing s) (hslot : s'.slot = s.slot)
    (hpublished : s'.publishedGeneration = s.publishedGeneration)
    (hpresented : s'.presentedGeneration = s.presentedGeneration)
    (hpublishing : s'.publishing = s.publishing) (hpass : s'.pass = s.pass) : Owing s' := by
  have hsettled : s'.settled = s.settled := by
    unfold PreviewUpdateScheduler.settled
    rw [hpass, hpresented]
  refine ⟨?_, ?_, ?_⟩
  · rw [hpass, hpublished]; exact h.begun
  · rw [hsettled, hpublished]; exact h.settled
  · rw [hslot, hpublishing, hsettled, hpublished]; exact h.owed

/-- The steps of a pass that has no frame. -/
theorem Owing.of_pass (h : Owing s) (hslot : s'.slot = s.slot)
    (hpublished : s'.publishedGeneration = s.publishedGeneration)
    (hpresented : s'.presentedGeneration = s.settled)
    (hpublishing : s'.publishing = s.publishing)
    (hbegun : ∀ g, s'.pass = .begun g → g ≤ s.publishedGeneration)
    (htaken : ∀ g, s'.pass ≠ .taken g) : Owing s' := by
  have hsettled : s'.settled = s.settled := (settled_eq_of_pass htaken).trans hpresented
  refine ⟨?_, ?_, ?_⟩
  · rw [hpublished]; exact hbegun
  · rw [hsettled, hpublished]; exact h.settled
  · rw [hslot, hpublishing, hsettled, hpublished]; exact h.owed

theorem Owing.step (h : Owing s) (hstep : s.step a = some s') : Owing s' := by
  cases a with
  | publish =>
      cases hstep
      exact ⟨h.begun, h.settled, fun _ hnone => absurd hnone (Nat.succ_ne_zero _)⟩
  | countPublish =>
      obtain ⟨-, hs⟩ := Option.ite_none_left_eq_some.mp hstep
      cases hs
      -- the generation that is counted is newer than all that were read
      exact ⟨fun g hg => Nat.le_succ_of_le (h.begun g hg), Nat.le_succ_of_le h.settled,
        fun _ _ => Nat.lt_succ_of_le h.settled⟩
  | refillBudget =>
      obtain ⟨-, hs⟩ := Option.ite_none_left_eq_some.mp hstep
      cases hs
      exact h.of_same rfl rfl rfl rfl rfl
  | exchangeWake =>
      obtain ⟨-, hs⟩ := Option.ite_none_left_eq_some.mp hstep
      cases hs
      exact h.of_same rfl rfl rfl rfl rfl
  | postWake =>
      obtain ⟨-, hs⟩ := Option.ite_none_left_eq_some.mp hstep
      cases hs
      exact h.of_same rfl rfl rfl rfl rfl
  | disarmWake =>
      obtain ⟨-, hs⟩ := Option.ite_none_right_eq_some.mp hstep
      cases hs
      exact h.of_same rfl rfl rfl rfl rfl
  | requestUpdate =>
      obtain ⟨-, hs⟩ := Option.ite_none_right_eq_some.mp hstep
      cases hs
      exact h.of_same rfl rfl rfl rfl rfl
  | deferUpdate =>
      obtain ⟨-, hs⟩ := Option.ite_none_right_eq_some.mp hstep
      cases hs
      exact h.of_same rfl rfl rfl rfl rfl
  | timeout =>
      obtain ⟨-, hs⟩ := Option.ite_none_right_eq_some.mp hstep
      cases hs
      exact h.of_same rfl rfl rfl rfl rfl
  | withoutSurface =>
      obtain ⟨-, hs⟩ := Option.ite_none_right_eq_some.mp hstep
      cases hs
      exact h.of_same rfl rfl rfl rfl rfl
  | handleRetry =>
      obtain ⟨-, hs⟩ := Option.ite_none_right_eq_some.mp hstep
      cases hs
      exact h.of_same rfl rfl rfl rfl rfl
  | transition =>
      obtain ⟨-, hs⟩ := Option.ite_none_right_eq_some.mp hstep
      cases hs
      exact h.of_same rfl rfl rfl rfl rfl
  | reissue =>
      simp only [PreviewUpdateScheduler.step] at hstep
      split at hstep <;> cases hstep
      exact h.of_same rfl rfl rfl rfl rfl
  | dropUpdate =>
      obtain ⟨-, hs⟩ := Option.ite_none_right_eq_some.mp hstep
      cases hs
      exact h.of_same rfl rfl rfl rfl rfl
  | beginRenderPass =>
      obtain ⟨hidle, hs⟩ := Option.ite_none_right_eq_some.mp hstep
      cases hs
      refine h.of_pass rfl rfl (settled_eq_of_pass (s := s) (by simp [hidle])).symm rfl ?_ (by simp)
      intro g hg
      cases hg
      exact Nat.le_refl _
  | miss =>
      simp only [PreviewUpdateScheduler.step] at hstep
      split at hstep <;> cases hstep
      rename_i hpass
      exact h.of_pass rfl rfl (settled_eq_of_pass (s := s) (by simp [hpass])).symm rfl (by simp) (by simp)
  | take =>
      simp only [PreviewUpdateScheduler.step] at hstep
      split at hstep
      · rename_i g hpass
        obtain ⟨-, hs⟩ := Option.ite_none_right_eq_some.mp hstep
        cases hs
        refine ⟨by simp, ?_, by simp⟩
        have hsettled := h.settled
        rw [settled_eq_of_pass (by simp [hpass])] at hsettled
        exact max_le hsettled (h.begun g hpass)
      · cases hstep
  | checkDebt =>
      obtain ⟨hpass, hs⟩ := Option.ite_none_right_eq_some.mp hstep
      cases hs
      refine h.of_pass rfl rfl (settled_eq_of_pass (s := s) (by simp [hpass])).symm rfl ?_ ?_ <;>
        intro g hg <;> dsimp only at hg <;> split_ifs at hg
  | spendRetry =>
      obtain ⟨hpass, hs⟩ := Option.ite_none_right_eq_some.mp hstep
      split_ifs at hs <;> cases hs
      · exact h.of_pass rfl rfl (settled_eq_of_pass (s := s) (by simp [hpass])).symm rfl (by simp) (by simp)
      · exact h.of_pass rfl rfl (settled_eq_of_pass (s := s) (by simp [hpass])).symm rfl (by simp) (by simp)
  | notePresented =>
      simp only [PreviewUpdateScheduler.step] at hstep
      split at hstep <;> cases hstep
      rename_i g hpass
      refine h.of_pass rfl rfl ?_ rfl (by simp) (by simp)
      unfold PreviewUpdateScheduler.settled
      rw [hpass]
  | refillPresented =>
      obtain ⟨hpass, hs⟩ := Option.ite_none_right_eq_some.mp hstep
      cases hs
      exact h.of_pass rfl rfl (settled_eq_of_pass (s := s) (by simp [hpass])).symm rfl (by simp) (by simp)

/-! ## C. No frame is forgotten -/

/-- The pass has not taken a frame and has not given up. -/
def Trying (s : PreviewUpdateScheduler) : Prop :=
  (∃ g, s.pass = .begun g) ∨ s.pass = .missed ∨ s.pass = .owed

/-- A render that can take the frame is on its way. -/
inductive Coming (s : PreviewUpdateScheduler) : Prop where
  | producer (h : s.publishing + s.refilling + s.arming ≠ 0)
  | wake (h : s.wakeInFlight = true)
  | gui (h : s.gui = .requesting)
  | timer (h : s.timer = true)
  | update (h : s.update = true)
  | retry (h : s.retries ≠ 0)
  | reissue (p : Nat) (hgui : s.gui = .reissuing p) (hp : s.settled < p)
  | pass (h : Trying s)

/-- The pass has a frame that it has not settled. -/
def Holding (s : PreviewUpdateScheduler) : Prop :=
  (∃ g, s.pass = .taken g) ∨ s.pass = .noted

/-- Why the frame in the slot is not forgotten. -/
def Awaited (s : PreviewUpdateScheduler) : Prop :=
  Coming s ∨ s.dropped = true ∨ s.retryBudget = 0 ∧ ¬Holding s

/-- What is still to come for a pass that holds a frame, whatever it does to settle it. -/
theorem Awaited.of_holding (h : Awaited s) (hholding : Holding s)
    (hproducers : s'.publishing + s'.refilling + s'.arming = s.publishing + s.refilling + s.arming)
    (hwake : s'.wakeInFlight = s.wakeInFlight) (hgui : s'.gui = s.gui) (htimer : s'.timer = s.timer)
    (hupdate : s'.update = s.update) (hretries : s'.retries = s.retries)
    (hsettled : s'.settled = s.settled) (hdropped : s'.dropped = s.dropped) : Awaited s' := by
  rcases h with hcoming | hlost | ⟨-, hnot⟩
  · refine .inl ?_
    cases hcoming with
    | producer h => exact .producer (hproducers ▸ h)
    | wake h => exact .wake (hwake.trans h)
    | gui h => exact .gui (hgui.trans h)
    | timer h => exact .timer (htimer.trans h)
    | update h => exact .update (hupdate.trans h)
    | retry h => exact .retry (hretries ▸ h)
    | reissue p hp hlt => exact .reissue p (hgui.trans hp) (hsettled ▸ hlt)
    | pass h =>
        exfalso
        rcases hholding with ⟨g, hg⟩ | hg <;> rcases h with ⟨g', h⟩ | h | h <;>
          rw [hg] at h <;> cases h
  · exact .inr (.inl (hdropped.trans hlost))
  · exact absurd hholding hnot

/-- The generation that the GUI thread reads is newer than all that is settled, unless the publish
    of the frame is not counted yet. -/
theorem Owing.readable (h : Owing s) (hslot : s.slot = true) :
    s.publishing ≠ 0 ∨ s.settled < s.publishedGeneration := by
  by_cases hnone : s.publishing = 0
  · exact .inr (h.owed hslot hnone)
  · exact .inl hnone

theorem Awaited.step (howing : Owing s) (h : s.slot = true → Awaited s)
    (hstep : s.step a = some s') (hslot : s'.slot = true) : Awaited s' := by
  cases a with
  | publish =>
      cases hstep
      refine .inl (.producer ?_)
      show s.publishing + 1 + s.refilling + s.arming ≠ 0
      omega
  | countPublish =>
      obtain ⟨-, hs⟩ := Option.ite_none_left_eq_some.mp hstep
      cases hs
      refine .inl (.producer ?_)
      show s.publishing - 1 + (s.refilling + 1) + s.arming ≠ 0
      omega
  | refillBudget =>
      obtain ⟨-, hs⟩ := Option.ite_none_left_eq_some.mp hstep
      cases hs
      refine .inl (.producer ?_)
      show s.publishing + (s.refilling - 1) + (s.arming + 1) ≠ 0
      omega
  | exchangeWake =>
      obtain ⟨-, hs⟩ := Option.ite_none_left_eq_some.mp hstep
      cases hs
      exact .inl (.wake rfl)
  | postWake =>
      obtain ⟨-, hs⟩ := Option.ite_none_left_eq_some.mp hstep
      cases hs
      refine (h hslot).imp_left fun hcoming => ?_
      cases hcoming with
      | producer h => exact .producer h
      | wake h => exact .wake h
      | gui h => exact .gui h
      | timer h => exact .timer h
      | update h => exact .update h
      | retry h => exact .retry h
      | reissue p hgui hp => exact .reissue p hgui hp
      | pass h => exact .pass h
  | disarmWake =>
      obtain ⟨-, hs⟩ := Option.ite_none_right_eq_some.mp hstep
      cases hs
      exact .inl (.gui rfl)
  | requestUpdate =>
      obtain ⟨-, hs⟩ := Option.ite_none_right_eq_some.mp hstep
      cases hs
      exact .inl (.update rfl)
  | deferUpdate =>
      obtain ⟨-, hs⟩ := Option.ite_none_right_eq_some.mp hstep
      cases hs
      exact .inl (.timer rfl)
  | timeout =>
      obtain ⟨-, hs⟩ := Option.ite_none_right_eq_some.mp hstep
      cases hs
      exact .inl (.gui rfl)
  | withoutSurface =>
      obtain ⟨-, hs⟩ := Option.ite_none_right_eq_some.mp hstep
      cases hs
      exact .inr (.inl rfl)
  | handleRetry =>
      obtain ⟨-, hs⟩ := Option.ite_none_right_eq_some.mp hstep
      cases hs
      rcases howing.readable hslot with hpublishing | hlt
      · exact .inl (.producer (by show s.publishing + s.refilling + s.arming ≠ 0; omega))
      · exact .inl (.reissue _ rfl hlt)
  | transition =>
      obtain ⟨-, hs⟩ := Option.ite_none_right_eq_some.mp hstep
      cases hs
      rcases howing.readable hslot with hpublishing | hlt
      · exact .inl (.producer (by show s.publishing + s.refilling + s.arming ≠ 0; omega))
      · exact .inl (.reissue _ rfl hlt)
  | reissue =>
      simp only [PreviewUpdateScheduler.step] at hstep
      split at hstep <;> cases hstep
      rename_i p hgui
      by_cases hp : s.presentedGeneration < p
      · exact .inl (.update (by simp [hp]))
      · -- what the GUI thread read has been presented, so something else is to come
        refine (h hslot).imp_left fun hcoming => ?_
        cases hcoming with
        | producer h => exact .producer h
        | wake h => exact .wake h
        | gui h => rw [hgui] at h; cases h
        | timer h => exact .timer h
        | update h => exact .update (by simp [h])
        | retry h => exact .retry h
        | reissue q hq hlt =>
            rw [hgui] at hq
            cases hq
            have hle : s.presentedGeneration ≤ s.settled := by
              unfold settled
              split
              · exact le_max_left _ _
              · exact Nat.le_refl _
            omega
        | pass h => exact .pass h
  | dropUpdate =>
      obtain ⟨-, hs⟩ := Option.ite_none_right_eq_some.mp hstep
      cases hs
      exact .inr (.inl rfl)
  | beginRenderPass =>
      obtain ⟨-, hs⟩ := Option.ite_none_right_eq_some.mp hstep
      cases hs
      exact .inl (.pass (.inl ⟨_, rfl⟩))
  | miss =>
      simp only [PreviewUpdateScheduler.step] at hstep
      split at hstep <;> cases hstep
      exact .inl (.pass (.inr (.inl rfl)))
  | take =>
      simp only [PreviewUpdateScheduler.step] at hstep
      split at hstep
      · obtain ⟨-, hs⟩ := Option.ite_none_right_eq_some.mp hstep
        cases hs
        cases hslot
      · cases hstep
  | checkDebt =>
      obtain ⟨hpass, hs⟩ := Option.ite_none_right_eq_some.mp hstep
      cases hs
      rcases howing.readable hslot with hpublishing | hlt
      · exact .inl (.producer (by show s.publishing + s.refilling + s.arming ≠ 0; omega))
      · rw [settled_eq_of_pass (by simp [hpass])] at hlt
        exact .inl (.pass (.inr (.inr (if_pos hlt))))
  | spendRetry =>
      obtain ⟨-, hs⟩ := Option.ite_none_right_eq_some.mp hstep
      split_ifs at hs with hbudget <;> cases hs
      · exact .inr (.inr ⟨hbudget, by simp [Holding]⟩)
      · exact .inl (.retry (Nat.succ_ne_zero _))
  | notePresented =>
      simp only [PreviewUpdateScheduler.step] at hstep
      split at hstep <;> cases hstep
      rename_i g hpass
      refine (h hslot).of_holding (.inl ⟨g, hpass⟩) rfl rfl rfl rfl rfl rfl ?_ rfl
      unfold settled
      rw [hpass]
  | refillPresented =>
      obtain ⟨hpass, hs⟩ := Option.ite_none_right_eq_some.mp hstep
      cases hs
      refine (h hslot).of_holding (.inr hpass) rfl rfl rfl rfl rfl rfl ?_ rfl
      unfold settled
      rw [hpass]

/-! ## D. Runs -/

/-- In every interleaving of producers, GUI thread and render passes, one wake-up at most is armed or
    queued, exactly while the flag is set, and of the renders that missed passes have asked for, a
    publish or a presentation has paid at most three. -/
theorem one_wake_in_flight (h : exec {} as = some s) :
    s.posting + s.wakes = (if s.wakeInFlight then 1 else 0) ∧
      s.spent ≤ kRetriesPerMiss * s.refills := by
  have hs : Gated s := StepRun.exec_invariant_all (fun _ _ _ hs hstep => hs.step hstep)
    ⟨rfl, by decide⟩ h
  exact ⟨hs.wakes, by have := hs.retries; omega⟩

theorem one_wake_in_flight_coalesced :
    ∃ s, exec {} [.publish, .publish, .countPublish, .countPublish, .refillBudget, .refillBudget,
        .exchangeWake, .exchangeWake] = some s ∧ s.wakeInFlight = true ∧
      s.posting + s.wakes = (if s.wakeInFlight then 1 else 0) := by
  have h : exec {} [.publish, .publish, .countPublish, .countPublish, .refillBudget, .refillBudget,
      .exchangeWake, .exchangeWake] = some _ := rfl
  exact ⟨_, h, rfl, (one_wake_in_flight h).1⟩

/-- In every interleaving a frame that is in the slot, once its publish is counted, is known to be
    owed. A render that can take it is on its way, or a request was lost since the last lifecycle
    transition, or the retries are used up. -/
theorem published_frame_awaited (h : exec {} as = some s) (hslot : s.slot = true) :
    (s.publishing = 0 → s.presentedGeneration < s.publishedGeneration) ∧
      (Coming s ∨ s.dropped = true ∨ s.retryBudget = 0) := by
  have hs : Owing s ∧ (s.slot = true → Awaited s) :=
    StepRun.exec_invariant_all (I := fun s => Owing s ∧ (s.slot = true → Awaited s))
      (fun _ _ _ hs hstep => ⟨hs.1.step hstep, fun hslot => .step hs.1 hs.2 hstep hslot⟩)
      ⟨⟨by simp, Nat.le_refl _, by simp⟩, by simp⟩ h
  refine ⟨fun hnone => lt_of_le_of_lt ?_ (hs.1.owed hslot hnone),
    (hs.2 hslot).imp_right (Or.imp_right And.left)⟩
  unfold settled
  split
  · exact le_max_left _ _
  · exact Nat.le_refl _

theorem published_frame_awaited_missed :
    ∃ s, exec {} [.publish, .countPublish, .refillBudget, .exchangeWake, .postWake, .disarmWake,
        .requestUpdate, .beginRenderPass, .miss, .checkDebt, .spendRetry] = some s ∧
      s.update = false ∧ s.presentedGeneration < s.publishedGeneration ∧
      (Coming s ∨ s.dropped = true ∨ s.retryBudget = 0) := by
  have h : exec {} [.publish, .countPublish, .refillBudget, .exchangeWake, .postWake, .disarmWake,
      .requestUpdate, .beginRenderPass, .miss, .checkDebt, .spendRetry] = some _ := rfl
  have hawaited := published_frame_awaited h rfl
  exact ⟨_, h, rfl, hawaited.1 rfl, hawaited.2⟩

end PreviewUpdateScheduler

end Exosnap.Preview
