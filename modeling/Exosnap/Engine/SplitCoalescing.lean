/-
  Coalescing of split requests: the boundaries that requests cause against the groups of
  requests that a landing separates.

  `requests_coalesced`: in a run in which no request is published while a boundary is pending,
  a pending boundary has taken every request published so far, and the sentinels that requests
  caused are no more than the groups. The condition cannot go: `maybeArmSplit` returns before
  it updates `split_last_seq` while a boundary is pending, so a request published then is found
  again once the boundary has landed and causes a second one (`pending_request_splits_again`).
-/
import Exosnap.Engine.SplitSteps

namespace Exosnap.Engine.SplitCoordination

open EventGroups StepRun

/-- The requests published since a boundary last landed. -/
def openRequests (history : List SplitEvent) : List SplitEvent :=
  openGroup SplitEvent.isPublished SplitEvent.isLanded history

/-- The groups of requests separated by a landing. -/
def requestGroups (history : List SplitEvent) : Nat :=
  groupCount SplitEvent.isPublished SplitEvent.isLanded history

/-- The boundaries that landed and that a request had armed. -/
def requestSentinels (history : List SplitEvent) : Nat :=
  history.countP fun e => e.isLanded && e.isManual

/-- The pending boundary has taken every request that was published. -/
def PendingAbsorbs (s : SplitState) : Prop :=
  ∀ v, s.video = some v → v.splitArmed →
    v.splitLastSeq = (unpackSplitRequest s.splitRequest).sequence

/-- No request is published from the arming of a boundary to its landing. -/
def QuietWhilePending (s : SplitState) (a : SplitAction) : Prop :=
  publishes s a → ∀ v ∈ s.video, v.splitArmed = false

instance (s : SplitState) (a : SplitAction) : Decidable (QuietWhilePending s a) := by
  unfold QuietWhilePending
  infer_instance

/-! ## The invariant -/

/-- A request that has no boundary yet is in the open group. -/
structure Coalesced (s : SplitState) : Prop where
  closes : AtBoundary SplitEvent.isPublished SplitEvent.isLanded
    (fun b g => b.isManual → g ≠ []) s.history
  absorbs : PendingAbsorbs s
  /-- a boundary that a request armed has that request in its group -/
  pending : ∀ v, s.video = some v → v.splitArmed → v.splitArmedManual →
    openRequests s.history ≠ []
  /-- a request not acted on yet was published since the latest landing -/
  waiting : ∀ v, s.video = some v → v.splitArmed = false → v.manual s.splitRequest →
    openRequests s.history ≠ []

section
variable {cfg : SplitConfig} {s s' : SplitState} {a : SplitAction}

theorem not_manual_of_seq {v : VideoLocals} {word : UInt64}
    (h : v.splitLastSeq = (unpackSplitRequest word).sequence) : v.manual word = false := by
  unfold VideoLocals.manual
  rw [h, bne_self_eq_false]

theorem manual_consume {v : VideoLocals} (current word : UInt64) :
    v.manual (if current = word then splitRequestConsumed (unpackSplitRequest word)
      else current) = v.manual current := by
  unfold VideoLocals.manual
  rw [consume_sequence]

theorem openRequests_armed (manual : Bool) (mask : UInt32) (h : List SplitEvent) :
    openRequests (.armed manual mask :: h) = openRequests h :=
  openGroup_other rfl rfl

theorem openRequests_published (trigger : SplitTriggerSource) (h : List SplitEvent) :
    openRequests (.published trigger :: h) = .published trigger :: openRequests h :=
  openGroup_member rfl rfl

theorem Coalesced.initial (callers : Nat → Requester) : Coalesced (.initial callers) := by
  refine ⟨trivial, ?_, ?_, ?_⟩ <;> intro v hv <;> cases hv

theorem Coalesced.quiet (hI : Coalesced s) (hword : s'.splitRequest = s.splitRequest)
    (hhist : s'.history = s.history)
    (hvideo : ∀ v', s'.video = some v' → ∃ v, s.video = some v ∧ SameBoundary v v') :
    Coalesced s' := by
  refine ⟨by rw [hhist]; exact hI.closes, ?_, ?_, ?_⟩
  · intro v' hv' harmed
    obtain ⟨v, hv, hsame⟩ := hvideo v' hv'
    rw [hsame.lastSeq, hword]
    exact hI.absorbs v hv (hsame.armed ▸ harmed)
  · intro v' hv' harmed hman
    obtain ⟨v, hv, hsame⟩ := hvideo v' hv'
    rw [hhist]
    exact hI.pending v hv (hsame.armed ▸ harmed) (hsame.manual ▸ hman)
  · intro v' hv' hfree hman
    obtain ⟨v, hv, hsame⟩ := hvideo v' hv'
    unfold VideoLocals.manual at hman
    rw [hsame.lastSeq, hword] at hman
    rw [hhist]
    exact hI.waiting v hv (hsame.armed ▸ hfree) hman

/-- The guard is needed here only: a request published now is found after the landing. -/
theorem Coalesced.published (hI : Coalesced s) (hfree : ∀ v ∈ s.video, v.splitArmed = false)
    {trigger : SplitTriggerSource} (hhist : s'.history = .published trigger :: s.history)
    (hvideo : s'.video = s.video) : Coalesced s' := by
  have hopen : openRequests s'.history ≠ [] := by
    rw [hhist, openRequests_published]
    exact List.cons_ne_nil _ _
  refine ⟨by rw [hhist]; exact hI.closes.other rfl, ?_, fun _ _ _ _ => hopen,
    fun _ _ _ _ => hopen⟩
  intro v hv harmed
  rw [hfree v (hvideo ▸ hv)] at harmed
  cases harmed

theorem Coalesced.armed (hI : Coalesced s) {v : VideoLocals} {ptsNs : UInt64}
    (hv : s.video = some v) (hfree : v.splitArmed = false)
    (hword : s'.splitRequest = s.splitRequest) {manual : Bool} {mask : UInt32}
    (hhist : s'.history = .armed manual mask :: s.history)
    (hvideo : s'.video = some (v.arm s.splitRequest ptsNs)) : Coalesced s' := by
  refine ⟨by rw [hhist]; exact hI.closes.other rfl, ?_, ?_, ?_⟩ <;> intro w hw <;>
    cases hvideo.symm.trans hw
  · intro _
    rw [hword]
    rfl
  · intro _ hman
    rw [hhist, openRequests_armed]
    exact hI.waiting v hv hfree hman
  · intro harmed
    cases harmed

theorem Coalesced.consumed (hI : Coalesced s) {v : VideoLocals} {word : UInt64}
    (hv : s.video = some v)
    (hword : s'.splitRequest =
      if s.splitRequest = word then splitRequestConsumed (unpackSplitRequest word)
      else s.splitRequest)
    (hhist : s'.history = s.history) (hvideo : s'.video = some { v with consuming := none }) :
    Coalesced s' := by
  refine ⟨by rw [hhist]; exact hI.closes, ?_, ?_, ?_⟩ <;> intro w hw <;>
    cases hvideo.symm.trans hw
  · intro harmed
    rw [hword, consume_sequence]
    exact hI.absorbs v hv harmed
  · intro harmed hman
    rw [hhist]
    exact hI.pending v hv harmed hman
  · intro hfree hman
    rw [hword, manual_consume] at hman
    rw [hhist]
    exact hI.waiting v hv hfree hman

theorem Coalesced.landed (hI : Coalesced s) {v : VideoLocals} {pkt : EncodedVideoPacket}
    (hv : s.video = some v) (harmed : v.splitArmed)
    (hword : s'.splitRequest = s.splitRequest)
    (hhist : s'.history = .landed v.splitArmedManual v.sentinel :: s.history)
    (hvideo : s'.video = some (v.land cfg pkt.ptsNs)) : Coalesced s' := by
  refine ⟨?_, ?_, ?_, ?_⟩
  · rw [hhist]
    exact hI.closes.cons fun _ hman => hI.pending v hv harmed hman
  all_goals
    intro w hw
    cases hvideo.symm.trans hw
  · intro hw'
    cases hw'
  · intro hw'
    cases hw'
  · intro _ hman
    have hno : v.manual s'.splitRequest = false := by
      rw [hword]
      exact not_manual_of_seq (hI.absorbs v hv harmed)
    exact absurd hman (by simpa [VideoLocals.manual, VideoLocals.land] using hno)

theorem Coalesced.step (hI : Coalesced s) (hG : QuietWhilePending s a)
    (ho : Outcome cfg s a s') : Coalesced s' := by
  cases ho with
  | quiet hword hhist hsent hcon hvideo => exact hI.quiet hword hhist hvideo
  | published trigger hp hword hhist hsent hvideo => exact hI.published (hG hp) hhist hvideo
  | started hnone hword hhist hsent hvideo =>
      refine ⟨by rw [hhist]; exact hI.closes, ?_, ?_, ?_⟩ <;> intro w hw <;>
        cases hvideo.symm.trans hw
      · intro _
        rw [hword]
        rfl
      · intro harmed
        cases harmed
      · intro _ hman
        rw [hword, not_manual_of_seq rfl] at hman
        cases hman
  | armed v ptsNs ha hv hfree hidle hcause hword hhist hsent hvideo =>
      exact hI.armed hv hfree hword hhist hvideo
  | consumed v word hv hc hword hhist hsent hvideo => exact hI.consumed hv hword hhist hvideo
  | landed v pkt hv hidle harmed hword hhist hsent hvideo =>
      exact hI.landed hv harmed hword hhist hvideo

theorem Coalesced.sentinels_le (hI : Coalesced s) :
    requestSentinels s.history ≤ requestGroups s.history :=
  (Nat.le_add_right _ _).trans (countP_le_groupCount hI.closes)

end

/-! ## Results -/

/-- Requests of a run in which none is published while a boundary is pending: a pending
    boundary has taken all of them, and the sentinels they caused are no more than their
    groups. The third part says that the boundaries counted are the sentinels of the queue. -/
theorem requests_coalesced (cfg : SplitConfig) (callers : Nat → Requester)
    (as : List SplitAction) (s : SplitState)
    (hG : Meets (step cfg) QuietWhilePending (.initial callers) as)
    (he : exec (step cfg) (.initial callers) as = some s) :
    PendingAbsorbs s ∧ requestSentinels s.history ≤ requestGroups s.history ∧
      s.sentinels = (s.history.filterMap SplitEvent.sentinel?).reverse := by
  have hI : Coalesced s :=
    exec_invariant (fun _ _ _ hI hG hs => Coalesced.step hI hG (step_outcome hs))
      (Coalesced.initial callers) hG he
  exact ⟨hI.absorbs, hI.sentinels_le, sentinels_landed he⟩

/-- Two requests before the frame that takes them, and one more after its boundary landed. -/
def coalescedRun : List SplitAction :=
  [.session true 7, .startVideo] ++ publishSteps 0 .manualButton 7 ++ publishSteps 1 .hotkey 7 ++
    frameSteps 100 ++ publishSteps 0 .manualButton 7 ++ frameSteps 200

theorem requests_coalesced_coalescedRun :
    ∃ s, exec (step {}) (.initial fun _ => .idle) coalescedRun = some s ∧
      requestSentinels s.history = 2 ∧ PendingAbsorbs s ∧
      requestSentinels s.history ≤ requestGroups s.history := by
  obtain ⟨s, hs, hcount⟩ := Option.map_eq_some_iff.mp
    (show (exec (step {}) (.initial fun _ => .idle) coalescedRun).map
      (fun s => requestSentinels s.history) = some 2 by decide)
  have h := requests_coalesced {} (fun _ => .idle) coalescedRun s (by decide) hs
  exact ⟨s, hs, hcount, h.1, h.2.1⟩

/-- A second request while the first one's boundary is pending: frame 100 arms, the request is
    published, the keyframe of frame 100 lands the boundary, and frame 200 splits again. -/
def pendingRun : List SplitAction :=
  [.session true 7, .startVideo] ++ publishSteps 0 .manualButton 7 ++
    [.maybeArmSplit 100, .consumeRequest] ++ publishSteps 1 .hotkey 7 ++
    [.routePacket { bytes := [1], ptsNs := 100, keyframe := true } true .ready] ++ frameSteps 200

/-- Both requests of `pendingRun` come before the first sentinel, and there are two. -/
theorem pending_request_splits_again :
    ∃ s, exec (step {}) (.initial fun _ => .idle) pendingRun = some s ∧
      s.sentinels = [⟨1, .manualButton⟩, ⟨2, .hotkey⟩] ∧
      requestSentinels s.history = 2 ∧ requestGroups s.history = 1 := by
  obtain ⟨s, hs, hview⟩ := Option.map_eq_some_iff.mp
    (show (exec (step {}) (.initial fun _ => .idle) pendingRun).map
      (fun s => (s.sentinels, requestSentinels s.history, requestGroups s.history)) =
      some ([⟨1, .manualButton⟩, ⟨2, .hotkey⟩], 2, 1) by decide)
  rw [Prod.mk.injEq, Prod.mk.injEq] at hview
  exact ⟨s, hs, hview⟩

end Exosnap.Engine.SplitCoordination
