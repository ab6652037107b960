/-
  What one step of the split machine can do to the word, the pending boundary, the history and
  the sentinels (`Outcome`, `step_outcome`). Every invariant of `SplitCoalescing` and
  `SplitAttribution` is proved from these seven cases, and no proof there unfolds a step.

  Results about every run: the sentinels the mux thread sees are the boundaries that landed
  (`sentinels_landed`), the sequence counts the requests modulo its 48 bits
  (`sequence_counts`), and the word's primary trigger is an enumerator (`primary_is_trigger`).
-/
import Exosnap.Engine.SplitCoordination

namespace Exosnap.Engine.SplitCoordination

open EventGroups StepRun

/-! ## Events -/

namespace SplitEvent

def isPublished : SplitEvent → Bool
  | .published _ => true
  | _ => false

def isArmed : SplitEvent → Bool
  | .armed _ _ => true
  | _ => false

def isLanded : SplitEvent → Bool
  | .landed _ _ => true
  | _ => false

/-- A boundary that a request caused, or one the timer caused alone. -/
def isManual : SplitEvent → Bool
  | .armed manual _ => manual
  | .landed manual _ => manual
  | .published _ => false

def sentinel? : SplitEvent → Option SplitSentinel
  | .landed _ sentinel => some sentinel
  | _ => none

end SplitEvent

def splitSentinel? : MuxItem → Option SplitSentinel
  | .split sentinel => some sentinel
  | _ => none

/-- The sentinels put in the mux queue so far, oldest first. -/
def SplitState.sentinels (s : SplitState) : List SplitSentinel :=
  (s.muxPopped ++ s.muxQueue).filterMap splitSentinel?

/-- The word `maybeArmSplit` loaded, between its load and its compare-exchange. -/
def SplitState.consuming (s : SplitState) : Option UInt64 := s.video.bind VideoLocals.consuming

theorem SplitState.consuming_of_video {s : SplitState} {v : VideoLocals}
    (hv : s.video = some v) : s.consuming = v.consuming := by
  unfold SplitState.consuming
  rw [hv, Option.bind_some]

/-! ## Outcomes of a step -/

/-- What the boundary decisions read of the locals is unchanged. -/
structure SameBoundary (v v' : VideoLocals) : Prop where
  lastSeq : v'.splitLastSeq = v.splitLastSeq
  armed : v'.splitArmed = v.splitArmed
  manual : v'.splitArmedManual = v.splitArmedManual
  consuming : v'.consuming = v.consuming

theorem SameBoundary.refl (v : VideoLocals) : SameBoundary v v := ⟨rfl, rfl, rfl, rfl⟩

inductive Outcome (cfg : SplitConfig) (s : SplitState) (a : SplitAction) (s' : SplitState) :
    Prop where
  | quiet (hword : s'.splitRequest = s.splitRequest) (hhist : s'.history = s.history)
      (hsent : s'.sentinels = s.sentinels) (hcon : s'.consuming = s.consuming)
      (hvideo : ∀ v', s'.video = some v' → ∃ v, s.video = some v ∧ SameBoundary v v')
  | published (trigger : SplitTriggerSource) (hp : publishes s a)
      (hword : s'.splitRequest = splitRequestWith s.splitRequest trigger.toUInt32)
      (hhist : s'.history = .published trigger :: s.history)
      (hsent : s'.sentinels = s.sentinels) (hvideo : s'.video = s.video)
  | started (hnone : s.video = none) (hword : s'.splitRequest = s.splitRequest)
      (hhist : s'.history = s.history) (hsent : s'.sentinels = s.sentinels)
      (hvideo : s'.video = some (.start cfg s.splitRequest))
  | armed (v : VideoLocals) (ptsNs : UInt64) (ha : a = .maybeArmSplit ptsNs)
      (hv : s.video = some v) (hfree : v.splitArmed = false) (hidle : v.consuming = none)
      (hcause : v.manual s.splitRequest ∨ v.automatic ptsNs)
      (hword : s'.splitRequest = s.splitRequest)
      (hhist : s'.history = .armed (v.manual s.splitRequest)
        (unpackSplitRequest s.splitRequest).coalescedTriggers :: s.history)
      (hsent : s'.sentinels = s.sentinels) (hvideo : s'.video = some (v.arm s.splitRequest ptsNs))
  | consumed (v : VideoLocals) (word : UInt64) (hv : s.video = some v)
      (hc : v.consuming = some word)
      (hword : s'.splitRequest =
        if s.splitRequest = word then splitRequestConsumed (unpackSplitRequest word)
        else s.splitRequest)
      (hhist : s'.history = s.history) (hsent : s'.sentinels = s.sentinels)
      (hvideo : s'.video = some { v with consuming := none })
  | landed (v : VideoLocals) (pkt : EncodedVideoPacket) (hv : s.video = some v)
      (hidle : v.consuming = none) (harmed : v.splitArmed)
      (hword : s'.splitRequest = s.splitRequest)
      (hhist : s'.history = .landed v.splitArmedManual v.sentinel :: s.history)
      (hsent : s'.sentinels = s.sentinels ++ [v.sentinel])
      (hvideo : s'.video = some (v.land cfg pkt.ptsNs))

section
variable {cfg : SplitConfig} {s s' : SplitState} {a : SplitAction}

theorem Outcome.of_video (hword : s'.splitRequest = s.splitRequest)
    (hhist : s'.history = s.history) (hsent : s'.sentinels = s.sentinels)
    (hvideo : s'.video = s.video) : Outcome cfg s a s' :=
  .quiet hword hhist hsent (by unfold SplitState.consuming; rw [hvideo]) fun v' hv' =>
    ⟨v', hvideo ▸ hv', .refl v'⟩

/-- The video thread changed no local that the boundary decisions read. -/
theorem Outcome.of_sameBoundary {v v' : VideoLocals} (hv : s.video = some v)
    (hsame : SameBoundary v v') : Outcome cfg s a { s with video := some v' } := by
  refine .quiet rfl rfl rfl ?_ fun w hw => ⟨v, hv, ?_⟩
  · rw [SplitState.consuming_of_video hv]
    exact hsame.consuming
  · cases hw
    exact hsame

theorem Outcome.unchanged : Outcome cfg s a s := .of_video rfl rfl rfl rfl

theorem Outcome.setRequester (r : RequesterId) (p : Requester) :
    Outcome cfg s a (s.setRequester r p) :=
  .of_video rfl rfl rfl rfl

/-- Only the mux items the video thread sends can hold sentinels. -/
theorem sentinels_append_video {pkt : EncodedVideoPacket} :
    ({ s with muxQueue := s.muxQueue ++ [.video pkt] } : SplitState).sentinels = s.sentinels := by
  unfold SplitState.sentinels
  rw [← List.append_assoc, List.filterMap_append]
  exact List.append_nil _

theorem sentinels_landBoundary (v : VideoLocals) (pkt : EncodedVideoPacket) :
    (landBoundary cfg s v pkt).sentinels = s.sentinels ++ [v.sentinel] := by
  unfold SplitState.sentinels landBoundary
  rw [← List.append_assoc, List.filterMap_append]
  rfl

theorem onVideo_some {f : VideoLocals → SplitState} (h : s.onVideo f = some s') :
    ∃ v, s.video = some v ∧ v.consuming = none ∧ s' = f v := by
  unfold SplitState.onVideo at h
  cases hv : s.video with
  | none => simp [hv] at h
  | some v =>
      simp only [hv] at h
      split at h
      · cases h
      · rename_i hc
        refine ⟨v, rfl, ?_, by simpa using h.symm⟩
        cases hcon : v.consuming with
        | none => rfl
        | some w => simp [hcon] at hc

theorem exchangeWord_outcome {r : RequesterId} {spurious : Bool}
    (h : exchangeWord s r spurious = some s') :
    Outcome cfg s (.exchangeWord r spurious) s' := by
  unfold exchangeWord at h
  split at h
  case h_2 => cases h
  case h_1 source expected hr =>
    by_cases hx : (!spurious && s.splitRequest == expected) = true
    · rw [if_pos hx] at h
      have hw : s.splitRequest = expected := by
        rw [Bool.and_eq_true, beq_iff_eq] at hx
        exact hx.2
      cases h
      refine .published source ?_ (by rw [hw]) rfl rfl rfl
      unfold publishes
      simp only [hr]
      exact hx
    · rw [if_neg hx] at h
      cases h
      exact .setRequester r _

theorem popMuxItem_outcome {finalized : Bool} (h : popMuxItem s finalized = some s') :
    Outcome cfg s (.popMuxItem finalized) s' := by
  unfold popMuxItem at h
  split at h
  case h_2 => cases h
  case h_1 item rest hr hq =>
    have hsent : ∀ b, ({ s with
          muxQueue := rest, muxPopped := s.muxPopped ++ [item], sizeSplitArmed := b } :
          SplitState).sentinels = s.sentinels := by
      intro b
      unfold SplitState.sentinels
      rw [hq, List.append_assoc, List.singleton_append]
    have hsame : ∀ b, Outcome cfg s (.popMuxItem finalized) { s with
        muxQueue := rest, muxPopped := s.muxPopped ++ [item], sizeSplitArmed := b } :=
      fun b => .of_video rfl rfl (hsent b) rfl
    dsimp only at h
    split at h
    · split at h
      · cases h
        exact hsame false
      · cases h
        exact hsame s.sizeSplitArmed
    · cases h
      exact hsame s.sizeSplitArmed

theorem maybeArmSplit_outcome {v : VideoLocals} (hv : s.video = some v)
    (hidle : v.consuming = none) (ptsNs : UInt64) :
    Outcome cfg s (.maybeArmSplit ptsNs) (maybeArmSplit s v ptsNs) := by
  unfold maybeArmSplit
  by_cases harmed : v.splitArmed = true
  · rw [if_pos harmed]
    split
    · exact .of_sameBoundary hv ⟨rfl, rfl, rfl, rfl⟩
    · exact .unchanged
  · rw [if_neg harmed]
    split
    · exact .unchanged
    · rename_i hcause
      refine .armed v ptsNs rfl hv (by simpa using harmed) hidle ?_ rfl rfl rfl rfl
      cases hm : v.manual s.splitRequest with
      | true => exact .inl rfl
      | false =>
          refine .inr ?_
          simpa [hm] using hcause

theorem routePacket_outcome {v : VideoLocals} (hv : s.video = some v)
    (hidle : v.consuming = none) (pkt : EncodedVideoPacket) (bothReady : Bool)
    (room : MuxQueueWait) :
    Outcome cfg s (.routePacket pkt bothReady room) (routePacket cfg s v pkt bothReady room) := by
  have hfail : Outcome cfg s (.routePacket pkt bothReady room)
      { s with video := some { v with failed := true } } :=
    .of_sameBoundary hv ⟨rfl, rfl, rfl, rfl⟩
  unfold routePacket
  split
  · exact .unchanged
  split
  · split
    · exact hfail
    · exact .of_video rfl rfl rfl rfl
  split
  · exact hfail
  dsimp only
  split
  · rename_i hemit
    have harmed : v.splitArmed = true := by
      unfold shouldEmitSplitSentinel at hemit
      rw [Bool.and_eq_true, Bool.and_eq_true] at hemit
      exact hemit.1.1
    refine .landed v pkt hv hidle harmed rfl rfl ?_ rfl
    rw [sentinels_append_video, sentinels_landBoundary]
  · exact .of_video rfl rfl sentinels_append_video rfl

theorem step_outcome (h : step cfg s a = some s') : Outcome cfg s a s' := by
  cases a with
  | session recording activeRequest =>
      cases h
      exact .of_video rfl rfl rfl rfl
  | requestSplit n source requestId =>
      simp only [step, requestSplit] at h
      split at h
      · split at h
        · cases h
          exact .unchanged
        · cases h
          exact .setRequester _ _
      · cases h
  | matchRequest n =>
      simp only [step, matchRequest] at h
      split at h
      · split at h <;> cases h <;> exact .setRequester _ _
      · cases h
  | loadWord r =>
      simp only [step, loadWord] at h
      split at h
      · cases h
        exact .setRequester _ _
      · cases h
  | exchangeWord r spurious => exact exchangeWord_outcome h
  | sampleMuxDiagnostics bytes =>
      simp only [step, sampleMuxDiagnostics] at h
      split at h
      · split at h
        · cases h
          exact .of_video rfl rfl rfl rfl
        · cases h
          exact .unchanged
      · cases h
  | popMuxItem finalized => exact popMuxItem_outcome h
  | startVideo =>
      simp only [step, startVideo] at h
      split at h
      · rename_i hnone
        cases h
        exact .started hnone rfl rfl rfl rfl
      · cases h
  | maybeArmSplit ptsNs =>
      obtain ⟨v, hv, hidle, rfl⟩ := onVideo_some h
      exact maybeArmSplit_outcome hv hidle ptsNs
  | consumeRequest =>
      simp only [step] at h
      split at h
      · rename_i v hv
        obtain ⟨word, hc, rfl⟩ := Option.map_eq_some_iff.mp h
        refine .consumed v word hv hc ?_ rfl rfl rfl
        simp only [consumeRequest, pack_unpackSplitRequest]
      · cases h
  | routePacket pkt bothReady room =>
      obtain ⟨v, hv, hidle, rfl⟩ := onVideo_some h
      exact routePacket_outcome hv hidle pkt bothReady room

/-! ## Every run -/

/-- The sentinels in the mux queue are the boundaries that landed, in order. -/
theorem sentinels_landed {callers : Nat → Requester} {as : List SplitAction}
    (he : exec (step cfg) (.initial callers) as = some s) :
    s.sentinels = (s.history.filterMap SplitEvent.sentinel?).reverse := by
  refine exec_invariant_all
    (I := fun s => s.sentinels = (s.history.filterMap SplitEvent.sentinel?).reverse) ?_ rfl he
  intro s a s' hI hs
  cases step_outcome hs with
  | quiet hword hhist hsent hcon hvideo => rw [hsent, hhist, hI]
  | started hnone hword hhist hsent hvideo => rw [hsent, hhist, hI]
  | consumed v word hv hc hword hhist hsent hvideo => rw [hsent, hhist, hI]
  | published trigger hp hword hhist hsent hvideo =>
      rw [hsent, hhist, hI, List.filterMap_cons_none rfl]
  | armed v ptsNs ha hv hfree hidle hcause hword hhist hsent hvideo =>
      rw [hsent, hhist, hI, List.filterMap_cons_none rfl]
  | landed v pkt hv hidle harmed hword hhist hsent hvideo =>
      have hcons : (SplitEvent.landed v.splitArmedManual v.sentinel :: s.history).filterMap
          SplitEvent.sentinel? = v.sentinel :: s.history.filterMap SplitEvent.sentinel? := rfl
      rw [hsent, hhist, hI, hcons, List.reverse_cons]

/-- The video thread's compare-exchange keeps the sequence, whether it succeeds or not. -/
theorem consume_sequence (current word : UInt64) :
    (unpackSplitRequest (if current = word then splitRequestConsumed (unpackSplitRequest word)
      else current)).sequence = (unpackSplitRequest current).sequence := by
  split
  · rename_i hw
    rw [unpack_splitRequestConsumed, hw]
  · rfl

/-- The sequence counts the requests, modulo its 48 bits. -/
def SequenceCounts (s : SplitState) : Prop :=
  (unpackSplitRequest s.splitRequest).sequence.toNat =
    s.history.countP SplitEvent.isPublished % 2 ^ 48

theorem SequenceCounts.step (hI : SequenceCounts s) (ho : Outcome cfg s a s') :
    SequenceCounts s' := by
  unfold SequenceCounts at hI ⊢
  cases ho with
  | quiet hword hhist hsent hcon hvideo => rw [hword, hhist, hI]
  | started hnone hword hhist hsent hvideo => rw [hword, hhist, hI]
  | consumed v word hv hc hword hhist hsent hvideo => rw [hword, consume_sequence, hhist, hI]
  | armed v ptsNs ha hv hfree hidle hcause hword hhist hsent hvideo =>
      rw [hword, hhist, hI, List.countP_cons_of_neg (by simp [SplitEvent.isPublished])]
  | landed v pkt hv hidle harmed hword hhist hsent hvideo =>
      rw [hword, hhist, hI, List.countP_cons_of_neg (by simp [SplitEvent.isPublished])]
  | published trigger hp hword hhist hsent hvideo =>
      rw [hword, hhist, splitRequestWith_sequence, hI, List.countP_cons_of_pos (by rfl),
        Nat.mod_add_mod]

theorem sequenceCounts_initial (callers : Nat → Requester) :
    SequenceCounts (.initial callers) := by
  have h0 : (unpackSplitRequest 0).sequence.toNat = 0 := by decide
  simp only [SequenceCounts, SplitState.initial, List.countP_nil, Nat.zero_mod]
  exact h0

theorem sequence_counts {callers : Nat → Requester} {as : List SplitAction}
    (he : exec (step cfg) (.initial callers) as = some s) : SequenceCounts s :=
  exec_invariant_all (I := SequenceCounts) (fun _ _ _ hI hs => hI.step (step_outcome hs))
    (sequenceCounts_initial callers) he

/-- The primary trigger of the word is an enumerator, so the cast that names a pending
    boundary's trigger is exact. -/
def PrimaryIsTrigger (s : SplitState) : Prop :=
  ∃ trigger : SplitTriggerSource,
    (unpackSplitRequest s.splitRequest).primaryTrigger = trigger.toUInt32

theorem primaryIsTrigger_initial (callers : Nat → Requester) :
    PrimaryIsTrigger (.initial callers) := by
  have h0 : (SplitState.initial callers).splitRequest = 0 := rfl
  unfold PrimaryIsTrigger
  rw [h0]
  exact ⟨.automaticDuration, by decide⟩

theorem PrimaryIsTrigger.step (hI : PrimaryIsTrigger s) (ho : Outcome cfg s a s') :
    PrimaryIsTrigger s' := by
  unfold PrimaryIsTrigger at hI ⊢
  cases ho with
  | quiet hword hhist hsent hcon hvideo => rwa [hword]
  | started hnone hword hhist hsent hvideo => rwa [hword]
  | armed v ptsNs ha hv hfree hidle hcause hword hhist hsent hvideo => rwa [hword]
  | landed v pkt hv hidle harmed hword hhist hsent hvideo => rwa [hword]
  | published trigger hp hword hhist hsent hvideo =>
      rw [hword]
      exact ⟨trigger, splitRequestWith_primary _ _⟩
  | consumed v word hv hc hword hhist hsent hvideo =>
      rw [hword]
      split
      · rename_i hw
        rw [unpack_splitRequestConsumed, ← hw]
        exact hI
      · exact hI

theorem primary_is_trigger {callers : Nat → Requester} {as : List SplitAction}
    (he : exec (step cfg) (.initial callers) as = some s) : PrimaryIsTrigger s :=
  exec_invariant_all (I := PrimaryIsTrigger) (fun _ _ _ hI hs => hI.step (step_outcome hs))
    (primaryIsTrigger_initial callers) he

end

end Exosnap.Engine.SplitCoordination
