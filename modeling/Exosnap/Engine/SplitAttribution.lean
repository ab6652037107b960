/-
  Which boundary reports which split request: the coalesce mask against the requests that were
  published since a boundary was last armed.

  `triggers_attributed_once`: every boundary reports exactly the triggers published since the
  boundary before it, and the word holds exactly those published since the latest one, in a run
  in which (1) no request is published between the load and the compare-exchange of
  `maybeArmSplit`, and (2) the duration timer alone arms no boundary while the mask is
  non-empty. Without (1) the compare-exchange fails, the mask stays, and the next boundary
  reports the same request again (`trigger_reported_twice`). Without (2) the boundary reports
  triggers it does not clear. The sequence counts the requests in every run.
-/
import Exosnap.Engine.SplitSteps

namespace Exosnap.Engine.SplitCoordination

open EventGroups StepRun

/-- The requests published since a boundary was last armed. -/
def unreported (history : List SplitEvent) : List SplitEvent :=
  openGroup SplitEvent.isPublished SplitEvent.isArmed history

/-- One bit for each trigger among the requests. -/
def triggerMask : List SplitEvent → UInt32
  | [] => 0
  | .published trigger :: g => triggerMask g ||| splitTriggerBit trigger.toUInt32
  | _ :: g => triggerMask g

def SplitEvent.reported : SplitEvent → UInt32
  | .armed _ coalesced => coalesced
  | _ => 0

/-- Every boundary reports the triggers of its own requests, those published since the boundary
    before it, and no others. -/
def AttributedOnce (history : List SplitEvent) : Prop :=
  AtBoundary SplitEvent.isPublished SplitEvent.isArmed (fun b g => b.reported = triggerMask g)
    history

instance (history : List SplitEvent) : Decidable (AttributedOnce history) := by
  unfold AttributedOnce
  infer_instance

/-- The mask of the word. -/
def coalescedTriggers (s : SplitState) : UInt32 :=
  (unpackSplitRequest s.splitRequest).coalescedTriggers

/-- The step arms a boundary for the duration timer, with no request to act on. -/
def armsByTimerAlone (s : SplitState) : SplitAction → Bool
  | .maybeArmSplit ptsNs =>
      match s.video with
      | some v => !v.splitArmed && !v.manual s.splitRequest && v.automatic ptsNs
      | none => false
  | _ => false

def ConsumesApart (s : SplitState) (a : SplitAction) : Prop :=
  (publishes s a → s.consuming = none) ∧
    (armsByTimerAlone s a → coalescedTriggers s = 0)

instance (s : SplitState) (a : SplitAction) : Decidable (ConsumesApart s a) := by
  unfold ConsumesApart
  infer_instance

/-! ## The invariant -/

/-- The triggers in the word are those not reported yet. Between the load and the
    compare-exchange they are all reported, and the word is the one that was loaded. -/
structure Attributed (s : SplitState) : Prop where
  once : AttributedOnce s.history
  held : s.consuming = none → coalescedTriggers s = triggerMask (unreported s.history)
  taken : ∀ word, s.consuming = some word → s.splitRequest = word ∧ unreported s.history = []

section
variable {cfg : SplitConfig} {s s' : SplitState} {a : SplitAction}

theorem unreported_landed (manual : Bool) (sentinel : SplitSentinel) (h : List SplitEvent) :
    unreported (.landed manual sentinel :: h) = unreported h :=
  openGroup_other rfl rfl

theorem unreported_armed (manual : Bool) (mask : UInt32) (h : List SplitEvent) :
    unreported (.armed manual mask :: h) = [] :=
  openGroup_boundary rfl

theorem triggerMask_published (trigger : SplitTriggerSource) (h : List SplitEvent) :
    triggerMask (unreported (.published trigger :: h)) =
      triggerMask (unreported h) ||| splitTriggerBit trigger.toUInt32 := by
  have hmem : unreported (.published trigger :: h) = .published trigger :: unreported h :=
    openGroup_member rfl rfl
  rw [hmem, triggerMask]

theorem Attributed.initial (callers : Nat → Requester) : Attributed (.initial callers) := by
  refine ⟨trivial, fun _ => ?_, fun word hc => by cases hc⟩
  show (unpackSplitRequest 0).coalescedTriggers = 0
  decide

/-- Steps that neither request nor report, and are no part of consuming. -/
theorem Attributed.same (hI : Attributed s) (hword : s'.splitRequest = s.splitRequest)
    (honce : AttributedOnce s'.history) (hunrep : unreported s'.history = unreported s.history)
    (hcon : s'.consuming = s.consuming) : Attributed s' := by
  refine ⟨honce, ?_, ?_⟩
  · intro hidle
    unfold coalescedTriggers
    rw [hword, hunrep]
    exact hI.held (hcon ▸ hidle)
  · intro word hc
    rw [hword, hunrep]
    exact hI.taken word (hcon ▸ hc)

theorem Attributed.published (hI : Attributed s) (hidle : s.consuming = none)
    {trigger : SplitTriggerSource}
    (hword : s'.splitRequest = splitRequestWith s.splitRequest trigger.toUInt32)
    (hhist : s'.history = .published trigger :: s.history) (hcon : s'.consuming = s.consuming) :
    Attributed s' := by
  refine ⟨by rw [hhist]; exact hI.once.other rfl, ?_, ?_⟩
  · intro _
    unfold coalescedTriggers
    rw [hword, splitRequestWith_coalesced, hhist, triggerMask_published, ← hI.held hidle]
    rfl
  · intro word hc
    rw [hcon, hidle] at hc
    cases hc

/-- The report is the mask as loaded. A boundary of the timer alone does not clear the mask,
    so it is faithful only when there is nothing to clear. -/
theorem Attributed.armed (hI : Attributed s) {v : VideoLocals} {ptsNs : UInt64}
    (hidle : s.consuming = none)
    (halone : v.manual s.splitRequest = false → coalescedTriggers s = 0)
    (hword : s'.splitRequest = s.splitRequest)
    (hhist : s'.history = .armed (v.manual s.splitRequest) (coalescedTriggers s) :: s.history)
    (hvideo : s'.video = some (v.arm s.splitRequest ptsNs)) : Attributed s' := by
  have hcon : s'.consuming = if v.manual s.splitRequest then some s.splitRequest else none := by
    rw [SplitState.consuming_of_video hvideo]
    rfl
  have hunrep : unreported s'.history = [] := by
    rw [hhist, unreported_armed]
  refine ⟨?_, ?_, ?_⟩
  · rw [hhist]
    exact hI.once.cons fun _ => hI.held hidle
  · intro hidle'
    have hman : v.manual s.splitRequest = false := by
      rw [hcon] at hidle'
      simpa using hidle'
    rw [hunrep]
    unfold coalescedTriggers
    rw [hword]
    exact halone hman
  · intro word hc
    have hw : s.splitRequest = word := by
      rw [hcon] at hc
      split at hc
      · exact Option.some.inj hc
      · cases hc
    exact ⟨hword.trans hw, hunrep⟩

theorem Attributed.consumed (hI : Attributed s) {word : UInt64}
    (hc : s.consuming = some word)
    (hword : s'.splitRequest =
      if s.splitRequest = word then splitRequestConsumed (unpackSplitRequest word)
      else s.splitRequest)
    (hhist : s'.history = s.history) (hcon : s'.consuming = none) : Attributed s' := by
  obtain ⟨hw, hunrep⟩ := hI.taken word hc
  rw [if_pos hw] at hword
  refine ⟨by rw [hhist]; exact hI.once, ?_, ?_⟩
  · intro _
    unfold coalescedTriggers
    rw [hword, unpack_splitRequestConsumed, hhist, hunrep, triggerMask]
  · intro word' hc'
    rw [hcon] at hc'
    cases hc'

theorem Attributed.step (hI : Attributed s) (hG : ConsumesApart s a)
    (ho : Outcome cfg s a s') : Attributed s' := by
  cases ho with
  | quiet hword hhist hsent hcon hvideo =>
      exact hI.same hword (hhist ▸ hI.once) (by rw [hhist]) hcon
  | published trigger hp hword hhist hsent hvideo =>
      refine hI.published (hG.1 hp) hword hhist ?_
      unfold SplitState.consuming
      rw [hvideo]
  | started hnone hword hhist hsent hvideo =>
      refine hI.same hword (hhist ▸ hI.once) (by rw [hhist]) ?_
      rw [SplitState.consuming_of_video hvideo]
      unfold SplitState.consuming
      rw [hnone]
      rfl
  | armed v ptsNs ha hv hfree hidle hcause hword hhist hsent hvideo =>
      refine hI.armed ((SplitState.consuming_of_video hv).trans hidle) ?_ hword hhist hvideo
      intro hman
      apply hG.2
      have hauto : v.automatic ptsNs = true := by simpa [hman] using hcause
      simp [armsByTimerAlone, ha, hv, hfree, hman, hauto]
  | consumed v word hv hc hword hhist hsent hvideo =>
      exact hI.consumed ((SplitState.consuming_of_video hv).trans hc) hword hhist
        (SplitState.consuming_of_video hvideo)
  | landed v pkt hv hidle harmed hword hhist hsent hvideo =>
      refine hI.same hword (hhist ▸ hI.once.other rfl) (by rw [hhist, unreported_landed]) ?_
      rw [SplitState.consuming_of_video hvideo, SplitState.consuming_of_video hv]
      rfl

end

/-! ## Results -/

theorem sequence_increases (word : UInt64) (trigger : UInt32)
    (h : (unpackSplitRequest word).sequence.toNat + 1 < 2 ^ 48) :
    (unpackSplitRequest word).sequence <
      (unpackSplitRequest (splitRequestWith word trigger)).sequence := by
  rw [UInt64.lt_iff_toNat_lt, splitRequestWith_sequence, Nat.mod_eq_of_lt h]
  exact Nat.lt_succ_self _

/-- Every boundary reports the triggers of its own requests; what is not reported is in the
    word; the sequence counts the requests and each of them advances it below 48 bits. -/
theorem triggers_attributed_once (cfg : SplitConfig) (callers : Nat → Requester)
    (as : List SplitAction) (s : SplitState)
    (hG : Meets (step cfg) ConsumesApart (.initial callers) as)
    (he : exec (step cfg) (.initial callers) as = some s) :
    AttributedOnce s.history ∧
      (s.consuming = none → coalescedTriggers s = triggerMask (unreported s.history)) ∧
      SequenceCounts s ∧
      ∀ trigger : UInt32, (unpackSplitRequest s.splitRequest).sequence.toNat + 1 < 2 ^ 48 →
        (unpackSplitRequest s.splitRequest).sequence <
          (unpackSplitRequest (splitRequestWith s.splitRequest trigger)).sequence := by
  have hI : Attributed s :=
    exec_invariant (fun _ _ _ hI hG hs => Attributed.step hI hG (step_outcome hs))
      (Attributed.initial callers) hG he
  exact ⟨hI.once, hI.held, sequence_counts he, sequence_increases s.splitRequest⟩

/-- Two requests for the frame at 100, one for the frame at 200. -/
def attributedRun : List SplitAction :=
  [.session true 7, .startVideo] ++ publishSteps 0 .manualButton 7 ++ publishSteps 1 .hotkey 7 ++
    frameSteps 100 ++ publishSteps 0 .manualButton 7 ++ frameSteps 200

/-- The masks: button (4) and hotkey (8) for the first boundary, button for the second. -/
theorem triggers_attributed_once_attributedRun :
    ∃ s, exec (step {}) (.initial fun _ => .idle) attributedRun = some s ∧
      (s.history.filter SplitEvent.isArmed) = [.armed true 4, .armed true 12] ∧
      AttributedOnce s.history ∧ SequenceCounts s := by
  obtain ⟨s, hs, hmasks⟩ := Option.map_eq_some_iff.mp
    (show (exec (step {}) (.initial fun _ => .idle) attributedRun).map
      (fun s => s.history.filter SplitEvent.isArmed) =
      some [.armed true 4, .armed true 12] by decide)
  have h := triggers_attributed_once {} (fun _ => .idle) attributedRun s (by decide) hs
  exact ⟨s, hs, hmasks, h.1, h.2.2.1⟩

/-- The hotkey request is published after `maybeArmSplit` loaded the word for the button's
    boundary and before its compare-exchange, which then fails. -/
def interruptedRun : List SplitAction :=
  [.session true 7, .startVideo] ++ publishSteps 0 .manualButton 7 ++ [.maybeArmSplit 100] ++
    publishSteps 1 .hotkey 7 ++
    [.consumeRequest, .routePacket { bytes := [1], ptsNs := 100, keyframe := true } true .ready,
      .maybeArmSplit 200]

/-- One button request, reported by both boundaries. -/
theorem trigger_reported_twice :
    ∃ s, exec (step {}) (.initial fun _ => .idle) interruptedRun = some s ∧
      s.history = [.armed true 12, .landed true ⟨1, .manualButton⟩, .published .hotkey,
        .armed true 4, .published .manualButton] ∧
      ¬ AttributedOnce s.history := by
  obtain ⟨s, hs, hhist⟩ := Option.map_eq_some_iff.mp
    (show (exec (step {}) (.initial fun _ => .idle) interruptedRun).map SplitState.history =
      some [.armed true 12, .landed true ⟨1, .manualButton⟩, .published .hotkey,
        .armed true 4, .published .manualButton] by decide)
  refine ⟨s, hs, hhist, ?_⟩
  rw [hhist]
  decide

end Exosnap.Engine.SplitCoordination
