/-
  The timeline of the constant-rate loop: which tick it stands at, and where its ticks went.

  A step holds the timeline, enters the ticks (after a resync, perhaps), or takes a tick that is
  submitted, fails in the encoder, or is dropped (`TimelineMove`). A run keeps the counts of the
  source beside the state: the drops of a tick by cause, and the frames a resync skipped.

  The next tick is the frame index times the interval in any run, in the 64 bits of the code. The
  counts and the PTS are those of the numbers where the interval is not 0 and no clock reading
  puts a PTS outside 64 bits (`ClockFits`).
-/
import Exosnap.Lib.StepRun
import Exosnap.Engine.CfrLoop
import Mathlib.Algebra.GroupWithZero.Nat

namespace Exosnap.Engine.CfrLoop

open StepRun

/-! ## The counts -/

inductive CfrTickDropCause where
  | pacing
  | processingFailure
  deriving DecidableEq, Repr

def classifyCfrTickDrop (hadSourceFrame referenceStorageAvailable : Bool) : CfrTickDropCause :=
  if hadSourceFrame then .processingFailure
  else if referenceStorageAvailable then .pacing
  else .processingFailure

/-- Why the tick is dropped, if it is. -/
def tickDrop (cfg : CfrConfig) (s : CfrState) : CfrAction → Option CfrTickDropCause
  | .tick inp =>
      match s.phase, inp.slot with
      | .ticks elapsed100ns catchUpFrames, some slot =>
          let tick := tickSource cfg s inp
          if (elapsed100ns ≥ s.nextTick100ns ∧ catchUpFrames < cfg.kMaxCatchUpFrames) ∧
              (writeSlot cfg tick.2 slot tick.1 inp).1 = .notWritten then
            some (classifyCfrTickDrop tick.1.isSome cfg.refAllocated)
          else none
      | _, _ => none
  | _ => none

/-- The state whose clock an iteration reads. -/
def openedAt (cfg : CfrConfig) (s : CfrState) (clock : ClockReadings) : CfrState :=
  openEpoch cfg (resumeEpoch s clock.pause) clock.epoch

def currentElapsed100ns (cfg : CfrConfig) (s : CfrState) (clock : ClockReadings) : UInt64 :=
  clock.now - (openedAt cfg s clock).epochQpc100ns

/-- The frames that `resync` skips. -/
def resyncSkip (cfg : CfrConfig) (s : CfrState) (elapsed100ns : UInt64) : UInt64 :=
  if nextLagTicks cfg s elapsed100ns ≥ kSustainedLagResyncTicks then
    computeCatchUpSkip (lag100ns s elapsed100ns) cfg.frameInterval100ns cfg.kMaxCatchUpFrames
  else 0

def skippedBy (cfg : CfrConfig) (s : CfrState) : CfrAction → UInt64
  | .enterTicks false clock true =>
      if (openedAt cfg s clock).videoEpochSet then
        resyncSkip cfg (openedAt cfg s clock) (currentElapsed100ns cfg s clock)
      else 0
  | _ => 0

structure TimelineRun where
  state : CfrState
  /-- `OnFrameDroppedCfr` -/
  pacingDrops : Nat := 0
  /-- `OnFrameDroppedProcessingFailure` -/
  processingDrops : Nat := 0
  /-- `OnPacingSlotsSkipped` -/
  skippedFrames : Nat := 0

def TimelineRun.count (c : TimelineRun) (cause : Option CfrTickDropCause) (skipped : UInt64)
    (s' : CfrState) : TimelineRun where
  state := s'
  pacingDrops := c.pacingDrops + if cause = some .pacing then 1 else 0
  processingDrops := c.processingDrops + if cause = some .processingFailure then 1 else 0
  skippedFrames := c.skippedFrames + skipped.toNat

def timelineStep (cfg : CfrConfig) (c : TimelineRun) (a : CfrAction) : Option TimelineRun :=
  (step cfg c.state a).map (c.count (tickDrop cfg c.state a) (skippedBy cfg c.state a))

/-- Frames submitted, ticks dropped, frames skipped. -/
def TimelineRun.total (c : TimelineRun) : Nat :=
  c.state.submissions.length + (c.pacingDrops + c.processingDrops) + c.skippedFrames

theorem TimelineRun.total_count (c : TimelineRun) (cause : Option CfrTickDropCause)
    (skipped : UInt64) (s' : CfrState) :
    (c.count cause skipped s').total + c.state.submissions.length =
      c.total + s'.submissions.length + (if cause.isSome then 1 else 0) + skipped.toNat := by
  unfold TimelineRun.total TimelineRun.count
  rcases cause with _ | _ | _ <;> simp <;> omega

/-! ## What a step does to the timeline -/

structure SameTimeline (s s' : CfrState) : Prop where
  cfrFrameIdx : s'.cfrFrameIdx = s.cfrFrameIdx
  nextTick100ns : s'.nextTick100ns = s.nextTick100ns
  submissions : s'.submissions = s.submissions
  videoEpochSet : s'.videoEpochSet = s.videoEpochSet

section
variable {cfg : CfrConfig} {s s' s'' : CfrState}

theorem SameTimeline.refl (s : CfrState) : SameTimeline s s := ⟨rfl, rfl, rfl, rfl⟩

theorem SameTimeline.trans (h : SameTimeline s s') (h' : SameTimeline s' s'') :
    SameTimeline s s'' :=
  ⟨h'.1.trans h.1, h'.2.trans h.2, h'.3.trans h.3, h'.4.trans h.4⟩

/-- The timeline and the phase stay. -/
def HeldBy (s s' : CfrState) : Prop := SameTimeline s s' ∧ s'.phase = s.phase

theorem odAcquire_timeline (check : OdFrameCheck) (frame : Image) (info : OdFrameInfo) :
    HeldBy s (odAcquire cfg s check frame info) := by
  unfold odAcquire writeOdFrame markOdFrame
  repeat' first | exact ⟨⟨rfl, rfl, rfl, rfl⟩, rfl⟩ | split

theorem odAcquireFailure_timeline (action : OdAcquireFailAction) (topologyChanged : Bool) :
    HeldBy s (odAcquireFailure s action topologyChanged) := by
  unfold odAcquireFailure
  repeat' first | exact ⟨⟨rfl, rfl, rfl, rfl⟩, rfl⟩ | split

theorem wgcDrain_timeline (count : Nat) (outcome : WgcFrameOutcome) :
    HeldBy s (wgcDrain s count outcome) := by
  unfold wgcDrain
  repeat' first | exact ⟨⟨rfl, rfl, rfl, rfl⟩, rfl⟩ | split

theorem discardCaptured_timeline (now : UInt64) : HeldBy s (discardCaptured cfg s now) := by
  unfold discardCaptured
  dsimp only
  split <;> exact ⟨⟨rfl, rfl, rfl, rfl⟩, rfl⟩

theorem tickSource_timeline (inp : TickInput) : HeldBy s (tickSource cfg s inp).2 := by
  unfold tickSource selectSource
  dsimp only
  repeat' first | exact ⟨⟨rfl, rfl, rfl, rfl⟩, rfl⟩ | split

theorem consumeSource_timeline : HeldBy s (consumeSource cfg s) := by
  unfold consumeSource
  repeat' first | exact ⟨⟨rfl, rfl, rfl, rfl⟩, rfl⟩ | split

theorem compositeTick_timeline (slot : Nat) (source : Image) (inp : TickInput) :
    HeldBy s (compositeTick cfg s slot source inp).2 := by
  unfold compositeTick
  dsimp only
  split
  · exact ⟨⟨rfl, rfl, rfl, rfl⟩, rfl⟩
  · obtain ⟨⟨hidx, htick, hsub, hset⟩, hphase⟩ := @consumeSource_timeline cfg { s with
      inputs :=
        if cfg.gpuCompositorReady then seedOdCursorFromWin32 cfg s.inputs inp.compositeCursor
        else s.inputs }
    split <;> exact ⟨⟨hidx, htick, hsub, hset⟩, hphase⟩

theorem writeSlot_timeline (slot : Nat) (source : Option Image) (inp : TickInput) :
    HeldBy s (writeSlot cfg s slot source inp).2 := by
  unfold writeSlot
  split
  · exact compositeTick_timeline slot _ inp
  · split <;> exact ⟨⟨rfl, rfl, rfl, rfl⟩, rfl⟩

/-- Before the epoch is set no tick has passed. -/
theorem openedAt_timeline (clock : ClockReadings)
    (hunopened : s.videoEpochSet = false → s.nextTick100ns = 0) :
    (openedAt cfg s clock).cfrFrameIdx = s.cfrFrameIdx ∧
      (openedAt cfg s clock).nextTick100ns = s.nextTick100ns ∧
      (openedAt cfg s clock).submissions = s.submissions ∧
      ((openedAt cfg s clock).videoEpochSet = false → s.videoEpochSet = false) ∧
      (openedAt cfg s clock).phase = s.phase := by
  unfold openedAt openEpoch
  have hresumed : HeldBy s (resumeEpoch s clock.pause) := by
    unfold resumeEpoch
    split <;> exact ⟨⟨rfl, rfl, rfl, rfl⟩, rfl⟩
  obtain ⟨⟨hidx, htick, hsub, hset⟩, hphase⟩ := hresumed
  split
  · next hopens =>
    simp only [hset, Bool.and_eq_true, Bool.not_eq_true'] at hopens
    exact ⟨hidx, (hunopened hopens.1).symm, hsub, fun h => (nomatch h), hphase⟩
  · exact ⟨hidx, htick, hsub, fun h => hset ▸ h, hphase⟩

/-! ## Steps -/

/-- What a step does to the timeline. -/
inductive TimelineMove (cfg : CfrConfig) (s : CfrState) (a : CfrAction) (s' : CfrState) : Prop
  | holds (hidx : s'.cfrFrameIdx = s.cfrFrameIdx) (htick : s'.nextTick100ns = s.nextTick100ns)
      (hsub : s'.submissions = s.submissions)
      (hset : s'.videoEpochSet = false → s.videoEpochSet = false)
      (hphase : s'.phase = s.phase ∨ s.phase ≠ .ended ∧ (s'.phase = .drain ∨ s'.phase = .ended))
      (hdrop : tickDrop cfg s a = none) (hskip : skippedBy cfg s a = 0)
  | enters (clock : ClockReadings) (ha : a = .enterTicks false clock true)
      (hset : (openedAt cfg s clock).videoEpochSet = true) (hfrom : s.phase = .drain)
      (hs' : s' = { resync cfg (openedAt cfg s clock) (currentElapsed100ns cfg s clock) with
        phase := .ticks (currentElapsed100ns cfg s clock) 0 })
  | submits (elapsed100ns catchUpFrames : UInt64) (sub : Submission)
      (hfrom : s.phase = .ticks elapsed100ns catchUpFrames)
      (hdue : s.nextTick100ns ≤ elapsed100ns)
      (hpts : sub.ptsNs = s.cfrFrameIdx * cfg.frameIntervalNs)
      (hsub : s'.submissions = s.submissions ++ [sub])
      (hset : s'.videoEpochSet = s.videoEpochSet)
      (hto : s'.cfrFrameIdx = s.cfrFrameIdx + 1 ∧
          s'.nextTick100ns = s.nextTick100ns + cfg.frameInterval100ns ∧
          s'.phase = .ticks elapsed100ns (catchUpFrames + 1) ∨
        s'.cfrFrameIdx = s.cfrFrameIdx ∧ s'.nextTick100ns = s.nextTick100ns ∧ s'.phase = .ended)
      (hdrop : tickDrop cfg s a = none) (hskip : skippedBy cfg s a = 0)
  | drops (elapsed100ns catchUpFrames : UInt64)
      (hfrom : s.phase = .ticks elapsed100ns catchUpFrames)
      (hdue : s.nextTick100ns ≤ elapsed100ns)
      (hidx : s'.cfrFrameIdx = s.cfrFrameIdx + 1)
      (htick : s'.nextTick100ns = s.nextTick100ns + cfg.frameInterval100ns)
      (hsub : s'.submissions = s.submissions)
      (hset : s'.videoEpochSet = s.videoEpochSet) (hphase : s'.phase = s.phase)
      (hdrop : (tickDrop cfg s a).isSome) (hskip : skippedBy cfg s a = 0)

theorem TimelineMove.held {a : CfrAction} (h : HeldBy s s') (hdrop : tickDrop cfg s a = none)
    (hskip : skippedBy cfg s a = 0) : TimelineMove cfg s a s' :=
  .holds h.1.cfrFrameIdx h.1.nextTick100ns h.1.submissions (fun hs => h.1.videoEpochSet ▸ hs)
    (.inl h.2) hdrop hskip

theorem enterTicks_cases (hunopened : s.videoEpochSet = false → s.nextTick100ns = 0)
    (hfrom : s.phase = .drain) (pauseRequested : Bool) (clock : ClockReadings) (reaped : Bool) :
    TimelineMove cfg s (.enterTicks pauseRequested clock reaped)
      (enterTicks cfg s pauseRequested clock reaped) := by
  obtain ⟨hidx, htick, hsub, hset, hphase⟩ := @openedAt_timeline cfg _ clock hunopened
  unfold enterTicks
  cases pauseRequested with
  | true => exact .held (discardCaptured_timeline clock.pause) rfl rfl
  | false =>
    show TimelineMove cfg s _ (if !(openedAt cfg s clock).videoEpochSet then openedAt cfg s clock
      else if !reaped then { openedAt cfg s clock with phase := .ended }
      else { resync cfg (openedAt cfg s clock) (currentElapsed100ns cfg s clock) with
        phase := .ticks (currentElapsed100ns cfg s clock) 0 })
    cases hopen : (openedAt cfg s clock).videoEpochSet with
    | false =>
      refine .holds hidx htick hsub hset (.inl hphase) rfl ?_
      cases reaped <;> simp [skippedBy, hopen]
    | true =>
      cases reaped with
      | false => exact .holds hidx htick hsub hset (.inr ⟨by simp [hfrom], .inr rfl⟩) rfl rfl
      | true => exact .enters clock rfl hopen hfrom rfl

/-- A picture that was written is submitted, and the tick is passed unless the loop ends. -/
theorem submit_cases {a : CfrAction} {w : CfrState} (hw : HeldBy s w) (slot : Nat)
    (duplicate : Bool) (inp : TickInput) {elapsed100ns catchUpFrames : UInt64}
    (hfrom : s.phase = .ticks elapsed100ns catchUpFrames) (hdue : s.nextTick100ns ≤ elapsed100ns)
    (hdrop : tickDrop cfg s a = none) (hskip : skippedBy cfg s a = 0) :
    TimelineMove cfg s a (submit cfg w slot (s.cfrFrameIdx * cfg.frameIntervalNs) duplicate inp
      elapsed100ns catchUpFrames) := by
  obtain ⟨⟨hidx, htick, hsub, hset⟩, hphase⟩ := hw
  refine .submits elapsed100ns catchUpFrames
    { slot := slot, ptsNs := s.cfrFrameIdx * cfg.frameIntervalNs, duplicate := duplicate
      content := (w.slots slot).content, reference := w.refNv12.map Prod.snd }
    hfrom hdue rfl ?_ ?_ ?_ hdrop hskip
  · rw [← hsub]
    unfold submit
    dsimp only
    repeat' first | rfl | split
  · rw [← hset]
    unfold submit
    dsimp only
    repeat' first | rfl | split
  · unfold submit
    dsimp only
    split
    · exact .inr ⟨hidx, htick, rfl⟩
    split
    · exact .inr ⟨hidx, htick, rfl⟩
    · exact .inl ⟨congrArg (· + 1) hidx, congrArg (· + cfg.frameInterval100ns) htick, rfl⟩

theorem tickWithSlot_cases {inp : TickInput} {slot : Nat} (hslot : inp.slot = some slot)
    {elapsed100ns catchUpFrames : UInt64} (hfrom : s.phase = .ticks elapsed100ns catchUpFrames)
    (hdue : elapsed100ns ≥ s.nextTick100ns ∧ catchUpFrames < cfg.kMaxCatchUpFrames) :
    TimelineMove cfg s (.tick inp) (tickWithSlot cfg s slot inp elapsed100ns catchUpFrames) := by
  have hdrop : tickDrop cfg s (.tick inp) =
      if (writeSlot cfg (tickSource cfg s inp).2 slot (tickSource cfg s inp).1 inp).1 =
        .notWritten then
        some (classifyCfrTickDrop (tickSource cfg s inp).1.isSome cfg.refAllocated)
      else none := by
    simp only [tickDrop, hfrom, hslot, hdue, true_and, and_self]
  have hsource := @tickSource_timeline cfg s inp
  have hwritten := @writeSlot_timeline cfg (tickSource cfg s inp).2 slot
    (tickSource cfg s inp).1 inp
  have hheld : HeldBy s (writeSlot cfg (tickSource cfg s inp).2 slot (tickSource cfg s inp).1
      inp).2 := ⟨hsource.1.trans hwritten.1, hwritten.2.trans hsource.2⟩
  obtain ⟨⟨hidx, htick, hsub, hset⟩, hphase⟩ := id hheld
  unfold tickWithSlot
  dsimp only
  split
  · next hend =>
    refine .holds hidx htick hsub (fun h => hset ▸ h) (.inr ⟨by simp [hfrom], .inr rfl⟩) ?_ rfl
    rw [hdrop, hend]
    rfl
  · next hnot =>
    refine .drops elapsed100ns catchUpFrames hfrom hdue.1 (congrArg (· + 1) hidx)
      (congrArg (· + cfg.frameInterval100ns) htick) hsub hset hphase ?_ rfl
    rw [hdrop, hnot]
    rfl
  · next hcomposited =>
    refine submit_cases hheld slot false inp hfrom hdue.1 ?_ rfl
    rw [hdrop, hcomposited]
    rfl
  · next hduplicated =>
    refine submit_cases hheld slot true inp hfrom hdue.1 ?_ rfl
    rw [hdrop, hduplicated]
    rfl

theorem tick_cases (inp : TickInput) {elapsed100ns catchUpFrames : UInt64}
    (hfrom : s.phase = .ticks elapsed100ns catchUpFrames) :
    TimelineMove cfg s (.tick inp) (tick cfg s elapsed100ns catchUpFrames inp) := by
  unfold tick
  split
  · next hdue =>
    split
    · next slot hslot => exact tickWithSlot_cases hslot hfrom hdue
    · next hslot =>
      have hdrop : tickDrop cfg s (.tick inp) = none := by simp only [tickDrop, hfrom, hslot]
      split
      · exact .holds rfl rfl rfl id (.inr ⟨by simp [hfrom], .inr rfl⟩) hdrop rfl
      · exact .holds rfl rfl rfl id (.inr ⟨by simp [hfrom], .inl rfl⟩) hdrop rfl
  · next hdue =>
    refine .holds rfl rfl rfl id (.inr ⟨by simp [hfrom], .inl rfl⟩) ?_ rfl
    simp only [tickDrop, hfrom]
    split
    · next hsame _ =>
      obtain ⟨rfl, rfl⟩ := CfrPhase.ticks.inj hsame
      exact if_neg fun h => hdue h.1
    · rfl

theorem step_cases (hunopened : s.videoEpochSet = false → s.nextTick100ns = 0) {a : CfrAction}
    (h : step cfg s a = some s') : TimelineMove cfg s a s' := by
  unfold step at h
  split at h
  · cases h
    exact .holds rfl rfl rfl id (.inl rfl) rfl rfl
  · next hfrom =>
    cases h
    split
    · exact .holds rfl rfl rfl id (.inr ⟨by simp [hfrom], .inr rfl⟩) rfl rfl
    · exact .holds rfl rfl rfl id (.inl rfl) rfl rfl
  · split at h
    · cases h
      exact .holds rfl rfl rfl id (.inl rfl) rfl rfl
    · cases h
  · split at h
    · cases h
      exact .held (odAcquire_timeline _ _ _) rfl rfl
    · cases h
  · split at h
    · cases h
      exact .held (odAcquireFailure_timeline _ _) rfl rfl
    · cases h
  · split at h
    · cases h
      exact .held (wgcDrain_timeline _ _) rfl rfl
    · cases h
  · next hfrom =>
    cases h
    exact enterTicks_cases hunopened hfrom _ _ _
  · next hfrom =>
    split at h
    · cases h
      exact tick_cases _ hfrom
    · cases h
  · cases h

/-! ## The resync -/

theorem computeCatchUpSkip_spec {lag interval budget : UInt64} (hinterval : 0 < interval.toNat) :
    (computeCatchUpSkip lag interval budget).toNat * interval.toNat ≤ lag.toNat ∧
      lag.toNat <
        ((computeCatchUpSkip lag interval budget).toNat + (budget.toNat + 1)) * interval.toNat := by
  have hne : interval ≠ 0 := by
    rintro rfl
    exact absurd hinterval (by decide)
  have hbehind : (lag / interval).toNat = lag.toNat / interval.toNat := UInt64.toNat_div ..
  have hbelow := Nat.div_mul_le_self lag.toNat interval.toNat
  have habove := Nat.lt_div_mul_add (a := lag.toNat) hinterval
  unfold computeCatchUpSkip
  rw [if_neg hne]
  dsimp only
  split
  · next hle =>
    rw [UInt64.le_iff_toNat_le, hbehind] at hle
    refine ⟨by simp, ?_⟩
    calc lag.toNat < lag.toNat / interval.toNat * interval.toNat + interval.toNat := habove
      _ ≤ budget.toNat * interval.toNat + interval.toNat :=
        Nat.add_le_add_right (Nat.mul_le_mul_right _ hle) _
      _ = (UInt64.toNat 0 + (budget.toNat + 1)) * interval.toNat := by simp [Nat.add_mul]
  · next hlt =>
    rw [UInt64.le_iff_toNat_le, hbehind, Nat.not_le] at hlt
    have hskip : (lag / interval - budget).toNat = lag.toNat / interval.toNat - budget.toNat := by
      rw [UInt64.toNat_sub_of_le _ _ (by rw [UInt64.le_iff_toNat_le, hbehind]; omega), hbehind]
    rw [hskip]
    constructor
    · exact (Nat.mul_le_mul_right _ (Nat.sub_le _ _)).trans hbelow
    · calc lag.toNat < lag.toNat / interval.toNat * interval.toNat + interval.toNat := habove
        _ = (lag.toNat / interval.toNat - budget.toNat + (budget.toNat + 1)) * interval.toNat := by
          rw [← Nat.add_assoc, Nat.sub_add_cancel hlt.le, Nat.add_mul, Nat.one_mul]

/-- The timeline after a resync that skips something stands behind the wall clock, by one
    catch-up budget and less than a frame. -/
theorem resyncSkip_spec (cfg : CfrConfig) (s : CfrState) (elapsed : UInt64)
    (hinterval : 0 < cfg.frameInterval100ns.toNat) (hskips : 0 < (resyncSkip cfg s elapsed).toNat) :
    s.nextTick100ns.toNat + (resyncSkip cfg s elapsed).toNat * cfg.frameInterval100ns.toNat ≤
        elapsed.toNat ∧
      elapsed.toNat < s.nextTick100ns.toNat + ((resyncSkip cfg s elapsed).toNat +
        (cfg.kMaxCatchUpFrames.toNat + 1)) * cfg.frameInterval100ns.toNat := by
  obtain ⟨hbelow, habove⟩ := @computeCatchUpSkip_spec (lag100ns s elapsed) _
    cfg.kMaxCatchUpFrames hinterval
  have hskip : resyncSkip cfg s elapsed = computeCatchUpSkip (lag100ns s elapsed)
      cfg.frameInterval100ns cfg.kMaxCatchUpFrames := by
    unfold resyncSkip at hskips ⊢
    split
    · rfl
    · next hnot =>
      rw [if_neg hnot] at hskips
      exact absurd hskips (by decide)
  rw [hskip] at hskips ⊢
  have hlag : s.nextTick100ns < elapsed ∧ lag100ns s elapsed = elapsed - s.nextTick100ns := by
    unfold lag100ns at hbelow ⊢
    split at hbelow
    · next hlt => exact ⟨hlt, if_pos hlt⟩
    · have hzero : 0 < (computeCatchUpSkip (lag100ns s elapsed) cfg.frameInterval100ns
          cfg.kMaxCatchUpFrames).toNat * cfg.frameInterval100ns.toNat :=
        Nat.mul_pos hskips hinterval
      unfold lag100ns at hzero
      rw [if_neg (by assumption)] at hzero
      exact absurd (hzero.trans_le hbelow) (by decide)
  have hlt := UInt64.lt_iff_toNat_lt.mp hlag.1
  have hdiff : (elapsed - s.nextTick100ns).toNat = elapsed.toNat - s.nextTick100ns.toNat :=
    UInt64.toNat_sub_of_le _ _ (UInt64.le_iff_toNat_le.mpr hlt.le)
  rw [hlag.2] at hbelow habove ⊢
  rw [hdiff] at hbelow habove
  omega

theorem resync_eq (cfg : CfrConfig) (s : CfrState) (elapsed : UInt64) :
    (resync cfg s elapsed).cfrFrameIdx = s.cfrFrameIdx + resyncSkip cfg s elapsed ∧
      (resync cfg s elapsed).nextTick100ns =
        s.nextTick100ns + resyncSkip cfg s elapsed * cfg.frameInterval100ns ∧
      (resync cfg s elapsed).submissions = s.submissions ∧
      (resync cfg s elapsed).videoEpochSet = s.videoEpochSet := by
  unfold resync resyncSkip
  dsimp only
  split
  · exact ⟨rfl, rfl, rfl, rfl⟩
  · simp

/-! ## The invariants -/

/-- In every run: no tick passes before the epoch, and the next tick is the index's. -/
structure OnTimeline (cfg : CfrConfig) (s : CfrState) : Prop where
  unopened : s.videoEpochSet = false → s.nextTick100ns = 0 ∧ ∀ e k, s.phase ≠ .ticks e k
  tick : s.nextTick100ns = s.cfrFrameIdx * cfg.frameInterval100ns

theorem OnTimeline.initial (cfg : CfrConfig) (inputs : VisualInputs) (textures : Nat → Picture) :
    OnTimeline cfg (.initial cfg inputs textures) where
  unopened _ := ⟨rfl, nofun⟩
  tick := UInt64.zero_mul.symm

theorem OnTimeline.move (hT : OnTimeline cfg s) {a : CfrAction} (h : TimelineMove cfg s a s') :
    OnTimeline cfg s' := by
  have hopen : ∀ e k, s.phase = .ticks e k → s.videoEpochSet = true := fun e k hphase => by
    rw [← Bool.not_eq_false]
    exact fun hset => (hT.unopened hset).2 e k hphase
  cases h with
  | holds hidx htick hsub hset hphase =>
    refine ⟨fun hs => ?_, by rw [hidx, htick, hT.tick]⟩
    obtain ⟨hzero, hno⟩ := hT.unopened (hset hs)
    refine ⟨htick.trans hzero, fun e k hto => ?_⟩
    rcases hphase with hsame | ⟨_, hdrain | hended⟩
    · exact hno e k (hsame ▸ hto)
    · exact nomatch hdrain.symm.trans hto
    · exact nomatch hended.symm.trans hto
  | enters clock ha hset hfrom hs' =>
    obtain ⟨hidx, htick, _⟩ := @openedAt_timeline cfg _ clock fun h => (hT.unopened h).1
    obtain ⟨hidx', htick', _, hset'⟩ := resync_eq cfg (openedAt cfg s clock)
      (currentElapsed100ns cfg s clock)
    subst hs'
    refine ⟨fun hs => (nomatch hset.symm.trans (hset'.symm.trans hs)), ?_⟩
    show (resync cfg _ _).nextTick100ns = (resync cfg _ _).cfrFrameIdx * _
    rw [hidx', htick', hidx, htick, hT.tick, UInt64.add_mul]
  | submits e k sub hfrom hdue hpts hsub hset hto =>
    refine ⟨fun hs => (nomatch (hopen e k hfrom).symm.trans (hset.symm.trans hs)), ?_⟩
    rcases hto with ⟨hidx, htick, _⟩ | ⟨hidx, htick, _⟩
    · rw [hidx, htick, hT.tick, UInt64.add_mul, UInt64.one_mul]
    · rw [hidx, htick, hT.tick]
  | drops e k hfrom hdue hidx htick hsub hset =>
    refine ⟨fun hs => (nomatch (hopen e k hfrom).symm.trans (hset.symm.trans hs)), ?_⟩
    rw [hidx, htick, hT.tick, UInt64.add_mul, UInt64.one_mul]

/-- The PTS of the ticks up to the wall clock, and of the one behind it, fit. -/
def ClockFits (cfg : CfrConfig) (s : CfrState) : CfrAction → Prop
  | .enterTicks false clock true =>
      (openedAt cfg s clock).videoEpochSet = true →
        ((currentElapsed100ns cfg s clock).toNat + cfg.frameInterval100ns.toNat) * 100 < 2 ^ 64
  | _ => True

instance (cfg : CfrConfig) (s : CfrState) (a : CfrAction) : Decidable (ClockFits cfg s a) := by
  unfold ClockFits
  split <;> infer_instance

/-- The PTS so far increase, each a multiple of the frame interval; before the end, below the next
    tick's. -/
structure PtsBelow (cfg : CfrConfig) (s : CfrState) : Prop where
  increasing : s.submissions.Pairwise fun earlier later => earlier.ptsNs < later.ptsNs
  multiples : ∀ sub ∈ s.submissions, ∃ n, sub.ptsNs.toNat = n * cfg.frameIntervalNs.toNat
  below : s.phase ≠ .ended → ∀ sub ∈ s.submissions,
    sub.ptsNs.toNat < s.cfrFrameIdx.toNat * cfg.frameIntervalNs.toNat

/-- What the clock has not exceeded. -/
structure InRange (cfg : CfrConfig) (s : CfrState) : Prop where
  tick : s.cfrFrameIdx.toNat * cfg.frameInterval100ns.toNat * 100 < 2 ^ 64
  ticking : ∀ e k, s.phase = .ticks e k → (e.toNat + cfg.frameInterval100ns.toNat) * 100 < 2 ^ 64

/-- Every index was submitted, dropped or skipped; the last submission of a run may have failed. -/
structure Counted (c : TimelineRun) : Prop where
  running : c.state.phase ≠ .ended → c.state.cfrFrameIdx.toNat = c.total
  ended : c.state.phase = .ended →
    c.state.cfrFrameIdx.toNat = c.total ∨ c.state.cfrFrameIdx.toNat + 1 = c.total

structure TimelineInv (cfg : CfrConfig) (c : TimelineRun) : Prop where
  range : InRange cfg c.state
  counted : Counted c
  pts : PtsBelow cfg c.state

theorem InRange.nextTick (hT : OnTimeline cfg s) (hR : InRange cfg s) :
    s.nextTick100ns.toNat = s.cfrFrameIdx.toNat * cfg.frameInterval100ns.toNat := by
  have hfits := hR.tick
  rw [hT.tick, UInt64.toNat_mul, Nat.mod_eq_of_lt (by omega)]

/-- The step past a tick that is due. -/
theorem InRange.advance (hT : OnTimeline cfg s) (hR : InRange cfg s)
    (hinterval : 0 < cfg.frameInterval100ns.toNat) {e k : UInt64} (hfrom : s.phase = .ticks e k)
    (hdue : s.nextTick100ns ≤ e) :
    (s.cfrFrameIdx + 1).toNat = s.cfrFrameIdx.toNat + 1 ∧
      (s.cfrFrameIdx.toNat + 1) * cfg.frameInterval100ns.toNat * 100 < 2 ^ 64 := by
  have hle := UInt64.le_iff_toNat_le.mp hdue
  have hfits := hR.ticking e k hfrom
  rw [hR.nextTick hT] at hle
  have hnext : (s.cfrFrameIdx.toNat + 1) * cfg.frameInterval100ns.toNat =
      s.cfrFrameIdx.toNat * cfg.frameInterval100ns.toNat + cfg.frameInterval100ns.toNat := by
    rw [Nat.add_mul, Nat.one_mul]
  have hidx : s.cfrFrameIdx.toNat + 1 ≤
      (s.cfrFrameIdx.toNat + 1) * cfg.frameInterval100ns.toNat := Nat.le_mul_of_pos_right _ hinterval
  refine ⟨?_, by omega⟩
  rw [UInt64.toNat_add]
  exact Nat.mod_eq_of_lt (show s.cfrFrameIdx.toNat + 1 < 2 ^ 64 by omega)

/-- The step over the frames that a resync skips. -/
theorem InRange.skip (hR : InRange cfg s)
    (hnext : s.nextTick100ns.toNat = s.cfrFrameIdx.toNat * cfg.frameInterval100ns.toNat)
    (hinterval : 0 < cfg.frameInterval100ns.toNat) {elapsed : UInt64}
    (hfits : (elapsed.toNat + cfg.frameInterval100ns.toNat) * 100 < 2 ^ 64) :
    (s.cfrFrameIdx + resyncSkip cfg s elapsed).toNat =
        s.cfrFrameIdx.toNat + (resyncSkip cfg s elapsed).toNat ∧
      (s.cfrFrameIdx.toNat + (resyncSkip cfg s elapsed).toNat) * cfg.frameInterval100ns.toNat *
        100 < 2 ^ 64 := by
  have hsplit : (s.cfrFrameIdx.toNat + (resyncSkip cfg s elapsed).toNat) *
      cfg.frameInterval100ns.toNat = s.cfrFrameIdx.toNat * cfg.frameInterval100ns.toNat +
        (resyncSkip cfg s elapsed).toNat * cfg.frameInterval100ns.toNat := Nat.add_mul ..
  have hidx : s.cfrFrameIdx.toNat + (resyncSkip cfg s elapsed).toNat ≤
      (s.cfrFrameIdx.toNat + (resyncSkip cfg s elapsed).toNat) * cfg.frameInterval100ns.toNat :=
    Nat.le_mul_of_pos_right _ hinterval
  have hrange : (s.cfrFrameIdx.toNat + (resyncSkip cfg s elapsed).toNat) *
      cfg.frameInterval100ns.toNat * 100 < 2 ^ 64 := by
    have htick := hR.tick
    rcases Nat.eq_zero_or_pos (resyncSkip cfg s elapsed).toNat with hzero | hskips
    · rwa [hzero, Nat.add_zero]
    · have hbelow := (resyncSkip_spec cfg s elapsed hinterval hskips).1
      omega
  refine ⟨?_, hrange⟩
  rw [UInt64.toNat_add]
  exact Nat.mod_eq_of_lt (by omega)

theorem InRange.ptsNs (hR : InRange cfg s) : (s.cfrFrameIdx * cfg.frameIntervalNs).toNat =
    s.cfrFrameIdx.toNat * cfg.frameIntervalNs.toNat := by
  have hfits := hR.tick
  rw [UInt64.toNat_mul, Nat.mod_eq_of_lt]
  rwa [cfg.frameIntervalNs_toNat, ← Nat.mul_assoc]

/-- Entering the ticks moves the index by what is skipped. -/
theorem InRange.enter (hT : OnTimeline cfg s) (hR : InRange cfg s)
    (hinterval : 0 < cfg.frameInterval100ns.toNat) {clock : ClockReadings}
    (hG : ClockFits cfg s (.enterTicks false clock true))
    (hset : (openedAt cfg s clock).videoEpochSet = true) (hfrom : s.phase = .drain)
    (hs' : s' = { resync cfg (openedAt cfg s clock) (currentElapsed100ns cfg s clock) with
      phase := .ticks (currentElapsed100ns cfg s clock) 0 }) :
    s'.cfrFrameIdx.toNat =
        s.cfrFrameIdx.toNat + (skippedBy cfg s (.enterTicks false clock true)).toNat ∧
      s'.cfrFrameIdx.toNat * cfg.frameInterval100ns.toNat * 100 < 2 ^ 64 ∧
      s'.submissions = s.submissions := by
  obtain ⟨hidx, htick, hsub, _, hphase⟩ := @openedAt_timeline cfg _ clock fun h =>
    (hT.unopened h).1
  obtain ⟨hidx', _, hsub', _⟩ := resync_eq cfg (openedAt cfg s clock)
    (currentElapsed100ns cfg s clock)
  have hopened : InRange cfg (openedAt cfg s clock) :=
    ⟨hidx ▸ hR.tick, fun e k hto => nomatch (hphase.trans hfrom).symm.trans hto⟩
  obtain ⟨hadd, hrange⟩ := hopened.skip (by rw [htick, hidx, hR.nextTick hT]) hinterval
    (hG hset)
  have hskip : skippedBy cfg s (.enterTicks false clock true) =
      resyncSkip cfg (openedAt cfg s clock) (currentElapsed100ns cfg s clock) := if_pos hset
  have hmoved : s'.cfrFrameIdx = (openedAt cfg s clock).cfrFrameIdx +
      resyncSkip cfg (openedAt cfg s clock) (currentElapsed100ns cfg s clock) := by
    rw [hs', ← hidx']
  rw [hmoved, hadd, hskip]
  exact ⟨by rw [hidx], hrange, by rw [hs']; exact hsub'.trans hsub⟩

theorem InRange.move (hT : OnTimeline cfg s) (hR : InRange cfg s)
    (hinterval : 0 < cfg.frameInterval100ns.toNat) {a : CfrAction} (hG : ClockFits cfg s a)
    (h : TimelineMove cfg s a s') : InRange cfg s' := by
  cases h with
  | holds hidx htick hsub hset hphase =>
    refine ⟨hidx ▸ hR.tick, fun e k hto => ?_⟩
    rcases hphase with hsame | ⟨_, hdrain | hended⟩
    · exact hR.ticking e k (hsame ▸ hto)
    · exact nomatch hdrain.symm.trans hto
    · exact nomatch hended.symm.trans hto
  | enters clock ha hset hfrom hs' =>
    subst ha
    refine ⟨(hR.enter hT hinterval hG hset hfrom hs').2.1, fun e k hto => ?_⟩
    rw [hs'] at hto
    obtain ⟨rfl, -⟩ := CfrPhase.ticks.inj hto
    exact hG hset
  | submits e k sub hfrom hdue hpts hsub hset hto =>
    rcases hto with ⟨hidx, _, hphase⟩ | ⟨hidx, _, hphase⟩
    · obtain ⟨hsucc, hrange⟩ := hR.advance hT hinterval hfrom hdue
      refine ⟨by rwa [hidx, hsucc], fun e' k' hto => ?_⟩
      obtain ⟨rfl, -⟩ := CfrPhase.ticks.inj (hphase.symm.trans hto)
      exact hR.ticking e k hfrom
    · exact ⟨hidx ▸ hR.tick, fun e' k' hto => nomatch hphase.symm.trans hto⟩
  | drops e k hfrom hdue hidx htick hsub hset hphase =>
    obtain ⟨hsucc, hrange⟩ := hR.advance hT hinterval hfrom hdue
    exact ⟨by rwa [hidx, hsucc], fun e' k' hto => hR.ticking e' k' (hphase ▸ hto)⟩

theorem Counted.of_eq {c : TimelineRun} (h : c.state.cfrFrameIdx.toNat = c.total) : Counted c :=
  ⟨fun _ => h, fun _ => .inl h⟩

/-- Each step adds to one count what it adds to the index. -/
theorem Counted.move {c : TimelineRun} (hC : Counted c) (hT : OnTimeline cfg c.state)
    (hR : InRange cfg c.state) (hinterval : 0 < cfg.frameInterval100ns.toNat) {a : CfrAction}
    (hG : ClockFits cfg c.state a) (h : TimelineMove cfg c.state a s') :
    Counted (c.count (tickDrop cfg c.state a) (skippedBy cfg c.state a) s') := by
  have htotal := c.total_count (tickDrop cfg c.state a) (skippedBy cfg c.state a) s'
  cases h with
  | holds hidx htick hsub hset hphase hdrop hskip =>
    have hsame : (c.count (tickDrop cfg c.state a) (skippedBy cfg c.state a) s').total =
        c.total := by
      rw [hdrop, hskip, hsub] at htotal
      rw [hdrop, hskip]
      simpa using htotal
    by_cases hp : c.state.phase = .ended
    · refine ⟨fun hrunning => absurd ?_ hrunning, fun _ => ?_⟩
      · rcases hphase with hp' | ⟨hp', _⟩
        · exact hp'.trans hp
        · exact absurd hp hp'
      · rw [hsame]
        exact hidx ▸ hC.ended hp
    · refine .of_eq ?_
      rw [hsame, ← hC.running hp]
      exact congrArg UInt64.toNat hidx
  | enters clock ha hset hfrom hs' =>
    subst ha
    obtain ⟨hidx, _, hsub⟩ := hR.enter hT hinterval hG hset hfrom hs'
    have hrunning := hC.running (by rw [hfrom]; exact nofun)
    rw [show tickDrop cfg c.state (.enterTicks false clock true) = none from rfl, hsub] at htotal
    simp only [Option.isSome_none, Bool.false_eq_true, if_false] at htotal
    refine .of_eq (hidx.trans ?_)
    rw [show tickDrop cfg c.state (.enterTicks false clock true) = none from rfl]
    omega
  | submits e k sub hfrom hdue hpts hsub hset hto hdrop hskip =>
    have hrunning := hC.running (by rw [hfrom]; exact nofun)
    have hmore : (c.count (tickDrop cfg c.state a) (skippedBy cfg c.state a) s').total =
        c.total + 1 := by
      rw [hdrop, hskip, hsub] at htotal
      rw [hdrop, hskip]
      simp only [List.length_append, List.length_singleton, Option.isSome_none, Bool.false_eq_true,
        if_false, UInt64.toNat_zero] at htotal
      omega
    rcases hto with ⟨hidx, _, _⟩ | ⟨hidx, _, hend⟩
    · refine .of_eq ?_
      rw [hmore, ← hrunning, ← (hR.advance hT hinterval hfrom hdue).1]
      exact congrArg UInt64.toNat hidx
    · refine ⟨fun h => absurd hend h, fun _ => .inr ?_⟩
      rw [hmore, ← hrunning]
      exact congrArg (UInt64.toNat · + 1) hidx
  | drops e k hfrom hdue hidx htick hsub hset hphase hdrop hskip =>
    have hrunning := hC.running (by rw [hfrom]; exact nofun)
    refine .of_eq ?_
    rw [hskip, hsub, if_pos hdrop, UInt64.toNat_zero] at htotal
    have hsucc := (hR.advance hT hinterval hfrom hdue).1
    have hstate : (c.count (tickDrop cfg c.state a) (skippedBy cfg c.state a) s').state.cfrFrameIdx =
        c.state.cfrFrameIdx + 1 := hidx
    rw [hstate, hsucc, hskip]
    omega

/-- A submission is the next tick's, and every later one is behind it. -/
theorem PtsBelow.move (hP : PtsBelow cfg s) (hT : OnTimeline cfg s) (hR : InRange cfg s)
    (hinterval : 0 < cfg.frameInterval100ns.toNat) {a : CfrAction} (hG : ClockFits cfg s a)
    (h : TimelineMove cfg s a s') : PtsBelow cfg s' := by
  have hns : 0 < cfg.frameIntervalNs.toNat := by
    rw [cfg.frameIntervalNs_toNat]
    omega
  cases h with
  | holds hidx htick hsub hset hphase hdrop hskip =>
    refine ⟨hsub ▸ hP.increasing, hsub ▸ hP.multiples, fun hrunning => ?_⟩
    rw [hsub, hidx]
    refine hP.below fun hended => ?_
    rcases hphase with hp | ⟨hp, _⟩
    · exact hrunning (hp.trans hended)
    · exact hp hended
  | enters clock ha hset hfrom hs' =>
    subst ha
    obtain ⟨hidx, _, hsub⟩ := hR.enter hT hinterval hG hset hfrom hs'
    refine ⟨hsub ▸ hP.increasing, hsub ▸ hP.multiples, fun _ sub hmem => ?_⟩
    have hbelow := hP.below (by rw [hfrom]; exact nofun) sub (hsub ▸ hmem)
    rw [hidx]
    exact hbelow.trans_le (Nat.mul_le_mul_right _ (Nat.le_add_right _ _))
  | submits e k sub hfrom hdue hpts hsub hset hto hdrop hskip =>
    have hbelow := hP.below (by rw [hfrom]; exact nofun)
    have hnat : sub.ptsNs.toNat = s.cfrFrameIdx.toNat * cfg.frameIntervalNs.toNat := by
      rw [hpts, hR.ptsNs]
    refine ⟨?_, ?_, fun hrunning => ?_⟩
    · rw [hsub, List.pairwise_append]
      refine ⟨hP.increasing, List.pairwise_singleton .., fun earlier hmem later hlater => ?_⟩
      obtain rfl := List.mem_singleton.mp hlater
      rw [UInt64.lt_iff_toNat_lt, hnat]
      exact hbelow earlier hmem
    · rw [hsub]
      intro other hmem
      rcases List.mem_append.mp hmem with hold | hnew
      · exact hP.multiples other hold
      · obtain rfl := List.mem_singleton.mp hnew
        exact ⟨_, hnat⟩
    · rcases hto with ⟨hidx, _, _⟩ | ⟨_, _, hend⟩
      · rw [hsub, hidx, (hR.advance hT hinterval hfrom hdue).1, Nat.add_mul, Nat.one_mul]
        intro other hmem
        rcases List.mem_append.mp hmem with hold | hnew
        · exact (hbelow other hold).trans_le (Nat.le_add_right _ _)
        · obtain rfl := List.mem_singleton.mp hnew
          rw [hnat]
          exact Nat.lt_add_of_pos_right hns
      · exact absurd hend hrunning
  | drops e k hfrom hdue hidx htick hsub hset hphase hdrop hskip =>
    refine ⟨hsub ▸ hP.increasing, hsub ▸ hP.multiples, fun _ sub hmem => ?_⟩
    have hbelow := hP.below (by rw [hfrom]; exact nofun) sub (hsub ▸ hmem)
    rw [hidx, (hR.advance hT hinterval hfrom hdue).1]
    exact hbelow.trans_le (Nat.mul_le_mul_right _ (Nat.le_succ _))

/-- A resync ends behind the wall clock, by a catch-up budget and a frame at most. -/
theorem TimelineMove.resynced {a : CfrAction} (h : TimelineMove cfg s a s') (hskips : 0 < (skippedBy cfg s a).toNat) :
    ∃ elapsed, s'.phase = .ticks elapsed 0 ∧ s'.nextTick100ns ≤ elapsed ∧
      elapsed.toNat - s'.nextTick100ns.toNat ≤
        (cfg.kMaxCatchUpFrames.toNat + 1) * cfg.frameInterval100ns.toNat := by
  cases h with
  | holds _ _ _ _ _ _ hskip => exact absurd hskips (by rw [hskip]; decide)
  | submits _ _ _ _ _ _ _ _ _ _ hskip => exact absurd hskips (by rw [hskip]; decide)
  | drops _ _ _ _ _ _ _ _ _ _ hskip => exact absurd hskips (by rw [hskip]; decide)
  | enters clock ha hset hfrom hs' =>
    subst ha
    have hskip : skippedBy cfg s (.enterTicks false clock true) =
        resyncSkip cfg (openedAt cfg s clock) (currentElapsed100ns cfg s clock) := if_pos hset
    rw [hskip] at hskips
    have hinterval : 0 < cfg.frameInterval100ns.toNat := by
      refine Nat.pos_of_ne_zero fun hzero => ?_
      have hnone : computeCatchUpSkip (lag100ns (openedAt cfg s clock)
          (currentElapsed100ns cfg s clock)) cfg.frameInterval100ns cfg.kMaxCatchUpFrames = 0 :=
        if_pos (UInt64.toNat_inj.mp hzero)
      unfold resyncSkip at hskips
      rw [hnone, ite_self] at hskips
      exact absurd hskips (by decide)
    obtain ⟨hbelow, habove⟩ := resyncSkip_spec cfg (openedAt cfg s clock)
      (currentElapsed100ns cfg s clock) hinterval hskips
    have hnext : s'.nextTick100ns.toNat = (openedAt cfg s clock).nextTick100ns.toNat +
        (resyncSkip cfg (openedAt cfg s clock) (currentElapsed100ns cfg s clock)).toNat *
          cfg.frameInterval100ns.toNat := by
      have hlt := (currentElapsed100ns cfg s clock).toNat_lt
      rw [hs']
      show (resync cfg _ _).nextTick100ns.toNat = _
      rw [(resync_eq cfg _ _).2.1, UInt64.toNat_add, UInt64.toNat_mul, Nat.add_mod_mod,
        Nat.mod_eq_of_lt (by omega)]
    refine ⟨currentElapsed100ns cfg s clock, by rw [hs'], ?_, ?_⟩
    · rw [UInt64.le_iff_toNat_le, hnext]
      exact hbelow
    · rw [Nat.add_mul] at habove
      omega

/-! ## Runs -/

theorem timelineStep_some {c c' : TimelineRun} {a : CfrAction} (hT : OnTimeline cfg c.state)
    (h : timelineStep cfg c a = some c') : ∃ s', TimelineMove cfg c.state a s' ∧
      c' = c.count (tickDrop cfg c.state a) (skippedBy cfg c.state a) s' := by
  obtain ⟨s', hstep, rfl⟩ := Option.map_eq_some_iff.mp h
  exact ⟨s', step_cases (fun hs => (hT.unopened hs).1) hstep, rfl⟩

theorem onTimeline_run {inputs : VisualInputs} {textures : Nat → Picture} {as : List CfrAction}
    {c : TimelineRun}
    (hrun : exec (timelineStep cfg) ⟨.initial cfg inputs textures, 0, 0, 0⟩ as = some c) :
    OnTimeline cfg c.state := by
  refine exec_invariant_all (I := fun c => OnTimeline cfg c.state) (fun c a c' hT hstep => ?_)
    (.initial cfg inputs textures) hrun
  obtain ⟨s', hmove, rfl⟩ := timelineStep_some hT hstep
  exact hT.move hmove

theorem timelineInv_run (hinterval : 0 < cfg.frameInterval100ns.toNat) {inputs : VisualInputs}
    {textures : Nat → Picture} {as : List CfrAction} {c : TimelineRun}
    (hclock : Meets (timelineStep cfg) (fun c a => ClockFits cfg c.state a)
      ⟨.initial cfg inputs textures, 0, 0, 0⟩ as)
    (hrun : exec (timelineStep cfg) ⟨.initial cfg inputs textures, 0, 0, 0⟩ as = some c) :
    TimelineInv cfg c := by
  refine (exec_invariant (I := fun c => OnTimeline cfg c.state ∧ TimelineInv cfg c)
    (fun c a c' hI hG hstep => ?_) ⟨.initial cfg inputs textures, ?_, ?_, ?_⟩ hclock hrun).2
  · obtain ⟨hT, hR, hC, hP⟩ := hI
    obtain ⟨s', hmove, rfl⟩ := timelineStep_some hT hstep
    exact ⟨hT.move hmove, hR.move hT hinterval hG hmove, hC.move hT hR hinterval hG hmove,
      hP.move hT hR hinterval hG hmove⟩
  · exact ⟨by simp [CfrState.initial], nofun⟩
  · exact .of_eq rfl
  · exact ⟨.nil, fun _ h => absurd h List.not_mem_nil, fun _ _ h => absurd h List.not_mem_nil⟩

end

/-- The next tick is the index's in every run, and a resync keeps behind the wall clock. Where the
    interval is not 0 and the clock fits, the submitted PTS increase in multiples of the interval,
    and every index was submitted, dropped or skipped. -/
theorem cfr_timeline_accounting (cfg : CfrConfig) (inputs : VisualInputs)
    (textures : Nat → Picture) (as : List CfrAction) (c : TimelineRun)
    (hrun : exec (timelineStep cfg) ⟨.initial cfg inputs textures, 0, 0, 0⟩ as = some c) :
    c.state.nextTick100ns = c.state.cfrFrameIdx * cfg.frameInterval100ns ∧
      (∀ a c', timelineStep cfg c a = some c' → c.skippedFrames < c'.skippedFrames →
        ∃ elapsed, c'.state.phase = .ticks elapsed 0 ∧ c'.state.nextTick100ns ≤ elapsed ∧
          elapsed.toNat - c'.state.nextTick100ns.toNat ≤
            (cfg.kMaxCatchUpFrames.toNat + 1) * cfg.frameInterval100ns.toNat) ∧
      (0 < cfg.frameInterval100ns →
        Meets (timelineStep cfg) (fun c a => ClockFits cfg c.state a)
          ⟨.initial cfg inputs textures, 0, 0, 0⟩ as →
        (c.state.submissions.Pairwise fun earlier later => earlier.ptsNs < later.ptsNs) ∧
          (∀ sub ∈ c.state.submissions, ∃ n, sub.ptsNs.toNat = n * cfg.frameIntervalNs.toNat) ∧
          Counted c) := by
  have hT := onTimeline_run hrun
  refine ⟨hT.tick, fun a c' hstep hskips => ?_, fun hinterval hclock => ?_⟩
  · obtain ⟨s', hmove, rfl⟩ := timelineStep_some hT hstep
    exact hmove.resynced (Nat.pos_of_lt_add_right hskips)
  · have hI := timelineInv_run (UInt64.lt_iff_toNat_lt.mp hinterval) hclock hrun
    exact ⟨hI.pts.increasing, hI.pts.multiples, hI.counted⟩

/-- A window at 60 frames a second. -/
def windowConfig : CfrConfig := { useOdCapture := false, firstFrame := some 1, slotCount := 2 }

def iterationAt (now : UInt64) (ticks : List TickInput) : List CfrAction :=
  .enterTicks false { pause := 0, epoch := 1000000, now := now } true ::
    (ticks ++ [({ slot := none } : TickInput)]).map .tick

/-- A frame that is submitted, one whose conversion fails, no slot for two seconds, the resync. -/
def laggingRun : List CfrAction :=
  iterationAt 1000000 [{ slot := some 0 }] ++ [.wgcDrain 1 (.encode 2)] ++
    iterationAt 1166666 [{ slot := some 1, convert := .dropped }] ++ iterationAt 21000000 [] ++
    iterationAt 21000000 [] ++ iterationAt 21000000 [{ slot := some 0 }]

theorem cfr_timeline_accounting_laggingRun :
    ∃ c ∈ exec (timelineStep windowConfig)
        ⟨.initial windowConfig {} fun _ => { screen := 0 }, 0, 0, 0⟩ laggingRun,
      c.state.submissions.map Submission.ptsNs = [0, 999996000] ∧ c.processingDrops = 1 ∧
        c.skippedFrames = 58 ∧ c.state.nextTick100ns = c.state.cfrFrameIdx * 166666 ∧
        (c.state.submissions.Pairwise fun earlier later => earlier.ptsNs < later.ptsNs) ∧
        (∀ sub ∈ c.state.submissions,
          ∃ n, sub.ptsNs.toNat = n * windowConfig.frameIntervalNs.toNat) ∧
        Counted c := by
  have hruns : ∃ c ∈ exec (timelineStep windowConfig)
        ⟨.initial windowConfig {} fun _ => { screen := 0 }, 0, 0, 0⟩ laggingRun,
      c.state.submissions.map Submission.ptsNs = [0, 999996000] ∧ c.processingDrops = 1 ∧
        c.skippedFrames = 58 := by
    decide
  obtain ⟨c, hc, hpts, hdrops, hskipped⟩ := hruns
  obtain ⟨htick, _, hfits⟩ := cfr_timeline_accounting _ _ _ _ c hc
  exact ⟨c, hc, hpts, hdrops, hskipped, htick, hfits (by decide) (by decide)⟩

/-- Above ten million frames a second the interval is 0; and after 584 years the PTS wrap. -/
theorem cfr_timeline_accounting_exceptions :
    (∃ c ∈ exec (timelineStep { windowConfig with frameRateNum := 20000000 })
        ⟨.initial { windowConfig with frameRateNum := 20000000 } {} fun _ => { screen := 0 }, 0, 0,
          0⟩ (iterationAt 1000000 [{ slot := some 0 }, { slot := some 1 }]),
      c.state.submissions.map Submission.ptsNs = [0, 0]) ∧
      ∃ c ∈ exec (timelineStep windowConfig)
          ⟨.initial windowConfig {} fun _ => { screen := 0 }, 0, 0, 0⟩
          (iterationAt 184467440747952188 [] ++ iterationAt 184467440747952188 [] ++
            iterationAt 184467440747952188 [{ slot := some 0 }, { slot := some 1 }]),
        c.state.submissions.map Submission.ptsNs = [18446744073695222800, 2337784] := by
  constructor <;> decide

end Exosnap.Engine.CfrLoop
