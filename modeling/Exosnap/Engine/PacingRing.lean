/-
  The phase-correct pacing ring: what becomes of the frames that were captured.

  The drain writes the ring round robin, a tick reads its live entries oldest first and emits the
  one nearest to its slot, and a pause clears it. `RingRun` keeps a record of one stretch between
  two pauses beside the state: which frames were captured, which were emitted and from what list,
  which left the ring otherwise, and what the counters of the source were told.

  The present times of the live entries ascend because the ring is read from the place that is
  written next, and an emission consumes everything up to the emitted frame. So every live entry
  is fresh, and the entries that leave the ring are the ones that are counted.
-/
import Exosnap.Lib.RotatingRing
import Exosnap.Engine.CfrReuse

namespace Exosnap.Engine.CfrLoop

open StepRun

/-! ## The choice of a frame -/

/-- The entry the loop of smooth mode ends with: none is nearer. -/
theorem nearestToSlot_spec (slotQpc : UInt64) (qs : List UInt64) :
    ∀ (i : Nat) (best : UInt64) (chosen : Nat),
      (nearestToSlot slotQpc qs i best chosen = chosen ∧ ∀ q ∈ qs, best ≤ slotDistance q slotQpc) ∨
        ∃ (k : Nat) (hk : k < qs.length), nearestToSlot slotQpc qs i best chosen = i + k ∧
          slotDistance qs[k] slotQpc < best ∧
          ∀ q ∈ qs, slotDistance qs[k] slotQpc ≤ slotDistance q slotQpc := by
  induction qs with
  | nil => exact fun _ _ _ => .inl ⟨rfl, nofun⟩
  | cons q qs ih =>
    intro i best chosen
    unfold nearestToSlot
    split
    · next hnearer =>
      rcases ih (i + 1) (slotDistance q slotQpc) i with ⟨hsame, hmin⟩ | ⟨k, hk, hres, hlt, hmin⟩
      · refine .inr ⟨0, Nat.zero_lt_succ _, hsame, hnearer, fun r hr => ?_⟩
        rcases List.mem_cons.mp hr with rfl | hr
        · exact UInt64.le_refl _
        · exact hmin r hr
      · refine .inr ⟨k + 1, Nat.succ_lt_succ hk, by omega, UInt64.lt_trans hlt hnearer, fun r hr => ?_⟩
        rcases List.mem_cons.mp hr with rfl | hr
        · exact UInt64.le_of_lt hlt
        · exact hmin r hr
    · next hfarther =>
      have hle : best ≤ slotDistance q slotQpc := UInt64.not_lt.mp hfarther
      rcases ih (i + 1) best chosen with ⟨hsame, hmin⟩ | ⟨k, hk, hres, hlt, hmin⟩
      · refine .inl ⟨hsame, fun r hr => ?_⟩
        rcases List.mem_cons.mp hr with rfl | hr
        · exact hle
        · exact hmin r hr
      · refine .inr ⟨k + 1, Nat.succ_lt_succ hk, by omega, hlt, fun r hr => ?_⟩
        rcases List.mem_cons.mp hr with rfl | hr
        · exact UInt64.le_of_lt (UInt64.lt_of_lt_of_le hlt hle)
        · exact hmin r hr

/-- With every entry fresh, one nearest to the slot is emitted and every older one is counted. -/
theorem selectFrameForSlot_fresh {qs : List UInt64} {slotQpc last : UInt64}
    (hfresh : ∀ q ∈ qs, last < q) (hne : qs ≠ []) :
    ∃ (i : Nat) (hi : i < qs.length), selectFrameForSlot qs slotQpc last .smooth = ⟨true, i, i⟩ ∧
      ∀ q ∈ qs, slotDistance qs[i] slotQpc ≤ slotDistance q slotQpc := by
  have hpos : 0 < qs.length := List.length_pos_iff.mpr hne
  have hfirst : qs.findIdx (fun p => decide (p > last)) = 0 := by
    cases qs with
    | nil => exact absurd rfl hne
    | cons q qs =>
      rw [List.findIdx_cons, decide_eq_true (hfresh q List.mem_cons_self)]
      rfl
  have hselect : selectFrameForSlot qs slotQpc last .smooth =
      ⟨true, nearestToSlot slotQpc qs 0 (~~~0) 0, nearestToSlot slotQpc qs 0 (~~~0) 0⟩ := by
    simp only [selectFrameForSlot, hfirst, List.drop_zero, Nat.sub_zero]
    rw [if_neg hpos.ne]
  rcases nearestToSlot_spec slotQpc qs 0 (~~~0) 0 with ⟨hsame, hmin⟩ | ⟨k, hk, hres, _, hmin⟩
  · -- every entry is as far away as can be
    refine ⟨0, hpos, by rw [hselect, hsame], fun q hq => UInt64.le_trans ?_ (hmin q hq)⟩
    rw [UInt64.le_iff_toNat_le]
    exact Nat.le_of_lt_succ (UInt64.toNat_lt _)
  · rw [Nat.zero_add] at hres
    exact ⟨k, hk, by rw [hselect, hres], hmin⟩

/-! ## The list of a tick -/

def qpcs (s : CfrState) : List UInt64 := s.captureRing.map CaptureRingEntry.presentQpc

/-- What a tick hands to `selectFrameForSlot`. -/
def presentQpcsAscending (s : CfrState) : List UInt64 := (liveEntries s).map Prod.snd

theorem map_snd_live (f : Nat → UInt64) (places : List Nat) :
    (places.filterMap fun phys => if f phys != 0 then some (phys, f phys) else none).map Prod.snd =
      (places.map f).filter (· != 0) := by
  induction places with
  | nil => rfl
  | cons phys places ih =>
    rw [List.filterMap_cons, List.map_cons, List.filter_cons]
    by_cases hlive : (f phys != 0) = true
    · rw [if_pos hlive, if_pos hlive, List.map_cons, ih]
    · rw [if_neg hlive, if_neg hlive, ih]

theorem presentQpcsAscending_eq (s : CfrState) :
    presentQpcsAscending s = RotatingRing.pending (· != 0) (qpcs s) s.ringHead := by
  have hplaces : ((List.range s.captureRing.length).map fun i =>
      (s.ringHead + i) % s.captureRing.length).map (fun phys =>
        (s.captureRing.getD phys {}).presentQpc) = (qpcs s).rotate s.ringHead := by
    apply List.ext_getElem
    · simp [qpcs]
    · intro k hk hk'
      have hlt : (k + s.ringHead) % s.captureRing.length < s.captureRing.length := by
        apply Nat.mod_lt
        simp at hk
        omega
      simp [qpcs, List.getElem_rotate, Nat.add_comm s.ringHead k, hlt]
  unfold presentQpcsAscending liveEntries RotatingRing.pending
  rw [← hplaces]
  exact map_snd_live _ _

/-! ## What a step does to the ring -/

inductive RingEvent where
  | quiet
  | captured (presentQpc : UInt64)
  | emitted (dec : PacingDecision)
  | discarded
  deriving DecidableEq, Repr

def ringEvent (cfg : CfrConfig) (s : CfrState) : CfrAction → RingEvent
  | .odAcquire .ok _ info =>
      if info.lastPresentTime = 0 then .quiet else .captured info.lastPresentTime
  | .tick inp => if emitsEntry cfg s inp then .emitted (pacingDecision cfg s) else .quiet
  | .enterTicks true _ _ => .discarded
  | _ => .quiet

structure SameRing (s s' : CfrState) : Prop where
  captureRing : s'.captureRing = s.captureRing
  ringHead : s'.ringHead = s.ringHead
  lastEmittedPresentQpc : s'.lastEmittedPresentQpc = s.lastEmittedPresentQpc

/-- What a step does to the ring, by its event. -/
inductive RingMove (cfg : CfrConfig) (s s' : CfrState) : RingEvent → Prop
  | quiet (h : SameRing s s') : RingMove cfg s s' .quiet
  | captured {p : UInt64} (hqpcs : qpcs s' = (qpcs s).set s.ringHead p)
      (hhead : s'.ringHead = (s.ringHead + 1) % (qpcs s).length)
      (hlast : s'.lastEmittedPresentQpc = s.lastEmittedPresentQpc)
      (hdropped : s'.droppedFrames = s.droppedFrames +
        if (qpcs s).getD s.ringHead 0 != 0 &&
          decide ((qpcs s).getD s.ringHead 0 > s.lastEmittedPresentQpc) then 1 else 0) :
      RingMove cfg s s' (.captured p)
  | emitted (hemit : (pacingDecision cfg s).emit = true)
      (hlast : s'.lastEmittedPresentQpc =
        (presentQpcsAscending s).getD (pacingDecision cfg s).index 0)
      (hqpcs : qpcs s' = (qpcs s).map fun q =>
        if q != 0 && decide (q ≤ s'.lastEmittedPresentQpc) then 0 else q)
      (hhead : s'.ringHead = s.ringHead) : RingMove cfg s s' (.emitted (pacingDecision cfg s))
  | discarded (hqpcs : qpcs s' = (qpcs s).map fun _ => 0) (hhead : s'.ringHead = 0)
      (hlast : s'.lastEmittedPresentQpc = s.lastEmittedPresentQpc) : RingMove cfg s s' .discarded

section
variable {cfg : CfrConfig} {s s' s'' : CfrState}

theorem SameRing.refl (s : CfrState) : SameRing s s := ⟨rfl, rfl, rfl⟩

theorem SameRing.trans (h : SameRing s s') (h' : SameRing s' s'') : SameRing s s'' :=
  ⟨h'.1.trans h.1, h'.2.trans h.2, h'.3.trans h.3⟩

theorem writeOdFrame_ring (hph : cfg.usePhaseCorrect = true) (frame : Image) (p : UInt64) :
    RingMove cfg s (writeOdFrame cfg s frame p) (.captured p) := by
  unfold writeOdFrame
  rw [if_pos hph]
  have hentry : (s.captureRing.getD s.ringHead {}).presentQpc = (qpcs s).getD s.ringHead 0 := by
    simp only [qpcs, List.getD_eq_getElem?_getD, List.getElem?_map]
    cases s.captureRing[s.ringHead]? <;> rfl
  refine .captured ?_ ?_ rfl ?_
  · exact List.map_set
  · simp [qpcs]
  · dsimp only
    rw [hentry]
    split <;> rfl

theorem odAcquire_ring (hph : cfg.usePhaseCorrect = true) (check : OdFrameCheck) (frame : Image)
    (info : OdFrameInfo) : RingMove cfg s (odAcquire cfg s check frame info)
      (ringEvent cfg s (.odAcquire check frame info)) := by
  unfold odAcquire
  cases check with
  | skip => exact .quiet (.refl s)
  | fatal => exact .quiet ⟨rfl, rfl, rfl⟩
  | ok =>
    dsimp only [ringEvent]
    by_cases hpresent : info.lastPresentTime = 0
    · rw [if_pos hpresent]
      simp only [hpresent, classifyOdAcquire, bne_self_eq_false, Bool.false_eq_true, if_false]
      by_cases hcursor : (info.lastMouseUpdateTime != 0 && cfg.captureCursor) = true
      · rw [if_pos hcursor]
        exact .quiet ⟨rfl, rfl, rfl⟩
      · rw [if_neg hcursor]
        exact .quiet (.refl s)
    · rw [if_neg hpresent]
      have hkind : classifyOdAcquire (info.lastPresentTime != 0) (info.lastMouseUpdateTime != 0)
          cfg.captureCursor = .desktopPresent := by
        simp [classifyOdAcquire, hpresent]
      rw [hkind]
      dsimp only
      rw [if_pos hph]
      cases writeOdFrame_ring (s := s) hph frame info.lastPresentTime with
      | captured hqpcs hhead hlast hdropped => exact .captured hqpcs hhead hlast hdropped

/-- A texture that changes hands leaves the present times. -/
theorem map_presentQpc_set (ring : List CaptureRingEntry) (phys : Nat) (tex : Image) :
    (ring.set phys { ring.getD phys {} with tex := tex }).map CaptureRingEntry.presentQpc =
      ring.map CaptureRingEntry.presentQpc := by
  rw [List.map_set]
  by_cases hlt : phys < ring.length
  · have hphys : phys < (ring.map CaptureRingEntry.presentQpc).length := by simpa using hlt
    have hget : (ring.map CaptureRingEntry.presentQpc)[phys] =
        (ring.getD phys {}).presentQpc := by simp [hlt]
    exact hget ▸ List.set_getElem_self _
  · exact List.set_eq_of_length_le (by simpa using hlt)

theorem emitEntry_ring (index : Nat) :
    (emitEntry s index).lastEmittedPresentQpc = (presentQpcsAscending s).getD index 0 ∧
      qpcs (emitEntry s index) = ((qpcs s).map fun q =>
        if q != 0 && decide (q ≤ (emitEntry s index).lastEmittedPresentQpc) then 0 else q) ∧
      (emitEntry s index).ringHead = s.ringHead := by
  have hlast : (emitEntry s index).lastEmittedPresentQpc =
      ((liveEntries s).getD index (0, 0)).2 := rfl
  refine ⟨?_, ?_, rfl⟩
  · rw [hlast, presentQpcsAscending, List.getD_eq_getElem?_getD, List.getD_eq_getElem?_getD,
      List.getElem?_map]
    cases (liveEntries s)[index]? <;> rfl
  · rw [hlast]
    refine (map_presentQpc_set _ _ _).trans ?_
    unfold qpcs
    rw [List.map_map, List.map_map]
    refine List.map_congr_left fun entry _ => ?_
    exact apply_ite CaptureRingEntry.presentQpc _ _ _

theorem selectSource_ring (hph : cfg.usePhaseCorrect = true) :
    RingMove cfg s (selectSource cfg s).2
      (if (pacingDecision cfg s).emit then .emitted (pacingDecision cfg s) else .quiet) := by
  unfold selectSource
  rw [if_pos hph]
  dsimp only
  split
  · next hemit =>
    obtain ⟨hlast, hqpcs, hhead⟩ := emitEntry_ring (s := { s with
      droppedFrames := s.droppedFrames + (pacingDecision cfg s).newlyDropped })
      (pacingDecision cfg s).index
    exact .emitted hemit hlast hqpcs hhead
  · split
    · exact .quiet ⟨rfl, rfl, rfl⟩
    · exact .quiet ⟨rfl, rfl, rfl⟩

theorem writeSlot_ring (slot : Nat) (source : Option Image) (inp : TickInput) :
    SameRing s (writeSlot cfg s slot source inp).2 := by
  unfold writeSlot compositeTick consumeSource storePicture duplicateTick
  dsimp only
  repeat' first | exact ⟨rfl, rfl, rfl⟩ | split

theorem submit_ring (slot : Nat) (ptsNs : UInt64) (duplicate : Bool) (inp : TickInput)
    (elapsed100ns catchUpFrames : UInt64) :
    SameRing s (submit cfg s slot ptsNs duplicate inp elapsed100ns catchUpFrames) := by
  unfold submit
  dsimp only
  repeat' first | exact ⟨rfl, rfl, rfl⟩ | split

/-- What only `SameRing` relates to the source of a move. -/
theorem RingMove.same {e : RingEvent} (h : RingMove cfg s s' e) (hsame : SameRing s' s'')
    (he : ∀ p, e ≠ .captured p) : RingMove cfg s s'' e := by
  have hq : qpcs s'' = qpcs s' := congrArg (List.map _) hsame.captureRing
  cases h with
  | quiet h => exact .quiet (h.trans hsame)
  | captured => exact absurd rfl (he _)
  | emitted hemit hlast hqpcs hhead =>
    refine .emitted hemit (hsame.3.trans hlast) ?_ (hsame.2.trans hhead)
    rw [hq, hsame.3, hqpcs]
  | discarded hqpcs hhead hlast =>
    exact .discarded (hq.trans hqpcs) (hsame.2.trans hhead) (hsame.3.trans hlast)

theorem tickWithSlot_ring (hph : cfg.usePhaseCorrect = true) (slot : Nat) (inp : TickInput)
    (elapsed100ns catchUpFrames : UInt64) :
    RingMove cfg s (tickWithSlot cfg s slot inp elapsed100ns catchUpFrames)
      (if (pacingDecision cfg s).emit then .emitted (pacingDecision cfg s) else .quiet) := by
  have hno : ∀ p, (if (pacingDecision cfg s).emit then RingEvent.emitted (pacingDecision cfg s)
      else .quiet) ≠ .captured p := by
    intro p
    split <;> exact nofun
  refine (selectSource_ring hph).same ?_ hno
  have hsampled : SameRing (selectSource cfg s).2 (tickSource cfg s inp).2 := ⟨rfl, rfl, rfl⟩
  refine hsampled.trans ?_
  have hwritten := @writeSlot_ring cfg (tickSource cfg s inp).2 slot
    (tickSource cfg s inp).1 inp
  unfold tickWithSlot
  dsimp only
  split
  · exact ⟨hwritten.1, hwritten.2, hwritten.3⟩
  · exact ⟨hwritten.1, hwritten.2, hwritten.3⟩
  · exact hwritten.trans (submit_ring _ _ _ _ _ _)
  · exact hwritten.trans (submit_ring _ _ _ _ _ _)

theorem tick_ring (hph : cfg.usePhaseCorrect = true) (inp : TickInput)
    {elapsed100ns catchUpFrames : UInt64} (hfrom : s.phase = .ticks elapsed100ns catchUpFrames) :
    RingMove cfg s (tick cfg s elapsed100ns catchUpFrames inp) (ringEvent cfg s (.tick inp)) := by
  have hevent : ringEvent cfg s (.tick inp) =
      if (decide (elapsed100ns ≥ s.nextTick100ns ∧ catchUpFrames < cfg.kMaxCatchUpFrames) &&
        inp.slot.isSome && (pacingDecision cfg s).emit) = true then
        .emitted (pacingDecision cfg s) else .quiet := by
    simp only [ringEvent, emitsEntry, ticksOn, hfrom, hph, Bool.and_true]
  rw [hevent]
  unfold tick
  split
  · next hdue =>
    rw [decide_eq_true hdue]
    split
    · next slot hslot =>
      rw [hslot]
      exact tickWithSlot_ring hph slot inp elapsed100ns catchUpFrames
    · next hslot =>
      rw [hslot]
      split <;> exact .quiet ⟨rfl, rfl, rfl⟩
  · next hdue =>
    rw [decide_eq_false hdue]
    exact .quiet ⟨rfl, rfl, rfl⟩

theorem resumeEpoch_ring (s : CfrState) (now : UInt64) : SameRing s (resumeEpoch s now) := by
  rw [resumeEpoch]
  split <;> exact ⟨rfl, rfl, rfl⟩

theorem openEpoch_ring (cfg : CfrConfig) (s : CfrState) (now : UInt64) :
    SameRing s (openEpoch cfg s now) := by
  rw [openEpoch]
  split <;> exact ⟨rfl, rfl, rfl⟩

theorem resync_ring (cfg : CfrConfig) (s : CfrState) (elapsed100ns : UInt64) :
    SameRing s (resync cfg s elapsed100ns) := by
  rw [resync]
  split <;> exact ⟨rfl, rfl, rfl⟩

theorem enterTicks_ring (hph : cfg.usePhaseCorrect = true) (pauseRequested : Bool)
    (clock : ClockReadings) (reaped : Bool) :
    RingMove cfg s (enterTicks cfg s pauseRequested clock reaped)
      (ringEvent cfg s (.enterTicks pauseRequested clock reaped)) := by
  unfold enterTicks
  cases pauseRequested with
  | true =>
    have hcleared : (discardCaptured cfg s clock.pause).captureRing =
        s.captureRing.map (fun entry => { entry with presentQpc := 0 }) ∧
        (discardCaptured cfg s clock.pause).ringHead = 0 ∧
        (discardCaptured cfg s clock.pause).lastEmittedPresentQpc = s.lastEmittedPresentQpc := by
      unfold discardCaptured
      rw [if_pos hph]
      exact ⟨rfl, rfl, rfl⟩
    refine .discarded ?_ hcleared.2.1 hcleared.2.2
    show List.map _ (discardCaptured cfg s clock.pause).captureRing = _
    rw [hcleared.1, qpcs, List.map_map, List.map_map]
    rfl
  | false =>
    refine .quiet ?_
    rw [if_neg Bool.false_ne_true]
    dsimp only
    have hopened : SameRing s (openEpoch cfg (resumeEpoch s clock.pause) clock.epoch) :=
      (resumeEpoch_ring s clock.pause).trans (openEpoch_ring cfg _ clock.epoch)
    generalize openEpoch cfg (resumeEpoch s clock.pause) clock.epoch = opened at hopened ⊢
    split
    · exact hopened
    split
    · exact hopened.trans ⟨rfl, rfl, rfl⟩
    · exact hopened.trans ((resync_ring cfg opened _).trans ⟨rfl, rfl, rfl⟩)

theorem step_ring (hph : cfg.usePhaseCorrect = true) {a : CfrAction}
    (h : step cfg s a = some s') : RingMove cfg s s' (ringEvent cfg s a) := by
  unfold step at h
  split at h
  · cases h
    exact .quiet ⟨rfl, rfl, rfl⟩
  · cases h
    split <;> exact .quiet ⟨rfl, rfl, rfl⟩
  · split at h
    · cases h
      exact .quiet ⟨rfl, rfl, rfl⟩
    · cases h
  · split at h
    · cases h
      exact odAcquire_ring hph _ _ _
    · cases h
  · split at h
    · cases h
      refine .quiet ?_
      unfold odAcquireFailure
      repeat' first | exact ⟨rfl, rfl, rfl⟩ | split
    · cases h
  · split at h
    · next hwgc =>
      -- the ring belongs to Output Duplication
      simp only [CfrConfig.usePhaseCorrect, Bool.and_eq_true] at hph
      simp [hph.1.1.1] at hwgc
    · cases h
  · cases h
    exact enterTicks_ring hph _ _ _
  · next hfrom =>
    split at h
    · cases h
      exact tick_ring hph _ hfrom
    · cases h
  · cases h

/-! ## The record of a stretch -/

/-- A tick that emits: the frame, the slot, and what the ring offered. -/
structure Emission where
  presentQpc : UInt64
  slotQpc : UInt64
  lastEmittedPresentQpc : UInt64
  offered : List UInt64
  deriving DecidableEq, Repr

/-- The state and, since the last pause, the frames by what became of them, and what
    `droppedFrames` was told of them. -/
structure RingRun where
  state : CfrState
  lastCaptured : UInt64 := 0
  captured : List UInt64 := []
  emitted : List Emission := []
  coalesced : List UInt64 := []
  evicted : List UInt64 := []
  newlyDropped : Nat := 0
  ringEvictions : Nat := 0

/-- The frames that were in the ring and are no more. -/
def left (s s' : CfrState) : List UInt64 :=
  (presentQpcsAscending s).filter fun q => decide (q ∉ presentQpcsAscending s')

def RingRun.record (cfg : CfrConfig) (c : RingRun) (s' : CfrState) : RingEvent → RingRun
  | .quiet => { c with state := s' }
  | .captured p => { c with
      state := s'
      lastCaptured := p
      captured := c.captured ++ [p]
      evicted := c.evicted ++ left c.state s'
      ringEvictions := c.ringEvictions + (s'.droppedFrames - c.state.droppedFrames) }
  | .emitted dec => { c with
      state := s'
      emitted := c.emitted ++ [{ presentQpc := s'.lastEmittedPresentQpc
                                 slotQpc := slotQpc cfg c.state
                                 lastEmittedPresentQpc := c.state.lastEmittedPresentQpc
                                 offered := presentQpcsAscending c.state }]
      coalesced := c.coalesced ++
        (left c.state s').filter fun q => decide (q ≠ s'.lastEmittedPresentQpc)
      newlyDropped := c.newlyDropped + dec.newlyDropped }
  | .discarded => { state := s', lastCaptured := c.lastCaptured }

def ringStep (cfg : CfrConfig) (c : RingRun) (a : CfrAction) : Option RingRun :=
  (step cfg c.state a).map fun s' => c.record cfg s' (ringEvent cfg c.state a)

def presentTime? : CfrAction → Option UInt64
  | .odAcquire .ok _ info =>
      if info.lastPresentTime = 0 then none else some info.lastPresentTime
  | _ => none

/-- The present times of the frames that are captured. -/
def presentTimes (as : List CfrAction) : List UInt64 := as.filterMap presentTime?

/-! ## The invariant -/

/-- The emitted frame was in the ring and not emitted before, and of those none is nearer to the
    slot. -/
structure Emission.Nearest (e : Emission) : Prop where
  ascending : e.offered.Pairwise (· < ·)
  offered : e.presentQpc ∈ e.offered
  fresh : e.lastEmittedPresentQpc < e.presentQpc
  nearest : ∀ q ∈ e.offered, e.lastEmittedPresentQpc < q →
    slotDistance e.presentQpc e.slotQpc ≤ slotDistance q e.slotQpc

/-- The ring between two steps: its live entries ascend, all behind the last emission. -/
structure RingReady (lastCaptured : UInt64) (s : CfrState) : Prop where
  head : s.ringHead < (qpcs s).length
  ascending : (presentQpcsAscending s).Pairwise (· < ·)
  fresh : ∀ q ∈ presentQpcsAscending s, s.lastEmittedPresentQpc < q
  latest : ∀ q ∈ presentQpcsAscending s, q ≤ lastCaptured
  last : s.lastEmittedPresentQpc ≤ lastCaptured

theorem left_of_append {before rest added : List UInt64} (hs : presentQpcsAscending s = before ++ rest)
    (hs' : presentQpcsAscending s' = rest ++ added) (hnodup : (before ++ rest).Nodup)
    (hnew : ∀ q ∈ before, q ∉ added) : left s s' = before := by
  obtain ⟨_, _, hdisjoint⟩ := List.nodup_append.mp hnodup
  unfold left
  rw [hs, hs', List.filter_append]
  have hbefore : before.filter (fun q => decide (q ∉ rest ++ added)) = before := by
    refine List.filter_eq_self.mpr fun q hq => decide_eq_true ?_
    rw [List.mem_append]
    rintro (hr | ha)
    · exact hdisjoint q hq q hr rfl
    · exact hnew q hq ha
  have hrest : rest.filter (fun q => decide (q ∉ rest ++ added)) = [] := by
    refine List.filter_eq_nil_iff.mpr fun q hq => ?_
    simp [hq]
  rw [hbefore, hrest, List.append_nil]

theorem nodup_of_ascending {qs : List UInt64} (h : qs.Pairwise (· < ·)) : qs.Nodup := by
  refine h.imp ?_
  rintro q _ hlt rfl
  exact UInt64.lt_irrefl q hlt

/-- A write evicts the oldest place's entry, if it has one, and the source counts it. -/
theorem RingReady.write {lastCaptured p : UInt64} (hR : RingReady lastCaptured s)
    (hp : lastCaptured < p) (h : RingMove cfg s s' (.captured p)) :
    RingReady p s' ∧
      s'.droppedFrames - s.droppedFrames = (left s s').length ∧
      ∃ rest, presentQpcsAscending s = left s s' ++ rest ∧
        presentQpcsAscending s' = rest ++ [p] := by
  cases h with
  | captured hqpcs hhead hlast hdropped =>
    have hlive : (p != 0) = true := by
      rw [bne_iff_ne]
      rintro rfl
      exact UInt64.not_lt_zero hp
    have hat := hR.head
    obtain ⟨rest, hs, hs'⟩ := @RotatingRing.pending_push _ (· != 0) _ _ hR.head _ hlive
    rw [← presentQpcsAscending_eq] at hs
    rw [← hqpcs, ← hhead, ← presentQpcsAscending_eq] at hs'
    have hnodup := nodup_of_ascending hR.ascending
    have hnew : ∀ q ∈ presentQpcsAscending s, q < p := fun q hq =>
      UInt64.lt_of_le_of_lt (hR.latest q hq) hp
    generalize hbefore : (if ((qpcs s)[s.ringHead] != 0) = true then
      [(qpcs s)[s.ringHead]] else []) = before at hs
    have hleft : left s s' = before := by
      refine left_of_append hs hs' (hs ▸ hnodup) fun q hq hqp => ?_
      have hlt := hnew q (by rw [hs]; exact List.mem_append_left _ hq)
      rw [List.mem_singleton.mp hqp] at hlt
      exact UInt64.lt_irrefl p hlt
    have hrest : ∀ q ∈ rest, q ∈ presentQpcsAscending s := fun q hq => by
      rw [hs]
      exact List.mem_append_right _ hq
    refine ⟨⟨?_, ?_, ?_, ?_, ?_⟩, ?_, rest, hleft ▸ hs, hs'⟩
    · rw [hhead, hqpcs, List.length_set]
      exact Nat.mod_lt _ (Nat.zero_lt_of_lt hR.head)
    · rw [hs', List.pairwise_append]
      refine ⟨(List.pairwise_append.mp (hs ▸ hR.ascending)).2.1, List.pairwise_singleton .., ?_⟩
      intro q hq r hr
      rw [List.mem_singleton.mp hr]
      exact hnew q (hrest q hq)
    · rw [hs', hlast]
      intro q hq
      rcases List.mem_append.mp hq with hold | hnewest
      · exact hR.fresh q (hrest q hold)
      · rw [List.mem_singleton.mp hnewest]
        exact UInt64.lt_of_le_of_lt hR.last hp
    · rw [hs']
      intro q hq
      rcases List.mem_append.mp hq with hold | hnewest
      · exact UInt64.le_of_lt (hnew q (hrest q hold))
      · rw [List.mem_singleton.mp hnewest]
        exact UInt64.le_refl p
    · rw [hlast]
      exact UInt64.le_trans hR.last (UInt64.le_of_lt hp)
    · -- a live entry is fresh
      have hget : (qpcs s).getD s.ringHead 0 = (qpcs s)[s.ringHead] := by
        simp [hR.head]
      rw [hget] at hdropped
      rw [hleft, ← hbefore]
      split
      · next hold =>
        have hfresh : (qpcs s)[s.ringHead] > s.lastEmittedPresentQpc := by
          refine hR.fresh _ ?_
          rw [hs, ← hbefore, if_pos hold]
          exact List.mem_cons_self
        rw [if_pos (by rw [hold, decide_eq_true hfresh]; rfl)] at hdropped
        exact Nat.sub_eq_of_eq_add' hdropped
      · next hold =>
        rw [if_neg (by rw [Bool.not_eq_true] at hold; rw [hold]; simp)] at hdropped
        rw [hdropped]
        exact Nat.sub_self _

/-- Above an entry of an ascending list are the ones behind it. -/
theorem filter_gt_of_ascending {before after : List UInt64} {p : UInt64}
    (h : (before ++ p :: after).Pairwise (· < ·)) :
    (before ++ p :: after).filter (fun q => decide (p < q)) = after := by
  obtain ⟨_, hrest, hbefore⟩ := List.pairwise_append.mp h
  obtain ⟨hafter, _⟩ := List.pairwise_cons.mp hrest
  rw [List.filter_append, List.filter_cons_of_neg (by simp [UInt64.lt_irrefl])]
  have hnone : before.filter (fun q => decide (p < q)) = [] := by
    refine List.filter_eq_nil_iff.mpr fun q hq => ?_
    rw [decide_eq_true_eq, UInt64.not_lt]
    exact UInt64.le_of_lt (hbefore q hq p List.mem_cons_self)
  rw [hnone, List.nil_append]
  exact List.filter_eq_self.mpr fun q hq => decide_eq_true (hafter q hq)

/-- An emission takes the frame that is nearest to the slot and every older one out of the ring, and
    the source counts the older ones. -/
theorem RingReady.emit {lastCaptured : UInt64} (hR : RingReady lastCaptured s)
    (h : RingMove cfg s s' (.emitted (pacingDecision cfg s))) :
    RingReady lastCaptured s' ∧ s.lastEmittedPresentQpc < s'.lastEmittedPresentQpc ∧
      (∀ q ∈ presentQpcsAscending s, slotDistance s'.lastEmittedPresentQpc (slotQpc cfg s) ≤
        slotDistance q (slotQpc cfg s)) ∧
      ∃ before, presentQpcsAscending s =
          before ++ s'.lastEmittedPresentQpc :: presentQpcsAscending s' ∧
        before.length = (pacingDecision cfg s).newlyDropped ∧
        (left s s').filter (fun q => decide (q ≠ s'.lastEmittedPresentQpc)) = before := by
  cases h with
  | emitted hemit hlast hqpcs hhead =>
    have hne : presentQpcsAscending s ≠ [] := by
      intro hnil
      unfold pacingDecision at hemit
      rw [show (liveEntries s).map Prod.snd = [] from hnil] at hemit
      exact nomatch hemit
    obtain ⟨i, hi, hdec, hnearest⟩ :=
      @selectFrameForSlot_fresh _ (slotQpc cfg s) _ hR.fresh hne
    have hdecision : pacingDecision cfg s = ⟨true, i, i⟩ := hdec
    have hp : s'.lastEmittedPresentQpc = (presentQpcsAscending s)[i] := by
      rw [hlast, hdecision]
      simp [hi]
    have hsplit : presentQpcsAscending s = (presentQpcsAscending s).take i ++
        s'.lastEmittedPresentQpc :: (presentQpcsAscending s).drop (i + 1) := by
      rw [hp, List.getElem_cons_drop, List.take_append_drop]
    have hafter : presentQpcsAscending s' = (presentQpcsAscending s).drop (i + 1) := by
      have hascending := hR.ascending
      rw [hsplit] at hascending
      have hkept := filter_gt_of_ascending hascending
      rw [← hsplit] at hkept
      rw [← hkept, presentQpcsAscending_eq s', hqpcs, hhead, presentQpcsAscending_eq s]
      refine RotatingRing.pending_map (fun q _ hkeep => ?_) fun q => ?_
      · rw [decide_eq_true_eq] at hkeep
        simp [UInt64.not_le.mpr hkeep]
      · by_cases hle : q ≤ s'.lastEmittedPresentQpc
        · simp [hle, UInt64.not_lt.mpr hle]
        · simp [hle, UInt64.not_le.mp hle]
    have hsub : ∀ q ∈ presentQpcsAscending s', q ∈ presentQpcsAscending s := fun q hq => by
      rw [hafter] at hq
      exact List.mem_of_mem_drop hq
    have hmem : s'.lastEmittedPresentQpc ∈ presentQpcsAscending s := by
      rw [hp]
      exact List.getElem_mem hi
    rw [← hafter] at hsplit
    have hascending := hR.ascending
    rw [hsplit] at hascending
    obtain ⟨_, hrest, hbefore⟩ := List.pairwise_append.mp hascending
    obtain ⟨hbehind, hascending'⟩ := List.pairwise_cons.mp hrest
    refine ⟨⟨?_, hascending', hbehind, fun q hq => hR.latest q (hsub q hq), hR.latest _ hmem⟩,
      hR.fresh _ hmem, ?_, (presentQpcsAscending s).take i, hsplit, ?_, ?_⟩
    · rw [hhead, hqpcs, List.length_map]
      exact hR.head
    · rw [hp]
      exact hnearest
    · rw [hdecision, List.length_take]
      exact min_eq_left hi.le
    · have hcut : left s s' = (presentQpcsAscending s).take i ++ [s'.lastEmittedPresentQpc] := by
        refine @left_of_append _ _ _ _ [] ?_ (List.append_nil _).symm ?_ fun _ _ => List.not_mem_nil
        · rw [List.append_assoc]
          exact hsplit
        · rw [List.append_assoc]
          exact nodup_of_ascending hascending
      rw [hcut, List.filter_append, List.filter_cons_of_neg (by simp), List.filter_nil,
        List.append_nil]
      refine List.filter_eq_self.mpr fun q hq => decide_eq_true fun heq => ?_
      have hlt := hbefore q hq _ List.mem_cons_self
      rw [heq] at hlt
      exact UInt64.lt_irrefl _ hlt

theorem RingReady.quiet {lastCaptured : UInt64} (hR : RingReady lastCaptured s)
    (h : SameRing s s') :
    RingReady lastCaptured s' ∧ presentQpcsAscending s' = presentQpcsAscending s := by
  have hq : qpcs s' = qpcs s := congrArg (List.map _) h.captureRing
  have hsame : presentQpcsAscending s' = presentQpcsAscending s := by
    rw [presentQpcsAscending_eq, presentQpcsAscending_eq, hq, h.ringHead]
  refine ⟨⟨?_, ?_, ?_, ?_, ?_⟩, hsame⟩
  · rw [h.ringHead, hq]
    exact hR.head
  · rw [hsame]
    exact hR.ascending
  · rw [hsame, h.lastEmittedPresentQpc]
    exact hR.fresh
  · rw [hsame]
    exact hR.latest
  · rw [h.lastEmittedPresentQpc]
    exact hR.last

theorem RingReady.discard {lastCaptured : UInt64} (hR : RingReady lastCaptured s)
    (h : RingMove cfg s s' .discarded) :
    RingReady lastCaptured s' ∧ presentQpcsAscending s' = [] := by
  cases h with
  | discarded hqpcs hhead hlast =>
    have hempty : presentQpcsAscending s' = [] := by
      rw [presentQpcsAscending_eq, hqpcs]
      refine RotatingRing.pending_eq_nil fun q hq => ?_
      obtain ⟨_, _, rfl⟩ := List.mem_map.mp hq
      rfl
    refine ⟨⟨?_, ?_, ?_, ?_, ?_⟩, hempty⟩
    · rw [hhead, hqpcs, List.length_map]
      exact Nat.zero_lt_of_lt hR.head
    · rw [hempty]
      exact .nil
    · rw [hempty]
      exact fun _ h => absurd h List.not_mem_nil
    · rw [hempty]
      exact fun _ h => absurd h List.not_mem_nil
    · rw [hlast]
      exact hR.last

/-- Every captured frame was emitted, was counted as a drop, or is live, once; the emissions are
    in order, each the nearest to its slot. -/
structure RingAccounts (c : RingRun) : Prop where
  once : c.captured.Nodup
  partition : c.captured.Perm (c.emitted.map Emission.presentQpc ++ c.coalesced ++ c.evicted ++
    presentQpcsAscending c.state)
  coalesced : c.newlyDropped = c.coalesced.length
  evicted : c.ringEvictions = c.evicted.length
  emitted : (c.emitted.map Emission.presentQpc).Pairwise (· < ·)
  ascending : (presentQpcsAscending c.state).Pairwise (· < ·)
  nearest : ∀ e ∈ c.emitted, e.Nearest

structure RingInv (c : RingRun) : Prop where
  ready : RingReady c.lastCaptured c.state
  accounts : RingAccounts c
  captured : ∀ q ∈ c.captured, q ≤ c.lastCaptured
  emitted : ∀ e ∈ c.emitted, e.presentQpc ≤ c.state.lastEmittedPresentQpc

theorem RingInv.write {c : RingRun} {p : UInt64} (hI : RingInv c) (hp : c.lastCaptured < p)
    (h : RingMove cfg c.state s' (.captured p)) : RingInv (c.record cfg s' (.captured p)) := by
  obtain ⟨hready, hcount, rest, hs, hs'⟩ := hI.ready.write hp h
  have hlast : s'.lastEmittedPresentQpc = c.state.lastEmittedPresentQpc := by
    cases h with
    | captured _ _ hlast => exact hlast
  have hA := hI.accounts
  have hnew : ∀ q ∈ c.captured, q < p := fun q hq => UInt64.lt_of_le_of_lt (hI.captured q hq) hp
  refine ⟨hready, ⟨?_, ?_, hA.coalesced, ?_, hA.emitted, hready.ascending, hA.nearest⟩, ?_, ?_⟩
  · refine List.nodup_append.mpr ⟨hA.once, List.nodup_singleton p, fun q hq r hr heq => ?_⟩
    have hlt := hnew q hq
    rw [heq, List.mem_singleton.mp hr] at hlt
    exact UInt64.lt_irrefl p hlt
  · -- the frame joins the live ones, and the evicted one leaves them
    show (c.captured ++ [p]).Perm (c.emitted.map Emission.presentQpc ++ c.coalesced ++
      (c.evicted ++ left c.state s') ++ presentQpcsAscending s')
    have hpartition := hA.partition
    rw [hs] at hpartition
    rw [hs']
    refine (hpartition.append_right [p]).trans (.of_eq ?_)
    simp only [List.append_assoc]
  · show c.ringEvictions + _ = (c.evicted ++ left c.state s').length
    rw [hcount, hA.evicted, List.length_append]
  · intro q hq
    rcases List.mem_append.mp hq with hold | hnewest
    · exact UInt64.le_of_lt (hnew q hold)
    · rw [List.mem_singleton.mp hnewest]
      exact UInt64.le_refl p
  · intro e he
    show e.presentQpc ≤ s'.lastEmittedPresentQpc
    rw [hlast]
    exact hI.emitted e he

theorem RingInv.emit {c : RingRun} (hI : RingInv c)
    (h : RingMove cfg c.state s' (.emitted (pacingDecision cfg c.state))) :
    RingInv (c.record cfg s' (.emitted (pacingDecision cfg c.state))) := by
  obtain ⟨hready, hfresh, hnearest, before, hs, hcount, hleft⟩ := hI.ready.emit h
  have hA := hI.accounts
  refine ⟨hready, ⟨hA.once, ?_, ?_, hA.evicted, ?_, hready.ascending, ?_⟩, hI.captured, ?_⟩
  · -- the frame leaves the live ones for the emitted, the older ones for the coalesced
    show c.captured.Perm ((c.emitted ++ [_]).map Emission.presentQpc ++ (c.coalesced ++
      (left c.state s').filter fun q => decide (q ≠ s'.lastEmittedPresentQpc)) ++ c.evicted ++
      presentQpcsAscending s')
    have hpartition := hA.partition
    rw [hs] at hpartition
    rw [hleft]
    refine hpartition.trans (List.perm_iff_count.mpr fun q => ?_)
    simp only [List.map_append, List.map_cons, List.map_nil, List.count_append, List.count_cons,
      List.count_nil]
    omega
  · show c.newlyDropped + _ = (c.coalesced ++ (left c.state s').filter _).length
    rw [hleft, List.length_append, hcount, hA.coalesced]
  · show ((c.emitted ++ [_]).map Emission.presentQpc).Pairwise (· < ·)
    rw [List.map_append, List.pairwise_append]
    refine ⟨hA.emitted, List.pairwise_singleton .., fun q hq r hr => ?_⟩
    obtain ⟨e, he, rfl⟩ := List.mem_map.mp hq
    obtain rfl := List.mem_singleton.mp hr
    exact UInt64.lt_of_le_of_lt (hI.emitted e he) hfresh
  · intro e he
    rcases List.mem_append.mp he with hold | hnew
    · exact hA.nearest e hold
    · obtain rfl := List.mem_singleton.mp hnew
      refine ⟨hI.ready.ascending, ?_, hfresh, fun q hq _ => hnearest q hq⟩
      show s'.lastEmittedPresentQpc ∈ presentQpcsAscending c.state
      rw [hs]
      exact List.mem_append_right _ List.mem_cons_self
  · intro e he
    rcases List.mem_append.mp he with hold | hnew
    · exact UInt64.le_trans (hI.emitted e hold) (UInt64.le_of_lt hfresh)
    · obtain rfl := List.mem_singleton.mp hnew
      exact UInt64.le_refl _

/-- The step lemma. -/
theorem RingInv.step {c : RingRun} {e : RingEvent} (hI : RingInv c)
    (hrising : ∀ p, e = .captured p → c.lastCaptured < p)
    (hdec : ∀ dec, e = .emitted dec → dec = pacingDecision cfg c.state)
    (h : RingMove cfg c.state s' e) : RingInv (c.record cfg s' e) := by
  cases e with
  | quiet =>
    cases h with
    | quiet hsame =>
      obtain ⟨hready, hlive⟩ := hI.ready.quiet hsame
      have hA := hI.accounts
      refine ⟨hready, ⟨hA.once, ?_, hA.coalesced, hA.evicted, hA.emitted, hready.ascending,
        hA.nearest⟩, hI.captured, ?_⟩
      · show c.captured.Perm (_ ++ presentQpcsAscending s')
        rw [hlive]
        exact hA.partition
      · intro e he
        show e.presentQpc ≤ s'.lastEmittedPresentQpc
        rw [hsame.lastEmittedPresentQpc]
        exact hI.emitted e he
  | captured p => exact hI.write (hrising p rfl) h
  | emitted dec =>
    obtain rfl := hdec dec rfl
    exact hI.emit h
  | discarded =>
    obtain ⟨hready, hempty⟩ := hI.ready.discard h
    refine ⟨hready, ⟨.nil, ?_, rfl, rfl, .nil, hready.ascending, fun _ h => absurd h
      List.not_mem_nil⟩, fun _ h => absurd h List.not_mem_nil, fun _ h => absurd h List.not_mem_nil⟩
    show List.Perm [] ([] ++ presentQpcsAscending s')
    rw [hempty]
    exact .nil

/-! ## Runs -/

theorem ringEvent_captured_iff {a : CfrAction} {p : UInt64} :
    ringEvent cfg s a = .captured p ↔ presentTime? a = some p := by
  unfold ringEvent presentTime?
  split
  · split
    · next hzero => simp [hzero]
    · next hpresent => simp [hpresent]
  · split <;> simp
  · simp
  · simp

theorem ringEvent_emitted {a : CfrAction} {dec : PacingDecision}
    (h : ringEvent cfg s a = .emitted dec) : dec = pacingDecision cfg s := by
  unfold ringEvent at h
  split at h
  · split at h <;> exact nomatch h
  · split at h
    · exact (RingEvent.emitted.inj h).symm
    · exact nomatch h
  · exact nomatch h
  · exact nomatch h

theorem ringStep_some {c c' : RingRun} {a : CfrAction} (h : ringStep cfg c a = some c') :
    ∃ s', step cfg c.state a = some s' ∧ c' = c.record cfg s' (ringEvent cfg c.state a) := by
  obtain ⟨s', hstep, rfl⟩ := Option.map_eq_some_iff.mp h
  exact ⟨s', hstep, rfl⟩

theorem lastCaptured_record (c : RingRun) (s' : CfrState) {e : RingEvent} {times : List UInt64}
    (htimes : ∀ p ∈ times, c.lastCaptured < p) (h : ∀ p, e = .captured p → ∀ q ∈ times, p < q) :
    ∀ p ∈ times, (c.record cfg s' e).lastCaptured < p := by
  cases e with
  | captured p => exact h p rfl
  | quiet => exact htimes
  | emitted dec => exact htimes
  | discarded => exact htimes

/-- A run of rising present times captures each frame behind all the earlier ones. -/
theorem meets_of_rising (as : List CfrAction) : ∀ c : RingRun,
    (presentTimes as).Pairwise (· < ·) → (∀ p ∈ presentTimes as, c.lastCaptured < p) →
    Meets (ringStep cfg) (fun c a => ∀ p, ringEvent cfg c.state a = .captured p →
      c.lastCaptured < p) c as := by
  induction as with
  | nil => exact fun _ _ _ => trivial
  | cons a as ih =>
    intro c hrising hlast
    have hcons : presentTimes (a :: as) = (presentTime? a).toList ++ presentTimes as := by
      unfold presentTimes
      rw [List.filterMap_cons]
      cases presentTime? a <;> rfl
    rw [hcons] at hrising hlast
    obtain ⟨_, hrest, hbefore⟩ := List.pairwise_append.mp hrising
    refine ⟨fun p hp => hlast p ?_, fun c' hc' => ih c' hrest ?_⟩
    · rw [ringEvent_captured_iff.mp hp]
      exact List.mem_append_left _ List.mem_cons_self
    · obtain ⟨s', _, rfl⟩ := ringStep_some hc'
      refine lastCaptured_record c s' (fun p hp => hlast p (List.mem_append_right _ hp)) ?_
      intro p hp q hq
      refine hbefore p ?_ q hq
      rw [ringEvent_captured_iff.mp hp]
      exact List.mem_cons_self

theorem computePacingRingSize_pos (monitorRefreshHz outputFps : UInt32) :
    0 < computePacingRingSize monitorRefreshHz outputFps := by
  unfold computePacingRingSize
  split
  · exact Nat.zero_lt_succ 7
  · exact Nat.lt_of_lt_of_le (Nat.zero_lt_succ 3) (Nat.le_max_left 4 _)

theorem RingInv.initial (hph : cfg.usePhaseCorrect = true) (inputs : VisualInputs)
    (textures : Nat → Picture) : RingInv { state := .initial cfg inputs textures } := by
  have hqpcs : qpcs (.initial cfg inputs textures) = List.replicate cfg.ringSize 0 := by
    unfold qpcs CfrState.initial
    rw [if_pos hph, List.map_replicate]
  have hempty : presentQpcsAscending (.initial cfg inputs textures) = [] := by
    rw [presentQpcsAscending_eq, hqpcs]
    refine RotatingRing.pending_eq_nil fun q hq => ?_
    rw [List.eq_of_mem_replicate hq]
    rfl
  refine ⟨⟨?_, ?_, ?_, ?_, UInt64.le_refl 0⟩, ⟨.nil, ?_, rfl, rfl, .nil, ?_, fun _ h => absurd h
    List.not_mem_nil⟩, fun _ h => absurd h List.not_mem_nil, fun _ h => absurd h List.not_mem_nil⟩
  · rw [hqpcs, List.length_replicate]
    exact computePacingRingSize_pos _ _
  · rw [hempty]
    exact .nil
  · rw [hempty]
    exact fun _ h => absurd h List.not_mem_nil
  · rw [hempty]
    exact fun _ h => absurd h List.not_mem_nil
  · show List.Perm [] ([] ++ presentQpcsAscending (.initial cfg inputs textures))
    rw [hempty]
    exact .nil
  · rw [hempty]
    exact .nil

end

/-- With the pacing ring and present times that rise: between two pauses every captured frame was
    emitted, counted once as a drop, or is live, and the emissions are in order, each the nearest
    fresh frame to its slot. -/
theorem pacing_ring_accounts (cfg : CfrConfig) (hph : cfg.usePhaseCorrect = true)
    (inputs : VisualInputs) (textures : Nat → Picture) (as : List CfrAction) (c : RingRun)
    (hrising : (presentTimes as).Pairwise (· < ·))
    (hrun : exec (ringStep cfg) { state := .initial cfg inputs textures } as = some c) :
    RingAccounts c := by
  have hpositive : ∀ p ∈ presentTimes as, (0 : UInt64) < p := by
    intro p hp
    obtain ⟨a, _, ha⟩ := List.mem_filterMap.mp hp
    unfold presentTime? at ha
    split at ha
    · split at ha
      · exact nomatch ha
      · next hne =>
        obtain rfl := Option.some.inj ha
        exact UInt64.pos_iff_ne_zero.mpr hne
    · exact nomatch ha
  have hinv : RingInv c := by
    refine exec_invariant (fun c a c' hI hG hstep => ?_) (.initial hph inputs textures)
      (meets_of_rising as _ hrising hpositive) hrun
    obtain ⟨s', hs, rfl⟩ := ringStep_some hstep
    exact hI.step hG (fun dec => ringEvent_emitted) (step_ring hph hs)
  exact hinv.accounts

/-- Five frames for a ring of four: the first is evicted, the second emitted, and of the others the
    last, which is nearest to the second slot. -/
theorem pacing_ring_accounts_evicting :
    ∃ c ∈ exec (ringStep ringConfig) { state := .initial ringConfig {} blank }
        ([presented 2 1010000, presented 3 1020000, presented 4 1030000, presented 5 1040000,
          presented 6 1050000] ++ iteration 1000000 [0] ++ iteration 1166666 [1]),
      c.captured = [1010000, 1020000, 1030000, 1040000, 1050000] ∧ c.evicted = [1010000] ∧
        c.emitted.map Emission.presentQpc = [1020000, 1050000] ∧
        c.coalesced = [1030000, 1040000] ∧ RingAccounts c := by
  have hruns : ∃ c ∈ exec (ringStep ringConfig) { state := .initial ringConfig {} blank }
        ([presented 2 1010000, presented 3 1020000, presented 4 1030000, presented 5 1040000,
          presented 6 1050000] ++ iteration 1000000 [0] ++ iteration 1166666 [1]),
      c.captured = [1010000, 1020000, 1030000, 1040000, 1050000] ∧ c.evicted = [1010000] ∧
        c.emitted.map Emission.presentQpc = [1020000, 1050000] ∧
        c.coalesced = [1030000, 1040000] := by
    decide
  obtain ⟨c, hc, hcaptured, hevicted, hemitted, hcoalesced⟩ := hruns
  exact ⟨c, hc, hcaptured, hevicted, hemitted, hcoalesced,
    pacing_ring_accounts ringConfig rfl {} blank _ c (by decide) hc⟩

end Exosnap.Engine.CfrLoop
