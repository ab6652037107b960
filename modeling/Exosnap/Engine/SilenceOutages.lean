/-
  The silence of an audio track, outage by outage.

  An outage is the stretch between two packets that carry frames, pauses included. `OutageRun`
  keeps beside the thread what the wall clock filled into it, what the device reported as its gap,
  and the silence that was fed; and the frames that were captured and fed.

  `silenceFilledFramesSincePacket` is the credit of the outage against its gap. A pause sets it to
  0 although the silence is on the track, so a gap behind the pause is fed on top of it
  (`outage_filled_and_reported`). In a run in which no gap outruns a credit that a pause has cut
  (`GapCredited`), an outage gets the larger of the two (`silence_per_outage`).
-/
import Exosnap.Lib.StepRun
import Exosnap.Engine.AudioThread
import Mathlib.Algebra.GroupWithZero.Nat

namespace Exosnap.Engine

namespace AudioThread

variable {σ κ δ α β : Type*} (p : Parts σ κ δ α β)

/-! ## The packets of a run -/

/-- The packet that a turn acquires to feed it. -/
def packetOf (t : AudioThread σ κ δ β) (k : Tick α) : Option (RawAudioBuffer β) :=
  let acquired :=
    if t.pendingFrameCount k = 0 then none
    else match (t.acquireBuffer p k).2 with
      | .packet buf _ => some buf
      | .failed _ => none
  match t.phase with
  | .draining _ => acquired
  | .tail => acquired
  | _ => none

/-- The frames of a packet that are fed: none where it has no bytes. -/
def framesOf (trackMuted : Bool) (buf : RawAudioBuffer β) : Nat :=
  ((packetFrames p trackMuted buf).map List.length).getD 0

/-- All capture sources of the track are lost, and no timeline of a mixer covers for them. -/
def clockDriven (t : AudioThread σ κ δ β) : Bool :=
  decide (0 < t.captureSourceCount) && t.degradedSourceCount == t.captureSourceCount &&
    !t.sourceOwnsTimeline

/-- The track is in an outage: its source is lost, or has been silent for the threshold, or the
    packet at hand reports a gap. -/
def InOutage (t : AudioThread σ κ δ β) (k : Tick α) : Prop :=
  match t.phase with
  | .top => t.bareDegraded = true ∨ t.clockDriven = true ∨ t.silentStalled = true ∨
      isSilentStall k.nowNs t.lastAccountedQpcNs = true
  | .draining _ => ∃ buf, t.packetOf p k = some buf ∧ 0 < buf.gapFrames
  | _ => False

/-! ## Outages -/

structure Outage where
  /-- Silence from the wall clock. -/
  filled : Nat := 0
  /-- Gaps that the device reported. -/
  reported : Nat := 0
  /-- Silence that was fed. -/
  injected : Nat := 0
  deriving DecidableEq, Repr

structure OutageRun (σ κ δ β : Type*) where
  thread : AudioThread σ κ δ β
  closed : List Outage := []
  current : Outage := {}
  captured : Nat := 0

/-- All the silence that was fed. -/
def OutageRun.silence (r : OutageRun σ κ δ β) : Nat :=
  (r.closed.map Outage.injected).sum + r.current.injected

/-- The wall clock fills. -/
def OutageRun.fill (r : OutageRun σ κ δ β) (frames : Nat) : OutageRun σ κ δ β :=
  { r with current := { r.current with
      filled := r.current.filled + frames
      injected := r.current.injected + frames } }

/-- A packet: the gap before it and, if it has frames, the end of the outage. -/
def OutageRun.packet (r : OutageRun σ κ δ β) (buf : RawAudioBuffer β) (fed frames : Nat) :
    OutageRun σ κ δ β :=
  let outage := { r.current with
    reported := r.current.reported + buf.gapFrames.toNat
    injected := r.current.injected + (fed - frames) }
  let r := { r with captured := r.captured + frames }
  if 0 < buf.numFrames then { r with closed := r.closed ++ [outage], current := {} }
  else { r with current := outage }

/-- A step of the thread, booked by the frames it feeds. -/
def OutageRun.step (r : OutageRun σ κ δ β) (k : Tick α) : OutageRun σ κ δ β :=
  let t := r.thread
  let t' := t.step p k
  let fed := t'.fed.length - t.fed.length
  let booked :=
    match t.phase with
    | .top => if k.stopRequested then { r with captured := r.captured + fed } else r.fill fed
    | .draining trackMuted =>
        match t.packetOf p k with
        | some buf => r.packet buf fed (framesOf p trackMuted buf)
        | none => r
    | .tail =>
        { r with
          captured := r.captured + fed
          current := { r.current with
            reported := r.current.reported +
              ((t.packetOf p k).map fun (buf : RawAudioBuffer β) => buf.gapFrames.toNat).getD 0 } }
    | _ => r
  { booked with thread := t' }

def OutageRun.run (r : OutageRun σ κ δ β) (ks : List (Tick α)) : OutageRun σ κ δ β :=
  ks.foldl (OutageRun.step p) r

/-! ## What a turn feeds -/

variable {p} {t t' t'' : AudioThread σ κ δ β} {k : Tick α}

/-- Silence of the wall clock is all that is fed, and it is credited. -/
def Fills (p : Parts σ κ δ α β) (t t' : AudioThread σ κ δ β) : Prop :=
  ∃ n, t'.fed = t.fed ++ List.replicate n p.silentOut ∧
    t'.silenceFilledFramesSincePacket = t.silenceFilledFramesSincePacket + n

/-- Nothing is fed and the credit stays. -/
def Silent (t t' : AudioThread σ κ δ β) : Prop :=
  t'.fed = t.fed ∧ t'.silenceFilledFramesSincePacket = t.silenceFilledFramesSincePacket

theorem Silent.fills (h : Silent t t') : Fills p t t' :=
  ⟨0, by rw [h.1, List.replicate_zero, List.append_nil], h.2⟩

theorem Silent.trans (h : Silent t t') (h' : Silent t' t'') : Silent t t'' :=
  ⟨h'.1.trans h.1, h'.2.trans h.2⟩

theorem Fills.trans (h : Fills p t t') (h' : Fills p t' t'') : Fills p t t'' := by
  obtain ⟨n, hfed, hcredit⟩ := h
  obtain ⟨m, hfed', hcredit'⟩ := h'
  refine ⟨n + m, ?_, by omega⟩
  rw [hfed', hfed, List.append_assoc, List.replicate_append_replicate]

theorem emitSilence_fills (t : AudioThread σ κ δ β) (nowNs : Nat) (routed : Bool) :
    Fills p t (t.emitSilenceForElapsed p nowNs routed) := by
  unfold emitSilenceForElapsed
  dsimp only
  split
  · exact Silent.fills ⟨rfl, rfl⟩
  · split
    · exact ⟨_, rfl, rfl⟩
    · exact ⟨_, rfl, rfl⟩

theorem reinit_silent (t : AudioThread σ κ δ β) (answers : Nat → Option InnerStream) :
    Silent t (t.reinit p answers).1 := by
  unfold reinit
  split <;> exact ⟨rfl, rfl⟩

theorem reactivate_fills (t : AudioThread σ κ δ β) (k : Tick α) (realign : Bool)
    (answers : Nat → Option InnerStream) : Fills p t (t.reactivate p k realign answers) := by
  have hreinit := reinit_silent (p := p) t answers
  unfold reactivate
  dsimp only
  split
  · refine hreinit.fills.trans (Fills.trans (Silent.fills ?_) (emitSilence_fills _ _ _))
    exact ⟨rfl, rfl⟩
  · exact hreinit.fills

theorem reactivate_silent (t : AudioThread σ κ δ β) (k : Tick α)
    (answers : Nat → Option InnerStream) : Silent t (t.reactivate p k false answers) := by
  unfold reactivate
  simp only [Bool.and_false, Bool.false_eq_true, if_false]
  exact reinit_silent t answers

theorem degradedTurn_fills (t : AudioThread σ κ δ β) (k : Tick α) :
    Fills p t (t.degradedTurn p k) := by
  have hfill := emitSilence_fills (p := p) t k.nowNs k.routed
  unfold degradedTurn
  dsimp only
  split
  · exact hfill
  · split
    · exact hfill
    · exact hfill.trans (reactivate_fills _ _ _ _)

theorem mergedHealth_eq (t : AudioThread σ κ δ β) (k : Tick α) :
    t.mergedHealth p k =
      if t.degradedSourceCount = 0 then t
      else
        let filled := if t.clockDriven then t.emitSilenceForElapsed p k.nowNs k.routed else t
        if filled.failed then filled
        else match k.reinit with
          | none => filled
          | some answers => filled.reactivate p k t.clockDriven answers := rfl

theorem mergedHealth_fills (t : AudioThread σ κ δ β) (k : Tick α) :
    Fills p t (t.mergedHealth p k) := by
  rw [mergedHealth_eq]
  split
  · exact Silent.fills ⟨rfl, rfl⟩
  · have hfill : Fills p t (if t.clockDriven then t.emitSilenceForElapsed p k.nowNs k.routed
        else t) := by
      split
      · exact emitSilence_fills _ _ _
      · exact Silent.fills ⟨rfl, rfl⟩
    dsimp only
    generalize (if t.clockDriven then t.emitSilenceForElapsed p k.nowNs k.routed else t) = filled
      at hfill
    split
    · exact hfill
    · split
      · exact hfill
      · exact hfill.trans (reactivate_fills _ _ _ _)

theorem idleTurn_fills (t : AudioThread σ κ δ β) (k : Tick α) : Fills p t (t.idleTurn p k) := by
  unfold idleTurn
  split
  · exact Fills.trans (Silent.fills ⟨rfl, rfl⟩) (emitSilence_fills _ _ _)
  · exact Silent.fills ⟨rfl, rfl⟩

theorem enterDrain_silent (t : AudioThread σ κ δ β) (mask : BitVec 32) :
    Silent t (t.enterDrain mask) := by
  unfold enterDrain
  split
  · exact ⟨rfl, rfl⟩
  · split <;> exact ⟨rfl, rfl⟩

theorem topTurn_fills (hstop : k.stopRequested = false) : Fills p t (t.topTurn p k) := by
  unfold topTurn
  rw [if_neg (by simp [hstop])]
  split
  · exact Silent.fills ⟨rfl, rfl⟩
  split
  · exact degradedTurn_fills t k
  have hhealth := mergedHealth_fills (p := p) t k
  dsimp only
  split
  · exact hhealth
  split
  · exact hhealth.trans (idleTurn_fills _ _)
  · exact hhealth.trans (enterDrain_silent _ _).fills

/-! ## No silence outside outages -/

/-- A merged source that is being reacquired feeds nothing, and no clock is read. -/
theorem mergedHealth_outside (hclock : t.clockDriven = false) :
    (t.mergedHealth p k).fed = t.fed ∧
      (t.mergedHealth p k).silentStalled = t.silentStalled ∧
      (t.mergedHealth p k).lastAccountedQpcNs = t.lastAccountedQpcNs := by
  rw [mergedHealth_eq, hclock]
  simp only [Bool.false_eq_true, if_false]
  split
  · exact ⟨rfl, rfl, rfl⟩
  split
  · exact ⟨rfl, rfl, rfl⟩
  split
  · exact ⟨rfl, rfl, rfl⟩
  · unfold reactivate reinit
    simp only [Bool.and_false, Bool.false_eq_true, if_false]
    split <;> exact ⟨rfl, rfl, rfl⟩

/-- Outside an outage the head of the loop feeds nothing. -/
theorem topTurn_outside (hphase : t.phase = .top) (hstop : k.stopRequested = false)
    (hout : ¬ InOutage p t k) : (t.topTurn p k).fed = t.fed := by
  unfold InOutage at hout
  rw [hphase] at hout
  simp only [not_or, Bool.not_eq_true] at hout
  obtain ⟨hbare, hclock, hstalled, hstall⟩ := hout
  have hhealth := mergedHealth_outside (p := p) (k := k) hclock
  unfold topTurn
  rw [if_neg (by simp [hstop])]
  split
  · rfl
  rw [if_neg (by simp [hbare])]
  dsimp only
  split
  · exact hhealth.1
  split
  · unfold idleTurn
    rw [hhealth.2.1, hhealth.2.2, hstalled, hstall]
    simp [hhealth.1]
  · exact (enterDrain_silent _ _).1.trans hhealth.1

/-! ## Packets -/

theorem acquireBuffer_silent (t : AudioThread σ κ δ β) (k : Tick α) :
    Silent t (t.acquireBuffer p k).1 ∧ (t.acquireBuffer p k).1.phase = t.phase := by
  unfold acquireBuffer
  split <;> exact ⟨⟨rfl, rfl⟩, rfl⟩

theorem observeTiming_silent (t : AudioThread σ κ δ β) (k : Tick α) :
    Silent t (t.observeTiming p k) := by
  unfold observeTiming
  split
  · exact ⟨rfl, rfl⟩
  · dsimp only
    split <;> exact ⟨rfl, rfl⟩

theorem pauseTurn_silent (t : AudioThread σ κ δ β) (k : Tick α) :
    (t.pauseTurn p k).fed = t.fed ∧
      ((t.pauseTurn p k).silenceFilledFramesSincePacket = t.silenceFilledFramesSincePacket ∨
        (t.pauseTurn p k).silenceFilledFramesSincePacket = 0) := by
  obtain ⟨⟨hfed, hcredit⟩, _⟩ := acquireBuffer_silent (p := p) t k
  unfold pauseTurn leavePause
  split
  · exact ⟨rfl, .inr rfl⟩
  · generalize t.acquireBuffer p k = acquired at hfed hcredit
    obtain ⟨t', lost | ⟨buf, qpcNs⟩⟩ := acquired
    · dsimp only
      split <;> exact ⟨hfed, .inr rfl⟩
    · exact ⟨hfed, .inl hcredit⟩

/-- A turn of the drain: nothing, or the gap's remainder and the frames of the packet. -/
theorem drainTurn_feeds (t : AudioThread σ κ δ β) (k : Tick α) {trackMuted : Bool}
    (hphase : t.phase = .draining trackMuted) :
    match t.packetOf p k with
    | none => Silent t (t.drainTurn p k trackMuted)
    | some buf =>
        (t.drainTurn p k trackMuted).fed.length = t.fed.length +
            remainingGapFrames buf.gapFrames t.silenceFilledFramesSincePacket +
            framesOf p trackMuted buf ∧
          ((t.drainTurn p k trackMuted).phase = .done ∨
            (t.drainTurn p k trackMuted).silenceFilledFramesSincePacket =
              if 0 < buf.numFrames then 0 else t.silenceFilledFramesSincePacket) := by
  obtain ⟨⟨hfed, hcredit⟩, _⟩ := acquireBuffer_silent (p := p) t k
  have hpacket : t.packetOf p k = if t.pendingFrameCount k = 0 then none
      else match (t.acquireBuffer p k).2 with
        | .packet buf _ => some buf
        | .failed _ => none := by
    unfold packetOf
    rw [hphase]
  rw [hpacket]
  unfold drainTurn
  by_cases hpending : t.pendingFrameCount k = 0
  · rw [if_pos hpending, if_pos hpending]
    exact ⟨rfl, rfl⟩
  · rw [if_neg hpending, if_neg hpending]
    generalize t.acquireBuffer p k = acquired at hfed hcredit
    obtain ⟨t', lost | ⟨buf, qpcNs⟩⟩ := acquired
    · exact ⟨hfed, hcredit⟩
    · dsimp only at hfed hcredit ⊢
      obtain ⟨hobserved, hobserved'⟩ := observeTiming_silent (p := p) t' k
      unfold feedPacket framesOf
      dsimp only
      cases hframes : packetFrames p trackMuted buf with
      | none =>
        refine ⟨?_, .inl rfl⟩
        show ((t'.observeTiming p k).fed ++ List.replicate _ _).length = _
        rw [hobserved, hfed, hcredit, List.length_append, List.length_replicate]
        rfl
      | some frames =>
        have hlength : ((t'.observeTiming p k).fed ++ List.replicate
            (remainingGapFrames buf.gapFrames t'.silenceFilledFramesSincePacket) p.silentOut ++
              frames).length = t.fed.length +
                remainingGapFrames buf.gapFrames t.silenceFilledFramesSincePacket +
                ((some frames).map List.length).getD 0 := by
          rw [hobserved, hfed, hcredit, List.length_append, List.length_append,
            List.length_replicate]
          rfl
        dsimp only
        by_cases hcarries : 0 < buf.numFrames
        · rw [if_pos hcarries, if_pos hcarries]
          cases k.routed
          · exact ⟨hlength, .inl rfl⟩
          · exact ⟨hlength, .inr rfl⟩
        · rw [if_neg hcarries, if_neg hcarries]
          cases k.routed
          · exact ⟨hlength, .inl rfl⟩
          · exact ⟨hlength, .inr (hobserved'.trans hcredit)⟩

theorem tailTurn_feeds (t : AudioThread σ κ δ β) (k : Tick α) :
    t.fed.length ≤ (t.tailTurn p k).fed.length ∧
      ((t.tailTurn p k).phase = .done ∨ (t.tailTurn p k).silenceFilledFramesSincePacket =
        t.silenceFilledFramesSincePacket) := by
  obtain ⟨⟨hfed, hcredit⟩, _⟩ := acquireBuffer_silent (p := p) t k
  unfold tailTurn
  split
  · refine ⟨?_, .inl rfl⟩
    show _ ≤ (t.fed ++ _).length
    simp
  · generalize t.acquireBuffer p k = acquired at hfed hcredit
    obtain ⟨t', lost | ⟨buf, qpcNs⟩⟩ := acquired
    · exact ⟨Nat.le_of_eq (congrArg List.length hfed).symm, .inl rfl⟩
    · dsimp only at hfed hcredit ⊢
      have hle : t.fed.length ≤ (t'.fed ++ (List.range buf.numFrames).map fun i =>
          (buf.bytes.getD []).getD i p.silentOut).length := by
        rw [hfed, List.length_append]
        exact Nat.le_add_right _ _
      cases k.routed
      · exact ⟨hle, .inl rfl⟩
      · exact ⟨hle, .inr hcredit⟩

theorem stop_feeds (t : AudioThread σ κ δ β) :
    t.fed.length ≤ (t.stop p).fed.length ∧ ((t.stop p).phase = .done ∨
      (t.stop p).silenceFilledFramesSincePacket = t.silenceFilledFramesSincePacket) := by
  unfold stop
  split
  · refine ⟨?_, .inl rfl⟩
    show _ ≤ (t.fed ++ _).length
    simp
  · exact ⟨Nat.le_refl _, .inr rfl⟩

/-! ## Runs -/

variable {r : OutageRun σ κ δ β}

/-- No gap outruns a credit that a pause has cut, and a gap comes with the frames behind it: what
    is credited is all of the outage's silence, or covers the gap. -/
def GapCredited (p : Parts σ κ δ α β) (r : OutageRun σ κ δ β) (k : Tick α) : Prop :=
  ∀ buf, r.thread.packetOf p k = some buf →
    (buf.gapFrames.toNat ≤ r.thread.silenceFilledFramesSincePacket ∨
      r.thread.silenceFilledFramesSincePacket = r.current.filled) ∧
    (buf.numFrames = 0 ∨ r.thread.phase = .tail → buf.gapFrames = 0)

instance (r : OutageRun σ κ δ β) (k : Tick α) : Decidable (GapCredited p r k) :=
  decidable_of_iff (∀ buf ∈ r.thread.packetOf p k,
    (buf.gapFrames.toNat ≤ r.thread.silenceFilledFramesSincePacket ∨
      r.thread.silenceFilledFramesSincePacket = r.current.filled) ∧
    (buf.numFrames = 0 ∨ r.thread.phase = .tail → buf.gapFrames = 0)) Iff.rfl

/-- The larger of the two was fed. -/
def Outage.Covered (o : Outage) : Prop := o.injected = max o.filled o.reported

/-- The frames fed are the captured ones and the silence. -/
def OutageRun.Balanced (r : OutageRun σ κ δ β) : Prop :=
  r.thread.fed.length = r.captured + r.silence

/-- While the thread runs no gap is open, and the credit is silence of the outage. -/
structure OutageInv (r : OutageRun σ κ δ β) : Prop where
  closed : ∀ o ∈ r.closed, o.Covered
  current : r.current.Covered
  credit : r.thread.phase ≠ .done → r.current.reported = 0 ∧
    r.thread.silenceFilledFramesSincePacket ≤ r.current.filled

theorem OutageRun.step_thread (r : OutageRun σ κ δ β) (k : Tick α) :
    (r.step p k).thread = r.thread.step p k := rfl

theorem OutageRun.silence_fill (r : OutageRun σ κ δ β) (n : Nat) :
    (r.fill n).silence = r.silence + n := (Nat.add_assoc _ _ _).symm

theorem OutageRun.silence_packet (r : OutageRun σ κ δ β) (buf : RawAudioBuffer β)
    (fed frames : Nat) : (r.packet buf fed frames).silence = r.silence + (fed - frames) := by
  unfold packet
  dsimp only
  split
  · simp only [silence, List.map_append, List.map_cons, List.map_nil, List.sum_append,
      List.sum_cons, List.sum_nil]
    omega
  · exact (Nat.add_assoc _ _ _).symm

theorem OutageRun.captured_packet (r : OutageRun σ κ δ β) (buf : RawAudioBuffer β)
    (fed frames : Nat) : (r.packet buf fed frames).captured = r.captured + frames := by
  unfold packet
  dsimp only
  split <;> rfl

/-- The bookings of a step, by the phase. -/
theorem OutageRun.step_top (hphase : r.thread.phase = .top) (k : Tick α) :
    r.step p k = { (if k.stopRequested then
        { r with captured := r.captured +
          ((r.thread.topTurn p k).fed.length - r.thread.fed.length) }
      else r.fill ((r.thread.topTurn p k).fed.length - r.thread.fed.length)) with
      thread := r.thread.topTurn p k } := by
  simp only [OutageRun.step, AudioThread.step, hphase]

theorem OutageRun.step_pausing (hphase : r.thread.phase = .pausing) (k : Tick α) :
    r.step p k = { r with thread := r.thread.pauseTurn p k } := by
  simp only [OutageRun.step, AudioThread.step, hphase]

theorem OutageRun.step_draining {trackMuted : Bool}
    (hphase : r.thread.phase = .draining trackMuted) (k : Tick α) :
    r.step p k = { (match r.thread.packetOf p k with
      | some buf => r.packet buf
          ((r.thread.drainTurn p k trackMuted).fed.length - r.thread.fed.length)
          (framesOf p trackMuted buf)
      | none => r) with thread := r.thread.drainTurn p k trackMuted } := by
  simp only [OutageRun.step, AudioThread.step, hphase]

theorem OutageRun.step_tail (hphase : r.thread.phase = .tail) (k : Tick α) :
    r.step p k = { r with
      thread := r.thread.tailTurn p k
      captured := r.captured + ((r.thread.tailTurn p k).fed.length - r.thread.fed.length)
      current := { r.current with
        reported := r.current.reported +
          ((r.thread.packetOf p k).map fun (buf : RawAudioBuffer β) =>
            buf.gapFrames.toNat).getD 0 } } := by
  simp only [OutageRun.step, AudioThread.step, hphase]

theorem OutageRun.step_done (hphase : r.thread.phase = .done) (k : Tick α) :
    r.step p k = r := by
  simp only [OutageRun.step, AudioThread.step, hphase]

/-- The step lemma of the balance. -/
theorem OutageRun.Balanced.step (h : r.Balanced) (k : Tick α) : (r.step p k).Balanced := by
  unfold Balanced at h ⊢
  cases hphase : r.thread.phase with
  | top =>
    rw [step_top hphase]
    cases hstop : k.stopRequested with
    | true =>
      have hle := (stop_feeds (p := p) r.thread).1
      have hturn : r.thread.topTurn p k = r.thread.stop p := by
        unfold topTurn
        exact if_pos hstop
      rw [if_pos rfl, hturn]
      show (r.thread.stop p).fed.length = r.captured + _ + r.silence
      omega
    | false =>
      obtain ⟨n, hfed, _⟩ := topTurn_fills (p := p) (t := r.thread) hstop
      have hlength : (r.thread.topTurn p k).fed.length = r.thread.fed.length + n := by
        rw [hfed, List.length_append, List.length_replicate]
      rw [if_neg Bool.false_ne_true]
      show (r.thread.topTurn p k).fed.length = r.captured + (r.fill _).silence
      rw [silence_fill]
      omega
  | pausing =>
    rw [step_pausing hphase]
    show (r.thread.pauseTurn p k).fed.length = r.captured + r.silence
    rw [(pauseTurn_silent _ _).1, h]
  | draining trackMuted =>
    rw [step_draining hphase]
    have hfeeds := drainTurn_feeds (p := p) r.thread k hphase
    cases hpacket : r.thread.packetOf p k with
    | none =>
      rw [hpacket] at hfeeds
      show (r.thread.drainTurn p k trackMuted).fed.length = r.captured + r.silence
      rw [hfeeds.1, h]
    | some buf =>
      rw [hpacket] at hfeeds
      have hfed := hfeeds.1
      show (r.thread.drainTurn p k trackMuted).fed.length = (r.packet buf _ _).captured +
        (r.packet buf _ _).silence
      rw [captured_packet, silence_packet]
      omega
  | tail =>
    rw [step_tail hphase]
    have hle := (tailTurn_feeds (p := p) r.thread k).1
    show (r.thread.tailTurn p k).fed.length = r.captured + _ + r.silence
    omega
  | done => rwa [step_done hphase]

theorem OutageRun.balanced_run (h : r.Balanced) (ks : List (Tick α)) : (r.run p ks).Balanced :=
  StepRun.foldl_invariant (fun _ k h => h.step k) ks h

/-- What a packet's gap brings an outage to the larger of the two. -/
theorem covered_of_credited {filled gap credit : Nat} (hcredit : credit ≤ filled)
    (h : gap ≤ credit ∨ credit = filled) : filled + (gap - credit) = max filled gap := by
  omega

/-- The step lemma of the outages. -/
theorem OutageInv.step (hI : OutageInv r) {k : Tick α} (hG : GapCredited p r k) :
    OutageInv (r.step p k) := by
  obtain ⟨hclosed, hcurrent, hcredit⟩ := hI
  cases hphase : r.thread.phase with
  | top =>
    obtain ⟨hreported, hle⟩ := hcredit (by rw [hphase]; exact nofun)
    rw [OutageRun.step_top hphase]
    cases hstop : k.stopRequested with
    | true =>
      have hturn : r.thread.topTurn p k = r.thread.stop p := by
        unfold topTurn
        exact if_pos hstop
      rw [if_pos rfl, hturn]
      refine ⟨hclosed, hcurrent, fun hrunning => ⟨hreported, ?_⟩⟩
      rcases (stop_feeds (p := p) r.thread).2 with hdone | hsame
      · exact absurd hdone hrunning
      · exact hsame ▸ hle
    | false =>
      obtain ⟨n, hfed, hmore⟩ := topTurn_fills (p := p) (t := r.thread) hstop
      have hlength : (r.thread.topTurn p k).fed.length - r.thread.fed.length = n := by
        rw [hfed, List.length_append, List.length_replicate, Nat.add_sub_cancel_left]
      rw [if_neg Bool.false_ne_true, hlength]
      refine ⟨hclosed, ?_, fun _ => ⟨hreported, ?_⟩⟩
      · unfold Outage.Covered at hcurrent
        show r.current.injected + n = max (r.current.filled + n) r.current.reported
        omega
      · show (r.thread.topTurn p k).silenceFilledFramesSincePacket ≤ r.current.filled + n
        omega
  | pausing =>
    obtain ⟨hreported, hle⟩ := hcredit (by rw [hphase]; exact nofun)
    rw [OutageRun.step_pausing hphase]
    refine ⟨hclosed, hcurrent, fun _ => ⟨hreported, ?_⟩⟩
    rcases (pauseTurn_silent (p := p) r.thread k).2 with hsame | hzero
    · exact hsame ▸ hle
    · exact hzero ▸ Nat.zero_le _
  | draining trackMuted =>
    obtain ⟨hreported, hle⟩ := hcredit (by rw [hphase]; exact nofun)
    rw [OutageRun.step_draining hphase]
    have hfeeds := drainTurn_feeds (p := p) r.thread k hphase
    cases hpacket : r.thread.packetOf p k with
    | none =>
      rw [hpacket] at hfeeds
      exact ⟨hclosed, hcurrent, fun _ => ⟨hreported, hfeeds.2 ▸ hle⟩⟩
    | some buf =>
      rw [hpacket] at hfeeds
      obtain ⟨hfed, hafter⟩ := hfeeds
      obtain ⟨hgap, hframeless⟩ := hG buf hpacket
      have hrest : (r.thread.drainTurn p k trackMuted).fed.length - r.thread.fed.length -
          framesOf p trackMuted buf =
            buf.gapFrames.toNat - r.thread.silenceFilledFramesSincePacket := by
        rw [hfed]
        unfold remainingGapFrames
        omega
      have hcovered : Outage.Covered { r.current with
          reported := r.current.reported + buf.gapFrames.toNat
          injected := r.current.injected + ((r.thread.drainTurn p k trackMuted).fed.length -
            r.thread.fed.length - framesOf p trackMuted buf) } := by
        unfold Outage.Covered at hcurrent ⊢
        dsimp only
        rw [hrest, hcurrent, hreported, Nat.max_zero, Nat.zero_add]
        exact covered_of_credited hle hgap
      unfold OutageRun.packet
      dsimp only
      by_cases hcarries : 0 < buf.numFrames
      · rw [if_pos hcarries]
        rw [if_pos hcarries] at hafter
        refine ⟨fun o ho => ?_, rfl, fun hrunning => ⟨rfl, ?_⟩⟩
        · rcases List.mem_append.mp ho with hold | hnew
          · exact hclosed o hold
          · exact List.mem_singleton.mp hnew ▸ hcovered
        · rcases hafter with hdone | hzero
          · exact absurd hdone hrunning
          · exact Nat.le_of_eq hzero
      · rw [if_neg hcarries]
        rw [if_neg hcarries] at hafter
        have hzero := hframeless (.inl (Nat.eq_zero_of_not_pos hcarries))
        refine ⟨hclosed, hcovered, fun hrunning => ⟨?_, ?_⟩⟩
        · show r.current.reported + buf.gapFrames.toNat = 0
          rw [hzero, hreported]
          rfl
        · rcases hafter with hdone | hsame
          · exact absurd hdone hrunning
          · exact hsame ▸ hle
  | tail =>
    obtain ⟨hreported, hle⟩ := hcredit (by rw [hphase]; exact nofun)
    rw [OutageRun.step_tail hphase]
    have hnone : ((r.thread.packetOf p k).map fun (buf : RawAudioBuffer β) =>
        buf.gapFrames.toNat).getD 0 = 0 := by
      cases hpacket : r.thread.packetOf p k with
      | none => rfl
      | some buf =>
        have hzero := (hG buf hpacket).2 (.inr hphase)
        show buf.gapFrames.toNat = 0
        rw [hzero]
        rfl
    rw [hnone, Nat.add_zero]
    refine ⟨hclosed, hcurrent, fun hrunning => ⟨hreported, ?_⟩⟩
    rcases (tailTurn_feeds (p := p) r.thread k).2 with hdone | hsame
    · exact absurd hdone hrunning
    · exact hsame ▸ hle
  | done =>
    rw [OutageRun.step_done hphase]
    exact ⟨hclosed, hcurrent, hcredit⟩

/-- Outside an outage no silence is fed. -/
theorem OutageRun.silence_outside (k : Tick α)
    (hout : ¬ InOutage p r.thread k) : (r.step p k).silence = r.silence := by
  cases hphase : r.thread.phase with
  | top =>
    rw [step_top hphase]
    cases hstop : k.stopRequested with
    | true => rfl
    | false =>
      show (r.fill _).silence = r.silence
      rw [silence_fill, topTurn_outside hphase hstop hout, Nat.sub_self, Nat.add_zero]
  | pausing =>
    rw [step_pausing hphase]
    rfl
  | draining trackMuted =>
    rw [step_draining hphase]
    have hfeeds := drainTurn_feeds (p := p) r.thread k hphase
    cases hpacket : r.thread.packetOf p k with
    | none => rfl
    | some buf =>
      rw [hpacket] at hfeeds
      have hgap : buf.gapFrames.toNat = 0 := by
        unfold InOutage at hout
        rw [hphase] at hout
        refine Nat.eq_zero_of_not_pos fun hpos => hout ⟨buf, hpacket, ?_⟩
        exact UInt32.lt_iff_toNat_lt.mpr hpos
      show (r.packet buf _ _).silence = r.silence
      rw [silence_packet, hfeeds.1]
      unfold remainingGapFrames
      omega
  | tail =>
    rw [step_tail hphase]
    rfl
  | done => rw [step_done hphase]

/-- In a run whose gaps are credited, the silence of an outage is the larger of what the wall clock
    filled in and what the device reported; outside outages there is none, and the frames fed are
    the captured ones and that silence. -/
theorem silence_per_outage (p : Parts σ κ δ α β) (kinds : List AudioSourceKind)
    (outputFormat : OutputFormatAudioSrc σ) (capture : Capture σ κ) (slaving : δ) (nowNs : Nat)
    (ks : List (Tick α))
    (hcredited : StepRun.Meets (fun r k => some (OutageRun.step p r k)) (GapCredited p)
      ⟨start kinds outputFormat capture slaving nowNs, [], {}, 0⟩ ks) :
    let r := OutageRun.run p ⟨start kinds outputFormat capture slaving nowNs, [], {}, 0⟩ ks
    (∀ o ∈ r.closed ++ [r.current], o.injected = max o.filled o.reported) ∧
      r.thread.fed.length =
        r.captured + ((r.closed ++ [r.current]).map fun o => max o.filled o.reported).sum ∧
      ∀ k, ¬ InOutage p r.thread k → (r.step p k).silence = r.silence := by
  intro r
  have hrun : StepRun.exec (fun r k => some (OutageRun.step p r k))
      ⟨start kinds outputFormat capture slaving nowNs, [], {}, 0⟩ ks = some r :=
    StepRun.exec_total _ _ _
  have hI : OutageInv r := by
    refine StepRun.exec_invariant (fun r k r' hI hG hstep => ?_)
      ⟨fun _ h => absurd h List.not_mem_nil, ?_, fun _ => ⟨rfl, ?_⟩⟩ hcredited hrun
    · obtain rfl := Option.some.inj hstep
      exact hI.step hG
    · exact (Nat.max_self 0).symm
    · exact Nat.le_refl 0
  have hB : r.Balanced := OutageRun.balanced_run (by exact rfl) ks
  have hcovered : ∀ o ∈ r.closed ++ [r.current], o.injected = max o.filled o.reported := by
    intro o ho
    rcases List.mem_append.mp ho with hold | hnew
    · exact hI.closed o hold
    · exact List.mem_singleton.mp hnew ▸ hI.current
  refine ⟨hcovered, ?_, fun k hout => OutageRun.silence_outside k hout⟩
  rw [hB, ← List.map_congr_left hcovered]
  simp [OutageRun.silence]

/-! ## Runs without their frames -/

/-- The frames a step feeds, read off the credit and the packet where that is what it feeds. -/
def OutageRun.feeds (p : Parts σ κ δ α β) (r : OutageRun σ κ δ β) (k : Tick α) : Nat :=
  match r.thread.phase with
  | .top =>
      if k.stopRequested then (r.thread.topTurn p k).fed.length - r.thread.fed.length
      else (r.thread.topTurn p k).silenceFilledFramesSincePacket -
        r.thread.silenceFilledFramesSincePacket
  | .draining trackMuted =>
      match r.thread.packetOf p k with
      | some buf => remainingGapFrames buf.gapFrames r.thread.silenceFilledFramesSincePacket +
          framesOf p trackMuted buf
      | none => 0
  | _ => (r.thread.step p k).fed.length - r.thread.fed.length

theorem OutageRun.feeds_eq (r : OutageRun σ κ δ β) (k : Tick α) :
    (r.thread.step p k).fed.length - r.thread.fed.length = r.feeds p k := by
  unfold feeds
  cases hphase : r.thread.phase with
  | top =>
    have hstep : r.thread.step p k = r.thread.topTurn p k := by
      simp only [AudioThread.step, hphase]
    rw [hstep]
    dsimp only
    cases hstop : k.stopRequested with
    | true => rw [if_pos rfl]
    | false =>
      obtain ⟨n, hfed, hcredit⟩ := topTurn_fills (p := p) (t := r.thread) hstop
      rw [if_neg Bool.false_ne_true, hfed, hcredit, List.length_append, List.length_replicate]
      omega
  | draining trackMuted =>
    have hstep : r.thread.step p k = r.thread.drainTurn p k trackMuted := by
      simp only [AudioThread.step, hphase]
    have hfeeds := drainTurn_feeds (p := p) r.thread k hphase
    rw [hstep]
    dsimp only
    cases hpacket : r.thread.packetOf p k with
    | none =>
      rw [hpacket] at hfeeds
      rw [hfeeds.1, Nat.sub_self]
    | some buf =>
      rw [hpacket] at hfeeds
      have hfed := hfeeds.1
      dsimp only
      omega
  | pausing => rfl
  | tail => rfl
  | done => rfl

/-- The step, with `feeds` for the frames. -/
def OutageRun.counted (p : Parts σ κ δ α β) (r : OutageRun σ κ δ β) (k : Tick α) :
    OutageRun σ κ δ β :=
  let t := r.thread
  let booked :=
    match t.phase with
    | .top =>
        if k.stopRequested then { r with captured := r.captured + r.feeds p k }
        else r.fill (r.feeds p k)
    | .draining trackMuted =>
        match t.packetOf p k with
        | some buf => r.packet buf (r.feeds p k) (framesOf p trackMuted buf)
        | none => r
    | .tail =>
        { r with
          captured := r.captured + r.feeds p k
          current := { r.current with
            reported := r.current.reported +
              ((t.packetOf p k).map fun (buf : RawAudioBuffer β) => buf.gapFrames.toNat).getD 0 } }
    | _ => r
  { booked with thread := t.step p k }

theorem OutageRun.step_eq_counted : OutageRun.step p = OutageRun.counted p := by
  funext r k
  unfold step counted
  rw [← r.feeds_eq k]

theorem OutageRun.run_eq_counted (r : OutageRun σ κ δ β) (ks : List (Tick α)) :
    r.run p ks = ks.foldl (OutageRun.counted p) r := by
  rw [run, step_eq_counted]

/-- A converter that is passed by. -/
def plainParts : Parts Unit Unit Unit Unit Unit where
  bare := plain () ()
  inner := plain () ⟨0, 0⟩
  outer := plain ⟨0, 0⟩ ()
  limiter limiter frames := (limiter, frames)
  slaving :=
    { observe := fun d _ _ _ _ _ => (d, none)
      notifySilenceFilled := fun d _ => d
      reset := fun d => d }
  silentOut := ()
where
  plain {α β : Type} (silentIn : α) (frame : β) : Resampler Unit α β := {
    build := fun _ => none
    outSamples := fun _ n => some n
    convert := fun s frames => some (s, frames.map fun _ => frame)
    flush := fun s => (s, [])
    delayNs := fun _ => 0
    setCompensation := fun s _ => s
    silentIn := silentIn
    forward := fun _ => frame }

def readPacket (gapFrames : UInt32) (_ : Nat) : Reading Unit :=
  ⟨480, .packet { numFrames := 480, silent := true, gapFrames := gapFrames } 0, 0⟩

def readSilence (_ : Nat) : Reading Unit := ⟨0, .failed false, 0⟩

/-- A packet at 10 ms, none for 300 ms, a pause of 100 ms if there is one, and a packet behind the
    gap that the device reports. -/
def quietTicks (paused : Bool) (gapFrames : UInt32) : List (Tick Unit) :=
  [{ nowNs := 10000000, reading := readPacket 0 }, { nowNs := 10000000, reading := readPacket 0 },
    { nowNs := 10000000, reading := readSilence },
    { nowNs := 310000000, reading := readSilence }] ++
    (if paused then
      [{ nowNs := 310000000, reading := readSilence, pauseRequested := true },
        { nowNs := 410000000, reading := readSilence, pauseRequested := true }] else []) ++
    [{ nowNs := 420000000, reading := readPacket gapFrames },
      { nowNs := 420000000, reading := readPacket gapFrames }]

def quietStart : OutageRun Unit Unit Unit Unit :=
  ⟨start [.sys] { targetRate := 48000, targetChannels := 2, passthrough := true } .bare () 0, [],
    {}, 0⟩

/-- The 10 ms that the device reports behind a pause are fed on top of the 300 ms that were filled
    in before it. -/
theorem outage_filled_and_reported :
    let r := OutageRun.run plainParts quietStart (quietTicks true 480)
    r.closed = [⟨0, 0, 0⟩, ⟨14400, 480, 14400 + 480⟩] ∧ r.captured = 960 ∧
      ¬ (∀ o ∈ r.closed ++ [r.current], o.injected = max o.filled o.reported) ∧
      r.captured + ((r.closed ++ [r.current]).map fun o => max o.filled o.reported).sum <
        r.thread.fed.length := by
  intro r
  have hrun : r.closed = [⟨0, 0, 0⟩, ⟨14400, 480, 14400 + 480⟩] ∧ r.current = {} ∧
      r.captured = 960 := by
    show OutageRun.closed (OutageRun.run ..) = _ ∧ OutageRun.current (OutageRun.run ..) = _ ∧
      OutageRun.captured (OutageRun.run ..) = _
    rw [OutageRun.run_eq_counted]
    decide +kernel
  obtain ⟨hclosed, hcurrent, hcaptured⟩ := hrun
  have hfed : r.thread.fed.length = r.captured + r.silence :=
    OutageRun.balanced_run (by exact rfl) (quietTicks true 480)
  refine ⟨hclosed, hcaptured, ?_, ?_⟩
  · rw [hclosed, hcurrent]
    decide
  · rw [hfed, OutageRun.silence, hclosed, hcurrent]
    exact Nat.add_lt_add_left (by decide) _

/-- Without the pause the silence that the clock filled in is part of the gap. -/
theorem silence_per_outage_unpaused :
    let r := OutageRun.run plainParts quietStart (quietTicks false 14880)
    r.closed = [⟨0, 0, 0⟩, ⟨14400, 14880, 14880⟩] ∧
      (∀ o ∈ r.closed ++ [r.current], o.injected = max o.filled o.reported) ∧
      r.thread.fed.length =
        r.captured + ((r.closed ++ [r.current]).map fun o => max o.filled o.reported).sum ∧
      ∀ k, ¬ InOutage plainParts r.thread k → (r.step plainParts k).silence = r.silence := by
  have hcredited : StepRun.Meets (fun r k => some (OutageRun.step plainParts r k))
      (GapCredited plainParts) quietStart (quietTicks false 14880) := by
    rw [OutageRun.step_eq_counted]
    decide
  refine ⟨?_, ?_⟩
  · rw [OutageRun.run_eq_counted]
    decide +kernel
  · unfold quietStart
    exact silence_per_outage plainParts [.sys] _ .bare () 0 _ hcredited

end AudioThread

end Exosnap.Engine
