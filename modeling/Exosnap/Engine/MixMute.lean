/-
  The mixer and the samples of a muted source.

  While the mixer holds the mute bit of a source, a packet of that source goes into the mix as
  silence of its length, whatever its samples are (`pumpSource_muted`). So two lists of answers
  that differ in the samples of muted sources lead to one mixer and one mixed block
  (`acquireBuffer_muted`). The same goes for the resampler tails of several sources at stop
  (`beginDrain_muted`); the tail of a single source does not ask for the mute.
-/
import Exosnap.Engine.MixedAudioSrc
import Exosnap.Engine.OutputFormatAudioSrc
import Exosnap.Lib.TwoRuns

namespace Exosnap.Engine

namespace MixedAudioSrc

variable {κ : Type*}

/-- Two polls that differ in the samples of their packets only. -/
inductive SamePoll : Poll → Poll → Prop where
  | idle : SamePoll .idle .idle
  | failed (lost : Bool) : SamePoll (.failed lost) (.failed lost)
  | packet {b b' : RawAudioBuffer Frame} (qpcNs clockNs : Nat) (h : SameShape b b') :
      SamePoll (.packet b qpcNs clockNs) (.packet b' qpcNs clockNs)

/-! ## What the mixer keeps -/

/-- The mute bits, the number of sources, and whether it drains. -/
def settings (m : MixedAudioSrc κ) : BitVec 32 × Nat × Bool :=
  (m.sourceMuteMask, m.sourceCount, m.draining)

theorem muted_congr {m m' : MixedAudioSrc κ} (h : m'.settings = m.settings) (i : Nat) :
    m'.muted i = m.muted i := by
  have hmask : m'.sourceMuteMask = m.sourceMuteMask := congrArg Prod.fst h
  unfold muted
  rw [hmask]

theorem sourceCount_congr {m m' : MixedAudioSrc κ} (h : m'.settings = m.settings) :
    m'.sourceCount = m.sourceCount := congrArg (·.2.1) h

theorem settings_modifySource (m : MixedAudioSrc κ) (index : Nat)
    (f : TimelineSource → TimelineSource) : (m.modifySource index f).settings = m.settings := by
  simp [settings, modifySource, sourceCount]

theorem settings_extendTimeline (m : MixedAudioSrc κ) (index : Nat) (start : Int)
    (numFrames : Nat) : (m.extendTimeline index start numFrames).settings = m.settings := by
  have hmark : ∀ m : MixedAudioSrc κ,
      ({ m.modifySource index fun s => { s with seen := true, endFrame := start + numFrames } with
        latestFrame := max m.latestFrame (start + numFrames) } : MixedAudioSrc κ).settings =
          m.settings := fun m => settings_modifySource m index _
  unfold extendTimeline
  dsimp only
  split
  · exact hmark { m with outputFrame := start, latestFrame := start, timelineStarted := true }
  · split
    · exact hmark { m with outputFrame := min m.outputFrame start }
    · exact hmark m

theorem settings_storeFrames (m : MixedAudioSrc κ) (index : Nat) (start : Int) (numFrames : Nat)
    (frame : Nat → Frame) :
    (m.storeFrames index start numFrames frame).settings = m.settings := by
  unfold storeFrames
  refine StepRun.foldl_invariant (I := fun m' : MixedAudioSrc κ => m'.settings = m.settings)
    ?_ _ rfl
  intro m' f h
  dsimp only
  split
  · exact h
  · exact (settings_modifySource m' index _).trans h

theorem settings_storeTimelinePacket (m : MixedAudioSrc κ) (index : Nat)
    (packet : RawAudioBuffer Frame) (qpcNs clockNs : Nat) (tail : Bool) :
    (m.storeTimelinePacket index packet qpcNs clockNs tail).settings = m.settings := by
  unfold storeTimelinePacket
  split
  · rfl
  · split
    · rfl
    · dsimp only
      rw [settings_storeFrames, settings_extendTimeline]

theorem settings_pushFifo (m : MixedAudioSrc κ) (source : TimelineSource) (index : Nat)
    (buf : RawAudioBuffer Frame) : (m.pushFifo source index buf).settings = m.settings := by
  unfold pushFifo
  split
  · rfl
  · dsimp only [settings, sourceCount]

theorem settings_pumpSource (r : MixedAudioSrc κ × Bool) (answer : Poll × Nat) :
    (pumpSource r answer).1.settings = r.1.settings := by
  obtain ⟨m, any⟩ := r
  obtain ⟨poll, index⟩ := answer
  unfold pumpSource
  dsimp only
  split
  · rfl
  · split
    · rfl
    · split
      · rfl
      · split
        · exact settings_modifySource ..
        · rfl
      · split
        · exact settings_pushFifo ..
        · exact settings_storeTimelinePacket ..

theorem settings_acquireBuffer (process : κ → List Frame → κ × List Frame)
    (m : MixedAudioSrc κ) (polls : List Poll) (clockNs : Nat) :
    (m.acquireBuffer process polls clockNs).1.settings = m.settings := by
  have hpump : (m.pumpOnePacketPerSource polls).1.settings = m.settings := by
    unfold pumpOnePacketPerSource
    split
    · rfl
    · exact StepRun.foldl_invariant (I := fun r : MixedAudioSrc κ × Bool =>
        r.1.settings = m.settings)
        (fun r answer h => (settings_pumpSource r answer).trans h) _ rfl
  unfold acquireBuffer
  dsimp only
  split
  · exact hpump
  · unfold limit mixBlock mixTimeline
    dsimp only
    split <;> split <;> exact hpump

theorem settings_drainSource (m : MixedAudioSrc κ) (answer : List Frame × Nat) :
    (m.drainSource answer).settings = m.settings := by
  unfold drainSource
  dsimp only
  split
  · rfl
  · split
    · rfl
    · split
      · exact settings_storeTimelinePacket ..
      · rfl

theorem settings_beginDrain (m : MixedAudioSrc κ) (tails : List (List Frame)) :
    (m.beginDrain tails).settings = (m.sourceMuteMask, m.sourceCount, true) := by
  unfold beginDrain
  split
  · next hdraining => rw [settings, hdraining]
  · exact StepRun.foldl_invariant (I := fun m' : MixedAudioSrc κ =>
      m'.settings = (m.sourceMuteMask, m.sourceCount, true))
      (fun m' answer h => (settings_drainSource m' answer).trans h) _ rfl

theorem settings_reinit (m : MixedAudioSrc κ) (answers : List Bool) :
    (m.reinit answers).settings = m.settings := by
  unfold reinit
  refine StepRun.foldl_invariant (I := fun m' : MixedAudioSrc κ => m'.settings = m.settings)
    ?_ _ rfl
  intro m' answer h
  unfold reinitSource
  dsimp only
  split
  · exact h
  · split
    · exact (settings_modifySource ..).trans h
    · exact h

/-! ## The mute bits -/

theorem bit_set_iff (w : BitVec 32) {i : Nat} (hi : i < 32) :
    (w &&& (1#32 <<< i) != 0#32) = w.getLsbD i := by
  have hne : BitVec.twoPow 32 i ≠ 0#32 := by
    intro h
    have hlsb := congrArg (·.getLsbD i) h
    simp [hi] at hlsb
  rw [← BitVec.twoPow_eq, BitVec.and_twoPow]
  cases w.getLsbD i with
  | false => rfl
  | true => simp [hne]

theorem muted_eq_getLsbD (m : MixedAudioSrc κ) {i : Nat} (hi : i < 32) :
    m.muted i = m.sourceMuteMask.getLsbD i := by
  unfold muted
  rw [bit_set_iff _ hi, decide_eq_true hi, Bool.true_and]

/-- What setting the mute of one source does to each. -/
theorem muted_setSourceMuted (m : MixedAudioSrc κ) (index : Nat) (b : Bool) {i : Nat}
    (hi : i < 32) :
    (m.setSourceMuted index b).muted i = if i = index then b else m.muted i := by
  rw [muted_eq_getLsbD _ hi, muted_eq_getLsbD _ hi]
  unfold setSourceMuted
  split
  · rw [if_neg (by omega)]
  · obtain rfl | h := eq_or_ne i index
    · split
      · next hb => simp [← BitVec.twoPow_eq, hi, hb]
      · next hb => simp [← BitVec.twoPow_eq, hi, hb]
    · split
      · simp [← BitVec.twoPow_eq, h.symm]
      · simp [← BitVec.twoPow_eq, hi, h]

/-! ## A packet of a muted source -/

theorem contribution_muted (gain : Float32) (packet : RawAudioBuffer Frame) :
    contribution true gain packet = fun _ => silence := by
  funext f
  rfl

theorem packetStart_sameShape (m : MixedAudioSrc κ) (source : TimelineSource)
    {b b' : RawAudioBuffer Frame} (h : SameShape b b') (qpcNs clockNs : Nat) (tail : Bool) :
    m.packetStart source b qpcNs clockNs tail = m.packetStart source b' qpcNs clockNs tail := by
  unfold packetStart
  rw [h.gapFrames, h.numFrames]

theorem storeTimelinePacket_muted {m : MixedAudioSrc κ} {index : Nat}
    (hmuted : m.muted index = true) {b b' : RawAudioBuffer Frame} (h : SameShape b b')
    (qpcNs clockNs : Nat) (tail : Bool) :
    m.storeTimelinePacket index b qpcNs clockNs tail =
      m.storeTimelinePacket index b' qpcNs clockNs tail := by
  unfold storeTimelinePacket
  rw [hmuted, h.numFrames]
  cases m.sources[index]? with
  | none => rfl
  | some source =>
    dsimp only
    rw [packetStart_sameShape m source h, contribution_muted, contribution_muted]

theorem pushFifo_muted {m : MixedAudioSrc κ} {index : Nat} (hmuted : m.muted index = true)
    (source : TimelineSource) {b b' : RawAudioBuffer Frame} (h : SameShape b b') :
    m.pushFifo source index b = m.pushFifo source index b' := by
  have hframes : ∀ b : RawAudioBuffer Frame, m.pushFifo source index b =
      if b.numFrames = 0 then m
      else
        { m with
          fifo := (m.fifo ++ List.replicate b.numFrames silence).drop
            ((m.fifo ++ List.replicate b.numFrames silence).length - kMaxFifoFrames) } := by
    intro b
    unfold pushFifo
    rw [hmuted]
    cases b.bytes <;> rfl
  rw [hframes, hframes, h.numFrames]

theorem pumpSource_muted {m : MixedAudioSrc κ} {index : Nat} (hmuted : m.muted index = true)
    (any : Bool) {poll poll' : Poll} (h : SamePoll poll poll') :
    pumpSource (m, any) (poll, index) = pumpSource (m, any) (poll', index) := by
  cases h with
  | idle => rfl
  | failed lost => rfl
  | @packet b b' qpcNs clockNs hshape =>
    unfold pumpSource
    dsimp only
    rw [hshape.dataDiscontinuity, hshape.gapFrames, storeTimelinePacket_muted hmuted hshape]
    cases m.sources[index]? with
    | none => rfl
    | some source =>
      have hfifo := pushFifo_muted (m := { m with
        singleSourcePendingGapFrames := m.singleSourcePendingGapFrames + b'.gapFrames }) hmuted
        source hshape
      dsimp only at hfifo ⊢
      rw [hfifo]

/-- Answers that differ in the samples of muted sources are one answer to the mixer. -/
theorem acquireBuffer_muted (process : κ → List Frame → κ × List Frame) (m : MixedAudioSrc κ)
    {polls polls' : List Poll} (hlen : polls.length = polls'.length)
    (h : ∀ i p p', polls[i]? = some p → polls'[i]? = some p' →
      p = p' ∨ (m.muted i = true ∧ SamePoll p p')) (clockNs : Nat) :
    m.acquireBuffer process polls clockNs = m.acquireBuffer process polls' clockNs := by
  have hpump : m.pumpOnePacketPerSource polls = m.pumpOnePacketPerSource polls' := by
    unfold pumpOnePacketPerSource
    split
    · rfl
    · refine StepRun.foldl_zipIdx_congr
        (I := fun r : MixedAudioSrc κ × Bool => r.1.settings = m.settings)
        (P := fun i p p' => p = p' ∨ (m.muted i = true ∧ SamePoll p p'))
        (fun r answer hr => (settings_pumpSource r answer).trans hr) ?_ 0 rfl hlen ?_
      · rintro ⟨m', any⟩ p p' i hr (rfl | ⟨hmuted, hsame⟩)
        · rfl
        · exact pumpSource_muted ((muted_congr hr i).trans hmuted) any hsame
      · intro i p p' hp hp'
        rw [Nat.zero_add]
        exact h i p p' hp hp'
  unfold acquireBuffer
  rw [hpump]

/-! ## The tails at stop -/

theorem drainSource_muted {m : MixedAudioSrc κ} {index : Nat} (hmuted : m.muted index = true)
    (hcount : m.sourceCount ≠ 1) {tail tail' : List Frame} (hlen : tail.length = tail'.length) :
    m.drainSource (tail, index) = m.drainSource (tail', index) := by
  unfold drainSource
  dsimp only
  rw [hlen]
  cases hsource : m.sources[index]? with
  | none => rfl
  | some source =>
    have hindex : index < m.sourceCount := (List.getElem?_eq_some_iff.mp hsource).1
    have hseveral : 1 < m.sourceCount := by omega
    have hshape : SameShape { bytes := some tail, numFrames := tail'.length }
        { bytes := some tail', numFrames := tail'.length } := ⟨rfl, rfl, rfl, rfl, rfl⟩
    dsimp only
    rw [if_pos hseveral, if_pos hseveral, storeTimelinePacket_muted hmuted hshape]

/-- Only the tail of a single source is more to the mixer than its length. -/
theorem beginDrain_muted {m : MixedAudioSrc κ} {tails tails' : List (List Frame)}
    (hlen : tails.length = tails'.length)
    (h : ∀ i t t', tails[i]? = some t → tails'[i]? = some t' →
      t = t' ∨ (m.muted i = true ∧ m.sourceCount ≠ 1 ∧ t.length = t'.length)) :
    m.beginDrain tails = m.beginDrain tails' := by
  unfold beginDrain
  split
  · rfl
  · let draining := { m with draining := true }
    refine StepRun.foldl_zipIdx_congr
      (I := fun m' : MixedAudioSrc κ => m'.settings = draining.settings)
      (P := fun i t t' => t = t' ∨ (m.muted i = true ∧ m.sourceCount ≠ 1 ∧ t.length = t'.length))
      (fun m' answer (hm : m'.settings = draining.settings) =>
        (settings_drainSource m' answer).trans hm) ?_ 0 rfl hlen ?_
    · rintro m' t t' i hm (rfl | ⟨hmuted, hsingle, htail⟩)
      · rfl
      · have hcount : m'.sourceCount = m.sourceCount := sourceCount_congr (m := draining) hm
        exact drainSource_muted ((muted_congr (m := draining) hm i).trans hmuted) (hcount ▸ hsingle)
          htail
    · intro i t t' ht ht'
      rw [Nat.zero_add]
      exact h i t t' ht ht'

end MixedAudioSrc

end Exosnap.Engine
