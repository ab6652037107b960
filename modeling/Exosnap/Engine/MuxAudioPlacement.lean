/-
  Where the mux thread puts audio: every audio packet pushed into a writer carries its own
  session PTS, shifted once onto the video timeline, rebased to the first video packet of its
  segment and offset by the codec delay (`audio_placed`).

  This holds of the runs in which no packet with a non-zero shift waits for a segment's first
  video packet (`ShiftsOnce`). `push_audio` writes the shifted PTS into the packet before it
  defers it, and the drain pushes the packet again, so a waiting packet is shifted twice
  (`deferred_audio_shifted_twice`).
-/
import Exosnap.Engine.ReorderWindow
import Exosnap.Engine.MuxSteps
import Mathlib.Algebra.GroupWithZero.Nat

namespace Exosnap.Engine.MuxThread

variable {env : MuxEnv} {view : SharedView} {st st' : MuxState} {h : HeldAudio}

/-- The PTS of the first video packet pushed. -/
def firstVideoPts (pushes : List WriterPush) : Option UInt64 :=
  pushes.findSome? fun p =>
    match p.source with
    | .video v => some v.ptsNs
    | .audio _ => none

theorem firstVideoPts_append {pushes more : List WriterPush} {e : UInt64}
    (h : firstVideoPts pushes = some e) : firstVideoPts (pushes ++ more) = some e := by
  unfold firstVideoPts at *
  rw [List.findSome?_append, h]
  rfl

theorem audioCodecDelayNs_lt (env : MuxEnv) (track : UInt32) :
    (env.audioCodecDelayNs track).toNat < 2 ^ 63 := by
  unfold MuxEnv.audioCodecDelayNs
  have hs := (env.codecDelaySamples track).toNat_lt
  rw [UInt64.toNat_div, UInt64.toNat_mul, UInt32.toNat_toUInt64]
  refine lt_of_le_of_lt (Nat.div_le_self _ _) (lt_of_le_of_lt (Nat.mod_le _ _) ?_)
  simp
  omega

/-! ## The placement of one push -/

/-- The segment's epoch, the packet's PTS on the video timeline, and where that lands. -/
def WellPlaced (env : MuxEnv) (st : MuxState) (pushes : List WriterPush) (p : WriterPush) : Prop :=
  ∀ a, p.source = .audio a → a ∈ st.arrivals ∧ st.Settled a.packet.trackId ∧
    ∃ e q, firstVideoPts pushes = some e ∧
      shiftAudioPts a.packet.ptsNs (st.shiftOf a.packet.trackId) = some q ∧ ¬ q < e ∧
      p.packet.ptsNs = q - e + env.audioCodecDelayNs a.packet.trackId

/-- A placed push stays placed while more shifts are latched and more packets are pushed. -/
theorem WellPlaced.latch {f : UInt32 → Option Int64} {pushes pushes' : List WriterPush}
    {p : WriterPush} (hp : WellPlaced env st pushes p) (hf : Latching env view st f)
    (ha : st'.audioShift = f) (hr : st'.epochResolved = st.epochResolved)
    (harr : st'.arrivals = st.arrivals)
    (hfirst : ∀ e, firstVideoPts pushes = some e → firstVideoPts pushes' = some e) :
    WellPlaced env st' pushes' p := by
  intro a hpa
  obtain ⟨hmem, hset, e, q, he, hq, hge, hpts⟩ := hp a hpa
  exact ⟨harr ▸ hmem, hf.settled_mono ha hr hset, e, q, hfirst e he,
    by rw [hf.shiftOf_mono ha hset]; exact hq, hge, hpts⟩

/-- The first push of an open segment is video, and every audio push is placed. -/
structure PlacedInv (env : MuxEnv) (st : MuxState) : Prop where
  noEpoch : st.seg.epochSet = false → st.seg.pushes = []
  epoch : st.seg.writer ≠ none → st.seg.epochSet = true →
    firstVideoPts st.seg.pushes = some st.seg.epochSessionPtsNs
  segment : ∀ p ∈ st.seg.pushes, WellPlaced env st st.seg.pushes p
  completed : ∀ c ∈ st.completed, ∀ p ∈ c.pushes, WellPlaced env st c.pushes p

/-- A state that differs in nothing the placement of pushes reads. -/
theorem PlacedInv.of_same (hP : PlacedInv env st) (hseg : st'.seg = st.seg)
    (hcompleted : st'.completed = st.completed) (harr : st'.arrivals = st.arrivals)
    (ha : st'.audioShift = st.audioShift) (hr : st'.epochResolved = st.epochResolved) :
    PlacedInv env st' := by
  have hplaced : ∀ pushes p, WellPlaced env st pushes p → WellPlaced env st' pushes p := by
    intro pushes p hp a hpa
    rw [harr, MuxState.Settled, MuxState.shiftOf, hr, ha]
    exact hp a hpa
  refine ⟨?_, ?_, ?_, ?_⟩
  · rw [hseg]
    exact hP.noEpoch
  · rw [hseg]
    exact hP.epoch
  · rw [hseg]
    exact fun p hp => hplaced _ p (hP.segment p hp)
  · rw [hcompleted]
    exact fun c hc p hp => hplaced _ p (hP.completed c hc p hp)

/-- A deferred packet is let through only unshifted. -/
def Unshifted (shift : Int64) (_ : HeldAudio) : Prop := shift = 0

instance (shift : Int64) (h : HeldAudio) : Decidable (Unshifted shift h) :=
  inferInstanceAs (Decidable (shift = 0))

/-- What a push adds to its packet's PTS is one shift of the PTS it arrived with. -/
theorem shifted_of_inFlight {s : Int64} {q : UInt64} (hf : InFlight Unshifted st h)
    (hs : shiftAudioPts h.payload.ptsNs s = some q)
    (hshift : st.Settled h.payload.trackId → s = st.shiftOf h.payload.trackId) :
    shiftAudioPts h.origin.packet.ptsNs s = some q := by
  rcases hf with heq | ⟨-, honce, hzero⟩
  · rw [← heq]
    exact hs
  · have h0 : s = 0 := (hshift honce.settled).trans hzero
    subst h0
    have hq : shiftAudioPts h.origin.packet.ptsNs 0 = some h.payload.ptsNs := by
      have := honce.shifted
      rw [show st.shiftOf h.payload.trackId = 0 from hzero] at this
      exact this
    rw [shiftAudioPts_zero (shiftAudioPts_lt hq)] at hs
    rw [hq, ← hs]

theorem PlacedInv.latch {f : UInt32 → Option Int64} (hP : PlacedInv env st)
    (hf : Latching env view st f) (hsame : SameQueues st st') (ha : st'.audioShift = f)
    (hseg : st'.seg = st.seg) : PlacedInv env st' where
  noEpoch := by rw [hseg]; exact hP.noEpoch
  epoch := by rw [hseg]; exact hP.epoch
  segment := by
    rw [hseg]
    exact fun p hp => (hP.segment p hp).latch hf ha hsame.epochResolved hsame.arrivals fun _ h => h
  completed := by
    rw [hsame.completed]
    exact fun c hc p hp =>
      (hP.completed c hc p hp).latch hf ha hsame.epochResolved hsame.arrivals fun _ h => h

theorem PlacedInv.push {fl : List HeldAudio} (hP : PlacedInv env st)
    (hI : HoldInv Unshifted (h :: fl) st) (ho : AudioOutcome env view st h st') :
    PlacedInv env st' := by
  have hsame := ho.same
  cases ho with
  | abandoned _ => exact hP.latch (Latching.refl env view st) hsame rfl rfl
  | skipped _ => exact hP.latch (Latching.refl env view st) hsame rfl rfl
  | dropped f s hf _ _ => exact hP.latch hf.toLatching hsame rfl rfl
  | deferred f s q hf _ _ _ => exact hP.latch hf.toLatching hsame rfl rfl
  | trimmed f s q hf _ _ _ _ => exact hP.latch hf.toLatching hsame rfl rfl
  | written f s q w maxLocal ends err hf _ hs hopen hset hge _ =>
      have hfirst := hP.epoch hopen hset
      have hmono : ∀ (pushes pushes' : List WriterPush) (p : WriterPush),
          WellPlaced env st pushes p →
          (∀ e, firstVideoPts pushes = some e → firstVideoPts pushes' = some e) →
          WellPlaced env _ pushes' p :=
        fun _ _ _ hp => hp.latch hf.toLatching rfl hsame.epochResolved hsame.arrivals
      exact {
        noEpoch := fun h => by
          rw [show st.seg.epochSet = false from h] at hset
          cases hset
        epoch := fun _ _ => firstVideoPts_append hfirst
        segment := by
          intro p hp
          rcases List.mem_append.mp hp with hp | hp
          · exact hmono _ _ p (hP.segment p hp) fun _ => firstVideoPts_append
          · -- the new push
            rw [List.mem_singleton.mp hp]
            intro a ha
            cases ha
            have htrack := (hI.flight h (by simp)).trackId
            have hq := shifted_of_inFlight (hI.flight h (by simp)) hs fun hsettled => by
              rw [← hf.value hI.unlatched]
              exact hf.shiftOf_eq hsettled
            refine ⟨hI.known h (by simp), ?_, st.seg.epochSessionPtsNs, q,
              firstVideoPts_append hfirst, ?_, hge, ?_⟩
            · rw [← htrack]
              exact hf.settled
            · show shiftAudioPts _ ((f h.origin.packet.trackId).getD 0) = some q
              rw [← htrack, hf.value hI.unlatched]
              exact hq
            · rw [← htrack]
        completed := fun c hc p hp => hmono _ _ p (hP.completed c hc p hp) fun _ h => h }

theorem PlacedInv.video {p : EncodedVideoPacket} (hP : PlacedInv env st)
    (ho : VideoOutcome st p st') (hok : st'.writeError = false) : PlacedInv env st' := by
  cases ho with
  | idle _ => exact hP
  | failed _ herr =>
      rw [herr] at hok
      cases hok
  | written w maxLocal err mp hopen _ =>
      have hfirst : firstVideoPts (st.seg.pushes ++ [⟨.video p, mp⟩]) =
          some (st.seg.withEpoch p.ptsNs).epochSessionPtsNs := by
        rw [SegmentState.withEpoch_epoch]
        cases hset : st.seg.epochSet with
        | false =>
            rw [hP.noEpoch hset]
            rfl
        | true => exact firstVideoPts_append (hP.epoch hopen hset)
      exact {
        noEpoch := fun h => by
          rw [show (st.seg.withEpoch p.ptsNs).epochSet = true by simp] at h
          cases h
        epoch := fun _ _ => hfirst
        segment := by
          intro q hq
          rcases List.mem_append.mp hq with hq | hq
          · intro a ha
            obtain ⟨hmem, hset, e, r, he, hrest⟩ := hP.segment q hq a ha
            exact ⟨hmem, hset, e, r, firstVideoPts_append he, hrest⟩
          · rw [List.mem_singleton.mp hq]
            intro a ha
            cases ha
        completed := hP.completed }

theorem PlacedInv.finalize (hP : PlacedInv env st) (view : SharedView) (sessionEnd : Bool) :
    PlacedInv env (finalizeSegment env view sessionEnd st) := by
  cases hw : st.seg.writer with
  | none => rw [finalizeSegment_of_none hw]; exact hP
  | some w =>
      obtain ⟨c, err, hc, heq⟩ := finalizeSegment_of_some env view sessionEnd hw
      rw [heq]
      exact {
        noEpoch := fun _ => rfl
        epoch := fun h _ => absurd rfl h
        segment := by simp
        completed := by
          intro c' hc' p hp
          rcases List.mem_append.mp hc' with hc' | hc'
          · exact hP.completed c' hc' p hp
          · rw [List.mem_singleton.mp hc', hc] at hp ⊢
            exact hP.segment p hp }

theorem PlacedInv.open {index : UInt32} {r : MuxState × Bool} (hP : PlacedInv env st)
    (hclosed : st.seg.writer = none) (ho : OpenOutcome env st index r) : PlacedInv env r.1 := by
  cases ho with
  | noPath failure _ =>
      exact ⟨hP.noEpoch, fun h => absurd hclosed h, hP.segment, hP.completed⟩
  | failed failure _ => exact ⟨fun _ => rfl, fun h => absurd rfl h, by simp, hP.completed⟩
  | opened w _ => exact ⟨fun _ => rfl, fun _ h => (by cases h), by simp, hP.completed⟩

/-! ## The run -/

/-- Before the video epoch is known no audio is written or deferred. -/
structure Quiet (st : MuxState) : Prop where
  noneDeferred : st.NoneDeferred
  segment : st.epochResolved = false → ∀ p ∈ st.seg.pushes, ∀ a, p.source ≠ .audio a
  completed : st.epochResolved = false →
    ∀ c ∈ st.completed, ∀ p ∈ c.pushes, ∀ a, p.source ≠ .audio a

theorem Quiet.of_same (hQ : Quiet st) (hr : st'.epochResolved = st.epochResolved)
    (hheld : st.segmentPendingAudio = [] → st'.segmentPendingAudio = [])
    (hseg : st'.seg = st.seg) (hcompleted : st'.completed = st.completed) : Quiet st' := by
  refine ⟨?_, ?_, ?_⟩
  · exact fun hres => hheld (hQ.noneDeferred (hr ▸ hres))
  · rw [hr, hseg]
    exact hQ.segment
  · rw [hr, hcompleted]
    exact hQ.completed

theorem Quiet.of_resolved (hres : st.epochResolved = true) : Quiet st :=
  ⟨fun h => absurd h (by simp [hres]), fun h => absurd h (by simp [hres]),
    fun h => absurd h (by simp [hres])⟩

theorem Quiet.video {p : EncodedVideoPacket} (hQ : Quiet st) (ho : VideoOutcome st p st')
    (hok : st'.writeError = false) : Quiet st' := by
  cases ho with
  | idle _ => exact hQ
  | failed _ herr =>
      rw [herr] at hok
      cases hok
  | written w maxLocal err mp _ _ =>
      refine ⟨hQ.noneDeferred, ?_, hQ.completed⟩
      intro hres q hq a
      rcases List.mem_append.mp hq with hq | hq
      · exact hQ.segment hres q hq a
      · rw [List.mem_singleton.mp hq]
        exact fun h => by cases h

theorem Quiet.finalize (hQ : Quiet st) (env : MuxEnv) (view : SharedView) (sessionEnd : Bool) :
    Quiet (finalizeSegment env view sessionEnd st) := by
  cases hw : st.seg.writer with
  | none => rw [finalizeSegment_of_none hw]; exact hQ
  | some w =>
      obtain ⟨c, err, hc, heq⟩ := finalizeSegment_of_some env view sessionEnd hw
      rw [heq]
      refine ⟨hQ.noneDeferred, by simp, ?_⟩
      intro hres c' hc' p hp a
      rcases List.mem_append.mp hc' with hc' | hc'
      · exact hQ.completed hres c' hc' p hp a
      · rw [List.mem_singleton.mp hc', hc] at hp
        exact hQ.segment hres p hp a

theorem Quiet.open {index : UInt32} {r : MuxState × Bool} (hQ : Quiet st)
    (ho : OpenOutcome env st index r) : Quiet r.1 := by
  cases ho with
  | noPath failure _ => exact ⟨hQ.1, hQ.2, hQ.3⟩
  | failed failure _ => exact ⟨hQ.1, by simp, hQ.3⟩
  | opened w _ => exact ⟨hQ.1, by simp, hQ.3⟩

theorem PlacedInv.resolve (hP : PlacedInv env st) (hQ : Quiet st) (view : SharedView) :
    PlacedInv env (resolveEpoch view st) := by
  unfold resolveEpoch
  split
  · exact hP
  · rename_i hres
    have hoff : st.epochResolved = false := Bool.eq_false_iff.mpr hres
    split
    · exact hP
    · exact ⟨hP.noEpoch, hP.epoch, fun p hp a ha => absurd ha (hQ.segment hoff p hp a),
        fun c hc p hp a ha => absurd ha (hQ.completed hoff c hc p hp a)⟩

theorem Quiet.resolve (hQ : Quiet st) (view : SharedView) : Quiet (resolveEpoch view st) := by
  unfold resolveEpoch
  split
  · exact hQ
  · split
    · exact hQ
    · exact Quiet.of_resolved rfl

theorem PlacedInv.arrive (hP : PlacedInv env st) (a : AudioArrival) :
    PlacedInv env { st with arrivals := st.arrivals ++ [a] } where
  noEpoch := hP.noEpoch
  epoch := hP.epoch
  segment := fun p hp b hb =>
    have ⟨hmem, hrest⟩ := hP.segment p hp b hb
    ⟨List.mem_append_left _ hmem, hrest⟩
  completed := fun c hc p hp b hb =>
    have ⟨hmem, hrest⟩ := hP.completed c hc p hp b hb
    ⟨List.mem_append_left _ hmem, hrest⟩

/-- The invariant of a run, as long as nothing failed to be written. -/
def PlacementInv (env : MuxEnv) (fl : List HeldAudio) (st : MuxState) : Prop :=
  st.writeError = false → HoldInv Unshifted fl st ∧ PlacedInv env st ∧ Quiet st

theorem resolveEpoch_writeError (view : SharedView) (st : MuxState) :
    (resolveEpoch view st).writeError = st.writeError := by
  unfold resolveEpoch
  split
  · rfl
  · split <;> rfl

theorem placement_rule (env : MuxEnv) :
    StepRule env Unshifted (fun _ => True) (PlacementInv env) where
  error := fun fl st herr hok => by rw [herr] at hok; cases hok
  noneDeferred := fun fl st hJ hok => (hJ hok).2.2.noneDeferred
  resolve := fun view fl st hfresh hJ hok =>
    have ⟨hI, hP, hQ⟩ := hJ (resolveEpoch_writeError view st ▸ hok)
    ⟨hI.resolve hQ.noneDeferred hfresh view, hP.resolve hQ view, hQ.resolve view⟩
  arrive := fun st payload hJ hok =>
    have ⟨hI, hP, hQ⟩ := hJ hok
    ⟨hI.arrive payload, hP.arrive _, hQ.of_same rfl id rfl rfl⟩
  hold := fun st h hfresh _ hJ hok =>
    have ⟨hI, hP, hQ⟩ := hJ hok
    ⟨hI.hold hfresh, hP.of_same rfl rfl rfl rfl rfl, hQ.of_same rfl id rfl rfl⟩
  takePending := fun fl st hJ hok =>
    have ⟨hI, hP, hQ⟩ := hJ hok
    ⟨hI.takePending, hP.of_same rfl rfl rfl rfl rfl, hQ.of_same rfl id rfl rfl⟩
  takeHeld := fun fl st hset hJ hok =>
    have ⟨hI, hP, hQ⟩ := hJ hok
    ⟨hI.takeHeld hset, hP.of_same rfl rfl rfl rfl rfl, hQ.of_same rfl (fun _ => rfl) rfl rfl⟩
  push := fun view st h fl st' hres hJ ho hok =>
    have ⟨hI, hP, _⟩ := hJ (ho.writeError_eq hok)
    ⟨hI.push ho, hP.push hI ho, Quiet.of_resolved (ho.same.epochResolved.trans hres)⟩
  video := fun st p st' hready hJ ho hok =>
    have ⟨hI, hP, hQ⟩ := hJ (ho.writeError_eq hok)
    ⟨hI.video hready ho hok, hP.video ho hok, hQ.video ho hok⟩
  split := fun view st s r _ hJ hok ho _ =>
    have ⟨hI, hP, hQ⟩ := hJ (finalizeSegment_writeError_eq hok)
    ⟨(hI.finalize env view false).open ho,
      (hP.finalize view false).open (finalizeSegment_closed env view false st) ho,
      (hQ.finalize env view false).open ho⟩
  eos := fun st v a hJ hok =>
    have ⟨hI, hP, hQ⟩ := hJ hok
    ⟨hI.congr ⟨rfl, rfl, rfl, rfl, rfl, rfl, rfl⟩ rfl rfl,
      hP.of_same rfl rfl rfl rfl rfl, hQ.of_same rfl id rfl rfl⟩

theorem placement_started (env : MuxEnv) (w : Writer) :
    PlacementInv env [] { seg := { writer := some w }, anySegmentOpened := true } := fun _ =>
  ⟨HoldInv.initial Unshifted w, ⟨fun _ => rfl, fun _ h => (by cases h), by simp, by simp⟩,
    ⟨fun _ => rfl, by simp, by simp⟩⟩

/-- In the last flush audio is pushed without a video epoch, too. -/
theorem tail_placement (env : MuxEnv) : DrainRule env (fun _ => True)
    (fun fl st => st.writeError = false → HoldInv Unshifted fl st ∧ PlacedInv env st) where
  error := fun fl st herr hok => by rw [herr] at hok; cases hok
  takePending := fun fl st hJ hok =>
    have ⟨hI, hP⟩ := hJ hok
    ⟨hI.takePending, hP.of_same rfl rfl rfl rfl rfl⟩
  takeHeld := fun fl st hset hJ hok =>
    have ⟨hI, hP⟩ := hJ hok
    ⟨hI.takeHeld hset, hP.of_same rfl rfl rfl rfl rfl⟩
  push := fun view st h fl st' _ hJ ho hok =>
    have ⟨hI, hP⟩ := hJ (ho.writeError_eq hok)
    ⟨hI.push ho, hP.push hI ho⟩

/-- What a finished run is known by. -/
theorem finish_placed {view : SharedView} (hJ : PlacementInv env [] st)
    (hok : (finish env view st).writeError = false) :
    HoldInv Unshifted [] (finish env view st) ∧ PlacedInv env (finish env view st) := by
  obtain ⟨failure, heq⟩ := finish_eq env view st
  rw [heq] at hok ⊢
  have hflush : (flushTail env view st).writeError = false := finalizeSegment_writeError_eq hok
  rw [flushTail_eq] at hflush
  obtain ⟨hI, hP⟩ := (tail_placement env).placeTail view
    (fun h => ⟨(hJ h).1, (hJ h).2.1⟩) hflush
  have hP' : PlacedInv env (flushTail env view st) := hP.of_same rfl rfl rfl rfl rfl
  have hI' : HoldInv Unshifted [] (flushTail env view st) := hI.clearHeld
  have hPf := hP'.finalize view true
  have hIf := hI'.finalize env view true
  exact ⟨hIf.congr ⟨rfl, rfl, rfl, rfl, rfl, rfl, rfl⟩ rfl rfl,
    hPf.of_same rfl rfl rfl rfl rfl⟩

/-! ## The timestamp of a push -/

/-- No packet waiting for a segment's first video packet has a non-zero shift when that packet
    comes. -/
def ShiftsOnce : MuxState → SharedView × MuxItem → Prop := StepGuard Unshifted fun _ => True

instance (st : MuxState) (step : SharedView × MuxItem) : Decidable (ShiftsOnce st step) :=
  inferInstanceAs (Decidable (StepGuard Unshifted (fun _ => True) st step))

/-- Where a packet belongs in the segment with these pushes. -/
def segmentTimestamp (env : MuxEnv) (shift : UInt32 → Int64) (pushes : List WriterPush)
    (packet : EncodedAudioPacket) : Option UInt64 :=
  (firstVideoPts pushes).map fun epoch =>
    writtenTimestamp packet.ptsNs (shift packet.trackId) epoch (env.audioCodecDelayNs packet.trackId)

/-- Every audio packet pushed into a writer is one that arrived, at its session PTS plus its
    track's one shift, minus its segment's first video PTS, plus the codec delay: in 64-bit
    words for every packet, and as integers for a PTS that fits `int64_t`. -/
theorem audio_placed {env : MuxEnv} {input : MuxInput}
    (hguard : StepRun.Meets (fun st a => some (handle env st a)) ShiftsOnce (started env).1 input.steps)
    (hok : (run env input).writeError = false) :
    ∀ c ∈ (run env input).completed, ∀ p ∈ c.pushes, ∀ a, p.source = .audio a →
      a ∈ (run env input).arrivals ∧
        ((run env input).epochResolved = true → ∃ audioEpoch,
          (run env input).shiftOf a.packet.trackId =
            audioTimelineShiftNs audioEpoch (run env input).videoEpoch100ns) ∧
        segmentTimestamp env (run env input).shiftOf c.pushes a.packet = some p.packet.ptsNs ∧
        (a.packet.ptsNs.toNat < 2 ^ 63 → ∀ epoch, firstVideoPts c.pushes = some epoch →
          (p.packet.ptsNs.toNat : Int) =
            a.packet.ptsNs.toNat + ((run env input).shiftOf a.packet.trackId).toInt - epoch.toNat +
              (env.audioCodecDelayNs a.packet.trackId).toNat) := by
  rcases run_cases env input with ⟨w, -, hstart, hrun⟩ | ⟨failure, hrun⟩
  · rw [hrun] at hok ⊢
    have hJ := (placement_rule env).run hguard (by rw [hstart]; exact placement_started env w)
    obtain ⟨hI, hP⟩ := finish_placed hJ hok
    intro c hc p hp a ha
    obtain ⟨hmem, hset, e, q, he, hq, hge, hpts⟩ := hP.completed c hc p hp a ha
    refine ⟨hmem, ?_, ?_, ?_⟩
    · intro hres
      obtain ⟨s, hs⟩ := Option.isSome_iff_exists.mp (hset hres)
      rw [MuxState.shiftOf, hs]
      exact hI.latched _ s hs
    · rw [segmentTimestamp, he, hpts, writtenTimestamp_of_placed hq]
      rfl
    · intro hfit epoch hepoch
      obtain rfl : e = epoch := Option.some.inj (he.symm.trans hepoch)
      rw [hpts, writtenTimestamp_of_placed hq]
      exact writtenTimestamp_toNat hq hge (audioCodecDelayNs_lt env _) hfit
  · rw [hrun]
    simp

/-- AV1 video and two AAC tracks. -/
def twoTracks : MuxEnv where
  trackCount := 2
  codecDelaySamples _ := 1024
  audioSampleRate := 48000
  videoCodec := .av1
  convertAnnexBToAvcc := some
  convertAnnexBToHevcSample := some
  writerConfig := { videoCodecId := "V_AV1", audioTracks := [{}, {}] }
  sessionStartQpc100ns := 9000000
  segmentPathFailure _ := none
  outputIo _ := Writer.quietIo

/-- Track 0 starts half a millisecond after the picture, track 1 with it. -/
def offsetView : SharedView where
  videoEpochQpc100ns := 10000000
  audioEpochQpc100ns track := if track = 0 then 10005000 else 10000000

/-- Audio before the video epoch, at once, and held over a split. -/
def splitRun : MuxInput where
  videoPremux := []
  audioPremux := [(⟨0, fun _ => 0, 0, 0⟩, ⟨[1], 0, 0⟩)]
  queue := [(offsetView, .video ⟨[2], 0, true⟩), (offsetView, .audio ⟨[3], 20000000, 0⟩),
    (offsetView, .split ⟨1, .manualButton⟩), (offsetView, .audio ⟨[4], 40000000, 1⟩),
    (offsetView, .video ⟨[5], 40000000, true⟩), (offsetView, .audio ⟨[6], 40000000, 0⟩)]
  tail := offsetView

theorem audio_placed_splitRun :
    ((run twoTracks splitRun).completed.map fun c => c.pushes.length) = [3, 3] ∧
      ∀ c ∈ (run twoTracks splitRun).completed, ∀ p ∈ c.pushes, ∀ a, p.source = .audio a →
        segmentTimestamp twoTracks (run twoTracks splitRun).shiftOf c.pushes a.packet =
          some p.packet.ptsNs :=
  ⟨by decide, fun c hc p hp a ha => (audio_placed (by decide) (by decide) c hc p hp a ha).2.2.1⟩

/-- A packet of track 0 that is handled before the first video packet. -/
def audioFirst : MuxInput where
  videoPremux := []
  audioPremux := []
  queue := [(offsetView, .audio ⟨[1], 1000000, 0⟩), (offsetView, .video ⟨[2], 1000000, true⟩)]
  tail := offsetView

/-- It is written half a millisecond late: the shift is applied twice. -/
theorem deferred_audio_shifted_twice :
    (run twoTracks audioFirst).writeError = false ∧
      ∃ c ∈ (run twoTracks audioFirst).completed, ∃ p ∈ c.pushes,
        p.source = .audio ⟨0, ⟨[1], 1000000, 0⟩⟩ ∧
          segmentTimestamp twoTracks (run twoTracks audioFirst).shiftOf c.pushes
            ⟨[1], 1000000, 0⟩ ≠ some p.packet.ptsNs := by
  decide

end Exosnap.Engine.MuxThread
