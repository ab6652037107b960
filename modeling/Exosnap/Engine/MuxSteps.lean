/-
  What the operations of the mux thread can do, once for each, and the rule that carries an
  invariant through a run.

  `pushAudio_outcome` lists the six ends a push can have and `pushVideo_outcome` the three;
  proofs about the thread case on these and never unfold the functions. `StepRule` names what
  an invariant has to survive, operation by operation; `handle_rule` puts the operations of a
  step together. An invariant here also speaks of the packets in flight: those taken out of a
  hold queue by a drain and not pushed yet.

  `HoldInv` is the part every result about audio needs: what the two hold queues contain.
  A packet in `pending_audio` is as it arrived. A packet in `segment_pending_audio` carries
  the PTS shifted once, and its track's shift is latched.
-/
import Exosnap.Lib.StepRun
import Exosnap.Engine.MuxThread

namespace Exosnap.Engine.MuxThread

variable {env : MuxEnv} {view : SharedView} {st st' : MuxState} {h : HeldAudio}

/-! ## The latched shifts -/

/-- The shift a track is written with: 0 until it is latched. -/
def MuxState.shiftOf (st : MuxState) (track : UInt32) : Int64 := (st.audioShift track).getD 0

/-- Without a video epoch no shift is latched. -/
def MuxState.Unlatched (st : MuxState) : Prop :=
  st.epochResolved = false → ∀ t, st.audioShift t = none

/-- The track's shift cannot change any more, or nothing can be latched yet. -/
def MuxState.Settled (st : MuxState) (track : UInt32) : Prop :=
  st.epochResolved = true → (st.audioShift track).isSome

/-- `f` is the table of shifts after some tracks were asked for. -/
structure Latching (env : MuxEnv) (view : SharedView) (st : MuxState) (f : UInt32 → Option Int64) :
    Prop where
  keeps : ∀ t s, st.audioShift t = some s → f t = some s
  fresh : ∀ t s, f t = some s → st.audioShift t = some s ∨ s = measuredShift env view st t
  unresolved : st.epochResolved = false → f = st.audioShift

theorem Latching.refl (env : MuxEnv) (view : SharedView) (st : MuxState) :
    Latching env view st st.audioShift :=
  ⟨fun _ _ h => h, fun _ _ h => Or.inl h, fun _ => rfl⟩

/-- `f` is the table, and `s` the answer, after `track` was asked for. -/
structure Latched (env : MuxEnv) (view : SharedView) (st : MuxState) (track : UInt32)
    (f : UInt32 → Option Int64) (s : Int64) : Prop extends Latching env view st f where
  settled : st.epochResolved = true → (f track).isSome
  value : st.Unlatched → (f track).getD 0 = s

theorem Latching.shiftOf_eq {f : UInt32 → Option Int64} (hf : Latching env view st f) {t : UInt32}
    (ht : st.Settled t) : (f t).getD 0 = st.shiftOf t := by
  unfold MuxState.shiftOf
  cases hres : st.epochResolved with
  | false => rw [hf.unresolved hres]
  | true =>
      obtain ⟨s, hs⟩ := Option.isSome_iff_exists.mp (ht hres)
      rw [hf.keeps t s hs, hs]

theorem audioShiftFor_spec (env : MuxEnv) (view : SharedView) (st : MuxState) {track : UInt32}
    (ht : track < kMaxAudioTracks) :
    ∃ f s, audioShiftFor env view st track = (s, { st with audioShift := f }) ∧
      Latched env view st track f s := by
  unfold audioShiftFor
  by_cases hres : st.epochResolved = true
  · rw [if_neg (by simp [hres]), if_neg (UInt32.not_le.mpr ht)]
    cases hs : st.audioShift track with
    | some s =>
        exact ⟨st.audioShift, s, rfl, Latching.refl env view st, fun _ => by simp [hs],
          fun _ => by simp [hs]⟩
    | none =>
        refine ⟨Function.update st.audioShift track (some (measuredShift env view st track)), _, rfl,
          ⟨?_, ?_, fun h => by rw [hres] at h; cases h⟩, by simp, by simp⟩
        · intro t s hts
          rw [Function.update_of_ne, hts]
          rintro rfl
          rw [hs] at hts
          cases hts
        · intro t s hts
          by_cases he : t = track
          · subst he
            rw [Function.update_self] at hts
            exact Or.inr (Option.some.inj hts).symm
          · rw [Function.update_of_ne he] at hts
            exact Or.inl hts
  · have hoff : st.epochResolved = false := Bool.eq_false_iff.mpr hres
    rw [if_pos (by simp [hoff])]
    exact ⟨st.audioShift, 0, rfl, Latching.refl env view st, fun h => absurd h hres,
      fun hun => by rw [hun hoff track]; rfl⟩

/-! ## The ends of a push -/

inductive AudioOutcome (env : MuxEnv) (view : SharedView) (st : MuxState) (h : HeldAudio) :
    MuxState → Prop
  | abandoned (hdead : st.writeError = true ∨ st.seg.writer = none) :
      AudioOutcome env view st h { st with abandoned := st.abandoned ++ [h.origin] }
  | skipped (hout : env.inRange h.payload.trackId = false) :
      AudioOutcome env view st h { st with skipped := st.skipped ++ [h.origin] }
  | dropped (f : UInt32 → Option Int64) (s : Int64)
      (hf : Latched env view st h.payload.trackId f s)
      (hin : env.inRange h.payload.trackId = true)
      (hs : shiftAudioPts h.payload.ptsNs s = none) :
      AudioOutcome env view st h { st with audioShift := f, dropped := st.dropped ++ [h.origin] }
  | deferred (f : UInt32 → Option Int64) (s : Int64) (q : UInt64)
      (hf : Latched env view st h.payload.trackId f s)
      (hin : env.inRange h.payload.trackId = true)
      (hs : shiftAudioPts h.payload.ptsNs s = some q)
      (hset : st.seg.epochSet = false) :
      AudioOutcome env view st h { st with
        audioShift := f
        segmentPendingAudio :=
          st.segmentPendingAudio ++ [⟨{ h.payload with ptsNs := q }, h.origin⟩] }
  | trimmed (f : UInt32 → Option Int64) (s : Int64) (q : UInt64)
      (hf : Latched env view st h.payload.trackId f s)
      (hin : env.inRange h.payload.trackId = true)
      (hs : shiftAudioPts h.payload.ptsNs s = some q)
      (hset : st.seg.epochSet = true) (hlt : q < st.seg.epochSessionPtsNs) :
      AudioOutcome env view st h { st with
        audioShift := f
        trimmedAudioPackets := st.trimmedAudioPackets + 1
        trimmed := st.trimmed ++ [h.origin] }
  | written (f : UInt32 → Option Int64) (s : Int64) (q : UInt64) (w : Writer) (maxLocal : UInt64)
      (ends : UInt32 → UInt64) (err : Bool) (hf : Latched env view st h.payload.trackId f s)
      (hin : env.inRange h.payload.trackId = true)
      (hs : shiftAudioPts h.payload.ptsNs s = some q)
      (hopen : st.seg.writer ≠ none) (hset : st.seg.epochSet = true)
      (hge : ¬ q < st.seg.epochSessionPtsNs) (herr : err = false → st.writeError = false) :
      AudioOutcome env view st h { st with
        audioShift := f
        seg := { st.seg with
          maxLocalPtsNs := maxLocal
          writer := some w
          pushes := st.seg.pushes ++ [⟨.audio h.origin,
            { ptsNs := q - st.seg.epochSessionPtsNs + env.audioCodecDelayNs h.payload.trackId
              trackNum := (2 + h.payload.trackId).toUInt64
              isKey := true
              bytes := h.payload.bytes }⟩] }
        alignedAudioEndNs := ends
        writeError := err }

theorem writeAudio_spec (env : MuxEnv) (st : MuxState) (w : Writer) (payload : EncodedAudioPacket)
    (origin : AudioArrival) (localPtsNs : UInt64) :
    ∃ w' maxLocal ends err, writeAudio env st w payload origin localPtsNs = { st with
      seg := { st.seg with
        maxLocalPtsNs := maxLocal
        writer := some w'
        pushes := st.seg.pushes ++ [⟨.audio origin,
          { ptsNs := localPtsNs + env.audioCodecDelayNs payload.trackId
            trackNum := (2 + payload.trackId).toUInt64
            isKey := true
            bytes := payload.bytes }⟩] }
      alignedAudioEndNs := ends
      writeError := err } ∧ (err = false → st.writeError = false) := by
  unfold writeAudio
  dsimp only
  split
  · exact ⟨_, _, _, _, rfl, fun h => by cases h⟩
  · split
    · exact ⟨_, _, _, _, rfl, id⟩
    · exact ⟨_, _, _, _, rfl, id⟩

theorem pushAudio_outcome (env : MuxEnv) (view : SharedView) (st : MuxState) (h : HeldAudio) :
    AudioOutcome env view st h (pushAudio env view st h) := by
  unfold pushAudio
  by_cases hwe : st.writeError = true
  · rw [if_pos hwe]
    exact .abandoned (Or.inl hwe)
  · rw [if_neg hwe]
    cases hw : st.seg.writer with
    | none => exact .abandoned (Or.inr hw)
    | some w =>
        dsimp only
        cases hin : env.inRange h.payload.trackId with
        | false => exact .skipped hin
        | true =>
            have hlt : h.payload.trackId < kMaxAudioTracks := by
              simp only [MuxEnv.inRange, Bool.and_eq_true, decide_eq_true_eq] at hin
              exact hin.2
            obtain ⟨f, s, hfor, hf⟩ := audioShiftFor_spec env view st hlt
            rw [hfor]
            dsimp only
            simp only [Bool.not_true, Bool.false_eq_true, if_false]
            cases hs : shiftAudioPts h.payload.ptsNs s with
            | none => exact .dropped f s hf hin hs
            | some q =>
                dsimp only
                cases hset : st.seg.epochSet with
                | false => exact .deferred f s q hf hin hs hset
                | true =>
                    rw [place_set]
                    by_cases hq : q < st.seg.epochSessionPtsNs
                    · rw [if_pos hq]
                      exact .trimmed f s q hf hin hs hset hq
                    · rw [if_neg hq]
                      dsimp only
                      obtain ⟨w', maxLocal, ends, err, hwrite, herr⟩ := writeAudio_spec env
                        { st with audioShift := f } w { h.payload with ptsNs := q } h.origin
                        (q - st.seg.epochSessionPtsNs)
                      rw [hwrite]
                      exact .written f s q w' maxLocal ends err hf hin hs (by simp [hw]) hset hq herr

/-- What a push leaves as it was. -/
structure SameQueues (st st' : MuxState) : Prop where
  epochResolved : st'.epochResolved = st.epochResolved
  videoEpoch100ns : st'.videoEpoch100ns = st.videoEpoch100ns
  pendingAudio : st'.pendingAudio = st.pendingAudio
  arrivals : st'.arrivals = st.arrivals
  completed : st'.completed = st.completed
  epochSet : st'.seg.epochSet = st.seg.epochSet
  epochSessionPtsNs : st'.seg.epochSessionPtsNs = st.seg.epochSessionPtsNs

theorem AudioOutcome.same (ho : AudioOutcome env view st h st') : SameQueues st st' := by
  cases ho <;> exact ⟨rfl, rfl, rfl, rfl, rfl, rfl, rfl⟩

/-- A write error stays. -/
theorem AudioOutcome.writeError_eq (ho : AudioOutcome env view st h st')
    (hok : st'.writeError = false) : st.writeError = false := by
  cases ho with
  | written f s q w maxLocal ends err hf hin hs hopen hset hge herr => exact herr hok
  | abandoned _ => exact hok
  | skipped _ => exact hok
  | dropped _ _ _ _ _ => exact hok
  | deferred _ _ _ _ _ _ _ => exact hok
  | trimmed _ _ _ _ _ _ _ _ => exact hok

namespace SegmentState

@[simp] theorem withEpoch_epochSet (seg : SegmentState) (p : UInt64) :
    (seg.withEpoch p).epochSet = true := by
  unfold withEpoch
  cases hset : seg.epochSet <;> simp [hset]

@[simp] theorem withEpoch_pushes (seg : SegmentState) (p : UInt64) :
    (seg.withEpoch p).pushes = seg.pushes := by
  unfold withEpoch
  split <;> rfl

theorem withEpoch_epoch (seg : SegmentState) (p : UInt64) :
    (seg.withEpoch p).epochSessionPtsNs = if seg.epochSet then seg.epochSessionPtsNs else p := by
  unfold withEpoch
  cases seg.epochSet <;> rfl

end SegmentState

inductive VideoOutcome (st : MuxState) (payload : EncodedVideoPacket) : MuxState → Prop
  | idle (hdead : st.writeError = true ∨ st.seg.writer = none) : VideoOutcome st payload st
  | failed (st' : MuxState) (herr : st'.writeError = true) : VideoOutcome st payload st'
  | written (w : Writer) (maxLocal : UInt64) (err : Bool) (mp : MuxPacket)
      (hopen : st.seg.writer ≠ none) (hlive : st.writeError = false) :
      VideoOutcome st payload { st with
        seg := { st.seg.withEpoch payload.ptsNs with
          maxLocalPtsNs := maxLocal
          writer := some w
          pushes := st.seg.pushes ++ [⟨.video payload, mp⟩] }
        writeError := err }

theorem VideoOutcome.writeError_eq {p : EncodedVideoPacket} (ho : VideoOutcome st p st')
    (hok : st'.writeError = false) : st.writeError = false := by
  cases ho with
  | idle _ => exact hok
  | failed _ herr =>
      rw [herr] at hok
      cases hok
  | written _ _ _ _ _ hlive => exact hlive

theorem recordFailure_writeError (st : MuxState) (hr : HResult) (detail : String) :
    (recordFailure st hr detail).writeError = st.writeError := by
  unfold recordFailure
  split <;> rfl

theorem pushVideo_outcome (env : MuxEnv) (st : MuxState) (payload : EncodedVideoPacket) :
    VideoOutcome st payload (pushVideo env st payload) := by
  unfold pushVideo
  by_cases hwe : st.writeError = true
  · rw [if_pos hwe]
    exact .idle (Or.inl hwe)
  · rw [if_neg hwe]
    cases hw : st.seg.writer with
    | none => exact .idle (Or.inr hw)
    | some w =>
        dsimp only
        split
        · exact .failed _ (recordFailure_writeError _ _ _)
        · split
          · exact .failed _ (recordFailure_writeError _ _ _)
          · have hpushes := SegmentState.withEpoch_pushes st.seg payload.ptsNs
            rw [hpushes]
            exact .written _ _ _ _ (by simp [hw]) (Bool.eq_false_iff.mpr hwe)

theorem finalizeSegment_of_none {sessionEnd : Bool} (hw : st.seg.writer = none) :
    finalizeSegment env view sessionEnd st = st := by
  unfold finalizeSegment
  rw [hw]

theorem finalizeSegment_writeError_eq {sessionEnd : Bool}
    (hok : (finalizeSegment env view sessionEnd st).writeError = false) : st.writeError = false := by
  unfold finalizeSegment at hok
  split at hok
  · exact hok
  · simp only [Bool.or_eq_false_iff] at hok
    exact hok.1

/-- Nothing is open behind a finalize. -/
theorem finalizeSegment_closed (env : MuxEnv) (view : SharedView) (sessionEnd : Bool)
    (st : MuxState) :
    (finalizeSegment env view sessionEnd st).seg.writer = none := by
  unfold finalizeSegment
  split
  · assumption
  · rfl

/-- A finalized segment's pushes move into its report. -/
theorem finalizeSegment_of_some (env : MuxEnv) (view : SharedView) (sessionEnd : Bool) {w : Writer}
    (hw : st.seg.writer = some w) :
    ∃ (c : CompletedSegment) (err : Bool), c.pushes = st.seg.pushes ∧
      finalizeSegment env view sessionEnd st = { st with
        seg := { st.seg with writer := none, pushes := [] }
        writeError := err
        completed := st.completed ++ [c] } := by
  unfold finalizeSegment
  rw [hw]
  exact ⟨_, _, rfl, rfl⟩

/-- A segment file can be created. -/
def MuxEnv.segmentOpens (env : MuxEnv) (index : UInt32) : Bool :=
  (env.segmentPathFailure index).isNone && (Writer.openFile (env.outputIo index) {} env.writerConfig).2

inductive OpenOutcome (env : MuxEnv) (st : MuxState) (index : UInt32) : MuxState × Bool → Prop
  | noPath (failure : Option MuxFailure) (hfails : env.segmentOpens index = false) :
      OpenOutcome env st index ({ st with failure := failure }, false)
  | failed (failure : Option MuxFailure) (hfails : env.segmentOpens index = false) :
      OpenOutcome env st index ({ st with seg := { index := index }, failure := failure }, false)
  | opened (w : Writer) (hopens : env.segmentOpens index = true) :
      OpenOutcome env st index
        ({ st with seg := { index := index, writer := some w }, anySegmentOpened := true }, true)

theorem OpenOutcome.writeError_eq {index : UInt32} {r : MuxState × Bool}
    (ho : OpenOutcome env st index r) : r.1.writeError = st.writeError := by
  cases ho <;> rfl

theorem recordFailure_eq (st : MuxState) (hr : HResult) (detail : String) :
    ∃ failure, recordFailure st hr detail = { st with failure := failure } := by
  unfold recordFailure
  split
  · exact ⟨st.failure, rfl⟩
  · exact ⟨_, rfl⟩

theorem openSegment_outcome (env : MuxEnv) (st : MuxState) (index : UInt32) :
    OpenOutcome env st index (openSegment env st index 0 false) := by
  unfold openSegment
  cases hpath : env.segmentPathFailure index with
  | some failed =>
      dsimp only
      obtain ⟨failure, hf⟩ := recordFailure_eq st (failed.error.elim .eFail .fromWin32)
        ("failed to derive segment path (segment " ++ toString index.toNat ++ "): " ++ failed.message)
      rw [hf]
      exact .noPath failure (by rw [MuxEnv.segmentOpens, hpath]; rfl)
  | none =>
      dsimp only
      split
      · rename_i w hw
        obtain ⟨failure, hf⟩ := recordFailure_eq { st with seg := { index := index } } (.fromWin32 110)
          ("Matroska stream writer open failed (segment " ++ toString index.toNat ++ "): " ++ w.error)
        rw [hf]
        exact .failed failure (by rw [MuxEnv.segmentOpens, hpath, hw]; rfl)
      · rename_i w hw
        exact .opened w (by rw [MuxEnv.segmentOpens, hpath, hw]; rfl)

/-! ## The hold queues -/

/-- The payload is the arrived packet with its PTS shifted once, by a shift that stays. -/
structure ShiftedOnce (st : MuxState) (h : HeldAudio) : Prop where
  trackId : h.payload.trackId = h.origin.packet.trackId
  settled : st.Settled h.payload.trackId
  shifted : shiftAudioPts h.origin.packet.ptsNs (st.shiftOf h.payload.trackId) = some h.payload.ptsNs

/-- A packet taken out of a hold queue: as it arrived, or deferred to a segment whose epoch is
    now set, and ready to be shifted again. -/
def InFlight (Ready : Int64 → HeldAudio → Prop) (st : MuxState) (h : HeldAudio) : Prop :=
  h.payload = h.origin.packet ∨
    (st.seg.epochSet = true ∧ ShiftedOnce st h ∧ Ready (st.shiftOf h.payload.trackId) h)

/-- What the hold queues contain. `Ready` is the condition under which a deferred packet is
    let through a second shift. -/
structure HoldInv (Ready : Int64 → HeldAudio → Prop) (flight : List HeldAudio) (st : MuxState) :
    Prop where
  unlatched : st.Unlatched
  latched : ∀ t s, st.audioShift t = some s → ∃ a, s = audioTimelineShiftNs a st.videoEpoch100ns
  known : ∀ h ∈ flight ++ st.pendingAudio ++ st.segmentPendingAudio, h.origin ∈ st.arrivals
  flight : ∀ h ∈ flight, InFlight Ready st h
  pending : ∀ h ∈ st.pendingAudio, h.payload = h.origin.packet
  held : ∀ h ∈ st.segmentPendingAudio, ShiftedOnce st h
  heldReady : st.seg.epochSet = true →
    ∀ h ∈ st.segmentPendingAudio, Ready (st.shiftOf h.payload.trackId) h

theorem InFlight.trackId {Ready : Int64 → HeldAudio → Prop} (hf : InFlight Ready st h) :
    h.payload.trackId = h.origin.packet.trackId := by
  rcases hf with heq | ⟨-, hs, -⟩
  · rw [heq]
  · exact hs.trackId

section
variable {Ready : Int64 → HeldAudio → Prop} {fl : List HeldAudio}

theorem Latching.settled_mono {f : UInt32 → Option Int64} (hf : Latching env view st f)
    (ha : st'.audioShift = f) (hr : st'.epochResolved = st.epochResolved) {t : UInt32}
    (ht : st.Settled t) : st'.Settled t := by
  intro hres
  obtain ⟨s, hs⟩ := Option.isSome_iff_exists.mp (ht (hr ▸ hres))
  rw [ha, hf.keeps t s hs]
  rfl

theorem Latching.shiftOf_mono {f : UInt32 → Option Int64} (hf : Latching env view st f)
    (ha : st'.audioShift = f) {t : UInt32} (ht : st.Settled t) : st'.shiftOf t = st.shiftOf t := by
  rw [← hf.shiftOf_eq ht, MuxState.shiftOf, ha]

theorem ShiftedOnce.latch {f : UInt32 → Option Int64} (hs : ShiftedOnce st h)
    (hf : Latching env view st f) (ha : st'.audioShift = f)
    (hr : st'.epochResolved = st.epochResolved) : ShiftedOnce st' h where
  trackId := hs.trackId
  settled := hf.settled_mono ha hr hs.settled
  shifted := by rw [hf.shiftOf_mono ha hs.settled]; exact hs.shifted

theorem ShiftedOnce.of_same (hs : ShiftedOnce st h) (ha : st'.audioShift = st.audioShift)
    (hr : st'.epochResolved = st.epochResolved) : ShiftedOnce st' h where
  trackId := hs.trackId
  settled := by rw [MuxState.Settled, ha, hr]; exact hs.settled
  shifted := by rw [MuxState.shiftOf, ha]; exact hs.shifted

/-- Latching more shifts keeps the invariant; the packets it adds to the segment's hold were
    shifted once, while the segment has no epoch. -/
theorem HoldInv.latch {f : UInt32 → Option Int64} (hI : HoldInv Ready (h :: fl) st)
    (hf : Latching env view st f) (hsame : SameQueues st st') (ha : st'.audioShift = f)
    (extra : List HeldAudio) (hheld : st'.segmentPendingAudio = st.segmentPendingAudio ++ extra)
    (hextra : ∀ g ∈ extra, g.origin = h.origin ∧ ShiftedOnce st' g ∧ st.seg.epochSet = false) :
    HoldInv Ready fl st' where
  unlatched := by
    intro hres t
    rw [hsame.epochResolved] at hres
    rw [ha, hf.unresolved hres]
    exact hI.unlatched hres t
  latched := by
    intro t s hs
    rw [ha] at hs
    rw [hsame.videoEpoch100ns]
    rcases hf.fresh t s hs with hold | hnew
    · exact hI.latched t s hold
    · exact ⟨_, hnew⟩
  known := by
    intro g hg
    rw [hsame.pendingAudio, hheld, ← List.append_assoc] at hg
    rw [hsame.arrivals]
    rcases List.mem_append.mp hg with hg | hg
    · exact hI.known g (by simp only [List.mem_append, List.mem_cons] at hg ⊢; tauto)
    · rw [(hextra g hg).1]
      exact hI.known h (by simp)
  flight := by
    intro g hg
    refine (hI.flight g (List.mem_cons_of_mem _ hg)).imp id ?_
    rintro ⟨hset, hs, hready⟩
    refine ⟨by rw [hsame.epochSet]; exact hset, hs.latch hf ha hsame.epochResolved, ?_⟩
    rw [hf.shiftOf_mono ha hs.settled]
    exact hready
  pending := by rw [hsame.pendingAudio]; exact hI.pending
  held := by
    intro g hg
    rw [hheld] at hg
    rcases List.mem_append.mp hg with hg | hg
    · exact (hI.held g hg).latch hf ha hsame.epochResolved
    · exact (hextra g hg).2.1
  heldReady := by
    intro hset g hg
    rw [hsame.epochSet] at hset
    rw [hheld] at hg
    rcases List.mem_append.mp hg with hg | hg
    · rw [hf.shiftOf_mono ha (hI.held g hg).settled]
      exact hI.heldReady hset g hg
    · rw [(hextra g hg).2.2] at hset
      cases hset

theorem HoldInv.push (hI : HoldInv Ready (h :: fl) st) (ho : AudioOutcome env view st h st') :
    HoldInv Ready fl st' := by
  have hsame := ho.same
  cases ho with
  | abandoned _ =>
      exact hI.latch (Latching.refl env view st) hsame rfl [] (by simp) (by simp)
  | skipped _ =>
      exact hI.latch (Latching.refl env view st) hsame rfl [] (by simp) (by simp)
  | dropped f s hf _ _ => exact hI.latch hf.toLatching hsame rfl [] (by simp) (by simp)
  | trimmed f s q hf _ _ _ _ => exact hI.latch hf.toLatching hsame rfl [] (by simp) (by simp)
  | written f s q w maxLocal ends err hf _ _ _ _ _ _ =>
      exact hI.latch hf.toLatching hsame rfl [] (by simp) (by simp)
  | deferred f s q hf _ hs hset =>
      refine hI.latch hf.toLatching hsame rfl [_] rfl ?_
      intro g hg
      rw [List.mem_singleton.mp hg]
      -- the segment has no epoch, so this push is the packet's first
      have hfirst : h.payload = h.origin.packet :=
        (hI.flight h (by simp)).resolve_right fun hr => by rw [hset] at hr; cases hr.1
      refine ⟨rfl, ⟨by rw [← hfirst], hf.settled, ?_⟩, hset⟩
      show shiftAudioPts h.origin.packet.ptsNs ((f h.payload.trackId).getD 0) = some q
      rw [hf.value hI.unlatched, ← hfirst]
      exact hs

/-- A state that differs in nothing the invariant reads. -/
theorem HoldInv.congr (hI : HoldInv Ready fl st) (hsame : SameQueues st st')
    (ha : st'.audioShift = st.audioShift) (hheld : st'.segmentPendingAudio = st.segmentPendingAudio) :
    HoldInv Ready fl st' := by
  have hshift : ∀ t, st'.shiftOf t = st.shiftOf t := fun t => by
    rw [MuxState.shiftOf, MuxState.shiftOf, ha]
  have honce : ∀ g, ShiftedOnce st g → ShiftedOnce st' g := fun g hg =>
    hg.of_same ha hsame.epochResolved
  exact {
    unlatched := by rw [MuxState.Unlatched, hsame.epochResolved, ha]; exact hI.unlatched
    latched := by rw [ha, hsame.videoEpoch100ns]; exact hI.latched
    known := by rw [hsame.pendingAudio, hheld, hsame.arrivals]; exact hI.known
    flight := fun g hg => (hI.flight g hg).imp id fun ⟨hset, hs, hready⟩ =>
      ⟨by rw [hsame.epochSet]; exact hset, honce g hs, by rw [hshift]; exact hready⟩
    pending := by rw [hsame.pendingAudio]; exact hI.pending
    held := by rw [hheld]; exact fun g hg => honce g (hI.held g hg)
    heldReady := by
      rw [hsame.epochSet, hheld]
      exact fun hset g hg => by rw [hshift]; exact hI.heldReady hset g hg }

/-- Without a video epoch nothing waits for a segment. -/
def MuxState.NoneDeferred (st : MuxState) : Prop :=
  st.epochResolved = false → st.segmentPendingAudio = []

theorem HoldInv.resolve (hI : HoldInv Ready fl st) (hnone : st.NoneDeferred)
    (hfresh : ∀ g ∈ fl, g.payload = g.origin.packet) (view : SharedView) :
    HoldInv Ready fl (resolveEpoch view st) := by
  unfold resolveEpoch
  split
  · exact hI
  · rename_i hres
    have hoff : st.epochResolved = false := Bool.eq_false_iff.mpr hres
    split
    · exact hI
    · exact {
        unlatched := fun h => by cases h
        latched := fun t s hs => by
          have := hI.unlatched hoff t
          rw [show st.audioShift t = some s from hs] at this
          cases this
        known := hI.known
        flight := fun g hg => Or.inl (hfresh g hg)
        pending := hI.pending
        held := fun g hg => by
          rw [show st.segmentPendingAudio = [] from hnone hoff] at hg
          cases hg
        heldReady := hI.heldReady }

theorem HoldInv.takePending (hI : HoldInv Ready fl st) :
    HoldInv Ready (st.pendingAudio ++ fl) { st with pendingAudio := [] } where
  unlatched := hI.unlatched
  latched := hI.latched
  known := fun g hg => hI.known g (by simp only [List.mem_append] at hg ⊢; tauto)
  flight := fun g hg => by
    rcases List.mem_append.mp hg with hg | hg
    · exact Or.inl (hI.pending g hg)
    · exact (hI.flight g hg).imp id fun ⟨hset, hs, hready⟩ =>
        ⟨hset, hs.of_same rfl rfl, hready⟩
  pending := by simp
  held := fun g hg => (hI.held g hg).of_same rfl rfl
  heldReady := hI.heldReady

theorem HoldInv.takeHeld (hI : HoldInv Ready fl st) (hset : st.seg.epochSet = true) :
    HoldInv Ready (st.segmentPendingAudio ++ fl) { st with segmentPendingAudio := [] } where
  unlatched := hI.unlatched
  latched := hI.latched
  known := fun g hg => hI.known g (by simp only [List.mem_append] at hg ⊢; tauto)
  flight := fun g hg => by
    rcases List.mem_append.mp hg with hg | hg
    · have hs := hI.held g hg
      exact Or.inr ⟨hset, hs.of_same rfl rfl, hI.heldReady hset g hg⟩
    · exact (hI.flight g hg).imp id fun ⟨hset, hs, hready⟩ =>
        ⟨hset, hs.of_same rfl rfl, hready⟩
  pending := hI.pending
  held := by simp
  heldReady := by simp

/-- Counting the deferred packets as trimmed empties the hold. -/
theorem HoldInv.clearHeld {n : Nat} {l : List AudioArrival} (hI : HoldInv Ready [] st) :
    HoldInv Ready []
      { st with trimmedAudioPackets := n, trimmed := l, segmentPendingAudio := [] } where
  unlatched := hI.unlatched
  latched := hI.latched
  known := fun g hg => hI.known g (by simp only [List.mem_append, List.not_mem_nil] at hg ⊢; tauto)
  flight := by simp
  pending := hI.pending
  held := by simp
  heldReady := by simp

/-- What the invariant reads beside the segment. -/
structure SameHold (st st' : MuxState) : Prop where
  epochResolved : st'.epochResolved = st.epochResolved
  videoEpoch100ns : st'.videoEpoch100ns = st.videoEpoch100ns
  arrivals : st'.arrivals = st.arrivals
  pendingAudio : st'.pendingAudio = st.pendingAudio
  audioShift : st'.audioShift = st.audioShift
  segmentPendingAudio : st'.segmentPendingAudio = st.segmentPendingAudio

/-- With nothing in flight, another segment under the same queues and shifts. -/
theorem HoldInv.reseat (hI : HoldInv Ready [] st) (hsame : SameHold st st')
    (hready : st'.seg.epochSet = true →
      ∀ g ∈ st.segmentPendingAudio, Ready (st.shiftOf g.payload.trackId) g) :
    HoldInv Ready [] st' where
  unlatched := by
    rw [MuxState.Unlatched, hsame.epochResolved, hsame.audioShift]
    exact hI.unlatched
  latched := by
    rw [hsame.audioShift, hsame.videoEpoch100ns]
    exact hI.latched
  known := by
    rw [hsame.pendingAudio, hsame.segmentPendingAudio, hsame.arrivals]
    exact hI.known
  flight := by simp
  pending := by
    rw [hsame.pendingAudio]
    exact hI.pending
  held := by
    rw [hsame.segmentPendingAudio]
    exact fun g hg => (hI.held g hg).of_same hsame.audioShift hsame.epochResolved
  heldReady := by
    rw [hsame.segmentPendingAudio]
    intro hset g hg
    rw [MuxState.shiftOf, hsame.audioShift]
    exact hready hset g hg

/-- The next audio arrival. -/
def MuxState.arrival (st : MuxState) (payload : EncodedAudioPacket) : AudioArrival :=
  ⟨st.arrivals.length, payload⟩

theorem HoldInv.arrive (hI : HoldInv Ready [] st) (payload : EncodedAudioPacket) :
    HoldInv Ready [⟨payload, st.arrival payload⟩]
      { st with arrivals := st.arrivals ++ [st.arrival payload] } where
  unlatched := hI.unlatched
  latched := hI.latched
  known := fun g hg => by
    simp only [List.mem_append, List.mem_singleton] at hg ⊢
    rcases hg with (rfl | hg) | hg
    · exact Or.inr rfl
    · exact Or.inl (hI.known g (by simp [hg]))
    · exact Or.inl (hI.known g (by simp [hg]))
  flight := fun g hg => Or.inl (by rw [List.mem_singleton.mp hg]; rfl)
  pending := hI.pending
  held := fun g hg => (hI.held g hg).of_same rfl rfl
  heldReady := hI.heldReady

theorem HoldInv.hold (hI : HoldInv Ready [h] st) (hfresh : h.payload = h.origin.packet) :
    HoldInv Ready [] { st with pendingAudio := st.pendingAudio ++ [h] } where
  unlatched := hI.unlatched
  latched := hI.latched
  known := fun g hg => hI.known g (by
    simp only [List.mem_append, List.mem_singleton, List.nil_append] at hg ⊢
    tauto)
  flight := by simp
  pending := fun g hg => by
    rcases List.mem_append.mp hg with hg | hg
    · exact hI.pending g hg
    · rw [List.mem_singleton.mp hg]
      exact hfresh
  held := fun g hg => (hI.held g hg).of_same rfl rfl
  heldReady := hI.heldReady

/-- Setting a segment's epoch needs the packets it lets through to be ready. -/
theorem HoldInv.video {p : EncodedVideoPacket} (hI : HoldInv Ready [] st)
    (hready : st.seg.epochSet = false →
      ∀ g ∈ st.segmentPendingAudio, Ready (st.shiftOf g.payload.trackId) g)
    (ho : VideoOutcome st p st') (hok : st'.writeError = false) : HoldInv Ready [] st' := by
  cases ho with
  | idle _ => exact hI
  | failed _ herr =>
      rw [herr] at hok
      cases hok
  | written w maxLocal err mp _ _ =>
      refine hI.reseat ⟨rfl, rfl, rfl, rfl, rfl, rfl⟩ fun _ g hg => ?_
      cases hset : st.seg.epochSet with
      | false => exact hready hset g hg
      | true => exact hI.heldReady hset g hg

theorem HoldInv.finalize (hI : HoldInv Ready [] st) (env : MuxEnv) (view : SharedView)
    (sessionEnd : Bool) : HoldInv Ready [] (finalizeSegment env view sessionEnd st) := by
  cases hw : st.seg.writer with
  | none => rw [finalizeSegment_of_none hw]; exact hI
  | some w =>
      obtain ⟨c, err, -, heq⟩ := finalizeSegment_of_some env view sessionEnd hw
      rw [heq]
      exact hI.reseat ⟨rfl, rfl, rfl, rfl, rfl, rfl⟩ hI.heldReady

theorem HoldInv.open {index : UInt32} {r : MuxState × Bool} (hI : HoldInv Ready [] st)
    (ho : OpenOutcome env st index r) : HoldInv Ready [] r.1 := by
  cases ho with
  | noPath failure _ =>
      exact hI.congr ⟨rfl, rfl, rfl, rfl, rfl, rfl, rfl⟩ rfl rfl
  | failed failure _ =>
      exact hI.reseat ⟨rfl, rfl, rfl, rfl, rfl, rfl⟩ nofun
  | opened w _ =>
      exact hI.reseat ⟨rfl, rfl, rfl, rfl, rfl, rfl⟩ nofun

end

/-! ## Carrying an invariant through a step -/

/-- What an invariant `J` of the state and the packets in flight has to survive of a drain.
    Nothing is asked after a write error. A push may rely on `K` of `epoch_resolved`. -/
structure DrainRule (env : MuxEnv) (K : Bool → Prop) (J : List HeldAudio → MuxState → Prop) :
    Prop where
  error : ∀ fl st, st.writeError = true → J fl st
  takePending : ∀ fl st, J fl st → J (st.pendingAudio ++ fl) { st with pendingAudio := [] }
  takeHeld : ∀ fl st, st.seg.epochSet = true → J fl st →
    J (st.segmentPendingAudio ++ fl) { st with segmentPendingAudio := [] }
  push : ∀ view st h fl st', K st.epochResolved → J (h :: fl) st →
    AudioOutcome env view st h st' → J fl st'

/-- What it has to survive of a step. `Ready` and `Opens` are the conditions a step may rely on
    when a video packet sets a segment's epoch and when a split opens the next file. -/
structure StepRule (env : MuxEnv) (Ready : Int64 → HeldAudio → Prop) (Opens : SplitSentinel → Prop)
    (J : List HeldAudio → MuxState → Prop) : Prop extends DrainRule env (· = true) J where
  noneDeferred : ∀ fl st, J fl st → st.writeError = false → st.NoneDeferred
  resolve : ∀ view fl st, (∀ g ∈ fl, g.payload = g.origin.packet) → J fl st →
    J fl (resolveEpoch view st)
  arrive : ∀ st payload, J [] st → J [⟨payload, st.arrival payload⟩]
    { st with arrivals := st.arrivals ++ [st.arrival payload] }
  hold : ∀ st h, h.payload = h.origin.packet → st.epochResolved = false → J [h] st →
    J [] { st with pendingAudio := st.pendingAudio ++ [h] }
  video : ∀ st p st', (st.seg.epochSet = false →
      ∀ g ∈ st.segmentPendingAudio, Ready (st.shiftOf g.payload.trackId) g) →
    J [] st → VideoOutcome st p st' → J [] st'
  split : ∀ view st s r, Opens s → J [] st → (finalizeSegment env view false st).writeError = false →
    OpenOutcome env (finalizeSegment env view false st) s.newSegmentIndex r → J [] r.1
  eos : ∀ st v a, J [] st → J [] { st with videoEos := v, audioEos := a }

/-- The condition on one step, in the state before it. -/
def StepGuard (Ready : Int64 → HeldAudio → Prop) (Opens : SplitSentinel → Prop) (st : MuxState)
    (step : SharedView × MuxItem) : Prop :=
  match step.2 with
  | .video payload =>
      payload.bytes.isEmpty = false → st.seg.epochSet = false →
        ∀ h ∈ st.segmentPendingAudio, Ready (st.shiftOf h.payload.trackId) h
  | .split s => Opens s
  | .audio _ => True
  | .videoEos => True
  | .audioEos _ => True

instance (Ready : Int64 → HeldAudio → Prop) (Opens : SplitSentinel → Prop)
    [∀ s h, Decidable (Ready s h)] [∀ s, Decidable (Opens s)] (st : MuxState) :
    (step : SharedView × MuxItem) → Decidable (StepGuard Ready Opens st step)
  | (_, .video payload) =>
      inferInstanceAs (Decidable (payload.bytes.isEmpty = false → st.seg.epochSet = false →
        ∀ h ∈ st.segmentPendingAudio, Ready (st.shiftOf h.payload.trackId) h))
  | (_, .split s) => inferInstanceAs (Decidable (Opens s))
  | (_, .audio _) => isTrue trivial
  | (_, .videoEos) => isTrue trivial
  | (_, .audioEos _) => isTrue trivial

/-- A drain stops only at a write error. -/
theorem drainHeld_left (env : MuxEnv) (view : SharedView) (l : List HeldAudio) :
    ∀ st, (drainHeld env view st l).2 = [] ∨ (drainHeld env view st l).1.writeError = true := by
  induction l with
  | nil => exact fun _ => Or.inl rfl
  | cons h l ih =>
      intro st
      unfold drainHeld
      split
      · rename_i hwe
        exact Or.inr hwe
      · exact ih _

theorem drainHeld_same (env : MuxEnv) (view : SharedView) (l : List HeldAudio) :
    ∀ st, SameQueues st (drainHeld env view st l).1 := by
  induction l with
  | nil => exact fun _ => ⟨rfl, rfl, rfl, rfl, rfl, rfl, rfl⟩
  | cons h l ih =>
      intro st
      unfold drainHeld
      split
      · exact ⟨rfl, rfl, rfl, rfl, rfl, rfl, rfl⟩
      · have h₁ := (pushAudio_outcome env view st h).same
        have h₂ := ih (pushAudio env view st h)
        exact ⟨h₂.1.trans h₁.1, h₂.2.trans h₁.2, h₂.3.trans h₁.3, h₂.4.trans h₁.4, h₂.5.trans h₁.5,
          h₂.6.trans h₁.6, h₂.7.trans h₁.7⟩

section
variable {K : Bool → Prop} {J : List HeldAudio → MuxState → Prop} {fl : List HeldAudio}

/-- The loop lemma of both drains. -/
theorem DrainRule.drainHeld (D : DrainRule env K J) (view : SharedView) (l : List HeldAudio) :
    ∀ st, K st.epochResolved → J (l ++ fl) st →
      J ((drainHeld env view st l).2 ++ fl) (drainHeld env view st l).1 := by
  induction l with
  | nil => exact fun _ _ hJ => hJ
  | cons h l ih =>
      intro st hk hJ
      unfold MuxThread.drainHeld
      split
      · exact hJ
      · have ho := pushAudio_outcome env view st h
        exact ih _ (by rw [ho.same.epochResolved]; exact hk) (D.push view st h (l ++ fl) _ hk hJ ho)

/-- What is left of a drain is nothing, or the rest after a write error. -/
theorem DrainRule.drained (D : DrainRule env K J) (view : SharedView) (st : MuxState)
    {l : List HeldAudio} (hk : K st.epochResolved) (hJ : J (l ++ fl) st) :
    J fl (MuxThread.drainHeld env view st l).1 ∧
      ((MuxThread.drainHeld env view st l).2 = [] ∨
        (MuxThread.drainHeld env view st l).1.writeError = true) := by
  have hinv := D.drainHeld view l st hk hJ
  rcases drainHeld_left env view l st with hnil | herr
  · rw [hnil] at hinv
    exact ⟨hinv, Or.inl hnil⟩
  · exact ⟨D.error _ _ herr, Or.inr herr⟩

theorem drainPendingLoop_epochResolved (env : MuxEnv) (view : SharedView) (st : MuxState) :
    (drainPendingLoop env view st).epochResolved = st.epochResolved :=
  (drainHeld_same env view st.pendingAudio { st with pendingAudio := [] }).epochResolved

theorem DrainRule.pendingLoop (D : DrainRule env K J) (view : SharedView)
    (hk : K st.epochResolved) (hJ : J fl st) :
    J fl (drainPendingLoop env view st) := by
  unfold drainPendingLoop
  dsimp only
  obtain ⟨hinv, hleft⟩ := D.drained view { st with pendingAudio := [] } hk
    (D.takePending fl st hJ)
  rcases hleft with hnil | herr
  · -- nothing is put back
    rw [hnil]
    have hback : ∀ m : MuxState, m.pendingAudio = [] → { m with pendingAudio := [] } = m :=
      fun m hm => by rw [← hm]
    rw [hback _ (drainHeld_same env view st.pendingAudio { st with pendingAudio := [] }).pendingAudio]
    exact hinv
  · exact D.error _ _ herr

theorem DrainRule.drainSegment (D : DrainRule env K J) (view : SharedView)
    (hk : st.writeError = false → st.segmentPendingAudio ≠ [] → K st.epochResolved) (hJ : J fl st) :
    J fl (drainSegmentPendingAudio env view st) := by
  unfold drainSegmentPendingAudio
  split
  · exact hJ
  · rename_i hgo
    simp only [Bool.or_eq_true, Bool.not_eq_true', List.isEmpty_iff, not_or, Bool.not_eq_false] at hgo
    by_cases hwe : st.writeError = true
    · refine D.error _ _ ?_
      obtain ⟨h, l, hl⟩ := List.exists_cons_of_ne_nil hgo.2
      rw [hl]
      simp [MuxThread.drainHeld, hwe]
    · obtain ⟨hinv, hleft⟩ := D.drained view { st with segmentPendingAudio := [] }
        (hk (Bool.eq_false_iff.mpr hwe) hgo.2) (D.takeHeld fl st hgo.1 hJ)
      rcases hleft with hnil | herr
      · dsimp only
        rw [hnil, List.map_nil, List.append_nil]
        exact hinv
      · exact D.error _ _ herr

/-- The flush behind the last item, up to the count of what it leaves deferred. -/
def placeTail (env : MuxEnv) (view : SharedView) (st : MuxState) : MuxState :=
  drainSegmentPendingAudio env view
    (if !st.epochResolved then drainPendingLoop env view st else st)

theorem flushTail_eq (env : MuxEnv) (view : SharedView) (st : MuxState) :
    flushTail env view st = { placeTail env view st with
      trimmedAudioPackets := (placeTail env view st).trimmedAudioPackets +
        (placeTail env view st).segmentPendingAudio.length
      trimmed := (placeTail env view st).trimmed ++
        (placeTail env view st).segmentPendingAudio.map HeldAudio.origin
      segmentPendingAudio := [] } := rfl

/-- The flush pushes with or without a video epoch. -/
theorem DrainRule.placeTail (D : DrainRule env (fun _ => True) J) (view : SharedView) (hJ : J [] st) :
    J [] (placeTail env view st) := by
  unfold MuxThread.placeTail
  refine D.drainSegment view (fun _ _ => trivial) ?_
  split
  · exact D.pendingLoop view trivial hJ
  · exact hJ

end

section
variable {Ready : Int64 → HeldAudio → Prop} {Opens : SplitSentinel → Prop}
  {J : List HeldAudio → MuxState → Prop} {fl : List HeldAudio}

theorem StepRule.drainPending (R : StepRule env Ready Opens J) (view : SharedView) (hJ : J fl st) :
    J fl (drainPendingAudio env view st) := by
  unfold drainPendingAudio
  split
  · exact hJ
  · rename_i hres
    exact R.pendingLoop view (by simpa using hres) hJ

theorem drainPendingAudio_epochResolved (env : MuxEnv) (view : SharedView) (st : MuxState) :
    (drainPendingAudio env view st).epochResolved = st.epochResolved := by
  unfold drainPendingAudio
  split
  · rfl
  · exact drainPendingLoop_epochResolved env view st

theorem StepRule.drainSegment (R : StepRule env Ready Opens J) (view : SharedView) (hJ : J fl st) :
    J fl (drainSegmentPendingAudio env view st) := by
  refine R.toDrainRule.drainSegment view (fun hok hne => ?_) hJ
  by_contra hoff
  exact hne (R.noneDeferred fl st hJ hok (Bool.eq_false_iff.mpr hoff))

/-- The step lemma: a guarded step keeps the invariant. -/
theorem StepRule.handle (R : StepRule env Ready Opens J) {step : SharedView × MuxItem}
    (hG : StepGuard Ready Opens st step) (hJ : J [] st) : J [] (handle env st step) := by
  obtain ⟨view, item⟩ := step
  cases item with
  | video payload =>
      unfold MuxThread.handle
      dsimp only
      split
      · exact hJ
      · rename_i hb
        have hready := hG (by simpa using hb)
        have h₁ : J [] (resolveEpoch view st) := R.resolve view [] st (by simp) hJ
        have hguard : (resolveEpoch view st).seg.epochSet = false →
            ∀ g ∈ (resolveEpoch view st).segmentPendingAudio,
              Ready ((resolveEpoch view st).shiftOf g.payload.trackId) g := by
          unfold resolveEpoch
          split
          · exact hready
          · split
            · exact hready
            · exact hready
        have h₂ := R.video _ payload _ hguard h₁ (pushVideo_outcome env _ payload)
        exact R.drainSegment view (R.drainPending view h₂)
  | audio payload =>
      unfold MuxThread.handle
      dsimp only
      split
      · exact hJ
      · have h₁ := R.resolve view _ _ (by simp [MuxState.arrival]) (R.arrive st payload hJ)
        split
        · rename_i hres
          have hkeep := drainPendingAudio_epochResolved env view
            (resolveEpoch view { st with arrivals := st.arrivals ++ [st.arrival payload] })
          exact R.push view _ _ _ _ (hkeep.trans hres) (R.drainPending view h₁)
            (pushAudio_outcome env view _ _)
        · rename_i hres
          exact R.hold _ _ rfl (Bool.eq_false_iff.mpr hres) h₁
  | split s =>
      unfold MuxThread.handle beginNewSegment
      dsimp only
      split
      · exact hJ
      · have h₁ := R.drainSegment view (R.drainPending view hJ)
        split
        · rename_i hwe
          exact R.error _ _ hwe
        · rename_i hwe
          exact R.split view _ s _ hG h₁ (Bool.eq_false_iff.mpr hwe) (openSegment_outcome env _ _)
  | videoEos => exact R.eos st true st.audioEos hJ
  | audioEos track =>
      unfold MuxThread.handle
      dsimp only
      split
      · exact R.eos st st.videoEos _ hJ
      · exact hJ

/-- The run lemma. -/
theorem StepRule.run (R : StepRule env Ready Opens J) {steps : List (SharedView × MuxItem)}
    (hG : StepRun.Meets (fun st a => some (MuxThread.handle env st a)) (StepGuard Ready Opens) st steps)
    (hJ : J [] st) : J [] (steps.foldl (MuxThread.handle env) st) :=
  StepRun.exec_invariant (I := J [])
    (fun s a s' h hg hs => by cases hs; exact R.handle hg h) hJ hG
    (StepRun.exec_total (MuxThread.handle env) st steps)

end

/-! ## The ends of a run -/

theorem finish_eq (env : MuxEnv) (view : SharedView) (st : MuxState) :
    ∃ failure, finish env view st =
      { finalizeSegment env view true (flushTail env view st) with failure := failure } := by
  unfold finish
  dsimp only
  split
  · exact recordFailure_eq _ _ _
  · exact ⟨(finalizeSegment env view true (flushTail env view st)).failure, rfl⟩

/-- A run handles its items and finishes, or stops before the first of them. -/
theorem run_cases (env : MuxEnv) (input : MuxInput) :
    (∃ w, env.segmentOpens 0 = true ∧
        started env = ({ seg := { writer := some w }, anySegmentOpened := true }, true) ∧
        run env input = finish env input.tail (input.steps.foldl (handle env) (started env).1)) ∨
      ∃ failure, run env input = { failure := failure } := by
  unfold run
  have hopen : OpenOutcome env {} 0 (started env) := openSegment_outcome env {} 0
  split
  · obtain ⟨failure, hf⟩ := recordFailure_eq {} .eInvalidArg "Audio track count exceeds maximum supported"
    exact Or.inr ⟨failure, hf⟩
  · generalize started env = r at hopen
    cases hopen with
    | noPath failure _ => exact Or.inr ⟨failure, rfl⟩
    | failed failure _ => exact Or.inr ⟨failure, rfl⟩
    | opened w hopens => exact Or.inl ⟨w, hopens, rfl, rfl⟩

theorem HoldInv.initial (Ready : Int64 → HeldAudio → Prop) (w : Writer) :
    HoldInv Ready [] { seg := { writer := some w }, anySegmentOpened := true } where
  unlatched := fun _ _ => rfl
  latched := fun _ _ h => by cases h
  known := by simp
  flight := by simp
  pending := by simp
  held := by simp
  heldReady := by simp

end Exosnap.Engine.MuxThread
