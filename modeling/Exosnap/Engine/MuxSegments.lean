/-
  Which video packets each segment of a run of the mux thread holds.

  A segment shows as its index and the video packets pushed into its writer. Audio never changes
  what a segment shows (`AudioOnly`), a video packet is added to the open segment, and a sentinel
  closes it and opens the next. `run_segments`: a run without a failure reports exactly the
  segments its items spell out (`segmentsOf`).
-/
import Exosnap.Engine.MuxSteps

namespace Exosnap.Engine.MuxThread

/-- A segment's index and its video packets. -/
abbrev VideoSegment := UInt32 × List EncodedVideoPacket

def WriterPush.video? (push : WriterPush) : Option EncodedVideoPacket :=
  match push.source with
  | .video packet => some packet
  | .audio _ => none

def SegmentState.video (seg : SegmentState) : VideoSegment :=
  (seg.index, seg.pushes.filterMap WriterPush.video?)

def CompletedSegment.video (c : CompletedSegment) : VideoSegment :=
  (c.index, c.pushes.filterMap WriterPush.video?)

def MuxState.closedVideo (st : MuxState) : List VideoSegment :=
  st.completed.map CompletedSegment.video

/-- The segments that items spell out: a sentinel ends the open one. -/
def segmentsOf (cur : VideoSegment) : List MuxItem → List VideoSegment
  | [] => [cur]
  | .video payload :: items =>
      if payload.bytes.isEmpty then segmentsOf cur items
      else segmentsOf (cur.1, cur.2 ++ [payload]) items
  | .split s :: items => cur :: segmentsOf (s.newSegmentIndex, []) items
  | _ :: items => segmentsOf cur items

/-- What the video thread puts in the queue. -/
def isVideoSide : MuxItem → Bool
  | .video _ => true
  | .split _ => true
  | _ => false

/-- Audio and the ends of streams spell out nothing. -/
theorem segmentsOf_filter (items : List MuxItem) (cur : VideoSegment) :
    segmentsOf cur (items.filter isVideoSide) = segmentsOf cur items := by
  induction items generalizing cur with
  | nil => rfl
  | cons item items ih =>
      cases item <;> simp [segmentsOf, List.filter_cons, isVideoSide, ih]

/-- No write error and no failure so far. -/
def MuxState.Healthy (st : MuxState) : Prop := st.writeError = false ∧ st.failure = none

variable {env : MuxEnv} {view : SharedView} {st st' st'' : MuxState} {h : HeldAudio}

/-! ## Audio -/

/-- What placing audio does to the segments: nothing. -/
structure AudioOnly (st st' : MuxState) : Prop where
  closed : st'.completed = st.completed
  video : st'.seg.video = st.seg.video
  writer : st.seg.writer.isSome → st'.seg.writer.isSome
  failure : st'.failure = st.failure
  writeError : st'.writeError = false → st.writeError = false

theorem AudioOnly.refl (st : MuxState) : AudioOnly st st := ⟨rfl, rfl, id, rfl, id⟩

theorem AudioOnly.trans (h : AudioOnly st st') (h' : AudioOnly st' st'') : AudioOnly st st'' :=
  ⟨h'.1.trans h.1, h'.2.trans h.2, h'.3 ∘ h.3, h'.4.trans h.4, h.5 ∘ h'.5⟩

theorem AudioOnly.healthy (ha : AudioOnly st st') (h : st'.Healthy) : st.Healthy :=
  ⟨ha.writeError h.1, ha.failure ▸ h.2⟩

theorem AudioOnly.closedVideo (ha : AudioOnly st st') : st'.closedVideo = st.closedVideo :=
  congrArg (List.map CompletedSegment.video) ha.closed

theorem AudioOutcome.audioOnly (ho : AudioOutcome env view st h st') : AudioOnly st st' := by
  have herr := ho.writeError_eq
  cases ho with
  | abandoned _ => exact ⟨rfl, rfl, id, rfl, herr⟩
  | skipped _ => exact ⟨rfl, rfl, id, rfl, herr⟩
  | dropped _ _ _ _ _ => exact ⟨rfl, rfl, id, rfl, herr⟩
  | deferred _ _ _ _ _ _ _ => exact ⟨rfl, rfl, id, rfl, herr⟩
  | trimmed _ _ _ _ _ _ _ _ => exact ⟨rfl, rfl, id, rfl, herr⟩
  | written f s q w maxLocal ends err hf hin hs hopen hset hge hkeep =>
      refine ⟨rfl, ?_, fun _ => rfl, rfl, herr⟩
      simp [SegmentState.video, WriterPush.video?]

theorem drainHeld_audioOnly (env : MuxEnv) (view : SharedView) (l : List HeldAudio)
    (st : MuxState) : AudioOnly st (drainHeld env view st l).1 := by
  induction l generalizing st with
  | nil => exact .refl st
  | cons h l ih =>
      unfold drainHeld
      split
      · exact .refl st
      · exact (pushAudio_outcome env view st h).audioOnly.trans (ih _)

theorem drainPendingLoop_audioOnly (env : MuxEnv) (view : SharedView) (st : MuxState) :
    AudioOnly st (drainPendingLoop env view st) := by
  have h := drainHeld_audioOnly env view st.pendingAudio { st with pendingAudio := [] }
  exact ⟨h.closed, h.video, h.writer, h.failure, h.writeError⟩

theorem drainPendingAudio_audioOnly (env : MuxEnv) (view : SharedView) (st : MuxState) :
    AudioOnly st (drainPendingAudio env view st) := by
  unfold drainPendingAudio
  split
  · exact .refl st
  · exact drainPendingLoop_audioOnly env view st

theorem drainSegmentPendingAudio_audioOnly (env : MuxEnv) (view : SharedView) (st : MuxState) :
    AudioOnly st (drainSegmentPendingAudio env view st) := by
  unfold drainSegmentPendingAudio
  split
  · exact .refl st
  · have h := drainHeld_audioOnly env view st.segmentPendingAudio
      { st with segmentPendingAudio := [] }
    exact ⟨h.closed, h.video, h.writer, h.failure, h.writeError⟩

theorem resolveEpoch_audioOnly (view : SharedView) (st : MuxState) :
    AudioOnly st (resolveEpoch view st) := by
  unfold resolveEpoch
  split
  · exact .refl st
  · split
    · exact .refl st
    · exact ⟨rfl, rfl, id, rfl, id⟩

/-- Both drains, as they follow a video packet and precede a split. -/
theorem drains_audioOnly (env : MuxEnv) (view : SharedView) (st : MuxState) :
    AudioOnly st (drainSegmentPendingAudio env view (drainPendingAudio env view st)) :=
  (drainPendingAudio_audioOnly env view st).trans (drainSegmentPendingAudio_audioOnly env view _)

/-! ## Video packets and boundaries -/

theorem SegmentState.withEpoch_index (seg : SegmentState) (p : UInt64) :
    (seg.withEpoch p).index = seg.index := by
  unfold withEpoch
  split <;> rfl

/-- A push that leaves the thread healthy has added the packet to the open segment. -/
theorem pushVideo_written {p : EncodedVideoPacket} (hok : (pushVideo env st p).Healthy) :
    st.Healthy ∧ (st.seg.writer.isSome → (pushVideo env st p).closedVideo = st.closedVideo ∧
      (pushVideo env st p).seg.video = (st.seg.video.1, st.seg.video.2 ++ [p]) ∧
      (pushVideo env st p).seg.writer.isSome) := by
  have ho := pushVideo_outcome env st p
  have hlive := ho.writeError_eq hok.1
  generalize pushVideo env st p = r at ho hok ⊢
  cases ho with
  | idle hdead =>
      refine ⟨hok, fun hopen => ?_⟩
      rcases hdead with herr | hnone
      · simp [herr] at hlive
      · simp [hnone] at hopen
  | failed _ herr => simp [hok.1] at herr
  | written w maxLocal err mp _ _ =>
      refine ⟨⟨hlive, hok.2⟩, fun _ => ⟨rfl, ?_, rfl⟩⟩
      simp [SegmentState.video, SegmentState.withEpoch_index, WriterPush.video?]

/-- A healthy finalize has moved the open segment to the closed ones. -/
theorem finalizeSegment_video {sessionEnd : Bool}
    (hok : (finalizeSegment env view sessionEnd st).Healthy) :
    st.Healthy ∧ (st.seg.writer.isSome →
      (finalizeSegment env view sessionEnd st).closedVideo = st.closedVideo ++ [st.seg.video]) := by
  have hlive := finalizeSegment_writeError_eq hok.1
  unfold finalizeSegment at hok ⊢
  split at hok
  · rename_i hw
    exact ⟨hok, fun hopen => by simp [hw] at hopen⟩
  · refine ⟨⟨hlive, hok.2⟩, fun _ => ?_⟩
    simp [MuxState.closedVideo, SegmentState.video, CompletedSegment.video]

theorem recordFailure_failure_ne (st : MuxState) (hr : HResult) (detail : String) :
    (recordFailure st hr detail).failure ≠ none := by
  unfold recordFailure
  split
  · rename_i f hf
    rw [hf]
    exact Option.some_ne_none f
  · exact Option.some_ne_none _

/-- Without a failure the next file is open, and nothing is in it. -/
theorem openSegment_healthy {index : UInt32}
    (hok : (openSegment env st index 0 false).1.failure = none) :
    ∃ w, openSegment env st index 0 false =
      ({ st with seg := { index := index, writer := some w }, anySegmentOpened := true }, true) := by
  unfold openSegment at hok ⊢
  cases hpath : env.segmentPathFailure index with
  | some failed =>
      rw [hpath] at hok
      exact absurd hok (recordFailure_failure_ne _ _ _)
  | none =>
      rw [hpath] at hok
      dsimp only at hok ⊢
      rcases hopened : Writer.openFile (env.outputIo index) {} env.writerConfig with ⟨w, ok⟩
      rw [hopened] at hok
      cases ok with
      | false => exact absurd hok (recordFailure_failure_ne _ _ _)
      | true => exact ⟨w, rfl⟩

/-- What a step that leaves the thread healthy does to the closed segments and the open one. -/
structure Shows (st st' : MuxState) (item : MuxItem) : Prop where
  healthy : st.Healthy
  writer : st.seg.writer.isSome → st'.seg.writer.isSome
  segments : st.seg.writer.isSome → ∀ items,
    st'.closedVideo ++ segmentsOf st'.seg.video items =
      st.closedVideo ++ segmentsOf st.seg.video (item :: items)

/-- An item that is no video packet and no sentinel shows nothing. -/
theorem AudioOnly.shows {item : MuxItem} (ha : AudioOnly st st') (hok : st'.Healthy)
    (hitem : ∀ cur items, segmentsOf cur (item :: items) = segmentsOf cur items) :
    Shows st st' item where
  healthy := ha.healthy hok
  writer := ha.writer
  segments _ items := by rw [hitem, ha.closedVideo, ha.video]

/-- A boundary that leaves the thread healthy has closed the open segment and opened the one the
    sentinel names. -/
theorem beginNewSegment_shows {s : SplitSentinel} (hok : (beginNewSegment env view st s).Healthy) :
    Shows st (beginNewSegment env view st s) (.split s) := by
  unfold beginNewSegment at hok ⊢
  by_cases herr : st.writeError = true
  · rw [if_pos herr] at hok
    exact absurd hok.1 (by simp [herr])
  · rw [if_neg herr] at hok ⊢
    have ha := drains_audioOnly env view st
    dsimp only at hok ⊢
    generalize drainSegmentPendingAudio env view (drainPendingAudio env view st) = m at ha hok ⊢
    by_cases hfin : (finalizeSegment env view false m).writeError = true
    · rw [if_pos hfin] at hok
      exact absurd hok.1 (by simp [hfin])
    · rw [if_neg hfin] at hok ⊢
      obtain ⟨w, hw⟩ := openSegment_healthy hok.2
      rw [hw] at hok ⊢
      obtain ⟨hm, hclosed⟩ := @finalizeSegment_video _ _ _ false ⟨hok.1, hok.2⟩
      refine ⟨ha.healthy hm, fun _ => rfl, fun hopen items => ?_⟩
      have hclosed' := hclosed (ha.writer hopen)
      rw [ha.closedVideo, ha.video] at hclosed'
      calc (finalizeSegment env view false m).closedVideo ++ segmentsOf (s.newSegmentIndex, []) items
          = st.closedVideo ++ [st.seg.video] ++ segmentsOf (s.newSegmentIndex, []) items := by
            rw [hclosed']
        _ = st.closedVideo ++ segmentsOf st.seg.video (.split s :: items) := by
            simp [segmentsOf]

/-! ## The run -/

/-- The step lemma. -/
theorem handle_shows {item : MuxItem} (hok : (handle env st (view, item)).Healthy) :
    Shows st (handle env st (view, item)) item := by
  cases item with
  | video payload =>
      unfold handle at hok ⊢
      dsimp only at hok ⊢
      by_cases hempty : payload.bytes.isEmpty = true
      · rw [if_pos hempty] at hok ⊢
        exact (AudioOnly.refl st).shows hok (by simp [segmentsOf, hempty])
      · rw [if_neg hempty] at hok ⊢
        have hr := resolveEpoch_audioOnly view st
        have hd := drains_audioOnly env view (pushVideo env (resolveEpoch view st) payload)
        obtain ⟨hlive, hpushed⟩ := pushVideo_written (hd.healthy hok)
        refine ⟨hr.healthy hlive, fun hopen => hd.writer (hpushed (hr.writer hopen)).2.2,
          fun hopen items => ?_⟩
        obtain ⟨hclosed, hvideo, -⟩ := hpushed (hr.writer hopen)
        rw [hd.closedVideo, hd.video, hclosed, hvideo, hr.closedVideo, hr.video]
        simp [segmentsOf, hempty]
  | audio payload =>
      have hnone : ∀ cur items, segmentsOf cur (.audio payload :: items) = segmentsOf cur items :=
        fun _ _ => rfl
      refine AudioOnly.shows ?_ hok hnone
      unfold handle
      dsimp only
      split
      · exact .refl st
      · have harrive : AudioOnly st { st with arrivals := st.arrivals ++ [st.arrival payload] } :=
          ⟨rfl, rfl, id, rfl, id⟩
        have hr := harrive.trans (resolveEpoch_audioOnly view _)
        split
        · have hd := hr.trans (drainPendingAudio_audioOnly env view _)
          exact hd.trans (pushAudio_outcome env view _ _).audioOnly
        · exact ⟨hr.closed, hr.video, hr.writer, hr.failure, hr.writeError⟩
  | split s => exact beginNewSegment_shows hok
  | videoEos =>
      have ha : AudioOnly st (handle env st (view, .videoEos)) := ⟨rfl, rfl, id, rfl, id⟩
      exact ha.shows hok fun _ _ => rfl
  | audioEos track =>
      refine AudioOnly.shows ?_ hok fun _ _ => rfl
      unfold handle
      dsimp only
      split
      · exact ⟨rfl, rfl, id, rfl, id⟩
      · exact .refl st

theorem foldl_handle_healthy (steps : List (SharedView × MuxItem)) (st : MuxState)
    (hok : (steps.foldl (handle env) st).Healthy) : st.Healthy := by
  induction steps generalizing st with
  | nil => exact hok
  | cons step steps ih => exact (handle_shows (ih _ hok)).healthy

/-- The run lemma: induction on the items, from any open segment. -/
theorem foldl_handle_segments (steps : List (SharedView × MuxItem)) (st : MuxState)
    (hopen : st.seg.writer.isSome) (hok : (steps.foldl (handle env) st).Healthy) :
    (steps.foldl (handle env) st).seg.writer.isSome ∧
      (steps.foldl (handle env) st).closedVideo ++ [(steps.foldl (handle env) st).seg.video] =
        st.closedVideo ++ segmentsOf st.seg.video (steps.map Prod.snd) := by
  induction steps generalizing st with
  | nil => exact ⟨hopen, rfl⟩
  | cons step steps ih =>
      have hs := handle_shows (foldl_handle_healthy steps _ hok)
      obtain ⟨hwriter, hsegs⟩ := ih _ (hs.writer hopen) hok
      exact ⟨hwriter, hsegs.trans (hs.segments hopen _)⟩

theorem flushTail_audioOnly (env : MuxEnv) (view : SharedView) (st : MuxState) :
    AudioOnly st (flushTail env view st) := by
  have hplace : AudioOnly st (placeTail env view st) := by
    unfold placeTail
    split
    · exact (drainPendingLoop_audioOnly env view st).trans (drainSegmentPendingAudio_audioOnly _ _ _)
    · exact drainSegmentPendingAudio_audioOnly env view st
  rw [flushTail_eq]
  exact ⟨hplace.closed, hplace.video, hplace.writer, hplace.failure, hplace.writeError⟩

/-- A run that ends without a failure finalized a file. -/
theorem finish_video (hok : (finish env view st).failure = none) :
    st.Healthy ∧ (st.seg.writer.isSome →
      (finish env view st).closedVideo = st.closedVideo ++ [st.seg.video]) := by
  have ha := flushTail_audioOnly env view st
  unfold finish at hok ⊢
  dsimp only at hok ⊢
  split at hok
  · exact absurd hok (recordFailure_failure_ne _ _ _)
  · rename_i hend
    rw [if_neg hend]
    simp only [Bool.or_eq_true, not_or, Bool.not_eq_true] at hend
    obtain ⟨hflush, hclosed⟩ := finalizeSegment_video ⟨hend.1, hok⟩
    exact ⟨ha.healthy hflush, fun hopen =>
      (hclosed (ha.writer hopen)).trans (by rw [ha.closedVideo, ha.video])⟩

/-- A run without a failure reports the segments its items spell out. -/
theorem run_segments {input : MuxInput} (hok : (run env input).failure = none) :
    (run env input).closedVideo = segmentsOf (0, []) (input.steps.map Prod.snd) := by
  unfold run at hok ⊢
  by_cases htracks : kMaxAudioTracks < env.trackCount
  · rw [if_pos htracks] at hok
    exact absurd hok (recordFailure_failure_ne _ _ _)
  · rw [if_neg htracks] at hok ⊢
    have ho : OpenOutcome env {} 0 (started env) := openSegment_outcome env {} 0
    rcases hstart : started env with ⟨st, _ | _⟩
    · rw [hstart] at hok
      have hnone : (openSegment env {} 0 0 false).1.failure = none :=
        (congrArg (fun r => r.1.failure) hstart).trans hok
      obtain ⟨w, hw⟩ := openSegment_healthy hnone
      exact absurd (hstart.symm.trans hw) (by simp)
    · rw [hstart] at hok ho
      dsimp only at hok ⊢
      cases ho with
      | opened w _ =>
          obtain ⟨hhealthy, hfinish⟩ := finish_video hok
          obtain ⟨hwriter, hsegs⟩ := foldl_handle_segments input.steps _ rfl hhealthy
          exact (hfinish hwriter).trans hsegs

end Exosnap.Engine.MuxThread
