/-
  A recording the mux thread gets no video for. The flush behind the last item means to write
  the buffered audio un-rebased, but it goes through the placement that needs a segment epoch,
  and only a video packet sets one. So every packet in range is deferred again and counted as
  trimmed: nothing is saved unless there is nothing to save (`audioOnly_salvaged_iff`).
-/
import Exosnap.Engine.MuxAudioPlacement

namespace Exosnap.Engine.MuxThread

variable {env : MuxEnv} {view : SharedView} {st st' : MuxState} {h : HeldAudio}

/-! ## Runs without video -/

/-- The non-empty audio packets a run handles, in order. -/
def MuxInput.audioPackets (input : MuxInput) : List EncodedAudioPacket :=
  input.steps.filterMap fun step =>
    match step.2 with
    | .audio payload => if payload.bytes.isEmpty then none else some payload
    | _ => none

/-- No video packet comes and the video epoch stays 0. -/
def NoVideo (input : MuxInput) : Prop :=
  ∀ step ∈ input.steps, step.1.videoEpochQpc100ns = 0 ∧
    match step.2 with
    | .video payload => payload.bytes.isEmpty = true
    | _ => True

/-- The packet `push_audio` hands to the writer for an un-rebased session PTS. -/
def MuxEnv.unrebased (env : MuxEnv) (payload : EncodedAudioPacket) : MuxPacket where
  ptsNs := payload.ptsNs + env.audioCodecDelayNs payload.trackId
  trackNum := (2 + payload.trackId).toUInt64
  isKey := true
  bytes := payload.bytes

/-- The last segment holds every buffered packet, un-rebased and in arrival order, and none was
    counted as trimmed. -/
def Salvaged (env : MuxEnv) (input : MuxInput) (st : MuxState) : Prop :=
  (st.completed.getLast?.elim [] CompletedSegment.pushes).map WriterPush.packet =
      (input.audioPackets.filter fun p => env.inRange p.trackId).map env.unrebased ∧
    st.trimmedAudioPackets = 0

/-- Nothing is pushed while no segment has an epoch. -/
structure Unwritten (env : MuxEnv) (st : MuxState) : Prop where
  unresolved : st.epochResolved = false
  unlatched : st.Unlatched
  noEpoch : st.seg.epochSet = false
  pushes : st.seg.pushes = []
  completed : ∀ c ∈ st.completed, c.pushes = []

theorem Unwritten.push (hU : Unwritten env st) (ho : AudioOutcome env view st h st') :
    Unwritten env st' := by
  have hlatch : ∀ f s, Latched env view st h.payload.trackId f s → ∀ t, f t = none := by
    intro f s hf t
    rw [hf.unresolved hU.unresolved]
    exact hU.unlatched hU.unresolved t
  cases ho with
  | abandoned _ => exact ⟨hU.1, hU.2, hU.3, hU.4, hU.5⟩
  | skipped _ => exact ⟨hU.1, hU.2, hU.3, hU.4, hU.5⟩
  | dropped f s hf _ _ => exact ⟨hU.1, fun _ => hlatch f s hf, hU.3, hU.4, hU.5⟩
  | deferred f s q hf _ _ _ => exact ⟨hU.1, fun _ => hlatch f s hf, hU.3, hU.4, hU.5⟩
  | trimmed f s q hf _ _ hset _ =>
      rw [hU.noEpoch] at hset
      cases hset
  | written f s q w maxLocal ends err hf _ _ _ hset _ _ =>
      rw [hU.noEpoch] at hset
      cases hset

theorem Unwritten.finalize (hU : Unwritten env st) (view : SharedView) (sessionEnd : Bool) :
    Unwritten env (finalizeSegment env view sessionEnd st) := by
  cases hw : st.seg.writer with
  | none => rw [finalizeSegment_of_none hw]; exact hU
  | some w =>
      obtain ⟨c, err, hc, heq⟩ := finalizeSegment_of_some env view sessionEnd hw
      rw [heq]
      refine ⟨hU.1, hU.2, hU.3, rfl, fun c' hc' => ?_⟩
      rcases List.mem_append.mp hc' with hc' | hc'
      · exact hU.completed c' hc'
      · rw [List.mem_singleton.mp hc', hc]
        exact hU.pushes

theorem Unwritten.open {index : UInt32} {r : MuxState × Bool} (hU : Unwritten env st)
    (ho : OpenOutcome env st index r) : Unwritten env r.1 := by
  cases ho with
  | noPath _ _ => exact ⟨hU.1, hU.2, hU.3, hU.4, hU.5⟩
  | failed _ _ => exact ⟨hU.1, hU.2, rfl, rfl, hU.5⟩
  | opened _ _ => exact ⟨hU.1, hU.2, rfl, rfl, hU.5⟩

/-- No packet was deferred or counted, and none that waits will be. -/
structure Uncounted (env : MuxEnv) (st : MuxState) : Prop where
  noneDeferred : st.segmentPendingAudio = []
  noneTrimmed : st.trimmedAudioPackets = 0
  pendingOut : ∀ h ∈ st.pendingAudio, env.inRange h.payload.trackId = false

/-- A packet out of range is skipped, or lost with the writer. -/
theorem Uncounted.push (hN : Uncounted env st) (hout : env.inRange h.payload.trackId = false)
    (ho : AudioOutcome env view st h st') : Uncounted env st' := by
  cases ho with
  | abandoned _ => exact ⟨hN.1, hN.2, hN.3⟩
  | skipped _ => exact ⟨hN.1, hN.2, hN.3⟩
  | dropped f s _ hin _ =>
      rw [hout] at hin
      cases hin
  | deferred f s q _ hin _ _ =>
      rw [hout] at hin
      cases hin
  | trimmed f s q _ hin _ _ _ =>
      rw [hout] at hin
      cases hin
  | written f s q w maxLocal ends err _ hin _ _ _ _ _ =>
      rw [hout] at hin
      cases hin

/-- The invariant of a run without video; `AllOut` is the condition that no packet is in
    range. -/
structure AudioOnlyInv (env : MuxEnv) (AllOut : Prop) (st : MuxState) : Prop where
  unwritten : Unwritten env st
  uncounted : AllOut → Uncounted env st

theorem AudioOnlyInv.drainHeld {AllOut : Prop} (l : List HeldAudio) :
    ∀ {st : MuxState}, (AllOut → ∀ h ∈ l, env.inRange h.payload.trackId = false) →
      AudioOnlyInv env AllOut st → AudioOnlyInv env AllOut (drainHeld env view st l).1 := by
  induction l with
  | nil => exact fun _ hJ => hJ
  | cons h l ih =>
      intro st hout hJ
      unfold MuxThread.drainHeld
      split
      · exact hJ
      · have ho := pushAudio_outcome env view st h
        exact ih (fun hall g hg => hout hall g (List.mem_cons_of_mem _ hg))
          ⟨hJ.unwritten.push ho, fun hall => (hJ.uncounted hall).push (hout hall h (by simp)) ho⟩

theorem AudioOnlyInv.finalize {AllOut : Prop} (hJ : AudioOnlyInv env AllOut st)
    (view : SharedView) (sessionEnd : Bool) :
    AudioOnlyInv env AllOut (finalizeSegment env view sessionEnd st) := by
  refine ⟨hJ.unwritten.finalize view sessionEnd, fun hall => ?_⟩
  have hN := hJ.uncounted hall
  unfold finalizeSegment
  split <;> exact ⟨hN.1, hN.2, hN.3⟩

/-- With no epoch both drains of a split are no-ops. -/
theorem AudioOnlyInv.beginNewSegment {AllOut : Prop} (hJ : AudioOnlyInv env AllOut st)
    (view : SharedView) (s : SplitSentinel) :
    AudioOnlyInv env AllOut (beginNewSegment env view st s) := by
  have hpending : drainPendingAudio env view st = st := by
    unfold drainPendingAudio
    rw [if_pos (by simp [hJ.unwritten.unresolved])]
  have hsegment : drainSegmentPendingAudio env view st = st := by
    unfold drainSegmentPendingAudio
    rw [if_pos (by simp [hJ.unwritten.noEpoch])]
  have hfin := hJ.finalize view false
  unfold MuxThread.beginNewSegment
  dsimp only
  split
  · exact hJ
  · rw [hpending, hsegment]
    split
    · exact hfin
    · have ho := openSegment_outcome env (finalizeSegment env view false st) s.newSegmentIndex
      generalize
        openSegment env (finalizeSegment env view false st) s.newSegmentIndex 0 false = r at ho
      refine ⟨hfin.unwritten.open ho, fun hall => ?_⟩
      have hN := hfin.uncounted hall
      cases ho <;> exact ⟨hN.1, hN.2, hN.3⟩

/-- While the epoch atomic reads 0, a packet joins the session hold. -/
theorem AudioOnlyInv.audio {AllOut : Prop} {view : SharedView} {payload : EncodedAudioPacket}
    (hJ : AudioOnlyInv env AllOut st) (hview : view.videoEpochQpc100ns = 0)
    (hout : AllOut → payload.bytes.isEmpty = false → env.inRange payload.trackId = false) :
    AudioOnlyInv env AllOut (handle env st (view, .audio payload)) := by
  have hU := hJ.unwritten
  have hoff : ¬ st.epochResolved = true := by simp [hU.unresolved]
  unfold MuxThread.handle
  dsimp only
  split
  · exact hJ
  · rename_i hb
    have hres : resolveEpoch view { st with arrivals := st.arrivals ++ [st.arrival payload] } =
        { st with arrivals := st.arrivals ++ [st.arrival payload] } := by
      unfold resolveEpoch
      rw [if_neg hoff, if_pos hview]
    have heq : (⟨st.arrivals.length, payload⟩ : AudioArrival) = st.arrival payload := rfl
    rw [heq, hres, if_neg hoff]
    refine ⟨⟨hU.1, hU.2, hU.3, hU.4, hU.5⟩, fun hall => ?_⟩
    have hN := hJ.uncounted hall
    refine ⟨hN.1, hN.2, fun g hg => ?_⟩
    rcases List.mem_append.mp hg with hg | hg
    · exact hN.pendingOut g hg
    · rw [List.mem_singleton.mp hg]
      exact hout hall (by simpa using hb)

theorem AudioOnlyInv.handle {AllOut : Prop} {step : SharedView × MuxItem}
    (hstep : step.1.videoEpochQpc100ns = 0 ∧
      match step.2 with
      | .video payload => payload.bytes.isEmpty = true
      | _ => True)
    (hout : AllOut → ∀ payload, step.2 = .audio payload → payload.bytes.isEmpty = false →
      env.inRange payload.trackId = false)
    (hJ : AudioOnlyInv env AllOut st) : AudioOnlyInv env AllOut (handle env st step) := by
  obtain ⟨view, item⟩ := step
  have hU := hJ.unwritten
  cases item with
  | video payload =>
      unfold MuxThread.handle
      dsimp only
      rw [if_pos hstep.2]
      exact hJ
  | audio payload => exact hJ.audio hstep.1 fun hall => hout hall payload rfl
  | split s =>
      unfold MuxThread.handle
      dsimp only
      exact hJ.beginNewSegment view s
  | videoEos =>
      exact ⟨⟨hU.1, hU.2, hU.3, hU.4, hU.5⟩, fun hall =>
        have hN := hJ.uncounted hall
        ⟨hN.1, hN.2, hN.3⟩⟩
  | audioEos track =>
      unfold MuxThread.handle
      dsimp only
      split
      · exact ⟨⟨hU.1, hU.2, hU.3, hU.4, hU.5⟩, fun hall =>
          have hN := hJ.uncounted hall
          ⟨hN.1, hN.2, hN.3⟩⟩
      · exact hJ

theorem AudioOnlyInv.run {AllOut : Prop} {steps : List (SharedView × MuxItem)}
    (hsteps : ∀ step ∈ steps, step.1.videoEpochQpc100ns = 0 ∧
      match step.2 with
      | .video payload => payload.bytes.isEmpty = true
      | _ => True)
    (hout : AllOut → ∀ step ∈ steps, ∀ payload, step.2 = .audio payload →
      payload.bytes.isEmpty = false → env.inRange payload.trackId = false) :
    ∀ {st : MuxState}, AudioOnlyInv env AllOut st →
      AudioOnlyInv env AllOut (steps.foldl (MuxThread.handle env) st) := by
  induction steps with
  | nil => exact fun hJ => hJ
  | cons step steps ih =>
      intro st hJ
      exact ih (fun s hs => hsteps s (List.mem_cons_of_mem _ hs))
        (fun hall s hs => hout hall s (List.mem_cons_of_mem _ hs))
        (hJ.handle (hsteps step (by simp)) fun hall => hout hall step (by simp))

/-- The last flush defers whatever it pushes. -/
theorem AudioOnlyInv.finish {AllOut : Prop} (hJ : AudioOnlyInv env AllOut st) :
    (∀ c ∈ (finish env view st).completed, c.pushes = []) ∧
      (AllOut → (finish env view st).trimmedAudioPackets = 0) := by
  have hU := hJ.unwritten
  have hloop : AudioOnlyInv env AllOut
      (MuxThread.drainHeld env view { st with pendingAudio := [] } st.pendingAudio).1 :=
    AudioOnlyInv.drainHeld st.pendingAudio (fun hall => (hJ.uncounted hall).pendingOut)
      ⟨⟨hU.1, hU.2, hU.3, hU.4, hU.5⟩, fun hall =>
        ⟨(hJ.uncounted hall).1, (hJ.uncounted hall).2, by simp⟩⟩
  have hplace : placeTail env view st = drainPendingLoop env view st := by
    unfold placeTail drainSegmentPendingAudio
    rw [if_pos (show (!st.epochResolved) = true by simp [hU.unresolved])]
    exact if_pos (by
      rw [show (drainPendingLoop env view st).seg.epochSet = false from hloop.unwritten.noEpoch]
      rfl)
  have hflush : Unwritten env (flushTail env view st) := by
    rw [flushTail_eq, hplace]
    have h := hloop.unwritten
    exact ⟨h.1, h.2, h.3, h.4, h.5⟩
  obtain ⟨failure, heq⟩ := finish_eq env view st
  rw [heq]
  refine ⟨(hflush.finalize view true).completed, fun hall => ?_⟩
  have hzero : (flushTail env view st).trimmedAudioPackets = 0 := by
    have hN := hloop.uncounted hall
    rw [flushTail_eq, hplace]
    show (MuxThread.drainHeld env view { st with pendingAudio := [] }
        st.pendingAudio).1.trimmedAudioPackets +
      (MuxThread.drainHeld env view { st with pendingAudio := [] }
        st.pendingAudio).1.segmentPendingAudio.length = 0
    rw [hN.noneTrimmed, hN.noneDeferred]
    rfl
  show (finalizeSegment env view true (flushTail env view st)).trimmedAudioPackets = 0
  unfold finalizeSegment
  split <;> exact hzero

theorem mem_audioPackets {input : MuxInput} {step : SharedView × MuxItem}
    (hmem : step ∈ input.steps)
    {payload : EncodedAudioPacket} (hitem : step.2 = .audio payload)
    (hb : payload.bytes.isEmpty = false) : payload ∈ input.audioPackets := by
  unfold MuxInput.audioPackets
  refine List.mem_filterMap.mpr ⟨step, hmem, ?_⟩
  rw [hitem]
  simp [hb]

/-- Without video the flush at the end saves the buffered audio exactly when there is none to
    save: a packet in range is deferred again, for want of a segment epoch, and trimmed. -/
theorem audioOnly_salvaged_iff {env : MuxEnv} {input : MuxInput} (hno : NoVideo input) :
    Salvaged env input (run env input) ↔
      ∀ p ∈ input.audioPackets, env.inRange p.trackId = false := by
  have hrun : (∀ c ∈ (run env input).completed, c.pushes = []) ∧
      ((∀ p ∈ input.audioPackets, env.inRange p.trackId = false) →
        (run env input).trimmedAudioPackets = 0) := by
    rcases run_cases env input with ⟨w, -, hstart, hrun⟩ | ⟨failure, hrun⟩
    · rw [hrun]
      refine AudioOnlyInv.finish (AudioOnlyInv.run hno
        (fun hall step hs payload hitem hb => hall payload (mem_audioPackets hs hitem hb)) ?_)
      rw [hstart]
      exact ⟨⟨rfl, fun _ _ => rfl, rfl, rfl, by simp⟩, fun _ => ⟨rfl, rfl, by simp⟩⟩
    · rw [hrun]
      simp
  have hlast : (run env input).completed.getLast?.elim [] CompletedSegment.pushes = [] := by
    cases hc : (run env input).completed.getLast? with
    | none => rfl
    | some c => exact hrun.1 c (List.mem_of_getLast? hc)
  unfold Salvaged
  rw [hlast]
  constructor
  · rintro ⟨hempty, -⟩ p hp
    have hnil : (input.audioPackets.filter fun p => env.inRange p.trackId) = [] :=
      List.map_eq_nil_iff.mp hempty.symm
    simpa using List.filter_eq_nil_iff.mp hnil p hp
  · intro hall
    have hnil : (input.audioPackets.filter fun p => env.inRange p.trackId) = [] :=
      List.filter_eq_nil_iff.mpr fun p hp => by simp [hall p hp]
    rw [hnil]
    exact ⟨rfl, hrun.2 hall⟩

/-- One audio packet, and no video at all. -/
def audioOnly : MuxInput where
  videoPremux := []
  audioPremux := []
  queue := [(⟨0, fun _ => 0, 0, 0⟩, .audio ⟨[1], 1000000, 0⟩)]
  tail := ⟨0, fun _ => 0, 0, 0⟩

theorem noVideo_audioOnly : NoVideo audioOnly := by
  intro step hs
  rw [List.mem_singleton.mp hs]
  exact ⟨rfl, trivial⟩

theorem audioOnly_salvaged_iff_audioOnly :
    Salvaged twoTracks audioOnly (run twoTracks audioOnly) ↔
      ∀ p ∈ audioOnly.audioPackets, twoTracks.inRange p.trackId = false :=
  audioOnly_salvaged_iff noVideo_audioOnly

/-- The packet is counted as trimmed, and the file is empty. -/
theorem audioOnly_trimmed :
    NoVideo audioOnly ∧ (run twoTracks audioOnly).writeError = false ∧
      (run twoTracks audioOnly).trimmedAudioPackets = 1 ∧
      ¬ Salvaged twoTracks audioOnly (run twoTracks audioOnly) :=
  ⟨noVideo_audioOnly, by decide, by decide, fun h => absurd h.2 (by decide)⟩

end Exosnap.Engine.MuxThread
