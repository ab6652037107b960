/-
  A reused session state against one constructed for the recording. `ResetForNewRecording` says
  of itself that the object then starts indistinguishable from a fresh one. Two members satisfy
  none of its three rules: `measured_max_cll_nits` and `measured_max_fall_nits` keep what an
  earlier recording measured, and the mux thread writes them into the header of every HDR file
  it finalizes.

  `reuse_is_clean_iff`: the next recording is independent of every history if and only if the
  state object holds no light level. A history is any sequence of stores of any values and of
  further recordings; a worker of the next recording is any function from what it reads to a
  store.
-/
import Exosnap.Lib.StepRun
import Exosnap.Engine.SessionReset
import Exosnap.Engine.SessionStop

namespace Exosnap.Engine.SessionReset

section
variable {H : Host}

/-! ## What is read -/

/-- With the members that a snapshot does not read at their initial values: the two times behind
    their flags, and the percentile that `BuildSnapshot` computes before it uses it. -/
def Aggregator.asRead (d : Aggregator H) : Aggregator H :=
  { d with
    lastOutputTime := if d.haveOutputTime then d.lastOutputTime else 0
    lastProgressTime := if d.haveProgressTime then d.lastProgressTime else 0
    gpuExecP99 := 0 }

/-- What the workers and the final report read. The overlay sequence only numbers the
    acknowledgements of live updates. -/
def SessionState.asRead (st : SessionState H) : SessionState H :=
  { st with diagnostics := st.diagnostics.asRead, webcamOverlaySequence := 0 }

/-- The stores of a recording, each computed from what its thread reads. -/
def SessionState.work (st : SessionState H) (program : List (SessionState H → Store H)) :
    SessionState H :=
  program.foldl (fun st next => st.store (next st.asRead)) st

/-! ## What every use leaves -/

/-- A state object keeps what only its construction sets. -/
structure Constructed (seams : Seams H) (st : SessionState H) : Prop where
  seams : st.seams = seams
  thresholds : st.diagnostics.thresholds = H.defaultThresholds
  stopEvent : st.stopEvent = true → st.seams.hasStopEvent = true

variable {seams : Seams H} {st st' : SessionState H}

theorem Constructed.fresh (seams : Seams H) : Constructed seams (.fresh seams) :=
  ⟨rfl, rfl, nofun⟩

theorem Constructed.store (h : Constructed seams st) (w : Store H) :
    Constructed seams (st.store w) := by
  obtain ⟨hseams, hthresholds, hevent⟩ := h
  cases w with
  | stopEvent =>
      refine ⟨hseams, hthresholds, fun he => ?_⟩
      rcases Bool.or_eq_true_iff.mp he with h | h
      · exact h
      · exact hevent h
  | failure value =>
      unfold SessionState.store
      dsimp only
      split
      · exact ⟨hseams, hthresholds, hevent⟩
      · exact ⟨hseams, hthresholds, hevent⟩
  | diagnostics d =>
      refine ⟨hseams, ?_, hevent⟩
      cases d <;> exact hthresholds
  | _ => exact ⟨hseams, hthresholds, hevent⟩

theorem Constructed.takeOver (h : Constructed seams st) (call : RecordCall H) :
    Constructed seams (st.takeOver call) := by
  refine ⟨h.seams, h.thresholds, fun he => ?_⟩
  change st.seams.hasStopEvent = true
  change (if st.seams.hasStopEvent then call.preStop else st.stopEvent) = true at he
  cases hs : st.seams.hasStopEvent with
  | true => rfl
  | false =>
      rw [hs, if_neg Bool.false_ne_true] at he
      exact hs ▸ h.stopEvent he

theorem Constructed.apply (h : Constructed seams st) (e : SessionEvent H) :
    Constructed seams (st.apply e) := by
  cases e with
  | store w => exact h.store w
  | record call => exact h.takeOver call

theorem after_constructed (seams : Seams H) (history : List (SessionEvent H)) :
    Constructed seams (.after seams history) :=
  StepRun.foldl_invariant (fun _ e h => h.apply e) history (.fresh seams)

/-! ## The reset against a fresh object -/

/-- Two objects that are taken over by the same call read the same, up to the light levels that
    the previous recordings measured. -/
theorem Constructed.takeOver_asRead (h : Constructed seams st) (call : RecordCall H) :
    (st.takeOver call).asRead =
      { (SessionState.takeOver (.fresh seams) call).asRead with
        measuredMaxCllNits := st.measuredMaxCllNits
        measuredMaxFallNits := st.measuredMaxFallNits } := by
  obtain ⟨rfl, hthresholds, hevent⟩ := h
  have hdiag : ∀ generation cfg, (st.diagnostics.reset generation cfg).asRead =
      (Aggregator.reset {} generation cfg).asRead := by
    intro generation cfg
    unfold Aggregator.reset Aggregator.asRead
    rw [hthresholds]
    rfl
  have hstop : (if st.seams.hasStopEvent then call.preStop else st.stopEvent) =
      if st.seams.hasStopEvent then call.preStop else false := by
    cases hs : st.seams.hasStopEvent with
    | true => rfl
    | false =>
        cases he : st.stopEvent with
        | false => rfl
        | true => exact absurd (hevent he) (by rw [hs]; exact Bool.false_ne_true)
  simp only [SessionState.takeOver, SessionState.asRead, SessionState.resetForNewRecording,
    SessionState.resetStopRequestedForNewSession, SessionState.seedWebcamOverlayFromConfig,
    SessionState.fresh, hdiag]
  congr 1

theorem takeOver_clean_iff (h : Constructed seams st) (call : RecordCall H) :
    (st.takeOver call).asRead = (SessionState.takeOver (.fresh seams) call).asRead ↔
      st.measuredMaxCllNits = 0 ∧ st.measuredMaxFallNits = 0 := by
  constructor
  · intro heq
    exact ⟨congrArg SessionState.measuredMaxCllNits heq,
      congrArg SessionState.measuredMaxFallNits heq⟩
  · rintro ⟨hcll, hfall⟩
    rw [h.takeOver_asRead call, hcll, hfall]
    rfl

/-! ## The next recording -/

theorem Aggregator.asRead_asRead (d : Aggregator H) : d.asRead.asRead = d.asRead := by
  obtain ⟨thresholds, cfg, generation, counters, haveOutput, output, haveProgress, progress,
    p99⟩ := d
  cases haveOutput <;> cases haveProgress <;> rfl

theorem Aggregator.store_asRead (d : Aggregator H) (w : DiagnosticsStore H) :
    (d.store w).asRead = (d.asRead.store w).asRead := by
  obtain ⟨thresholds, cfg, generation, counters, haveOutput, output, haveProgress, progress,
    p99⟩ := d
  cases w <;> cases haveOutput <;> cases haveProgress <;> rfl

/-- A store leaves the unread members out of what is read. -/
theorem SessionState.store_asRead (st : SessionState H) (w : Store H) :
    (st.store w).asRead = (st.asRead.store w).asRead := by
  cases w with
  | diagnostics d =>
      unfold SessionState.store SessionState.asRead
      dsimp only
      rw [st.diagnostics.store_asRead d]
  | failure value =>
      unfold SessionState.store SessionState.asRead
      dsimp only
      split
      · rw [Aggregator.asRead_asRead]
      · rw [Aggregator.asRead_asRead]
  | _ =>
      unfold SessionState.store SessionState.asRead
      dsimp only
      rw [Aggregator.asRead_asRead]

/-- States that read the same are worked on alike. -/
theorem SessionState.work_asRead (program : List (SessionState H → Store H))
    (h : st.asRead = st'.asRead) : (st.work program).asRead = (st'.work program).asRead := by
  refine StepRun.foldl_view (fun s t next h => ?_) program h
  rw [s.store_asRead, t.store_asRead, h]

/-- The next recording, in all that its workers, its report and its files can tell, is the one
    that a state object constructed for it would have had. -/
def CleanReuse (st : SessionState H) (call : RecordCall H) : Prop :=
  (st.takeOver call).asRead = (SessionState.takeOver (.fresh st.seams) call).asRead ∧
    ∀ program,
      ((st.takeOver call).work program).asRead =
        ((SessionState.takeOver (.fresh st.seams) call).work program).asRead ∧
      ((st.takeOver call).work program).contentLightLevels =
        ((SessionState.takeOver (.fresh st.seams) call).work program).contentLightLevels

theorem SessionState.contentLightLevels_asRead (st : SessionState H) :
    st.asRead.contentLightLevels = st.contentLightLevels := rfl

/-- After every history, reuse is clean if and only if the state object holds no light level. -/
theorem reuse_is_clean_iff (seams : Seams H) (history : List (SessionEvent H))
    (call : RecordCall H) :
    CleanReuse (.after seams history) call ↔
      (SessionState.after seams history).measuredMaxCllNits = 0 ∧
        (SessionState.after seams history).measuredMaxFallNits = 0 := by
  have hst := after_constructed seams history
  have hiff := takeOver_clean_iff hst call
  unfold CleanReuse
  rw [hst.seams]
  constructor
  · exact fun h => hiff.mp h.1
  · intro h
    have heq := hiff.mpr h
    refine ⟨heq, fun program => ?_⟩
    have hwork := SessionState.work_asRead program heq
    refine ⟨hwork, ?_⟩
    rw [← SessionState.contentLightLevels_asRead, hwork,
      SessionState.contentLightLevels_asRead]

/-! ## The stop members -/

/-- What the session machine of stops keeps of a state. -/
def SessionState.stopMembers (st : SessionState H) : SessionStop.SessionState where
  stopRequested := st.stopRequested
  callerStopRequested := st.callerStopRequested
  captureEnded := decide (st.captureEndNs ≠ 0)
  stopEvent := st.stopEvent
  pauseRequested := st.pauseRequested

/-- The store of a live call, made at the instant `now`. -/
def liveStore (now : Int) : SessionStop.LiveStore → Store H
  | .pauseRequested value => .pauseRequested value
  | .callerStopRequested => .callerStopRequested
  | .captureEnded => .captureEnded now
  | .stopRequested => .stopRequested
  | .stopEvent => .stopEvent

theorem liveStore_stopMembers {now : Int} (hevent : st.seams.hasStopEvent = true)
    (hnow : now ≠ 0) (w : SessionStop.LiveStore) :
    (st.store (liveStore now w)).stopMembers = st.stopMembers.store w := by
  cases w with
  | captureEnded =>
      have hended : (if st.captureEndNs = 0 then now else st.captureEndNs) ≠ 0 := by
        split
        · exact hnow
        · assumption
      simp only [liveStore, SessionState.store, SessionState.stopMembers,
        SessionStop.SessionState.store, SessionStop.SessionState.noteCaptureEnded]
      congr 1
      exact decide_eq_true hended
  | stopEvent =>
      simp only [liveStore, SessionState.store, SessionState.stopMembers, hevent, Bool.true_or,
        SessionStop.SessionState.store, SessionStop.SessionState.signalStopEvent]
  | pauseRequested value => rfl
  | callerStopRequested => rfl
  | stopRequested => rfl

theorem takeOver_stopMembers (hevent : st.seams.hasStopEvent = true) (call : RecordCall H)
    (noted : RecordRequestId) :
    (st.takeOver call).stopMembers =
      { st.stopMembers.resetForNewRecording.resetStopRequestedForNewSession call.preStop noted with
        appliedStops := [] } := by
  have hstop : (if st.seams.hasStopEvent then call.preStop else st.stopEvent) = call.preStop :=
    if_pos hevent
  simp only [SessionState.takeOver, SessionState.stopMembers, SessionState.resetForNewRecording,
    SessionState.resetStopRequestedForNewSession, SessionState.seedWebcamOverlayFromConfig,
    SessionStop.SessionState.resetForNewRecording,
    SessionStop.SessionState.resetStopRequestedForNewSession]
  congr 1

/-! ## What a file inherits -/

/-- A store of a measured light level. -/
def Store.measures : Store H → Bool
  | .measuredMaxCllNits _ | .measuredMaxFallNits _ => true
  | _ => false

theorem SessionState.store_levels (st : SessionState H) {w : Store H} (h : w.measures = false) :
    (st.store w).measuredMaxCllNits = st.measuredMaxCllNits ∧
      (st.store w).measuredMaxFallNits = st.measuredMaxFallNits ∧
      (st.store w).config = st.config := by
  cases w with
  | measuredMaxCllNits value => cases h
  | measuredMaxFallNits value => cases h
  | failure value =>
      unfold SessionState.store
      dsimp only
      split <;> exact ⟨rfl, rfl, rfl⟩
  | _ => exact ⟨rfl, rfl, rfl⟩

/-- The files of a recording that measures nothing carry what the state object held before. -/
theorem unmeasured_levels_inherited (call : RecordCall H)
    (program : List (SessionState H → Store H))
    (h : ∀ next ∈ program, ∀ st, (next st).measures = false) :
    ((st.takeOver call).work program).contentLightLevels =
      if H.hdr (H.engineConfig call.config) then
        some (clampContentLightLevel st.measuredMaxCllNits,
          clampContentLightLevel st.measuredMaxFallNits)
      else none := by
  suffices hkept : ∀ s : SessionState H, (s.work program).contentLightLevels =
      s.contentLightLevels from hkept _
  induction program with
  | nil => exact fun s => rfl
  | cons next rest ih =>
      intro s
      obtain ⟨hcll, hfall, hconfig⟩ :=
        SessionState.store_levels s (h next List.mem_cons_self s.asRead)
      refine (ih (fun f hf => h f (List.mem_cons_of_mem _ hf)) _).trans ?_
      unfold SessionState.contentLightLevels
      rw [hcll, hfall, hconfig]

end

/-- A host whose recordings are all HDR. -/
def hdrHost : Host where
  Config := Unit
  defaultConfig := ()
  engineConfig := id
  recordAudio _ := false
  audioTracks _ := 0
  hdr _ := true
  Overlay := Unit
  defaultOverlay := ()
  liveOverlayFromConfig _ := ()
  Stats := Unit
  noStats := ()
  Callback := Unit
  EncoderFactory := Unit
  OutputIoFailure := Unit
  StaticConfig := Unit
  defaultStaticConfig := ()
  makeDiagnosticsStaticConfig _ := ()
  Thresholds := Unit
  defaultThresholds := ()
  Counters := Unit
  noCounters := ()

def hdrSeams : Seams hdrHost where
  outputIoFailure := none
  videoEncoderFactory := ()
  muxQueuePacketLimit := 2048
  muxQueueByteLimit := 256 * 1024 * 1024
  muxQueueFullTimeoutMs := 10000
  hasStopEvent := true

/-- An HDR recording that measured 1000 and 400 cd/m². -/
def measuredRun : List (SessionEvent hdrHost) :=
  [.record { config := () }, .store (.measuredMaxCllNits 1000),
    .store (.measuredMaxFallNits 400), .store .stopRequested]

/-- The next HDR recording measures nothing; its file says 1000 and 400, where that of a fresh
    session says that the levels are unknown. -/
theorem light_levels_leak :
    ((SessionState.after hdrSeams measuredRun).takeOver { config := () }).contentLightLevels =
        some (1000, 400) ∧
      ((SessionState.fresh hdrSeams).takeOver { config := () }).contentLightLevels =
        some (0, 0) ∧
      ¬ CleanReuse (.after hdrSeams measuredRun) { config := () } := by
  refine ⟨by decide, by decide, fun h => ?_⟩
  have hlevels := (h.2 []).2
  revert hlevels
  decide

end Exosnap.Engine.SessionReset
