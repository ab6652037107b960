/-
  The stored state settles once the threads are done, and the next start is admitted, in every run
  in which `StopRecording`, `PauseRecording` and `ResumeRecording` post their state while
  `is_recording_` is still set. A post that comes after the thread has cleared the flag may come
  after its last state too, and then it stays.
-/
import Exosnap.Recording.CoordinatorRuns

namespace Exosnap.Recording

/-- The stores of `PostStateChange` in the calls that act on a recording. -/
def UiStep.posts : UiStep → Bool
  | .stopPost | .pausePost | .resumePost => true
  | _ => false

def Action.isUi : Action → Bool
  | .ui => true
  | _ => false

namespace Coordinator

/-- A state that a call posts is posted while the recording lasts. -/
def PostsInTime (s : Coordinator) (a : Action) : Prop :=
  a.isUi && s.ui.posts → s.isRecording

instance (s : Coordinator) (a : Action) : Decidable (PostsInTime s a) := by
  unfold PostsInTime; infer_instance

/-- No worker is preparing, recording or remuxing. -/
def Idle (s : Coordinator) : Prop := s.Over ∧ s.prepareInFlight = false

/-- `StartRecording`, called now, starts a thread. -/
def Admits (s : Coordinator) (ctx : PrepareContext) : Prop :=
  ∃ s', s.exec (.call (.startRecording ctx) :: List.replicate 7 .ui) = some s' ∧
    s'.recordingThread = some { request := s.nextRequest, ctx := ctx }

/-- Threads that have posted their last state leave one that is not busy. -/
structure Settling (s : Coordinator) : Prop where
  settled : (∀ w ∈ s.recordingThread, w.stage.leaving = true) → s.remuxThread = none →
    s.ui.spawns = false → s.state.busy = false ∧ (s.admitted ≠ [] → s.state.startable = true)
  alive : s.terminated = true → s.recordingThread.any (·.stage.preparing) = true

theorem busy_of_startable {state : UiRecordingState} (h : state.startable = true) :
    state.busy = false := by
  cases state <;> first | rfl | exact nomatch h

/-! ## Steps -/

section
variable (s : Coordinator) (w : Worker) (answer : Bool)

theorem effect_leaving (h : ∀ stage ∈ w.next s answer, stage.leaving = true)
    (hremux : (s.effect w answer).remuxThread = none) :
    w.stage.leaving = true ∧ (s.effect w answer).state = s.state ∨
      (s.effect w answer).state.startable = true := by
  obtain ⟨request, ctx, stage, webcam, created⟩ := w
  cases stage with
  | failResult | failRelease | dropPartial => exact .inl ⟨rfl, rfl⟩
  | failState | unwindReady => exact .inr rfl
  | postTerminal completed => cases completed <;> exact .inr rfl
  | startRemux => cases hremux
  | check c => cases c <;> cases answer <;> exact absurd (h _ rfl) (by simp [Check.next, Stage.leaving])
  | checkpoint c =>
    have := h _ rfl
    split at this
    · cases this
    · cases c <;> cases this
  | coreConfig | recheck | buildResult | postSaving | drain =>
    have := h _ rfl
    split at this <;> cases this
  | _ => exact absurd (h _ rfl) (by simp [Stage.leaving])

/-- Only a stage that stays where it is leaves an exception. -/
theorem effect_terminated (h : s.terminated = false)
    (ht : (s.effect w answer).terminated = true) :
    (w.next s answer).any Stage.preparing = true := by
  obtain ⟨request, ctx, stage, webcam, created⟩ := w
  cases stage with
  | check c => cases c <;> simp_all [effect]
  | coreConfig | failResult =>
    have hrejected : ctx.accepted = false := by simpa [effect] using ht
    simp [Worker.next, hrejected, Stage.preparing]
  | _ => simp_all [effect, postState, postResult, takeEntry, dropPartial]

end

theorem settling_fresh {s : Coordinator} (h : s.Fresh) : s.Settling := by
  obtain ⟨state, hasCaps, hbusy, rfl⟩ := h
  exact ⟨fun _ _ _ => ⟨hbusy, fun hne => absurd rfl hne⟩, nofun⟩

/-- A step of the UI thread that leaves the threads alone, and the state or posts one in time. -/
theorem Settling.uiStep {s s' : Coordinator} (h : s.Settling) (hbase : s.Base)
    (hlive : s.terminated = false) (hthread : s'.recordingThread = s.recordingThread)
    (hremux : s'.remuxThread = s.remuxThread) (hadmitted : s'.admitted = s.admitted)
    (hterminated : s'.terminated = s.terminated)
    (hspawns : s'.ui.spawns = false → s.ui.spawns = false)
    (hstate : s'.ui.spawns = false → s'.state = s.state ∨ s.isRecording = true) : s'.Settling where
  settled := by
    rw [hthread, hremux, hadmitted]
    intro hleaving hnone hsp
    rcases hstate hsp with heq | hrecording
    · rw [heq]
      exact h.settled hleaving hnone (hspawns hsp)
    · rw [hbase.recording, Option.any_eq_true] at hrecording
      obtain ⟨w, hw, hstage⟩ := hrecording
      have hl := hleaving w hw
      cases hst : w.stage <;> simp [hst, Stage.recording, Stage.leaving] at hstage hl
  alive := by
    rw [hterminated, hlive]
    intros; contradiction

theorem settling_ui {s s' : Coordinator} (h : s.Settling) (hbase : s.Base)
    (hlive : s.terminated = false) (hG : PostsInTime s .ui) (hs : s.uiStep = some s') :
    s'.Settling := by
  have plain {s' : Coordinator} := @Settling.uiStep s s' h hbase hlive
  unfold uiStep at hs
  unfold PostsInTime at hG
  cases hui : s.ui <;> rw [hui] at hs hG <;> dsimp only at hs
  case idle => cases hs
  case startJoin =>
    split_ifs at hs
    obtain rfl := Option.some.inj hs
    exact plain rfl rfl rfl rfl (fun _ => by rw [hui]; rfl) fun _ => .inl rfl
  case startSpawn ctx =>
    obtain rfl := Option.some.inj hs
    exact ⟨fun hleaving => absurd (hleaving _ rfl) nofun, fun ht => by simp [startStep, hlive] at ht⟩
  case startPost ctx =>
    obtain rfl := Option.some.inj hs
    exact plain rfl rfl rfl rfl nofun nofun
  case stopPost | pausePost | resumePost =>
    obtain rfl := Option.some.inj hs
    exact plain rfl rfl rfl rfl (fun _ => by rw [hui]; rfl) fun _ => .inr (hG rfl)
  all_goals
    obtain rfl := Option.some.inj hs
    simp only [startStep, stopStep, cancelStep, pauseStep, resumeStep, diskStep]
    first
    | exact plain rfl rfl rfl rfl (fun _ => by rw [hui]; rfl) fun _ => .inl rfl
    | split <;> exact plain rfl rfl rfl rfl (fun _ => by rw [hui]; rfl) fun _ => .inl rfl

theorem settling_worker {s : Coordinator} {w : Worker} (h : s.Settling) (hbase : s.Base)
    (hlive : s.terminated = false) (hw : s.recordingThread = some w) (answer : Bool) :
    Settling { s.effect w answer with
      recordingThread := (w.next s answer).map fun stage =>
        { w.keep answer with stage := stage } } where
  settled := by
    intro hleaving hremux hsp
    have hleaving : ∀ stage ∈ w.next s answer, stage.leaving = true := by simpa using hleaving
    rcases effect_leaving s w answer hleaving hremux with ⟨hl, heq⟩ | hstart
    · have hnone : s.remuxThread = none := by
        by_contra hne
        exact absurd (hbase.remux hne) (by simp [hw])
      have := h.settled (fun w' hw' => by rw [hw] at hw'; obtain rfl := Option.some.inj hw'; exact hl)
        hnone (by simpa using hsp)
      simpa [heq] using this
    · exact ⟨busy_of_startable hstart, fun _ => hstart⟩
  alive := fun ht => by simpa [Option.any_map] using effect_terminated s w answer hlive ht

theorem settling_step {s s' : Coordinator} {a : Action} (h : s.Settling) (hbase : s.Base)
    (hG : PostsInTime s a) (hs : s.step a = some s') : s'.Settling := by
  unfold step at hs
  split_ifs at hs with hlive
  have hlive : s.terminated = false := by simpa using hlive
  cases a with
  | call c =>
    obtain ⟨hidle, press, rfl⟩ := call_eq hs
    exact h.uiStep hbase hlive rfl rfl rfl rfl (fun _ => by rw [hidle]; rfl) fun _ => .inl rfl
  | ui => exact settling_ui h hbase hlive hG hs
  | worker answer =>
    obtain ⟨w, hw, rfl⟩ := Option.map_eq_some_iff.mp hs
    exact settling_worker h hbase hlive hw answer
  | joining answer =>
    obtain ⟨w, hw, rfl⟩ := Option.map_eq_some_iff.mp hs
    have heffect : s.effect w answer = s.dropPartial w answer := by
      unfold effect; rw [hbase.joining w hw]
    dsimp only [workerStep]
    rw [heffect]
    exact ⟨h.settled, h.alive⟩
  | remux answer =>
    obtain ⟨t, ht, rfl⟩ := Option.map_eq_some_iff.mp hs
    obtain ⟨request, uiSucceeded, stage⟩ := t
    cases stage with
    | postTerminal ok =>
      refine ⟨fun _ _ _ => ?_, h.alive⟩
      have hstart : (terminalOf ok).startable = true := by cases ok <;> rfl
      exact ⟨busy_of_startable hstart, fun _ => hstart⟩
    | _ => exact ⟨fun _ hne => (nomatch hne), h.alive⟩
  | diskSpaceLow =>
    obtain rfl := Option.some.inj hs
    exact ⟨h.settled, h.alive⟩

/-! ## The next start -/

/-- Nothing in the way: `StartRecording` claims the flag, mints an id and starts its thread. -/
theorem admits_of_startable {s : Coordinator} (hlive : s.terminated = false) (hui : s.ui = .idle)
    (hrecording : s.isRecording = false) (hflight : s.prepareInFlight = false)
    (hstate : s.state.startable = true) (hcaps : s.hasCaps = true) (ctx : PrepareContext) :
    s.Admits ctx := by
  refine ⟨{ s with
    state := .preparing
    prepareInFlight := true
    prepareCancelRequested := false
    recordRequest := s.nextRequest
    nextRequest := s.nextRequest + 1
    ui := .startJoin
    recordingThread := some { request := s.nextRequest, ctx := ctx }
    joining := s.recordingThread
    admitted := s.nextRequest :: s.admitted
    press := s.press }, ?_, rfl⟩
  simp [exec, StepRun.exec, step, call, uiStep, startStep, Call.first, goto, List.replicate, hlive,
    hui, hrecording, hflight, hstate, hcaps]

/-- Whatever the calls and the threads do, as long as the calls post their states in time: once no
    worker is preparing, recording or remuxing, the state is one a later start is admitted from. -/
theorem state_settles {s s' : Coordinator} {as : List Action} (h : s.Fresh)
    (hG : StepRun.Meets step PostsInTime s as) (hs : s.exec as = some s') (hidle : s'.Idle) :
    s'.state.busy = false ∧ (s'.admitted ≠ [] → s'.state.startable = true) ∧
      (s'.state.startable = true → s'.hasCaps = true → s'.ui = .idle → ∀ ctx, s'.Admits ctx) := by
  have hinv : s'.Base ∧ s'.Settling :=
    StepRun.exec_invariant (I := fun s => s.Base ∧ s.Settling)
      (fun _ _ _ hI hg hstep => ⟨base_step hI.1 hstep, settling_step hI.2 hI.1 hg hstep⟩)
      ⟨base_fresh h, settling_fresh h⟩ hG hs
  obtain ⟨hbase, hsettling⟩ := hinv
  obtain ⟨⟨hover, hremux⟩, hflight⟩ := hidle
  have hthread : s'.recordingThread.any (·.stage.preparing) = false ∧ s'.ui.claiming = false := by
    simpa [hflight] using hbase.inFlight.symm
  have hspawns : s'.ui.spawns = false := by
    cases hui : s'.ui <;> first | rfl | (rw [hui] at hthread; exact nomatch hthread.2)
  obtain ⟨hbusy, hstart⟩ :=
    hsettling.settled (fun w hw => by rw [hover w hw]; rfl) hremux hspawns
  refine ⟨hbusy, hstart, fun hstate hcaps hui ctx => ?_⟩
  have hrecording : s'.isRecording = false := by
    rw [hbase.recording, Option.any_eq_false]
    exact fun w hw => by rw [hover w hw]; simp [Stage.recording]
  have hlive : s'.terminated = false := by
    by_contra hterm
    exact absurd (hsettling.alive (by simpa using hterm)) (by simp [hthread.1])
  exact admits_of_startable hlive hui hrecording hflight hstate hcaps ctx

/-- What a run ends in, as far as it is seen here. -/
def endsIn (as : List Action) (state : UiRecordingState) : Bool :=
  (exec {} as).any fun s =>
    s.recordingThread.isNone && s.remuxThread.isNone && !s.prepareInFlight && s.state == state

theorem exists_of_endsIn (as : List Action) (state : UiRecordingState) (h : endsIn as state = true) :
    ∃ s : Coordinator, exec {} as = some s ∧ s.Idle ∧ s.state = state := by
  obtain ⟨s, hs, hview⟩ := (Option.any_eq_true _ _).mp h
  simp only [Bool.and_eq_true, Option.isNone_iff_eq_none, Bool.not_eq_true', beq_iff_eq] at hview
  obtain ⟨⟨⟨hthread, hremux⟩, hflight⟩, hstate⟩ := hview
  exact ⟨s, hs, ⟨⟨by simp [hthread], hremux⟩, hflight⟩, hstate⟩

/-- A recording that is stopped and published. -/
theorem state_settles_stopped :
    ∃ s, exec {} (startActions (sampleContext .matroska) ++ recordActions ++
        .call .stopRecording :: List.replicate 4 .ui ++ List.replicate 8 (.worker true)) = some s ∧
      s.state.busy = false ∧ (s.admitted ≠ [] → s.state.startable = true) ∧
      (s.state.startable = true → s.hasCaps = true → s.ui = .idle → ∀ ctx, s.Admits ctx) := by
  obtain ⟨s, hs, hidle, -⟩ := exists_of_endsIn (startActions (sampleContext .matroska) ++
    recordActions ++ .call .stopRecording :: List.replicate 4 .ui ++ List.replicate 8 (.worker true))
    .completed (by decide)
  exact ⟨s, hs, state_settles ⟨.ready, true, rfl, rfl⟩ (by decide) hs hidle⟩

/-- `Record()` returns on its own between the test in `StopRecording` and the post: `Stopping` comes
    after `Completed`, and the next start is refused. -/
theorem stopping_after_completed :
    ¬ ∀ (s s' : Coordinator) (as : List Action), s.Fresh → s.exec as = some s' → s'.Idle →
      s'.state.busy = false := by
  intro h
  obtain ⟨s, hs, hidle, hstate⟩ := exists_of_endsIn (startActions (sampleContext .matroska) ++
    recordActions ++ .call .stopRecording :: .ui :: .ui :: List.replicate 8 (.worker true) ++
    [.ui, .ui]) .stopping (by decide)
  have hbusy := h {} s _ ⟨.ready, true, rfl, rfl⟩ hs hidle
  rw [hstate] at hbusy
  exact nomatch hbusy

end Coordinator

end Exosnap.Recording
