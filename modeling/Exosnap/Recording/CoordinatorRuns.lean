/-
  What holds in every state the coordinator can reach, whatever the two threads and the UI thread
  do: who holds `is_recording_` and `prepare_in_flight_`, and that a start is admitted only when the
  threads of the one before it have nothing left to do but to drop a file.
-/
import Exosnap.Recording.Coordinator

namespace Exosnap.Recording

/-- From the commit to the end of `Record()`, `is_recording_` is the thread's. -/
def Stage.recording : Stage → Bool
  | .recheck | .uncommit | .release | .postRecording | .startDiskMonitor | .record
  | .clearRecording _ => true
  | _ => false

/-- The stages that hold `prepare_in_flight_`. -/
def Stage.preparing : Stage → Bool
  | .check _ | .checkpoint _ | .coreConfig | .webcam | .manifest | .commit | .recheck | .uncommit
  | .release | .failState | .failResult | .failRelease | .unwindCancel | .unwindWebcam
  | .unwindManifest | .unwindRelease => true
  | _ => false

/-- The stages after an early exit has posted `Failed`, and the last one of every exit. -/
def Stage.leaving : Stage → Bool
  | .failResult | .failRelease | .dropPartial => true
  | _ => false

@[simp] theorem Check.next_recording (c : Check) : c.next.recording = false := by cases c <;> rfl

@[simp] theorem Checkpoint.next_recording (c : Checkpoint) : c.next.recording = false := by
  cases c <;> rfl

@[simp] theorem Check.next_preparing (c : Check) : c.next.preparing = true := by cases c <;> rfl

@[simp] theorem Checkpoint.next_preparing (c : Checkpoint) : c.next.preparing = true := by
  cases c <;> rfl

theorem Stage.eq_dropPartial {stage : Stage} (hl : stage.leaving = true)
    (hp : stage.preparing = false) : stage = .dropPartial := by
  cases stage <;> simp_all [Stage.leaving, Stage.preparing]

/-- `StartRecording` holds `prepare_in_flight_`. -/
def UiStep.claiming : UiStep → Bool
  | .startMint _ | .startGate _ | .startReject | .startClearCancel _ | .startPost _
  | .startSpawn _ => true
  | _ => false

/-- `StartRecording` is past its gates. -/
def UiStep.admitting : UiStep → Bool
  | .startClearCancel _ | .startPost _ | .startSpawn _ => true
  | _ => false

def UiStep.spawns : UiStep → Bool
  | .startSpawn _ => true
  | _ => false

theorem UiStep.admitting_of_spawns {step : UiStep} (h : step.spawns = true) :
    step.admitting = true := by
  cases step <;> first | rfl | exact nomatch h

def UiStep.joins : UiStep → Bool
  | .startJoin => true
  | _ => false

namespace Coordinator

/-- No thread is preparing, recording or remuxing. -/
def Over (s : Coordinator) : Prop :=
  (∀ w ∈ s.recordingThread, w.stage = .dropPartial) ∧ s.remuxThread = none

structure Base (s : Coordinator) : Prop where
  recording : s.isRecording = s.recordingThread.any (·.stage.recording)
  inFlight : s.prepareInFlight = (s.recordingThread.any (·.stage.preparing) || s.ui.claiming)
  claiming : s.ui.claiming = true → s.recordingThread.any (·.stage.preparing) = false
  admitting : s.ui.admitting = true → s.Over
  spawning : s.ui.spawns = true → s.state.startable = false
  joining : ∀ w ∈ s.joining, w.stage = .dropPartial
  joins : s.joining ≠ none → s.ui.joins = true
  startable : s.state.startable = true →
    (∀ w ∈ s.recordingThread, w.stage.leaving = true) ∧ s.remuxThread = none
  remux : s.remuxThread ≠ none → s.recordingThread = none

theorem base_fresh {s : Coordinator} (h : s.Fresh) : s.Base := by
  obtain ⟨state, hasCaps, -, rfl⟩ := h
  constructor <;> simp [UiStep.claiming, UiStep.admitting, UiStep.spawns]

theorem call_eq {s s' : Coordinator} {c : Call} (hs : s.call c = some s') :
    s.ui = .idle ∧ ∃ press, s' = { s with ui := c.first, press := press } := by
  unfold call at hs
  split at hs
  · next hidle =>
    split at hs <;> exact ⟨hidle, _, (Option.some.inj hs).symm⟩
  · cases hs

/-- A step of a call that leaves the threads and the two flags alone. -/
theorem Base.uiStep {s s' : Coordinator} (h : s.Base) (hrecording : s'.isRecording = s.isRecording)
    (hflight : s'.prepareInFlight = s.prepareInFlight)
    (hthread : s'.recordingThread = s.recordingThread) (hjoining : s'.joining = s.joining)
    (hremux : s'.remuxThread = s.remuxThread)
    (hstate : s'.state.startable = true → s.state.startable = true)
    (hclaiming : s'.ui.claiming = s.ui.claiming)
    (hadmitting : s'.ui.admitting = true → s.ui.admitting = true)
    (hspawns : s'.ui.spawns = true → s'.state.startable = false)
    (hjoins : s.ui.joins = true → s.joining ≠ none → s'.ui.joins = true) : s'.Base where
  recording := by rw [hrecording, hthread, h.recording]
  inFlight := by rw [hflight, hthread, hclaiming, h.inFlight]
  claiming := by rw [hclaiming, hthread]; exact h.claiming
  admitting := by
    unfold Over
    rw [hthread, hremux]
    exact fun ha => h.admitting (hadmitting ha)
  spawning := hspawns
  joining := by rw [hjoining]; exact h.joining
  joins := by rw [hjoining]; exact fun hne => hjoins (h.joins hne) hne
  startable := by rw [hthread, hremux]; exact fun hst => h.startable (hstate hst)
  remux := by rw [hthread, hremux]; exact h.remux

theorem base_call {s s' : Coordinator} {c : Call} (h : s.Base) (hs : s.call c = some s') :
    s'.Base := by
  obtain ⟨hidle, press, rfl⟩ := call_eq hs
  refine h.uiStep rfl rfl rfl rfl rfl id ?_ ?_ ?_ ?_
  · rw [hidle]; cases c <;> rfl
  · cases c <;> exact fun ha => nomatch ha
  · cases c <;> exact fun ha => nomatch ha
  · rw [hidle]; exact fun hj => nomatch hj

/-! ## What a step of the recording thread does to the flags -/

section
variable (s : Coordinator) (w : Worker) (answer : Bool)

@[simp] theorem effect_ui : (s.effect w answer).ui = s.ui := by
  unfold effect; split <;> rfl

@[simp] theorem effect_joining : (s.effect w answer).joining = s.joining := by
  unfold effect; split <;> rfl

@[simp] theorem effect_thread : (s.effect w answer).recordingThread = s.recordingThread := by
  unfold effect; split <;> rfl

@[simp] theorem effect_admitted : (s.effect w answer).admitted = s.admitted := by
  unfold effect; split <;> rfl

@[simp] theorem effect_nextRequest : (s.effect w answer).nextRequest = s.nextRequest := by
  unfold effect; split <;> rfl

@[simp] theorem effect_recordRequest : (s.effect w answer).recordRequest = s.recordRequest := by
  unfold effect; split <;> rfl

theorem effect_recording (h : s.isRecording = w.stage.recording) :
    (s.effect w answer).isRecording = (w.next s answer).any Stage.recording := by
  obtain ⟨request, ctx, stage, webcam, created⟩ := w
  cases stage with
  | check c => cases c <;> cases answer <;> exact h
  | checkpoint c =>
    simp only [effect, Worker.next, Option.any_some]
    split
    · exact h
    · rw [Checkpoint.next_recording]; exact h
  | recheck | coreConfig | buildResult | postSaving | drain | failResult =>
    simp only [effect, Worker.next, Option.any_some]
    split <;> exact h
  | _ => first | exact h | rfl

theorem effect_inFlight {claiming : Bool} (hc : claiming = true → w.stage.preparing = false)
    (h : s.prepareInFlight = (w.stage.preparing || claiming)) :
    (s.effect w answer).prepareInFlight =
      ((w.next s answer).any Stage.preparing || claiming) := by
  obtain ⟨request, ctx, stage, webcam, created⟩ := w
  have hfree : Stage.preparing stage = true → claiming = false := by
    intro hp
    cases claiming with
    | false => rfl
    | true => exact absurd (hc rfl) (by simp [hp])
  cases stage with
  | check c => cases c <;> cases answer <;> exact h
  | checkpoint c =>
    simp only [effect, Worker.next, Option.any_some]
    split
    · exact h
    · rw [Checkpoint.next_preparing]; exact h
  | release | failRelease | unwindRelease =>
    obtain rfl := hfree rfl
    rfl
  | recheck | coreConfig | buildResult | postSaving | drain | failResult =>
    simp only [effect, Worker.next, Option.any_some]
    split <;> exact h
  | _ => exact h

/-- A state to start from is posted last, or by an early exit before it releases the flag. -/
theorem effect_startable (hs : s.state.startable = true → w.stage.leaving = true)
    (hnew : (s.effect w answer).state.startable = true) :
    (∀ stage ∈ w.next s answer, stage.leaving = true) ∧
      (s.effect w answer).remuxThread = s.remuxThread := by
  obtain ⟨request, ctx, stage, webcam, created⟩ := w
  cases stage with
  | check c => cases c <;> exact absurd (hs hnew) (by simp [Stage.leaving])
  | failState | failRelease | unwindReady =>
    exact ⟨fun stage hst => Option.some.inj hst ▸ rfl, rfl⟩
  | failResult =>
    refine ⟨fun stage hst => ?_, rfl⟩
    simp only [Worker.next, Option.mem_some_iff] at hst
    subst hst
    split <;> rfl
  | postTerminal | dropPartial => exact ⟨fun stage hst => (nomatch hst), rfl⟩
  | postRecording | postSaving => exact nomatch hnew
  | _ => exact absurd (hs hnew) (by simp [Stage.leaving])

theorem next_preparing (h : w.stage.preparing = false) :
    (w.next s answer).any Stage.preparing = false := by
  obtain ⟨request, ctx, stage, webcam, created⟩ := w
  cases stage with
  | buildResult | postSaving | drain =>
    simp only [Worker.next, Option.any_some]
    split <;> rfl
  | _ => first | rfl | exact nomatch h

theorem effect_remux : (s.effect w answer).remuxThread = s.remuxThread ∨ w.next s answer = none := by
  obtain ⟨request, ctx, stage, webcam, created⟩ := w
  cases stage with
  | startRemux => exact .inr rfl
  | check c => cases c <;> exact .inl rfl
  | _ => exact .inl rfl

end

theorem base_worker {s : Coordinator} {w : Worker} (h : s.Base) (hw : s.recordingThread = some w)
    (answer : Bool) :
    Base { s.effect w answer with
      recordingThread := (w.next s answer).map fun stage =>
        { w.keep answer with stage := stage } } := by
  have hremux : s.remuxThread = none := by
    by_contra hne
    exact absurd (h.remux hne) (by simp [hw])
  have hrecording : s.isRecording = w.stage.recording := by simpa [hw] using h.recording
  have hflight : s.prepareInFlight = (w.stage.preparing || s.ui.claiming) := by
    simpa [hw] using h.inFlight
  have hclaiming : s.ui.claiming = true → w.stage.preparing = false := by
    simpa [hw] using h.claiming
  have hstartable : s.state.startable = true → w.stage.leaving = true := by
    intro hst
    exact (h.startable hst).1 w hw
  constructor
  · simpa [Option.any_map] using effect_recording s w answer hrecording
  · simpa [Option.any_map] using effect_inFlight s w answer hclaiming hflight
  · intro hc
    simpa [Option.any_map] using next_preparing s w answer (hclaiming (by simpa using hc))
  · intro ha
    obtain ⟨hdrop, -⟩ := h.admitting (by simpa using ha)
    have hdrop := hdrop w hw
    simp [Over, Worker.next, effect, hdrop, dropPartial, hremux]
  · intro hsp
    have hsp : s.ui.spawns = true := by simpa using hsp
    obtain ⟨hdrop, -⟩ := h.admitting (UiStep.admitting_of_spawns hsp)
    have hdrop := hdrop w hw
    simpa [effect, hdrop, dropPartial] using h.spawning hsp
  · simpa using h.joining
  · simpa using h.joins
  · intro hst
    obtain ⟨hleaving, heq⟩ := effect_startable s w answer hstartable hst
    refine ⟨?_, heq.trans hremux⟩
    simpa using hleaving
  · intro hne
    rcases effect_remux s w answer with heq | hnone
    · exact absurd (heq.trans hremux) hne
    · simp [hnone]

/-- The thread that is waited for drops its file, and ends. -/
theorem base_joining {s : Coordinator} {w : Worker} (h : s.Base) (hw : s.joining = some w)
    (answer : Bool) :
    Base { s.effect w answer with
      joining := (w.next s answer).map fun stage => { w.keep answer with stage := stage } } := by
  have hdrop : w.stage = .dropPartial := h.joining w hw
  have heffect : s.effect w answer = s.dropPartial w answer := by unfold effect; rw [hdrop]
  have hnext : w.next s answer = none := by unfold Worker.next; rw [hdrop]
  rw [heffect, hnext]
  constructor
  · exact h.recording
  · exact h.inFlight
  · exact h.claiming
  · exact h.admitting
  · exact h.spawning
  · simp
  · simp
  · exact h.startable
  · exact h.remux

theorem base_remux {s : Coordinator} {t : Remux} (h : s.Base) (ht : s.remuxThread = some t)
    (answer : Bool) : (s.remuxStep t answer).Base := by
  have hthread : s.recordingThread = none := h.remux (by simp [ht])
  have hui : s.ui.admitting = false := by
    by_contra ha
    have := (h.admitting (by simpa using ha)).2
    simp [ht] at this
  have hbusy : s.state.startable = false := by
    by_contra hst
    have := (h.startable (by simpa using hst)).2
    simp [ht] at this
  have hspawns : s.ui.spawns = false := by
    by_contra hsp
    have := UiStep.admitting_of_spawns (by simpa using hsp)
    simp [hui] at this
  obtain ⟨request, uiSucceeded, stage⟩ := t
  obtain ⟨h1, h2, h3, -, -, h5, h6, -, -⟩ := h
  cases stage <;>
    exact ⟨h1, h2, h3, by simp [remuxStep, takeEntry, postState, postResult, hui],
      by simp [remuxStep, takeEntry, postState, postResult, hspawns], h5, h6,
      by simp [remuxStep, takeEntry, postState, postResult, hbusy, hthread],
      by simp [remuxStep, takeEntry, postState, postResult, hthread]⟩

/-- A step of any call but `StartRecording`. -/
theorem Base.plain {s s' : Coordinator} (h : s.Base) (hrecording : s'.isRecording = s.isRecording)
    (hflight : s'.prepareInFlight = s.prepareInFlight)
    (hthread : s'.recordingThread = s.recordingThread) (hjoining : s'.joining = s.joining)
    (hremux : s'.remuxThread = s.remuxThread)
    (hstate : s'.state.startable = true → s.state.startable = true)
    (hui : s.ui.claiming = false ∧ s.ui.joins = false)
    (hui' : s'.ui.claiming = false ∧ s'.ui.admitting = false) : s'.Base :=
  h.uiStep hrecording hflight hthread hjoining hremux hstate (hui'.1.trans hui.1.symm)
    (fun ha => by simp [hui'.2] at ha)
    (fun hsp => by simp [UiStep.admitting_of_spawns hsp] at hui') (fun hj => by simp [hui.2] at hj)

section
variable {s : Coordinator} {step : UiStep}

theorem base_stopStep (h : s.Base) (hui : s.ui.claiming = false ∧ s.ui.joins = false) :
    (s.stopStep step).Base := by
  unfold stopStep
  split
  · split <;> exact h.plain rfl rfl rfl rfl rfl id hui ⟨rfl, rfl⟩
  · exact h.plain rfl rfl rfl rfl rfl id hui ⟨rfl, rfl⟩
  · exact h.plain rfl rfl rfl rfl rfl (fun hst => nomatch hst) hui ⟨rfl, rfl⟩
  · exact h.plain rfl rfl rfl rfl rfl id hui ⟨rfl, rfl⟩
  · exact h

theorem base_cancelStep (h : s.Base) (hui : s.ui.claiming = false ∧ s.ui.joins = false) :
    (s.cancelStep step).Base := by
  unfold cancelStep
  split
  · split <;> exact h.plain rfl rfl rfl rfl rfl id hui ⟨rfl, rfl⟩
  · split <;> exact h.plain rfl rfl rfl rfl rfl id hui ⟨rfl, rfl⟩
  · exact h.plain rfl rfl rfl rfl rfl id hui ⟨rfl, rfl⟩
  · split <;> exact h.plain rfl rfl rfl rfl rfl id hui ⟨rfl, rfl⟩
  · exact h

theorem base_pauseStep (h : s.Base) (hui : s.ui.claiming = false ∧ s.ui.joins = false) :
    (s.pauseStep step).Base := by
  unfold pauseStep
  split
  · split <;> exact h.plain rfl rfl rfl rfl rfl id hui ⟨rfl, rfl⟩
  · split <;> exact h.plain rfl rfl rfl rfl rfl id hui ⟨rfl, rfl⟩
  · exact h.plain rfl rfl rfl rfl rfl id hui ⟨rfl, rfl⟩
  · exact h.plain rfl rfl rfl rfl rfl id hui ⟨rfl, rfl⟩
  · exact h.plain rfl rfl rfl rfl rfl (fun hst => nomatch hst) hui ⟨rfl, rfl⟩
  · exact h

theorem base_resumeStep (h : s.Base) (hui : s.ui.claiming = false ∧ s.ui.joins = false) :
    (s.resumeStep step).Base := by
  unfold resumeStep
  split
  · split <;> exact h.plain rfl rfl rfl rfl rfl id hui ⟨rfl, rfl⟩
  · exact h.plain rfl rfl rfl rfl rfl id hui ⟨rfl, rfl⟩
  · exact h.plain rfl rfl rfl rfl rfl id hui ⟨rfl, rfl⟩
  · exact h.plain rfl rfl rfl rfl rfl (fun hst => nomatch hst) hui ⟨rfl, rfl⟩
  · exact h

theorem base_diskStep (h : s.Base) (hui : s.ui.claiming = false ∧ s.ui.joins = false) :
    (s.diskStep step).Base := by
  unfold diskStep
  split
  · split <;> exact h.plain rfl rfl rfl rfl rfl id hui ⟨rfl, rfl⟩
  · split <;> exact h.plain rfl rfl rfl rfl rfl id hui ⟨rfl, rfl⟩
  · exact h

/-- `StartRecording` takes the flag when nobody holds it, and gives it back or leaves it to the
    thread. -/
theorem base_startStep (h : s.Base) (hui : s.ui = step) (hjoins : s.ui.joins = false) :
    (s.startStep step).Base := by
  have hidle : s.joining = none := by
    by_contra hne
    exact absurd (h.joins hne) (by simp [hjoins])
  have hflight := h.inFlight
  have hclaiming := h.claiming
  have hadmitting := h.admitting
  rw [hui] at hflight hclaiming hadmitting hjoins
  have plain : ∀ s' : Coordinator, s'.isRecording = s.isRecording →
      s'.prepareInFlight = s.prepareInFlight → s'.recordingThread = s.recordingThread →
      s'.joining = s.joining → s'.remuxThread = s.remuxThread →
      (s'.state.startable = true → s.state.startable = true) →
      s'.ui.claiming = step.claiming → (s'.ui.admitting = true → step.admitting = true) →
      (s'.ui.spawns = true → s'.state.startable = false) → s'.Base := by
    intro s' h1 h2 h3 h4 h5 h6 h7 h8 h9
    exact h.uiStep h1 h2 h3 h4 h5 h6 (h7.trans (by rw [hui])) (by rw [hui]; exact h8) h9
      (fun hj => by simp [hui, hjoins] at hj)
  unfold startStep
  split
  · split <;> exact plain _ rfl rfl rfl rfl rfl id rfl id nofun
  · split
    · exact plain _ rfl rfl rfl rfl rfl id rfl id nofun
    · next hfree =>
      have hthread : s.recordingThread.any (·.stage.preparing) = false := by
        simp only [Bool.not_eq_true] at hfree
        rw [hfree] at hflight
        simpa [UiStep.claiming] using hflight.symm
      exact ⟨h.recording, by simp [hthread, UiStep.claiming], fun _ => hthread, nofun, nofun,
        h.joining, fun hne => absurd hidle hne, h.startable, h.remux⟩
  · exact plain _ rfl rfl rfl rfl rfl id rfl id nofun
  · split
    · next hgate =>
      simp only [Bool.and_eq_true] at hgate
      obtain ⟨hleaving, hremux⟩ := h.startable hgate.1
      have hthread := hclaiming rfl
      refine ⟨h.recording, hflight, hclaiming, fun _ => ⟨fun w hw => ?_, hremux⟩, nofun, h.joining,
        fun hne => absurd hidle hne, h.startable, h.remux⟩
      have hl := hleaving w hw
      have hw : s.recordingThread = some w := hw
      have hp : w.stage.preparing = false := by rw [hw] at hthread; exact hthread
      exact Stage.eq_dropPartial hl hp
    · exact plain _ rfl rfl rfl rfl rfl id rfl nofun nofun
  · have hthread := hclaiming rfl
    exact ⟨h.recording, by simp [leave, hthread, UiStep.claiming], nofun, nofun, nofun, h.joining,
      fun hne => absurd hidle hne, h.startable, h.remux⟩
  · exact plain _ rfl rfl rfl rfl rfl id rfl id nofun
  · exact plain _ rfl rfl rfl rfl rfl (fun hst => nomatch hst) rfl id fun _ => rfl
  · obtain ⟨hdrop, hremux⟩ := hadmitting rfl
    have hstate := h.spawning (by rw [hui]; rfl)
    have hrecording : s.isRecording = false := by
      rw [h.recording, Option.any_eq_false]
      exact fun w hw => by rw [hdrop w hw]; rfl
    have hflight : s.prepareInFlight = true := by rw [hflight]; simp [UiStep.claiming]
    exact ⟨hrecording, hflight, nofun, nofun, nofun, hdrop, fun _ => rfl,
      fun hst => by simp [hstate] at hst, fun hne => absurd hremux hne⟩
  · exact h

end

theorem base_uiStep {s s' : Coordinator} (h : s.Base) (hs : s.uiStep = some s') : s'.Base := by
  unfold uiStep at hs
  split at hs
  · cases hs
  · next hui =>
    split_ifs at hs with hnone
    obtain rfl := Option.some.inj hs
    rw [Option.isNone_iff_eq_none] at hnone
    refine h.uiStep rfl rfl rfl rfl rfl id ?_ ?_ ?_ ?_
    · rw [hui]; rfl
    · exact nofun
    · exact nofun
    · exact fun _ hne => absurd hnone hne
  all_goals
    next hui =>
      obtain rfl := Option.some.inj hs
      first
      | exact base_startStep h rfl (by rw [hui]; rfl)
      | exact base_stopStep h (by rw [hui]; exact ⟨rfl, rfl⟩)
      | exact base_cancelStep h (by rw [hui]; exact ⟨rfl, rfl⟩)
      | exact base_pauseStep h (by rw [hui]; exact ⟨rfl, rfl⟩)
      | exact base_resumeStep h (by rw [hui]; exact ⟨rfl, rfl⟩)
      | exact base_diskStep h (by rw [hui]; exact ⟨rfl, rfl⟩)

theorem base_step {s s' : Coordinator} {a : Action} (h : s.Base) (hs : s.step a = some s') :
    s'.Base := by
  unfold step at hs
  split_ifs at hs
  cases a with
  | call c => exact base_call h hs
  | ui => exact base_uiStep h hs
  | worker answer =>
    obtain ⟨w, hw, rfl⟩ := Option.map_eq_some_iff.mp hs
    exact base_worker h hw answer
  | joining answer =>
    obtain ⟨w, hw, rfl⟩ := Option.map_eq_some_iff.mp hs
    exact base_joining h hw answer
  | remux answer =>
    obtain ⟨t, ht, rfl⟩ := Option.map_eq_some_iff.mp hs
    exact base_remux h ht answer
  | diskSpaceLow =>
    obtain rfl := Option.some.inj hs
    exact ⟨h.recording, h.inFlight, h.claiming, h.admitting, h.spawning, h.joining, h.joins,
      h.startable, h.remux⟩

/-- In every state that a run from a fresh coordinator reaches. -/
theorem base_exec {s s' : Coordinator} {as : List Action} (h : s.Fresh) (hs : s.exec as = some s') :
    s'.Base :=
  StepRun.exec_invariant_all (fun _ _ _ => base_step) (base_fresh h) hs

end Coordinator

end Exosnap.Recording
