/-
  A press of cancel stops the start it was made on, in every run in which no test of the two flags
  falls between a commit's store of `is_recording_` and its release of `prepare_in_flight_`, and no
  press comes after the recording has ended on its own. `CancelPreparing` tests the first flag before
  the commit and the second one after it: then the press is lost, and the start records on.
-/
import Exosnap.Recording.CoordinatorStarts

namespace Exosnap.Recording

/-! ## Parts of a start -/

/-- The stages from which the flag of a cancel will still be seen. -/
def Stage.cancellable : Stage → Bool
  | .check _ | .checkpoint _ | .coreConfig | .webcam | .manifest | .commit | .recheck => true
  | _ => false

/-- The thread will end without a recording. -/
def Stage.exiting : Stage → Bool
  | .failState | .failResult | .failRelease | .dropPartial => true
  | stage => stage.unwinding

theorem Stage.cases_of (stage : Stage) :
    stage.cancellable = true ∨ stage.exiting = true ∨ stage.recording = true ∨
      stage.afterRecord = true := by
  have := List.all_eq_true.mp (show Stage.all.all (fun stage => stage.cancellable ||
    (stage.exiting || (stage.recording || stage.afterRecord))) = true by decide)
    stage stage.mem_all
  simpa using this

theorem Stage.preparing_of_cancellable {stage : Stage} (h : stage.cancellable = true) :
    stage.preparing = true := by
  cases stage <;> first | rfl | exact nomatch h

theorem Stage.not_afterRecord {stage : Stage}
    (h : stage.cancellable = true ∨ stage.exiting = true) : stage.afterRecord = false := by
  cases stage <;> first | rfl | (rcases h with h | h <;> exact nomatch h)

section
variable {s : Coordinator} {w : Worker} {answer : Bool} {stage : Stage}

/-- The flag is seen at the next checkpoint, or at the recheck after the commit. -/
theorem next_cancelled (h : w.next s answer = some stage) (hflag : s.prepareCancelRequested = true)
    (hstage : w.stage.cancellable = true) : stage.cancellable = true ∨ stage.exiting = true := by
  have hleads := next_of_leads
    (p := fun a b => !a.cancellable || (a == .recheck || (b.cancellable || b.exiting)))
    (by decide) h
  by_cases hrecheck : w.stage = .recheck
  · unfold Worker.next at h
    simp only [hrecheck, hflag] at h
    rw [← Option.some.inj h]
    exact .inr rfl
  · simpa [hstage, hrecheck] using hleads

theorem next_exiting (h : w.next s answer = some stage) (hstage : w.stage.exiting = true) :
    stage.exiting = true := by
  have := next_of_leads (p := fun a b => !a.exiting || b.exiting) (by decide) h
  simpa [hstage] using this

/-- A recording does not go back to where the flag is seen. -/
theorem next_not_cancellable (h : w.next s answer = some stage)
    (hstage : w.stage.recording = true) : stage.cancellable = false := by
  have := next_of_leads (p := fun a b => !a.recording || !b.cancellable) (by decide) h
  simpa [hstage] using this

theorem cancellable_of_next (h : w.next s answer = some stage) (hstage : stage.cancellable = true) :
    w.stage.cancellable = true := by
  have := next_of_leads (p := fun a b => !b.cancellable || a.cancellable) (by decide) h
  simpa [hstage] using this

/-- Where the flag is seen. -/
theorem next_unwinding (h : w.next s answer = some stage) (hstage : stage.unwinding = true) :
    w.stage.unwinding = true ∨
      w.stage.cancellable = true ∧ s.prepareCancelRequested = true := by
  have hleads := next_of_leads
    (p := fun a b => !b.unwinding || (a.unwinding || (a == .recheck || a matches .checkpoint _)))
    (by decide) h
  simp only [hstage, Bool.not_true, Bool.false_or, Bool.or_eq_true, beq_iff_eq] at hleads
  unfold Worker.next at h
  rcases hleads with hunwinding | hrecheck | hcheckpoint
  · exact .inl hunwinding
  · simp only [hrecheck] at h ⊢
    split at h
    · next hflag => exact .inr ⟨rfl, hflag⟩
    · rw [← Option.some.inj h] at hstage
      exact nomatch hstage
  · split at hcheckpoint
    · next c hst =>
      simp only [hst] at h ⊢
      split at h
      · next hflag => exact .inr ⟨rfl, hflag⟩
      · rw [← Option.some.inj h] at hstage
        cases c <;> exact nomatch hstage
    · exact nomatch hcheckpoint

theorem next_busy (h : w.next s answer = some stage)
    (hstage : stage.preparing = true ∨ stage.recording = true) :
    w.stage.preparing = true ∨ w.stage.recording = true := by
  have := next_of_leads
    (p := fun a b => !(b.preparing || b.recording) || (a.preparing || a.recording))
    (by decide) h
  rcases hstage with hstage | hstage <;> simpa [hstage] using this

end

/-! ## Parts of a press -/

/-- A call that `CancelPreparing` may go through. -/
def UiStep.pressing : UiStep → Bool
  | .cancelIsRecording | .cancelInFlight | .cancelStore | .cancelRecheck | .stopIsRecording
  | .stopClearPaused | .stopPost | .stopSession => true
  | _ => false

def UiStep.cancelling : UiStep → Bool
  | .cancelIsRecording | .cancelInFlight | .cancelStore | .cancelRecheck => true
  | _ => false

/-- The press has been stored, or a recording has been seen. -/
def UiStep.tested : UiStep → Bool
  | .cancelRecheck | .stopIsRecording => true
  | _ => false

def UiStep.stopping : UiStep → Bool
  | .stopClearPaused | .stopPost | .stopSession => true
  | _ => false

def UiStep.storing : UiStep → Bool
  | .cancelStore => true
  | _ => false

/-- `StartRecording` has cleared the flag of the last cancel. -/
def UiStep.cleared : UiStep → Bool
  | .startPost _ | .startSpawn _ => true
  | _ => false

namespace Coordinator

/-- The start is stopped, or has recorded nothing and its thread is on the way out. -/
def Caught (s : Coordinator) (r : Nat) : Prop :=
  r ∈ s.stops ∨
    r ∉ s.recorded ∧ ∀ w ∈ s.recordingThread, w.request = r →
      w.stage.exiting = true ∨ w.stage.cancellable = true ∧ s.prepareCancelRequested = true

/-- The recording of the start is being made, or was. -/
def Committed (s : Coordinator) (r : Nat) : Prop :=
  r ∈ s.recorded ∨ ∃ w ∈ s.recordingThread, w.request = r ∧ w.stage.recording = true

/-- A press was made on the start. -/
def Named (s : Coordinator) (r : Nat) : Prop := r ∈ s.pressed ∨ s.press = some r

structure Kept (s : Coordinator) : Prop where
  request : ∀ w ∈ s.recordingThread, w.stage.preparing = true ∨ w.stage.recording = true →
    s.recordRequest = w.request
  claiming : s.ui.claiming = true → s.isRecording = false
  press : ∀ r ∈ s.press, s.ui.pressing = true ∧ r ∈ s.admitted ∧
    ∀ w ∈ s.recordingThread, w.request = r
  unpressed : s.ui.cancelling = true → s.press = none → s.recordingThread = none
  storing : s.ui.storing = true → s.press ≠ none
  window : s.ui.tested = true → ∀ r ∈ s.press, s.Caught r ∨ s.Committed r
  stopping : s.ui.stopping = true → ∀ r ∈ s.press, s.recordRequest = r
  cleared : s.ui.cleared = true → s.prepareCancelRequested = false
  flagged : s.prepareCancelRequested = true → ∀ w ∈ s.recordingThread,
    w.stage.cancellable = true → s.Named w.request
  unwinding : ∀ w ∈ s.recordingThread, w.stage.unwinding = true → s.Named w.request
  unwound : ∀ r ∈ s.unwound, s.Named r ∧ r ∉ s.recorded
  pressed : ∀ r ∈ s.pressed, r ∈ s.admitted ∧ s.Caught r
  stops : ∀ p ∈ s.pressStops, p.2 = p.1

theorem kept_fresh {s : Coordinator} (h : s.Fresh) : s.Kept := by
  obtain ⟨state, hasCaps, -, rfl⟩ := h
  constructor <;> simp [UiStep.claiming, UiStep.cancelling, UiStep.storing, UiStep.tested,
    UiStep.stopping, UiStep.cleared]

/-- No test of a call misses the recording it asks for. -/
def TestsInTime (s : Coordinator) (a : Action) : Prop :=
  match a, s.ui with
  | .ui, .startClaim _ => s.isRecording = true → s.prepareInFlight = true
  | .ui, .cancelInFlight =>
      (s.isRecording = true → s.prepareInFlight = true) ∧
        (s.isRecording = false → ∀ r ∈ s.press, r ∉ s.recorded)
  | .ui, .cancelRecheck | .ui, .stopIsRecording =>
      s.isRecording = false → ∀ r ∈ s.press, r ∉ s.recorded
  | _, _ => True

instance (s : Coordinator) (a : Action) : Decidable (s.TestsInTime a) := by
  unfold TestsInTime; split <;> infer_instance

/-! ## What a press finds -/

section
variable {s : Coordinator} {r : Nat}

theorem caught_or_committed (h : s.History)
    (hflag : ∀ w ∈ s.recordingThread, w.request = r → w.stage.cancellable = true →
      s.prepareCancelRequested = true) : s.Caught r ∨ s.Committed r := by
  by_cases hrec : r ∈ s.recorded
  · exact .inr (.inl hrec)
  by_cases hcom : ∃ w ∈ s.recordingThread, w.request = r ∧ w.stage.recording = true
  · exact .inr (.inr hcom)
  refine .inl (.inr ⟨hrec, fun w hw hreq => ?_⟩)
  rcases w.stage.cases_of with hstage | hstage | hstage | hstage
  · exact .inr ⟨hstage, hflag w hw hreq hstage⟩
  · exact .inl hstage
  · exact absurd ⟨w, hw, hreq, hstage⟩ hcom
  · subst hreq
    exact absurd ((h.made w hw).recorded.mpr hstage) hrec

/-- With the flag set, no start slips through. -/
theorem caught_or_committed_of_flag (h : s.History) (hflag : s.prepareCancelRequested = true) :
    s.Caught r ∨ s.Committed r :=
  caught_or_committed h fun _ _ _ _ => hflag

/-- A recording that is not being made any more, and did not end on its own. -/
theorem caught_of_missed (hbase : s.Base) (hrecording : s.isRecording = false)
    (hr : r ∉ s.recorded) (hor : s.Caught r ∨ s.Committed r) : s.Caught r := by
  rcases hor with hcaught | hrec | ⟨w, hw, -, hstage⟩
  · exact hcaught
  · exact absurd hrec hr
  · have := hbase.recording
    rw [hw] at this
    simp [hrecording, hstage] at this

/-- The two flags are clear: nobody is preparing. -/
theorem caught_of_clear (h : s.History) (hbase : s.Base) (hrecording : s.isRecording = false)
    (hflight : s.prepareInFlight = false) (hr : r ∉ s.recorded) : s.Caught r := by
  refine caught_of_missed hbase hrecording hr (caught_or_committed h fun w hw _ hstage => ?_)
  have := hbase.inFlight
  rw [hw] at this
  simp [hflight, Stage.preparing_of_cancellable hstage] at this

end

/-! ## Steps of the UI thread -/

/-- The fields that say what a press has led to. -/
def keeps (s : Coordinator) :=
  (s.recordingThread, s.recordRequest, s.stops, s.pressStops, s.recorded, s.unwound, s.admitted)

section
variable {s s' : Coordinator}

theorem Caught.of_keeps {r : Nat} (h : s.Caught r) (hkeeps : s'.keeps = s.keeps)
    (hflag : s.prepareCancelRequested = true → s'.prepareCancelRequested = true) :
    s'.Caught r := by
  simp only [keeps, Prod.mk.injEq] at hkeeps
  obtain ⟨h1, -, h3, -, h5, -, -⟩ := hkeeps
  unfold Caught
  rw [h1, h3, h5]
  exact h.imp_right fun hrest => ⟨hrest.1, fun w hw hreq =>
    (hrest.2 w hw hreq).imp_right fun hc => ⟨hc.1, hflag hc.2⟩⟩

theorem Committed.of_keeps {r : Nat} (h : s.Committed r) (hkeeps : s'.keeps = s.keeps) :
    s'.Committed r := by
  simp only [keeps, Prod.mk.injEq] at hkeeps
  obtain ⟨h1, -, -, -, h5, -, -⟩ := hkeeps
  unfold Committed
  rw [h1, h5]
  exact h

/-- A step that goes on with the call, or begins one. -/
theorem Kept.goto (h : s.Kept) (hkeeps : s'.keeps = s.keeps)
    (hflag : s'.prepareCancelRequested = s.prepareCancelRequested)
    (hpress : s'.press = s.press) (hpressed : s'.pressed = s.pressed)
    (hclaiming : s'.ui.claiming = true → s'.isRecording = false)
    (hpressing : s.press ≠ none → s'.ui.pressing = true)
    (hcancelling : s'.ui.cancelling = true → s.ui.cancelling = true)
    (hstoring : s'.ui.storing = true → s.press ≠ none)
    (hwindow : s'.ui.tested = true → ∀ r ∈ s.press, s.Caught r ∨ s.Committed r)
    (hstopping : s'.ui.stopping = true → ∀ r ∈ s.press, s.recordRequest = r)
    (hcleared : s'.ui.cleared = true → s.prepareCancelRequested = false) : s'.Kept := by
  have hk := hkeeps
  simp only [keeps, Prod.mk.injEq] at hk
  obtain ⟨h1, h2, h3, h4, h5, h6, h7⟩ := hk
  have hcaught : ∀ r, s.Caught r → s'.Caught r := fun r hc =>
    hc.of_keeps hkeeps fun hf => hflag.trans hf
  have hnamed : ∀ r, s.Named r → s'.Named r := fun r hn => by
    unfold Named
    rw [hpress, hpressed]
    exact hn
  exact {
    request := by rw [h1, h2]; exact h.request
    claiming := hclaiming
    press := by
      rw [hpress, h1, h7]
      exact fun r hr => ⟨hpressing (by rw [Option.mem_def.mp hr]; exact nofun), (h.press r hr).2⟩
    unpressed := by rw [hpress, h1]; exact fun hc => h.unpressed (hcancelling hc)
    storing := by rw [hpress]; exact hstoring
    window := by
      rw [hpress]
      exact fun ht r hr => (hwindow ht r hr).imp (hcaught r) fun hc => hc.of_keeps hkeeps
    stopping := by rw [hpress, h2]; exact hstopping
    cleared := by rw [hflag]; exact hcleared
    flagged := by
      rw [hflag, h1]
      exact fun hf w hw hstage => hnamed _ (h.flagged hf w hw hstage)
    unwinding := by
      rw [h1]
      exact fun w hw hstage => hnamed _ (h.unwinding w hw hstage)
    unwound := by
      rw [h6, h5]
      exact fun r hr => ⟨hnamed _ (h.unwound r hr).1, (h.unwound r hr).2⟩
    pressed := by
      rw [hpressed, h7]
      exact fun r hr => ⟨(h.pressed r hr).1, hcaught r (h.pressed r hr).2⟩
    stops := by rw [h4]; exact h.stops }

/-- A call returns. A press that it made is not lost. -/
theorem Kept.leave (h : s.Kept) (hkeeps : s'.keeps = s.leave.keeps)
    (hflag : s'.prepareCancelRequested = s.prepareCancelRequested)
    (hui : s'.ui = .idle) (hpress : s'.press = none)
    (hpressed : s'.pressed = s.press.toList ++ s.pressed)
    (hcaught : ∀ r ∈ s.press, s.Caught r) : s'.Kept := by
  have hk := hkeeps
  simp only [keeps, Coordinator.leave, Prod.mk.injEq] at hk
  obtain ⟨h1, h2, h3, h4, h5, h6, h7⟩ := hk
  have hstays : ∀ r, s.Caught r → s'.Caught r := fun r hc =>
    hc.of_keeps hkeeps fun hf => hflag.trans hf
  have hnamed : ∀ r, s.Named r → s'.Named r := by
    rintro r (hr | hr) <;> left <;> rw [hpressed]
    · exact List.mem_append_right _ hr
    · simp [hr]
  exact {
    request := by rw [h1, h2]; exact h.request
    claiming := by rw [hui]; intros; contradiction
    press := by rw [hpress]; intros; contradiction
    unpressed := by rw [hui]; intros; contradiction
    storing := by rw [hui]; intros; contradiction
    window := by rw [hui]; intros; contradiction
    stopping := by rw [hui]; intros; contradiction
    cleared := by rw [hui]; intros; contradiction
    flagged := by
      rw [hflag, h1]
      exact fun hf w hw hstage => hnamed _ (h.flagged hf w hw hstage)
    unwinding := by
      rw [h1]
      exact fun w hw hstage => hnamed _ (h.unwinding w hw hstage)
    unwound := by
      rw [h6, h5]
      exact fun r hr => ⟨hnamed _ (h.unwound r hr).1, (h.unwound r hr).2⟩
    pressed := by
      rw [hpressed, h7]
      intro r hr
      rcases List.mem_append.mp hr with hr | hr
      · have hr := Option.mem_toList.mp hr
        exact ⟨(h.press r hr).2.1, hstays r (hcaught r hr)⟩
      · exact ⟨(h.pressed r hr).1, hstays r (h.pressed r hr).2⟩
    stops := by rw [h4]; exact h.stops }

theorem Kept.press_none (h : s.Kept) (hui : s.ui.pressing = false) : s.press = none := by
  by_contra hne
  obtain ⟨r, hr⟩ := Option.ne_none_iff_exists'.mp hne
  have := (h.press r hr).1
  simp [hui] at this

theorem kept_call {c : Call} (h : s.Kept) (hhist : s.History) (hs : s.call c = some s') :
    s'.Kept := by
  have hidle : s.ui = .idle := (call_eq hs).1
  have hpress := h.press_none (by rw [hidle]; rfl)
  have hnamed : ∀ r, s.Named r → r ∈ s.pressed := fun r hr => hr.resolve_right (by simp [hpress])
  unfold call at hs
  rw [hidle] at hs
  cases c with
  | cancelPreparing =>
    obtain rfl := Option.some.inj hs
    have hthread : ∀ r ∈ s.recordingThread.map Worker.request,
        ∃ w ∈ s.recordingThread, w.request = r := fun r hr => by simpa using hr
    exact {
      request := h.request
      claiming := nofun
      press := by
        intro r hr
        obtain ⟨w, hw, rfl⟩ := hthread r hr
        refine ⟨rfl, hhist.threads _ (.inl ⟨w, hw, rfl⟩), fun w' hw' => ?_⟩
        rw [Option.mem_unique hw' hw]
      unpressed := fun _ hnone => by simpa using hnone
      storing := nofun
      window := nofun
      stopping := nofun
      cleared := nofun
      flagged := fun hf w hw hstage => .inl (hnamed _ (h.flagged hf w hw hstage))
      unwinding := fun w hw hstage => .inl (hnamed _ (h.unwinding w hw hstage))
      unwound := fun r hr => ⟨.inl (hnamed _ (h.unwound r hr).1), (h.unwound r hr).2⟩
      pressed := h.pressed
      stops := h.stops }
  | _ =>
    obtain rfl := Option.some.inj hs
    exact h.goto rfl rfl rfl rfl nofun (fun hne => absurd hpress hne) nofun nofun
      (fun _ r hr => by simp [hpress] at hr) nofun nofun

theorem kept_stopStep {step : UiStep} (h : s.Kept) (hbase : s.Base) (hui : s.ui = step)
    (hG : s.TestsInTime .ui) : (s.stopStep step).Kept := by
  have hwindow := h.window
  have hstopping := h.stopping
  unfold TestsInTime at hG
  rw [hui] at hwindow hstopping hG
  unfold stopStep
  split
  · split
    · next hrecording =>
      refine h.goto rfl rfl rfl rfl nofun (fun _ => rfl) nofun nofun nofun ?_ nofun
      intro _ r hr
      obtain ⟨w, hw, hstage⟩ := (Option.any_eq_true _ _).mp (hbase.recording ▸ hrecording)
      rw [h.request w hw (.inr hstage)]
      exact (h.press r hr).2.2 w hw
    · next hrecording =>
      have hrecording : s.isRecording = false := by simpa using hrecording
      exact h.leave rfl rfl rfl rfl rfl fun r hr =>
        caught_of_missed hbase hrecording (hG hrecording r hr) (hwindow rfl r hr)
  · exact h.goto rfl rfl rfl rfl nofun (fun _ => rfl) nofun nofun nofun hstopping nofun
  · exact h.goto rfl rfl rfl rfl nofun (fun _ => rfl) nofun nofun nofun hstopping nofun
  · have hcaught : ∀ r, s.Caught r → r ∈ s.recordRequest :: s.stops ∨ r ∉ s.recorded ∧
        ∀ w ∈ s.recordingThread, w.request = r → w.stage.exiting = true ∨
          w.stage.cancellable = true ∧ s.prepareCancelRequested = true :=
      fun r hc => hc.imp_left (List.mem_cons_of_mem _)
    have hnamed : ∀ r, s.Named r → r ∈ s.press.toList ++ s.pressed := by
      rintro r (hr | hr)
      · exact List.mem_append_right _ hr
      · simp [hr]
    exact {
      request := h.request
      claiming := nofun
      press := nofun
      unpressed := nofun
      storing := nofun
      window := nofun
      stopping := nofun
      cleared := nofun
      flagged := fun hf w hw hstage => .inl (hnamed _ (h.flagged hf w hw hstage))
      unwinding := fun w hw hstage => .inl (hnamed _ (h.unwinding w hw hstage))
      unwound := fun r hr => ⟨.inl (hnamed _ (h.unwound r hr).1), (h.unwound r hr).2⟩
      pressed := by
        intro r hr
        rcases List.mem_append.mp hr with hr | hr
        · have hr := Option.mem_toList.mp hr
          exact ⟨(h.press r hr).2.1, .inl (List.mem_cons.mpr (.inl (hstopping rfl r hr).symm))⟩
        · exact ⟨(h.pressed r hr).1, hcaught r (h.pressed r hr).2⟩
      stops := by
        intro p hp
        rcases List.mem_append.mp hp with hp | hp
        · obtain ⟨r, hr, rfl⟩ := List.mem_map.mp hp
          exact hstopping rfl r (Option.mem_toList.mp hr)
        · exact h.stops p hp }
  · exact h

/-- The flag is set: whatever is not a recording yet will see it. -/
theorem kept_cancelStore (h : s.Kept) (hhist : s.History) (hpress : s.press ≠ none) :
    (s.cancelStep .cancelStore).Kept := by
  have hflagged : ∀ w ∈ s.recordingThread, s.Named w.request := by
    obtain ⟨r, hr⟩ := Option.ne_none_iff_exists'.mp hpress
    intro w hw
    rw [(h.press r hr).2.2 w hw]
    exact .inr hr
  have hhist' : (s.cancelStep .cancelStore).History :=
    hhist.uiStep rfl rfl rfl rfl rfl (Nat.le_refl _) nofun
  exact {
    request := h.request
    claiming := nofun
    press := fun r hr => ⟨rfl, (h.press r hr).2⟩
    unpressed := fun _ hnone => absurd hnone hpress
    storing := nofun
    window := fun _ r _ => caught_or_committed_of_flag hhist' rfl
    stopping := nofun
    cleared := nofun
    flagged := fun _ w hw _ => hflagged w hw
    unwinding := h.unwinding
    unwound := h.unwound
    pressed := fun r hr => ⟨(h.pressed r hr).1, (h.pressed r hr).2.of_keeps rfl fun _ => rfl⟩
    stops := h.stops }

theorem kept_cancelStep {step : UiStep} (h : s.Kept) (hbase : s.Base) (hhist : s.History)
    (hui : s.ui = step) (hG : s.TestsInTime .ui) : (s.cancelStep step).Kept := by
  have hwindow := h.window
  have hunpressed := h.unpressed
  have hstoring := h.storing
  unfold TestsInTime at hG
  rw [hui] at hwindow hunpressed hstoring hG
  unfold cancelStep
  split
  · split
    · next hrecording =>
      refine h.goto rfl rfl rfl rfl nofun (fun _ => rfl) nofun nofun ?_ nofun nofun
      intro _ r hr
      obtain ⟨w, hw, hstage⟩ := (Option.any_eq_true _ _).mp (hbase.recording ▸ hrecording)
      exact .inr (.inr ⟨w, hw, (h.press r hr).2.2 w hw, hstage⟩)
    · exact h.goto rfl rfl rfl rfl nofun (fun _ => rfl) (fun _ => by rw [hui]; rfl) nofun nofun nofun
        nofun
  · split
    · next hflight =>
      refine h.goto rfl rfl rfl rfl nofun (fun _ => rfl) (fun _ => by rw [hui]; rfl) ?_ nofun nofun
        nofun
      intro _ hnone
      have := hbase.inFlight
      simp [hflight, hunpressed rfl hnone, hui, UiStep.claiming] at this
    · next hflight =>
      have hflight : s.prepareInFlight = false := by simpa using hflight
      have hrecording : s.isRecording = false := by
        by_contra hrec
        have := hG.1 (by simpa using hrec)
        simp [hflight] at this
      exact h.leave rfl rfl rfl rfl rfl fun r hr =>
        caught_of_clear hhist hbase hrecording hflight (hG.2 hrecording r hr)
  · exact kept_cancelStore h hhist (hstoring rfl)
  · split
    · exact h.goto rfl rfl rfl rfl nofun (fun _ => rfl) nofun nofun (fun _ => hwindow rfl) nofun nofun
    · next hrecording =>
      have hrecording : s.isRecording = false := by simpa using hrecording
      exact h.leave rfl rfl rfl rfl rfl fun r hr =>
        caught_of_missed hbase hrecording (hG hrecording r hr) (hwindow rfl r hr)
  · exact h

theorem idle_of_claiming {w : Worker} (hbase : s.Base) (hw : s.recordingThread = some w)
    (hclaiming : s.ui.claiming = true) (hrecording : s.isRecording = false) :
    w.stage.preparing = false ∧ w.stage.recording = false := by
  have hp := hbase.claiming hclaiming
  have hr := hbase.recording
  rw [hw] at hp hr
  exact ⟨hp, by rw [hrecording] at hr; exact hr.symm⟩

theorem kept_mint {ctx : PrepareContext} (h : s.Kept) (hbase : s.Base)
    (hui : s.ui = .startMint ctx) : (s.startStep (.startMint ctx)).Kept := by
  have hrecording := h.claiming (by rw [hui]; rfl)
  have hpress := h.press_none (by rw [hui]; rfl)
  exact {
    request := by
      intro w hw hstage
      obtain ⟨hp, hr⟩ := idle_of_claiming hbase hw (by rw [hui]; rfl) hrecording
      simp [hp, hr] at hstage
    claiming := fun _ => hrecording
    press := fun r hr => by simp [startStep, hpress] at hr
    unpressed := nofun
    storing := nofun
    window := nofun
    stopping := nofun
    cleared := nofun
    flagged := h.flagged
    unwinding := h.unwinding
    unwound := h.unwound
    pressed := h.pressed
    stops := h.stops }

/-- The flag of an earlier cancel is cleared when the thread it was for has done with it. -/
theorem kept_clearCancel {ctx : PrepareContext} (h : s.Kept) (hbase : s.Base)
    (hui : s.ui = .startClearCancel ctx) : (s.startStep (.startClearCancel ctx)).Kept := by
  have hover := (hbase.admitting (by rw [hui]; rfl)).1
  have hpress := h.press_none (by rw [hui]; rfl)
  exact {
    request := h.request
    claiming := fun _ => h.claiming (by rw [hui]; rfl)
    press := fun r hr => by simp [startStep, hpress] at hr
    unpressed := nofun
    storing := nofun
    window := nofun
    stopping := nofun
    cleared := fun _ => rfl
    flagged := nofun
    unwinding := h.unwinding
    unwound := h.unwound
    pressed := fun r hr => ⟨(h.pressed r hr).1, (h.pressed r hr).2.imp_right fun hc =>
      ⟨hc.1, fun w hw _ => .inl (by rw [hover w hw]; rfl)⟩⟩
    stops := h.stops }

/-- No press has been made on a start that begins. -/
theorem kept_spawn {ctx : PrepareContext} (h : s.Kept) (hhist : s.History)
    (hui : s.ui = .startSpawn ctx) : (s.startStep (.startSpawn ctx)).Kept := by
  have hpress := h.press_none (by rw [hui]; rfl)
  have hflag := h.cleared (by rw [hui]; rfl)
  obtain ⟨hfresh, -⟩ := hhist.fresh (by rw [hui]; rfl)
  exact {
    request := by rintro w ⟨⟩ _; rfl
    claiming := by intros; contradiction
    press := fun r hr => by simp [startStep, hpress] at hr
    unpressed := by intros; contradiction
    storing := by intros; contradiction
    window := by intros; contradiction
    stopping := by intros; contradiction
    cleared := by intros; contradiction
    flagged := fun hf => by simp [startStep, hflag] at hf
    unwinding := by rintro w ⟨⟩ hstage; cases hstage
    unwound := h.unwound
    pressed := by
      intro r hr
      obtain ⟨hadmitted, hcaught⟩ := h.pressed r hr
      refine ⟨List.mem_cons_of_mem _ hadmitted, ?_⟩
      rcases hcaught with hstops | ⟨hrecorded, -⟩
      · exact .inl hstops
      · refine .inr ⟨hrecorded, ?_⟩
        rintro w ⟨⟩ rfl
        exact absurd hadmitted hfresh
    stops := h.stops }

theorem kept_startStep {step : UiStep} (h : s.Kept) (hbase : s.Base) (hhist : s.History)
    (hui : s.ui = step) (hpressing : step.pressing = false) (hG : s.TestsInTime .ui) :
    (s.startStep step).Kept := by
  have hpress := h.press_none (by rw [hui]; exact hpressing)
  have hclaiming := h.claiming
  have hcleared := h.cleared
  unfold TestsInTime at hG
  rw [hui] at hclaiming hcleared hG
  have goes : ∀ s' : Coordinator, s'.keeps = s.keeps →
      s'.prepareCancelRequested = s.prepareCancelRequested → s'.press = s.press →
      s'.pressed = s.pressed → s'.isRecording = s.isRecording →
      (s'.ui.claiming = true → s.isRecording = false) →
      s'.ui.cancelling = false ∧ s'.ui.storing = false →
      (s'.ui.cleared = true → s.prepareCancelRequested = false) → s'.Kept := by
    intro s' h1 h2 h3 h4 h5 h6 h7 h8
    exact h.goto h1 h2 h3 h4 (fun hc => h5.trans (h6 hc)) (fun hne => absurd hpress hne)
      (fun hc => by simp [h7.1] at hc) (fun hc => by simp [h7.2] at hc)
      (fun _ r hr => by simp [hpress] at hr) (fun _ r hr => by simp [hpress] at hr) h8
  have leaves : ∀ s' : Coordinator, s'.keeps = s.leave.keeps →
      s'.prepareCancelRequested = s.prepareCancelRequested → s'.ui = .idle → s'.press = none →
      s'.pressed = s.press.toList ++ s.pressed → s'.Kept := by
    intro s' h1 h2 h3 h4 h5
    exact h.leave h1 h2 h3 h4 h5 fun r hr => by simp [hpress] at hr
  unfold startStep
  split
  · split
    · exact leaves _ rfl rfl rfl rfl rfl
    · exact goes _ rfl rfl rfl rfl rfl nofun ⟨rfl, rfl⟩ nofun
  · split
    · exact leaves _ rfl rfl rfl rfl rfl
    · next hflight =>
      refine goes _ rfl rfl rfl rfl rfl (fun _ => ?_) ⟨rfl, rfl⟩ nofun
      by_contra hrec
      exact hflight (hG (by simpa using hrec))
  · exact kept_mint h hbase hui
  · split <;> exact goes _ rfl rfl rfl rfl rfl (fun _ => hclaiming rfl) ⟨rfl, rfl⟩ nofun
  · exact leaves _ rfl rfl rfl rfl rfl
  · exact kept_clearCancel h hbase hui
  · exact goes _ rfl rfl rfl rfl rfl (fun _ => hclaiming rfl) ⟨rfl, rfl⟩ fun _ => hcleared rfl
  · exact kept_spawn h hhist hui
  · exact h

/-- The calls that a press does not go through. -/
theorem Kept.plain (h : s.Kept) (hui : s.ui.pressing = false) (hkeeps : s'.keeps = s.keeps)
    (hflag : s'.prepareCancelRequested = s.prepareCancelRequested) (hpress : s'.press = none)
    (hpressed : s'.pressed = s.press.toList ++ s.pressed) (hclaiming : s'.ui.claiming = false)
    (hcancelling : s'.ui.cancelling = false) (hcleared : s'.ui.cleared = false) : s'.Kept := by
  have hnone := h.press_none hui
  rw [hnone] at hpressed
  have hstoring : s'.ui.storing = false := by
    cases hst : s'.ui <;> rw [hst] at hcancelling <;> first | rfl | exact nomatch hcancelling
  exact h.goto hkeeps hflag (hpress.trans hnone.symm) hpressed (fun hc => by simp [hclaiming] at hc)
    (fun hne => absurd hnone hne) (fun hc => by simp [hcancelling] at hc)
    (fun hc => by simp [hstoring] at hc) (fun _ r hr => by simp [hnone] at hr)
    (fun _ r hr => by simp [hnone] at hr) (fun hc => by simp [hcleared] at hc)

theorem kept_uiStep (h : s.Kept) (hbase : s.Base) (hhist : s.History) (hG : s.TestsInTime .ui)
    (hs : s.uiStep = some s') : s'.Kept := by
  have plain {s' : Coordinator} := @Kept.plain s s' h
  have hnone := h.press_none
  unfold uiStep at hs
  cases hui : s.ui <;> rw [hui] at hs plain hnone <;> dsimp only at hs
  case idle => cases hs
  case startJoin =>
    split_ifs at hs
    obtain rfl := Option.some.inj hs
    exact plain rfl rfl rfl rfl rfl rfl rfl rfl
  case startIsRecording | startClaim | startMint | startGate | startReject | startClearCancel |
      startPost | startSpawn =>
    obtain rfl := Option.some.inj hs
    exact kept_startStep h hbase hhist hui rfl hG
  case stopIsRecording | stopClearPaused | stopPost | stopSession =>
    obtain rfl := Option.some.inj hs
    exact kept_stopStep h hbase hui hG
  case cancelIsRecording | cancelInFlight | cancelStore | cancelRecheck =>
    obtain rfl := Option.some.inj hs
    exact kept_cancelStep h hbase hhist hui hG
  all_goals
    obtain rfl := Option.some.inj hs
    have hnone := hnone rfl
    have hpressed : s.pressed = s.press.toList ++ s.pressed := by rw [hnone]; rfl
    simp only [pauseStep, resumeStep, diskStep]
    first
    | exact plain rfl rfl rfl hnone hpressed rfl rfl rfl
    | exact plain rfl rfl rfl rfl rfl rfl rfl rfl
    | split <;>
        first
        | exact plain rfl rfl rfl hnone hpressed rfl rfl rfl
        | exact plain rfl rfl rfl rfl rfl rfl rfl rfl

end

/-! ## Steps of the threads -/

section
variable (s : Coordinator) (w : Worker) (answer : Bool)

@[simp] theorem effect_stops : (s.effect w answer).stops = s.stops := by
  unfold effect; split <;> rfl

@[simp] theorem effect_pressStops : (s.effect w answer).pressStops = s.pressStops := by
  unfold effect; split <;> rfl

@[simp] theorem effect_press : (s.effect w answer).press = s.press := by
  unfold effect; split <;> rfl

@[simp] theorem effect_pressed : (s.effect w answer).pressed = s.pressed := by
  unfold effect; split <;> rfl

theorem effect_flag (h : (s.effect w answer).prepareCancelRequested = true) :
    s.prepareCancelRequested = true := by
  unfold effect at h
  split at h <;> first | exact h | exact nomatch h

theorem effect_flag_of_cancellable (h : w.stage.cancellable = true) :
    (s.effect w answer).prepareCancelRequested = s.prepareCancelRequested := by
  unfold effect
  split <;> first | rfl | (next hst => rw [hst] at h; exact nomatch h)

end

theorem caught_worker {s : Coordinator} {w : Worker} {r : Nat} (h : s.Caught r)
    (hw : s.recordingThread = some w) (answer : Bool) :
    Caught { s.effect w answer with
      recordingThread := (w.next s answer).map fun stage =>
        { w.keep answer with stage := stage } } r := by
  unfold Caught
  dsimp only
  rw [effect_stops]
  refine h.imp_right fun ⟨hrecorded, hstage⟩ => ⟨fun hr => ?_, fun w' hw' hreq => ?_⟩
  · rcases mem_effect_recorded.mp hr with hr | ⟨hrecord, rfl⟩
    · exact hrecorded hr
    · have := hstage w hw rfl
      rw [hrecord] at this
      rcases this with hexit | hcancel
      · exact nomatch hexit
      · exact nomatch hcancel.1
  · obtain ⟨stage, hnext, rfl⟩ := Option.map_eq_some_iff.mp hw'
    have hreq : w.request = r := keep_request.symm.trans hreq
    rcases hstage w hw hreq with hexit | ⟨hcancel, hflag⟩
    · exact .inl (next_exiting hnext hexit)
    · rw [effect_flag_of_cancellable s w answer hcancel]
      exact (next_cancelled hnext hflag hcancel).symm.imp_right fun hc => ⟨hc, hflag⟩

/-- The step of a recording that a press has seen. -/
theorem window_worker {s : Coordinator} {w : Worker} {r : Nat} (hbase : s.Base) (hhist : s.History)
    (hw : s.recordingThread = some w) (answer : Bool) (h : s.Caught r ∨ s.Committed r) :
    let s' := { s.effect w answer with
      recordingThread := (w.next s answer).map fun stage =>
        { w.keep answer with stage := stage } }
    s'.Caught r ∨ s'.Committed r := by
  have hhist' := history_worker hhist hbase hw answer
  rcases h with hc | hc
  · exact .inl (caught_worker hc hw answer)
  · refine caught_or_committed hhist' fun w' hw' hreq hstage => ?_
    obtain ⟨stage, hnext, rfl⟩ := Option.map_eq_some_iff.mp hw'
    rcases hc with hrec | ⟨w₁, hw₁, -, hrecording⟩
    · have hmade' := hhist'.made _ hw'
      rw [← hreq] at hrec
      have := hmade'.recorded.mp (mem_effect_recorded.mpr (.inl hrec))
      rw [Stage.not_afterRecord (.inl hstage)] at this
      exact nomatch this
    · rw [Option.mem_unique hw₁ hw] at hrecording
      rw [next_not_cancellable hnext hrecording] at hstage
      exact nomatch hstage

theorem kept_worker {s : Coordinator} {w : Worker} (h : s.Kept) (hbase : s.Base) (hhist : s.History)
    (hw : s.recordingThread = some w) (answer : Bool) :
    Kept { s.effect w answer with
      recordingThread := (w.next s answer).map fun stage =>
        { w.keep answer with stage := stage } } := by
  have hmade := hhist.made w hw
  have hbase' := base_worker hbase hw answer
  have hcaught := fun r hr => caught_worker (r := r) hr hw answer
  -- what was named stays so: no step of a thread makes a press
  have hnamed : ∀ r, s.Named r → (s.effect w answer).Named r := by
    intro r
    unfold Named
    rw [effect_press, effect_pressed]
    exact id
  have hthread : ∀ w' ∈ (w.next s answer).map fun stage => { w.keep answer with stage := stage },
      w'.request = w.request ∧ w.next s answer = some w'.stage := by
    intro w' hw'
    obtain ⟨stage, hnext, rfl⟩ := Option.map_eq_some_iff.mp hw'
    exact ⟨keep_request, hnext⟩
  constructor <;> dsimp only
  · rw [effect_recordRequest]
    intro w' hw' hbusy
    obtain ⟨hreq, hnext⟩ := hthread w' hw'
    rw [hreq]
    exact h.request w hw (next_busy hnext hbusy)
  · rw [effect_ui]
    intro hclaiming
    obtain ⟨hp, hr⟩ := idle_of_claiming hbase hw hclaiming (h.claiming hclaiming)
    refine hbase'.recording.trans ?_
    rw [Option.any_eq_false]
    intro w' hw'
    obtain ⟨-, hnext⟩ := hthread w' hw'
    by_contra hrec
    have := next_busy hnext (.inr (by simpa using hrec))
    simp [hp, hr] at this
  · rw [effect_press, effect_ui, effect_admitted]
    intro r hr
    obtain ⟨hui, hadmitted, hreq⟩ := h.press r hr
    exact ⟨hui, hadmitted, fun w' hw' => (hthread w' hw').1.trans (hreq w hw)⟩
  · rw [effect_ui, effect_press]
    intro hcancelling hnone
    have := h.unpressed hcancelling hnone
    rw [hw] at this
    exact nomatch this
  · rw [effect_ui, effect_press]
    exact h.storing
  · rw [effect_ui, effect_press]
    intro htested r hr
    exact window_worker hbase hhist hw answer (h.window htested r hr)
  · rw [effect_ui, effect_press, effect_recordRequest]
    exact h.stopping
  · rw [effect_ui]
    intro hcleared
    have hflag := h.cleared hcleared
    by_contra hset
    have := effect_flag s w answer (by simpa using hset)
    simp [hflag] at this
  · intro hflag w' hw' hstage
    obtain ⟨hreq, hnext⟩ := hthread w' hw'
    rw [hreq]
    exact hnamed _ (h.flagged (effect_flag s w answer hflag) w hw (cancellable_of_next hnext hstage))
  · intro w' hw' hstage
    obtain ⟨hreq, hnext⟩ := hthread w' hw'
    rw [hreq]
    rcases next_unwinding hnext hstage with hunwinding | ⟨hcancellable, hflag⟩
    · exact hnamed _ (h.unwinding w hw hunwinding)
    · exact hnamed _ (h.flagged hflag w hw hcancellable)
  · intro r hr
    rcases mem_effect_unwound.mp hr with hr | ⟨hready, rfl⟩
    · refine ⟨hnamed _ (h.unwound r hr).1, fun hrec => ?_⟩
      rcases mem_effect_recorded.mp hrec with hrec | ⟨hrecord, rfl⟩
      · exact (h.unwound r hr).2 hrec
      · have := hmade.unwound hr
        rw [hrecord] at this
        exact nomatch this
    · refine ⟨hnamed _ (h.unwinding w hw (by rw [hready]; rfl)), fun hrec => ?_⟩
      rcases mem_effect_recorded.mp hrec with hrec | ⟨hrecord, -⟩
      · have := hmade.recorded.mp hrec
        rw [hready] at this
        exact nomatch this
      · rw [hrecord] at hready
        exact nomatch hready
  · rw [effect_pressed, effect_admitted]
    exact fun r hr => ⟨(h.pressed r hr).1, hcaught r (h.pressed r hr).2⟩
  · rw [effect_pressStops]
    exact h.stops

/-- A step that touches none of it. -/
theorem Kept.frame {s s' : Coordinator} (h : s.Kept) (hkeeps : s'.keeps = s.keeps)
    (hflag : s'.prepareCancelRequested = s.prepareCancelRequested) (hpress : s'.press = s.press)
    (hpressed : s'.pressed = s.pressed) (hui : s'.ui = s.ui)
    (hrecording : s'.isRecording = s.isRecording) : s'.Kept := by
  refine h.goto hkeeps hflag hpress hpressed ?_ ?_ ?_ ?_ ?_ ?_ ?_ <;> rw [hui]
  · rw [hrecording]; exact h.claiming
  · intro hne
    obtain ⟨r, hr⟩ := Option.ne_none_iff_exists'.mp hne
    exact (h.press r hr).1
  · exact id
  · exact h.storing
  · exact h.window
  · exact h.stopping
  · exact h.cleared

theorem kept_step {s s' : Coordinator} {a : Action} (h : s.Kept) (hbase : s.Base)
    (hhist : s.History) (hG : s.TestsInTime a) (hs : s.step a = some s') : s'.Kept := by
  unfold step at hs
  split_ifs at hs
  cases a with
  | call c => exact kept_call h hhist hs
  | ui => exact kept_uiStep h hbase hhist hG hs
  | worker answer =>
    obtain ⟨w, hw, rfl⟩ := Option.map_eq_some_iff.mp hs
    exact kept_worker h hbase hhist hw answer
  | joining answer =>
    obtain ⟨w, hw, rfl⟩ := Option.map_eq_some_iff.mp hs
    have heffect : s.effect w answer = s.dropPartial w answer := by
      unfold effect; rw [hbase.joining w hw]
    dsimp only [workerStep]
    rw [heffect]
    exact h.frame rfl rfl rfl rfl rfl rfl
  | remux answer =>
    obtain ⟨t, ht, rfl⟩ := Option.map_eq_some_iff.mp hs
    obtain ⟨request, uiSucceeded, stage⟩ := t
    cases stage <;> exact h.frame rfl rfl rfl rfl rfl rfl
  | diskSpaceLow =>
    obtain rfl := Option.some.inj hs
    exact h.frame rfl rfl rfl rfl rfl rfl

/-! ## What a press comes to -/

/-- Every press that has returned is a stop of its own start, or kept the start from recording. -/
structure PressesKept (s : Coordinator) : Prop where
  oneWorker : ∀ w ∈ s.recordingThread, ∀ w' ∈ s.joining,
    ¬((w.stage.preparing || w.stage.recording) ∧ (w'.stage.preparing || w'.stage.recording))
  stopped : ∀ r ∈ s.pressed, r ∈ s.stops ∨ r ∉ s.recorded
  outcome : ∀ r ∈ s.pressed, ¬s.running r →
    r ∈ s.stops ∨ (r, .result false) ∈ s.posts ∨ r ∈ s.unwound ∧ s.Dropped r
  flags : s.recordingThread = none → s.ui.claiming = false →
    s.prepareInFlight = false ∧ s.isRecording = false
  ownStart : ∀ r ∈ s.unwound, s.Named r
  ownStop : ∀ p ∈ s.pressStops, p.2 = p.1

/-- In every run in which no test misses the recording it asks for. -/
theorem presses_kept {s s' : Coordinator} {as : List Action} (h : s.Fresh)
    (hG : StepRun.Meets step TestsInTime s as) (hs : s.exec as = some s') : s'.PressesKept := by
  have hinv : s'.Base ∧ s'.History ∧ s'.Kept :=
    StepRun.exec_invariant (I := fun s => s.Base ∧ s.History ∧ s.Kept)
      (fun _ _ _ hI hg hstep => ⟨base_step hI.1 hstep, history_step hI.2.1 hI.1 hstep,
        kept_step hI.2.2 hI.1 hI.2.1 hg hstep⟩)
      ⟨base_fresh h, history_fresh h, kept_fresh h⟩ hG hs
  obtain ⟨hbase, hhist, hkept⟩ := hinv
  constructor
  · intro w _ w' hw' hbusy
    rw [hbase.joining w' hw'] at hbusy
    exact nomatch hbusy.2
  · exact fun r hr => (hkept.pressed r hr).2.imp_right And.left
  · intro r hr hnot
    obtain ⟨hadmitted, hstops | ⟨hrecorded, -⟩⟩ := hkept.pressed r hr
    · exact .inl hstops
    · have hdropped := (hhist.dropped r hadmitted hnot).resolve_right hrecorded
      exact .inr (hdropped.posted.symm.imp_right fun hunwound => ⟨hunwound, hdropped⟩)
  · intro hnone hclaiming
    have hrecording := hbase.recording
    have hflight := hbase.inFlight
    rw [hnone] at hrecording hflight
    exact ⟨by rw [hflight, hclaiming]; rfl, hrecording⟩
  · exact fun r hr => (hkept.unwound r hr).1
  · exact hkept.stops

/-- The preparation up to its last checkpoint. -/
def prepareActions : List Action := List.replicate 15 (.worker true)

/-- A cancel before the commit, seen by the recheck after it. -/
theorem presses_kept_recheck :
    ∃ s, exec {} (startActions (sampleContext .matroska) ++ prepareActions ++
        .call .cancelPreparing :: List.replicate 4 .ui ++ List.replicate 9 (.worker true)) = some s ∧
      s.PressesKept := by
  obtain ⟨s, hs⟩ := Option.isSome_iff_exists.mp (show (exec {} (startActions (sampleContext .matroska)
    ++ prepareActions ++ .call .cancelPreparing :: List.replicate 4 .ui ++
    List.replicate 9 (.worker true))).isSome = true by decide)
  exact ⟨s, hs, presses_kept ⟨.ready, true, rfl, rfl⟩ (by decide) hs⟩

/-- `CancelPreparing` tests `is_recording_` before the commit and `prepare_in_flight_` after it: it
    returns, and the start records to its end. -/
theorem press_dropped :
    ¬ ∀ (s s' : Coordinator) (as : List Action), s.Fresh → s.exec as = some s' →
      ∀ r ∈ s'.pressed, ¬s'.running r →
        r ∈ s'.stops ∨ (r, .result false) ∈ s'.posts ∨ r ∈ s'.unwound ∧ s'.Dropped r := by
  intro h
  obtain ⟨s, hs, hview⟩ := (Option.any_eq_true _ _).mp (show (exec {} (startActions
    (sampleContext .matroska) ++ prepareActions ++ [.call .cancelPreparing, .ui] ++
    List.replicate 3 (.worker true) ++ .ui :: List.replicate 10 (.worker true))).any (fun s =>
      s.recordingThread.isNone && s.joining.isNone && s.pressed == [1] && s.stops == [] &&
      s.unwound == [] && !s.posts.elem (1, .result false)) = true by decide)
  simp only [Bool.and_eq_true, Option.isNone_iff_eq_none, beq_iff_eq, Bool.not_eq_true'] at hview
  obtain ⟨⟨⟨⟨⟨hthread, hjoining⟩, hpressed⟩, hstops⟩, hunwound⟩, hposts⟩ := hview
  have := h {} s _ ⟨.ready, true, rfl, rfl⟩ hs 1 (by simp [hpressed])
    (by simp [running, hthread, hjoining])
  simp [hstops, hunwound] at this
  simp [this] at hposts

end Coordinator

end Exosnap.Recording
