/-
  What each start has left behind: while its thread runs, by the stage the thread is at, and after
  the thread has ended. A start that was unwound or refused has recorded nothing, and its entry of
  the manifest, its partial file and its webcam are gone.
-/
import Exosnap.Recording.CoordinatorRuns

namespace Exosnap.Recording

/-! ## Parts of a start -/

/-- Nothing of the start is in the manifest yet. The early exits leave from here. -/
def Stage.early : Stage → Bool
  | .checkpoint .beforeCommit => false
  | .check _ | .checkpoint _ | .coreConfig | .webcam | .manifest | .failState | .failResult
  | .failRelease => true
  | _ => false

/-- The entry of the start, when there is one, is the current one. -/
def Stage.entered : Stage → Bool
  | .checkpoint _ | .commit | .recheck | .uncommit | .unwindCancel | .unwindWebcam
  | .unwindManifest => true
  | _ => false

/-- After the entry was removed. -/
def Stage.forgotten : Stage → Bool
  | .unwindRelease | .unwindReady | .dropPartial => true
  | _ => false

/-- After the webcam was stopped, on the way back to `Ready`. -/
def Stage.stopped : Stage → Bool
  | .unwindManifest | .unwindRelease | .unwindReady => true
  | _ => false

/-- The thread is on its way back to `Ready`. -/
def Stage.unwinding : Stage → Bool
  | .uncommit | .unwindCancel | .unwindWebcam | .unwindManifest | .unwindRelease
  | .unwindReady => true
  | _ => false

def Stage.afterRecord : Stage → Bool
  | .clearRecording _ | .clearPaused _ | .buildResult _ | .segments _ | .postSaving _ _
  | .startRemux _ | .drain _ | .publish _ | .forgetEntry _ | .postResult _ _
  | .postTerminal _ => true
  | _ => false

def Stage.afterCommit : Stage → Bool
  | .postRecording | .startDiskMonitor | .record => true
  | stage => stage.afterRecord

/-! ## The order of the stages -/

/-- The stages a thread can be at next. -/
def Stage.successors : Stage → List Stage
  | .check c => [c.next, .failState]
  | .checkpoint c => [c.next, .unwindCancel]
  | .coreConfig => [.check .admission, .coreConfig]
  | .webcam => [.checkpoint .afterWebcam]
  | .manifest => [.checkpoint .beforeCommit]
  | .commit => [.recheck]
  | .recheck => [.uncommit, .release]
  | .uncommit => [.unwindCancel]
  | .release => [.postRecording]
  | .postRecording => [.startDiskMonitor]
  | .startDiskMonitor => [.record]
  | .record => [.clearRecording true, .clearRecording false]
  | .clearRecording succeeded => [.clearPaused succeeded]
  | .clearPaused succeeded => [.buildResult succeeded]
  | .buildResult succeeded =>
      [.segments succeeded, .segments false, .publish succeeded, .publish false]
  | .segments uiSucceeded => [.postSaving true uiSucceeded, .postSaving false uiSucceeded]
  | .postSaving split uiSucceeded => [if split then .drain uiSucceeded else .startRemux uiSucceeded]
  | .drain uiSucceeded => [.postResult uiSucceeded true, .postResult false false]
  | .publish uiSucceeded => [.forgetEntry uiSucceeded, .forgetEntry false]
  | .forgetEntry uiSucceeded => [.postResult uiSucceeded uiSucceeded]
  | .postResult _ completed => [.postTerminal completed]
  | .failState => [.failResult]
  | .failResult => [.failRelease, .failResult]
  | .failRelease => [.dropPartial]
  | .unwindCancel => [.unwindWebcam]
  | .unwindWebcam => [.unwindManifest]
  | .unwindManifest => [.unwindRelease]
  | .unwindRelease => [.unwindReady]
  | .unwindReady => [.dropPartial]
  | .startRemux _ | .postTerminal _ | .dropPartial => []

theorem mem_successors {s : Coordinator} {w : Worker} {answer : Bool} {stage : Stage}
    (h : w.next s answer = some stage) : stage ∈ w.stage.successors := by
  obtain ⟨request, ctx, at_, webcam, created⟩ := w
  cases at_ with
  | check | record | segments | drain | publish =>
    cases answer <;> obtain rfl := Option.some.inj h <;> simp [Stage.successors]
  | checkpoint | coreConfig | recheck | postSaving | failResult =>
    obtain rfl := Option.some.inj h
    simp only [Stage.successors]
    split <;> simp
  | buildResult succeeded =>
    obtain rfl := Option.some.inj h
    cases s.diskStopTriggered <;> simp only [Stage.successors] <;> split <;> simp
  | startRemux | postTerminal | dropPartial => exact nomatch h
  | _ =>
    obtain rfl := Option.some.inj h
    exact List.mem_singleton_self _

def Stage.all : List Stage :=
  [.check .diskSpace, .check .outputFolder, .check .filename, .check .createDirectory,
    .check .createPartial, .check .admission, .check .targetPid, .check .validate,
    .checkpoint .afterFiles, .checkpoint .afterConfig, .checkpoint .afterWebcam,
    .checkpoint .beforeCommit, .coreConfig, .webcam, .manifest, .commit, .recheck, .uncommit,
    .release, .postRecording, .startDiskMonitor, .record, .failState, .failResult, .failRelease,
    .unwindCancel, .unwindWebcam, .unwindManifest, .unwindRelease, .unwindReady, .dropPartial,
    .clearRecording true, .clearRecording false, .clearPaused true, .clearPaused false,
    .buildResult true, .buildResult false, .segments true, .segments false, .startRemux true,
    .startRemux false, .drain true, .drain false, .publish true, .publish false,
    .forgetEntry true, .forgetEntry false, .postTerminal true, .postTerminal false,
    .postSaving true true, .postSaving true false, .postSaving false true,
    .postSaving false false, .postResult true true, .postResult true false,
    .postResult false true, .postResult false false]

theorem Stage.mem_all (stage : Stage) : stage ∈ Stage.all := by
  apply List.mem_of_elem_eq_true
  cases stage with
  | check c => cases c <;> rfl
  | checkpoint c => cases c <;> rfl
  | postSaving a b => cases a <;> cases b <;> rfl
  | postResult a b => cases a <;> cases b <;> rfl
  | clearRecording a => cases a <;> rfl
  | clearPaused a => cases a <;> rfl
  | buildResult a => cases a <;> rfl
  | segments a => cases a <;> rfl
  | startRemux a => cases a <;> rfl
  | drain a => cases a <;> rfl
  | publish a => cases a <;> rfl
  | forgetEntry a => cases a <;> rfl
  | postTerminal a => cases a <;> rfl
  | _ => rfl

/-- The relation holds from every stage to every one that can be next. -/
def Stage.leads (p : Stage → Stage → Bool) : Bool :=
  Stage.all.all fun stage => stage.successors.all (p stage)

theorem next_of_leads {p : Stage → Stage → Bool} (hp : Stage.leads p = true) {s : Coordinator}
    {w : Worker} {answer : Bool} {stage : Stage} (h : w.next s answer = some stage) :
    p w.stage stage = true :=
  List.all_eq_true.mp (List.all_eq_true.mp hp _ w.stage.mem_all) _ (mem_successors h)

section
variable {s : Coordinator} {w : Worker} {answer : Bool} {stage : Stage}

theorem next_afterRecord (h : w.next s answer = some stage) :
    stage.afterRecord = true ↔ w.stage.afterRecord = true ∨ w.stage = .record := by
  have := next_of_leads (p := fun a b => b.afterRecord == (a.afterRecord || a == .record))
    (by decide) h
  simp_all

theorem next_afterCommit (h : w.next s answer = some stage) :
    stage.afterCommit = true ↔ w.stage.afterCommit = true ∨ w.stage = .release := by
  have := next_of_leads (p := fun a b => b.afterCommit == (a.afterCommit || a == .release))
    (by decide) h
  simp_all

theorem next_early (h : w.next s answer = some stage) (hstage : stage.early = true) :
    w.stage.early = true ∧ w.stage ≠ .manifest := by
  have := next_of_leads (p := fun a b => !b.early || a.early && a != .manifest)
    (by decide) h
  simp_all

theorem next_entered (h : w.next s answer = some stage) (hstage : stage.entered = true) :
    w.stage.early = true ∨ w.stage.entered = true ∧ w.stage ≠ .unwindManifest := by
  have := next_of_leads (p := fun a b => !b.entered || a.early || a.entered && a != .unwindManifest)
    (by decide) h
  simp_all

theorem next_forgotten (h : w.next s answer = some stage) (hstage : stage.forgotten = true) :
    w.stage = .failRelease ∨ w.stage = .unwindManifest ∨ w.stage.forgotten = true := by
  have := next_of_leads
    (p := fun a b => !b.forgotten || (a == .failRelease || (a == .unwindManifest || a.forgotten)))
    (by decide) h
  simp_all

theorem next_stopped (h : w.next s answer = some stage) (hstage : stage.stopped = true) :
    w.stage = .unwindWebcam ∨ w.stage.stopped = true := by
  have := next_of_leads (p := fun a b => !b.stopped || a == .unwindWebcam || a.stopped)
    (by decide) h
  simp_all

theorem next_dropPartial (h : w.next s answer = some stage) (hstage : stage = .dropPartial) :
    w.stage = .failRelease ∨ w.stage = .unwindReady := by
  have := next_of_leads (p := fun a b => b != .dropPartial || a == .failRelease || a == .unwindReady)
    (by decide) h
  simp_all

end

namespace Coordinator

/-! ## What a step adds -/

section
variable {s : Coordinator} {w : Worker} {answer : Bool} {r : Nat}

theorem mem_effect_recorded :
    r ∈ (s.effect w answer).recorded ↔ r ∈ s.recorded ∨ w.stage = .record ∧ r = w.request := by
  obtain ⟨request, ctx, stage, webcam, created⟩ := w
  cases stage with
  | record => simp [effect, or_comm]
  | check c => cases c <;> simp [effect]
  | _ => simp [effect, postState, postResult, takeEntry, dropPartial]

theorem mem_effect_committed :
    r ∈ (s.effect w answer).committed ↔ r ∈ s.committed ∨ w.stage = .release ∧ r = w.request := by
  obtain ⟨request, ctx, stage, webcam, created⟩ := w
  cases stage with
  | release => simp [effect, or_comm]
  | check c => cases c <;> simp [effect]
  | _ => simp [effect, postState, postResult, takeEntry, dropPartial]

theorem mem_effect_unwound :
    r ∈ (s.effect w answer).unwound ↔
      r ∈ s.unwound ∨ w.stage = .unwindReady ∧ r = w.request := by
  obtain ⟨request, ctx, stage, webcam, created⟩ := w
  cases stage with
  | unwindReady => simp [effect, postState, or_comm]
  | check c => cases c <;> simp [effect]
  | _ => simp [effect, postState, postResult, takeEntry, dropPartial]

theorem mem_effect_manifest (h : r ∈ (s.effect w answer).manifest) :
    r ∈ s.manifest ∨ w.stage = .manifest ∧ answer = true ∧ r = w.request := by
  obtain ⟨request, ctx, stage, webcam, created⟩ := w
  cases stage with
  | manifest => cases answer <;> simp_all [effect, or_comm]
  | check c => cases c <;> exact .inl h
  | forgetEntry | unwindManifest =>
    simp only [effect, takeEntry] at h
    split at h
    · exact .inl ((List.mem_filter.mp h).1)
    · exact .inl h
  | _ => exact .inl h

theorem mem_effect_partials (h : r ∈ (s.effect w answer).partials) :
    r ∈ s.partials ∨ w.stage = .check .createPartial ∧ answer = true ∧ r = w.request := by
  obtain ⟨request, ctx, stage, webcam, created⟩ := w
  cases stage with
  | check c =>
    cases c with
    | createPartial => cases answer <;> simp_all [effect, or_comm]
    | _ => exact .inl h
  | dropPartial =>
    simp only [effect, Coordinator.dropPartial] at h
    split at h
    · exact .inl ((List.mem_filter.mp h).1)
    · exact .inl h
  | _ => exact .inl h

theorem effect_webcam (h : (s.effect w answer).webcam = some r) :
    s.webcam = some r ∨ w.stage = .webcam ∧ answer = true ∧ r = w.request := by
  obtain ⟨request, ctx, stage, webcam, created⟩ := w
  cases stage with
  | check c => cases c <;> exact .inl h
  | webcam => cases answer <;> simp_all [effect]
  | unwindWebcam =>
    simp only [effect] at h
    split at h
    · cases h
    · exact .inl h
  | _ => exact .inl h

theorem mem_effect_unremoved (h : r ∈ s.unremoved) : r ∈ (s.effect w answer).unremoved := by
  obtain ⟨request, ctx, stage, webcam, created⟩ := w
  cases stage with
  | check c => cases c <;> exact h
  | forgetEntry | unwindManifest | dropPartial =>
    simp only [effect, takeEntry, Coordinator.dropPartial]
    split
    · simp [h]
    · exact h
  | _ => exact h

end

/-! ## What a start has left -/

/-- Of a start whose thread is running. -/
structure Made (s : Coordinator) (w : Worker) : Prop where
  recorded : w.request ∈ s.recorded ↔ w.stage.afterRecord = true
  committed : w.request ∈ s.committed ↔ w.stage.afterCommit = true
  unwound : w.request ∈ s.unwound → w.stage = .dropPartial
  early : w.stage.early = true → w.request ∉ s.manifest
  entered : w.stage.entered = true → w.request ∈ s.manifest → s.currentManifestId = some w.request
  forgotten : w.stage.forgotten = true → w.request ∉ s.manifest ∨ w.request ∈ s.unremoved
  created : w.stage.afterCommit = false → w.request ∈ s.partials → w.partialCreated = true
  webcam : s.webcam = some w.request → w.webcamStartedByUs = true
  stopped : w.stage.stopped = true ∨ w.request ∈ s.unwound → s.webcam ≠ some w.request
  refused : w.stage = .failRelease → (w.request, .result false) ∈ s.posts
  left : w.stage = .dropPartial → w.request ∈ s.unwound ∨ (w.request, .result false) ∈ s.posts

/-- Of a start that was unwound or refused, after its thread has ended. -/
structure Dropped (s : Coordinator) (r : Nat) : Prop where
  recorded : r ∉ s.recorded
  committed : r ∉ s.committed
  entry : r ∉ s.manifest ∨ r ∈ s.unremoved
  partialFile : r ∉ s.partials ∨ r ∈ s.unremoved
  webcam : r ∈ s.unwound → s.webcam ≠ some r
  posted : r ∈ s.unwound ∨ (r, .result false) ∈ s.posts

section
variable {s : Coordinator} {w : Worker} {answer : Bool} {stage : Stage}

theorem keep_request : (w.keep answer).request = w.request := by
  unfold Worker.keep
  split
  · split <;> rfl
  · split <;> rfl
  · rfl
  · rfl

theorem keep_created (h : w.partialCreated = true) (hstage : w.stage ≠ .release) :
    (w.keep answer).partialCreated = true := by
  unfold Worker.keep
  split
  · split
    · rfl
    · exact h
  · split <;> exact h
  · next hrelease => exact absurd hrelease hstage
  · exact h

theorem keep_webcam (h : w.webcamStartedByUs = true) : (w.keep answer).webcamStartedByUs = true := by
  unfold Worker.keep
  split
  · split <;> exact h
  · split
    · rfl
    · exact h
  · exact h
  · exact h

theorem effect_current (hentered : w.stage.entered = true) (hstage : w.stage ≠ .unwindManifest) :
    (s.effect w answer).currentManifestId = s.currentManifestId := by
  obtain ⟨request, ctx, at_, webcam, created⟩ := w
  cases at_ with
  | check c => cases c <;> rfl
  | unwindManifest => exact absurd rfl hstage
  | manifest | drain | forgetEntry => exact nomatch hentered
  | _ => rfl

/-- The entry of the start is removed, or the store has said that it was not. -/
theorem effect_unwindManifest (h : s.Made w) (hstage : w.stage = .unwindManifest) :
    w.request ∉ (s.effect w answer).manifest ∨ w.request ∈ (s.effect w answer).unremoved := by
  have hcurrent := h.entered (by rw [hstage]; rfl)
  have heffect : s.effect w answer = s.takeEntry true answer := by unfold effect; rw [hstage]
  rw [heffect]
  by_cases hmem : w.request ∈ s.manifest
  · cases answer with
    | true => exact .inl (by simp [takeEntry, hcurrent hmem])
    | false => exact .inr (by simp [takeEntry, hcurrent hmem])
  · left
    intro hr
    unfold takeEntry at hr
    dsimp only at hr
    split at hr
    · exact hmem (List.mem_filter.mp hr).1
    · exact hmem hr

theorem mem_effect_posts {post : Nat × Post} (h : post ∈ s.posts) :
    post ∈ (s.effect w answer).posts := by
  obtain ⟨request, ctx, at_, webcam, created⟩ := w
  cases at_ with
  | check c => cases c <;> exact h
  | failResult =>
    simp only [effect]
    split
    · exact List.mem_cons_of_mem _ h
    · exact h
  | postRecording | postSaving | postResult | postTerminal | failState | unwindReady =>
    exact List.mem_cons_of_mem _ h
  | _ => exact h

theorem made_effect (h : s.Made w) (hnext : w.next s answer = some stage) :
    (s.effect w answer).Made { w.keep answer with stage := stage } := by
  have hreq : ({ w.keep answer with stage := stage } : Worker).request = w.request := keep_request
  have hlives : w.stage ≠ .dropPartial := by
    intro hdrop
    unfold Worker.next at hnext
    rw [hdrop] at hnext
    exact nomatch hnext
  constructor <;> rw [hreq] <;> dsimp only
  · rw [mem_effect_recorded, h.recorded, next_afterRecord hnext]
    simp
  · rw [mem_effect_committed, h.committed, next_afterCommit hnext]
    simp
  · intro hr
    rcases mem_effect_unwound.mp hr with hr | ⟨hready, -⟩
    · exact absurd (h.unwound hr) hlives
    · unfold Worker.next at hnext
      rw [hready] at hnext
      exact (Option.some.inj hnext).symm
  · intro hearly hr
    obtain ⟨hwas, hne⟩ := next_early hnext hearly
    rcases mem_effect_manifest hr with hr | ⟨hstage, -⟩
    · exact h.early hwas hr
    · exact hne hstage
  · intro hentered hr
    rcases mem_effect_manifest hr with hr | ⟨hstage, rfl, -⟩
    · rcases next_entered hnext hentered with hearly | ⟨hwas, hne⟩
      · exact absurd hr (h.early hearly)
      · rw [effect_current hwas hne]
        exact h.entered hwas hr
    · unfold effect
      rw [hstage]
      rfl
  · intro hforgotten
    rcases next_forgotten hnext hforgotten with hstage | hstage | hwas
    · refine .inl fun hr => ?_
      rcases mem_effect_manifest hr with hr | ⟨hmanifest, -⟩
      · exact h.early (by rw [hstage]; rfl) hr
      · rw [hstage] at hmanifest; exact nomatch hmanifest
    · exact effect_unwindManifest h hstage
    · refine (h.forgotten hwas).imp (fun hnot hr => ?_) mem_effect_unremoved
      rcases mem_effect_manifest hr with hr | ⟨hmanifest, -⟩
      · exact hnot hr
      · rw [hmanifest] at hwas; exact nomatch hwas
  · intro hcommit hr
    have hnot : ¬(w.stage.afterCommit = true ∨ w.stage = .release) := by
      rw [← next_afterCommit hnext]; simp [hcommit]
    rw [not_or, Bool.not_eq_true] at hnot
    rcases mem_effect_partials hr with hr | ⟨hstage, rfl, -⟩
    · exact keep_created (h.created hnot.1 hr) hnot.2
    · unfold Worker.keep
      rw [hstage]
      rfl
  · intro hcam
    rcases effect_webcam hcam with hcam | ⟨hstage, rfl, -⟩
    · exact keep_webcam (h.webcam hcam)
    · unfold Worker.keep
      rw [hstage]
      rfl
  · intro hor hcam
    have hwas : w.stage = .unwindWebcam ∨ w.stage.stopped = true := by
      rcases hor with hstopped | hr
      · exact next_stopped hnext hstopped
      · rcases mem_effect_unwound.mp hr with hr | ⟨hready, -⟩
        · exact absurd (h.unwound hr) hlives
        · rw [hready]; exact .inr rfl
    rcases hwas with hstage | hstopped
    · have hwebcam : s.webcam = some w.request := by
        rcases effect_webcam hcam with hcam | ⟨hat, -⟩
        · exact hcam
        · rw [hstage] at hat; exact nomatch hat
      unfold effect at hcam
      rw [hstage] at hcam
      simp [h.webcam hwebcam] at hcam
    · rcases effect_webcam hcam with hcam | ⟨hat, -⟩
      · exact h.stopped (.inl hstopped) hcam
      · rw [hat] at hstopped; exact nomatch hstopped
  · rintro rfl
    have := next_of_leads (p := fun a b => b != .failRelease || a == .failResult) (by decide)
      hnext
    have hstage : w.stage = .failResult := by simpa using this
    unfold Worker.next at hnext
    rw [hstage] at hnext
    have haccepted : w.ctx.accepted = true := by
      by_contra hrejected
      simp [hrejected] at hnext
    unfold effect
    rw [hstage]
    simp [haccepted]
  · intro hdrop
    rcases next_dropPartial hnext hdrop with hstage | hstage
    · exact .inr (mem_effect_posts (h.refused hstage))
    · exact .inl (mem_effect_unwound.mpr (.inr ⟨hstage, rfl⟩))

/-- The last step of an exit before the commit. -/
theorem dropped_effect (h : s.Made w) (hstage : w.stage = .dropPartial) :
    (s.effect w answer).Dropped w.request := by
  have heffect : s.effect w answer = s.dropPartial w answer := by unfold effect; rw [hstage]
  rw [heffect]
  have hforgotten := h.forgotten (by rw [hstage]; rfl)
  have hmono : w.request ∈ s.unremoved → w.request ∈ (s.dropPartial w answer).unremoved := by
    rw [← heffect]; exact mem_effect_unremoved
  constructor
  · exact fun hr => by have := h.recorded.mp hr; rw [hstage] at this; exact nomatch this
  · exact fun hr => by have := h.committed.mp hr; rw [hstage] at this; exact nomatch this
  · exact hforgotten.imp id hmono
  · by_cases hmem : w.request ∈ s.partials
    · have hcreated := h.created (by rw [hstage]; rfl) hmem
      cases answer with
      | true => exact .inl (by simp [Coordinator.dropPartial, hcreated])
      | false => exact .inr (by simp [Coordinator.dropPartial, hcreated])
    · left
      intro hr
      unfold Coordinator.dropPartial at hr
      dsimp only at hr
      split at hr
      · exact hmem (List.mem_filter.mp hr).1
      · exact hmem hr
  · exact fun hr => h.stopped (.inr hr)
  · exact h.left hstage

/-! ## Frames -/

theorem Dropped.effect_of_ne {r : Nat} (h : s.Dropped r) (hne : r ≠ w.request) :
    (s.effect w answer).Dropped r where
  recorded := fun hr => h.recorded ((mem_effect_recorded.mp hr).resolve_right fun hw => hne hw.2)
  committed := fun hr => h.committed ((mem_effect_committed.mp hr).resolve_right fun hw => hne hw.2)
  entry := h.entry.imp
    (fun hnot hr => hnot ((mem_effect_manifest hr).resolve_right fun hw => hne hw.2.2))
    mem_effect_unremoved
  partialFile := h.partialFile.imp
    (fun hnot hr => hnot ((mem_effect_partials hr).resolve_right fun hw => hne hw.2.2))
    mem_effect_unremoved
  webcam := fun hr hcam => h.webcam ((mem_effect_unwound.mp hr).resolve_right fun hw => hne hw.2)
    ((effect_webcam hcam).resolve_right fun hw => hne hw.2.2)
  posted := h.posted.imp (fun hr => mem_effect_unwound.mpr (.inl hr)) mem_effect_posts

/-- A thread that drops its file is not touched by the steps of another start. -/
theorem Made.effect_of_ne {w' : Worker} (h : s.Made w') (hstage : w'.stage = .dropPartial)
    (hne : w'.request ≠ w.request) : (s.effect w answer).Made w' where
  recorded := by rw [mem_effect_recorded, ← h.recorded]; simp [hne]
  committed := by rw [mem_effect_committed, ← h.committed]; simp [hne]
  unwound := fun _ => hstage
  early := by rw [hstage]; exact nofun
  entered := by rw [hstage]; exact nofun
  forgotten := fun hf => (h.forgotten hf).imp
    (fun hnot hr => hnot ((mem_effect_manifest hr).resolve_right fun hw => hne hw.2.2))
    mem_effect_unremoved
  created := fun hcommit hr => h.created hcommit
    ((mem_effect_partials hr).resolve_right fun hw => hne hw.2.2)
  webcam := fun hcam => h.webcam ((effect_webcam hcam).resolve_right fun hw => hne hw.2.2)
  stopped := fun hor hcam => h.stopped
    (hor.imp id fun hr => (mem_effect_unwound.mp hr).resolve_right fun hw => hne hw.2)
    ((effect_webcam hcam).resolve_right fun hw => hne hw.2.2)
  refused := by rw [hstage]; exact nofun
  left := fun hst => (h.left hst).imp (fun hr => mem_effect_unwound.mpr (.inl hr)) mem_effect_posts

/-- The fields that say what the starts have left. -/
def trace (s : Coordinator) :=
  (s.recorded, s.committed, s.unwound, s.manifest, s.currentManifestId, s.partials, s.webcam,
    s.posts, s.unremoved)

theorem Made.of_trace {s' : Coordinator} (h : s.Made w) (htrace : s'.trace = s.trace) :
    s'.Made w := by
  simp only [trace, Prod.mk.injEq] at htrace
  obtain ⟨h1, h2, h3, h4, h5, h6, h7, h8, h9⟩ := htrace
  obtain ⟨⟩ := h
  constructor <;> simp only [h1, h2, h3, h4, h5, h6, h7, h8, h9] <;> assumption

theorem Dropped.of_trace {s' : Coordinator} {r : Nat} (h : s.Dropped r)
    (htrace : s'.trace = s.trace) : s'.Dropped r := by
  simp only [trace, Prod.mk.injEq] at htrace
  obtain ⟨h1, h2, h3, h4, -, h6, h7, h8, h9⟩ := htrace
  obtain ⟨⟩ := h
  constructor <;> simp only [h1, h2, h3, h4, h6, h7, h8, h9] <;> assumption

/-- The start is named somewhere. -/
def Mentions (s : Coordinator) (r : Nat) : Prop :=
  r ∈ s.recorded ∨ r ∈ s.committed ∨ r ∈ s.unwound ∨ r ∈ s.manifest ∨ r ∈ s.partials ∨
    s.webcam = some r ∨ ∃ post, (r, post) ∈ s.posts

theorem effect_posts {post : Nat × Post} (h : post ∈ (s.effect w answer).posts) :
    post ∈ s.posts ∨ post.1 = w.request := by
  obtain ⟨request, ctx, at_, webcam, created⟩ := w
  cases at_ with
  | check c => cases c <;> exact .inl h
  | failResult =>
    simp only [effect] at h
    split at h
    · rcases List.mem_cons.mp h with rfl | h
      · exact .inr rfl
      · exact .inl h
    · exact .inl h
  | postRecording | postSaving | postResult | postTerminal | failState | unwindReady =>
    rcases List.mem_cons.mp h with rfl | h
    · exact .inr rfl
    · exact .inl h
  | _ => exact .inl h

theorem mentions_effect {r : Nat} (h : (s.effect w answer).Mentions r) :
    s.Mentions r ∨ r = w.request := by
  rcases h with h | h | h | h | h | h | ⟨post, h⟩
  · exact (mem_effect_recorded.mp h).imp .inl And.right
  · exact (mem_effect_committed.mp h).imp (.inr ∘ .inl) And.right
  · exact (mem_effect_unwound.mp h).imp (fun hr => .inr (.inr (.inl hr))) And.right
  · exact (mem_effect_manifest h).imp (fun hr => .inr (.inr (.inr (.inl hr)))) fun hw => hw.2.2
  · exact (mem_effect_partials h).imp (fun hr => .inr (.inr (.inr (.inr (.inl hr))))) fun hw => hw.2.2
  · exact (effect_webcam h).imp (fun hr => .inr (.inr (.inr (.inr (.inr (.inl hr)))))) fun hw => hw.2.2
  · exact (effect_posts h).imp (fun hr => .inr (.inr (.inr (.inr (.inr (.inr ⟨post, hr⟩)))))) id

end

end Coordinator

end Exosnap.Recording
