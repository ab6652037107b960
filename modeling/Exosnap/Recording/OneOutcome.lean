/-
  Every start has one outcome: `Ready` and no result, or one result and the terminal state that goes
  with it, in every run in which the configuration of each start is accepted and no remux of a
  recording that ran out of disk space succeeds. The low-disk stop makes the result a failure, and
  the remux goes on to post `Completed` after it.
-/
import Exosnap.Recording.CoordinatorStarts

namespace Exosnap.Recording

/-- A result, or a state that a start ends in. -/
def Post.isOutcome : Post → Bool
  | .result _ => true
  | .state .ready | .state .completed | .state .failed => true
  | .state _ => false

/-- What the thread has posted of its outcome when it comes to the stage, the last first. -/
def Stage.posted : Stage → List Post
  | .failResult => [.state .failed]
  | .failRelease => [.result false, .state .failed]
  | .postTerminal completed => [.result completed]
  | _ => []

/-- What it posts of it there. -/
def Stage.adds : Stage → List Post
  | .failState => [.state .failed]
  | .failResult => [.result false]
  | .postResult uiSucceeded _ => [.result uiSucceeded]
  | .postTerminal completed => [.state (terminalOf completed)]
  | .unwindReady => [.state .ready]
  | _ => []

/-- The branch that picks the terminal state agrees with the result. -/
def Stage.agrees : Stage → Bool
  | .postResult uiSucceeded completed => uiSucceeded == completed
  | _ => true

def RemuxStage.posted : RemuxStage → List Post
  | .postTerminal ok => [.result ok]
  | _ => []

/-- What the thread posts of the outcome there. -/
def Remux.adds (t : Remux) : List Post :=
  match t.stage with
  | .postResult ok => [.result (ok && t.uiSucceeded)]
  | .postTerminal ok => [.state (terminalOf ok)]
  | _ => []

/-- The remux has succeeded. -/
def RemuxStage.done : RemuxStage → Bool
  | .remux => false
  | .clearRemuxing ok | .forgetEntry ok | .postResult ok | .postTerminal ok => ok

/-- `is_remuxing_` is set. -/
def RemuxStage.remuxing : RemuxStage → Bool
  | .remux | .clearRemuxing _ => true
  | _ => false

namespace Coordinator

/-- The outcome of the start, as far as it was posted. -/
def outcomes (s : Coordinator) (r : Nat) : List Post := (s.postsOf r).filter Post.isOutcome

/-- The start was unwound, or has one result and one terminal state. -/
def Closed (s : Coordinator) (r : Nat) : Prop :=
  r ∈ s.unwound ∧ s.outcomes r = [.state .ready] ∨
    ∃ succeeded, (s.outcomes r).Perm [.result succeeded, .state (terminalOf succeeded)]

/-- A thread that translates the configuration has one that is accepted, and a remux that succeeds
    is of a recording that succeeded. -/
def Agrees (s : Coordinator) (a : Action) : Prop :=
  match a with
  | .worker answer => ∀ w ∈ s.recordingThread,
      (w.stage = .coreConfig ∨ w.stage = .failResult → w.ctx.accepted = true) ∧
        (∀ uiSucceeded, w.stage = .drain uiSucceeded → answer = true → uiSucceeded = true)
  | .remux answer => ∀ t ∈ s.remuxThread, t.stage = .remux → answer = true → t.uiSucceeded = true
  | _ => True

instance (s : Coordinator) (a : Action) : Decidable (s.Agrees a) := by
  unfold Agrees; split <;> infer_instance

structure Outcomes (s : Coordinator) : Prop where
  agrees : ∀ w ∈ s.recordingThread, w.stage.agrees = true
  thread : ∀ w ∈ s.recordingThread, w.stage ≠ .dropPartial →
    s.outcomes w.request = w.stage.posted
  dropping : ∀ w ∈ s.recordingThread, w.stage = .dropPartial → s.Closed w.request
  joining : ∀ w ∈ s.joining, s.Closed w.request
  succeeded : ∀ t ∈ s.remuxThread, t.stage.done = true → t.uiSucceeded = true
  remux : ∀ t ∈ s.remuxThread, s.outcomes t.request = t.stage.posted
  done : ∀ r ∈ s.admitted, ¬s.running r → (∀ t ∈ s.remuxThread, t.request ≠ r) → s.Closed r
  remuxing : s.isRemuxing = s.remuxThread.any (·.stage.remuxing)
  committed : ∀ r ∈ s.recorded, r ∈ s.committed
  alive : s.terminated = false

theorem outcomes_fresh {s : Coordinator} (h : s.Fresh) : s.Outcomes := by
  obtain ⟨state, hasCaps, -, rfl⟩ := h
  constructor <;> simp

/-! ## What is posted -/

section
variable {s s' : Coordinator} {r : Nat}

theorem outcomes_eq (hposts : s'.posts = s.posts) : s'.outcomes r = s.outcomes r := by
  unfold outcomes postsOf
  rw [hposts]

theorem outcomes_cons {post : Nat × Post} (hposts : s'.posts = post :: s.posts) :
    s'.outcomes r =
      (if post.1 = r ∧ post.2.isOutcome = true then [post.2] else []) ++ s.outcomes r := by
  unfold outcomes postsOf
  rw [hposts]
  by_cases hr : post.1 = r <;> by_cases ho : post.2.isOutcome <;> simp [hr, ho]

theorem outcomes_nil (h : ∀ post, (r, post) ∉ s.posts) : s.outcomes r = [] := by
  unfold outcomes postsOf
  have hnone : s.posts.filter (fun post => post.1 = r) = [] := by
    rw [List.filter_eq_nil_iff]
    rintro ⟨r', post⟩ hpost hr
    simp only [decide_eq_true_eq] at hr
    exact h post (hr ▸ hpost)
  rw [hnone]
  rfl

theorem Closed.of_posts (h : s.Closed r) (hposts : s'.outcomes r = s.outcomes r)
    (hunwound : r ∈ s.unwound → r ∈ s'.unwound) : s'.Closed r := by
  unfold Closed
  rw [hposts]
  exact h.imp_left fun hr => ⟨hunwound hr.1, hr.2⟩

end

section
variable (s : Coordinator) (w : Worker) (answer : Bool)

/-- A configuration that is rejected leaves an exception in place of the result. -/
theorem outcomes_effect (haccepted : w.stage = .failResult → w.ctx.accepted = true) :
    (s.effect w answer).outcomes w.request = w.stage.adds ++ s.outcomes w.request := by
  obtain ⟨request, ctx, stage, webcam, created⟩ := w
  cases stage with
  | failState | postResult | unwindReady => exact (outcomes_cons rfl).trans (by simp [Post.isOutcome]; rfl)
  | postTerminal completed =>
    cases completed <;> exact (outcomes_cons rfl).trans (by simp [Post.isOutcome]; rfl)
  | postRecording | postSaving => exact (outcomes_cons rfl).trans (by simp [Post.isOutcome]; rfl)
  | failResult =>
    have haccepted : ctx.accepted = true := haccepted rfl
    refine (@outcomes_cons _ _ _ (request, .result false) ?_).trans (by simp [Post.isOutcome]; rfl)
    simp [effect, haccepted]
  | check c => cases c <;> exact outcomes_eq rfl
  | _ => exact outcomes_eq rfl

theorem outcomes_effect_of_ne {r : Nat} (hne : r ≠ w.request) :
    (s.effect w answer).outcomes r = s.outcomes r := by
  have hposts : ∀ s' : Coordinator, ∀ post, s'.posts = (w.request, post) :: s.posts →
      s'.outcomes r = s.outcomes r := by
    intro s' post hs'
    rw [outcomes_cons hs']
    simp [hne.symm]
  obtain ⟨request, ctx, stage, webcam, created⟩ := w
  cases stage with
  | failState | postResult | postTerminal | postRecording | postSaving | unwindReady =>
    exact hposts _ _ rfl
  | failResult =>
    cases haccepted : ctx.accepted with
    | true => exact hposts _ (.result false) (by simp [effect, haccepted])
    | false => exact outcomes_eq (by simp [effect, haccepted])
  | check c => cases c <;> exact outcomes_eq rfl
  | _ => exact outcomes_eq rfl

end

section
variable {s : Coordinator} {w : Worker} {answer : Bool} {stage : Stage}

/-- The outcome that the stage posts is the one the next stage has behind it. -/
theorem next_posted (h : w.next s answer = some stage) (hagrees : w.stage.agrees = true)
    (haccepted : w.stage = .failResult → w.ctx.accepted = true) (hlast : stage ≠ .dropPartial) :
    stage.posted = w.stage.adds ++ w.stage.posted := by
  have hleads := next_of_leads
    (p := fun a b => !a.agrees || (b == .dropPartial || (b == .failResult && a == .failResult ||
      b.posted == a.adds ++ a.posted))) (by decide) h
  simp only [hagrees, hlast, Bool.not_true, Bool.false_or, Bool.or_eq_true, Bool.and_eq_true,
    beq_iff_eq] at hleads
  rcases hleads with hdrop | ⟨hfail, hwas⟩ | heq
  · exact absurd hdrop (by decide)
  · unfold Worker.next at h
    rw [hwas] at h
    simp [haccepted hwas, hfail] at h
  · exact heq

theorem next_agrees (h : w.next s answer = some stage)
    (hdrain : ∀ uiSucceeded, w.stage = .drain uiSucceeded → answer = true → uiSucceeded = true) :
    stage.agrees = true := by
  have hleads := next_of_leads
    (p := fun a b => b.agrees || a matches .drain _) (by decide) h
  rw [Bool.or_eq_true] at hleads
  rcases hleads with hagrees | hdrained
  · exact hagrees
  · split at hdrained
    · next uiSucceeded hst =>
      unfold Worker.next at h
      rw [hst] at h
      rw [← Option.some.inj h]
      cases answer with
      | true => rw [hdrain uiSucceeded hst rfl]; rfl
      | false => rfl
    · exact nomatch hdrained

end

/-! ## Steps -/

/-- What the last stage before the file is dropped leaves posted. -/
theorem closed_dropPartial {s : Coordinator} {w : Worker} {answer : Bool} (h : s.Outcomes)
    (hw : s.recordingThread = some w) (hnext : w.next s answer = some .dropPartial) :
    (s.effect w answer).Closed w.request := by
  have hposted := h.thread w hw
  have houtcomes := outcomes_effect s w answer
  rcases next_dropPartial hnext rfl with hstage | hstage <;> rw [hstage] at hposted houtcomes
  · refine .inr ⟨false, ?_⟩
    rw [houtcomes nofun, hposted nofun]
    exact List.Perm.refl _
  · refine .inl ⟨mem_effect_unwound.mpr (.inr ⟨hstage, rfl⟩), ?_⟩
    rw [houtcomes nofun, hposted nofun]
    rfl

/-- The thread that ends has its outcome posted, or leaves it to the remux. -/
theorem closed_end {s : Coordinator} {w : Worker} {answer : Bool} (h : s.Outcomes)
    (hw : s.recordingThread = some w) (hnext : w.next s answer = none)
    (hremux : ∀ t ∈ (s.effect w answer).remuxThread, t.request ≠ w.request) :
    (s.effect w answer).Closed w.request := by
  have hposted := h.thread w hw
  have houtcomes := outcomes_effect s w answer
  cases hstage : w.stage with
  | startRemux uiSucceeded =>
    refine absurd rfl (hremux { request := w.request, uiSucceeded := uiSucceeded } ?_)
    unfold effect
    rw [hstage]
    rfl
  | postTerminal completed =>
    rw [hstage] at hposted houtcomes
    refine .inr ⟨completed, ?_⟩
    rw [houtcomes nofun, hposted nofun]
    exact List.Perm.swap _ _ _
  | dropPartial =>
    rw [hstage] at houtcomes
    exact (h.dropping w hw hstage).of_posts (houtcomes nofun) fun hr =>
      mem_effect_unwound.mpr (.inl hr)
  | _ =>
    unfold Worker.next at hnext
    rw [hstage] at hnext
    exact nomatch hnext

theorem Closed.effect_of_ne {s : Coordinator} {w : Worker} {answer : Bool} {r : Nat}
    (h : s.Closed r) (hne : r ≠ w.request) : (s.effect w answer).Closed r :=
  h.of_posts (outcomes_effect_of_ne s w answer hne) fun hr => mem_effect_unwound.mpr (.inl hr)

/-- The fields an outcome is read from. -/
theorem Closed.congr {s s' : Coordinator} {r : Nat} (h : s.Closed r) (hposts : s'.posts = s.posts)
    (hunwound : s'.unwound = s.unwound) : s'.Closed r :=
  h.of_posts (outcomes_eq hposts) fun hr => hunwound ▸ hr

theorem effect_isRemuxing {s : Coordinator} {w : Worker} {answer : Bool}
    (h : s.isRemuxing = s.remuxThread.any (·.stage.remuxing)) :
    (s.effect w answer).isRemuxing = (s.effect w answer).remuxThread.any (·.stage.remuxing) := by
  unfold effect
  split <;> first | exact h | rfl

theorem mem_effect_remux {s : Coordinator} {w : Worker} {answer : Bool} {t : Remux}
    (hnone : s.remuxThread = none) (h : t ∈ (s.effect w answer).remuxThread) :
    ∃ uiSucceeded, w.stage = .startRemux uiSucceeded ∧
      t = { request := w.request, uiSucceeded := uiSucceeded } := by
  have hnot : t ∉ s.remuxThread := by rw [hnone]; exact nofun
  obtain ⟨request, ctx, stage, webcam, created⟩ := w
  cases stage with
  | startRemux uiSucceeded => exact ⟨uiSucceeded, rfl, (Option.some.inj h).symm⟩
  | check c => cases c <;> exact absurd h hnot
  | _ => exact absurd h hnot

theorem effect_alive {s : Coordinator} {w : Worker} {answer : Bool} (h : s.terminated = false)
    (haccepted : w.stage = .coreConfig ∨ w.stage = .failResult → w.ctx.accepted = true) :
    (s.effect w answer).terminated = false := by
  obtain ⟨request, ctx, stage, webcam, created⟩ := w
  cases stage with
  | coreConfig =>
    have haccepted : ctx.accepted = true := haccepted (.inl rfl)
    simp [effect, haccepted]
  | failResult =>
    have haccepted : ctx.accepted = true := haccepted (.inr rfl)
    simp [effect, haccepted]
  | check c => cases c <;> exact h
  | _ => exact h

theorem outcomes_worker {s : Coordinator} {w : Worker} (h : s.Outcomes) (hbase : s.Base)
    (hhist : s.History) (hw : s.recordingThread = some w) (answer : Bool)
    (hG : s.Agrees (.worker answer)) :
    Outcomes { s.effect w answer with
      recordingThread := (w.next s answer).map fun stage =>
        { w.keep answer with stage := stage } } := by
  obtain ⟨haccepted, hdrain⟩ := hG w hw
  have hremuxNone : s.remuxThread = none := by
    by_contra hne
    exact absurd (hbase.remux hne) (by simp [hw])
  have hagrees := h.agrees w hw
  have hfresh := outcomes_effect s w answer fun hst => haccepted (.inr hst)
  constructor
  · intro w' hw'
    obtain ⟨stage, hnext, rfl⟩ := Option.map_eq_some_iff.mp hw'
    exact next_agrees hnext hdrain
  · intro w' hw' hlast
    obtain ⟨stage, hnext, rfl⟩ := Option.map_eq_some_iff.mp hw'
    have hlives : w.stage ≠ .dropPartial := by
      intro hdrop
      unfold Worker.next at hnext
      rw [hdrop] at hnext
      exact nomatch hnext
    rw [next_posted hnext hagrees (fun hst => haccepted (.inr hst)) hlast, ← h.thread w hw hlives,
      ← hfresh, outcomes_eq rfl]
    exact congrArg _ keep_request
  · intro w' hw' hdrop
    obtain ⟨stage, hnext, rfl⟩ := Option.map_eq_some_iff.mp hw'
    obtain rfl : stage = .dropPartial := hdrop
    have hclosed := closed_dropPartial h hw hnext
    have hreq : (w.keep answer).request = w.request := keep_request
    rw [← hreq] at hclosed
    exact hclosed.congr rfl rfl
  · intro w' hw'
    have hw' : w' ∈ s.joining := by simpa using hw'
    exact ((h.joining w' hw').effect_of_ne (hhist.distinct w hw w' hw')).congr rfl rfl
  · intro t ht hdone
    obtain ⟨uiSucceeded, -, rfl⟩ := mem_effect_remux hremuxNone ht
    exact nomatch hdone
  · intro t ht
    obtain ⟨uiSucceeded, hst, rfl⟩ := mem_effect_remux hremuxNone ht
    have hposted := h.thread w hw
    rw [hst] at hfresh hposted
    exact (outcomes_eq rfl).trans (hfresh.trans (hposted nofun))
  · intro r hr hnot hother
    rw [effect_admitted] at hr
    by_cases heq : r = w.request
    · subst heq
      exact (closed_end h hw (next_none hnot) hother).congr rfl rfl
    · have hclosed := h.done r hr (not_running hw heq hnot) (by simp [hremuxNone])
      exact (hclosed.effect_of_ne heq).congr rfl rfl
  · exact effect_isRemuxing h.remuxing
  · intro r hr
    rcases mem_effect_recorded.mp hr with hr | ⟨hrecord, rfl⟩
    · exact mem_effect_committed.mpr (.inl (h.committed r hr))
    · refine mem_effect_committed.mpr (.inl ((hhist.made w hw).committed.mpr ?_))
      rw [hrecord]
      rfl
  · exact effect_alive h.alive haccepted

/-- A step that posts nothing and starts no thread. -/
theorem Outcomes.frame {s s' : Coordinator} (h : s.Outcomes) (hposts : s'.posts = s.posts)
    (hunwound : s'.unwound = s.unwound) (hthread : s'.recordingThread = s.recordingThread)
    (hjoining : ∀ w ∈ s'.joining, w ∈ s.joining) (hremux : s'.remuxThread = s.remuxThread)
    (hadmitted : s'.admitted = s.admitted) (hrecorded : s'.recorded = s.recorded)
    (hcommitted : s'.committed = s.committed) (hremuxing : s'.isRemuxing = s.isRemuxing)
    (hterminated : s'.terminated = s.terminated)
    (hjoined : ∀ w ∈ s.joining, w ∉ s'.joining → s.Closed w.request) : s'.Outcomes where
  agrees := by rw [hthread]; exact h.agrees
  thread := by
    rw [hthread]
    exact fun w hw hlast => (outcomes_eq hposts).trans (h.thread w hw hlast)
  dropping := by
    rw [hthread]
    exact fun w hw hdrop => (h.dropping w hw hdrop).congr hposts hunwound
  joining := fun w hw => (h.joining w (hjoining w hw)).congr hposts hunwound
  succeeded := by rw [hremux]; exact h.succeeded
  remux := by
    rw [hremux]
    exact fun t ht => (outcomes_eq hposts).trans (h.remux t ht)
  done := by
    rw [hremux, hadmitted]
    intro r hr hnot hother
    have hclosed : s.Closed r := by
      by_cases hwas : s.running r
      · rcases hwas with ⟨w, hw, rfl⟩ | ⟨w, hw, rfl⟩
        · exact absurd (.inl ⟨w, hthread ▸ hw, rfl⟩) hnot
        · exact hjoined w hw fun hstill => hnot (.inr ⟨w, hstill, rfl⟩)
      · exact h.done r hr hwas hother
    exact hclosed.congr hposts hunwound
  remuxing := by rw [hremuxing, hremux]; exact h.remuxing
  committed := by rw [hrecorded, hcommitted]; exact h.committed
  alive := hterminated.trans h.alive

theorem outcomes_joining {s : Coordinator} {w : Worker} (h : s.Outcomes) (hbase : s.Base)
    (hw : s.joining = some w) (answer : Bool) :
    Outcomes { s.effect w answer with
      joining := (w.next s answer).map fun stage => { w.keep answer with stage := stage } } := by
  have hdrop := hbase.joining w hw
  have heffect : s.effect w answer = s.dropPartial w answer := by unfold effect; rw [hdrop]
  have hnone : w.next s answer = none := by unfold Worker.next; rw [hdrop]
  have hempty : ∀ w' : Worker, w' ∉ (none : Option Worker) := by simp
  rw [heffect, hnone, Option.map_none]
  exact h.frame rfl rfl rfl (fun w' hw' => absurd hw' (hempty w')) rfl rfl rfl rfl rfl rfl
    fun w' hw' _ => h.joining w' hw'

/-! ## The remux -/

section
variable {s : Coordinator} {t t' : Remux} {answer : Bool} {r : Nat}

theorem outcomes_remuxStep :
    (s.remuxStep t answer).outcomes t.request = t.adds ++ s.outcomes t.request := by
  obtain ⟨request, uiSucceeded, stage⟩ := t
  cases stage with
  | postResult ok => exact (outcomes_cons rfl).trans (by simp [Post.isOutcome]; rfl)
  | postTerminal ok =>
    cases ok <;> exact (outcomes_cons rfl).trans (by simp [Post.isOutcome]; rfl)
  | remux | clearRemuxing | forgetEntry => exact outcomes_eq rfl

theorem outcomes_remuxStep_of_ne (hne : r ≠ t.request) :
    (s.remuxStep t answer).outcomes r = s.outcomes r := by
  obtain ⟨request, uiSucceeded, stage⟩ := t
  cases stage with
  | postResult | postTerminal => exact (outcomes_cons rfl).trans (by simp [hne.symm])
  | remux | clearRemuxing | forgetEntry => exact outcomes_eq rfl

/-- The remux that has succeeded is of a recording that did: the result says so. -/
theorem remuxStep_posted (hdone : t.stage.done = true → t.uiSucceeded = true)
    (hnext : t' ∈ (s.remuxStep t answer).remuxThread) :
    t'.stage.posted = t.adds ++ t.stage.posted := by
  obtain ⟨request, uiSucceeded, stage⟩ := t
  cases stage with
  | postResult ok =>
    rw [← Option.some.inj hnext]
    cases ok with
    | true => rw [show uiSucceeded = true from hdone rfl]; rfl
    | false => rfl
  | postTerminal => exact nomatch hnext
  | remux | clearRemuxing | forgetEntry => rw [← Option.some.inj hnext]; rfl

theorem remuxStep_done (hdone : t.stage.done = true → t.uiSucceeded = true)
    (hremux : t.stage = .remux → answer = true → t.uiSucceeded = true)
    (hnext : t' ∈ (s.remuxStep t answer).remuxThread) :
    t'.stage.done = true → t'.uiSucceeded = true := by
  obtain ⟨request, uiSucceeded, stage⟩ := t
  cases stage with
  | remux => rw [← Option.some.inj hnext]; exact hremux rfl
  | postTerminal => exact nomatch hnext
  | clearRemuxing | forgetEntry | postResult => rw [← Option.some.inj hnext]; exact hdone

theorem remuxStep_remuxing (h : s.isRemuxing = t.stage.remuxing) :
    (s.remuxStep t answer).isRemuxing =
      (s.remuxStep t answer).remuxThread.any (·.stage.remuxing) := by
  obtain ⟨request, uiSucceeded, stage⟩ := t
  cases stage with
  | clearRemuxing => rfl
  | remux | forgetEntry | postResult | postTerminal => exact h

/-- The thread ends with its last post. -/
theorem closed_remux (h : s.outcomes t.request = t.stage.posted)
    (hnone : (s.remuxStep t answer).remuxThread = none) :
    (s.remuxStep t answer).Closed t.request := by
  have houtcomes : (s.remuxStep t answer).outcomes t.request = t.adds ++ s.outcomes t.request :=
    outcomes_remuxStep
  obtain ⟨request, uiSucceeded, stage⟩ := t
  cases stage with
  | postTerminal ok =>
    refine .inr ⟨ok, ?_⟩
    rw [houtcomes, h]
    exact List.Perm.swap _ _ _
  | remux | clearRemuxing | forgetEntry | postResult => exact nomatch hnone

end

theorem outcomes_remux {s : Coordinator} {t : Remux} (h : s.Outcomes) (hbase : s.Base)
    (hhist : s.History) (ht : s.remuxThread = some t) (answer : Bool)
    (hG : s.Agrees (.remux answer)) : (s.remuxStep t answer).Outcomes := by
  have hthread : s.recordingThread = none := hbase.remux (by simp [ht])
  have hfades := fades_remuxStep s t answer
  have hother : ∀ r, r ≠ t.request → s.Closed r → (s.remuxStep t answer).Closed r :=
    fun r hne hclosed => hclosed.of_posts (outcomes_remuxStep_of_ne hne) fun hr => by
      rw [hfades.unwound]
      exact hr
  constructor
  · simp [hthread]
  · simp [hthread]
  · simp [hthread]
  · rw [remuxStep_joining]
    intro w hw
    refine hother _ (fun heq => ?_) (h.joining w hw)
    have := (hhist.joining w hw).recorded.mp (heq ▸ hhist.remux t ht)
    rw [hbase.joining w hw] at this
    exact nomatch this
  · exact fun t' => remuxStep_done (h.succeeded t ht) (hG t ht)
  · intro t' ht'
    rw [remuxStep_remuxThread ht', outcomes_remuxStep, h.remux t ht]
    exact (remuxStep_posted (h.succeeded t ht) ht').symm
  · rw [remuxStep_admitted]
    intro r hr hnot hno
    by_cases heq : r = t.request
    · subst heq
      refine closed_remux (h.remux t ht) ?_
      by_contra hne
      obtain ⟨t', ht'⟩ := Option.ne_none_iff_exists'.mp hne
      exact hno t' ht' (remuxStep_remuxThread ht')
    · refine hother r heq (h.done r hr (fun hrun => hnot ?_) fun t' ht' hreq => heq ?_)
      · unfold running
        rw [remuxStep_thread, remuxStep_joining]
        exact hrun
      · rw [← hreq, Option.mem_unique ht' ht]
  · refine remuxStep_remuxing ?_
    rw [h.remuxing, ht]
    rfl
  · rw [hfades.recorded, hfades.committed]
    exact h.committed
  · obtain ⟨request, uiSucceeded, stage⟩ := t
    cases stage <;> exact h.alive

/-! ## Runs -/

/-- A start that begins has posted nothing, and the thread before it has its outcome. -/
theorem outcomes_spawn {s : Coordinator} {ctx : PrepareContext} (h : s.Outcomes) (hbase : s.Base)
    (hhist : s.History) (hui : s.ui = .startSpawn ctx) :
    (s.startStep (.startSpawn ctx)).Outcomes := by
  obtain ⟨hfresh, -⟩ := hhist.fresh (by rw [hui]; rfl)
  obtain ⟨hdrop, hremux⟩ := hbase.admitting (by rw [hui]; rfl)
  have hnew : s.outcomes s.recordRequest = [] := outcomes_nil fun post hpost =>
    hfresh (hhist.mentions _ (.inr (.inr (.inr (.inr (.inr (.inr ⟨post, hpost⟩)))))))
  have hjoining : s.joining = none := by
    by_contra hne
    have := hbase.joins hne
    rw [hui] at this
    exact nomatch this
  constructor
  · rintro w ⟨⟩; rfl
  · rintro w ⟨⟩ _; exact hnew
  · rintro w ⟨⟩ hstage; exact nomatch hstage
  · exact fun w hw => (h.dropping w hw (hdrop w hw)).congr rfl rfl
  · exact h.succeeded
  · exact h.remux
  · intro r hr hnot _
    rcases List.mem_cons.mp hr with rfl | hr
    · exact absurd (.inl ⟨_, rfl, rfl⟩) hnot
    · refine (h.done r hr ?_ (by simp [hremux])).congr rfl rfl
      rintro (⟨w, hw, rfl⟩ | ⟨w, hw, -⟩)
      · exact hnot (.inr ⟨w, hw, rfl⟩)
      · rw [hjoining] at hw
        exact nomatch hw
  · exact h.remuxing
  · exact h.committed
  · exact h.alive

theorem outcomes_uiStep {s s' : Coordinator} (h : s.Outcomes) (hbase : s.Base) (hhist : s.History)
    (hs : s.uiStep = some s') : s'.Outcomes := by
  have plain {s' : Coordinator} := @Outcomes.frame s s' h
  have keep : ∀ w ∈ s.joining, w ∉ s.joining → s.Closed w.request := fun w hw hnot => absurd hw hnot
  unfold uiStep at hs
  cases hui : s.ui <;> rw [hui] at hs <;> dsimp only at hs
  case idle => cases hs
  case startJoin =>
    split_ifs at hs
    obtain rfl := Option.some.inj hs
    exact plain rfl rfl rfl (fun _ => id) rfl rfl rfl rfl rfl rfl keep
  case startSpawn ctx =>
    obtain rfl := Option.some.inj hs
    exact outcomes_spawn h hbase hhist hui
  all_goals
    obtain rfl := Option.some.inj hs
    simp only [startStep, stopStep, cancelStep, pauseStep, resumeStep, diskStep]
    first
    | exact plain rfl rfl rfl (fun _ => id) rfl rfl rfl rfl rfl rfl keep
    | split <;> exact plain rfl rfl rfl (fun _ => id) rfl rfl rfl rfl rfl rfl keep

theorem outcomes_step {s s' : Coordinator} {a : Action} (h : s.Outcomes) (hbase : s.Base)
    (hhist : s.History) (hG : s.Agrees a) (hs : s.step a = some s') : s'.Outcomes := by
  have keep : ∀ w ∈ s.joining, w ∉ s.joining → s.Closed w.request := fun w hw hnot => absurd hw hnot
  unfold step at hs
  split_ifs at hs
  cases a with
  | call c =>
    obtain ⟨-, press, rfl⟩ := call_eq hs
    exact h.frame rfl rfl rfl (fun _ => id) rfl rfl rfl rfl rfl rfl keep
  | ui => exact outcomes_uiStep h hbase hhist hs
  | worker answer =>
    obtain ⟨w, hw, rfl⟩ := Option.map_eq_some_iff.mp hs
    exact outcomes_worker h hbase hhist hw answer hG
  | joining answer =>
    obtain ⟨w, hw, rfl⟩ := Option.map_eq_some_iff.mp hs
    exact outcomes_joining h hbase hw answer
  | remux answer =>
    obtain ⟨t, ht, rfl⟩ := Option.map_eq_some_iff.mp hs
    exact outcomes_remux h hbase hhist ht answer hG
  | diskSpaceLow =>
    obtain rfl := Option.some.inj hs
    exact h.frame rfl rfl rfl (fun _ => id) rfl rfl rfl rfl rfl rfl keep

/-! ## The outcome of a start -/

/-- The threads of the start have ended. -/
def Ended (s : Coordinator) (r : Nat) : Prop :=
  ¬s.running r ∧ ∀ t ∈ s.remuxThread, t.request ≠ r

structure OneOutcome (s : Coordinator) : Prop where
  alive : s.terminated = false
  closed : ∀ r ∈ s.admitted, s.Ended r → s.Closed r
  dropped : ∀ r ∈ s.admitted, s.Ended r → r ∉ s.committed → s.Dropped r
  flags : s.Over → s.ui.claiming = false →
    s.prepareInFlight = false ∧ s.isRecording = false ∧ s.isRemuxing = false

/-- In every run in which no thread's configuration is rejected and no recording that is reported as
    failed is remuxed with success. -/
theorem one_outcome {s s' : Coordinator} {as : List Action} (h : s.Fresh)
    (hG : StepRun.Meets step Agrees s as) (hs : s.exec as = some s') : s'.OneOutcome := by
  have hinv : s'.Base ∧ s'.History ∧ s'.Outcomes :=
    StepRun.exec_invariant (I := fun s => s.Base ∧ s.History ∧ s.Outcomes)
      (fun _ _ _ hI hg hstep => ⟨base_step hI.1 hstep, history_step hI.2.1 hI.1 hstep,
        outcomes_step hI.2.2 hI.1 hI.2.1 hg hstep⟩)
      ⟨base_fresh h, history_fresh h, outcomes_fresh h⟩ hG hs
  obtain ⟨hbase, hhist, houtcomes⟩ := hinv
  refine ⟨houtcomes.alive, fun r hr hended => houtcomes.done r hr hended.1 hended.2,
    fun r hr hended hcommitted => ?_, fun ⟨hdrop, hremux⟩ hclaiming => ?_⟩
  · exact (hhist.dropped r hr hended.1).resolve_right fun hrecorded =>
      hcommitted (houtcomes.committed r hrecorded)
  · have hthread : ∀ p : Stage → Bool, p .dropPartial = false →
        s'.recordingThread.any (fun w => p w.stage) = false := by
      intro p hp
      rw [Option.any_eq_false]
      intro w hw
      simp [hdrop w hw, hp]
    refine ⟨?_, ?_, ?_⟩
    · rw [hbase.inFlight, hthread _ rfl, hclaiming]; rfl
    · exact hbase.recording.trans (hthread _ rfl)
    · rw [houtcomes.remuxing, hremux]
      rfl

/-- From `Record()` to the end of the remux of a single MP4 file. -/
def remuxActions : List Action :=
  List.replicate 4 (.worker true) ++ .worker false :: List.replicate 2 (.worker true) ++
    List.replicate 5 (.remux true)

theorem one_outcome_mp4 :
    ∃ s, exec {} (startActions (sampleContext .mp4) ++ recordActions ++ remuxActions) = some s ∧
      s.OneOutcome := by
  obtain ⟨s, hs⟩ := Option.isSome_iff_exists.mp (show (exec {} (startActions (sampleContext .mp4) ++
    recordActions ++ remuxActions)).isSome = true by decide)
  exact ⟨s, hs, one_outcome ⟨.ready, true, rfl, rfl⟩ (by decide) hs⟩

/-- The disk runs low while an MP4 recording is made: its result is a failure, and the state is
    `Completed`. -/
theorem low_disk_completed :
    ¬ ∀ (s s' : Coordinator) (as : List Action), s.Fresh → s.exec as = some s' →
      ∀ r ∈ s'.admitted, s'.Ended r → s'.Closed r := by
  intro h
  obtain ⟨s, hs, hview⟩ := (Option.any_eq_true _ _).mp (show (exec {} (startActions
    (sampleContext .mp4) ++ recordActions ++ .diskSpaceLow :: remuxActions)).any (fun s =>
      s.recordingThread.isNone && s.joining.isNone && s.remuxThread.isNone && s.admitted == [1] &&
      s.outcomes 1 == [.state .completed, .result false]) = true by decide)
  simp only [Bool.and_eq_true, Option.isNone_iff_eq_none, beq_iff_eq] at hview
  obtain ⟨⟨⟨⟨hthread, hjoining⟩, hremux⟩, hadmitted⟩, houtcomes⟩ := hview
  have hclosed := h {} s _ ⟨.ready, true, rfl, rfl⟩ hs 1 (by simp [hadmitted])
    ⟨by simp [running, hthread, hjoining], by simp [hremux]⟩
  rcases hclosed with ⟨-, hready⟩ | ⟨succeeded, hperm⟩
  · rw [houtcomes] at hready
    cases hready
  · rw [houtcomes] at hperm
    cases succeeded <;> revert hperm <;> decide

end Coordinator

end Exosnap.Recording
