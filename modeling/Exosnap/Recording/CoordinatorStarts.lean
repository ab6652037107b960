/-
  Every start that was admitted: its thread is running, or it recorded, or it was unwound or refused
  and is gone without a trace.
-/
import Exosnap.Recording.CoordinatorHistory

namespace Exosnap.Recording

/-- `StartRecording` has minted an id. -/
def UiStep.minted : UiStep → Bool
  | .startGate _ | .startReject | .startClearCancel _ | .startPost _ | .startSpawn _ => true
  | _ => false

namespace Coordinator

structure History (s : Coordinator) : Prop where
  made : ∀ w ∈ s.recordingThread, s.Made w
  joining : ∀ w ∈ s.joining, s.Made w
  distinct : ∀ w ∈ s.recordingThread, ∀ w' ∈ s.joining, w'.request ≠ w.request
  dropped : ∀ r ∈ s.admitted, ¬s.running r → s.Dropped r ∨ r ∈ s.recorded
  threads : ∀ r, s.running r → r ∈ s.admitted
  remux : ∀ t ∈ s.remuxThread, t.request ∈ s.recorded
  mentions : ∀ r, s.Mentions r → r ∈ s.admitted
  minted : ∀ r ∈ s.admitted, r < s.nextRequest
  fresh : s.ui.minted = true → s.recordRequest ∉ s.admitted ∧ s.recordRequest < s.nextRequest

theorem history_fresh {s : Coordinator} (h : s.Fresh) : s.History := by
  obtain ⟨state, hasCaps, -, rfl⟩ := h
  constructor <;> simp [running, Mentions, UiStep.minted]

/-! ## Steps -/

/-- A step of the UI thread that starts no thread. -/
theorem History.uiStep {s s' : Coordinator} (h : s.History)
    (hthread : s'.recordingThread = s.recordingThread)
    (hjoining : s'.joining = s.joining) (hremux : s'.remuxThread = s.remuxThread)
    (hadmitted : s'.admitted = s.admitted) (htrace : s'.trace = s.trace)
    (hnext : s.nextRequest ≤ s'.nextRequest)
    (hfresh : s'.ui.minted = true →
      s'.recordRequest ∉ s.admitted ∧ s'.recordRequest < s'.nextRequest) : s'.History := by
  have hrunning : ∀ r, s'.running r ↔ s.running r := by
    intro r
    unfold running
    rw [hthread, hjoining]
  have htr := htrace
  simp only [trace, Prod.mk.injEq] at htr
  obtain ⟨h1, h2, h3, h4, -, h6, h7, h8, -⟩ := htr
  exact {
    made := by rw [hthread]; exact fun w hw => (h.made w hw).of_trace htrace
    joining := by rw [hjoining]; exact fun w hw => (h.joining w hw).of_trace htrace
    distinct := by rw [hthread, hjoining]; exact h.distinct
    dropped := by
      rw [hadmitted, h1]
      intro r hr hnot
      exact (h.dropped r hr (mt (hrunning r).mpr hnot)).imp_left fun hd => hd.of_trace htrace
    threads := by
      rw [hadmitted]
      exact fun r hr => h.threads r ((hrunning r).mp hr)
    remux := by rw [hremux, h1]; exact h.remux
    mentions := by
      intro r hr
      unfold Mentions at hr
      rw [h1, h2, h3, h4, h6, h7, h8] at hr
      rw [hadmitted]
      exact h.mentions r hr
    minted := by
      rw [hadmitted]
      exact fun r hr => Nat.lt_of_lt_of_le (h.minted r hr) hnext
    fresh := by rw [hadmitted]; exact hfresh }

theorem history_call {s s' : Coordinator} {c : Call} (h : s.History) (hs : s.call c = some s') :
    s'.History := by
  obtain ⟨-, press, rfl⟩ := call_eq hs
  refine h.uiStep rfl rfl rfl rfl rfl (Nat.le_refl _) ?_
  cases c <;> exact nofun

section
variable {s : Coordinator} {w : Worker} {answer : Bool}

theorem effect_remuxThread {t : Remux} (h : t ∈ (s.effect w answer).remuxThread) :
    t ∈ s.remuxThread ∨ t.request = w.request ∧ w.stage.afterRecord = true := by
  obtain ⟨request, ctx, stage, webcam, created⟩ := w
  cases stage with
  | startRemux => exact .inr ⟨by rw [← Option.some.inj h], rfl⟩
  | check c => cases c <;> exact .inl h
  | _ => exact .inl h

/-- A file dropped by another thread takes nothing from a running one. -/
theorem Made.dropPartial {w' : Worker} (h : s.Made w') : (s.dropPartial w answer).Made w' where
  recorded := h.recorded
  committed := h.committed
  unwound := h.unwound
  early := h.early
  entered := h.entered
  forgotten := fun hf => (h.forgotten hf).imp_right fun hr => by
    unfold Coordinator.dropPartial
    dsimp only
    split
    · exact List.mem_cons_of_mem _ hr
    · exact hr
  created := fun hcommit hr => by
    refine h.created hcommit ?_
    unfold Coordinator.dropPartial at hr
    dsimp only at hr
    split at hr
    · exact (List.mem_filter.mp hr).1
    · exact hr
  webcam := h.webcam
  stopped := h.stopped
  refused := h.refused
  left := h.left

/-- A thread that ends has recorded, or has dropped all it had made. -/
theorem made_end (h : s.Made w) (hnext : w.next s answer = none) :
    (s.effect w answer).Dropped w.request ∨ w.request ∈ (s.effect w answer).recorded := by
  have hstage : w.stage.afterRecord = true ∨ w.stage = .dropPartial := by
    unfold Worker.next at hnext
    cases hst : w.stage <;> rw [hst] at hnext <;>
      first | exact .inl rfl | exact .inr rfl | exact nomatch hnext
  rcases hstage with hafter | hdrop
  · exact .inr (mem_effect_recorded.mpr (.inl (h.recorded.mpr hafter)))
  · exact .inl (dropped_effect h hdrop)

end

/-- What a step of a thread leaves as it was, besides the thread itself. -/
theorem History.effect {s s' : Coordinator} {w : Worker} {answer : Bool} (h : s.History)
    (hw : s.running w.request) (hrunning : ∀ r, s'.running r → s.running r)
    (heffect : s'.trace = (s.effect w answer).trace)
    (hadmitted : s'.admitted = (s.effect w answer).admitted)
    (hui : s'.ui = (s.effect w answer).ui)
    (hrequest : s'.recordRequest = (s.effect w answer).recordRequest)
    (hnext : s'.nextRequest = (s.effect w answer).nextRequest)
    (hrecorded : ∀ t ∈ s'.remuxThread, t.request ∈ s'.recorded)
    (hmade : ∀ w ∈ s'.recordingThread, s'.Made w) (hjoining : ∀ w ∈ s'.joining, s'.Made w)
    (hdistinct : ∀ w ∈ s'.recordingThread, ∀ w' ∈ s'.joining, w'.request ≠ w.request)
    (hdropped : ∀ r ∈ s.admitted, ¬s'.running r → s'.Dropped r ∨ r ∈ s'.recorded) : s'.History where
  made := hmade
  joining := hjoining
  distinct := hdistinct
  dropped := by rw [hadmitted, effect_admitted]; exact hdropped
  threads := by
    rw [hadmitted, effect_admitted]
    exact fun r hr => h.threads r (hrunning r hr)
  remux := hrecorded
  mentions := by
    intro r hr
    simp only [trace, Prod.mk.injEq] at heffect
    obtain ⟨h1, h2, h3, h4, -, h6, h7, h8, -⟩ := heffect
    unfold Mentions at hr
    rw [h1, h2, h3, h4, h6, h7, h8] at hr
    rw [hadmitted, effect_admitted]
    rcases mentions_effect hr with hr | rfl
    · exact h.mentions r hr
    · exact h.threads _ hw
  minted := by rw [hadmitted, effect_admitted, hnext, effect_nextRequest]; exact h.minted
  fresh := by
    rw [hadmitted, effect_admitted, hnext, effect_nextRequest, hui, effect_ui, hrequest,
      effect_recordRequest]
    exact h.fresh

/-- A thread that is gone has ended. -/
theorem next_none {s : Coordinator} {w : Worker} {answer : Bool}
    (h : ¬running { s.effect w answer with
      recordingThread := (w.next s answer).map fun stage =>
        { w.keep answer with stage := stage } } w.request) : w.next s answer = none := by
  by_contra hne
  obtain ⟨stage, hstage⟩ := Option.ne_none_iff_exists'.mp hne
  refine h (.inl ⟨{ w.keep answer with stage := stage }, ?_, keep_request⟩)
  rw [hstage]
  rfl

theorem not_running {s : Coordinator} {w : Worker} {answer : Bool} {r : Nat}
    (hw : s.recordingThread = some w) (hne : r ≠ w.request)
    (h : ¬running { s.effect w answer with
      recordingThread := (w.next s answer).map fun stage =>
        { w.keep answer with stage := stage } } r) : ¬s.running r := by
  rintro (⟨w', hw', rfl⟩ | ⟨w', hw', rfl⟩)
  · rw [hw] at hw'
    exact hne (by rw [Option.some.inj hw'])
  · exact h (.inr ⟨w', by simpa using hw', rfl⟩)

theorem history_worker {s : Coordinator} {w : Worker} (h : s.History) (hbase : s.Base)
    (hw : s.recordingThread = some w) (answer : Bool) :
    History { s.effect w answer with
      recordingThread := (w.next s answer).map fun stage =>
        { w.keep answer with stage := stage } } := by
  have hmade := h.made w hw
  have hrunning : s.running w.request := .inl ⟨w, hw, rfl⟩
  have hthread : ∀ w' ∈ (w.next s answer).map fun stage =>
      { w.keep answer with stage := stage }, w'.request = w.request := by
    intro w' hw'
    obtain ⟨stage, -, rfl⟩ := Option.map_eq_some_iff.mp hw'
    exact keep_request
  refine h.effect hrunning ?_ rfl rfl rfl rfl rfl ?_ ?_ ?_ ?_ ?_
  · rintro r (⟨w', hw', rfl⟩ | ⟨w', hw', rfl⟩)
    · rw [hthread w' hw']; exact hrunning
    · exact .inr ⟨w', by simpa using hw', rfl⟩
  · intro t ht
    rcases effect_remuxThread ht with ht | ⟨hreq, hafter⟩
    · exact mem_effect_recorded.mpr (.inl (h.remux t ht))
    · rw [hreq]
      exact mem_effect_recorded.mpr (.inl (hmade.recorded.mpr hafter))
  · intro w' hw'
    obtain ⟨stage, hstage, rfl⟩ := Option.map_eq_some_iff.mp hw'
    exact (made_effect hmade hstage).of_trace rfl
  · intro w' hw'
    have hw' : w' ∈ s.joining := by simpa using hw'
    exact ((h.joining w' hw').effect_of_ne (hbase.joining w' hw') (h.distinct w hw w' hw')).of_trace
      rfl
  · intro w₁ hw₁ w' hw'
    rw [hthread w₁ hw₁]
    exact h.distinct w hw w' (by simpa using hw')
  · intro r hr hnot
    by_cases heq : r = w.request
    · subst heq
      exact (made_end hmade (next_none hnot)).imp_left fun hd => hd.of_trace rfl
    · exact (h.dropped r hr (not_running hw heq hnot)).imp (fun hd => (hd.effect_of_ne heq).of_trace rfl)
        fun hrec => mem_effect_recorded.mpr (.inl hrec)

theorem history_joining {s : Coordinator} {w : Worker} (h : s.History) (hbase : s.Base)
    (hw : s.joining = some w) (answer : Bool) :
    History { s.effect w answer with
      joining := (w.next s answer).map fun stage => { w.keep answer with stage := stage } } := by
  have hmade := h.joining w hw
  have hdrop := hbase.joining w hw
  have hnone : w.next s answer = none := by unfold Worker.next; rw [hdrop]
  have hrunning : s.running w.request := .inr ⟨w, hw, rfl⟩
  rw [hnone, Option.map_none]
  refine h.effect hrunning ?_ rfl rfl rfl rfl rfl ?_ ?_ ?_ ?_ ?_
  · rintro r (⟨w', hw', rfl⟩ | ⟨w', hw', -⟩)
    · exact .inl ⟨w', by simpa using hw', rfl⟩
    · exact nomatch hw'
  · intro t ht
    rcases effect_remuxThread ht with ht | ⟨-, hafter⟩
    · exact mem_effect_recorded.mpr (.inl (h.remux t ht))
    · rw [hdrop] at hafter
      exact nomatch hafter
  · intro w' hw'
    have hw' : w' ∈ s.recordingThread := by simpa using hw'
    have heffect : s.effect w answer = s.dropPartial w answer := by unfold effect; rw [hdrop]
    rw [heffect]
    exact (h.made w' hw').dropPartial.of_trace rfl
  · simp
  · simp
  · intro r hr hnot
    by_cases heq : r = w.request
    · subst heq
      exact (made_end hmade hnone).imp_left fun hd => hd.of_trace rfl
    · have hwas : ¬s.running r := by
        rintro (⟨w', hw', rfl⟩ | ⟨w', hw', rfl⟩)
        · exact hnot (.inl ⟨w', by simpa using hw', rfl⟩)
        · rw [hw] at hw'
          exact heq (by rw [Option.some.inj hw'])
      exact (h.dropped r hr hwas).imp (fun hd => (hd.effect_of_ne heq).of_trace rfl)
        fun hrec => mem_effect_recorded.mpr (.inl hrec)

/-- The remux thread posts, and takes an entry away or reports that it could not. -/
structure Fades (s s' : Coordinator) : Prop where
  recorded : s'.recorded = s.recorded
  committed : s'.committed = s.committed
  unwound : s'.unwound = s.unwound
  partials : s'.partials = s.partials
  webcam : s'.webcam = s.webcam
  manifest : ∀ r ∈ s'.manifest, r ∈ s.manifest
  unremoved : ∀ r ∈ s.unremoved, r ∈ s'.unremoved
  posts : ∀ post ∈ s.posts, post ∈ s'.posts

section
variable {s s' : Coordinator} {w : Worker}

theorem Made.fades (h : s.Made w) (hstage : w.stage = .dropPartial) (hf : s.Fades s') :
    s'.Made w where
  recorded := by rw [hf.recorded]; exact h.recorded
  committed := by rw [hf.committed]; exact h.committed
  unwound := fun _ => hstage
  early := by rw [hstage]; exact nofun
  entered := by rw [hstage]; exact nofun
  forgotten := fun hfor => (h.forgotten hfor).imp (fun hnot hr => hnot (hf.manifest _ hr))
    (hf.unremoved _)
  created := by rw [hf.partials]; exact h.created
  webcam := by rw [hf.webcam]; exact h.webcam
  stopped := by rw [hf.webcam, hf.unwound]; exact h.stopped
  refused := by rw [hstage]; exact nofun
  left := fun hst => by
    rw [hf.unwound]
    exact (h.left hst).imp_right (hf.posts _)

theorem Dropped.fades {r : Nat} (h : s.Dropped r) (hf : s.Fades s') : s'.Dropped r where
  recorded := by rw [hf.recorded]; exact h.recorded
  committed := by rw [hf.committed]; exact h.committed
  entry := h.entry.imp (fun hnot hr => hnot (hf.manifest _ hr)) (hf.unremoved _)
  partialFile := by
    rw [hf.partials]
    exact h.partialFile.imp_right (hf.unremoved _)
  webcam := by rw [hf.webcam, hf.unwound]; exact h.webcam
  posted := by
    rw [hf.unwound]
    exact h.posted.imp_right (hf.posts _)

theorem fades_takeEntry (s : Coordinator) (wanted removed : Bool) :
    s.Fades (s.takeEntry wanted removed) := by
  refine ⟨rfl, rfl, rfl, rfl, rfl, fun r hr => ?_, fun r hr => ?_, fun _ hpost => hpost⟩
  · unfold takeEntry at hr
    dsimp only at hr
    split at hr
    · exact (List.mem_filter.mp hr).1
    · exact hr
  · unfold takeEntry
    dsimp only
    split
    · exact List.mem_append_right _ hr
    · exact hr

theorem fades_remuxStep (s : Coordinator) (t : Remux) (answer : Bool) :
    s.Fades (s.remuxStep t answer) := by
  obtain ⟨request, uiSucceeded, stage⟩ := t
  cases stage with
  | forgetEntry ok =>
    obtain ⟨h1, h2, h3, h4, h5, h6, h7, h8⟩ := fades_takeEntry s ok answer
    exact ⟨h1, h2, h3, h4, h5, h6, h7, h8⟩
  | postResult | postTerminal =>
    exact ⟨rfl, rfl, rfl, rfl, rfl, fun _ hr => hr, fun _ hr => hr,
      fun _ hpost => List.mem_cons_of_mem _ hpost⟩
  | remux | clearRemuxing =>
    exact ⟨rfl, rfl, rfl, rfl, rfl, fun _ hr => hr, fun _ hr => hr, fun _ hpost => hpost⟩

theorem remuxStep_posts {t : Remux} {answer : Bool} {post : Nat × Post}
    (h : post ∈ (s.remuxStep t answer).posts) : post ∈ s.posts ∨ post.1 = t.request := by
  obtain ⟨request, uiSucceeded, stage⟩ := t
  cases stage with
  | postResult | postTerminal =>
    rcases List.mem_cons.mp h with rfl | h
    · exact .inr rfl
    · exact .inl h
  | remux | clearRemuxing | forgetEntry => exact .inl h

/-- The remux thread ends, or goes on for the same recording. -/
theorem remuxStep_remuxThread {t t' : Remux} {answer : Bool}
    (h : t' ∈ (s.remuxStep t answer).remuxThread) : t'.request = t.request := by
  obtain ⟨request, uiSucceeded, stage⟩ := t
  cases stage with
  | postTerminal => exact nomatch h
  | remux | clearRemuxing | forgetEntry | postResult => rw [← Option.some.inj h]

end

section
variable (s : Coordinator) (t : Remux) (answer : Bool)

@[simp] theorem remuxStep_thread : (s.remuxStep t answer).recordingThread = s.recordingThread := by
  unfold remuxStep; split <;> rfl

@[simp] theorem remuxStep_joining : (s.remuxStep t answer).joining = s.joining := by
  unfold remuxStep; split <;> rfl

@[simp] theorem remuxStep_admitted : (s.remuxStep t answer).admitted = s.admitted := by
  unfold remuxStep; split <;> rfl

@[simp] theorem remuxStep_ui : (s.remuxStep t answer).ui = s.ui := by
  unfold remuxStep; split <;> rfl

@[simp] theorem remuxStep_recordRequest :
    (s.remuxStep t answer).recordRequest = s.recordRequest := by
  unfold remuxStep; split <;> rfl

@[simp] theorem remuxStep_nextRequest : (s.remuxStep t answer).nextRequest = s.nextRequest := by
  unfold remuxStep; split <;> rfl

end

theorem history_remux {s : Coordinator} {t : Remux} (h : s.History) (hbase : s.Base)
    (ht : s.remuxThread = some t) (answer : Bool) : (s.remuxStep t answer).History := by
  have hf := fades_remuxStep s t answer
  have hthread : s.recordingThread = none := hbase.remux (by simp [ht])
  have hrecorded : t.request ∈ s.recorded := h.remux t ht
  have hrunning : ∀ r, (s.remuxStep t answer).running r ↔ s.running r := by
    intro r
    simp [running]
  constructor
  · simp [hthread]
  · rw [remuxStep_joining]
    exact fun w hw => (h.joining w hw).fades (hbase.joining w hw) hf
  · simp [hthread]
  · rw [remuxStep_admitted, hf.recorded]
    intro r hr hnot
    exact (h.dropped r hr (mt (hrunning r).mpr hnot)).imp_left fun hd => hd.fades hf
  · rw [remuxStep_admitted]
    exact fun r hr => h.threads r ((hrunning r).mp hr)
  · rw [hf.recorded]
    intro t' ht'
    rw [remuxStep_remuxThread ht']
    exact hrecorded
  · rw [remuxStep_admitted]
    intro r hr
    unfold Mentions at hr
    rw [hf.recorded, hf.committed, hf.unwound, hf.partials, hf.webcam] at hr
    rcases hr with hr | hr | hr | hr | hr | hr | ⟨post, hr⟩
    · exact h.mentions r (.inl hr)
    · exact h.mentions r (.inr (.inl hr))
    · exact h.mentions r (.inr (.inr (.inl hr)))
    · exact h.mentions r (.inr (.inr (.inr (.inl (hf.manifest r hr)))))
    · exact h.mentions r (.inr (.inr (.inr (.inr (.inl hr)))))
    · exact h.mentions r (.inr (.inr (.inr (.inr (.inr (.inl hr))))))
    · rcases remuxStep_posts hr with hr | rfl
      · exact h.mentions r (.inr (.inr (.inr (.inr (.inr (.inr ⟨post, hr⟩))))))
      · exact h.mentions _ (.inl hrecorded)
  · rw [remuxStep_admitted, remuxStep_nextRequest]
    exact h.minted
  · rw [remuxStep_ui, remuxStep_admitted, remuxStep_recordRequest, remuxStep_nextRequest]
    exact h.fresh

/-- The thread of a new start: nothing is known of its id. -/
theorem made_new {s : Coordinator} {w : Worker} (hstage : w.stage = .check .diskSpace)
    (hnot : ¬s.Mentions w.request) : s.Made w := by
  simp only [Mentions, not_or] at hnot
  obtain ⟨hrecorded, hcommitted, hunwound, hmanifest, hpartials, hwebcam, -⟩ := hnot
  constructor <;> try rw [hstage]
  · exact ⟨fun hr => absurd hr hrecorded, nofun⟩
  · exact ⟨fun hr => absurd hr hcommitted, nofun⟩
  · exact fun hr => absurd hr hunwound
  · exact fun _ => hmanifest
  · exact nofun
  · exact nofun
  · exact fun _ hr => absurd hr hpartials
  · exact fun hcam => absurd hcam hwebcam
  · exact fun _ => hwebcam
  · exact nofun
  · exact nofun

/-- A thread starts, and the one before it is waited for. -/
theorem history_spawn {s : Coordinator} (h : s.History) (hbase : s.Base) {ctx : PrepareContext}
    (hui : s.ui = .startSpawn ctx) : (s.startStep (.startSpawn ctx)).History := by
  obtain ⟨hfresh, hlt⟩ := h.fresh (by rw [hui]; rfl)
  have hjoining : s.joining = none := by
    by_contra hne
    have := hbase.joins hne
    rw [hui] at this
    exact nomatch this
  have hnot : ¬s.Mentions s.recordRequest := mt (h.mentions _) hfresh
  constructor <;> simp only [startStep]
  · rintro w ⟨⟩
    exact made_new rfl hnot
  · exact fun w hw => (h.made w hw).of_trace rfl
  · rintro w ⟨⟩ w' hw' heq
    have hmem := h.threads _ (.inl ⟨w', hw', rfl⟩)
    rw [heq] at hmem
    exact hfresh hmem
  · intro r hr hstopped
    rcases List.mem_cons.mp hr with rfl | hr
    · exact absurd (.inl ⟨_, rfl, rfl⟩) hstopped
    · refine (h.dropped r hr ?_).imp_left fun hd => hd.of_trace rfl
      rintro (⟨w, hw, rfl⟩ | ⟨w, hw, -⟩)
      · exact hstopped (.inr ⟨w, hw, rfl⟩)
      · rw [hjoining] at hw
        exact nomatch hw
  · rintro r (⟨w, hw, rfl⟩ | ⟨w, hw, rfl⟩)
    · rw [← Option.some.inj hw]
      exact List.mem_cons_self
    · exact List.mem_cons_of_mem _ (h.threads _ (.inl ⟨w, hw, rfl⟩))
  · exact h.remux
  · exact fun r hr => List.mem_cons_of_mem _ (h.mentions r hr)
  · intro r hr
    rcases List.mem_cons.mp hr with rfl | hr
    · exact hlt
    · exact h.minted r hr
  · exact nofun

theorem history_uiStep {s s' : Coordinator} (h : s.History) (hbase : s.Base)
    (hs : s.uiStep = some s') : s'.History := by
  have plain {s' : Coordinator} := @History.uiStep s s' h
  have hfresh := h.fresh
  unfold uiStep at hs
  cases hui : s.ui <;> rw [hui] at hs hfresh <;> dsimp only at hs
  case idle => cases hs
  case startJoin =>
    split_ifs at hs
    obtain rfl := Option.some.inj hs
    exact plain rfl rfl rfl rfl rfl (Nat.le_refl _) nofun
  case startSpawn ctx =>
    obtain rfl := Option.some.inj hs
    exact history_spawn h hbase hui
  case startMint ctx =>
    obtain rfl := Option.some.inj hs
    refine plain rfl rfl rfl rfl rfl (Nat.le_succ _) fun _ => ⟨fun hr => ?_, Nat.lt_succ_self _⟩
    exact Nat.lt_irrefl _ (h.minted _ hr)
  case startGate ctx =>
    obtain rfl := Option.some.inj hs
    simp only [startStep]
    split <;> exact plain rfl rfl rfl rfl rfl (Nat.le_refl _) fun _ => hfresh rfl
  case startClearCancel | startPost =>
    obtain rfl := Option.some.inj hs
    exact plain rfl rfl rfl rfl rfl (Nat.le_refl _) fun _ => hfresh rfl
  all_goals
    obtain rfl := Option.some.inj hs
    simp only [startStep, stopStep, cancelStep, pauseStep, resumeStep, diskStep]
    first
    | exact plain rfl rfl rfl rfl rfl (Nat.le_refl _) nofun
    | split <;> exact plain rfl rfl rfl rfl rfl (Nat.le_refl _) nofun

theorem history_step {s s' : Coordinator} {a : Action} (h : s.History) (hbase : s.Base)
    (hs : s.step a = some s') : s'.History := by
  unfold step at hs
  split_ifs at hs
  cases a with
  | call c => exact history_call h hs
  | ui => exact history_uiStep h hbase hs
  | worker answer =>
    obtain ⟨w, hw, rfl⟩ := Option.map_eq_some_iff.mp hs
    exact history_worker h hbase hw answer
  | joining answer =>
    obtain ⟨w, hw, rfl⟩ := Option.map_eq_some_iff.mp hs
    exact history_joining h hbase hw answer
  | remux answer =>
    obtain ⟨t, ht, rfl⟩ := Option.map_eq_some_iff.mp hs
    exact history_remux h hbase ht answer
  | diskSpaceLow =>
    obtain rfl := Option.some.inj hs
    exact h.uiStep rfl rfl rfl rfl rfl (Nat.le_refl _) h.fresh

theorem history_exec {s s' : Coordinator} {as : List Action} (h : s.Fresh)
    (hs : s.exec as = some s') : s'.Base ∧ s'.History :=
  StepRun.exec_invariant_all (I := fun s => s.Base ∧ s.History)
    (fun _ _ _ hI hstep => ⟨base_step hI.1 hstep, history_step hI.2 hI.1 hstep⟩)
    ⟨base_fresh h, history_fresh h⟩ hs

end Coordinator

end Exosnap.Recording
