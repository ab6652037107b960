/-
  Which stops reach the recording they name. A stop that takes the lock while recording B owns
  the session state raises B's stop token, whatever else is called meanwhile. A stop that comes
  earlier waits in the one slot of `PendingStopTracker`, and B starts stopped if the slot still
  holds it at the take-over. The slot is given up on purpose by every `Record` call that takes
  over, is rejected or ends, and by a later stop that is noted for another recording; and a stop
  is not taken in at all while another recording runs (`dropped_stop_runs_on`).

  `starts_stopped_iff` says that the condition `KeepsPending` of the first kind of stop excludes
  nothing else: a recording starts stopped exactly when such a stop precedes it.
-/
import Mathlib.Data.List.Induction
import Exosnap.Engine.SessionStopSteps

namespace Exosnap.Engine.SessionStop

open StepRun

/-! ## The slot -/

/-- A step that leaves in the slot what matches recording `b`. -/
def KeepsPending (b : RecordRequestId) (s : RecorderImpl) : SessionAction → Prop
  | .stop requestId => s.recording = false → recordRequestMatches b requestId = true
  | .rejectConfig | .takeOver | .finish => False
  | _ => True

instance (b : RecordRequestId) (s : RecorderImpl) (a : SessionAction) :
    Decidable (KeepsPending b s a) :=
  match a with
  | .stop _ =>
      @instDecidableForall _ _ (instDecidableEqBool s.recording false) (instDecidableEqBool _ true)
  | .rejectConfig | .takeOver | .finish => .isFalse id
  | .pause _ | .resume _ | .liveStore _ | .enterRecord _ _ | .failPrepare | .startWorkers
  | .workerStop _ | .endCapture _ | .dropRecording | .markLeaked => .isTrue trivial

/-- The slot holds a stop that matches recording `b`. -/
def Noted (b : RecordRequestId) (p : PendingStopTracker) : Prop :=
  p.pending = true ∧ recordRequestMatches b p.pendingRequest = true

theorem noted_iff_consume {b : RecordRequestId} {p : PendingStopTracker} :
    Noted b p ↔ (p.consume b).1 = true :=
  Bool.and_eq_true_iff.symm

theorem noted_noteStop {b r : RecordRequestId} {p : PendingStopTracker} :
    Noted b (p.noteStop false r) ↔ recordRequestMatches b r = true :=
  ⟨And.right, fun h => ⟨rfl, h⟩⟩

section
variable {s s' : RecorderImpl} {a : SessionAction} {b : RecordRequestId}

theorem stop_pending (requestId : RecordRequestId) :
    (s.stop requestId).pendingStop = s.pendingStop.noteStop s.recording requestId :=
  (stop_outcome requestId).pendingStop_eq

/-- The steps that empty the slot. -/
theorem noted_empty {p : PendingStopTracker} {a : SessionAction}
    (ha : a = .rejectConfig ∨ a = .takeOver ∨ a = .finish) :
    Noted b {} ↔ (Noted b p ∧ False) ∨
      ∃ r, a = .stop r ∧ s.recording = false ∧ recordRequestMatches b r = true := by
  constructor
  · exact fun h => absurd h.1 Bool.false_ne_true
  · rintro (⟨-, h⟩ | ⟨r, rfl, -⟩)
    · exact h.elim
    · rcases ha with h | h | h <;> cases h

/-- The slot matches `b` after a step if the step kept it, or noted it. -/
theorem noted_pendingAfter :
    Noted b (s.pendingAfter a) ↔
      (Noted b s.pendingStop ∧ KeepsPending b s a) ∨
        ∃ r, a = .stop r ∧ s.recording = false ∧ recordRequestMatches b r = true := by
  cases a with
  | stop r =>
      unfold RecorderImpl.pendingAfter KeepsPending
      cases hrec : s.recording with
      | true =>
          constructor
          · exact fun h => .inl ⟨h, nofun⟩
          · rintro (⟨h, -⟩ | ⟨r', -, hoff, -⟩)
            · exact h
            · cases hoff
      | false =>
          rw [noted_noteStop]
          constructor
          · exact fun hm => .inr ⟨r, rfl, rfl, hm⟩
          · rintro (⟨-, hm⟩ | ⟨r', hr, -, hm⟩)
            · exact hm rfl
            · cases hr
              exact hm
  | rejectConfig => exact noted_empty (.inl rfl)
  | takeOver => exact noted_empty (.inr (.inl rfl))
  | finish => exact noted_empty (.inr (.inr rfl))
  | _ =>
      constructor
      · exact fun h => .inl ⟨h, trivial⟩
      · rintro (⟨h, -⟩ | ⟨r, ha, -⟩)
        · exact h
        · cases ha

theorem exec_noted {as : List SessionAction} (hn : Noted b s.pendingStop)
    (hM : Meets step (KeepsPending b) s as) (he : exec step s as = some s') :
    Noted b s'.pendingStop :=
  exec_invariant (I := fun s => Noted b s.pendingStop)
    (fun _ _ _ hn hG hs => by
      rw [(step_outcome hs).pendingStop_eq]
      exact noted_pendingAfter.mpr (.inl ⟨hn, hG⟩))
    hn hM he

/-! ## The stop token -/

theorem SessionChange.stop_kept {st : SessionState} (h : SessionChange s st)
    (hs : s.session.stopRequested = true) : st.stopRequested = true := by
  cases h with
  | kept => exact hs
  | stored n call hcall htarget =>
      have hstore : (s.session.store call.next).stopRequested = true := by
        cases call.next with
        | stopRequested => rfl
        | pauseRequested value => exact hs
        | callerStopRequested => exact hs
        | captureEnded => exact hs
        | stopEvent => exact hs
      unfold LiveCall.apply
      split
      · exact hstore
      · exact hstore
  | stoppedInside => rfl

theorem exec_stop_kept {as : List SessionAction} (h : s.session.stopRequested = true)
    (he : exec step s as = some s') (hover : s'.takeOvers = s.takeOvers) :
    s'.session.stopRequested = true :=
  exec_while_counter (P := fun s => s.session.stopRequested = true)
    (fun _ _ _ hs => (step_outcome hs).takeOvers_le)
    (fun _ _ _ h hs hover => ((step_outcome hs).change_of_takeOvers hover).2.stop_kept h)
    h he hover

/-! ## A stop on its way -/

/-- Call `n` has raised the token of the session, or is still to raise it. -/
def OnItsWay (n : Nat) (s : RecorderImpl) : Prop :=
  s.session.stopRequested = true ∨
    ∃ call, s.calls n = some call ∧ call.target = s.state ∧ .stopRequested ∈ call.stores

/-- A call with a number given out before the step is left as it is, or makes its next store. -/
theorem Outcome.call_next (h : Outcome s a s') {n : Nat} {call : LiveCall}
    (hlt : n < s.nextCall) (hn : s.calls n = some call) :
    s'.calls n = some call ∨
      (s'.calls n = call.advance ∧ s'.states call.target = call.apply (s.states call.target)) := by
  cases h with
  | ignored hslot hs => exact .inl (hs ▸ hn)
  | stopped requestId ha hm hs =>
      subst hs
      exact .inl ((Function.update_of_ne (Nat.ne_of_lt hlt) ..).trans hn)
  | called command requestId hc hslot hs =>
      subst hs
      exact .inl ((Function.update_of_ne (Nat.ne_of_lt hlt) ..).trans hn)
  | stored m call' hcall hslot hs =>
      subst hs
      by_cases hm : n = m
      · subst hm
        obtain rfl : call = call' := Option.some.inj (hn.symm.trans hcall)
        exact .inr ⟨Function.update_self .., Function.update_self ..⟩
      · exact .inl ((Function.update_of_ne hm ..).trans hn)
  | stoppedInside target hslot hs =>
      subst hs
      exact .inl hn
  | moved p recording leaked hrec howner hslot hs =>
      subst hs
      exact .inl hn
  | closed active ha hidle hs =>
      subst hs
      exact .inl hn
  | tookOver request ha harrive hidle hs =>
      subst hs
      exact .inl hn

/-- The store that raises the token is the next one of the call, or is still ahead. -/
theorem LiveCall.stopRequested_next_or_tail {call : LiveCall}
    (h : .stopRequested ∈ call.stores) :
    call.next = .stopRequested ∨
      ∃ call', call.advance = some call' ∧ call'.target = call.target ∧
        .stopRequested ∈ call'.stores := by
  rw [← List.cons_head_tail call.stores_ne_nil] at h
  rcases List.mem_cons.mp h with hnext | htail
  · exact .inl hnext.symm
  · have hne : call.stores.tail ≠ [] := List.ne_nil_of_mem htail
    unfold LiveCall.advance
    rw [dif_neg hne]
    exact .inr ⟨_, rfl, rfl, htail⟩

theorem LiveCall.apply_stopRequested {call : LiveCall} (h : call.next = .stopRequested)
    (st : SessionState) : (call.apply st).stopRequested = true := by
  unfold LiveCall.apply
  rw [h]
  split <;> rfl

theorem OnItsWay.step {n : Nat} (h : OnItsWay n s) (hlt : n < s.nextCall) (ho : Outcome s a s')
    (hstate : s'.state = s.state) (hchange : SessionChange s s'.session) : OnItsWay n s' := by
  obtain hstop | ⟨call, hn, htarget, hmem⟩ := h
  · exact .inl (hchange.stop_kept hstop)
  · obtain hkept | ⟨hadvance, hstored⟩ := ho.call_next hlt hn
    · exact .inr ⟨call, hkept, htarget.trans hstate.symm, hmem⟩
    · obtain hnext | ⟨call', hsome, htarget', hmem'⟩ := LiveCall.stopRequested_next_or_tail hmem
      · refine .inl ?_
        unfold RecorderImpl.session
        rw [hstate, ← htarget, hstored]
        exact LiveCall.apply_stopRequested hnext _
      · exact .inr ⟨call', hadvance.trans hsome, by rw [htarget', htarget, hstate], hmem'⟩

theorem exec_on_its_way {n : Nat} {as : List SessionAction} (hlt : n < s.nextCall)
    (h : OnItsWay n s) (he : exec step s as = some s') (hover : s'.takeOvers = s.takeOvers) :
    OnItsWay n s' := by
  have hboth : n < s'.nextCall ∧ OnItsWay n s' :=
    exec_while_counter (P := fun s => n < s.nextCall ∧ OnItsWay n s)
      (fun _ _ _ hs => (step_outcome hs).takeOvers_le)
      (fun _ _ _ h hs hover =>
        have ho := step_outcome hs
        have ⟨hstate, hchange⟩ := ho.change_of_takeOvers hover
        ⟨Nat.lt_of_lt_of_le h.1 ho.nextCall_le, h.2.step h.1 ho hstate hchange⟩)
      ⟨hlt, h⟩ he hover
  exact hboth.2

/-- A stop that matches the owner of the state is taken in. -/
theorem SessionInv.stop_on_its_way (hI : SessionInv s) (hb : b ∈ s.record.owner)
    {r : RecordRequestId} (hr : recordRequestMatches b r = true) :
    s.nextCall < (s.stop r).nextCall ∧ (s.stop r).takeOvers = s.takeOvers ∧
      OnItsWay s.nextCall (s.stop r) := by
  have hm : recordRequestMatches s.activeRequest r = true := by rw [hI.active b hb, hr]
  unfold RecorderImpl.stop
  rw [hm, Bool.not_true, Bool.and_false, if_neg Bool.false_ne_true]
  refine ⟨Nat.lt_succ_self _, rfl, .inr ⟨_, Function.update_self .., rfl, ?_⟩⟩
  exact .tail _ (.tail _ (.tail _ (.head _)))

/-! ## Results -/

/-- The token is up, and the first wait of `Record` for its workers ends on it. -/
def StopsCapture (s : RecorderImpl) : Prop :=
  s.session.stopRequested = true ∧
    ∀ b, s.record = .running b →
      step s (.endCapture .stopSeen) = some { s with record := .draining b }

theorem stops_capture_of_stopRequested (h : s.session.stopRequested = true) :
    StopsCapture s := by
  refine ⟨h, fun b hb => ?_⟩
  change s.endCapture .stopSeen = _
  unfold RecorderImpl.endCapture
  rw [hb, h]
  rfl

theorem takenOver_stopRequested :
    (s.takenOver b).session.stopRequested = true ↔ Noted b s.pendingStop := by
  rw [RecorderImpl.takenOver_session, noted_iff_consume]

/-- The slot matches `b` at the end of a run exactly when a stop that matches `b` was noted and
    every step since kept it. -/
theorem noted_iff_stop {as : List SessionAction} {m : RecorderImpl}
    (he : exec step {} as = some m) :
    Noted b m.pendingStop ↔
      ∃ pre r mid s, as = pre ++ .stop r :: mid ∧ exec step {} pre = some s ∧
        s.recording = false ∧ recordRequestMatches b r = true ∧
        Meets step (KeepsPending b) (s.stop r) mid := by
  constructor
  · induction as using List.reverseRecOn generalizing m with
    | nil =>
        intro hn
        cases he
        cases hn.1
    | append_singleton as a ih =>
        intro hn
        obtain ⟨l, hl, hlast⟩ := exec_append_some.mp he
        obtain ⟨m', hs, hm⟩ := exec_cons_some.mp hlast
        cases hm
        rw [(step_outcome hs).pendingStop_eq, noted_pendingAfter] at hn
        obtain ⟨hn, hkeep⟩ | ⟨r, rfl, hrec, hr⟩ := hn
        · obtain ⟨pre, r, mid, s, rfl, hpre, hrec, hr, hM⟩ := ih hl hn
          obtain ⟨s', hs', hmid⟩ := exec_append_some.mp hl
          obtain rfl : s = s' := Option.some.inj (hpre.symm.trans hs')
          exact ⟨pre, r, mid ++ [a], s, by simp, hpre, hrec, hr, hM.snoc hmid hkeep⟩
        · exact ⟨as, r, [], l, rfl, hl, hrec, hr, trivial⟩
  · rintro ⟨pre, r, mid, s, rfl, hpre, hrec, hr, hM⟩
    obtain ⟨s', hs', hmid⟩ := exec_append_some.mp he
    obtain rfl : s = s' := Option.some.inj (hpre.symm.trans hs')
    refine exec_noted ?_ hM hmid
    rw [stop_pending, hrec]
    exact noted_noteStop.mpr hr

/-- A recording starts stopped exactly when a stop that matches it was noted before it and every
    step up to its take-over kept the slot. -/
theorem starts_stopped_iff {as : List SessionAction} {m : RecorderImpl}
    (he : exec step {} as = some m) :
    (m.takenOver b).session.stopRequested = true ↔
      ∃ pre r mid s, as = pre ++ .stop r :: mid ∧ exec step {} pre = some s ∧
        s.recording = false ∧ recordRequestMatches b r = true ∧
        Meets step (KeepsPending b) (s.stop r) mid :=
  takenOver_stopRequested.trans (noted_iff_stop he)

end

/-- A stop that matches recording `b` and takes the lock in a reachable state:
    * while `b` owns the session state, it has raised the token of `b` once the call has
      returned, and the token stays up until the next take-over;
    * while no recording runs, and every step up to the take-over by `b` keeps the slot, `b`
      starts with the token up, and it stays up until the next take-over. -/
theorem named_stop_stops_recording {b r : RecordRequestId} {pre : List SessionAction}
    {s : RecorderImpl} (hr : recordRequestMatches b r = true)
    (hpre : exec step {} pre = some s) :
    (b ∈ s.record.owner → ∀ post t, exec step (s.stop r) post = some t →
      t.takeOvers = s.takeOvers → t.calls s.nextCall = none → StopsCapture t) ∧
    (s.recording = false → ∀ mid m, exec step (s.stop r) mid = some m →
      Meets step (KeepsPending b) (s.stop r) mid → m.record = .entered b true →
      ∀ post t, exec step (m.takenOver b) post = some t →
        t.takeOvers = m.takeOvers + 1 → StopsCapture t) := by
  constructor
  · intro hb post t hpost hover hreturned
    obtain ⟨hlt, hsame, hway⟩ := (exec_sessionInv hpre).stop_on_its_way hb hr
    obtain hstop | ⟨call, hcall, -, -⟩ :=
      exec_on_its_way hlt hway hpost (hover.trans hsame.symm)
    · exact stops_capture_of_stopRequested hstop
    · rw [hreturned] at hcall
      cases hcall
  · intro hrec mid m hmid hM hm post t hpost hover
    have hnoted : Noted b (s.stop r).pendingStop := by
      rw [stop_pending, hrec]
      exact noted_noteStop.mpr hr
    have hstart : (m.takenOver b).session.stopRequested = true :=
      takenOver_stopRequested.mpr (exec_noted hnoted hM hmid)
    exact stops_capture_of_stopRequested (exec_stop_kept hstart hpost hover)

/-- Recording 8 is stopped while its call prepares; another stop for it and a failed `Pause`
    come in between. -/
def earlyStopRun : List SessionAction :=
  [.liveStore 0, .pause 8, .stop 8, .enterRecord 8 true, .liveStore 0]

theorem named_stop_stops_recording_earlyStopRun :
    ∃ m t, exec step (RecorderImpl.stop {} 8) earlyStopRun = some m ∧
      exec step (m.takenOver 8) [.startWorkers] = some t ∧ t.record = .running 8 ∧
      StopsCapture t := by
  have hM : Meets step (KeepsPending 8) (RecorderImpl.stop {} 8) earlyStopRun := by decide
  have hrecord : (exec step (RecorderImpl.stop {} 8) earlyStopRun).map RecorderImpl.record =
      some (.entered 8 true) := by decide
  have h8 : recordRequestMatches 8 8 = true := by decide
  obtain ⟨m, hm, hentered⟩ := Option.map_eq_some_iff.mp hrecord
  have hempty : exec step {} [] = some {} := rfl
  exact ⟨m, _, hm, rfl, rfl, (named_stop_stops_recording h8 hempty).2 rfl earlyStopRun m hm hM
    hentered [.startWorkers] _ rfl rfl⟩

/-- Recording 8 is stopped before its call; recording 7 takes over and ends in between. -/
def droppedStopRun : List SessionAction :=
  [.stop 8, .liveStore 0, .liveStore 0, .liveStore 0, .liveStore 0, .liveStore 0,
    .enterRecord 7 true, .takeOver, .startWorkers, .workerStop 0, .endCapture .stopSeen,
    .dropRecording, .finish, .enterRecord 8 true, .takeOver, .startWorkers]

/-- The stop that named recording 8 has returned, and recording 8 runs on. -/
theorem dropped_stop_runs_on :
    ∃ s, exec step {} droppedStopRun = some s ∧ .stop 8 ∈ droppedStopRun ∧ s.nextCall = 1 ∧
      s.calls 0 = none ∧ s.record = .running 8 ∧ s.session.stopRequested = false := by
  have hview : (exec step {} droppedStopRun).map
      (fun s => (s.nextCall, s.calls 0, s.record, s.session.stopRequested)) =
        some (1, none, .running 8, false) := by decide +kernel
  obtain ⟨s, hs, hfields⟩ := Option.map_eq_some_iff.mp hview
  obtain ⟨hnext, hcall, hrecord, hstop⟩ : s.nextCall = 1 ∧ s.calls 0 = none ∧
      s.record = .running 8 ∧ s.session.stopRequested = false := by
    simpa only [Prod.mk.injEq] using hfields
  exact ⟨s, hs, by decide, hnext, hcall, hrecord, hstop⟩

end Exosnap.Engine.SessionStop
