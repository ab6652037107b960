/-
  Which recording a stop takes effect on. `Stop` compares its request with the running recording
  only while `recording` is up, and makes its stores after it has released the lock. A stop that
  names recording A can therefore write into recording B twice over:

  * B has taken the session state over and has not raised `recording` yet, or has dropped it and
    not returned: a stop for A that takes the lock now is not compared with B's scope.
  * A stop for A released the lock on the state object that B then takes over and resets: its
    remaining stores come after the reset.

  `NamesOwner` is the condition on a step that excludes the two. In every run whose steps meet
  it, only stops that match a recording write into its state (`stops_reach_named_recording`),
  and one step that does not meet it is enough to lose that.
-/
import Exosnap.Engine.SessionStopSteps

namespace Exosnap.Engine.SessionStop

open StepRun

/-! ## Isolation -/

/-- Every stop that wrote into the state of recording `b` matches `b`, and nothing else than
    such a stop, or a failure inside the session, raised its stop members. -/
structure Attributed (b : RecordRequestId) (st : SessionState) : Prop where
  applied : ∀ r ∈ st.appliedStops, recordRequestMatches b r = true
  stopRequested : st.stopRequested = true → st.workersStopped = true ∨ st.appliedStops ≠ []
  stopEvent : st.stopEvent = true → st.workersStopped = true ∨ st.appliedStops ≠ []
  captureEnded : st.captureEnded = true → st.workersStopped = true ∨ st.appliedStops ≠ []
  callerStopRequested : st.callerStopRequested = true → st.appliedStops ≠ []

/-- No stop has taken effect on a recording that it does not name. -/
def StopsIsolated (s : RecorderImpl) : Prop := ∀ b ∈ s.record.owner, Attributed b s.session

/-- A stop taken in while `recording` is down names the recording that owns the state, if one
    does; and the stops still to make stores in the state that a recording takes over name that
    recording. -/
def NamesOwner (s : RecorderImpl) : SessionAction → Prop
  | .stop requestId =>
      s.recording = false → ∀ b ∈ s.record.owner, recordRequestMatches b requestId = true
  | .takeOver =>
      ∀ b ∈ s.record.arriving, ∀ n < s.nextCall, ∀ call ∈ s.calls n, call.command = .stop →
        call.target = s.nextState → recordRequestMatches b call.request = true
  | _ => True

instance : (s : RecorderImpl) → (a : SessionAction) → Decidable (NamesOwner s a)
  | s, .stop _ =>
      @instDecidableForall _ _ (instDecidableEqBool s.recording false)
        (@Option.decidableForallMem _ _ (fun _ => instDecidableEqBool _ true) s.record.owner)
  | s, .takeOver =>
      @Option.decidableForallMem _ _ (fun _ =>
        @Nat.decidableBallLT s.nextCall _ fun n _ =>
          @Option.decidableForallMem _ _ (fun _ =>
            @instDecidableForall _ _ inferInstance
              (@instDecidableForall _ _ inferInstance (instDecidableEqBool _ true)))
            (s.calls n))
        s.record.arriving
  | _, .pause _ | _, .resume _ | _, .liveStore _ | _, .enterRecord _ _ | _, .rejectConfig
  | _, .failPrepare | _, .startWorkers | _, .workerStop _ | _, .endCapture _
  | _, .dropRecording | _, .markLeaked | _, .finish => .isTrue trivial

/-! ## What keeps a state attributed -/

section
variable {b : RecordRequestId} {st : SessionState}

theorem Attributed.apply (h : Attributed b st) {call : LiveCall}
    (hm : call.command = .stop → recordRequestMatches b call.request = true) :
    Attributed b (call.apply st) := by
  unfold LiveCall.apply
  by_cases hc : call.command = .stop
  · rw [if_pos hc]
    have hne : call.request :: (st.store call.next).appliedStops ≠ [] := List.cons_ne_nil _ _
    refine ⟨?_, fun _ => .inr hne, fun _ => .inr hne, fun _ => .inr hne, fun _ => hne⟩
    have hkept : (st.store call.next).appliedStops = st.appliedStops := by
      cases call.next <;> rfl
    intro r hr
    rw [hkept] at hr
    rcases List.mem_cons.mp hr with rfl | hr
    · exact hm hc
    · exact h.applied r hr
  · rw [if_neg hc]
    obtain ⟨value, hnext⟩ := LiveCall.next_of_not_stop hc
    rw [hnext]
    exact ⟨h.applied, h.stopRequested, h.stopEvent, h.captureEnded, h.callerStopRequested⟩

theorem Attributed.stoppedInside (h : Attributed b st) :
    Attributed b { st.requestCleanStop with workersStopped := true } :=
  ⟨h.applied, fun _ => .inl rfl, fun _ => .inl rfl, fun _ => .inl rfl, h.callerStopRequested⟩

/-- The reset leaves the stop that was noted for the request, or none. -/
theorem Attributed.takenOver (s : RecorderImpl) (b : RecordRequestId) :
    Attributed b (s.takenOver b).session := by
  rw [RecorderImpl.takenOver_session]
  cases hp : (s.pendingStop.consume b).1 with
  | false => exact ⟨nofun, nofun, nofun, nofun, nofun⟩
  | true =>
      have hm : recordRequestMatches b s.pendingStop.pendingRequest = true :=
        (Bool.and_eq_true_iff.mp hp).2
      refine ⟨?_, fun _ => .inr (List.cons_ne_nil _ _), fun _ => .inr (List.cons_ne_nil _ _),
        nofun, nofun⟩
      intro r hr
      rw [List.mem_singleton.mp hr]
      exact hm

end

/-! ## The invariant -/

/-- With isolation: the stops still to make stores in the state of a recording match it. -/
structure IsolationInv (s : RecorderImpl) : Prop where
  session : SessionInv s
  isolated : StopsIsolated s
  calls : ∀ b ∈ s.record.owner, ∀ n call, s.calls n = some call → call.command = .stop →
    call.target = s.state → recordRequestMatches b call.request = true

section
variable {s s' : RecorderImpl} {a : SessionAction}

theorem Outcome.owner_kept (h : Outcome s a s') (hstate : s'.takeOvers = s.takeOvers)
    {b : RecordRequestId} (hb : b ∈ s'.record.owner) : b ∈ s.record.owner := by
  cases h with
  | ignored hslot hs => exact hs ▸ hb
  | stopped requestId ha hm hs =>
      subst hs
      exact hb
  | called command requestId hc hslot hs =>
      subst hs
      exact hb
  | stored m call hcall hslot hs =>
      subst hs
      exact hb
  | stoppedInside target hslot hs =>
      subst hs
      exact hb
  | moved p recording leaked hrec howner hslot hs =>
      subst hs
      exact howner b hb
  | closed active ha hidle hs =>
      subst hs
      cases hb
  | tookOver request ha harrive hidle hs =>
      subst hs
      exact absurd hstate (Nat.succ_ne_self _)

theorem IsolationInv.step_session (hI : IsolationInv s) (h : Outcome s a s') :
    StopsIsolated s' := by
  intro b hb
  obtain ⟨request, harrive, -, rfl⟩ | ⟨-, hover, hchange⟩ := h.session_change
  · rw [← Option.some.inj hb]
    exact .takenOver s request
  · have hatt := hI.isolated b (h.owner_kept hover hb)
    generalize s'.session = st at hchange ⊢
    cases hchange with
    | kept => exact hatt
    | stored n call hcall htarget =>
        exact hatt.apply fun hc => hI.calls b (h.owner_kept hover hb) n call hcall hc htarget
    | stoppedInside => exact hatt.stoppedInside

theorem IsolationInv.step_calls (hI : IsolationInv s) (hG : NamesOwner s a)
    (h : Outcome s a s') :
    ∀ b ∈ s'.record.owner, ∀ n call, s'.calls n = some call → call.command = .stop →
      call.target = s'.state → recordRequestMatches b call.request = true := by
  intro b hb n call' hn hstop htarget
  obtain ⟨request, harrive, rfl, rfl⟩ | ⟨hstate, hover, -⟩ := h.session_change
  · -- The calls are the ones before the take-over, which the condition is about.
    rw [← Option.some.inj hb]
    exact hG request harrive n (hI.session.number n call' hn) call' hn hstop htarget
  · have hb' := h.owner_kept hover hb
    obtain ⟨call, hcall, hsame⟩ | hnew := h.call_origin hn
    · rw [hsame.request]
      refine hI.calls b hb' n call hcall (hsame.command ▸ hstop) ?_
      rw [← hsame.target, htarget, hstate]
    · rw [hnew.action hstop] at hG
      cases hrec : s.recording with
      | false => exact hG hrec b hb'
      | true =>
          rw [← hI.session.active b hb']
          exact hnew.admitted hstop hrec

theorem IsolationInv.step (hI : IsolationInv s) (hG : NamesOwner s a) (h : Outcome s a s') :
    IsolationInv s' :=
  ⟨hI.session.step h, hI.step_session h, hI.step_calls hG h⟩

theorem IsolationInv.initial : IsolationInv {} := ⟨.initial, nofun, nofun⟩

theorem exec_isolationInv {as : List SessionAction} (hM : Meets step NamesOwner {} as)
    (he : exec step {} as = some s) : IsolationInv s :=
  exec_invariant (fun _ _ _ hI hG hs => hI.step hG (step_outcome hs)) .initial hM he

/-! ## The condition is needed -/

/-- A stop that does not match the recording it is about to write into breaks isolation with
    its next store. -/
theorem foreign_store (call : LiveCall) {n : Nat} {b : RecordRequestId}
    (hcall : s.calls n = some call) (hstop : call.command = .stop)
    (htarget : call.target = s.state) (hb : b ∈ s.record.owner)
    (hm : recordRequestMatches b call.request ≠ true) :
    ∃ s', step s (.liveStore n) = some s' ∧ ¬ StopsIsolated s' := by
  refine ⟨(s.setState call.target (call.apply (s.states call.target))).setCall n call.advance,
    ?_, ?_⟩
  · change s.liveStore n = _
    unfold RecorderImpl.liveStore
    rw [hcall]
  · intro hiso
    have hatt : Attributed b (s.setState call.target (call.apply (s.states call.target))).session :=
      hiso b hb
    rw [htarget, RecorderImpl.setState_session_self] at hatt
    refine hm (hatt.applied call.request ?_)
    unfold LiveCall.apply
    rw [if_pos hstop]
    exact List.mem_cons_self

/-- Each step that does not meet the condition leaves a stop one store away from a recording
    that it does not name. -/
theorem unnamed_step_breaks (hs : step s a = some s') (hG : ¬ NamesOwner s a) :
    ∃ n s'', step s' (.liveStore n) = some s'' ∧ ¬ StopsIsolated s'' := by
  cases a with
  | stop requestId =>
      obtain ⟨hrec, hG⟩ := Classical.not_imp.mp hG
      obtain ⟨b, hG⟩ := Classical.not_forall.mp hG
      obtain ⟨hb, hm⟩ := Classical.not_imp.mp hG
      have hs' : s.stop requestId = s' := Option.some.inj hs
      unfold RecorderImpl.stop at hs'
      rw [hrec, Bool.false_and, if_neg Bool.false_ne_true] at hs'
      subst hs'
      exact ⟨s.nextCall, foreign_store (.start .stop requestId s.state)
        (Function.update_self ..) rfl rfl hb hm⟩
  | takeOver =>
      obtain ⟨b, hG⟩ := Classical.not_forall.mp hG
      obtain ⟨hb, hG⟩ := Classical.not_imp.mp hG
      obtain ⟨n, hG⟩ := Classical.not_forall.mp hG
      obtain ⟨-, hG⟩ := Classical.not_imp.mp hG
      obtain ⟨call, hG⟩ := Classical.not_forall.mp hG
      obtain ⟨hcall, hG⟩ := Classical.not_imp.mp hG
      obtain ⟨hstop, hG⟩ := Classical.not_imp.mp hG
      obtain ⟨htarget, hm⟩ := Classical.not_imp.mp hG
      replace hs : s.takeOver = some s' := hs
      unfold RecorderImpl.takeOver at hs
      split at hs
      · next request hp =>
          rw [hp] at hb
          obtain rfl : request = b := Option.some.inj hb
          obtain rfl : s.takenOver request = s' := Option.some.inj hs
          exact ⟨n, foreign_store call hcall hstop htarget rfl hm⟩
      · cases hs
  | _ => exact absurd trivial hG

end

/-! ## Result -/

/-- In every run whose steps meet `NamesOwner`, no stop takes effect on a recording that it does
    not name; and from the state the run ends in, a step that does not meet it loses that within
    one store. -/
theorem stops_reach_named_recording {as : List SessionAction} {s : RecorderImpl}
    (hM : Meets step NamesOwner {} as) (he : exec step {} as = some s) :
    StopsIsolated s ∧
      ∀ a s', step s a = some s' → ¬ NamesOwner s a →
        ∃ n s'', step s' (.liveStore n) = some s'' ∧ ¬ StopsIsolated s'' :=
  ⟨(exec_isolationInv hM he).isolated, fun _ _ hs hG => unnamed_step_breaks hs hG⟩

/-- Recording 7 is stopped by its own stop; while it ends, recording 8 is asked for. -/
def namedStopRun : List SessionAction :=
  [.enterRecord 7 true, .takeOver, .startWorkers, .stop 7, .liveStore 0, .liveStore 0,
    .liveStore 0, .liveStore 0, .endCapture .stopSeen, .stop 8, .dropRecording, .liveStore 0,
    .finish, .enterRecord 8 true, .takeOver, .stop 8, .startWorkers]

theorem stops_reach_named_recording_namedStopRun :
    ∃ s, exec step {} namedStopRun = some s ∧ s.record = .running 8 ∧ StopsIsolated s := by
  have hM : Meets step NamesOwner {} namedStopRun := by decide
  exact ⟨_, rfl, rfl, (stops_reach_named_recording hM rfl).1⟩

/-- A stop for recording 7 takes the lock after recording 8 took the state over and before it
    raised `recording`. -/
def foreignStopRun : List SessionAction :=
  [.enterRecord 8 true, .takeOver, .stop 7, .startWorkers, .liveStore 0, .liveStore 0,
    .liveStore 0, .liveStore 0]

/-- Recording 8 runs, was not stopped from inside, and is stopped by a stop that names 7. -/
theorem foreign_stop_ends_recording :
    ∃ s, exec step {} foreignStopRun = some s ∧ s.record = .running 8 ∧
      s.session.stopRequested = true ∧ s.session.workersStopped = false ∧
      s.session.appliedStops = [7, 7, 7, 7] ∧ recordRequestMatches 8 7 = false :=
  ⟨_, rfl, rfl, rfl, rfl, rfl, rfl⟩

/-- The same through a stop whose stores come after the next recording's reset. -/
example :
    (exec step {} [.enterRecord 7 true, .takeOver, .startWorkers, .stop 7, .workerStop 0,
      .endCapture .workersExited, .dropRecording, .finish, .enterRecord 8 true, .takeOver,
      .startWorkers, .liveStore 0, .liveStore 0, .liveStore 0, .liveStore 0]).map
        (fun s => (s.record, s.session.stopRequested, s.session.workersStopped)) =
      some (.running 8, true, false) := by
  decide

end Exosnap.Engine.SessionStop
