/-
  What one step can do to the session: eight outcomes (`Outcome`, `step_outcome`), and what they
  leave of the live calls (`Outcome.call_origin`) and of the state `Record` works on
  (`Outcome.session_kept`). The two modules on stops prove their invariants from these.

  `SessionInv` holds in every reachable state: the flag and the scope agree with the phase of
  `Record`, and no live call holds a state that is not constructed yet.
-/
import Exosnap.Engine.SessionStop

namespace Exosnap.Engine.SessionStop

open StepRun

/-! ## Small facts -/

/-- Whether `recording` is up. -/
def RecordPhase.capturing : RecordPhase → Bool
  | .running _ | .draining _ => true
  | _ => false

namespace LiveCall

variable {call call' : LiveCall}

theorem advance_some (h : call.advance = some call') :
    call'.command = call.command ∧ call'.request = call.request ∧
      call'.target = call.target ∧ call'.stores = call.stores.tail := by
  unfold advance at h
  split at h
  · cases h
  · cases h
    exact ⟨rfl, rfl, rfl, rfl⟩

/-- Only a stop makes other stores than `pause_requested`. -/
theorem next_of_not_stop (h : call.command ≠ .stop) :
    ∃ value, call.next = .pauseRequested value := by
  have hmem : call.next ∈ call.command.stores :=
    call.stores_suffix.subset (List.head_mem call.stores_ne_nil)
  cases hc : call.command with
  | stop => exact absurd hc h
  | pause =>
      rw [hc] at hmem
      exact ⟨true, List.mem_singleton.mp hmem⟩
  | resume =>
      rw [hc] at hmem
      exact ⟨false, List.mem_singleton.mp hmem⟩

end LiveCall

namespace RecorderImpl

variable {s : RecorderImpl}

theorem addCall_calls {call call' : LiveCall} {n : Nat}
    (h : (s.addCall call).calls n = some call') :
    (n = s.nextCall ∧ call' = call) ∨ s.calls n = some call' := by
  simp only [addCall] at h
  by_cases hn : n = s.nextCall
  · subst hn
    rw [Function.update_self] at h
    exact .inl ⟨rfl, (Option.some.inj h).symm⟩
  · rw [Function.update_of_ne hn] at h
    exact .inr h

theorem setCall_calls {c : Option LiveCall} {call' : LiveCall} {m n : Nat}
    (h : (s.setCall m c).calls n = some call') :
    (n = m ∧ c = some call') ∨ s.calls n = some call' := by
  simp only [setCall] at h
  by_cases hn : n = m
  · subst hn
    rw [Function.update_self] at h
    exact .inl ⟨rfl, h⟩
  · rw [Function.update_of_ne hn] at h
    exact .inr h

theorem setState_session_self (st : SessionState) : (s.setState s.state st).session = st :=
  Function.update_self ..

theorem setState_session_of_ne {target : Nat} (h : target ≠ s.state) (st : SessionState) :
    (s.setState target st).session = s.session :=
  Function.update_of_ne (Ne.symm h) ..

/-- The state that a take-over leaves, fresh object or not. -/
theorem takenOver_session (s : RecorderImpl) (request : RecordRequestId) :
    (s.takenOver request).session =
      { stopRequested := (s.pendingStop.consume request).1
        stopEvent := (s.pendingStop.consume request).1
        appliedStops := if (s.pendingStop.consume request).1 then [s.pendingStop.pendingRequest]
          else [] } := by
  simp only [takenOver, session, setState, Function.update_self]
  rfl

end RecorderImpl

/-! ## Outcomes of a step -/

/-- The slot of the pending stop after a step. -/
def RecorderImpl.pendingAfter (s : RecorderImpl) : SessionAction → PendingStopTracker
  | .stop requestId => s.pendingStop.noteStop s.recording requestId
  | .rejectConfig | .takeOver | .finish => {}
  | _ => s.pendingStop

inductive Outcome (s : RecorderImpl) (a : SessionAction) (s' : RecorderImpl) : Prop where
  | ignored (hslot : s.pendingAfter a = s.pendingStop) (hs : s' = s)
  | stopped (requestId : RecordRequestId) (ha : a = .stop requestId)
      (hm : s.recording = true → recordRequestMatches s.activeRequest requestId = true)
      (hs : s' = { s with
        pendingStop := s.pendingStop.noteStop s.recording requestId }.addCall
          (.start .stop requestId s.state))
  | called (command : LiveCommand) (requestId : RecordRequestId) (hc : command ≠ .stop)
      (hslot : s.pendingAfter a = s.pendingStop)
      (hs : s' = s.addCall (.start command requestId s.state))
  | stored (n : Nat) (call : LiveCall) (hcall : s.calls n = some call)
      (hslot : s.pendingAfter a = s.pendingStop)
      (hs : s' = (s.setState call.target (call.apply (s.states call.target))).setCall n
        call.advance)
  | stoppedInside (target : Nat) (hslot : s.pendingAfter a = s.pendingStop)
      (hs : s' = s.setState target
        { (s.states target).requestCleanStop with workersStopped := true })
  | moved (p : RecordPhase) (recording leaked : Bool)
      (hrec : s.recording = s.record.capturing → recording = p.capturing)
      (howner : ∀ b ∈ p.owner, b ∈ s.record.owner) (hslot : s.pendingAfter a = s.pendingStop)
      (hs : s' = { s with record := p, recording := recording, workersLeaked := leaked })
  | closed (active : RecordRequestId) (ha : a = .rejectConfig ∨ a = .finish)
      (hidle : s.record.capturing = false)
      (hs : s' = { s with pendingStop := {}, activeRequest := active, record := .idle })
  | tookOver (request : RecordRequestId) (ha : a = .takeOver)
      (harrive : request ∈ s.record.arriving) (hidle : s.record.capturing = false)
      (hs : s' = s.takenOver request)

section
variable {s s' : RecorderImpl} {a : SessionAction}

theorem stop_outcome (requestId : RecordRequestId) :
    Outcome s (.stop requestId) (s.stop requestId) := by
  unfold RecorderImpl.stop
  split
  · next h =>
      refine .ignored ?_ rfl
      unfold RecorderImpl.pendingAfter
      rw [(Bool.and_eq_true_iff.mp h).1]
      rfl
  · next h =>
      refine .stopped requestId rfl (fun hrec => ?_) rfl
      simpa [hrec] using h

theorem liveCommand_outcome {command : LiveCommand} (hc : command ≠ .stop)
    (hslot : s.pendingAfter a = s.pendingStop) (requestId : RecordRequestId) :
    Outcome s a (s.liveCommand command requestId) := by
  unfold RecorderImpl.liveCommand
  split
  · exact .ignored hslot rfl
  · exact .called command requestId hc hslot rfl

theorem liveStore_outcome {n : Nat} (h : s.liveStore n = some s') :
    Outcome s (.liveStore n) s' := by
  unfold RecorderImpl.liveStore at h
  split at h
  · cases h
  · next call hcall => exact .stored n call hcall rfl (Option.some.inj h).symm

theorem workerStop_outcome {target : Nat} (h : s.workerStop target = some s') :
    Outcome s (.workerStop target) s' := by
  unfold RecorderImpl.workerStop at h
  split at h
  · exact .stoppedInside target rfl (Option.some.inj h).symm
  · cases h

theorem step_outcome (h : step s a = some s') : Outcome s a s' := by
  cases a with
  | stop requestId => exact Option.some.inj h ▸ stop_outcome requestId
  | pause requestId => exact Option.some.inj h ▸ liveCommand_outcome (by decide) rfl requestId
  | resume requestId => exact Option.some.inj h ▸ liveCommand_outcome (by decide) rfl requestId
  | liveStore n => exact liveStore_outcome h
  | workerStop target => exact workerStop_outcome h
  | enterRecord request valid =>
      replace h : s.enterRecord request valid = some s' := h
      unfold RecorderImpl.enterRecord at h
      split at h
      · next hp =>
          refine .moved (.entered request valid) s.recording s.workersLeaked ?_ nofun rfl
            (Option.some.inj h).symm
          rw [hp]
          exact id
      · cases h
  | rejectConfig =>
      replace h : s.rejectConfig = some s' := h
      unfold RecorderImpl.rejectConfig at h
      split at h
      · next hp =>
          refine .closed s.activeRequest (.inl rfl) ?_ (Option.some.inj h).symm
          rw [hp]
          rfl
      · cases h
  | takeOver =>
      replace h : s.takeOver = some s' := h
      unfold RecorderImpl.takeOver at h
      split at h
      · next request hp =>
          refine .tookOver request rfl ?_ ?_ (Option.some.inj h).symm
          · rw [hp]
            rfl
          · rw [hp]
            rfl
      · cases h
  | failPrepare =>
      replace h : s.failPrepare = some s' := h
      unfold RecorderImpl.failPrepare at h
      split at h
      · exact .moved .idle false s.workersLeaked (fun _ => rfl) nofun rfl (Option.some.inj h).symm
      · cases h
  | startWorkers =>
      replace h : s.startWorkers = some s' := h
      unfold RecorderImpl.startWorkers at h
      split at h
      · next request hp =>
          refine .moved (.running request) true s.workersLeaked (fun _ => rfl) ?_ rfl
            (Option.some.inj h).symm
          rw [hp]
          exact fun _ => id
      · cases h
  | endCapture cause =>
      replace h : s.endCapture cause = some s' := h
      unfold RecorderImpl.endCapture at h
      split at h
      · next request hp =>
          split at h
          · cases h
          · refine .moved (.draining request) s.recording s.workersLeaked ?_ ?_ rfl
              (Option.some.inj h).symm
            · rw [hp]
              exact id
            · rw [hp]
              exact fun _ => id
      · cases h
  | dropRecording =>
      replace h : s.dropRecording = some s' := h
      unfold RecorderImpl.dropRecording at h
      split at h
      · next request hp =>
          refine .moved (.ending request) false s.workersLeaked (fun _ => rfl) ?_ rfl
            (Option.some.inj h).symm
          rw [hp]
          exact fun _ => id
      · cases h
  | markLeaked =>
      replace h : s.markLeaked = some s' := h
      unfold RecorderImpl.markLeaked at h
      split at h
      · next request hp =>
          exact .moved s.record s.recording true id (fun _ => id) rfl (Option.some.inj h).symm
      · cases h
  | finish =>
      replace h : s.finish = some s' := h
      unfold RecorderImpl.finish at h
      split at h
      · next hp =>
          refine .closed kUnscopedRecordRequest (.inr rfl) ?_ (Option.some.inj h).symm
          rw [hp]
          rfl
      · cases h

/-! ## What a step leaves -/

theorem Outcome.pendingStop_eq (h : Outcome s a s') : s'.pendingStop = s.pendingAfter a := by
  cases h with
  | ignored hslot hs => rw [hs, hslot]
  | stopped requestId ha hm hs =>
      subst ha hs
      rfl
  | called command requestId hc hslot hs =>
      rw [hs, hslot]
      rfl
  | stored m call hcall hslot hs =>
      rw [hs, hslot]
      rfl
  | stoppedInside target hslot hs =>
      rw [hs, hslot]
      rfl
  | moved p recording leaked hrec howner hslot hs => rw [hs, hslot]
  | closed active ha hidle hs =>
      subst hs
      rcases ha with rfl | rfl <;> rfl
  | tookOver request ha harrive hidle hs =>
      subst ha hs
      rfl

/-- Two values of a call number are the same call, at most further on. -/
structure SameCall (call call' : LiveCall) : Prop where
  command : call'.command = call.command
  request : call'.request = call.request
  target : call'.target = call.target

theorem SameCall.refl (call : LiveCall) : SameCall call call := ⟨rfl, rfl, rfl⟩

/-- What a call that took the lock in this step found. -/
structure NewCall (s : RecorderImpl) (a : SessionAction) (s' : RecorderImpl) (n : Nat)
    (call : LiveCall) : Prop where
  number : n = s.nextCall
  nextCall : s'.nextCall = s.nextCall + 1
  target : call.target = s.state
  action : call.command = .stop → a = .stop call.request
  admitted : call.command = .stop → s.recording = true →
    recordRequestMatches s.activeRequest call.request = true

/-- A live call was there before the step, or it took the lock in the step. -/
theorem Outcome.call_origin (h : Outcome s a s') {n : Nat} {call' : LiveCall}
    (hn : s'.calls n = some call') :
    (∃ call, s.calls n = some call ∧ SameCall call call') ∨ NewCall s a s' n call' := by
  have hsame (h : s.calls n = some call') :
      (∃ call, s.calls n = some call ∧ SameCall call call') ∨ NewCall s a s' n call' :=
    .inl ⟨call', h, .refl call'⟩
  cases h with
  | ignored hslot hs =>
      subst hs
      exact hsame hn
  | stopped requestId ha hm hs =>
      subst hs
      obtain ⟨rfl, rfl⟩ | hold := RecorderImpl.addCall_calls hn
      · exact .inr ⟨rfl, rfl, rfl, fun _ => ha, fun _ => hm⟩
      · exact hsame hold
  | called command requestId hc hslot hs =>
      subst hs
      obtain ⟨rfl, rfl⟩ | hold := RecorderImpl.addCall_calls hn
      · exact .inr ⟨rfl, rfl, rfl, fun h => absurd h hc, fun h => absurd h hc⟩
      · exact hsame hold
  | stored m call hcall hslot hs =>
      subst hs
      obtain ⟨rfl, hadv⟩ | hold := RecorderImpl.setCall_calls hn
      · obtain ⟨hcommand, hrequest, htarget, _⟩ := LiveCall.advance_some hadv
        exact .inl ⟨call, hcall, hcommand, hrequest, htarget⟩
      · exact hsame hold
  | stoppedInside target hslot hs =>
      subst hs
      exact hsame hn
  | moved p recording leaked hrec howner hslot hs =>
      subst hs
      exact hsame hn
  | closed active ha hidle hs =>
      subst hs
      exact hsame hn
  | tookOver request ha harrive hidle hs =>
      subst hs
      exact hsame hn

/-- What a step other than a take-over can make of the session state `Record` works on. -/
inductive SessionChange (s : RecorderImpl) : SessionState → Prop where
  | kept : SessionChange s s.session
  | stored (n : Nat) (call : LiveCall) (hcall : s.calls n = some call)
      (htarget : call.target = s.state) : SessionChange s (call.apply s.session)
  | stoppedInside :
      SessionChange s { s.session.requestCleanStop with workersStopped := true }

theorem Outcome.session_change (h : Outcome s a s') :
    (∃ request, request ∈ s.record.arriving ∧ a = .takeOver ∧ s' = s.takenOver request) ∨
      (s'.state = s.state ∧ s'.takeOvers = s.takeOvers ∧ SessionChange s s'.session) := by
  cases h with
  | ignored hslot hs =>
      subst hs
      exact .inr ⟨rfl, rfl, .kept⟩
  | stopped requestId ha hm hs =>
      subst hs
      exact .inr ⟨rfl, rfl, .kept⟩
  | called command requestId hc hslot hs =>
      subst hs
      exact .inr ⟨rfl, rfl, .kept⟩
  | stored m call hcall hslot hs =>
      subst hs
      refine .inr ⟨rfl, rfl, ?_⟩
      change SessionChange s (s.setState _ _).session
      by_cases ht : call.target = s.state
      · rw [ht, RecorderImpl.setState_session_self]
        exact .stored m call hcall ht
      · rw [RecorderImpl.setState_session_of_ne ht]
        exact .kept
  | stoppedInside target hslot hs =>
      subst hs
      refine .inr ⟨rfl, rfl, ?_⟩
      by_cases ht : target = s.state
      · rw [ht, RecorderImpl.setState_session_self]
        exact .stoppedInside
      · rw [RecorderImpl.setState_session_of_ne ht]
        exact .kept
  | moved p recording leaked hrec howner hslot hs =>
      subst hs
      exact .inr ⟨rfl, rfl, .kept⟩
  | closed active ha hidle hs =>
      subst hs
      exact .inr ⟨rfl, rfl, .kept⟩
  | tookOver request ha harrive hidle hs => exact .inl ⟨request, harrive, ha, hs⟩

theorem Outcome.takeOvers_le (h : Outcome s a s') : s.takeOvers ≤ s'.takeOvers := by
  obtain ⟨request, -, -, rfl⟩ | ⟨-, hover, -⟩ := h.session_change
  · exact Nat.le_succ _
  · exact Nat.le_of_eq hover.symm

theorem Outcome.change_of_takeOvers (h : Outcome s a s') (hover : s'.takeOvers = s.takeOvers) :
    s'.state = s.state ∧ SessionChange s s'.session := by
  obtain ⟨request, -, -, rfl⟩ | ⟨hstate, -, hchange⟩ := h.session_change
  · exact absurd hover (Nat.succ_ne_self _)
  · exact ⟨hstate, hchange⟩

/-! ## Every reachable state -/

structure SessionInv (s : RecorderImpl) : Prop where
  recording : s.recording = s.record.capturing
  active : ∀ b ∈ s.record.owner, s.activeRequest = b
  number : ∀ n call, s.calls n = some call → n < s.nextCall
  target : ∀ n call, s.calls n = some call → call.target ≤ s.state

theorem Outcome.state_le (h : Outcome s a s') : s.state ≤ s'.state := by
  obtain ⟨request, -, -, rfl⟩ | ⟨hstate, -, -⟩ := h.session_change
  · change s.state ≤ s.nextState
    unfold RecorderImpl.nextState
    split <;> omega
  · omega

theorem Outcome.nextCall_le (h : Outcome s a s') : s.nextCall ≤ s'.nextCall := by
  cases h with
  | stopped requestId ha hm hs =>
      subst hs
      exact Nat.le_succ _
  | called command requestId hc hslot hs =>
      subst hs
      exact Nat.le_succ _
  | ignored hslot hs => exact Nat.le_of_eq (by rw [hs])
  | stored m call hcall hslot hs => exact Nat.le_of_eq (by rw [hs]; rfl)
  | stoppedInside target hslot hs => exact Nat.le_of_eq (by rw [hs]; rfl)
  | moved p recording leaked hrec howner hslot hs => exact Nat.le_of_eq (by rw [hs])
  | closed active ha hidle hs => exact Nat.le_of_eq (by rw [hs])
  | tookOver request ha harrive hidle hs => exact Nat.le_of_eq (by rw [hs]; rfl)

theorem SessionInv.step_phase (hI : SessionInv s) (h : Outcome s a s') :
    s'.recording = s'.record.capturing ∧ ∀ b ∈ s'.record.owner, s'.activeRequest = b := by
  cases h with
  | ignored hslot hs => exact hs ▸ ⟨hI.recording, hI.active⟩
  | stopped requestId ha hm hs => exact hs ▸ ⟨hI.recording, hI.active⟩
  | called command requestId hc hslot hs => exact hs ▸ ⟨hI.recording, hI.active⟩
  | stored m call hcall hslot hs => exact hs ▸ ⟨hI.recording, hI.active⟩
  | stoppedInside target hslot hs => exact hs ▸ ⟨hI.recording, hI.active⟩
  | moved p recording leaked hrec howner hslot hs =>
      subst hs
      exact ⟨hrec hI.recording, fun b hb => hI.active b (howner b hb)⟩
  | closed active ha hidle hs =>
      subst hs
      exact ⟨hI.recording.trans hidle, nofun⟩
  | tookOver request ha harrive hidle hs =>
      subst hs
      exact ⟨hI.recording.trans hidle, fun b hb => Option.some.inj hb⟩

theorem SessionInv.step (hI : SessionInv s) (h : Outcome s a s') : SessionInv s' where
  recording := (hI.step_phase h).1
  active := (hI.step_phase h).2
  number n call' hn := by
    obtain ⟨call, hcall, -⟩ | hnew := h.call_origin hn
    · exact Nat.lt_of_lt_of_le (hI.number n call hcall) h.nextCall_le
    · have := hnew.number
      have := hnew.nextCall
      omega
  target n call' hn := by
    obtain ⟨call, hcall, hsame⟩ | hnew := h.call_origin hn
    · rw [hsame.target]
      exact Nat.le_trans (hI.target n call hcall) h.state_le
    · rw [hnew.target]
      exact h.state_le

theorem SessionInv.initial : SessionInv {} := ⟨rfl, nofun, nofun, nofun⟩

theorem exec_sessionInv {as : List SessionAction} (he : exec step {} as = some s) :
    SessionInv s :=
  exec_invariant_all (fun _ _ _ hI hs => hI.step (step_outcome hs)) .initial he

end

end Exosnap.Engine.SessionStop
