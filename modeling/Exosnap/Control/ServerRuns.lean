/-
  What every run of the control server keeps: tickets are handed out in the order the lines are
  read, queued and dispatched in that order, and a response is written on the connection its line
  was read on, once.
-/
import Exosnap.Control.ControlServer

namespace Exosnap.Control

variable {α State : Type}

/-- The request line the pipe thread is at. -/
def PipeStage.ticket? : PipeStage → Option Nat
  | .waiting ticket _ => some ticket
  | .responding ticket _ _ => some ticket
  | _ => none

def QueuedCall.ticket? : QueuedCall → Option Nat
  | .dispatch _ ticket _ => some ticket
  | .resetSession => none

theorem PipeStage.awaits_iff {pipe : PipeStage} {ticket : Nat} :
    pipe.awaits ticket = true ↔ ∃ request, pipe = .waiting ticket request := by
  cases pipe <;> simp [PipeStage.awaits]

namespace ControlServer

/-- The connection that a ticket's line was read on. -/
def connectionOf (s : ControlServer α) (ticket : Nat) : Option Nat :=
  (s.lines[ticket]?).map Prod.fst

def queuedTickets (s : ControlServer α) : List Nat := s.queue.filterMap QueuedCall.ticket?

/-- A line in a protocol version that the server does not speak. -/
def SpeaksOther (fromJson : List UInt8 → Except String JsonValue) (line : List UInt8) : Prop :=
  ∃ failure, ParseRequest fromJson line = .error failure ∧
    failure.code = error_code.kProtocolVersionMismatch

structure Ordered (fromJson : List UInt8 → Except String JsonValue) (s : ControlServer α) :
    Prop where
  bounded : ∀ p ∈ s.lines, p.1 ≤ s.connection
  queued : ∀ c t r, .dispatch c t r ∈ s.queue → s.connectionOf t = some c
  sorted : s.queuedTickets.Pairwise (· < ·)
  before : ∀ d ∈ s.dispatched, ∀ t ∈ s.queuedTickets, d.ticket < t
  recorded : ∀ d ∈ s.dispatched, s.connectionOf d.ticket = some d.connection
  responded : ∀ w ∈ s.written, ∀ t, w.origin = .response t → s.connectionOf t = some w.connection
  handling : ∀ t, s.pipe.ticket? = some t →
    s.connectionOf t = some s.connection ∧ s.lines.length = t + 1
  unresponded : ∀ t, s.pipe.ticket? = some t → ∀ w ∈ s.written, w.origin ≠ .response t
  waits : ∀ t r, s.pipe = .waiting t r → ∀ c line, s.lines[t]? = some (c, line) →
    ParseRequest fromJson line = .ok r
  closes : ∀ t response close, s.pipe = .responding t response close →
    ∀ c line, s.lines[t]? = some (c, line) → SpeaksOther fromJson line → close = true

section
variable {fromJson : List UInt8 → Except String JsonValue} {process : Process α State}
  {s s' : ControlServer α}

theorem connectionOf_lt {t c : Nat} (h : s.connectionOf t = some c) : t < s.lines.length := by
  obtain ⟨p, hp, -⟩ := Option.map_eq_some_iff.mp h
  exact (List.getElem?_eq_some_iff.mp hp).1

theorem ordered_start {runId : String} {app : α} :
    (ControlServer.start runId app).Ordered fromJson :=
  ⟨nofun, nofun, List.Pairwise.nil, nofun, nofun, nofun, nofun, nofun, nofun, nofun⟩

/-- Steps that read no line and queue and run no request. What they write of responses is of the
    line at hand. -/
theorem Ordered.frame (h : s.Ordered fromJson) (hlines : s'.lines = s.lines)
    (hqueue : ∀ c t r, .dispatch c t r ∈ s'.queue → .dispatch c t r ∈ s.queue)
    (htickets : s'.queuedTickets = s.queuedTickets) (hdispatched : s'.dispatched = s.dispatched)
    (hwritten : ∀ w ∈ s'.written, w ∈ s.written ∨ ∀ t, w.origin = .response t →
      s.connectionOf t = some w.connection)
    (hconnection : s.connection ≤ s'.connection)
    (hpipe : s'.pipe.ticket? = none ∨
      s'.pipe = s.pipe ∧ s'.connection = s.connection ∧ s'.written = s.written) :
    s'.Ordered fromJson := by
  have hof : s'.connectionOf = s.connectionOf := by
    funext t
    rw [connectionOf, connectionOf, hlines]
  have hwaits : ∀ t r, s'.pipe = .waiting t r → s'.pipe.ticket? = some t :=
    fun t r hp => by rw [hp]; rfl
  have hresponding : ∀ t r c, s'.pipe = .responding t r c → s'.pipe.ticket? = some t :=
    fun t r c hp => by rw [hp]; rfl
  refine ⟨hlines ▸ fun p hp => Nat.le_trans (h.bounded p hp) hconnection,
    fun c t r hc => hof ▸ h.queued c t r (hqueue c t r hc), htickets ▸ h.sorted,
    htickets ▸ hdispatched ▸ h.before, hof ▸ hdispatched ▸ h.recorded,
    fun w hw t ht => hof ▸ (hwritten w hw).elim (h.responded w · t ht) (· t ht), ?_, ?_, ?_, ?_⟩
  all_goals rcases hpipe with hpipe | ⟨hsame, hconnection, hwritten⟩
  · intro t ht
    exact nomatch hpipe.symm.trans ht
  · rw [hsame, hof, hconnection, hlines]
    exact h.handling
  · intro t ht
    exact nomatch hpipe.symm.trans ht
  · rw [hsame, hwritten]
    exact h.unresponded
  · intro t r hp
    exact nomatch hpipe.symm.trans (hwaits t r hp)
  · rw [hsame, hlines]
    exact h.waits
  · intro t r c hp
    exact nomatch hpipe.symm.trans (hresponding t r c hp)
  · rw [hsame, hlines]
    exact h.closes

/-- A pipe step that neither reads a line nor writes. -/
theorem Ordered.goto (h : s.Ordered fromJson) {pipe : PipeStage} (hpipe : pipe.ticket? = none) :
    ({ s with pipe } : ControlServer α).Ordered fromJson :=
  h.frame rfl (fun _ _ _ => id) rfl rfl (fun _ hw => .inl hw) (Nat.le_refl _) (.inl hpipe)

/-- The wait ends: the line at hand is the one waited for. -/
theorem Ordered.answer (h : s.Ordered fromJson) {t : Nat} {request : ParsedRequest}
    (hpipe : s.pipe = .waiting t request) (response : JsonObject) (close : Bool) :
    ({ s with pipe := .responding t response close } : ControlServer α).Ordered fromJson := by
  have ht : s.pipe.ticket? = some t := by rw [hpipe]; rfl
  refine ⟨h.bounded, h.queued, h.sorted, h.before, h.recorded, h.responded, ?_, ?_, nofun, ?_⟩
  · rintro t' ht'
    cases ht'
    exact h.handling t ht
  · rintro t' ht'
    cases ht'
    exact h.unresponded t ht
  · rintro t' r c hp c' line hline ⟨failure, hfailure, -⟩
    cases hp
    exact nomatch (h.waits t request hpipe c' line hline).symm.trans hfailure

theorem ordered_parseNext (h : s.Ordered fromJson) : (s.parseNext fromJson).Ordered fromJson := by
  unfold parseNext
  split
  · exact h.goto rfl
  next line rest htake =>
  split
  · exact h.frame rfl (fun _ _ _ => id) rfl rfl (fun _ hw => .inl hw) (Nat.le_refl _)
      (.inr ⟨rfl, rfl, rfl⟩)
  have hof : ∀ {t c}, s.connectionOf t = some c →
      ((s.lines ++ [(s.connection, line)])[t]?).map Prod.fst = some c := fun {t c} ht => by
    rw [List.getElem?_append_left (connectionOf_lt ht)]
    exact ht
  have hnew : (s.lines ++ [(s.connection, line)])[s.lines.length]? = some (s.connection, line) :=
    List.getElem?_concat_length
  have hbounded : ∀ p ∈ s.lines ++ [(s.connection, line)], p.1 ≤ s.connection := fun p hp =>
    (List.mem_append.mp hp).elim (h.bounded p) fun hp => List.mem_singleton.mp hp ▸ Nat.le_refl _
  -- nothing has been written, dispatched or queued with the new ticket
  have hold : ∀ t, t ∈ s.queuedTickets → t < s.lines.length := fun t ht => by
    obtain ⟨call, hcall, ht⟩ := List.mem_filterMap.mp ht
    cases call with
    | resetSession => exact nomatch ht
    | dispatch c t' r =>
      cases ht
      exact connectionOf_lt (h.queued c t r hcall)
  have hunwritten : ∀ w ∈ s.written, w.origin ≠ .response s.lines.length := fun w hw ht =>
    absurd (connectionOf_lt (h.responded w hw _ ht)) (Nat.lt_irrefl _)
  dsimp only
  cases hparse : ParseRequest fromJson line with
  | ok request =>
    have htickets : (s.queue ++ [QueuedCall.dispatch s.connection s.lines.length request]).filterMap
        QueuedCall.ticket? = s.queuedTickets ++ [s.lines.length] := List.filterMap_append
    refine ⟨hbounded, fun c t r hc => ?_, ?_, fun d hd t ht => ?_,
      fun d hd => hof (h.recorded d hd), fun w hw t ht => hof (h.responded w hw t ht), ?_, ?_, ?_,
      nofun⟩
    · rcases List.mem_append.mp hc with hc | hc
      · exact hof (h.queued c t r hc)
      · cases List.mem_singleton.mp hc
        exact congrArg (Option.map Prod.fst) hnew
    · rw [queuedTickets, htickets]
      exact List.pairwise_append.mpr ⟨h.sorted, List.pairwise_singleton _ _, fun t ht t' ht' =>
        List.mem_singleton.mp ht' ▸ hold t ht⟩
    · rw [queuedTickets, htickets] at ht
      rcases List.mem_append.mp ht with ht | ht
      · exact h.before d hd t ht
      · exact List.mem_singleton.mp ht ▸ connectionOf_lt (h.recorded d hd)
    · rintro t ht
      cases ht
      exact ⟨congrArg (Option.map Prod.fst) hnew, List.length_append⟩
    · rintro t ht
      cases ht
      exact hunwritten
    · rintro t r hp c line' hline
      cases hp
      cases hnew.symm.trans hline
      exact hparse
  | error failure =>
    refine ⟨hbounded, fun c t r hc => hof (h.queued c t r hc), h.sorted, h.before,
      fun d hd => hof (h.recorded d hd), fun w hw t ht => hof (h.responded w hw t ht), ?_, ?_,
      nofun, ?_⟩
    · rintro t ht
      cases ht
      exact ⟨congrArg (Option.map Prod.fst) hnew, List.length_append⟩
    · rintro t ht
      cases ht
      exact hunwritten
    · rintro t r c hp c' line' hline ⟨failure', hfailure, hcode⟩
      cases hp
      cases hnew.symm.trans hline
      cases hparse.symm.trans hfailure
      rw [hcode]
      rfl

theorem ordered_pipeWrite {ok : Bool} (h : s.Ordered fromJson) (hs : s.pipeWrite ok = some s') :
    s'.Ordered fromJson := by
  unfold pipeWrite at hs
  split at hs
  · split at hs <;> obtain rfl := Option.some.inj hs
    · refine h.frame rfl (fun _ _ _ => id) rfl rfl (fun w hw => ?_) (Nat.le_refl _) (.inl rfl)
      exact (List.mem_append.mp hw).imp_right fun hw t ht => by
        rw [List.mem_singleton.mp hw] at ht
        exact nomatch ht
    · exact h.goto rfl
  · obtain rfl := Option.some.inj hs
    refine h.frame rfl (fun _ _ _ => id) rfl rfl (fun w hw => ?_) (Nat.le_refl _) (.inl rfl)
    dsimp only at hw
    split at hw
    · exact (List.mem_append.mp hw).imp_right fun hw t ht => by
        rw [List.mem_singleton.mp hw] at ht
        exact nomatch ht
    · exact .inl hw
  next t response close hpipe =>
    have ht : s.pipe.ticket? = some t := by rw [hpipe]; rfl
    split at hs <;> obtain rfl := Option.some.inj hs
    · refine h.frame rfl (fun _ _ _ => id) rfl rfl (fun w hw => ?_) (Nat.le_refl _) (.inl ?_)
      · exact (List.mem_append.mp hw).imp_right fun hw t' ht' => by
          rw [List.mem_singleton.mp hw] at ht' ⊢
          cases ht'
          exact (h.handling t ht).1
      · dsimp only
        split <;> rfl
    · exact h.goto rfl
  · cases hs

theorem ordered_pipeAdvance (h : s.Ordered fromJson) (hs : s.pipeAdvance fromJson = some s') :
    s'.Ordered fromJson := by
  unfold pipeAdvance at hs
  split at hs
  case h_3 =>
    obtain rfl := Option.some.inj hs
    exact ordered_parseNext h
  case h_5 =>
    obtain rfl := Option.some.inj hs
    refine h.frame rfl (fun c t r hc => ?_) ?_ rfl (fun _ hw => .inl hw) (Nat.le_refl _) (.inl rfl)
    · exact (List.mem_append.mp hc).resolve_right fun hc => nomatch List.mem_singleton.mp hc
    · exact List.filterMap_append.trans (List.append_nil _)
  case h_8 => cases hs
  all_goals
    obtain rfl := Option.some.inj hs
    exact h.frame rfl (fun _ _ _ => id) rfl rfl (fun _ hw => .inl hw) (Nat.le_refl _) (.inl rfl)

theorem ordered_pipeStep {action : PipeAction} (h : s.Ordered fromJson)
    (hs : s.pipeStep fromJson action = some s') : s'.Ordered fromJson := by
  cases action with
  | connect accepted =>
    rw [pipeStep] at hs
    split at hs
    · split at hs <;> obtain rfl := Option.some.inj hs
      · exact h.frame rfl (fun _ _ _ => id) rfl rfl (fun _ hw => .inl hw) (Nat.le_succ _)
          (.inl rfl)
      · exact h.goto rfl
    · cases hs
  | read chunk =>
    rw [pipeStep] at hs
    split at hs
    · split at hs
      · cases hs
      · obtain rfl := Option.some.inj hs
        refine h.frame rfl (fun _ _ _ => id) rfl rfl (fun _ hw => .inl hw) (Nat.le_refl _) (.inl ?_)
        dsimp only
        split <;> rfl
    · cases hs
  | readFailed =>
    rw [pipeStep] at hs
    split at hs
    · obtain rfl := Option.some.inj hs
      exact h.goto rfl
    · cases hs
  | takeOutbound =>
    rw [pipeStep] at hs
    split at hs
    · split at hs
      · obtain rfl := Option.some.inj hs
        exact h.frame rfl (fun _ _ _ => id) rfl rfl (fun _ hw => .inl hw) (Nat.le_refl _) (.inl rfl)
      · cases hs
    · cases hs
  | write ok => exact ordered_pipeWrite h hs
  | ready =>
    rw [pipeStep] at hs
    split at hs
    next t request hpipe =>
      obtain ⟨response, -, rfl⟩ := Option.map_eq_some_iff.mp hs
      exact h.answer hpipe _ _
    · cases hs
  | timeout =>
    rw [pipeStep] at hs
    split at hs
    next t request hpipe =>
      obtain rfl := Option.some.inj hs
      exact h.answer hpipe _ _
    · cases hs
  | stopSeen =>
    rw [pipeStep] at hs
    split at hs
    · split at hs
      · obtain rfl := Option.some.inj hs
        exact h.goto rfl
      next t request hpipe =>
        obtain rfl := Option.some.inj hs
        exact h.answer hpipe _ _
      · cases hs
    · cases hs
  | advance => exact ordered_pipeAdvance h hs

theorem ordered_runNext (h : s.Ordered fromJson) (hs : s.runNext process = some s') :
    s'.Ordered fromJson := by
  unfold runNext at hs
  split at hs
  · cases hs
  next rest hqueue =>
    obtain rfl := Option.some.inj hs
    refine h.frame rfl (fun c t r hc => ?_) ?_ rfl (fun _ hw => .inl hw) (Nat.le_refl _)
      (.inr ⟨rfl, rfl, rfl⟩)
    · rw [hqueue]
      exact List.mem_cons_of_mem _ hc
    · rw [queuedTickets, queuedTickets, hqueue]
      rfl
  next c t request rest hqueue =>
    obtain rfl := Option.some.inj hs
    have htickets : s.queuedTickets = t :: rest.filterMap QueuedCall.ticket? := by
      rw [queuedTickets, hqueue]
      rfl
    obtain ⟨hfirst, hsorted⟩ := List.pairwise_cons.mp (htickets ▸ h.sorted)
    refine ⟨h.bounded, fun c' t' r' hc => h.queued c' t' r' (hqueue ▸ List.mem_cons_of_mem _ hc),
      hsorted, fun d hd t' ht' => ?_, fun d hd => ?_, h.responded, h.handling, h.unresponded,
      h.waits, h.closes⟩
    · rcases List.mem_append.mp hd with hd | hd
      · exact h.before d hd t' (htickets ▸ List.mem_cons_of_mem _ ht')
      · rw [List.mem_singleton.mp hd]
        exact hfirst t' ht'
    · rcases List.mem_append.mp hd with hd | hd
      · exact h.recorded d hd
      · rw [List.mem_singleton.mp hd]
        exact h.queued c t request (hqueue ▸ List.mem_cons_self)

/-- What an owner step between two queued calls leaves alone. -/
theorem ownerAdvance_fixed (hs : s.ownerAdvance = some s') :
    s'.lines = s.lines ∧ s'.queue = s.queue ∧ s'.dispatched = s.dispatched ∧
      s'.written = s.written ∧ s'.connection = s.connection ∧ s'.pipe = s.pipe ∧
        s'.session = s.session ∧ s'.clientConnected = s.clientConnected := by
  unfold ownerAdvance at hs
  split at hs <;> cases hs <;> exact ⟨rfl, rfl, rfl, rfl, rfl, rfl, rfl, rfl⟩

theorem ordered_ownerAdvance (h : s.Ordered fromJson) (hs : s.ownerAdvance = some s') :
    s'.Ordered fromJson := by
  obtain ⟨hlines, hqueue, hdispatched, hwritten, hconnection, hpipe, -⟩ := ownerAdvance_fixed hs
  exact h.frame hlines (fun _ _ _ hc => hqueue ▸ hc) (by rw [queuedTickets, hqueue]; rfl)
    hdispatched (fun _ hw => .inl (hwritten ▸ hw)) (Nat.le_of_eq hconnection.symm)
    (.inr ⟨hpipe, hconnection, hwritten⟩)

theorem ordered_ownerStep {action : OwnerAction α} (h : s.Ordered fromJson)
    (hs : s.ownerStep process action = some s') : s'.Ordered fromJson := by
  cases action with
  | run =>
    rw [ownerStep] at hs
    split at hs
    · exact ordered_runNext h hs
    · cases hs
  | emit event | change app | stop =>
    rw [ownerStep] at hs
    split at hs
    · obtain rfl := Option.some.inj hs
      exact h.frame rfl (fun _ _ _ => id) rfl rfl (fun _ hw => .inl hw) (Nat.le_refl _)
        (.inr ⟨rfl, rfl, rfl⟩)
    · cases hs
  | advance => exact ordered_ownerAdvance h hs

theorem ordered_step {action : Action α} (h : s.Ordered fromJson)
    (hs : s.step fromJson process action = some s') : s'.Ordered fromJson := by
  cases action with
  | pipe action => exact ordered_pipeStep h hs
  | owner action => exact ordered_ownerStep h hs

end

end ControlServer

end Exosnap.Control
