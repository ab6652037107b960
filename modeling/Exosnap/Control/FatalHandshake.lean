/-
  Whether a fatal handshake error is final. The session keeps a poisoned flag that its own dispatch
  does not look at; the pipe thread closes the connection when it finds the flag stored for the
  request it waited for. The owning thread stores it after it has set the promise the pipe thread
  waits for, and the wait may also be given up.
-/
import Exosnap.Control.ServerRuns

namespace Exosnap.Control

variable {α State : Type}

def OwnerStage.answering? : OwnerStage → Option Answering
  | .emitting _ answering | .appending _ _ answering | .signalling _ answering => answering
  | _ => none

def OwnerStage.answers (ticket : Nat) (stage : OwnerStage) : Bool :=
  stage.answering?.any fun answering => answering.ticket == ticket

def OwnerStage.stores (ticket : Nat) : OwnerStage → Bool
  | .storing t => t == ticket
  | _ => false

def PipeStage.awaited? : PipeStage → Option Nat
  | .waiting ticket _ => some ticket
  | _ => none

def QueuedCall.isOf (connection : Nat) : QueuedCall → Bool
  | .dispatch c _ _ => c == connection
  | .resetSession => false

namespace ControlServer

/-- The request with this ticket has poisoned the session. -/
def PoisonedBy (s : ControlServer α) (ticket : Nat) : Prop :=
  ∃ d ∈ s.dispatched, d.ticket = ticket ∧ d.effect = .poisoned

instance (s : ControlServer α) (ticket : Nat) : Decidable (s.PoisonedBy ticket) :=
  inferInstanceAs (Decidable (∃ d ∈ s.dispatched, _))

/-- The request is fatal for its connection: it has poisoned the session, or it is in a protocol
    version the server does not speak. -/
def Fatal (fromJson : List UInt8 → Except String JsonValue) (s : ControlServer α) (ticket : Nat) :
    Prop :=
  s.PoisonedBy ticket ∨ ∃ c line, s.lines[ticket]? = some (c, line) ∧ SpeaksOther fromJson line

/-- No request read behind one that poisoned the session completes a handshake or executes a
    command, and the connection of a fatal request is no longer open once it has been answered. -/
structure Final (fromJson : List UInt8 → Except String JsonValue) (s : ControlServer α) :
    Prop where
  later : ∀ d ∈ s.dispatched, d.effect = .poisoned → ∀ d' ∈ s.dispatched,
    d'.connection = d.connection → d.ticket < d'.ticket →
      (∀ protocol, d'.effect ≠ .handshake protocol) ∧ ∀ command, d'.effect ≠ .executed command
  closed : ∀ t, s.Fatal fromJson t → ∀ w ∈ s.written, w.origin = .response t →
    s.serving ≠ some w.connection

/-- A request that poisons the session is run while its connection waits for it or is gone, with
    no later request of that connection queued. -/
def RunHeeded (process : Process α State) (s : ControlServer α) : List QueuedCall → Prop
  | .dispatch c t request :: rest =>
      (s.session.Dispatch process s.app request).effect = .poisoned →
        (s.serving = some c → s.pipe.awaits t = true) ∧ ∀ call ∈ rest, call.isOf c = false
  | _ => True

instance decRunHeeded (process : Process α State) (s : ControlServer α) :
    (queue : List QueuedCall) → Decidable (s.RunHeeded process queue)
  | .dispatch _ _ _ :: _ => inferInstanceAs (Decidable (_ → _ ∧ _))
  | .resetSession :: _ => isTrue trivial
  | [] => isTrue trivial

/-- The pipe thread hears of a poisoning request: it does not take the answer between the promise
    and the flag, and does not give up on a request that has poisoned the session; and such a
    request is run in time. -/
def Heeded (process : Process α State) (s : ControlServer α) : Action α → Prop
  | .pipe .ready =>
      ∀ t ∈ s.pipe.awaited?, s.owner.stores t = true → ¬ s.PoisonedBy t
  | .pipe .timeout => ∀ t ∈ s.pipe.awaited?, ¬ s.PoisonedBy t
  | .owner .run => s.RunHeeded process s.queue
  | _ => True

instance decHeeded (process : Process α State) (s : ControlServer α) :
    (action : Action α) → Decidable (s.Heeded process action)
  | .pipe .ready | .pipe .timeout => inferInstanceAs (Decidable (∀ t ∈ s.pipe.awaited?, _))
  | .owner .run => decRunHeeded process s s.queue
  | .pipe (.connect _) | .pipe (.read _) | .pipe .readFailed | .pipe .takeOutbound
  | .pipe (.write _) | .pipe .stopSeen | .pipe .advance => isTrue trivial
  | .owner (.emit _) | .owner (.change _) | .owner .stop | .owner .advance => isTrue trivial

/-- What the pipe thread will find when the answer to this request comes. -/
def Closing (s : ControlServer α) (t : Nat) : Prop :=
  (∃ request, s.pipe = .waiting t request ∧
    (s.owner.answers t = true → s.session.poisoned = true) ∧
    (s.owner.stores t = true → s.session.poisoned = true) ∧
    (s.owner.answers t = false → s.owner.stores t = false → s.promise.poisoned = true)) ∨
  ∃ response, s.pipe = .responding t response true

/-- What holds of the owning thread's answers and of the poisoned connections in every state of a
    run that heeds them. -/
structure Heard (fromJson : List UInt8 → Except String JsonValue) (s : ControlServer α) :
    Prop where
  ordered : s.Ordered fromJson
  answering : ∀ t, s.owner.answers t = true ∨ s.owner.stores t = true →
    ∃ d ∈ s.dispatched, d.ticket = t
  unset : ∀ t request, s.pipe = .waiting t request →
    t ∈ s.queuedTickets ∨ s.owner.answers t = true → s.promise.value = none
  last : ∀ d ∈ s.dispatched, d.effect = .poisoned →
    (∀ d' ∈ s.dispatched, d'.connection = d.connection → d'.ticket ≤ d.ticket) ∧
      ∀ call ∈ s.queue, call.isOf d.connection = false
  closing : ∀ d ∈ s.dispatched, d.effect = .poisoned → s.serving = some d.connection →
    s.Closing d.ticket
  closed : ∀ t, s.Fatal fromJson t → ∀ w ∈ s.written, w.origin = .response t →
    s.serving ≠ some w.connection

section
variable {fromJson : List UInt8 → Except String JsonValue} {process : Process α State}
  {s s' : ControlServer α}

theorem serving_eq {c : Nat} (h : s.serving = some c) : c = s.connection := by
  unfold serving at h
  split at h <;> cases h <;> rfl

theorem serving_of_ticket {t : Nat} (h : s.pipe.ticket? = some t) :
    s.serving = some s.connection := by
  unfold serving
  cases hp : s.pipe <;> rw [hp] at h <;> first | rfl | exact nomatch h

theorem Closing.ticket {t : Nat} (h : s.Closing t) : s.pipe.ticket? = some t := by
  rcases h with ⟨request, hp, -⟩ | ⟨response, hp⟩ <;> rw [hp] <;> rfl

/-- A connection that a poisoning request was read on is not served past that request. -/
theorem Heard.unserved (h : s.Heard fromJson) (hpipe : s.pipe.ticket? = none) {d : DispatchRecord}
    (hd : d ∈ s.dispatched) (hpoisoned : d.effect = .poisoned) :
    s.serving ≠ some d.connection := fun hserving =>
  nomatch hpipe.symm.trans (h.closing d hd hpoisoned hserving).ticket

theorem heard_start {runId : String} {app : α} :
    (ControlServer.start runId app).Heard fromJson :=
  ⟨ordered_start, fun _ ht => ht.elim nofun nofun, nofun, nofun, nofun, fun _ _ => nofun⟩

theorem Ordered.connectionOf_le (h : s.Ordered fromJson) {t c : Nat}
    (hof : s.connectionOf t = some c) : c ≤ s.connection := by
  obtain ⟨p, hp, rfl⟩ := Option.map_eq_some_iff.mp hof
  exact h.bounded p (List.mem_of_getElem? hp)

/-- A pipe step to a stage that is at no line. A connection open after it was open before it, at no
    line, or is new. -/
theorem Heard.move (h : s.Heard fromJson) (ho : s'.Ordered fromJson)
    (hticket : s'.pipe.ticket? = none) (howner : s'.owner = s.owner)
    (hqueue : ∀ call ∈ s'.queue, call ∈ s.queue ∨ call = .resetSession)
    (hdispatched : s'.dispatched = s.dispatched) (hlines : s'.lines = s.lines)
    (hwritten : ∀ w ∈ s'.written, w ∈ s.written ∨
      ∀ t, w.origin = .response t → s.Fatal fromJson t → s'.serving ≠ some w.connection)
    (hserving : ∀ c, s'.serving = some c →
      (s.serving = some c ∧ ∀ t, s.Closing t → False) ∨ s.connection < c) :
    s'.Heard fromJson := by
  have hfatal : ∀ t, s'.Fatal fromJson t → s.Fatal fromJson t := fun t ht => by
    rw [Fatal, PoisonedBy, hdispatched, hlines] at ht
    exact ht
  refine ⟨ho, howner ▸ hdispatched ▸ h.answering, fun t r hp => ?_, hdispatched ▸ fun d hd hp => ?_,
    hdispatched ▸ fun d hd hp hs => ?_, fun t ht w hw hwt hs => ?_⟩
  · rw [hp] at hticket
    exact nomatch hticket
  · obtain ⟨hlast, hcalls⟩ := h.last d hd hp
    refine ⟨hlast, fun call hcall => (hqueue call hcall).elim (hcalls call) ?_⟩
    rintro rfl
    rfl
  · rcases hserving _ hs with ⟨hs, hclosing⟩ | hlt
    · exact (hclosing _ (h.closing d hd hp hs)).elim
    · exact absurd (h.ordered.connectionOf_le (h.ordered.recorded d hd)) (Nat.not_le_of_lt hlt)
  · rcases hwritten w hw with hw | hw
    · rcases hserving _ hs with ⟨hs, -⟩ | hlt
      · exact h.closed t (hfatal t ht) w hw hwt hs
      · exact absurd (h.ordered.connectionOf_le (h.ordered.responded w hw t hwt))
          (Nat.not_le_of_lt hlt)
    · exact hw t hwt (hfatal t ht) hs

theorem not_closing (hticket : s.pipe.ticket? = none) (t : Nat) (h : s.Closing t) : False :=
  nomatch hticket.symm.trans h.ticket

/-- A pipe step between two stages at no line, of the same connection or on the way out. -/
theorem Heard.goto (h : s.Heard fromJson) (ho : s'.Ordered fromJson)
    (hticket : s.pipe.ticket? = none) (hticket' : s'.pipe.ticket? = none)
    (howner : s'.owner = s.owner)
    (hqueue : ∀ call ∈ s'.queue, call ∈ s.queue ∨ call = .resetSession)
    (hdispatched : s'.dispatched = s.dispatched) (hlines : s'.lines = s.lines)
    (hwritten : ∀ w ∈ s'.written, w ∈ s.written ∨ ∀ t, w.origin ≠ .response t)
    (hserving : s'.serving = s.serving ∨ s'.serving = none) : s'.Heard fromJson :=
  h.move ho hticket' howner hqueue hdispatched hlines
    (fun w hw => (hwritten w hw).imp_right fun hw t ht => absurd ht (hw t)) fun _ hc => .inl
      (hserving.elim (fun hs => ⟨hs ▸ hc, not_closing hticket⟩) fun hs => nomatch hs.symm.trans hc)

/-- The wait ends, and a request that has poisoned the session ends the connection. -/
theorem Heard.answer (h : s.Heard fromJson) {t : Nat} {request : ParsedRequest}
    (hpipe : s.pipe = .waiting t request) (response : JsonObject) {close : Bool}
    (hclose : s.PoisonedBy t → close = true) :
    ({ s with pipe := .responding t response close } : ControlServer α).Heard fromJson := by
  have hserving : s.serving = some s.connection := serving_of_ticket (by rw [hpipe]; rfl)
  refine ⟨h.ordered.answer hpipe response close, h.answering, nofun, h.last,
    fun d hd hp hs => ?_, fun t' ht w hw hwt hs => ?_⟩
  · obtain ⟨request', hwaiting, -⟩ | ⟨response', hresponding⟩ :=
      h.closing d hd hp (hserving.trans hs)
    · cases hpipe.symm.trans hwaiting
      exact .inr ⟨response, by rw [hclose ⟨d, hd, rfl, hp⟩]⟩
    · exact nomatch hpipe.symm.trans hresponding
  · exact h.closed t' ht w hw hwt (hserving.trans hs)

theorem heard_parseNext (h : s.Heard fromJson) (hpipe : s.pipe = .parsing) :
    (s.parseNext fromJson).Heard fromJson := by
  have ho := ordered_parseNext h.ordered
  have hticket : s.pipe.ticket? = none := by rw [hpipe]; rfl
  have hserving : s.serving = some s.connection := by rw [serving, hpipe]
  -- no poisoning request has been read on this connection
  have hother : ∀ d ∈ s.dispatched, d.effect = .poisoned → s.connection ≠ d.connection :=
    fun d hd hp heq => h.unserved hticket hd hp (heq ▸ hserving)
  unfold parseNext at ho ⊢
  split
  next htake =>
    rw [htake] at ho
    exact h.goto ho hticket rfl rfl (fun _ => .inl) rfl rfl (fun _ => .inl) (.inl hserving.symm)
  next line rest htake =>
  rw [htake] at ho
  dsimp only at ho
  split
  next hblank =>
    rw [if_pos hblank] at ho
    exact h.goto ho hticket hticket rfl (fun _ => .inl) rfl rfl (fun _ => .inl) (.inl rfl)
  next hblank =>
  rw [if_neg hblank] at ho
  -- a line that has been answered was read before
  have hclosed : ∀ t, (s.PoisonedBy t ∨ ∃ c l, (s.lines ++ [(s.connection, line)])[t]? =
      some (c, l) ∧ SpeaksOther fromJson l) → ∀ w ∈ s.written, w.origin = .response t →
        s.serving ≠ some w.connection := by
    rintro t (ht | ⟨c, l, hl, hother⟩) w hw hwt
    · exact h.closed t (.inl ht) w hw hwt
    · rw [List.getElem?_append_left (connectionOf_lt (h.ordered.responded w hw t hwt))] at hl
      exact h.closed t (.inr ⟨c, l, hl, hother⟩) w hw hwt
  dsimp only
  cases hparse : ParseRequest fromJson line with
  | ok request =>
    rw [hparse] at ho
    refine ⟨ho, h.answering, fun _ _ _ _ => rfl, fun d hd hp => ?_, fun d hd hp hs => ?_, ?_⟩
    · obtain ⟨hlast, hcalls⟩ := h.last d hd hp
      refine ⟨hlast, fun call hcall => ?_⟩
      rcases List.mem_append.mp hcall with hcall | hcall
      · exact hcalls call hcall
      · rw [List.mem_singleton.mp hcall]
        exact beq_eq_false_iff_ne.mpr (hother d hd hp)
    · exact absurd (Option.some.inj hs) (hother d hd hp)
    · rw [hserving] at hclosed
      exact hclosed
  | error failure =>
    rw [hparse] at ho
    refine ⟨ho, h.answering, nofun, h.last, fun d hd hp hs => ?_, ?_⟩
    · exact absurd (Option.some.inj hs) (hother d hd hp)
    · rw [hserving] at hclosed
      exact hclosed

theorem heard_pipeWrite {ok : Bool} (h : s.Heard fromJson) (hs : s.pipeWrite ok = some s') :
    s'.Heard fromJson := by
  have ho := ordered_pipeWrite h.ordered hs
  unfold pipeWrite at hs
  split at hs
  next outbound rest hpipe =>
    have hticket : s.pipe.ticket? = none := by rw [hpipe]; rfl
    have hserving : s.serving = some s.connection := by rw [serving, hpipe]
    split at hs <;> obtain rfl := Option.some.inj hs
    · refine h.goto ho hticket rfl rfl (fun _ => .inl) rfl rfl (fun w hw => ?_)
        (.inl hserving.symm)
      exact (List.mem_append.mp hw).imp_right fun hw t ht => by
        rw [List.mem_singleton.mp hw] at ht
        exact nomatch ht
    · exact h.goto ho hticket rfl rfl (fun _ => .inl) rfl rfl (fun _ => .inl) (.inr rfl)
  next hpipe =>
    have hticket : s.pipe.ticket? = none := by rw [hpipe]; rfl
    obtain rfl := Option.some.inj hs
    refine h.goto ho hticket rfl rfl (fun _ => .inl) rfl rfl (fun w hw => ?_) (.inr rfl)
    dsimp only at hw
    split at hw
    · exact (List.mem_append.mp hw).imp_right fun hw t ht => by
        rw [List.mem_singleton.mp hw] at ht
        exact nomatch ht
    · exact .inl hw
  next t response close hpipe =>
    have ht : s.pipe.ticket? = some t := by rw [hpipe]; rfl
    have hserving : s.serving = some s.connection := serving_of_ticket ht
    have hclosing : ∀ t', s.Closing t' → close = true := by
      rintro t' (⟨request, hwaiting, -⟩ | ⟨response', hresponding⟩)
      · exact nomatch hpipe.symm.trans hwaiting
      · cases hpipe.symm.trans hresponding
        rfl
    have hfatal : s.Fatal fromJson t → close = true := by
      rintro (⟨d, hd, rfl, hp⟩ | ⟨c, line, hline, hother⟩)
      · have hof := (h.ordered.handling _ ht).1.symm.trans (h.ordered.recorded d hd)
        exact hclosing _ (h.closing d hd hp (hserving.trans hof))
      · exact h.ordered.closes t response close hpipe c line hline hother
    split at hs <;> obtain rfl := Option.some.inj hs
    · cases close with
      | true =>
        exact h.move ho rfl rfl (fun _ => .inl) rfl rfl (fun w _ => .inr nofun) nofun
      | false =>
        refine h.move ho rfl rfl (fun _ => .inl) rfl rfl (fun w hw => ?_) fun c hc =>
          .inl ⟨hserving.trans hc, fun t' ht' => nomatch hclosing t' ht'⟩
        refine (List.mem_append.mp hw).imp_right fun hw t' ht' hf => ?_
        rw [List.mem_singleton.mp hw] at ht'
        cases ht'
        exact nomatch hfatal hf
    · exact h.move ho rfl rfl (fun _ => .inl) rfl rfl (fun _ => .inl) nofun
  · cases hs

theorem heard_pipeAdvance (h : s.Heard fromJson) (hs : s.pipeAdvance fromJson = some s') :
    s'.Heard fromJson := by
  have ho := ordered_pipeAdvance h.ordered hs
  unfold pipeAdvance at hs
  split at hs
  case h_3 hpipe =>
    obtain rfl := Option.some.inj hs
    exact heard_parseNext h hpipe
  case h_5 hpipe =>
    obtain rfl := Option.some.inj hs
    refine h.goto ho (by rw [hpipe]; rfl) rfl rfl (fun call hcall => ?_) rfl rfl (fun _ => .inl)
      (.inr rfl)
    exact (List.mem_append.mp hcall).imp_right List.mem_singleton.mp
  case h_8 => cases hs
  all_goals
    next hpipe =>
    obtain rfl := Option.some.inj hs
    refine h.goto ho (by rw [hpipe]; rfl) rfl rfl (fun _ => .inl) rfl rfl (fun _ => .inl) ?_
    rw [serving, serving, hpipe]
    exact .inl rfl

theorem heard_pipeStep {action : PipeAction} (h : s.Heard fromJson)
    (hG : s.Heeded process (.pipe action)) (hs : s.pipeStep fromJson action = some s') :
    s'.Heard fromJson := by
  have ho := ordered_pipeStep h.ordered hs
  cases action with
  | connect accepted =>
    rw [pipeStep] at hs
    split at hs
    next hpipe =>
      split at hs <;> obtain rfl := Option.some.inj hs
      · refine h.move ho rfl rfl (fun _ => .inl) rfl rfl (fun _ => .inl) fun c hc => .inr ?_
        rw [serving_eq hc]
        exact Nat.lt_succ_self _
      · exact h.move ho rfl rfl (fun _ => .inl) rfl rfl (fun _ => .inl) (by intros; contradiction)
    · cases hs
  | read chunk =>
    rw [pipeStep] at hs
    split at hs
    next hpipe =>
      have hticket : s.pipe.ticket? = none := by rw [hpipe]; rfl
      have hserving : s.serving = some s.connection := by rw [serving, hpipe]
      split at hs
      · cases hs
      · obtain rfl := Option.some.inj hs
        refine h.goto ho hticket ?_ rfl (fun _ => .inl) rfl rfl (fun _ => .inl) (.inl ?_)
        · dsimp only
          split <;> rfl
        · rw [hserving]
          by_cases hlong : (s.accumulator ++ chunk).length > kMaxRequestBytes
          · simp only [serving, if_pos hlong]
          · simp only [serving, if_neg hlong]
    · cases hs
  | readFailed =>
    rw [pipeStep] at hs
    split at hs
    · obtain rfl := Option.some.inj hs
      exact h.move ho rfl rfl (fun _ => .inl) rfl rfl (fun _ => .inl) (by intros; contradiction)
    · cases hs
  | takeOutbound =>
    rw [pipeStep] at hs
    split at hs
    next hpipe =>
      split at hs
      · obtain rfl := Option.some.inj hs
        exact h.goto ho (by rw [hpipe]; rfl) rfl rfl (fun _ => .inl) rfl rfl (fun _ => .inl)
          (.inl (by rw [serving, serving, hpipe]))
      · cases hs
    · cases hs
  | write ok => exact heard_pipeWrite h hs
  | ready =>
    rw [pipeStep] at hs
    split at hs
    next t request hpipe =>
      obtain ⟨response, hvalue, rfl⟩ := Option.map_eq_some_iff.mp hs
      refine h.answer hpipe response fun hpoisoned => ?_
      obtain ⟨d, hd, rfl, hp⟩ := hpoisoned
      have hserving : s.serving = some d.connection := by
        have hof := h.ordered.handling d.ticket (by rw [hpipe]; rfl)
        rw [serving_of_ticket (by rw [hpipe]; rfl), ← hof.1, h.ordered.recorded d hd]
      obtain ⟨_, -, -, -, hflag⟩ | ⟨_, hresponding⟩ := h.closing d hd hp hserving
      · refine hflag (Bool.eq_false_iff.mpr fun hanswers => ?_)
          (Bool.eq_false_iff.mpr fun hstores => ?_)
        · cases hvalue.symm.trans (h.unset _ _ hpipe (.inr hanswers))
        · exact hG d.ticket (by rw [hpipe]; rfl) hstores ⟨d, hd, rfl, hp⟩
      · cases hpipe.symm.trans hresponding
    · cases hs
  | timeout =>
    rw [pipeStep] at hs
    split at hs
    next t request hpipe =>
      obtain rfl := Option.some.inj hs
      exact h.answer hpipe _ fun hpoisoned => absurd hpoisoned (hG t (by rw [hpipe]; rfl))
    · cases hs
  | stopSeen =>
    rw [pipeStep] at hs
    split at hs
    · split at hs
      · obtain rfl := Option.some.inj hs
        exact h.move ho rfl rfl (fun _ => .inl) rfl rfl (fun _ => .inl) (by intros; contradiction)
      next t request hpipe =>
        obtain rfl := Option.some.inj hs
        exact h.answer hpipe _ fun _ => rfl
      · cases hs
    · cases hs
  | advance => exact heard_pipeAdvance h hs

/-- An owner step that answers nothing and stores nothing. -/
theorem Heard.owner (h : s.Heard fromJson) {s' : ControlServer α} (ho : s'.Ordered fromJson)
    (hanswers : ∀ t, s'.owner.answers t = s.owner.answers t)
    (hstores : ∀ t, s'.owner.stores t = s.owner.stores t) (hpipe : s'.pipe = s.pipe)
    (hconnection : s'.connection = s.connection) (hsession : s'.session = s.session)
    (hpromise : s'.promise = s.promise) (hqueue : s'.queue = s.queue)
    (hdispatched : s'.dispatched = s.dispatched) (hlines : s'.lines = s.lines)
    (hwritten : s'.written = s.written) : s'.Heard fromJson := by
  have hserving : s'.serving = s.serving := by rw [serving, serving, hpipe, hconnection]
  have hclosing : ∀ t, s'.Closing t ↔ s.Closing t := fun t => by
    rw [Closing, Closing, hpipe, hsession, hpromise, hanswers, hstores]
  have hfatal : ∀ t, s'.Fatal fromJson t ↔ s.Fatal fromJson t := fun t => by
    rw [Fatal, Fatal, PoisonedBy, PoisonedBy, hdispatched, hlines]
  refine ⟨ho, fun t ht => ?_, fun t r hp ht => ?_, ?_, fun d hd hp hs => ?_, fun t ht w hw => ?_⟩
  · rw [hanswers, hstores] at ht
    exact hdispatched ▸ h.answering t ht
  · rw [hpromise]
    rw [hanswers, queuedTickets, hqueue] at ht
    exact h.unset t r (hpipe ▸ hp) ht
  · rw [hdispatched, hqueue]
    exact h.last
  · exact (hclosing _).mpr (h.closing d (hdispatched ▸ hd) hp (hserving ▸ hs))
  · rw [hserving]
    exact h.closed t ((hfatal t).mp ht) w (hwritten ▸ hw)

/-- An owner step between two queued calls leaves the poisoned flag where the pipe thread will find
    it. -/
theorem heard_ownerAdvance (h : s.Heard fromJson) (hs : s.ownerAdvance = some s') :
    s'.Heard fromJson := by
  have ho : s'.Ordered fromJson := ordered_ownerAdvance h.ordered hs
  unfold ownerAdvance at hs
  split at hs
  case h_1 => cases hs
  case h_3 answering howner =>
    obtain rfl := Option.some.inj hs
    have hanswers : s.owner.answers answering.ticket = true := by
      rw [howner]
      exact beq_self_eq_true _
    obtain ⟨d', hd', hticket⟩ := h.answering _ (.inl hanswers)
    refine ⟨ho, fun t ht => ?_, fun t r hp ht => ?_, h.last, fun d hd hp hs => ?_, h.closed⟩
    · have heq : (answering.ticket == t) = true := ht.resolve_left (by intro hno; cases hno)
      exact ⟨d', hd', hticket.trans (beq_iff_eq.mp heq)⟩
    · have ht := ht.resolve_right (by intro hno; cases hno)
      have hne : s.pipe.awaits answering.ticket = false := by
        have hlt := h.ordered.before d' hd' t ht
        rw [show s.pipe = .waiting t r from hp, PipeStage.awaits]
        exact beq_eq_false_iff_ne.mpr (by omega)
      dsimp only
      rw [hne]
      exact h.unset t r hp (.inl ht)
    · refine (h.closing d hd hp hs).imp_left ?_
      rintro ⟨request, hwaiting, ha, hst, hidle⟩
      refine ⟨request, hwaiting, (by intros; contradiction), fun hstores => ha ?_, fun _ hstores => ?_⟩
      · rw [howner]
        exact hstores
      · have hflag := hidle (by rw [howner]; exact hstores) (by rw [howner]; rfl)
        dsimp only
        split <;> exact hflag
  case h_7 t howner =>
    obtain rfl := Option.some.inj hs
    refine ⟨ho, fun t' ht' => ht'.elim (by intros; contradiction) (by intros; contradiction),
      fun t' r hp ht => ?_, h.last, fun d hd hp hs => ?_, h.closed⟩
    · have hvalue := h.unset t' r hp (.inl (ht.resolve_right (by intro hno; cases hno)))
      dsimp only
      split <;> exact hvalue
    · refine (h.closing d hd hp hs).imp_left ?_
      rintro ⟨request, hwaiting, ha, hst, hidle⟩
      refine ⟨request, hwaiting, (by intros; contradiction), (by intros; contradiction), fun _ _ => ?_⟩
      dsimp only
      rw [hwaiting, PipeStage.awaits]
      cases heq : d.ticket == t with
      | true =>
        refine hst ?_
        rw [howner, ← beq_iff_eq.mp heq]
        exact beq_self_eq_true _
      | false =>
        exact hidle (by rw [howner]; rfl) (by rw [howner]; exact (Bool.beq_comm).trans heq)
  all_goals
    next howner =>
    obtain rfl := Option.some.inj hs
    refine h.owner ho (fun t => ?_) (fun t => ?_) rfl rfl rfl rfl rfl rfl rfl rfl
    all_goals
      rw [howner]
      first | rfl | (dsimp only; split <;> rfl)

theorem heard_runNext (h : s.Heard fromJson) (hidle : s.owner = .idle)
    (hG : s.RunHeeded process s.queue) (hs : s.runNext process = some s') : s'.Heard fromJson := by
  have ho := ordered_runNext h.ordered hs
  unfold runNext at hs
  split at hs
  · cases hs
  next rest hqueue =>
    obtain rfl := Option.some.inj hs
    have htickets : s.queuedTickets = rest.filterMap QueuedCall.ticket? := by
      rw [queuedTickets, hqueue]
      rfl
    refine ⟨ho, h.answering, fun t r hp ht => h.unset t r hp (htickets ▸ ht), fun d hd hp => ?_,
      fun d hd hp hs => ?_, h.closed⟩
    · obtain ⟨hlast, hcalls⟩ := h.last d hd hp
      exact ⟨hlast, fun call hcall => hcalls call (hqueue ▸ List.mem_cons_of_mem _ hcall)⟩
    · refine (h.closing d hd hp hs).imp_left ?_
      rintro ⟨request, hwaiting, _, _, hflag⟩
      refine ⟨request, hwaiting, ?_, ?_, hflag⟩
      all_goals
        intro hbusy
        rw [show ({ s with queue := rest, session := s.session.ResetSession } :
          ControlServer α).owner = .idle from hidle] at hbusy
        cases hbusy
  next c t request rest hqueue =>
    obtain rfl := Option.some.inj hs
    rw [hqueue] at hG
    have htickets : s.queuedTickets = t :: rest.filterMap QueuedCall.ticket? := by
      rw [queuedTickets, hqueue]
      rfl
    have hqueued : s.connectionOf t = some c :=
      h.ordered.queued c t request (hqueue ▸ List.mem_cons_self)
    have hlt : ∀ d ∈ s.dispatched, d.ticket < t := fun d hd =>
      h.ordered.before d hd t (htickets ▸ List.mem_cons_self)
    have hpoisons : (s.session.Dispatch process s.app request).effect = .poisoned →
        (s.session.Dispatch process s.app request).session.poisoned = true := fun hp => by
      rw [ControlSession.dispatch_answers.poisoned, hp]
      exact Bool.or_true _
    refine ⟨ho, fun t' ht' => ?_, fun t' r hp ht' => h.unset t' r hp (.inl ?_), fun d hd hp => ?_,
      fun d hd hp hs => ?_, ?_⟩
    · have heq : (t == t') = true := ht'.resolve_right (by intro hno; cases hno)
      exact ⟨_, List.mem_append_right _ (List.mem_singleton_self _), beq_iff_eq.mp heq⟩
    · rw [htickets]
      rcases ht' with ht' | heq
      · exact List.mem_cons_of_mem _ ht'
      · exact (beq_iff_eq.mp heq : t = t') ▸ List.mem_cons_self
    · rcases List.mem_append.mp hd with hd | hd
      · obtain ⟨hlast, hcalls⟩ := h.last d hd hp
        rw [hqueue] at hcalls
        refine ⟨fun d' hd' hc => ?_, fun call hcall => hcalls call (List.mem_cons_of_mem _ hcall)⟩
        rcases List.mem_append.mp hd' with hd' | hd'
        · exact hlast d' hd' hc
        · rw [List.mem_singleton.mp hd'] at hc
          exact absurd hc (beq_eq_false_iff_ne.mp (hcalls _ List.mem_cons_self))
      · rw [List.mem_singleton.mp hd] at hp ⊢
        refine ⟨fun d' hd' _ => ?_, (hG hp).2⟩
        rcases List.mem_append.mp hd' with hd' | hd'
        · exact Nat.le_of_lt (hlt d' hd')
        · exact Nat.le_of_eq (congrArg DispatchRecord.ticket (List.mem_singleton.mp hd'))
    · rcases List.mem_append.mp hd with hd | hd
      · refine (h.closing d hd hp hs).imp_left ?_
        rintro ⟨request', hwaiting, _, _, hflag⟩
        refine ⟨request', hwaiting, fun heq => ?_, (by intros; contradiction), fun _ _ => hflag ?_ ?_⟩
        · exact absurd (beq_iff_eq.mp heq : t = d.ticket) (Nat.ne_of_gt (hlt d hd))
        · rw [hidle]
          rfl
        · rw [hidle]
          rfl
      · rw [List.mem_singleton.mp hd] at hp hs ⊢
        obtain ⟨request', hwaiting⟩ := PipeStage.awaits_iff.mp ((hG hp).1 hs)
        exact .inl ⟨request', hwaiting, fun _ => hpoisons hp, (by intros; contradiction),
          fun hanswers => absurd (beq_self_eq_true t) (Bool.eq_false_iff.mp hanswers)⟩
    · rintro t' (⟨d, hd, rfl, hp⟩ | hother) w hw hwt hs
      · rcases List.mem_append.mp hd with hd | hd
        · exact h.closed _ (.inl ⟨d, hd, rfl, hp⟩) w hw hwt hs
        · rw [List.mem_singleton.mp hd] at hp hwt
          have hc : c = w.connection :=
            Option.some.inj (hqueued.symm.trans (h.ordered.responded w hw t hwt))
          obtain ⟨request', hwaiting⟩ := PipeStage.awaits_iff.mp ((hG hp).1 (hc ▸ hs))
          exact h.ordered.unresponded t (by rw [hwaiting]; rfl) w hw hwt
      · exact h.closed t' (.inr hother) w hw hwt hs

theorem heard_step {action : Action α} (h : s.Heard fromJson) (hG : s.Heeded process action)
    (hs : s.step fromJson process action = some s') : s'.Heard fromJson := by
  cases action with
  | pipe action => exact heard_pipeStep h hG hs
  | owner action =>
    have ho := ordered_ownerStep h.ordered hs
    cases action with
    | run =>
      rw [step, ownerStep] at hs
      split at hs
      next hidle => exact heard_runNext h hidle hG hs
      · cases hs
    | emit event =>
      rw [step, ownerStep] at hs
      split at hs
      next hidle =>
        obtain rfl := Option.some.inj hs
        exact h.owner ho (fun _ => by rw [hidle]; rfl) (fun _ => by rw [hidle]; rfl) rfl rfl rfl rfl
          rfl rfl rfl rfl
      · cases hs
    | change app | stop =>
      rw [step, ownerStep] at hs
      split at hs
      · obtain rfl := Option.some.inj hs
        exact h.owner ho (fun _ => rfl) (fun _ => rfl) rfl rfl rfl rfl rfl rfl rfl rfl
      · cases hs
    | advance => exact heard_ownerAdvance h hs

/-- In every run in which the pipe thread hears of the requests that poison the session, a fatal
    handshake error is final in every state the run reaches. -/
theorem fatal_error_is_final {runId : String} {app : α} {as : List (Action α)}
    (hG : StepRun.Meets (step fromJson process) (Heeded process)
      (ControlServer.start runId app) as)
    (he : (ControlServer.start runId app).exec fromJson process as = some s) :
    s.Final fromJson := by
  have h : s.Heard fromJson :=
    StepRun.exec_invariant (fun _ _ _ => heard_step) heard_start hG he
  refine ⟨fun d hd hp d' hd' hc hlt => ?_, h.closed⟩
  exact absurd ((h.last d hd hp).1 d' hd' hc) (Nat.not_le_of_lt hlt)

end

end ControlServer

/-! ## Runs on two hellos -/

def bytesOf (text : String) : List UInt8 := text.toList.map Char.toUInt8

def helloLine (runId : String) : List UInt8 :=
  bytesOf ("\x7b\"protocol\":1,\"command\":\"system.hello\",\"params\":\x7b\"runId\":\"" ++ runId ++
    "\"\x7d\x7d")

def helloObject (runId : String) : JsonValue :=
  .object [("protocol", .double 1), ("command", .string "system.hello"),
    ("params", .object [("runId", .string runId)])]

/-- The documents of the two hellos; nothing else is read. -/
def helloJson (line : List UInt8) : Except String JsonValue :=
  if line = helloLine "guess" then .ok (helloObject "guess")
  else if line = helloLine "4f1c" then .ok (helloObject "4f1c")
  else .error "illegal value"

/-- A process that knows no command. -/
def mutedProcess : Process Unit Unit where
  Identity _ := []
  Commands := []
  EventNamesFor _ := []
  HasState _ := false
  StateValue _ := ()
  Revision _ := 0
  StateJson _ _ := []
  Execute _ _ _ := ({}, (), [])

/-- A wrong hello, answered in time. -/
def heededActions : List (Action Unit) :=
  [.pipe (.connect true), .pipe .advance, .pipe (.read (helloLine "guess" ++ [10])),
   .pipe .advance, .owner .run, .owner .advance, .owner .advance, .pipe .ready,
   .pipe (.write true)]

/-- A second hello pipelined behind the wrong one; the pipe thread takes the answer to the first
    between its promise and its flag. -/
def unheededActions : List (Action Unit) :=
  [.pipe (.connect true), .pipe .advance,
   .pipe (.read (helloLine "guess" ++ [10] ++ helloLine "4f1c" ++ [10])), .pipe .advance,
   .owner .run, .owner .advance, .pipe .ready, .pipe (.write true), .pipe .advance,
   .owner .advance, .owner .run]

namespace ControlServer

theorem fatal_error_is_final_hello : ∃ s : ControlServer Unit,
    (start "4f1c" ()).exec helloJson mutedProcess heededActions = some s ∧
      (s.PoisonedBy 0 ∧ s.written.length = 1) ∧ s.Final helloJson := by
  obtain ⟨s, hs, hrun⟩ := (Option.any_eq_true _ _).mp
    (show ((start "4f1c" ()).exec helloJson mutedProcess heededActions).any
      (fun s => decide (s.PoisonedBy 0 ∧ s.written.length = 1)) = true by decide)
  exact ⟨s, hs, of_decide_eq_true hrun, fatal_error_is_final (by decide) hs⟩

/-- The second guess is taken: it completes the handshake. -/
theorem second_guess : ∃ s : ControlServer Unit,
    (start "4f1c" ()).exec helloJson mutedProcess unheededActions = some s ∧
      ¬ s.Final helloJson := by
  obtain ⟨s, hs, hrun⟩ := (Option.any_eq_true _ _).mp
    (show ((start "4f1c" ()).exec helloJson mutedProcess unheededActions).any
      (fun s => decide (∃ d ∈ s.dispatched, d.effect = .poisoned ∧ ∃ d' ∈ s.dispatched,
        d'.connection = d.connection ∧ d.ticket < d'.ticket ∧ d'.effect = .handshake 1)) = true by
          decide +kernel)
  obtain ⟨d, hd, hp, d', hd', hc, hlt, heffect⟩ := of_decide_eq_true hrun
  exact ⟨s, hs, fun h => (h.later d hd hp d' hd' hc hlt).1 1 heffect⟩

end ControlServer

end Exosnap.Control
