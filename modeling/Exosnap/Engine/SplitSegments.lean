/-
  Segments from the video thread to the files: the packets `routePacket` puts in the mux queue and
  the boundaries it places among them, and what the mux thread makes of them.

  A run is one of `SplitCoordination`, with the order of armings and routed packets noted down
  (`trace`, newest first). The mux thread then handles the queue, with any audio in between, behind
  the packets held back before its tracks were ready. What the encoder still held when the loop
  ended is queued last (`drained`) and is not looked at for a boundary.

  `segments_structure` is the result. A segment begins at the first keyframe routed since its
  arming whose PTS is not below that of the arming frame (`Pending`), whatever was in flight.
-/
import Exosnap.Lib.MarkedGroups
import Exosnap.Engine.MuxAudioPlacement
import Exosnap.Engine.MuxSegments
import Exosnap.Engine.SplitSteps

namespace Exosnap.Engine.SplitCoordination

open StepRun MarkedGroups

/-! ## The trace -/

inductive RouteEvent where
  /-- A boundary was armed for the frame at `ptsNs`. -/
  | armed (ptsNs : UInt64)
  /-- A packet was put in the mux queue, behind `split` if it begins a segment. -/
  | routed (split : Option SplitSentinel) (pkt : EncodedVideoPacket)
  deriving DecidableEq, Repr

abbrev RouteEntry := Option SplitSentinel × EncodedVideoPacket

def RouteEvent.entry? : RouteEvent → Option RouteEntry
  | .armed _ => none
  | .routed split pkt => some (split, pkt)

def itemsOf (entry : RouteEntry) : List MuxItem :=
  match entry.1 with
  | some split => [.split split, .video entry.2]
  | none => [.video entry.2]

/-- What a step adds to the trace. -/
def routeEvents (s : SplitState) : SplitAction → List RouteEvent
  | .maybeArmSplit ptsNs =>
      match s.video with
      | some v =>
          if !v.splitArmed && (v.manual s.splitRequest || v.automatic ptsNs) then [.armed ptsNs]
          else []
      | none => []
  | .routePacket pkt bothReady room =>
      match s.video with
      | some v =>
          if pkt.bytes.isEmpty || !bothReady || room ≠ .ready then []
          else if shouldEmitSplitSentinel v.splitArmed v.splitForcedPtsNs pkt.keyframe pkt.ptsNs then
            [.routed (some v.sentinel) pkt]
          else [.routed none pkt]
      | none => []
  | _ => []

structure Traced where
  split : SplitState
  trace : List RouteEvent := []

def tracedStep (cfg : SplitConfig) (t : Traced) (a : SplitAction) : Option Traced :=
  (step cfg t.split a).map (⟨·, routeEvents t.split a ++ t.trace⟩)

/-- The items the video thread has put in the queue. -/
def SplitState.items (s : SplitState) : List MuxItem := s.muxPopped ++ s.muxQueue

/-- The entries of a trace, oldest first. -/
def entries (trace : List RouteEvent) : List RouteEntry :=
  trace.reverse.filterMap RouteEvent.entry?

def routedPackets (trace : List RouteEvent) : List EncodedVideoPacket :=
  (entries trace).map Prod.snd

/-- A boundary is armed for the frame at `ptsNs`, and no keyframe at or after it has been routed
    since. -/
def Pending (ptsNs : UInt64) : List RouteEvent → Prop
  | [] => False
  | .armed p :: _ => p = ptsNs
  | .routed none pkt :: before => ¬(pkt.keyframe = true ∧ ptsNs ≤ pkt.ptsNs) ∧ Pending ptsNs before
  | .routed (some _) _ :: _ => False

/-- `pkt` is the first keyframe at or after the frame that armed the pending boundary. -/
def FirstKeyframe (pkt : EncodedVideoPacket) (before : List RouteEvent) : Prop :=
  ∃ ptsNs, Pending ptsNs before ∧ pkt.keyframe = true ∧ ptsNs ≤ pkt.ptsNs

/-! ## What a step does -/

/-- What a boundary that is still to land depends on. -/
structure SameArming (v v' : VideoLocals) : Prop where
  armed : v'.splitArmed = v.splitArmed
  forced : v'.splitForcedPtsNs = v.splitForcedPtsNs
  index : v'.currentSegmentIndex = v.currentSegmentIndex

/-- A held back packet was there before, or is not empty. -/
def Premuxed (s s' : SplitState) : Prop :=
  ∀ p ∈ s'.videoPremux, p ∈ s.videoPremux ∨ p.bytes.isEmpty = false

inductive Routing (cfg : SplitConfig) (s s' : SplitState) : List RouteEvent → Prop
  | quiet (hitems : s'.items = s.items) (hpremux : Premuxed s s')
      (hvideo : s'.video = s.video ∨
        ∃ v v', s.video = some v ∧ s'.video = some v' ∧ SameArming v v') : Routing cfg s s' []
  | started (word : UInt64) (hnone : s.video = none) (hitems : s'.items = s.items)
      (hpremux : Premuxed s s') (hvideo : s'.video = some (.start cfg word)) : Routing cfg s s' []
  | armed (v : VideoLocals) (word ptsNs : UInt64) (hv : s.video = some v)
      (hitems : s'.items = s.items) (hpremux : Premuxed s s')
      (hvideo : s'.video = some (v.arm word ptsNs)) : Routing cfg s s' [.armed ptsNs]
  | routed (v : VideoLocals) (pkt : EncodedVideoPacket) (hv : s.video = some v)
      (hbytes : pkt.bytes.isEmpty = false)
      (hlater : v.splitArmed = true → ¬(pkt.keyframe = true ∧ v.splitForcedPtsNs ≤ pkt.ptsNs))
      (hitems : s'.items = s.items ++ itemsOf (none, pkt)) (hpremux : Premuxed s s')
      (hvideo : s'.video = some v) : Routing cfg s s' [.routed none pkt]
  | landed (v : VideoLocals) (pkt : EncodedVideoPacket) (hv : s.video = some v)
      (hbytes : pkt.bytes.isEmpty = false) (harmed : v.splitArmed = true)
      (hkey : pkt.keyframe = true) (hpts : v.splitForcedPtsNs ≤ pkt.ptsNs)
      (hitems : s'.items = s.items ++ itemsOf (some v.sentinel, pkt)) (hpremux : Premuxed s s')
      (hvideo : s'.video = some (v.land cfg pkt.ptsNs)) :
      Routing cfg s s' [.routed (some v.sentinel) pkt]

variable {cfg : SplitConfig} {s s' : SplitState} {a : SplitAction}

/-- A step of another thread. -/
theorem Routing.of_video (hitems : s'.items = s.items) (hpremux : s'.videoPremux = s.videoPremux)
    (hvideo : s'.video = s.video) : Routing cfg s s' [] :=
  .quiet hitems (fun _ hp => .inl (hpremux ▸ hp)) (.inl hvideo)

/-- A step of the video thread that decides nothing about boundaries. -/
theorem Routing.of_sameArming {v v' : VideoLocals} (hv : s.video = some v)
    (hsame : SameArming v v') : Routing cfg s { s with video := some v' } [] :=
  .quiet rfl (fun _ => .inl) (.inr ⟨v, v', hv, rfl, hsame⟩)

theorem maybeArmSplit_routing {v : VideoLocals} (hv : s.video = some v) (ptsNs : UInt64) :
    Routing cfg s (maybeArmSplit s v ptsNs) (routeEvents s (.maybeArmSplit ptsNs)) := by
  simp only [routeEvents, hv]
  unfold maybeArmSplit
  cases harmed : v.splitArmed with
  | true =>
      simp only [if_true, Bool.not_true, Bool.false_and, Bool.false_eq_true, if_false]
      split
      · exact .of_sameArming hv ⟨harmed.symm, rfl, rfl⟩
      · exact .of_video rfl rfl rfl
  | false =>
      simp only [Bool.false_eq_true, if_false, Bool.not_false, Bool.true_and]
      by_cases hcause : (v.manual s.splitRequest || v.automatic ptsNs) = true
      · rw [if_pos hcause, if_neg (by rw [← Bool.not_or, hcause]; simp)]
        exact .armed v s.splitRequest ptsNs hv rfl (fun _ => .inl) rfl
      · rw [if_neg hcause, if_pos (by simpa using hcause)]
        exact .of_video rfl rfl rfl

theorem routePacket_routing {v : VideoLocals} (hv : s.video = some v) (pkt : EncodedVideoPacket)
    (bothReady : Bool) (room : MuxQueueWait) :
    Routing cfg s (routePacket cfg s v pkt bothReady room)
      (routeEvents s (.routePacket pkt bothReady room)) := by
  have hfail : Routing cfg s { s with video := some { v with failed := true } } [] :=
    .of_sameArming hv ⟨rfl, rfl, rfl⟩
  simp only [routeEvents, hv]
  unfold routePacket
  by_cases hempty : pkt.bytes.isEmpty = true
  · rw [if_pos hempty, if_pos (by simp [hempty])]
    exact .of_video rfl rfl rfl
  rw [if_neg hempty]
  cases bothReady with
  | false =>
      simp only [Bool.not_false, if_true, Bool.or_true, Bool.true_or]
      split
      · exact hfail
      · refine .quiet rfl (fun p hp => ?_) (.inl rfl)
        rcases List.mem_append.mp hp with hp | hp
        · exact .inl hp
        · rw [List.mem_singleton.mp hp]
          exact .inr (by simpa using hempty)
  | true =>
      by_cases hroom : room = .ready
      · subst hroom
        have hbytes : pkt.bytes.isEmpty = false := by simpa using hempty
        simp only [hbytes, Bool.not_true, Bool.or_self, Bool.false_eq_true, ne_eq,
          not_true_eq_false, decide_false, if_false]
        split
        · rename_i hemit
          simp only [shouldEmitSplitSentinel, Bool.and_eq_true, decide_eq_true_eq] at hemit
          refine .landed v pkt hv hbytes hemit.1.1 hemit.1.2 hemit.2 ?_ (fun _ => .inl) rfl
          simp [SplitState.items, landBoundary, itemsOf]
        · rename_i hemit
          refine .routed v pkt hv hbytes (fun harmed hlater => hemit ?_) ?_ (fun _ => .inl) hv
          · simp [shouldEmitSplitSentinel, harmed, hlater.1, hlater.2]
          · simp [SplitState.items, itemsOf]
      · simp only [Bool.not_true, Bool.false_eq_true, if_false, ne_eq, hroom, not_false_eq_true,
          if_true, decide_true, Bool.or_true]
        exact hfail

theorem popMuxItem_routing {finalized : Bool} (h : popMuxItem s finalized = some s') :
    Routing cfg s s' [] := by
  unfold popMuxItem at h
  split at h
  · rename_i item rest _ hq
    have hkeep : ∀ armed, Routing cfg s { s with
        muxQueue := rest, muxPopped := s.muxPopped ++ [item], sizeSplitArmed := armed } [] :=
      fun armed => .of_video (by simp [SplitState.items, hq]) rfl rfl
    dsimp only at h
    split at h
    · split at h <;> cases h
      · exact hkeep false
      · exact hkeep s.sizeSplitArmed
    · cases h
      exact hkeep s.sizeSplitArmed
  · exact nomatch h

/-- Requests, and the mux thread's size check, route nothing. -/
theorem requester_routing (h : step cfg s a = some s')
    (ha : match a with
      | .session _ _ | .requestSplit _ _ _ | .matchRequest _ | .loadWord _ | .exchangeWord _ _
      | .sampleMuxDiagnostics _ => True
      | _ => False) : Routing cfg s s' [] := by
  cases a with
  | session recording activeRequest =>
      cases h
      exact .of_video rfl rfl rfl
  | requestSplit n source requestId =>
      simp only [step, requestSplit] at h
      split at h
      · split at h <;> cases h <;> exact .of_video rfl rfl rfl
      · cases h
  | matchRequest n =>
      simp only [step, matchRequest] at h
      split at h
      · split at h <;> cases h <;> exact .of_video rfl rfl rfl
      · cases h
  | loadWord r =>
      simp only [step, loadWord] at h
      split at h
      · cases h
        exact .of_video rfl rfl rfl
      · cases h
  | exchangeWord r spurious =>
      simp only [step, exchangeWord] at h
      split at h
      · split at h <;> cases h <;> exact .of_video rfl rfl rfl
      · cases h
  | sampleMuxDiagnostics bytes =>
      simp only [step, sampleMuxDiagnostics] at h
      split at h
      · split at h <;> cases h <;> exact .of_video rfl rfl rfl
      · cases h
  | popMuxItem | startVideo | maybeArmSplit | consumeRequest | routePacket => exact ha.elim

theorem step_routing (h : step cfg s a = some s') : Routing cfg s s' (routeEvents s a) := by
  cases a with
  | session | requestSplit | matchRequest | loadWord | exchangeWord | sampleMuxDiagnostics =>
      exact requester_routing h trivial
  | popMuxItem finalized => exact popMuxItem_routing h
  | startVideo =>
      simp only [step, startVideo] at h
      split at h
      · rename_i hnone
        cases h
        exact .started s.splitRequest hnone rfl (fun _ => .inl) rfl
      · cases h
  | maybeArmSplit ptsNs =>
      obtain ⟨v, hv, -, rfl⟩ := onVideo_some h
      exact maybeArmSplit_routing hv ptsNs
  | consumeRequest =>
      simp only [step] at h
      split at h
      · rename_i v hv
        obtain ⟨word, -, rfl⟩ := Option.map_eq_some_iff.mp h
        exact .quiet rfl (fun _ => .inl) (.inr ⟨v, _, hv, rfl, ⟨rfl, rfl, rfl⟩⟩)
      · cases h
  | routePacket pkt bothReady room =>
      obtain ⟨v, hv, -, rfl⟩ := onVideo_some h
      exact routePacket_routing hv pkt bothReady room

/-! ## The invariant -/

/-- Every boundary of a trace is at the first keyframe its arming allows. -/
def Boundaries : List RouteEvent → Prop
  | [] => True
  | .routed (some _) pkt :: before => FirstKeyframe pkt before ∧ Boundaries before
  | _ :: before => Boundaries before

def RouteEvent.index? : RouteEvent → Option UInt32
  | .armed _ => none
  | .routed split _ => split.map SplitSentinel.newSegmentIndex

/-- The segment indices the boundaries announce, newest first. -/
def indices (trace : List RouteEvent) : List UInt32 := trace.filterMap RouteEvent.index?

/-- `n`, …, 2, 1 -/
def countdown : ℕ → List UInt32
  | 0 => []
  | n + 1 => .ofNat (n + 1) :: countdown n

structure RouteInv (t : Traced) : Prop where
  items : t.split.items = (entries t.trace).flatMap itemsOf
  premux : ∀ p ∈ t.split.videoPremux, p.bytes.isEmpty = false
  nonempty : ∀ p ∈ routedPackets t.trace, p.bytes.isEmpty = false
  boundaries : Boundaries t.trace
  pending : ∀ v, t.split.video = some v → v.splitArmed = true → Pending v.splitForcedPtsNs t.trace
  counted : indices t.trace = countdown (indices t.trace).length
  current : ∀ v, t.split.video = some v → v.currentSegmentIndex = .ofNat (indices t.trace).length
  unstarted : t.split.video = none → t.trace = []

@[simp] theorem entries_nil : entries [] = [] := rfl

@[simp] theorem entries_armed (p : UInt64) (trace : List RouteEvent) :
    entries (.armed p :: trace) = entries trace := by
  simp [entries, RouteEvent.entry?]

@[simp] theorem entries_routed (split : Option SplitSentinel) (pkt : EncodedVideoPacket)
    (trace : List RouteEvent) :
    entries (.routed split pkt :: trace) = entries trace ++ [(split, pkt)] := by
  simp [entries, RouteEvent.entry?]

@[simp] theorem indices_armed (p : UInt64) (trace : List RouteEvent) :
    indices (.armed p :: trace) = indices trace := rfl

@[simp] theorem indices_routed (pkt : EncodedVideoPacket) (trace : List RouteEvent) :
    indices (.routed none pkt :: trace) = indices trace := rfl

@[simp] theorem indices_landed (split : SplitSentinel) (pkt : EncodedVideoPacket)
    (trace : List RouteEvent) :
    indices (.routed (some split) pkt :: trace) = split.newSegmentIndex :: indices trace := rfl

theorem RouteInv.initial (callers : Nat → Requester) : RouteInv ⟨.initial callers, []⟩ where
  items := rfl
  premux := nofun
  nonempty := nofun
  boundaries := trivial
  pending := nofun
  counted := rfl
  current := nofun
  unstarted _ := rfl

theorem Premuxed.nonempty {s s' : SplitState} (h : Premuxed s s')
    (hs : ∀ p ∈ s.videoPremux, p.bytes.isEmpty = false) :
    ∀ p ∈ s'.videoPremux, p.bytes.isEmpty = false := by
  intro p hp
  rcases h p hp with hold | hnew
  · exact hs p hold
  · exact hnew

theorem nonempty_routed {trace : List RouteEvent} {split : Option SplitSentinel}
    {pkt : EncodedVideoPacket} (h : ∀ p ∈ routedPackets trace, p.bytes.isEmpty = false)
    (hpkt : pkt.bytes.isEmpty = false) :
    ∀ p ∈ routedPackets (.routed split pkt :: trace), p.bytes.isEmpty = false := by
  intro p hp
  rw [routedPackets, entries_routed, List.map_append, List.mem_append] at hp
  rcases hp with hp | hp
  · exact h p hp
  · rw [List.mem_singleton.mp hp]
    exact hpkt

/-- The step lemma. -/
theorem RouteInv.step {t : Traced} {events : List RouteEvent} (hI : RouteInv t)
    (hr : Routing cfg t.split s' events) : RouteInv ⟨s', events ++ t.trace⟩ := by
  cases hr with
  | quiet hitems hpremux hvideo =>
      refine ⟨hitems.trans hI.items, hpremux.nonempty hI.premux, hI.nonempty, hI.boundaries, ?_,
        hI.counted, ?_, ?_⟩
      all_goals rcases hvideo with hsame | ⟨v, v', hv, hv', hsame⟩
      · rw [hsame]
        exact hI.pending
      · intro w hw harmed
        cases hv'.symm.trans hw
        rw [hsame.forced]
        exact hI.pending v hv (hsame.armed ▸ harmed)
      · rw [hsame]
        exact hI.current
      · intro w hw
        cases hv'.symm.trans hw
        exact hsame.index.trans (hI.current v hv)
      · rw [hsame]
        exact hI.unstarted
      · intro hnone
        exact nomatch hv'.symm.trans hnone
  | started word hnone hitems hpremux hvideo =>
      have htrace := hI.unstarted hnone
      refine ⟨hitems.trans hI.items, hpremux.nonempty hI.premux, hI.nonempty, hI.boundaries, ?_,
        hI.counted, ?_, fun _ => htrace⟩
      · intro v hv harmed
        rw [hvideo] at hv
        cases hv
        exact nomatch harmed
      · intro v hv
        rw [hvideo] at hv
        cases hv
        simp [htrace, VideoLocals.start, indices]
  | armed v word ptsNs hv hitems hpremux hvideo =>
      refine ⟨by simpa using hitems.trans hI.items, hpremux.nonempty hI.premux,
        by simpa [routedPackets] using hI.nonempty, hI.boundaries, ?_, hI.counted, ?_, ?_⟩
      · intro v' hv' _
        rw [hvideo] at hv'
        cases hv'
        exact rfl
      · intro v' hv'
        rw [hvideo] at hv'
        cases hv'
        exact hI.current v hv
      · intro hnone
        rw [hvideo] at hnone
        exact nomatch hnone
  | routed v pkt hv hbytes hlater hitems hpremux hvideo =>
      refine ⟨by simp [hitems, hI.items], hpremux.nonempty hI.premux, ?_, hI.boundaries, ?_,
        hI.counted, ?_, ?_⟩
      · exact nonempty_routed hI.nonempty hbytes
      · intro v' hv' harmed
        rw [hvideo] at hv'
        cases hv'
        exact ⟨hlater harmed, hI.pending v hv harmed⟩
      · intro v' hv'
        rw [hvideo] at hv'
        cases hv'
        exact hI.current v hv
      · intro hnone
        rw [hvideo] at hnone
        exact nomatch hnone
  | landed v pkt hv hbytes harmed hkey hpts hitems hpremux hvideo =>
      have hcurrent := hI.current v hv
      have hindex : v.sentinel.newSegmentIndex = .ofNat ((indices t.trace).length + 1) := by
        rw [VideoLocals.sentinel, hcurrent]
        exact (UInt32.ofNat_add _ 1).symm
      refine ⟨by simp [hitems, hI.items], hpremux.nonempty hI.premux, ?_,
        ⟨⟨v.splitForcedPtsNs, hI.pending v hv harmed, hkey, hpts⟩, hI.boundaries⟩, ?_, ?_, ?_, ?_⟩
      · exact nonempty_routed hI.nonempty hbytes
      · intro v' hv' harmed'
        rw [hvideo] at hv'
        cases hv'
        exact nomatch harmed'
      · rw [List.singleton_append, indices_landed, hindex, List.length_cons, countdown,
          ← hI.counted]
      · intro v' hv'
        rw [hvideo] at hv'
        cases hv'
        exact hindex
      · intro hnone
        rw [hvideo] at hnone
        exact nomatch hnone

theorem routeInv_of_run {callers : Nat → Requester} {as : List SplitAction} {t : Traced}
    (hrun : exec (tracedStep cfg) ⟨.initial callers, []⟩ as = some t) : RouteInv t := by
  refine exec_invariant_all (fun t a t' hI h => ?_) (.initial callers) hrun
  obtain ⟨s', hs, rfl⟩ := Option.map_eq_some_iff.mp h
  exact hI.step (step_routing hs)

/-! ## From the trace to the segments -/

/-- An entry as the groups are cut: its segment index, if it begins a segment, and its packet. -/
def label (entry : RouteEntry) : Option UInt32 × EncodedVideoPacket :=
  (entry.1.map SplitSentinel.newSegmentIndex, entry.2)

open MuxThread in
theorem segmentsOf_itemsOf (stream : List RouteEntry) (cur : VideoSegment)
    (h : ∀ e ∈ stream, e.2.bytes.isEmpty = false) :
    segmentsOf cur (stream.flatMap itemsOf) = groups cur (stream.map label) := by
  induction stream generalizing cur with
  | nil => rfl
  | cons e stream ih =>
      obtain ⟨he, hrest⟩ := List.forall_mem_cons.mp h
      obtain ⟨_ | split, pkt⟩ := e
      · simp only [List.flatMap_cons, itemsOf, List.singleton_append, List.map_cons, segmentsOf,
          label, Option.map_none, groups]
        rw [if_neg (by simp [he])]
        exact ih _ hrest
      · simp only [List.flatMap_cons, itemsOf, List.cons_append, List.nil_append, List.map_cons,
          segmentsOf, label, Option.map_some, groups]
        rw [if_neg (by simp [he])]
        exact congrArg (cur :: ·) (ih _ hrest)

/-- Where in the trace an entry comes from. -/
theorem entry_position {trace : List RouteEvent} {split : SplitSentinel} {pkt : EncodedVideoPacket}
    {older newer : List RouteEntry} (h : entries trace = older ++ (some split, pkt) :: newer) :
    ∃ after before, trace = after ++ .routed (some split) pkt :: before ∧ entries before = older := by
  obtain ⟨l₁, l₂, htrace, rfl, h₂⟩ := List.filterMap_eq_append_iff.mp h
  obtain ⟨skipped, e, l₃, rfl, hskipped, he, -⟩ := List.filterMap_eq_cons_iff.mp h₂
  cases e with
  | armed p => exact nomatch he
  | routed split' pkt' =>
      cases he
      refine ⟨l₃.reverse, (l₁ ++ skipped).reverse, ?_, ?_⟩
      · rw [← List.reverse_reverse trace, htrace]
        simp
      · simpa [entries] using hskipped

theorem Boundaries.at {trace after before : List RouteEvent} {split : SplitSentinel}
    {pkt : EncodedVideoPacket} (h : Boundaries trace)
    (htrace : trace = after ++ .routed (some split) pkt :: before) : FirstKeyframe pkt before := by
  subst htrace
  induction after with
  | nil => exact h.1
  | cons e after ih =>
      rcases e with _ | ⟨_ | split', pkt'⟩
      · exact ih h
      · exact ih h
      · exact ih h.2

theorem countdown_reverse (n : ℕ) :
    0 :: (countdown n).reverse = (List.range (n + 1)).map UInt32.ofNat := by
  induction n with
  | zero => rfl
  | succ n ih =>
      rw [List.range_succ, List.map_append, ← ih]
      simp [countdown]

theorem entries_indices (trace : List RouteEvent) :
    ((entries trace).map label).filterMap Prod.fst = (indices trace).reverse := by
  induction trace with
  | nil => rfl
  | cons e trace ih =>
      rcases e with p | ⟨_ | split, pkt⟩
      · simpa using ih
      · simp [label, ih]
      · simp [label, ih]

/-! ## The segments of a recording -/

/-- The packets of the encoder's flush, which skips empty ones. -/
def flushed (drained : List EncodedVideoPacket) : List EncodedVideoPacket :=
  drained.filter fun pkt => !pkt.bytes.isEmpty

/-- The mux thread handles what the video thread put in the queue, then what the flush put there,
    in this order and with any items of the audio threads in between. -/
structure Carries (input : MuxThread.MuxInput) (t : Traced) (drained : List EncodedVideoPacket) :
    Prop where
  premux : input.videoPremux.map Prod.snd = t.split.videoPremux
  queue : (input.queue.map Prod.snd).filter MuxThread.isVideoSide =
    t.split.items ++ (flushed drained).map .video

/-- Every video packet that was routed: held back, queued, or flushed. -/
def routedAll (t : Traced) (drained : List EncodedVideoPacket) : List EncodedVideoPacket :=
  t.split.videoPremux ++ routedPackets t.trace ++ flushed drained

theorem carries_segments {input : MuxThread.MuxInput} {t : Traced}
    {drained : List EncodedVideoPacket} (hI : RouteInv t) (hc : Carries input t drained) :
    MuxThread.segmentsOf (0, []) (input.steps.map Prod.snd) =
      groups (0, t.split.videoPremux)
        ((entries t.trace).map label ++ (flushed drained).map (none, ·)) := by
  have hitems : (input.steps.map Prod.snd).filter MuxThread.isVideoSide =
      (t.split.videoPremux.map (none, ·) ++ entries t.trace ++
        (flushed drained).map (none, ·)).flatMap itemsOf := by
    have hvideo : ∀ ps : List EncodedVideoPacket,
        (ps.map ((none : Option SplitSentinel), ·)).flatMap itemsOf = ps.map .video := by
      intro ps
      induction ps with
      | nil => rfl
      | cons p ps ih => simpa [itemsOf] using ih
    have hpremux : (input.videoPremux.map fun p => (p.1, MuxItem.video p.2)).map Prod.snd =
        t.split.videoPremux.map .video := by
      rw [← hc.premux, List.map_map, List.map_map]
      rfl
    have haudio : (input.audioPremux.map fun p => (p.1, MuxItem.audio p.2)).map Prod.snd =
        (input.audioPremux.map Prod.snd).map .audio := by
      rw [List.map_map, List.map_map]
      rfl
    rw [MuxThread.MuxInput.steps, List.map_append, List.map_append, hpremux, haudio,
      List.filter_append, List.filter_append, hc.queue, hI.items, List.flatMap_append,
      List.flatMap_append, hvideo, hvideo, List.filter_map, List.filter_map]
    simp [Function.comp_def, MuxThread.isVideoSide]
  have hbytes : ∀ e ∈ t.split.videoPremux.map (none, ·) ++ entries t.trace ++
      (flushed drained).map (none, ·), (e : RouteEntry).2.bytes.isEmpty = false := by
    intro e he
    rcases List.mem_append.mp he with he | he
    · rcases List.mem_append.mp he with he | he
      · obtain ⟨p, hp, rfl⟩ := List.mem_map.mp he
        exact hI.premux p hp
      · exact hI.nonempty e.2 (List.mem_map_of_mem he)
    · obtain ⟨p, hp, rfl⟩ := List.mem_map.mp he
      simpa using (List.mem_filter.mp hp).2
  rw [← MuxThread.segmentsOf_filter, hitems, segmentsOf_itemsOf _ _ hbytes]
  simp only [List.map_append, List.append_assoc, List.map_map]
  exact groups_unlabelled _ _ _

theorem carries_packets {t : Traced} (drained : List EncodedVideoPacket) :
    t.split.videoPremux ++
        ((entries t.trace).map label ++ (flushed drained).map (none, ·)).map Prod.snd =
      routedAll t drained := by
  simp [routedAll, routedPackets, label, List.map_map, Function.comp_def]

theorem carries_indices {t : Traced} (hI : RouteInv t) (drained : List EncodedVideoPacket) :
    let segments := groups ((0 : UInt32), t.split.videoPremux)
      ((entries t.trace).map label ++ (flushed drained).map (none, ·))
    segments.map Prod.fst = (List.range segments.length).map UInt32.ofNat := by
  intro segments
  have hmarks : ((entries t.trace).map label ++ (flushed drained).map (none, ·)).filterMap Prod.fst =
      (countdown (indices t.trace).length).reverse := by
    rw [List.filterMap_append, entries_indices, ← hI.counted]
    simp [List.filterMap_map]
  have hlabels : segments.map Prod.fst =
      (List.range ((indices t.trace).length + 1)).map UInt32.ofNat := by
    rw [groups_labels, hmarks]
    exact countdown_reverse _
  have hlength : segments.length = (indices t.trace).length + 1 := by
    rw [← List.length_map (f := Prod.fst), hlabels, List.length_map, List.length_range]
  rw [hlabels, hlength]

/-- Where in the trace a segment begins. -/
theorem label_position {trace : List RouteEvent} {k : UInt32} {pkt : EncodedVideoPacket}
    {older newer : List (Option UInt32 × EncodedVideoPacket)}
    (h : (entries trace).map label = older ++ (some k, pkt) :: newer) :
    ∃ split after before, trace = after ++ .routed (some split) pkt :: before ∧
      split.newSegmentIndex = k ∧ (entries before).map label = older := by
  obtain ⟨l₁, l₂, hentries, rfl, h₂⟩ := List.map_eq_append_iff.mp h
  obtain ⟨⟨split, pkt'⟩, l₃, rfl, he, -⟩ := List.map_eq_cons_iff.mp h₂
  obtain ⟨hsplit, rfl⟩ := Prod.mk.inj he
  obtain ⟨s, rfl, hindex⟩ := Option.map_eq_some_iff.mp hsplit
  obtain ⟨after, before, htrace, hbefore⟩ := entry_position hentries
  exact ⟨s, after, before, htrace, hindex, congrArg (List.map label) hbefore⟩

/-- Segment structure. A run of the two threads without a failure, in which the routed packets
    are in PTS order, reports segments numbered from 0 that hold exactly the routed packets; each
    later one begins at the first keyframe that its arming allows, and none holds a packet below
    its first. Indices are 32 bits wide. -/
theorem segments_structure (cfg : SplitConfig) {callers : Nat → Requester}
    {as : List SplitAction} {t : Traced} (env : MuxThread.MuxEnv) {input : MuxThread.MuxInput}
    {drained : List EncodedVideoPacket}
    (hrun : exec (tracedStep cfg) ⟨.initial callers, []⟩ as = some t)
    (hcarries : Carries input t drained)
    (hpts : (routedAll t drained).Pairwise fun p q => p.ptsNs ≤ q.ptsNs)
    (hok : (MuxThread.run env input).failure = none) :
    let segments := (MuxThread.run env input).closedVideo
    segments.flatMap Prod.snd = routedAll t drained ∧
      segments.map Prod.fst = (List.range segments.length).map UInt32.ofNat ∧
      (∀ i seg, segments[i + 1]? = some seg → ∃ after split first before rest,
        t.trace = after ++ .routed (some split) first :: before ∧
        seg = (split.newSegmentIndex, first :: rest) ∧
        (segments.take (i + 1)).flatMap Prod.snd = t.split.videoPremux ++ routedPackets before ∧
        FirstKeyframe first before) ∧
      ∀ seg ∈ segments, ∀ first rest, seg.2 = first :: rest → ∀ p ∈ rest, first.ptsNs ≤ p.ptsNs := by
  have hI := routeInv_of_run hrun
  have hsegs := (MuxThread.run_segments hok).trans (carries_segments hI hcarries)
  dsimp only
  rw [hsegs]
  refine ⟨?_, ?_, ?_, ?_⟩
  · rw [groups_flatMap, carries_packets]
  · exact carries_indices hI drained
  · intro i seg hseg
    obtain ⟨older, first, newer, rest, hstream, hmembers, hbefore⟩ := groups_starts hseg
    obtain ⟨newer', hentries⟩ := labelled_of_append hstream
    obtain ⟨split, after, before, htrace, hindex, holder⟩ := label_position hentries
    refine ⟨after, split, first, before, rest, htrace, Prod.ext hindex.symm hmembers, ?_,
      hI.boundaries.at htrace⟩
    rw [← hbefore, ← holder]
    simp [routedPackets, label, Function.comp_def]
  · intro seg hseg first rest hmembers p hp
    rw [← carries_packets] at hpts
    have hsorted := groups_pairwise hpts hseg
    rw [hmembers] at hsorted
    exact List.rel_of_pairwise_cons hsorted hp

def packetAt (ptsNs : UInt64) (keyframe : Bool) : EncodedVideoPacket :=
  { bytes := [1], ptsNs := ptsNs, keyframe := keyframe }

/-- Frame 300 arms a boundary while the keyframe of frame 100 and frame 200 are still in flight;
    the first packet was held back before the tracks were ready. -/
def inFlightRun : List SplitAction :=
  [.session true 7, .startVideo, .routePacket (packetAt 0 true) false .ready] ++
    publishSteps 0 .manualButton 7 ++
    [.maybeArmSplit 300, .consumeRequest, .routePacket (packetAt 100 true) true .ready,
      .routePacket (packetAt 200 false) true .ready, .routePacket (packetAt 300 true) true .ready]

/-- What the mux thread gets of `inFlightRun`, with an audio packet, and a packet of the flush. -/
def inFlightInput : MuxThread.MuxInput where
  videoPremux := [(MuxThread.offsetView, packetAt 0 true)]
  audioPremux := []
  queue := [.video (packetAt 100 true), .video (packetAt 200 false), .audio ⟨[2], 250, 0⟩,
    .split ⟨1, .manualButton⟩, .video (packetAt 300 true), .video (packetAt 400 true), .videoEos].map
      fun item => (MuxThread.offsetView, item)
  tail := MuxThread.offsetView

theorem segments_structure_inFlight :
    ∃ t, exec (tracedStep {}) ⟨.initial fun _ => .idle, []⟩ inFlightRun = some t ∧
      routedAll t [packetAt 400 true] = [packetAt 0 true, packetAt 100 true, packetAt 200 false,
        packetAt 300 true, packetAt 400 true] ∧
      (MuxThread.run MuxThread.twoTracks inFlightInput).closedVideo.flatMap Prod.snd =
        routedAll t [packetAt 400 true] ∧
      ∃ before, (MuxThread.run MuxThread.twoTracks inFlightInput).closedVideo[1]? =
        some (1, [packetAt 300 true, packetAt 400 true]) ∧
        FirstKeyframe (packetAt 300 true) before := by
  have hrun : ∃ t ∈ exec (tracedStep {}) ⟨.initial fun _ => .idle, []⟩ inFlightRun,
      t.split.videoPremux = [packetAt 0 true] ∧
      t.split.items = [.video (packetAt 100 true), .video (packetAt 200 false),
        .split ⟨1, .manualButton⟩, .video (packetAt 300 true)] ∧
      routedPackets t.trace = [packetAt 100 true, packetAt 200 false, packetAt 300 true] := by
    decide
  obtain ⟨t, ht, hpremux, hitems, hrouted⟩ := hrun
  have hall : routedAll t [packetAt 400 true] = [packetAt 0 true, packetAt 100 true,
      packetAt 200 false, packetAt 300 true, packetAt 400 true] := by
    rw [routedAll, hpremux, hrouted]
    rfl
  have hcarries : Carries inFlightInput t [packetAt 400 true] :=
    ⟨hpremux.symm, by rw [hitems]; rfl⟩
  obtain ⟨hflat, -, hstarts, -⟩ := segments_structure {} MuxThread.twoTracks ht hcarries
    (by rw [hall]; decide) (by decide)
  have hsecond : (MuxThread.run MuxThread.twoTracks inFlightInput).closedVideo[1]? =
      some (1, [packetAt 300 true, packetAt 400 true]) := by decide
  obtain ⟨after, split, first, before, rest, htrace, hseg, hbefore, hfirst⟩ := hstarts 0 _ hsecond
  obtain ⟨-, hpackets⟩ := Prod.mk.inj hseg
  obtain ⟨rfl, -⟩ := List.cons.inj hpackets
  exact ⟨t, ht, hall, hflat, before, hsecond, hfirst⟩

end Exosnap.Engine.SplitCoordination
