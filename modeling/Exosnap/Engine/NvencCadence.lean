/-
  Where the encoder puts keyframes.

  A run is any list of calls that succeed; at the first one that fails the video thread ends the
  recording. `events` notes the keyframe requests and the frames the driver took, newest first,
  with the flag each was submitted with. The driver's part is `HonoursForceIdr`: a picture comes
  out as an IDR exactly when it was submitted as one. Then nothing but a submission moves the
  anchor of the GOP, however far the outputs lag behind.

  Times are 64 bits wide, and the law is the one of the source where no sum of a PTS and a GOP
  duration leaves them (`Fits`). A GOP duration of 0 turns the cadence off.

  `keyframe_cadence` has both halves: the law, and that under it a constant-rate submission never
  reaches the frame count at which the hardware would act.
-/
import Mathlib.Tactic.Ring
import Exosnap.Engine.CfrLoop
import Exosnap.Engine.NvencOrder

namespace Exosnap.Engine.Nvenc

open CfrLoop (CfrConfig)

/-! ## Initialization -/

def computeFrameIntervalNs (frameRateNum frameRateDen : UInt32) : UInt64 :=
  if frameRateNum = 0 ∨ frameRateDen = 0 then 1000000000 / 60
  else 1000000000 * frameRateDen.toUInt64 / frameRateNum.toUInt64

/-- `NVENC_INFINITE_GOPLENGTH` -/
def nvencInfiniteGopLength : UInt32 := 0xffffffff

def computeNvencGopBackstop (gopLength : UInt32) (constantFrameRate : Bool) : UInt32 :=
  if constantFrameRate then gopLength else nvencInfiniteGopLength

/-! ## The run -/

inductive CadenceEvent where
  | requested
  | submitted (ptsNs : UInt64) (keyframe : Bool)
  deriving DecidableEq, Repr

structure CadenceRun where
  session : Session
  events : List CadenceEvent := []

/-- What a call adds: the frame that the driver took, or a request. -/
def cadenceEvents (s s' : Session) : Call → List CadenceEvent
  | .requestKeyframe => [.requested]
  | .encodeFrame _ ptsNs _ _ =>
      ((accepted s'.history).drop (accepted s.history).length).map fun pic =>
        .submitted ptsNs pic.forceIdr
  | _ => []

/-- A call with its fuel, where it returns and succeeds. -/
def cadenceStep (driver : Driver) (c : CadenceRun) (a : Call × Nat) : Option CadenceRun :=
  match c.session.call driver a.2 a.1 with
  | some (answer, s') =>
      if answer.error = none then some ⟨s', cadenceEvents c.session s' a.1 ++ c.events⟩ else none
  | none => none

def cadenceStart (asyncMode : Bool) (activeDepth : Fin (kMaxOutputResources + 1))
    (gopDurationNs frameIntervalNs : UInt64) : CadenceRun :=
  ⟨(Caller.start asyncMode activeDepth gopDurationNs frameIntervalNs).session, []⟩

/-- An output is an IDR exactly when its picture was submitted with `FORCEIDR`. -/
def HonoursForceIdr (driver : Driver) : Prop :=
  ∀ history buffer nonBlocking bitstream,
    driver.lockBitstream history buffer nonBlocking = (.success, bitstream) →
    ∀ pic ∈ accepted history, pic.inputTimeStamp = bitstream.outputTimeStamp →
      (bitstream.pictureType = .idr ↔ pic.forceIdr = true)

/-! ## The law -/

def CadenceEvent.frame? : CadenceEvent → Option (UInt64 × Bool)
  | .requested => none
  | .submitted ptsNs keyframe => some (ptsNs, keyframe)

/-- The frames with their flags, newest first. -/
def frames (events : List CadenceEvent) : List (UInt64 × Bool) :=
  events.filterMap CadenceEvent.frame?

/-- A keyframe was requested since the latest frame. -/
def forced : List CadenceEvent → Bool
  | .requested :: _ => true
  | _ => false

def lastKeyframe : List CadenceEvent → Option UInt64
  | [] => none
  | .submitted ptsNs true :: _ => some ptsNs
  | _ :: before => lastKeyframe before

/-- The frame at `ptsNs` is due as a keyframe: the first, a requested one, or one that reaches the
    end of the GOP to within half a frame. -/
def Due (durationNs intervalNs ptsNs : UInt64) (before : List CadenceEvent) : Prop :=
  frames before = [] ∨ forced before = true ∨ ∃ k, lastKeyframe before = some k ∧
    k.toNat + durationNs.toNat ≤ ptsNs.toNat + intervalNs.toNat / 2

/-- The keyframes are exactly the frames that are due. -/
def KeyframeLaw (durationNs intervalNs : UInt64) : List CadenceEvent → Prop
  | [] => True
  | .requested :: before => KeyframeLaw durationNs intervalNs before
  | .submitted ptsNs keyframe :: before =>
      (keyframe = true ↔ Due durationNs intervalNs ptsNs before) ∧
        KeyframeLaw durationNs intervalNs before

/-- No sum of the cadence leaves 64 bits. -/
def Fits (durationNs intervalNs : UInt64) (events : List CadenceEvent) : Prop :=
  ∀ frame ∈ frames events,
    frame.1.toNat + durationNs.toNat < 2 ^ 64 ∧ frame.1.toNat + intervalNs.toNat / 2 < 2 ^ 64

@[simp] theorem frames_requested (events : List CadenceEvent) :
    frames (.requested :: events) = frames events := rfl

@[simp] theorem frames_submitted (ptsNs : UInt64) (keyframe : Bool) (events : List CadenceEvent) :
    frames (.submitted ptsNs keyframe :: events) = (ptsNs, keyframe) :: frames events := rfl

/-- The law of a run is the law of every earlier moment. -/
theorem keyframeLaw_suffix {durationNs intervalNs : UInt64} (newer : List CadenceEvent)
    {events : List CadenceEvent} (h : KeyframeLaw durationNs intervalNs (newer ++ events)) :
    KeyframeLaw durationNs intervalNs events := by
  induction newer with
  | nil => exact h
  | cons e newer ih =>
    rcases e with _ | ⟨ptsNs, keyframe⟩
    · exact ih h
    · exact ih h.2

theorem lastKeyframe_mem {events : List CadenceEvent} {k : UInt64}
    (h : lastKeyframe events = some k) : (k, true) ∈ frames events := by
  induction events with
  | nil => exact nomatch h
  | cons e events ih =>
    rcases e with _ | ⟨ptsNs, _ | _⟩
    · exact ih h
    · exact List.mem_cons_of_mem _ (ih h)
    · obtain rfl := Option.some.inj h
      exact List.mem_cons_self

/-! ## The anchor -/

/-- A pending frame is a picture the driver took, with the flag that was predicted. -/
def Predicted (s : Session) : Prop :=
  ∀ p ∈ s.encoder.pending, ∃ pic ∈ accepted s.history,
    pic.inputTimeStamp = p.inputTs ∧ pic.forceIdr = p.predictedKeyframe

/-- What the next decision reads. -/
structure SameCadence (e e' : NvencEncoder) : Prop where
  gopDurationNs : e'.gopDurationNs = e.gopDurationNs
  frameIntervalNs : e'.frameIntervalNs = e.frameIntervalNs
  forceIdrNext : e'.forceIdrNext = e.forceIdrNext
  haveGopStart : e'.haveGopStart = e.haveGopStart
  gopStartPtsNs : e'.gopStartPtsNs = e.gopStartPtsNs

section
variable {driver : Driver} {s s' : Session}

theorem freeSlot_gopStart (s : Session) (i : Fin 8) :
    (s.freeSlot i).encoder.gopStartPtsNs = s.encoder.gopStartPtsNs := by
  obtain ⟨slot, hfree, _⟩ := freeSlot_encoder s i
  rw [hfree]
  rfl

theorem retire_gopStart (s : Session) (p : PendingFrame) (pending : List PendingFrame)
    (bitstream : LockBitstream) :
    (s.retire p pending bitstream).encoder.gopStartPtsNs =
      resyncGopStartFromActual p.predictedKeyframe (decide (bitstream.pictureType = .idr)) p.ptsNs
        s.encoder.gopStartPtsNs := by
  unfold Session.retire
  dsimp only
  split
  · exact freeSlot_gopStart _ _
  · exact freeSlot_gopStart _ _

/-- An IDR that was predicted, and a picture that is no IDR, leave the anchor. -/
theorem resync_of_predicted {predicted actual : Bool} (ptsNs gopStart : UInt64)
    (h : actual = predicted) :
    resyncGopStartFromActual predicted actual ptsNs gopStart = gopStart := by
  subst h
  cases actual <;> rfl

/-- A drain moves nothing that the cadence reads. -/
theorem Drains.sameCadence {packets : List EncodedVideoPacket} {lost : List PendingFrame}
    (h : Drains driver s packets lost s') (hdriver : HonoursForceIdr driver) (hP : Predicted s) :
    Predicted s' ∧ s'.encoder.gopStartPtsNs = s.encoder.gopStartPtsNs ∧
      accepted s'.history = accepted s.history := by
  induction h with
  | done s => exact ⟨hP, rfl, rfl⟩
  | @quiet s _ _ _ event hquiet _ ih =>
    have haccepted : accepted (s.log event).history = accepted s.history := by
      rw [accepted_log, hquiet.1]
      exact List.append_nil _
    have hlogged : Predicted (s.log event) := fun p hp => by
      rw [haccepted]
      exact hP p hp
    obtain ⟨hP', hstart, hsame⟩ := ih hlogged
    exact ⟨hP', hstart, hsame.trans haccepted⟩
  | turn cursor _ ih => exact ih hP
  | @take s _ _ _ p pending _ bitstream hpending hlock hecho _ ih =>
    have haccepted : accepted ((s.lockedWith bitstream).retire p pending bitstream).history =
        accepted s.history := (accepted_retire bitstream).trans (accepted_lockedWith bitstream)
    obtain ⟨pic, hpic, hts, hflag⟩ := hP p (hpending ▸ List.mem_cons_self)
    have hidr := hdriver _ _ _ _ hlock pic hpic (hts.trans hecho.symm)
    have hactual : decide (bitstream.pictureType = .idr) = p.predictedKeyframe := by
      rw [← hflag]
      simp [hidr]
    have hretired : Predicted ((s.lockedWith bitstream).retire p pending bitstream) := by
      intro q hq
      rw [retire_pending] at hq
      rw [haccepted]
      exact hP q (hpending ▸ List.mem_cons_of_mem p hq)
    obtain ⟨hP', hstart, hsame⟩ := ih hretired
    rw [retire_gopStart, resync_of_predicted _ _ hactual] at hstart
    exact ⟨hP', hstart, hsame.trans haccepted⟩
  | @lose s _ _ _ p pending _ bitstream hpending hlock hecho _ ih =>
    have haccepted : accepted ((s.lockedWith bitstream).lose pending).history =
        accepted s.history := accepted_lockedWith bitstream
    have hlost : Predicted ((s.lockedWith bitstream).lose pending) := by
      intro q hq
      rw [haccepted]
      exact hP q (hpending ▸ List.mem_cons_of_mem p hq)
    obtain ⟨hP', hstart, hsame⟩ := ih hlost
    exact ⟨hP', hstart, hsame.trans haccepted⟩

/-- Behind a submission that succeeds the driver has one picture more, with the flag of the
    decision. -/
theorem Submits.sameCadence {i : Fin 8} {outIdx : Option Nat} {pic : PicParams} {ready : Session}
    {answer : Answer} (h : Submits driver i outIdx pic ready answer s')
    (hok : answer.error = none) (hdriver : HonoursForceIdr driver)
    (hP : ∀ status, (DriverEvent.encoded pic status).accepted? = some pic →
      Predicted (ready.log (.encoded pic status))) :
    Predicted s' ∧ SameCadence ready.encoder s'.encoder ∧
      accepted s'.history = accepted ready.history ++ [pic] := by
  cases h with
  | submitted hasync =>
    exact ⟨hP .success rfl, ⟨rfl, rfl, rfl, rfl, rfl⟩, accepted_log _ _⟩
  | buffered =>
    exact ⟨hP .needMoreInput rfl, ⟨rfl, rfl, rfl, rfl, rfl⟩, accepted_log _ _⟩
  | consumed hasync hdrains =>
    obtain ⟨hP', hstart, hsame⟩ := hdrains.sameCadence hdriver (hP .success rfl)
    have hframe := hdrains.frame
    exact ⟨hP', ⟨hframe.gopDurationNs, hframe.frameIntervalNs, hframe.forceIdrNext,
      hframe.haveGopStart, hstart⟩, hsame.trans (accepted_log _ _)⟩
  | unconsumed => exact nomatch hok
  | rejected => exact nomatch hok

/-- The frame is pending as the picture the driver is about to take. -/
theorem submission_predicted (hP : Predicted s) (i : Fin 8) (ptsNs : UInt64)
    (width height : UInt32) (resource outIdx : Option Nat) {status : NvencStatus}
    (haccepted : (DriverEvent.encoded (s.submission i ptsNs width height resource outIdx).1
      status).accepted? = some (s.submission i ptsNs width height resource outIdx).1) :
    Predicted ((s.submission i ptsNs width height resource outIdx).2.log
      (.encoded (s.submission i ptsNs width height resource outIdx).1 status)) := by
  intro p hp
  rw [accepted_log, haccepted]
  rcases List.mem_append.mp hp with hold | hnew
  · obtain ⟨pic, hpic, hts, hflag⟩ := hP p hold
    exact ⟨pic, List.mem_append_left _ hpic, hts, hflag⟩
  · obtain rfl := List.mem_singleton.mp hnew
    exact ⟨_, List.mem_append_right _ List.mem_cons_self, rfl, rfl⟩

/-! ## The invariant -/

/-- The encoder's state says what the events so far say. -/
structure CadenceInv (durationNs intervalNs : UInt64) (c : CadenceRun) : Prop where
  predicted : Predicted c.session
  duration : c.session.encoder.gopDurationNs = durationNs
  interval : c.session.encoder.frameIntervalNs = intervalNs
  forced : c.session.encoder.forceIdrNext = forced c.events
  /-- Every frame behind the first has a keyframe before it. -/
  started : c.session.encoder.haveGopStart = true ↔ frames c.events ≠ []
  anchor : frames c.events ≠ [] → lastKeyframe c.events = some c.session.encoder.gopStartPtsNs
  law : Fits durationNs intervalNs c.events → KeyframeLaw durationNs intervalNs c.events

variable {durationNs intervalNs : UInt64} {c : CadenceRun}

theorem cadenceInv_start (asyncMode : Bool) (activeDepth : Fin (kMaxOutputResources + 1))
    (durationNs intervalNs : UInt64) :
    CadenceInv durationNs intervalNs (cadenceStart asyncMode activeDepth durationNs intervalNs) where
  predicted := nofun
  duration := rfl
  interval := rfl
  forced := rfl
  started := by simp [cadenceStart, Caller.start, frames]
  anchor h := absurd rfl h
  law _ := trivial

/-- Where nothing is submitted and nothing requested. -/
theorem CadenceInv.same (hI : CadenceInv durationNs intervalNs c) (hP : Predicted s')
    (hsame : SameCadence c.session.encoder s'.encoder) :
    CadenceInv durationNs intervalNs ⟨s', c.events⟩ where
  predicted := hP
  duration := hsame.gopDurationNs.trans hI.duration
  interval := hsame.frameIntervalNs.trans hI.interval
  forced := hsame.forceIdrNext.trans hI.forced
  started := by rw [hsame.haveGopStart, hI.started]
  anchor h := by rw [hsame.gopStartPtsNs, hI.anchor h]
  law := hI.law

theorem CadenceInv.acquire (hI : CadenceInv durationNs intervalNs c) :
    CadenceInv durationNs intervalNs
      ⟨c.session.setEncoder c.session.encoder.acquireFreeSlot.2, c.events⟩ := by
  cases hslot : c.session.encoder.acquireFreeSlot.1 with
  | none =>
    rw [acquireFreeSlot_none hslot]
    exact hI
  | some i =>
    rw [(acquireFreeSlot_some hslot).2.2]
    exact hI.same hI.predicted ⟨rfl, rfl, rfl, rfl, rfl⟩

theorem CadenceInv.release (hI : CadenceInv durationNs intervalNs c) (slotIdx : Int) :
    CadenceInv durationNs intervalNs ⟨c.session.releaseSlot slotIdx, c.events⟩ := by
  unfold Session.releaseSlot
  split
  · exact hI
  · next i _ =>
    obtain ⟨slot, hfree, _⟩ := freeSlot_encoder c.session i
    refine hI.same ?_ (by rw [hfree]; exact ⟨rfl, rfl, rfl, rfl, rfl⟩)
    intro p hp
    rw [hfree] at hp
    rw [(freeSlot_quiet c.session i).1]
    exact hI.predicted p hp

/-- The boundary test of the source, where its sums fit. -/
theorem boundary_iff (durationNs intervalNs : UInt64) {k ptsNs : UInt64}
    (hk : k.toNat + durationNs.toNat < 2 ^ 64)
    (hpts : ptsNs.toNat + intervalNs.toNat / 2 < 2 ^ 64) :
    k + durationNs ≤ ptsNs + intervalNs / 2 ↔
      k.toNat + durationNs.toNat ≤ ptsNs.toNat + intervalNs.toNat / 2 := by
  have hhalf : (intervalNs / 2).toNat = intervalNs.toNat / 2 := UInt64.toNat_div ..
  rw [UInt64.le_iff_toNat_le, UInt64.toNat_add, UInt64.toNat_add, hhalf, Nat.mod_eq_of_lt hk,
    Nat.mod_eq_of_lt hpts]

/-- The decision of the source, in terms of the events. -/
theorem isKeyframe_iff_due (hI : CadenceInv durationNs intervalNs c) (hduration : 0 < durationNs)
    {ptsNs : UInt64} {keyframe : Bool}
    (hfits : Fits durationNs intervalNs (.submitted ptsNs keyframe :: c.events)) :
    (nextGopKeyframePhase ptsNs c.session.encoder.haveGopStart c.session.encoder.gopStartPtsNs
      c.session.encoder.gopDurationNs c.session.encoder.frameIntervalNs
      c.session.encoder.forceIdrNext).isKeyframe = true ↔
      Due durationNs intervalNs ptsNs c.events := by
  have hpts := (hfits (ptsNs, keyframe) List.mem_cons_self).2
  simp only [nextGopKeyframePhase, Bool.or_eq_true, Bool.and_eq_true, decide_eq_true_eq,
    Bool.not_eq_true', hI.forced, hI.duration, hI.interval, Due]
  by_cases hfirst : frames c.events = []
  · have hclosed : c.session.encoder.haveGopStart = false := by
      rw [← Bool.not_eq_true, hI.started]
      exact not_not_intro hfirst
    simp [hfirst, hclosed]
  · have hopen := hI.started.mpr hfirst
    have hanchor := hI.anchor hfirst
    have hk := (hfits _ (List.mem_cons_of_mem _ (lastKeyframe_mem hanchor))).1
    have hboundary := boundary_iff durationNs intervalNs hk hpts
    simp only [hfirst, hopen, hanchor, Bool.true_eq_false, or_false, false_or, hduration, true_and,
      Option.some.injEq, exists_eq_left', hboundary]

/-- The decision keeps or moves the anchor; without one it opens a GOP. -/
theorem nextGopKeyframePhase_opens (ptsNs gopStart duration interval : UInt64)
    (haveGopStart forced : Bool) :
    (haveGopStart ||
      (nextGopKeyframePhase ptsNs haveGopStart gopStart duration interval forced).isKeyframe) =
        true := by
  cases haveGopStart <;> simp [nextGopKeyframePhase]

theorem nextGopKeyframePhase_anchor (ptsNs gopStart duration interval : UInt64)
    (haveGopStart forced : Bool) :
    let phase := nextGopKeyframePhase ptsNs haveGopStart gopStart duration interval forced
    phase.gopStartPtsNs = if phase.isKeyframe then ptsNs else gopStart := rfl

/-- A submission appends its frame to the events. -/
theorem CadenceInv.submit (hI : CadenceInv durationNs intervalNs c) (hduration : 0 < durationNs)
    {m : Session} {i : Fin 8} {ptsNs : UInt64} {width height : UInt32}
    {resource outIdx : Option Nat} (hm : SameCadence c.session.encoder m.encoder)
    (hP : Predicted s')
    (hsame : SameCadence (m.submission i ptsNs width height resource outIdx).2.encoder s'.encoder) :
    CadenceInv durationNs intervalNs
      ⟨s', .submitted ptsNs (m.submission i ptsNs width height resource outIdx).1.forceIdr ::
        c.events⟩ := by
  obtain ⟨hdur, hint, hforce, hhave, hstart⟩ := hm
  generalize hphase : nextGopKeyframePhase ptsNs c.session.encoder.haveGopStart
    c.session.encoder.gopStartPtsNs c.session.encoder.gopDurationNs
    c.session.encoder.frameIntervalNs c.session.encoder.forceIdrNext = phase
  have hdecision : nextGopKeyframePhase ptsNs m.encoder.haveGopStart m.encoder.gopStartPtsNs
      m.encoder.gopDurationNs m.encoder.frameIntervalNs m.encoder.forceIdrNext = phase := by
    rw [hdur, hint, hforce, hhave, hstart, hphase]
  have hopens := nextGopKeyframePhase_opens ptsNs c.session.encoder.gopStartPtsNs
    c.session.encoder.gopDurationNs c.session.encoder.frameIntervalNs
    c.session.encoder.haveGopStart c.session.encoder.forceIdrNext
  have hmoves := nextGopKeyframePhase_anchor ptsNs c.session.encoder.gopStartPtsNs
    c.session.encoder.gopDurationNs c.session.encoder.frameIntervalNs
    c.session.encoder.haveGopStart c.session.encoder.forceIdrNext
  rw [hphase] at hopens
  simp only [hphase] at hmoves
  have hflag : (m.submission i ptsNs width height resource outIdx).1.forceIdr = phase.isKeyframe :=
    congrArg GopKeyframePhase.isKeyframe hdecision
  have hhave' : s'.encoder.haveGopStart = true := by
    rw [hsame.haveGopStart, ← hopens, ← hhave, ← hdecision]
    rfl
  have hstart' : s'.encoder.gopStartPtsNs =
      if phase.isKeyframe then ptsNs else c.session.encoder.gopStartPtsNs := by
    rw [hsame.gopStartPtsNs, ← hmoves, ← hdecision]
    rfl
  rw [hflag]
  refine ⟨hP, hsame.gopDurationNs.trans (hdur.trans hI.duration),
    hsame.frameIntervalNs.trans (hint.trans hI.interval), hsame.forceIdrNext, ?_, ?_, ?_⟩
  · simp [hhave']
  · intro _
    rw [hstart']
    cases hkey : phase.isKeyframe with
    | true => rfl
    | false =>
      -- no keyframe, so the GOP was open before
      rw [hkey, Bool.or_false] at hopens
      exact hI.anchor (hI.started.mp hopens)
  · intro hfits
    refine ⟨?_, hI.law fun frame hframe => hfits frame (List.mem_cons_of_mem _ hframe)⟩
    rw [← hphase]
    exact isKeyframe_iff_due hI hduration (hphase ▸ hfits)

/-- The step lemma. -/
theorem CadenceInv.step (hI : CadenceInv durationNs intervalNs c) (hduration : 0 < durationNs)
    (hdriver : HonoursForceIdr driver) {a : Call × Nat} {c' : CadenceRun}
    (h : cadenceStep driver c a = some c') : CadenceInv durationNs intervalNs c' := by
  obtain ⟨call, n⟩ := a
  unfold cadenceStep at h
  split at h
  · next answer s' hcall =>
    split at h
    · next hok =>
      obtain rfl := Option.some.inj h
      cases call with
      | acquireFreeSlot =>
        obtain ⟨rfl, rfl⟩ := Prod.mk.inj (Option.some.inj hcall)
        exact hI.acquire
      | releaseSlot slotIdx =>
        obtain ⟨rfl, rfl⟩ := Prod.mk.inj (Option.some.inj hcall)
        exact hI.release slotIdx
      | requestKeyframe =>
        obtain ⟨rfl, rfl⟩ := Prod.mk.inj (Option.some.inj hcall)
        exact ⟨hI.predicted, hI.duration, hI.interval, rfl, hI.started, hI.anchor, hI.law⟩
      | encodeFrame slotIdx ptsNs width height =>
        obtain ⟨i, packets, m, resource, outIdx, answer', _, hdrains, _, _, hok', _, hsubmits⟩ :=
          encodes_ok (encodeFrame_encodes hcall) hok
        obtain ⟨hPm, hstart, haccepted⟩ := hdrains.sameCadence hdriver hI.predicted
        have hframe := hdrains.frame
        obtain ⟨hP, hsame, hpic⟩ := hsubmits.sameCadence hok' hdriver fun status =>
          submission_predicted hPm i ptsNs width height resource outIdx
        have htaken : accepted s'.history = accepted c.session.history ++ [_] :=
          hpic.trans (congrArg (· ++ [_]) haccepted)
        show CadenceInv durationNs intervalNs ⟨s', ((accepted s'.history).drop _).map _ ++ c.events⟩
        rw [htaken, List.drop_left]
        exact hI.submit hduration ⟨hframe.gopDurationNs, hframe.frameIntervalNs,
          hframe.forceIdrNext, hframe.haveGopStart, hstart⟩ hP hsame
      | reapCompleted waitHeadMs =>
        obtain ⟨lost, hdrains, _⟩ := reapCompleted_drains hcall
        obtain ⟨hP, hstart, _⟩ := hdrains.sameCadence hdriver hI.predicted
        have hframe := hdrains.frame
        exact hI.same hP ⟨hframe.gopDurationNs, hframe.frameIntervalNs, hframe.forceIdrNext,
          hframe.haveGopStart, hstart⟩
      | flush =>
        obtain ⟨packets, lost, m, count, hdrains, rfl, _, _⟩ := flush_drains hcall
        obtain ⟨hP, hstart, _⟩ := hdrains.sameCadence hdriver hI.predicted
        have hframe := hdrains.frame
        exact hI.same hP ⟨hframe.gopDurationNs, hframe.frameIntervalNs, hframe.forceIdrNext,
          hframe.haveGopStart, hstart⟩
    · exact nomatch h
  · exact nomatch h

theorem cadenceInv_run (hduration : 0 < durationNs) (hdriver : HonoursForceIdr driver)
    {asyncMode : Bool} {activeDepth : Fin (kMaxOutputResources + 1)} {calls : List (Call × Nat)}
    (hrun : StepRun.exec (cadenceStep driver)
      (cadenceStart asyncMode activeDepth durationNs intervalNs) calls = some c) :
    CadenceInv durationNs intervalNs c :=
  StepRun.exec_invariant_all (fun _ _ _ hI h => hI.step hduration hdriver h)
    (cadenceInv_start asyncMode activeDepth durationNs intervalNs) hrun

end

/-! ## Frames of a constant rate -/

/-- Numbers that fall, all between two bounds, are fewer than the bounds are apart. -/
theorem length_lt_of_falling {l : List ℕ} {lo : ℕ} (hl : l.Pairwise (· > ·)) :
    ∀ {hi : ℕ}, lo < hi → (∀ x ∈ l, lo < x ∧ x < hi) → l.length + lo < hi := by
  induction l with
  | nil => exact fun hlo _ => by simpa using hlo
  | cons x l ih =>
    intro hi _ hb
    obtain ⟨hx, hl'⟩ := List.pairwise_cons.mp hl
    obtain ⟨hlo, hhi⟩ := hb x List.mem_cons_self
    have hrest := ih hl' hlo fun y hy => ⟨(hb y (List.mem_cons_of_mem x hy)).1, hx y hy⟩
    rw [List.length_cons]
    omega

theorem rate_toNat (c : UInt64) (hc : c.toNat ≤ 1000000000) (num den : UInt32) :
    (c * den.toUInt64 / num.toUInt64).toNat = c.toNat * den.toNat / num.toNat := by
  have hden := den.toNat_lt
  have hfits : c.toNat * den.toNat < 2 ^ 64 := by
    calc c.toNat * den.toNat ≤ 1000000000 * den.toNat := Nat.mul_le_mul_right _ hc
      _ < 2 ^ 64 := by omega
  rw [UInt64.toNat_div, UInt64.toNat_mul, UInt32.toNat_toUInt64, UInt32.toNat_toUInt64,
    Nat.mod_eq_of_lt hfits]

/-- The scheduler rounds a frame down to 100 ns, the encoder to 1 ns. -/
theorem frameInterval_close (cfg : CfrConfig) :
    (computeFrameIntervalNs cfg.frameRateNum cfg.frameRateDen).toNat <
      cfg.frameIntervalNs.toNat + 100 := by
  rw [cfg.frameIntervalNs_toNat]
  unfold computeFrameIntervalNs CfrConfig.frameInterval100ns
  by_cases hrate : 0 < cfg.frameRateDen ∧ 0 < cfg.frameRateNum
  · obtain ⟨hden, hnum⟩ := hrate
    have hnum' : 0 < cfg.frameRateNum.toNat := UInt32.lt_iff_toNat_lt.mp hnum
    have hzero : ¬(cfg.frameRateNum = 0 ∨ cfg.frameRateDen = 0) := by
      rintro (h | h)
      · simp [h] at hnum
      · simp [h] at hden
    have hencoder := rate_toNat 1000000000 (by decide) cfg.frameRateNum cfg.frameRateDen
    have hscheduler := rate_toNat 10000000 (by decide) cfg.frameRateNum cfg.frameRateDen
    rw [if_neg hzero, if_pos ⟨hden, hnum⟩, hencoder, hscheduler]
    have hdiv := Nat.lt_div_mul_add (a := 10000000 * cfg.frameRateDen.toNat) hnum'
    show 1000000000 * cfg.frameRateDen.toNat / cfg.frameRateNum.toNat < _
    rw [Nat.div_lt_iff_lt_mul hnum']
    calc 1000000000 * cfg.frameRateDen.toNat = 100 * (10000000 * cfg.frameRateDen.toNat) := by omega
      _ < 100 * (10000000 * cfg.frameRateDen.toNat / cfg.frameRateNum.toNat *
            cfg.frameRateNum.toNat + cfg.frameRateNum.toNat) := by omega
      _ = (10000000 * cfg.frameRateDen.toNat / cfg.frameRateNum.toNat * 100 + 100) *
            cfg.frameRateNum.toNat := by ring
  · -- both fall back to 60 frames a second
    have hzero : cfg.frameRateNum = 0 ∨ cfg.frameRateDen = 0 := by
      simp only [UInt32.lt_iff_toNat_lt, ← UInt32.toNat_inj, UInt32.toNat_ofNat] at hrate ⊢
      omega
    rw [if_pos hzero, if_neg hrate]
    decide

/-- A constant-rate submission: frames at increasing multiples of the scheduler's interval. -/
structure ConstantRate (cfg : CfrConfig) (events : List CadenceEvent) : Prop where
  ticks : ∀ frame ∈ frames events, ∃ tick, frame.1.toNat = tick * cfg.frameIntervalNs.toNat
  increasing : (frames events).Pairwise fun later earlier => earlier.1 < later.1

/-- The frames behind a keyframe that are no keyframes lie within its GOP. -/
theorem pts_lt_of_no_keyframe {durationNs intervalNs k : UInt64} {older : List CadenceEvent}
    (run : List CadenceEvent)
    (hlaw : KeyframeLaw durationNs intervalNs (run ++ .submitted k true :: older))
    (hrun : ∀ frame ∈ frames run, frame.2 = false) :
    lastKeyframe (run ++ .submitted k true :: older) = some k ∧
      ∀ frame ∈ frames run,
        frame.1.toNat + intervalNs.toNat / 2 < k.toNat + durationNs.toNat := by
  induction run with
  | nil => exact ⟨rfl, nofun⟩
  | cons e run ih =>
    rcases e with _ | ⟨ptsNs, keyframe⟩
    · exact ih hlaw hrun
    · obtain ⟨hdue, hlaw'⟩ := hlaw
      obtain rfl : keyframe = false := hrun (ptsNs, keyframe) List.mem_cons_self
      obtain ⟨hlast, hbelow⟩ := ih hlaw' fun frame hframe =>
        hrun frame (List.mem_cons_of_mem _ hframe)
      refine ⟨hlast, fun frame hframe => ?_⟩
      rcases List.mem_cons.mp hframe with rfl | hframe
      · refine Nat.lt_of_not_le fun hle => ?_
        have hkey := hdue.mpr (.inr (.inr ⟨k, hlast, hle⟩))
        exact nomatch hkey
      · exact hbelow frame hframe

/-- What the scheduler's rounding loses over a GOP is less than half a frame. -/
theorem tick_lt_of_in_gop {tick first frame interval gop : ℕ} (hclose : interval < frame + 100)
    (hrounding : 200 * gop < interval)
    (hin : tick * frame + interval / 2 < first * frame + interval * gop) : tick < first + gop := by
  refine Nat.lt_of_not_le fun hle => ?_
  have hticks : (first + gop) * frame ≤ tick * frame := Nat.mul_le_mul_right frame hle
  have hgop : interval * gop ≤ gop * frame + 99 * gop := by
    calc interval * gop ≤ (frame + 99) * gop := Nat.mul_le_mul_right gop (by omega)
      _ = gop * frame + 99 * gop := by ring
  rw [Nat.add_mul] at hticks
  omega

/-- From one keyframe up to the next at most `gopLength` frames are submitted. -/
theorem frames_of_gop_le {cfg : CfrConfig} {gopLength : UInt32} {durationNs k : UInt64}
    {newer run older : List CadenceEvent}
    (hduration : durationNs.toNat ≤
      (computeFrameIntervalNs cfg.frameRateNum cfg.frameRateDen).toNat * gopLength.toNat)
    (hgop : 0 < gopLength.toNat)
    (hrounding : 200 * gopLength.toNat <
      (computeFrameIntervalNs cfg.frameRateNum cfg.frameRateDen).toNat)
    (hlaw : KeyframeLaw durationNs (computeFrameIntervalNs cfg.frameRateNum cfg.frameRateDen)
      (run ++ .submitted k true :: older))
    (hrate : ConstantRate cfg (newer ++ run ++ .submitted k true :: older))
    (hrun : ∀ frame ∈ frames run, frame.2 = false) :
    (frames run).length + 1 ≤ gopLength.toNat := by
  have hclose := frameInterval_close cfg
  have hframes : frames (newer ++ run ++ .submitted k true :: older) =
      frames newer ++ (frames run ++ (k, true) :: frames older) := by
    simp [frames, CadenceEvent.frame?]
  obtain ⟨hticks, hincreasing⟩ := hrate
  rw [hframes] at hticks hincreasing
  obtain ⟨hfalling, _, hkeyframe⟩ :=
    List.pairwise_append.mp (List.pairwise_append.mp hincreasing).2.1
  obtain ⟨first, hfirst⟩ := hticks (k, true) (by simp)
  have hbelow := (pts_lt_of_no_keyframe run hlaw hrun).2
  -- a frame's tick is its PTS over the interval of the scheduler
  have hpos : 0 < cfg.frameIntervalNs.toNat := by omega
  have htick : ∀ frame ∈ frames run, ∃ tick, frame.1.toNat = tick * cfg.frameIntervalNs.toNat ∧
      frame.1.toNat / cfg.frameIntervalNs.toNat = tick := by
    intro frame hframe
    obtain ⟨tick, htick⟩ := hticks frame (by simp [hframe])
    exact ⟨tick, htick, by rw [htick, Nat.mul_div_cancel _ hpos]⟩
  have hcount := @length_lt_of_falling
    ((frames run).map fun frame => frame.1.toNat / cfg.frameIntervalNs.toNat) first
  rw [List.length_map] at hcount
  suffices h : (frames run).length + first < first + gopLength.toNat by omega
  apply hcount
  · rw [List.pairwise_map]
    refine hfalling.imp_of_mem fun {later earlier} hlater hearlier hlt => ?_
    obtain ⟨t, ht, hdivt⟩ := htick later hlater
    obtain ⟨u, hu, hdivu⟩ := htick earlier hearlier
    rw [hdivt, hdivu]
    rw [UInt64.lt_iff_toNat_lt, ht, hu] at hlt
    exact Nat.lt_of_mul_lt_mul_right hlt
  · omega
  · intro x hx
    obtain ⟨frame, hframe, rfl⟩ := List.mem_map.mp hx
    obtain ⟨tick, htick, hdiv⟩ := htick frame hframe
    have hin := hbelow frame hframe
    have hafter := hkeyframe frame hframe (k, true) List.mem_cons_self
    rw [UInt64.lt_iff_toNat_lt, hfirst, htick] at hafter
    rw [hfirst, htick] at hin
    rw [hdiv]
    exact ⟨Nat.lt_of_mul_lt_mul_right hafter,
      tick_lt_of_in_gop hclose hrounding (hin.trans_le (Nat.add_le_add_left hduration _))⟩

/-- The keyframes are the frames that are due, and at a constant rate the frame count of the
    hardware never runs out between two of them. -/
theorem keyframe_cadence {driver : Driver} (hdriver : HonoursForceIdr driver)
    {durationNs intervalNs : UInt64} (hduration : 0 < durationNs) {asyncMode : Bool}
    {activeDepth : Fin (kMaxOutputResources + 1)} {calls : List (Call × Nat)} {c : CadenceRun}
    (hrun : StepRun.exec (cadenceStep driver)
      (cadenceStart asyncMode activeDepth durationNs intervalNs) calls = some c)
    (hfits : Fits durationNs intervalNs c.events) :
    KeyframeLaw durationNs intervalNs c.events ∧
      ∀ (cfg : CfrConfig) (gopLength : UInt32),
        intervalNs = computeFrameIntervalNs cfg.frameRateNum cfg.frameRateDen →
        durationNs = intervalNs * gopLength.toUInt64 →
        2 * (gopLength.toNat * 100) < intervalNs.toNat →
        ConstantRate cfg c.events →
        ∀ newer run older k, c.events = newer ++ run ++ .submitted k true :: older →
          (∀ frame ∈ frames run, frame.2 = false) →
          (frames run).length + 1 ≤ (computeNvencGopBackstop gopLength true).toNat := by
  have hlaw := (cadenceInv_run hduration hdriver hrun).law hfits
  refine ⟨hlaw, ?_⟩
  rintro cfg gopLength rfl hproduct hrounding hrate newer run older k hevents hnone
  rw [hevents] at hlaw hrate
  have hle : durationNs.toNat ≤
      (computeFrameIntervalNs cfg.frameRateNum cfg.frameRateDen).toNat * gopLength.toNat := by
    rw [hproduct, UInt64.toNat_mul, UInt32.toNat_toUInt64]
    exact Nat.mod_le _ _
  have hgop : 0 < gopLength.toNat := by
    refine Nat.pos_of_ne_zero fun hzero => ?_
    rw [UInt64.lt_iff_toNat_lt] at hduration
    rw [hzero, Nat.mul_zero] at hle
    exact absurd hduration (Nat.not_lt.mpr hle)
  have hrounding' : 200 * gopLength.toNat <
      (computeFrameIntervalNs cfg.frameRateNum cfg.frameRateDen).toNat := by omega
  rw [List.append_assoc] at hlaw
  exact frames_of_gop_le hle hgop hrounding' (keyframeLaw_suffix newer hlaw) hrate hnone

/-- Outputs what it took, in order, and an IDR where one was asked for. -/
def idrDriver : Driver where
  mapInputResource _ i := (.success, some i.val)
  encodePicture _ _ := .success
  encodeEos _ := .success
  lockBitstream history _ _ :=
    match (accepted history)[(completed history).length]? with
    | some pic =>
        if (accepted history).all fun other =>
            other.inputTimeStamp != pic.inputTimeStamp || other.forceIdr == pic.forceIdr then
          (.success, { outputTimeStamp := pic.inputTimeStamp
                       pictureType := if pic.forceIdr then .idr else .other, bytes := [1] })
        else (.lockBusy, { outputTimeStamp := 0, pictureType := .other, bytes := [] })
    | none => (.lockBusy, { outputTimeStamp := 0, pictureType := .other, bytes := [] })
  waitForSingleObject _ _ _ := .object0
  now _ := 0

theorem idrDriver_honours : HonoursForceIdr idrDriver := by
  intro history buffer nonBlocking bitstream hlock other hother hts
  dsimp only [idrDriver] at hlock
  split at hlock
  · next pic hpic =>
    split at hlock
    · next hagree =>
      obtain rfl := (Prod.mk.inj hlock).2
      have hflag : other.forceIdr = pic.forceIdr := by
        have := List.all_eq_true.mp hagree other hother
        simpa [hts] using this
      rw [hflag]
      cases pic.forceIdr <;> simp
    · exact nomatch hlock
  · exact nomatch hlock

/-- GOPs of two frames at 60 a second: the third frame is due although the scheduler's rounding
    puts it before the end of the GOP, the fourth tick is skipped, the fifth is forced. -/
theorem keyframe_cadence_forced :
    ∃ c ∈ StepRun.exec (cadenceStep idrDriver) (cadenceStart true 2 33333332 16666666)
      [(.acquireFreeSlot, 0), (.encodeFrame 0 0 1920 1080, 9), (.acquireFreeSlot, 0),
        (.encodeFrame 1 16666600 1920 1080, 9), (.acquireFreeSlot, 0),
        (.encodeFrame 2 33333200 1920 1080, 9), (.requestKeyframe, 0), (.acquireFreeSlot, 0),
        (.encodeFrame 0 66666400 1920 1080, 9)],
      KeyframeLaw 33333332 16666666 c.events ∧
        ∀ newer run older k, c.events = newer ++ run ++ .submitted k true :: older →
          (∀ frame ∈ frames run, frame.2 = false) → (frames run).length + 1 ≤ 2 := by
  have hruns : ∃ c ∈ StepRun.exec (cadenceStep idrDriver) (cadenceStart true 2 33333332 16666666)
      [(.acquireFreeSlot, 0), (.encodeFrame 0 0 1920 1080, 9), (.acquireFreeSlot, 0),
        (.encodeFrame 1 16666600 1920 1080, 9), (.acquireFreeSlot, 0),
        (.encodeFrame 2 33333200 1920 1080, 9), (.requestKeyframe, 0), (.acquireFreeSlot, 0),
        (.encodeFrame 0 66666400 1920 1080, 9)],
      c.events = [.submitted 66666400 true, .requested, .submitted 33333200 true,
        .submitted 16666600 false, .submitted 0 true] := by
    decide
  obtain ⟨c, hc, hevents⟩ := hruns
  have hframes : frames c.events =
      [(66666400, true), (33333200, true), (16666600, false), (0, true)] := by rw [hevents]; rfl
  have hfits : Fits 33333332 16666666 c.events := by
    rw [Fits, hframes]
    simp
  have hrate : ConstantRate ⟨false, .smooth, true, none, 60, true, true, true, true, true, 8, 60, 1,
      10000000⟩ c.events := by
    constructor
    · rw [hframes]
      intro frame hframe
      simp only [List.mem_cons, List.not_mem_nil, or_false] at hframe
      rcases hframe with rfl | rfl | rfl | rfl
      exacts [⟨4, rfl⟩, ⟨2, rfl⟩, ⟨1, rfl⟩, ⟨0, rfl⟩]
    · rw [hframes]
      decide
  obtain ⟨hlaw, hcount⟩ := keyframe_cadence idrDriver_honours (by decide) hc hfits
  exact ⟨c, hc, hlaw, hcount _ 2 rfl rfl (by decide) hrate⟩

/-- At a rate whose frame interval is 0 the cadence is off, and at the end of the 64 bits the end of
    the GOP wraps. -/
theorem keyframe_cadence_exceptions :
    HonoursForceIdr idrDriver ∧
    (∃ c ∈ StepRun.exec (cadenceStep idrDriver)
        (cadenceStart true 2 (computeFrameIntervalNs 2000000000 1 * 4000000000)
          (computeFrameIntervalNs 2000000000 1))
        [(.acquireFreeSlot, 0), (.encodeFrame 0 0 1920 1080, 9), (.acquireFreeSlot, 0),
          (.encodeFrame 1 16 1920 1080, 9)],
      c.events = [.submitted 16 false, .submitted 0 true] ∧
        ¬ KeyframeLaw (computeFrameIntervalNs 2000000000 1 * 4000000000)
          (computeFrameIntervalNs 2000000000 1) c.events) ∧
      ∃ c ∈ StepRun.exec (cadenceStep idrDriver) (cadenceStart true 2 33333332 16666666)
        [(.acquireFreeSlot, 0), (.encodeFrame 0 18446744073676218284 1920 1080, 9),
          (.acquireFreeSlot, 0), (.encodeFrame 1 18446744073692884950 1920 1080, 9)],
      c.events = [.submitted 18446744073692884950 true, .submitted 18446744073676218284 true] ∧
        ¬ KeyframeLaw 33333332 16666666 c.events := by
  have hoff : ∃ c ∈ StepRun.exec (cadenceStep idrDriver)
      (cadenceStart true 2 (computeFrameIntervalNs 2000000000 1 * 4000000000)
        (computeFrameIntervalNs 2000000000 1))
      [(.acquireFreeSlot, 0), (.encodeFrame 0 0 1920 1080, 9), (.acquireFreeSlot, 0),
        (.encodeFrame 1 16 1920 1080, 9)],
      c.events = [.submitted 16 false, .submitted 0 true] := by
    decide
  have hwrap : ∃ c ∈ StepRun.exec (cadenceStep idrDriver) (cadenceStart true 2 33333332 16666666)
      [(.acquireFreeSlot, 0), (.encodeFrame 0 18446744073676218284 1920 1080, 9),
        (.acquireFreeSlot, 0), (.encodeFrame 1 18446744073692884950 1920 1080, 9)],
      c.events =
        [.submitted 18446744073692884950 true, .submitted 18446744073676218284 true] := by
    decide
  obtain ⟨off, hoff, hevents⟩ := hoff
  obtain ⟨wrap, hwrap, hevents'⟩ := hwrap
  refine ⟨idrDriver_honours, ⟨off, hoff, hevents, ?_⟩, wrap, hwrap, hevents', ?_⟩
  · rw [hevents]
    rintro ⟨hdue, -⟩
    exact nomatch hdue.mpr (.inr (.inr ⟨0, rfl, by decide⟩))
  · rw [hevents']
    rintro ⟨hdue, -⟩
    rcases hdue.mp rfl with hfirst | hforced | ⟨k, hk, hle⟩
    · exact nomatch hfirst
    · exact nomatch hforced
    · obtain rfl := Option.some.inj hk
      exact absurd hle (by decide)

end Exosnap.Engine.Nvenc
