/-
  What a call of the encoder does, as a list of things that can happen.

  Between submissions only four: a driver call without consequence, the oldest frame taken with
  the packet of its output, the oldest frame lost because its output names another timestamp, or
  nothing. `Drains` is any number of them; every loop of the encoder is one (`reapLoop_drains` and
  the like). `submitFrame_cases` are the ends of a submission.
-/
import Exosnap.Engine.Nvenc

namespace Exosnap.Engine.Nvenc

/-! ## The driver's history -/

/-- The picture of a submission that the driver took. -/
def DriverEvent.accepted? : DriverEvent → Option PicParams
  | .encoded pic .success => some pic
  | .encoded pic .needMoreInput => some pic
  | _ => none

/-- What a successful lock handed out. -/
def DriverEvent.completed? : DriverEvent → Option LockBitstream
  | .locked _ .success bitstream => some bitstream
  | _ => none

def accepted (history : List DriverEvent) : List PicParams := history.filterMap (·.accepted?)

def completed (history : List DriverEvent) : List LockBitstream :=
  history.filterMap (·.completed?)

/-- Neither a picture taken nor one handed out. -/
def DriverEvent.Quiet (event : DriverEvent) : Prop :=
  event.accepted? = none ∧ event.completed? = none

theorem accepted_log (s : Session) (event : DriverEvent) :
    accepted (s.log event).history = accepted s.history ++ event.accepted?.toList := by
  cases h : event.accepted? <;> simp [accepted, Session.log, h]

theorem completed_log (s : Session) (event : DriverEvent) :
    completed (s.log event).history = completed s.history ++ event.completed?.toList := by
  cases h : event.completed? <;> simp [completed, Session.log, h]

theorem quiet_locked {buffer : Option Nat} {status : NvencStatus} {bitstream : LockBitstream}
    (h : status ≠ .success) : (DriverEvent.locked buffer status bitstream).Quiet := by
  refine ⟨rfl, ?_⟩
  unfold DriverEvent.completed?
  split
  · next heq => exact absurd (DriverEvent.locked.inj heq).2.1 h
  · rfl

/-! ## The oldest frame -/

def packetOf (pf : PendingFrame) (bitstream : LockBitstream) : EncodedVideoPacket :=
  { bytes := bitstream.bytes, ptsNs := pf.ptsNs,
    keyframe := decide (bitstream.pictureType = .idr) || decide (bitstream.pictureType = .i) }

namespace Session

/-- The oldest frame goes with its slot and its output buffer. -/
def retire (s : Session) (pf : PendingFrame) (pending : List PendingFrame)
    (bitstream : LockBitstream) : Session :=
  let s := s.setEncoder { s.encoder with
    pending := pending
    gopStartPtsNs := resyncGopStartFromActual pf.predictedKeyframe
      (decide (bitstream.pictureType = .idr)) pf.ptsNs s.encoder.gopStartPtsNs }
  let s := s.freeSlot pf.slotIdx
  match s.encoder.asyncMode, NvencEncoder.outputOf? pf with
  | true, some idx => s.setEncoder (s.encoder.setOutput idx false)
  | _, _ => s

/-- The oldest frame goes, its slot and its output buffer stay as they are. -/
def lose (s : Session) (pending : List PendingFrame) : Session :=
  s.setEncoder { s.encoder with pending := pending }

/-- The session behind a lock that succeeded. -/
def lockedWith (s : Session) (bitstream : LockBitstream) : Session :=
  s.log (.locked s.bitstreamToLock .success bitstream)

end Session

section
variable {driver : Driver} {s s' : Session} {pf : PendingFrame} {pending : List PendingFrame}

theorem lock_failed {nonBlocking : Bool} {status : NvencStatus} {bitstream : LockBitstream}
    (hlock : driver.lockBitstream s.history s.bitstreamToLock nonBlocking = (status, bitstream))
    (hstatus : status ≠ .success) :
    s.lockAndConsumeBitstream driver nonBlocking =
      (status, .error ("nvEncLockBitstream: " ++ nvencStatusName status),
        s.log (.locked s.bitstreamToLock status bitstream)) := by
  unfold Session.lockAndConsumeBitstream
  rw [hlock]
  exact if_pos hstatus

theorem lock_mismatched {nonBlocking : Bool} {bitstream : LockBitstream}
    (hlock : driver.lockBitstream s.history s.bitstreamToLock nonBlocking = (.success, bitstream))
    (hpending : s.encoder.pending = pf :: pending)
    (hecho : bitstream.outputTimeStamp ≠ pf.inputTs) :
    s.lockAndConsumeBitstream driver nonBlocking =
      (.success, .error (formatOutputTsMismatchError pf.inputTs bitstream.outputTimeStamp),
        (s.lockedWith bitstream).lose pending) := by
  have hlogged : (s.lockedWith bitstream).encoder.pending = pf :: pending := hpending
  unfold Session.lockAndConsumeBitstream
  rw [hlock]
  dsimp only
  rw [if_neg (fun h => h rfl)]
  unfold Session.lockedWith at hlogged ⊢
  rw [hlogged]
  dsimp only
  rw [if_pos hecho]
  rfl

theorem lock_echoed {nonBlocking : Bool} {bitstream : LockBitstream}
    (hlock : driver.lockBitstream s.history s.bitstreamToLock nonBlocking = (.success, bitstream))
    (hpending : s.encoder.pending = pf :: pending)
    (hecho : bitstream.outputTimeStamp = pf.inputTs) :
    s.lockAndConsumeBitstream driver nonBlocking =
      (.success, .ok (packetOf pf bitstream),
        (s.lockedWith bitstream).retire pf pending bitstream) := by
  have hlogged : (s.lockedWith bitstream).encoder.pending = pf :: pending := hpending
  unfold Session.lockAndConsumeBitstream
  rw [hlock]
  dsimp only
  rw [if_neg (fun h => h rfl)]
  unfold Session.lockedWith at hlogged ⊢
  rw [hlogged]
  dsimp only
  rw [if_neg (not_not_intro hecho)]
  rfl

/-! ## Draining -/

/-- Frames taken, with their packets, and frames lost. `turn` moves the cursor of the ring. -/
inductive Drains (driver : Driver) :
    Session → List EncodedVideoPacket → List PendingFrame → Session → Prop where
  | done (s : Session) : Drains driver s [] [] s
  | quiet {s s' : Session} {packets : List EncodedVideoPacket} {lost : List PendingFrame}
      (event : DriverEvent) (hquiet : event.Quiet)
      (rest : Drains driver (s.log event) packets lost s') :
      Drains driver s packets lost s'
  | turn {s s' : Session} {packets : List EncodedVideoPacket} {lost : List PendingFrame}
      (cursor : Nat)
      (rest : Drains driver (s.setEncoder { s.encoder with outputCursor := cursor }) packets lost
        s') :
      Drains driver s packets lost s'
  | take {s s' : Session} {packets : List EncodedVideoPacket} {lost : List PendingFrame}
      {pf : PendingFrame} {pending : List PendingFrame} {nonBlocking : Bool}
      {bitstream : LockBitstream} (hpending : s.encoder.pending = pf :: pending)
      (hlock : driver.lockBitstream s.history s.bitstreamToLock nonBlocking = (.success, bitstream))
      (hecho : bitstream.outputTimeStamp = pf.inputTs)
      (rest : Drains driver ((s.lockedWith bitstream).retire pf pending bitstream) packets lost
        s') :
      Drains driver s (packetOf pf bitstream :: packets) lost s'
  | lose {s s' : Session} {packets : List EncodedVideoPacket} {lost : List PendingFrame}
      {pf : PendingFrame} {pending : List PendingFrame} {nonBlocking : Bool}
      {bitstream : LockBitstream} (hpending : s.encoder.pending = pf :: pending)
      (hlock : driver.lockBitstream s.history s.bitstreamToLock nonBlocking = (.success, bitstream))
      (hecho : bitstream.outputTimeStamp ≠ pf.inputTs)
      (rest : Drains driver ((s.lockedWith bitstream).lose pending) packets lost s') :
      Drains driver s packets (pf :: lost) s'

theorem Drains.one_quiet {event : DriverEvent} (h : event.Quiet) :
    Drains driver s [] [] (s.log event) := .quiet event h (.done _)

theorem Drains.trans {m : Session} {packets packets' : List EncodedVideoPacket}
    {lost lost' : List PendingFrame} (h : Drains driver s packets lost m)
    (h' : Drains driver m packets' lost' s') :
    Drains driver s (packets ++ packets') (lost ++ lost') s' := by
  induction h with
  | done s => exact h'
  | quiet event hquiet _ ih => exact .quiet event hquiet (ih h')
  | turn cursor _ ih => exact .turn cursor (ih h')
  | take hpending hlock hecho _ ih => exact .take hpending hlock hecho (ih h')
  | lose hpending hlock hecho _ ih => exact .lose hpending hlock hecho (ih h')

/-- What no drain touches. -/
structure Frame (e e' : NvencEncoder) : Prop where
  asyncMode : e'.asyncMode = e.asyncMode
  activeDepth : e'.activeDepth = e.activeDepth
  gopDurationNs : e'.gopDurationNs = e.gopDurationNs
  frameIntervalNs : e'.frameIntervalNs = e.frameIntervalNs
  needMoreInputCount : e'.needMoreInputCount = e.needMoreInputCount
  frameIdx : e'.frameIdx = e.frameIdx
  forceIdrNext : e'.forceIdrNext = e.forceIdrNext
  haveGopStart : e'.haveGopStart = e.haveGopStart

theorem Frame.refl (e : NvencEncoder) : Frame e e := ⟨rfl, rfl, rfl, rfl, rfl, rfl, rfl, rfl⟩

theorem Frame.trans {e e' e'' : NvencEncoder} (h : Frame e e') (h' : Frame e' e'') :
    Frame e e'' :=
  ⟨h'.1.trans h.1, h'.2.trans h.2, h'.3.trans h.3, h'.4.trans h.4, h'.5.trans h.5, h'.6.trans h.6,
    h'.7.trans h.7, h'.8.trans h.8⟩

theorem freeSlot_encoder (s : Session) (i : Fin 8) :
    ∃ slot, (s.freeSlot i).encoder = s.encoder.setSlot i slot ∧ slot.inFlight = false ∧
      slot.mapped = false := by
  unfold Session.freeSlot
  dsimp only
  split
  · exact ⟨{}, rfl, rfl, rfl⟩
  · exact ⟨_, rfl, rfl, rfl⟩

theorem freeSlot_frame (s : Session) (i : Fin 8) : Frame s.encoder (s.freeSlot i).encoder := by
  obtain ⟨slot, hfree, _⟩ := freeSlot_encoder s i
  rw [hfree]
  exact ⟨rfl, rfl, rfl, rfl, rfl, rfl, rfl, rfl⟩

theorem retire_frame (s : Session) (p : PendingFrame) (pending : List PendingFrame)
    (bitstream : LockBitstream) : Frame s.encoder (s.retire p pending bitstream).encoder := by
  unfold Session.retire
  dsimp only
  generalize hset : s.setEncoder _ = m
  have hm : Frame s.encoder m.encoder := by
    rw [← hset]
    exact ⟨rfl, rfl, rfl, rfl, rfl, rfl, rfl, rfl⟩
  have hfree := hm.trans (freeSlot_frame m p.slotIdx)
  split
  · exact hfree.trans ⟨rfl, rfl, rfl, rfl, rfl, rfl, rfl, rfl⟩
  · exact hfree

theorem retire_pending (s : Session) (p : PendingFrame) (pending : List PendingFrame)
    (bitstream : LockBitstream) : (s.retire p pending bitstream).encoder.pending = pending := by
  unfold Session.retire
  dsimp only
  generalize hset : s.setEncoder _ = m
  have hm : m.encoder.pending = pending := by
    rw [← hset]
    rfl
  obtain ⟨slot, hfree, _⟩ := freeSlot_encoder m p.slotIdx
  have hpending : (m.freeSlot p.slotIdx).encoder.pending = pending := by
    rw [hfree]
    exact hm
  split
  · exact hpending
  · exact hpending

theorem Drains.frame {packets : List EncodedVideoPacket} {lost : List PendingFrame}
    (h : Drains driver s packets lost s') : Frame s.encoder s'.encoder := by
  induction h with
  | done s => exact .refl s.encoder
  | quiet event hquiet _ ih => exact ih
  | @turn s _ _ _ cursor _ ih =>
    have hturn : Frame s.encoder (s.setEncoder { s.encoder with outputCursor := cursor }).encoder :=
      ⟨rfl, rfl, rfl, rfl, rfl, rfl, rfl, rfl⟩
    exact hturn.trans ih
  | @take s _ _ _ p pending _ bitstream hpending hlock hecho _ ih =>
    exact (retire_frame (s.lockedWith bitstream) p pending bitstream).trans ih
  | @lose s _ _ _ p pending _ bitstream hpending hlock hecho _ ih =>
    have hlose : Frame s.encoder ((s.lockedWith bitstream).lose pending).encoder :=
      ⟨rfl, rfl, rfl, rfl, rfl, rfl, rfl, rfl⟩
    exact hlose.trans ih

/-- Every frame that leaves the FIFO is taken or lost. -/
theorem Drains.length {packets : List EncodedVideoPacket} {lost : List PendingFrame}
    (h : Drains driver s packets lost s') :
    s.encoder.pending.length =
      packets.length + lost.length + s'.encoder.pending.length := by
  induction h with
  | done s => simp
  | quiet event hquiet _ ih => exact ih
  | turn cursor _ ih => exact ih
  | take hpending hlock hecho _ ih =>
    rw [retire_pending] at ih
    rw [hpending, List.length_cons, List.length_cons, ih]
    omega
  | @lose s _ _ _ pf pending _ _ hpending hlock hecho _ ih =>
    have hlose : pending.length = _ := ih
    rw [hpending, List.length_cons, List.length_cons, hlose]
    omega

/-- The three ends of a lock in front of a pending frame. -/
theorem lock_cases (driver : Driver) (nonBlocking : Bool) (hpending : s.encoder.pending = pf :: pending) :
    (∃ status error s', s.lockAndConsumeBitstream driver nonBlocking = (status, .error error, s') ∧
      status ≠ .success ∧ s'.encoder = s.encoder ∧ Drains driver s [] [] s') ∨
    (∃ error s', s.lockAndConsumeBitstream driver nonBlocking = (.success, .error error, s') ∧
      Drains driver s [] [pf] s' ∧ s'.encoder = { s.encoder with pending := pending }) ∨
    ∃ packet s', s.lockAndConsumeBitstream driver nonBlocking = (.success, .ok packet, s') ∧
      Drains driver s [packet] [] s' := by
  rcases hlock : driver.lockBitstream s.history s.bitstreamToLock nonBlocking with
    ⟨status, bitstream⟩
  by_cases hstatus : status = .success
  · subst hstatus
    by_cases hecho : bitstream.outputTimeStamp = pf.inputTs
    · exact .inr (.inr ⟨_, _, lock_echoed hlock hpending hecho,
        .take hpending hlock hecho (.done _)⟩)
    · exact .inr (.inl ⟨_, _, lock_mismatched hlock hpending hecho,
        .lose hpending hlock hecho (.done _), rfl⟩)
  · exact .inl ⟨_, _, _, lock_failed hlock hstatus, hstatus, rfl,
      .one_quiet (quiet_locked hstatus)⟩

/-! ## The loops -/

theorem waitAndConsumeOneAsync_drains {event : Nat} {budgetMs start : ℚ} (n : Nat) :
    ∀ {s s' : Session} {pf : PendingFrame} {pending : List PendingFrame}
      {result : Except String EncodedVideoPacket}, s.encoder.pending = pf :: pending →
      s.waitAndConsumeOneAsync driver event budgetMs start n = some (result, s') →
      (∃ packet, result = .ok packet ∧ Drains driver s [packet] [] s') ∨
        ∃ error lost, result = .error error ∧ Drains driver s [] lost s' := by
  induction n with
  | zero => exact fun _ h => nomatch h
  | succ n ih =>
    intro s s' pf pending result hpending h
    have hquiet : (DriverEvent.waited event 20
        (driver.waitForSingleObject s.history event 20)).Quiet := ⟨rfl, rfl⟩
    have hwait : Drains driver s [] [] _ := .one_quiet hquiet
    rw [Session.waitAndConsumeOneAsync] at h
    dsimp only [Session.waitForSingleObject] at h
    generalize hlogged : s.log (.waited event 20 (driver.waitForSingleObject s.history event 20)) =
      logged at h hwait
    have hheld : logged.encoder.pending = pf :: pending := by
      rw [← hlogged]
      exact hpending
    split at h
    · have heq := Option.some.inj h
      rcases lock_cases driver true hheld with
        ⟨status, error, m, hresult, _, _, hdrains⟩ | ⟨error, m, hresult, hdrains, _⟩ |
        ⟨packet, m, hresult, hdrains⟩
      · rw [hresult] at heq
        obtain ⟨rfl, rfl⟩ := Prod.mk.inj heq
        exact .inr ⟨error, _, rfl, hwait.trans hdrains⟩
      · rw [hresult] at heq
        obtain ⟨rfl, rfl⟩ := Prod.mk.inj heq
        exact .inr ⟨error, _, rfl, hwait.trans hdrains⟩
      · rw [hresult] at heq
        obtain ⟨rfl, rfl⟩ := Prod.mk.inj heq
        exact .inl ⟨packet, rfl, hwait.trans hdrains⟩
    · rcases ih hheld h with ⟨packet, hresult, hdrains⟩ | ⟨error, lost, hresult, hdrains⟩
      · exact .inl ⟨packet, hresult, hwait.trans hdrains⟩
      · exact .inr ⟨error, lost, hresult, hwait.trans hdrains⟩
    · obtain ⟨rfl, rfl⟩ := Prod.mk.inj (Option.some.inj h)
      exact .inr ⟨_, [], rfl, hwait⟩
    · obtain ⟨rfl, rfl⟩ := Prod.mk.inj (Option.some.inj h)
      exact .inr ⟨_, [], rfl, hwait⟩

theorem findFreeOutputSlot_some {inFlight : Nat → Bool} {count cursor idx : Nat}
    (h : (findFreeOutputSlot inFlight count cursor).slotIdx = some idx) :
    idx < count ∧ inFlight idx = false := by
  unfold findFreeOutputSlot at h
  split at h
  · next found hfind =>
    obtain rfl := Option.some.inj h
    have hfree := List.find?_some hfind
    obtain ⟨i, hi, rfl⟩ := List.mem_map.mp (List.mem_of_find?_eq_some hfind)
    have hcount : 0 < count := Nat.zero_lt_of_lt (List.mem_range.mp hi)
    exact ⟨Nat.mod_lt _ hcount, by simpa using hfree⟩
  · exact nomatch h

/-- The wait for an output buffer: older frames, and the cursor of the ring. -/
theorem claimOutputSlot_drains (n : Nat) :
    ∀ {s s' : Session} {packets : List EncodedVideoPacket} {result : Except String Nat},
      s.claimOutputSlot driver n = some (packets, result, s') →
      (∃ idx, result = .ok idx ∧ Drains driver s packets [] s' ∧
        idx < s'.encoder.activeDepth ∧ s'.encoder.outputs idx = false) ∨
      ∃ error lost, result = .error error ∧ Drains driver s packets lost s' := by
  induction n with
  | zero => exact fun h => nomatch h
  | succ n ih =>
    intro s s' packets result h
    rw [Session.claimOutputSlot] at h
    dsimp only at h
    split at h
    · next idx hfree =>
      obtain ⟨rfl, rfl, rfl⟩ : [] = packets ∧ .ok idx = result ∧ _ = s' := by
        simpa only [Option.some.injEq, Prod.mk.injEq] using h
      obtain ⟨hidx, hclear⟩ := findFreeOutputSlot_some hfree
      exact .inl ⟨idx, rfl, .turn _ (.done _), hidx, hclear⟩
    · split at h
      · obtain ⟨rfl, rfl, rfl⟩ : [] = packets ∧ .error _ = result ∧ s = s' := by
          simpa only [Option.some.injEq, Prod.mk.injEq] using h
        exact .inr ⟨_, [], rfl, .done s⟩
      · next head pending hpending =>
        split at h
        · exact nomatch h
        · split at h
          · exact nomatch h
          · next error m hwait =>
            obtain ⟨rfl, rfl, rfl⟩ : [] = packets ∧ .error error = result ∧ m = s' := by
              simpa only [Option.some.injEq, Prod.mk.injEq] using h
            rcases waitAndConsumeOneAsync_drains n hpending hwait with
              ⟨packet, hresult, _⟩ | ⟨_, lost, _, hdrains⟩
            · exact nomatch hresult
            · exact .inr ⟨error, lost, rfl, hdrains⟩
          · next packet m hwait =>
            obtain ⟨⟨packets', result', s''⟩, hclaim, heq⟩ := Option.map_eq_some_iff.mp h
            obtain ⟨rfl, rfl, rfl⟩ :
                packet :: packets' = packets ∧ result' = result ∧ s'' = s' := by
              simpa only [Prod.mk.injEq] using heq
            rcases waitAndConsumeOneAsync_drains n hpending hwait with
              ⟨_, hresult, hfirst⟩ | ⟨_, _, hresult, _⟩
            · obtain rfl := Except.ok.inj hresult
              rcases ih hclaim with ⟨idx, hok, hdrains, hidx⟩ | ⟨error, lost, herror, hdrains⟩
              · exact .inl ⟨idx, hok, hfirst.trans hdrains, hidx⟩
              · exact .inr ⟨error, lost, herror, hfirst.trans hdrains⟩
            · exact nomatch hresult

theorem reapLoop_drains (n : Nat) :
    ∀ {s s' : Session} {timeoutMs : UInt32} {answer : Answer},
      s.reapLoop driver n timeoutMs = some (answer, s') →
      ∃ lost, Drains driver s answer.packets lost s' ∧ (answer.error = none → lost = []) := by
  induction n with
  | zero => exact fun h => nomatch h
  | succ n ih =>
    intro s s' timeoutMs answer h
    rw [Session.reapLoop] at h
    split at h
    · obtain ⟨rfl, rfl⟩ := Prod.mk.inj (Option.some.inj h)
      exact ⟨[], .done s, fun _ => rfl⟩
    · next head pending hpending =>
      split at h
      · obtain ⟨rfl, rfl⟩ := Prod.mk.inj (Option.some.inj h)
        exact ⟨[], .done s, fun _ => rfl⟩
      · next event _ =>
        dsimp only [Session.waitForSingleObject] at h
        have hquiet : (DriverEvent.waited event timeoutMs
            (driver.waitForSingleObject s.history event timeoutMs)).Quiet := ⟨rfl, rfl⟩
        have hwait : Drains driver s [] [] _ := .one_quiet hquiet
        generalize hlogged : s.log (.waited event timeoutMs
          (driver.waitForSingleObject s.history event timeoutMs)) = logged at h hwait
        have hheld : logged.encoder.pending = head :: pending := by
          rw [← hlogged]
          exact hpending
        split at h
        · split at h <;>
          · obtain ⟨rfl, rfl⟩ := Prod.mk.inj (Option.some.inj h)
            exact ⟨[], hwait, fun _ => rfl⟩
        · rcases lock_cases driver true hheld with
            ⟨status, error, m, hresult, _, _, hdrains⟩ | ⟨error, m, hresult, hdrains, _⟩ |
            ⟨packet, m, hresult, hdrains⟩
          · rw [hresult] at h
            obtain ⟨rfl, rfl⟩ := Prod.mk.inj (Option.some.inj h)
            exact ⟨[], hwait.trans hdrains, fun _ => rfl⟩
          · rw [hresult] at h
            obtain ⟨rfl, rfl⟩ := Prod.mk.inj (Option.some.inj h)
            exact ⟨_, hwait.trans hdrains, nofun⟩
          · rw [hresult] at h
            obtain ⟨⟨answer', m'⟩, hreap, heq⟩ := Option.map_eq_some_iff.mp h
            obtain ⟨rfl, rfl⟩ := Prod.mk.inj heq
            obtain ⟨lost, hrest, herror⟩ := ih hreap
            exact ⟨lost, (hwait.trans hdrains).trans hrest, herror⟩

theorem flushAsyncLoop_drains (n : Nat) :
    ∀ {s s' : Session} {answer : Answer}, s.flushAsyncLoop driver n = some (answer, s') →
      ∃ lost, Drains driver s answer.packets lost s' ∧
        (answer.error = none → lost = [] ∧ s'.encoder.pending = []) := by
  induction n with
  | zero => exact fun h => nomatch h
  | succ n ih =>
    intro s s' answer h
    rw [Session.flushAsyncLoop] at h
    split at h
    · next hempty =>
      obtain ⟨rfl, rfl⟩ := Prod.mk.inj (Option.some.inj h)
      exact ⟨[], .done s, fun _ => ⟨rfl, hempty⟩⟩
    · next head pending hpending =>
      split at h
      · obtain ⟨rfl, rfl⟩ := Prod.mk.inj (Option.some.inj h)
        exact ⟨[], .done s, nofun⟩
      · split at h
        · exact nomatch h
        · next error m hwait =>
          obtain ⟨rfl, rfl⟩ := Prod.mk.inj (Option.some.inj h)
          rcases waitAndConsumeOneAsync_drains n hpending hwait with
            ⟨_, hresult, _⟩ | ⟨_, lost, _, hdrains⟩
          · exact nomatch hresult
          · exact ⟨lost, hdrains, nofun⟩
        · next packet m hwait =>
          obtain ⟨⟨answer', m'⟩, hflush, heq⟩ := Option.map_eq_some_iff.mp h
          obtain ⟨rfl, rfl⟩ := Prod.mk.inj heq
          rcases waitAndConsumeOneAsync_drains n hpending hwait with
            ⟨_, hresult, hfirst⟩ | ⟨_, _, hresult, _⟩
          · obtain rfl := Except.ok.inj hresult
            obtain ⟨lost, hrest, herror⟩ := ih hflush
            exact ⟨lost, hfirst.trans hrest, herror⟩
          · exact nomatch hresult

/-- The drain of the sync mode stops at its count or in front of an empty FIFO. -/
theorem flushLoop_drains (n : Nat) :
    ∀ {s s' : Session} {remaining : Nat} {lastProgress : ℚ} {answer : Answer},
      s.flushLoop driver n remaining lastProgress = some (answer, s') →
      ∃ packets lost, Drains driver s packets lost s' ∧ (lost = [] → answer.packets = packets) ∧
        (answer.error = none →
          packets.length + lost.length = remaining ∨ s'.encoder.pending = []) := by
  induction n with
  | zero => exact fun h => nomatch h
  | succ n ih =>
    intro s s' remaining lastProgress answer h
    rw [Session.flushLoop] at h
    split at h
    · next hstop =>
      obtain ⟨rfl, rfl⟩ := Prod.mk.inj (Option.some.inj h)
      exact ⟨[], [], .done s, fun _ => rfl, fun _ => hstop.imp Eq.symm id⟩
    · next hgo =>
      obtain ⟨hremaining, hpending⟩ := not_or.mp hgo
      obtain ⟨head, pending, hpending⟩ := List.exists_cons_of_ne_nil hpending
      rcases lock_cases driver true hpending with
        ⟨status, error, m, hresult, hstatus, _, hdrains⟩ | ⟨error, m, hresult, hdrains, _⟩ |
        ⟨packet, m, hresult, hdrains⟩
      · rw [hresult] at h
        dsimp only at h
        split at h
        · next hstep =>
          -- only a successful lock is consumed
          cases status with
          | success => exact absurd rfl hstatus
          | lockBusy =>
            rw [nextFlushDrainStep] at hstep
            split at hstep <;> exact nomatch hstep
          | _ => exact nomatch hstep
        · obtain ⟨packets, lost, hrest, hanswer, hstopped⟩ := ih h
          exact ⟨packets, lost, hdrains.trans hrest, hanswer, hstopped⟩
        · obtain ⟨rfl, rfl⟩ := Prod.mk.inj (Option.some.inj h)
          exact ⟨[], [], hdrains, fun _ => rfl, nofun⟩
        · obtain ⟨rfl, rfl⟩ := Prod.mk.inj (Option.some.inj h)
          exact ⟨[], [], hdrains, fun _ => rfl, nofun⟩
      · rw [hresult] at h
        dsimp only [nextFlushDrainStep] at h
        obtain ⟨⟨answer', m'⟩, hflush, heq⟩ := Option.map_eq_some_iff.mp h
        obtain ⟨rfl, rfl⟩ := Prod.mk.inj heq
        obtain ⟨packets, lost, hrest, _, hstopped⟩ := ih hflush
        refine ⟨packets, head :: lost, hdrains.trans hrest, nofun, fun herror => ?_⟩
        rcases hstopped herror with hcount | hempty
        · refine .inl ?_
          rw [List.length_cons]
          omega
        · exact .inr hempty
      · rw [hresult] at h
        dsimp only [nextFlushDrainStep] at h
        obtain ⟨⟨answer', m'⟩, hflush, heq⟩ := Option.map_eq_some_iff.mp h
        obtain ⟨rfl, rfl⟩ := Prod.mk.inj heq
        obtain ⟨packets, lost, hrest, hanswer, hstopped⟩ := ih hflush
        refine ⟨packet :: packets, lost, hdrains.trans hrest, fun hlost => ?_, fun herror => ?_⟩
        · dsimp only
          rw [hanswer hlost]
        · rcases hstopped herror with hcount | hempty
          · refine .inl ?_
            rw [List.length_cons]
            omega
          · exact .inr hempty

/-! ## Submission -/

/-- What the driver took back gives up its slot, its output buffer and its entry. -/
def NvencEncoder.takeBack (e : NvencEncoder) (i : Fin 8) (outIdx : Option Nat)
    (inputTs : UInt64) : NvencEncoder :=
  { e with
    slots := Function.update e.slots i {}
    outputs := match outIdx with
      | some idx => Function.update e.outputs idx false
      | none => e.outputs
    pending := discardRejectedSubmission e.pending inputTs }

/-- The ends of a submission whose slot was mapped. -/
inductive Submits (driver : Driver) (i : Fin 8) (outIdx : Option Nat) (pic : PicParams)
    (ready : Session) : Answer → Session → Prop where
  | submitted (hasync : ready.encoder.asyncMode = true) :
      Submits driver i outIdx pic ready {} (ready.log (.encoded pic .success))
  | buffered :
      Submits driver i outIdx pic ready {}
        ((ready.log (.encoded pic .needMoreInput)).setEncoder
          { ready.encoder with needMoreInputCount := ready.encoder.needMoreInputCount + 1 })
  | consumed {packet : EncodedVideoPacket} {s' : Session}
      (hasync : ready.encoder.asyncMode = false)
      (hdrains : Drains driver (ready.log (.encoded pic .success)) [packet] [] s') :
      Submits driver i outIdx pic ready { packets := [packet] } s'
  | unconsumed {error : String} {m s' : Session} {lost : List PendingFrame}
      (hasync : ready.encoder.asyncMode = false)
      (hdrains : Drains driver (ready.log (.encoded pic .success)) [] lost m)
      (hhead : lost = [] ∧ m.encoder = ready.encoder ∨ ∃ head pending,
        ready.encoder.pending = head :: pending ∧ lost = [head] ∧
          m.encoder = { ready.encoder with pending := pending })
      (hencoder : s'.encoder = m.encoder.takeBack i none pic.inputTimeStamp)
      (hhistory : completed s'.history = completed m.history) :
      Submits driver i outIdx pic ready { error := some error } s'
  | rejected {error : String} {s' : Session}
      (hencoder : s'.encoder = ready.encoder.takeBack i
        (if ready.encoder.asyncMode then outIdx.filter fun idx => idx < kMaxOutputResources
          else none) pic.inputTimeStamp)
      (hhistory : completed s'.history = completed ready.history) :
      Submits driver i outIdx pic ready { error := some error } s'

theorem completed_append_quiet {history : List DriverEvent} {event : DriverEvent}
    (h : event.completed? = none) : completed (history ++ [event]) = completed history := by
  simp [completed, h]

theorem encodeSubmission_submits {i : Fin 8} {outIdx : Option Nat} {pic : PicParams}
    {answer : Answer} (hpending : s.encoder.pending ≠ [])
    (h : s.encodeSubmission driver i outIdx pic = (answer, s')) :
    Submits driver i outIdx pic s answer s' := by
  obtain ⟨head, pending, hpending⟩ := List.exists_cons_of_ne_nil hpending
  unfold Session.encodeSubmission at h
  dsimp only at h
  generalize hlogged : s.log (.encoded pic (driver.encodePicture s.history pic)) = logged at h
  have hencoder : logged.encoder = s.encoder := by
    rw [← hlogged]
    rfl
  split at h
  · next hstatus =>
    rw [hstatus] at hlogged
    split at h
    · next hasync =>
      obtain ⟨rfl, rfl⟩ := Prod.mk.inj h
      rw [← hlogged]
      exact .submitted (hencoder ▸ hasync)
    · next hsync =>
      rw [hencoder, Bool.not_eq_true] at hsync
      rcases lock_cases driver false (hencoder ▸ hpending) with
        ⟨status, error, m, hresult, _, hsame, hdrains⟩ | ⟨error, m, hresult, hdrains, hlost⟩ |
        ⟨packet, m, hresult, hdrains⟩
      · rw [hresult] at h
        obtain ⟨rfl, rfl⟩ := Prod.mk.inj h
        rw [← hlogged] at hdrains
        exact .unconsumed hsync hdrains (.inl ⟨rfl, hsame.trans hencoder⟩) rfl
          (completed_append_quiet rfl)
      · rw [hresult] at h
        obtain ⟨rfl, rfl⟩ := Prod.mk.inj h
        rw [hencoder] at hlost
        rw [← hlogged] at hdrains
        exact .unconsumed hsync hdrains (.inr ⟨head, pending, hpending, rfl, hlost⟩) rfl
          (completed_append_quiet rfl)
      · rw [hresult] at h
        obtain ⟨rfl, rfl⟩ := Prod.mk.inj h
        rw [← hlogged] at hdrains
        exact .consumed hsync hdrains
  · next hstatus =>
    obtain ⟨rfl, rfl⟩ := Prod.mk.inj h
    rw [← hlogged, hstatus]
    exact .buffered
  · next status hnot hmore =>
    obtain ⟨rfl, rfl⟩ := Prod.mk.inj h
    have hcompleted : completed logged.history = completed s.history := by
      rw [← hlogged, completed_log]
      exact List.append_nil _
    have hasync : (logged.cleanUpSlot i).encoder.asyncMode = s.encoder.asyncMode := by
      rw [← hencoder]
      rfl
    have hunmapped : completed (logged.cleanUpSlot i).history = completed s.history :=
      (completed_append_quiet rfl).trans hcompleted
    rw [hasync]
    refine .rejected ?_ ?_
    · rw [← hencoder]
      cases logged.encoder.asyncMode with
      | false => rfl
      | true => cases outIdx.filter fun idx => idx < kMaxOutputResources <;> rfl
    · rw [← hunmapped]
      split <;> rfl

/-- A submission ends in front of the driver, or as `Submits` says. -/
theorem submitFrame_cases {i : Fin 8} {ptsNs : UInt64} {width height : UInt32}
    {outIdx : Option Nat} {answer : Answer}
    (h : s.submitFrame driver i ptsNs width height outIdx = (answer, s')) :
    (∃ error event, answer = { error := some error } ∧ s' = s.log event ∧ event.Quiet) ∨
      ∃ event resource, event.Quiet ∧
        Submits driver i outIdx
          ((s.log event).submission i ptsNs width height resource outIdx).1
          ((s.log event).submission i ptsNs width height resource outIdx).2 answer s' := by
  unfold Session.submitFrame at h
  rcases hmap : driver.mapInputResource s.history i with ⟨status, resource⟩
  rw [hmap] at h
  dsimp only at h
  split at h
  · obtain ⟨rfl, rfl⟩ := Prod.mk.inj h
    exact .inl ⟨_, _, rfl, rfl, ⟨rfl, rfl⟩⟩
  · refine .inr ⟨.mapped i status resource, resource, ⟨rfl, rfl⟩,
      encodeSubmission_submits ?_ h⟩
    exact List.append_ne_nil_of_right_ne_nil _ (List.cons_ne_nil _ _)

/-! ## `EncodeFrame` -/

/-- The output buffer of a submission: a free one of the ring, or none in sync mode. -/
def NvencEncoder.Offers (e : NvencEncoder) (outIdx : Option Nat) : Prop :=
  outIdx.isSome = e.asyncMode ∧ ∀ idx ∈ outIdx, idx < e.activeDepth ∧ e.outputs idx = false

/-- The ends of `EncodeFrame`: its argument is refused, no output buffer comes free, the slot is
    not mapped, or the submission ends as `Submits` says. Only the last can succeed. -/
inductive Encodes (driver : Driver) (slotIdx : Int) (ptsNs : UInt64) (width height : UInt32)
    (s : Session) : Answer → Session → Prop where
  | refused {error : String} :
      Encodes driver slotIdx ptsNs width height s { error := some error } s
  | starved {error : String} {packets : List EncodedVideoPacket} {lost : List PendingFrame}
      {s' : Session} (hdrains : Drains driver s packets lost s') :
      Encodes driver slotIdx ptsNs width height s { packets := packets, error := some error } s'
  | unmapped {error : String} {packets : List EncodedVideoPacket} {s' : Session}
      (hdrains : Drains driver s packets [] s') :
      Encodes driver slotIdx ptsNs width height s { packets := packets, error := some error } s'
  | ended {i : Fin 8} {packets : List EncodedVideoPacket} {m s' : Session}
      {resource outIdx : Option Nat} {answer : Answer}
      (hslot : NvencEncoder.slotOf? slotIdx = some i) (hdrains : Drains driver s packets [] m)
      (hsync : s.encoder.asyncMode = false →
        packets = [] ∧ ∃ event : DriverEvent, event.Quiet ∧ m = s.log event)
      (hoffers : m.encoder.Offers outIdx)
      (hsubmits : Submits driver i outIdx
        (m.submission i ptsNs width height resource outIdx).1
        (m.submission i ptsNs width height resource outIdx).2 answer s') :
      Encodes driver slotIdx ptsNs width height s
        { answer with packets := packets ++ answer.packets } s'

theorem encodeFrame_encodes {slotIdx : Int} {ptsNs : UInt64} {width height : UInt32} {n : Nat}
    {answer : Answer} (h : s.encodeFrame driver slotIdx ptsNs width height n = some (answer, s')) :
    Encodes driver slotIdx ptsNs width height s answer s' := by
  unfold Session.encodeFrame at h
  split at h
  · obtain ⟨rfl, rfl⟩ := Prod.mk.inj (Option.some.inj h)
    exact .refused
  · next i hslot =>
    split at h
    · obtain ⟨rfl, rfl⟩ := Prod.mk.inj (Option.some.inj h)
      exact .refused
    · split at h
      · next hasync =>
        split at h
        · exact nomatch h
        · next packets error m hclaim =>
          obtain ⟨rfl, rfl⟩ := Prod.mk.inj (Option.some.inj h)
          rcases claimOutputSlot_drains n hclaim with ⟨_, hok, _⟩ | ⟨_, lost, _, hdrains⟩
          · exact nomatch hok
          · exact .starved hdrains
        · next packets idx m hclaim =>
          rcases claimOutputSlot_drains n hclaim with
            ⟨_, hok, hdrains, hidx⟩ | ⟨_, _, herror, _⟩
          · obtain rfl := Except.ok.inj hok
            have hasync' : m.encoder.asyncMode = true := hdrains.frame.asyncMode.trans hasync
            generalize hsubmit : m.submitFrame driver i ptsNs width height (some idx) = r at h
            obtain ⟨answer', m'⟩ := r
            obtain ⟨rfl, rfl⟩ := Prod.mk.inj (Option.some.inj h)
            rcases submitFrame_cases hsubmit with ⟨error, event, rfl, rfl, hquiet⟩ |
              ⟨event, resource, hquiet, hsubmits⟩
            · rw [List.append_nil]
              have hquieted := hdrains.trans (.one_quiet hquiet)
              rw [List.append_nil] at hquieted
              exact .unmapped hquieted
            · have hquieted := hdrains.trans (.one_quiet hquiet)
              rw [List.append_nil] at hquieted
              have hoffers : (m.log event).encoder.Offers (some idx) :=
                ⟨hasync'.symm, fun j hj => Option.some.inj hj ▸ hidx⟩
              exact .ended hslot hquieted (fun hsync => nomatch hasync.symm.trans hsync) hoffers
                hsubmits
          · exact nomatch herror
      · next hsync =>
        rw [Bool.not_eq_true] at hsync
        generalize hsubmit : s.submitFrame driver i ptsNs width height none = r at h
        obtain ⟨answer', m'⟩ := r
        obtain ⟨rfl, rfl⟩ := Prod.mk.inj (Option.some.inj h)
        rcases submitFrame_cases hsubmit with ⟨error, event, rfl, rfl, hquiet⟩ |
          ⟨event, resource, hquiet, hsubmits⟩
        · exact .unmapped (.one_quiet hquiet)
        · have hoffers : (s.log event).encoder.Offers none := ⟨hsync.symm, nofun⟩
          exact .ended hslot (.one_quiet hquiet) (fun _ => ⟨rfl, event, hquiet, rfl⟩) hoffers
            hsubmits

end

end Exosnap.Engine.Nvenc
