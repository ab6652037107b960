/-
  The encoder in the hands of its caller.

  A `Caller` keeps what the video thread keeps: the slots it acquired and has neither submitted nor
  released, the timestamps it submitted, the packets it got. It submits and releases only slots
  that it holds (`Permitted`). A run is a list of calls that all succeed.
-/
import Exosnap.Engine.NvencOwnership
import Exosnap.Lib.StepRun
import Mathlib.Algebra.GroupWithZero.Nat

namespace Exosnap.Engine.Nvenc

structure Caller where
  session : Session
  held : Finset (Fin 8) := ∅
  submitted : List UInt64 := []
  packets : List EncodedVideoPacket := []

namespace Caller

/-- Behind `InitEncoder` and `CreateBitstreamBuffer`. -/
def start (asyncMode : Bool) (activeDepth : Fin (kMaxOutputResources + 1))
    (gopDurationNs frameIntervalNs : UInt64) : Caller :=
  { session := { encoder :=
      { asyncMode := asyncMode, activeDepth := activeDepth, gopDurationNs := gopDurationNs,
        frameIntervalNs := frameIntervalNs } } }

/-- A slot that is submitted or released was acquired before. -/
def Permitted (held : Finset (Fin 8)) : Call → Prop
  | .releaseSlot slotIdx => ∀ i ∈ NvencEncoder.slotOf? slotIdx, i ∈ held
  | .encodeFrame slotIdx _ _ _ => ∀ i ∈ NvencEncoder.slotOf? slotIdx, i ∈ held
  | _ => True

instance (held : Finset (Fin 8)) : (call : Call) → Decidable (Permitted held call)
  | .releaseSlot slotIdx =>
      inferInstanceAs (Decidable (∀ i ∈ NvencEncoder.slotOf? slotIdx, i ∈ held))
  | .encodeFrame slotIdx _ _ _ =>
      inferInstanceAs (Decidable (∀ i ∈ NvencEncoder.slotOf? slotIdx, i ∈ held))
  | .acquireFreeSlot => isTrue trivial
  | .requestKeyframe => isTrue trivial
  | .reapCompleted _ => isTrue trivial
  | .flush => isTrue trivial

/-- The slots held behind a call that succeeded. -/
def heldAfter (held : Finset (Fin 8)) (answer : Answer) : Call → Finset (Fin 8)
  | .acquireFreeSlot => answer.slot.elim held fun i => insert i held
  | .releaseSlot slotIdx => (NvencEncoder.slotOf? slotIdx).elim held held.erase
  | .encodeFrame slotIdx _ _ _ => (NvencEncoder.slotOf? slotIdx).elim held held.erase
  | _ => held

def submittedBy : Call → List UInt64
  | .encodeFrame _ ptsNs _ _ => [ptsNs]
  | _ => []

/-- A call with its fuel, where it is permitted, returns and succeeds. -/
def step (driver : Driver) (c : Caller) (a : Call × Nat) : Option Caller :=
  if Permitted c.held a.1 then
    match c.session.call driver a.2 a.1 with
    | some (answer, s') =>
        if answer.error = none then
          some
            { session := s'
              held := heldAfter c.held answer a.1
              submitted := c.submitted ++ submittedBy a.1
              packets := c.packets ++ answer.packets }
        else none
    | none => none
  else none

end Caller

open Caller

section
variable {driver : Driver} {c c' : Caller} {a : Call × Nat}

theorem step_some (h : c.step driver a = some c') :
    ∃ answer s', Permitted c.held a.1 ∧ c.session.call driver a.2 a.1 = some (answer, s') ∧
      answer.error = none ∧
      c' = { session := s', held := heldAfter c.held answer a.1,
             submitted := c.submitted ++ submittedBy a.1,
             packets := c.packets ++ answer.packets } := by
  unfold Caller.step at h
  split at h
  · next hpermitted =>
    split at h
    · next answer s' hcall =>
      split at h
      · next herror => exact ⟨answer, s', hpermitted, hcall, herror, (Option.some.inj h).symm⟩
      · exact nomatch h
    · exact nomatch h
  · exact nomatch h

/-! ## Timestamps handed out -/

/-- The outputs name the timestamps from `first` on. -/
def EchoesFrom : UInt64 → List LockBitstream → Prop
  | _, [] => True
  | first, bitstream :: rest => bitstream.outputTimeStamp = first ∧ EchoesFrom (first + 1) rest

instance decEchoesFrom : (first : UInt64) → (outputs : List LockBitstream) →
    Decidable (EchoesFrom first outputs)
  | _, [] => isTrue trivial
  | first, _ :: rest => @instDecidableAnd _ _ _ (decEchoesFrom (first + 1) rest)

/-- The timestamp of the oldest pending frame, of the next one where there is none. -/
def NvencEncoder.oldestStamp (e : NvencEncoder) : UInt64 :=
  (e.pending.head?.map (·.inputTs)).getD e.frameIdx

/-- What the driver handed out between two states. -/
def handedOut (s s' : Session) : List LockBitstream :=
  (completed s'.history).drop (completed s.history).length

/-- Every output of a call names the frame that it belongs to. -/
def Echoed (s s' : Session) : Prop := EchoesFrom s.encoder.oldestStamp (handedOut s s')

instance (s s' : Session) : Decidable (Echoed s s') :=
  inferInstanceAs (Decidable (EchoesFrom _ _))

theorem Consecutive.oldestStamp {e : NvencEncoder} {first : UInt64}
    (h : Consecutive first (e.pending.map (·.inputTs)) e.frameIdx) : e.oldestStamp = first := by
  unfold NvencEncoder.oldestStamp
  cases hpending : e.pending with
  | nil =>
    rw [hpending] at h
    exact Eq.symm h
  | cons p pending =>
    rw [hpending] at h
    exact h.1

theorem retire_completed (s : Session) (p : PendingFrame) (pending : List PendingFrame)
    (bitstream : LockBitstream) :
    completed (s.retire p pending bitstream).history = completed s.history := by
  unfold Session.retire
  dsimp only
  generalize hset : s.setEncoder _ = m
  have hm : completed (m.freeSlot p.slotIdx).history = completed s.history := by
    rw [← hset]
    unfold Session.freeSlot
    dsimp only
    split
    · exact completed_append_quiet rfl
    · rfl
  split
  · exact hm
  · exact hm

theorem lockedWith_completed (s : Session) (bitstream : LockBitstream) :
    completed (s.lockedWith bitstream).history = completed s.history ++ [bitstream] :=
  completed_log s _

/-- A drain loses no frame exactly when its outputs name the frames in order. -/
theorem Drains.echoes {s s' : Session} {packets : List EncodedVideoPacket}
    {lost : List PendingFrame} (h : Drains driver s packets lost s') :
    ∀ {first next : UInt64}, Consecutive first (s.encoder.pending.map (·.inputTs)) next →
      ∃ outputs, completed s'.history = completed s.history ++ outputs ∧
        (EchoesFrom first outputs ↔ lost = []) := by
  induction h with
  | done s =>
    intro first next _
    exact ⟨[], (List.append_nil _).symm, iff_of_true trivial rfl⟩
  | @quiet s _ _ _ event hquiet _ ih =>
    intro first next hstamps
    have hlogged : Consecutive first ((s.log event).encoder.pending.map (·.inputTs)) next := hstamps
    obtain ⟨outputs, hcompleted, hecho⟩ := ih hlogged
    refine ⟨outputs, ?_, hecho⟩
    rw [hcompleted, completed_log, hquiet.2]
    exact congrArg (· ++ outputs) (List.append_nil _)
  | turn cursor _ ih => exact fun hstamps => ih hstamps
  | @take s _ _ _ p pending _ bitstream hpending hlock hmatch _ ih =>
    intro first next hstamps
    rw [hpending] at hstamps
    have hretired : Consecutive (first + 1)
        (((s.lockedWith bitstream).retire p pending bitstream).encoder.pending.map (·.inputTs))
        next := by
      rw [retire_pending]
      exact hstamps.tail
    obtain ⟨outputs, hcompleted, hecho⟩ := ih hretired
    refine ⟨bitstream :: outputs, ?_, ?_⟩
    · rw [hcompleted, retire_completed, lockedWith_completed, List.append_assoc]
      rfl
    · rw [← hecho]
      exact and_iff_right (hmatch.trans hstamps.1)
  | @lose s _ _ _ p pending _ bitstream hpending hlock hmatch _ ih =>
    intro first next hstamps
    rw [hpending] at hstamps
    have hleft : Consecutive (first + 1)
        (((s.lockedWith bitstream).lose pending).encoder.pending.map (·.inputTs)) next :=
      hstamps.tail
    obtain ⟨outputs, hcompleted, _⟩ := ih hleft
    refine ⟨bitstream :: outputs, ?_, iff_of_false (fun hecho => ?_) nofun⟩
    · have hlocked : completed ((s.lockedWith bitstream).lose pending).history =
          completed s.history ++ [bitstream] := lockedWith_completed s bitstream
      rw [hcompleted, hlocked, List.append_assoc]
      rfl
    · exact hmatch (hecho.1.trans hstamps.1.symm)

theorem Drains.echoed_iff {s s' : Session} {held : Finset (Fin 8)} {gone : List PendingFrame}
    {packets : List EncodedVideoPacket} {lost : List PendingFrame}
    (h : Drains driver s packets lost s') (hI : Inv s.encoder held gone) :
    Echoed s s' ↔ lost = [] := by
  obtain ⟨first, hstamps⟩ := hI.stamps
  obtain ⟨outputs, hcompleted, hecho⟩ := h.echoes hstamps
  rw [Echoed, handedOut, hcompleted, List.drop_left, hstamps.oldestStamp]
  exact hecho

/-! ## Calls that succeed -/

/-- `ReapCompleted` and `Flush` drain. The sync flush alone can succeed over a lost frame. -/
theorem reapCompleted_drains {s s' : Session} {waitHeadMs : UInt32} {n : Nat} {answer : Answer}
    (h : s.reapCompleted driver waitHeadMs n = some (answer, s')) :
    ∃ lost, Drains driver s answer.packets lost s' ∧ (answer.error = none → lost = []) := by
  unfold Session.reapCompleted at h
  split at h
  · exact reapLoop_drains n h
  · obtain ⟨rfl, rfl⟩ := Prod.mk.inj (Option.some.inj h)
    exact ⟨[], .done s, fun _ => rfl⟩

theorem flush_drains {s s' : Session} {n : Nat} {answer : Answer}
    (h : s.flush driver n = some (answer, s')) :
    ∃ packets lost m count, Drains driver s packets lost m ∧
      s' = m.setEncoder { m.encoder with needMoreInputCount := count } ∧
      (lost = [] → answer.packets = packets) ∧
      (answer.error = none → count = 0 ∧ (m.encoder.pending = [] ∨ s.encoder.asyncMode = false ∧
        packets.length + lost.length = s.encoder.needMoreInputCount)) := by
  unfold Session.flush at h
  dsimp only at h
  generalize hlogged : s.log (.ended (driver.encodeEos s.history)) = logged at h
  have hquiet : Drains driver s [] [] logged := hlogged ▸ .one_quiet ⟨rfl, rfl⟩
  have hsame : logged.encoder = s.encoder := by
    rw [← hlogged]
    rfl
  split at h
  · obtain ⟨rfl, rfl⟩ := Prod.mk.inj (Option.some.inj h)
    exact ⟨[], [], logged, logged.encoder.needMoreInputCount, hquiet, rfl, fun _ => rfl, nofun⟩
  · obtain ⟨⟨answer', m⟩, hdrained, heq⟩ := Option.map_eq_some_iff.mp h
    obtain ⟨rfl, rfl⟩ := Prod.mk.inj heq
    split at hdrained
    · obtain ⟨lost, hdrains, herror⟩ := flushAsyncLoop_drains n hdrained
      exact ⟨_, lost, m, 0, hquiet.trans hdrains, rfl, fun _ => rfl,
        fun hnone => ⟨rfl, .inl (herror hnone).2⟩⟩
    · next hsync =>
      rw [hsame, Bool.not_eq_true] at hsync
      obtain ⟨packets, lost, hdrains, hpackets, hstopped⟩ := flushLoop_drains n hdrained
      refine ⟨packets, lost, m, 0, hquiet.trans hdrains, rfl, hpackets, fun hnone => ?_⟩
      rcases hstopped hnone with hcount | hempty
      · rw [hsame] at hcount
        exact ⟨rfl, .inr ⟨hsync, hcount⟩⟩
      · exact ⟨rfl, .inl hempty⟩

/-- A submission that succeeds, with the frames that the wait for a buffer took before. -/
theorem encodes_ok {s s' : Session} {slotIdx : Int} {ptsNs : UInt64} {width height : UInt32}
    {answer : Answer} (h : Encodes driver slotIdx ptsNs width height s answer s')
    (hok : answer.error = none) :
    ∃ i packets m resource outIdx answer', NvencEncoder.slotOf? slotIdx = some i ∧
      Drains driver s packets [] m ∧
      (s.encoder.asyncMode = false →
        packets = [] ∧ ∃ event : DriverEvent, event.Quiet ∧ m = s.log event) ∧
      m.encoder.Offers outIdx ∧ answer'.error = none ∧
      answer.packets = packets ++ answer'.packets ∧
      Submits driver i outIdx (m.submission i ptsNs width height resource outIdx).1
        (m.submission i ptsNs width height resource outIdx).2 answer' s' := by
  cases h with
  | refused => exact nomatch hok
  | starved hdrains => exact nomatch hok
  | unmapped hdrains => exact nomatch hok
  | @ended i packets m _ resource outIdx answer' hslot hdrains hsync hoffers hsubmits =>
    exact ⟨i, packets, m, resource, outIdx, answer', hslot, hdrains, hsync, hoffers, hok, rfl,
      hsubmits⟩

theorem Inv.submits {i : Fin 8} {outIdx : Option Nat} {pic : PicParams} {ready s' : Session}
    {answer : Answer} {held : Finset (Fin 8)} (hI : Inv ready.encoder held [])
    (h : Submits driver i outIdx pic ready answer s') (hok : answer.error = none) :
    Inv s'.encoder held [] := by
  cases h with
  | submitted hasync => exact hI
  | buffered => exact hI.congr rfl rfl rfl rfl rfl rfl
  | consumed hasync hdrains => exact Inv.drains hdrains hI
  | unconsumed => exact nomatch hok
  | rejected => exact nomatch hok

/-- The rings stay consistent over a call that succeeds. A flush does so where its outputs name
    their frames. -/
theorem step_inv (hI : Inv c.session.encoder c.held []) (h : c.step driver a = some c')
    (hecho : a.1 = .flush → Echoed c.session c'.session) : Inv c'.session.encoder c'.held [] := by
  obtain ⟨answer, s', hpermitted, hcall, hok, rfl⟩ := step_some h
  obtain ⟨call, n⟩ := a
  cases call with
  | acquireFreeSlot =>
    obtain ⟨rfl, rfl⟩ := Prod.mk.inj (Option.some.inj hcall)
    cases hslot : c.session.encoder.acquireFreeSlot.1 with
    | none =>
      show Inv c.session.encoder.acquireFreeSlot.2 (c.session.encoder.acquireFreeSlot.1.elim _ _) []
      rw [hslot, acquireFreeSlot_none hslot]
      exact hI
    | some i =>
      show Inv c.session.encoder.acquireFreeSlot.2 (c.session.encoder.acquireFreeSlot.1.elim _ _) []
      rw [hslot]
      exact hI.acquire hslot
  | releaseSlot slotIdx =>
    obtain ⟨rfl, rfl⟩ := Prod.mk.inj (Option.some.inj hcall)
    show Inv (c.session.releaseSlot slotIdx).encoder
      ((NvencEncoder.slotOf? slotIdx).elim c.held c.held.erase) []
    unfold Session.releaseSlot
    cases hslot : NvencEncoder.slotOf? slotIdx with
    | none => exact hI
    | some i => exact hI.release (hpermitted i hslot)
  | requestKeyframe =>
    obtain ⟨rfl, rfl⟩ := Prod.mk.inj (Option.some.inj hcall)
    exact hI.congr rfl rfl rfl rfl rfl rfl
  | encodeFrame slotIdx ptsNs width height =>
    obtain ⟨i, packets, m, resource, outIdx, answer', hslot, hdrains, _, hoffers, hok', _,
      hsubmits⟩ := encodes_ok (encodeFrame_encodes hcall) hok
    have hready := (Inv.drains hdrains hI).submission (hpermitted i hslot) ptsNs width height
      resource hoffers
    show Inv s'.encoder ((NvencEncoder.slotOf? slotIdx).elim c.held c.held.erase) []
    rw [hslot]
    exact hready.submits hsubmits hok'
  | reapCompleted waitHeadMs =>
    obtain ⟨lost, hdrains, hlost⟩ := reapCompleted_drains hcall
    rw [hlost hok] at hdrains
    exact Inv.drains hdrains hI
  | flush =>
    obtain ⟨packets, lost, m, count, hdrains, rfl, _, _⟩ := flush_drains hcall
    have hnone : lost = [] := (hdrains.echoed_iff hI).mp (hecho rfl)
    rw [hnone] at hdrains
    exact (Inv.drains hdrains hI).congr rfl rfl rfl rfl rfl rfl

theorem start_inv (asyncMode : Bool) (activeDepth : Fin (kMaxOutputResources + 1))
    (gopDurationNs frameIntervalNs : UInt64) :
    Inv (start asyncMode activeDepth gopDurationNs frameIntervalNs).session.encoder ∅ [] where
  owned := ⟨.empty, .empty, .empty⟩
  inRing := nofun
  stamps := ⟨0, rfl⟩

end

end Exosnap.Engine.Nvenc
