/-
  The slots behind a call that failed.

  Every exit of a failing call gives back what it took or leaves it with its pending frame, but
  one: `LockAndConsumeBitstream` removes the oldest frame from the FIFO, sees a foreign timestamp
  and returns in front of the release of that frame's slot and buffer. Only where the frame is the
  one just submitted does `EncodeFrame` clear its slot behind it. So the rings are consistent
  exactly when every output of the call named its frame, or nothing was pending before it
  (`failed_call_consistent_iff`).
-/
import Exosnap.Engine.NvencCaller

namespace Exosnap.Engine.Nvenc

open SlotQueue Caller

/-! ## Consistent rings -/

/-- What is marked has one owner, and what a pending frame names is mapped. -/
structure Consistent (e : NvencEncoder) (held : Finset (Fin 8)) : Prop where
  slots : ∀ i, (e.slots i).mapped = true ∨ (e.slots i).inFlight = true →
    (e.pending.map (·.slotIdx)).count i = 1 ∨ i ∈ held ∧ (e.slots i).mapped = false
  outputs : ∀ idx, e.outputs idx = true → ∃ p ∈ e.pending, p.outIdx = some idx
  mapped : ∀ p ∈ e.pending, (e.slots p.slotIdx).mapped = true

/-- Marks that are right are consistent with the FIFO when no frame is missing in it. -/
theorem Owned.consistent_iff {e : NvencEncoder} {held held' : Finset (Fin 8)}
    {lost : List PendingFrame} (h : Owned e held' (e.pending ++ lost)) (hheld : held' ⊆ held) :
    Consistent e held ↔ lost = [] := by
  constructor
  · intro hconsistent
    by_contra hne
    obtain ⟨p, rest, rfl⟩ := List.exists_cons_of_ne_nil hne
    have hqueue : p.slotIdx ∈ (e.pending ++ p :: rest).map (·.slotIdx) :=
      List.mem_map_of_mem (List.mem_append_right _ List.mem_cons_self)
    have hmapped : (e.slots p.slotIdx).mapped = true := (h.mapped.marked _).mpr (.inr hqueue)
    have hnodup := h.mapped.nodup
    rw [List.map_append, List.map_cons] at hnodup
    rcases hconsistent.slots p.slotIdx (.inl hmapped) with hcount | ⟨_, hclear⟩
    · have hpending := List.count_pos_iff.mp (hcount ▸ Nat.zero_lt_one)
      exact (List.disjoint_of_nodup_append hnodup) hpending List.mem_cons_self
    · exact nomatch hmapped.symm.trans hclear
  · rintro rfl
    rw [List.append_nil] at h
    refine ⟨fun i hmark => ?_, fun idx hidx => ?_, fun p hp => ?_⟩
    · by_cases hqueue : i ∈ e.pending.map (·.slotIdx)
      · exact .inl (List.count_eq_one_of_mem h.mapped.nodup hqueue)
      · have hclear : (e.slots i).mapped = false := by
          rw [Bool.eq_false_iff]
          intro hmapped
          rcases (h.mapped.marked i).mp hmapped with hnone | hin
          · exact absurd hnone (Finset.notMem_empty i)
          · exact hqueue hin
        rcases hmark with hmapped | hflight
        · exact nomatch hmapped.symm.trans hclear
        · rcases (h.inFlight.marked i).mp hflight with hin | hin
          · exact .inr ⟨hheld hin, hclear⟩
          · exact absurd hin hqueue
    · rcases (h.outputs.marked idx).mp hidx with hnone | hin
      · exact absurd hnone (Finset.notMem_empty idx)
      · obtain ⟨p, hp, hout⟩ := List.mem_filterMap.mp hin
        exact ⟨p, hp, hout⟩
    · exact (h.mapped.marked _).mpr (.inr (List.mem_map_of_mem hp))

/-! ## Taking back a submission -/

section
variable {driver : Driver} {s s' : Session} {e : NvencEncoder} {held : Finset (Fin 8)}
  {pending lost : List PendingFrame} {own : PendingFrame}

theorem Consecutive.last_not_mem {ts : List UInt64} {t next : UInt64} :
    ∀ {first : UInt64}, Consecutive first (ts ++ [t]) next → ts.length < 2 ^ 64 → t ∉ ts := by
  have hinit : ∀ {ts : List UInt64} {first : UInt64}, Consecutive first (ts ++ [t]) next →
      Consecutive first ts t := by
    intro ts
    induction ts with
    | nil => exact fun h => Eq.symm h.1
    | cons u ts ih => exact fun h => ⟨h.1, ih h.2⟩
  exact fun {first} h hlen => (hinit h).next_not_mem hlen

/-- The newest entry alone has its timestamp. -/
theorem Inv.discard (h : Inv e held lost) (hpending : e.pending = pending ++ [own]) :
    discardRejectedSubmission e.pending own.inputTs = pending := by
  obtain ⟨first, hstamps⟩ := h.stamps
  have hcard := h.owned.mapped.length_le
  rw [hpending, List.map_append] at hstamps
  rw [hpending] at hcard
  have hlen : (pending.map (·.inputTs)).length < 2 ^ 64 := by
    simp only [List.length_map, List.length_append, Fintype.card_fin] at hcard ⊢
    omega
  have hnew := hstamps.last_not_mem hlen
  rw [discardRejectedSubmission, hpending, List.filter_append, List.filter_eq_self.mpr ?_,
    List.filter_cons_of_neg (by simp)]
  · exact List.append_nil pending
  · intro p hp
    have hmem : p.inputTs ∈ pending.map (·.inputTs) := List.mem_map_of_mem hp
    have hne : p.inputTs ≠ own.inputTs := fun heq => hnew (by rwa [heq] at hmem)
    simpa using hne

/-- Taken back, a submission leaves the frames in front of it and what is lost. -/
theorem Inv.takeBack (h : Inv e held lost) (hpending : e.pending = pending ++ [own]) :
    Owned (e.takeBack own.slotIdx own.outIdx own.inputTs) held
      ((e.takeBack own.slotIdx own.outIdx own.inputTs).pending ++ lost) := by
  have hown := h.owned
  have hdiscard := h.discard hpending
  rw [hpending, List.append_assoc] at hown
  have hperm : (pending ++ ([own] ++ lost)).Perm (own :: (pending ++ lost)) := List.perm_middle
  have houtputs : (e.takeBack own.slotIdx own.outIdx own.inputTs).outputs =
      clearOutput e.outputs own.outIdx := by
    cases hidx : own.outIdx <;> rfl
  have hleft : (e.takeBack own.slotIdx own.outIdx own.inputTs).pending = pending := hdiscard
  rw [hleft]
  exact (hown.perm hperm).free rfl rfl rfl houtputs

/-! ## The ends of a failed call -/

/-- What a failed call leaves: the marks of the frames still pending and of those lost, and lost
    frames exactly when an output named a foreign timestamp in front of a pending frame. -/
def FailsOwned (s : Session) (held : Finset (Fin 8)) (s' : Session) : Prop :=
  ∃ held' lost, held' ⊆ held ∧ Owned s'.encoder held' (s'.encoder.pending ++ lost) ∧
    (lost = [] ↔ Echoed s s' ∨ s.encoder.pending = [])

theorem FailsOwned.consistent_iff (h : FailsOwned s held s') :
    Consistent s'.encoder held ↔ Echoed s s' ∨ s.encoder.pending = [] := by
  obtain ⟨held', lost, hheld, hown, hlost⟩ := h
  rw [hown.consistent_iff hheld, hlost]

/-- Draining: every lost frame was pending. -/
theorem Drains.failsOwned {packets : List EncodedVideoPacket} (h : Drains driver s packets lost s')
    (hI : Inv s.encoder held []) : FailsOwned s held s' := by
  have hdrained := Inv.drains h hI
  rw [List.append_nil] at hdrained
  refine ⟨held, lost.reverse, Finset.Subset.refl held, hdrained.owned, ?_⟩
  rw [List.reverse_eq_nil_iff, h.echoed_iff hI]
  refine ⟨.inl, fun hor => hor.elim id fun hempty => ?_⟩
  have hlength := h.length
  rw [hempty] at hlength
  simp only [List.length_nil] at hlength
  exact List.length_eq_zero_iff.mp (by omega)

/-- The frame just submitted is the only one of the FIFO, and is lost: its slot is cleared. -/
theorem Owned.takeBack_lost (h : Owned e held [own]) (hpending : e.pending = []) :
    Owned (e.takeBack own.slotIdx own.outIdx own.inputTs) held
      ((e.takeBack own.slotIdx own.outIdx own.inputTs).pending ++ []) := by
  have houtputs : (e.takeBack own.slotIdx own.outIdx own.inputTs).outputs =
      clearOutput e.outputs own.outIdx := by
    cases hidx : own.outIdx <;> rfl
  have hleft : (e.takeBack own.slotIdx own.outIdx own.inputTs).pending = [] := by
    show discardRejectedSubmission e.pending own.inputTs = []
    rw [hpending]
    rfl
  rw [hleft]
  exact h.free rfl rfl rfl houtputs

/-- Outputs handed out between other states, with the same oldest frame. -/
theorem echoed_congr {m ready : Session}
    (holdest : ready.encoder.oldestStamp = s.encoder.oldestStamp)
    (hstart : completed ready.history = completed s.history)
    (hend : completed s'.history = completed m.history) : Echoed ready m ↔ Echoed s s' := by
  unfold Echoed handedOut
  rw [holdest, hstart, hend]

/-- `ready` is `s` with the submission `own` at the end of the FIFO. -/
structure Extends (s ready : Session) (own : PendingFrame) : Prop where
  pending : ready.encoder.pending = s.encoder.pending ++ [own]
  stamp : own.inputTs = s.encoder.frameIdx
  asyncMode : ready.encoder.asyncMode = s.encoder.asyncMode
  history : completed ready.history = completed s.history

theorem Extends.oldestStamp {ready : Session} (h : Extends s ready own) :
    ready.encoder.oldestStamp = s.encoder.oldestStamp := by
  unfold NvencEncoder.oldestStamp
  rw [h.pending]
  cases s.encoder.pending with
  | nil => exact h.stamp
  | cons p pending => rfl

theorem extends_submission (s : Session) (i : Fin 8) (ptsNs : UInt64) (width height : UInt32)
    (resource outIdx : Option Nat) :
    Extends s (s.submission i ptsNs width height resource outIdx).2
      (s.encoder.entry i ptsNs outIdx) := ⟨rfl, rfl, rfl, rfl⟩

/-- A failed submission: the own frame is taken back, the oldest one is lost or not. -/
theorem submits_failsOwned {outIdx : Option Nat} {pic : PicParams} {ready : Session}
    {answer : Answer} (hext : Extends s ready own) (hready : Inv ready.encoder held [])
    (hout : own.outIdx = outIdx) (hpic : pic.inputTimeStamp = own.inputTs)
    (h : Submits driver own.slotIdx outIdx pic ready answer s') (hfail : answer.error ≠ none) :
    FailsOwned s held s' := by
  have hring := hready.inRing own (hext.pending ▸ List.mem_append_right _ List.mem_cons_self)
  cases h with
  | submitted => exact absurd rfl hfail
  | buffered => exact absurd rfl hfail
  | consumed => exact absurd rfl hfail
  | @unconsumed error m _ lost hsync hdrains hhead hencoder hhistory =>
    have hlogged : completed (ready.log (.encoded pic .success)).history = completed s.history := by
      rw [completed_log, hext.history]
      exact List.append_nil _
    have hsame : Echoed (ready.log (.encoded pic .success)) m ↔ Echoed s s' :=
      echoed_congr hext.oldestStamp hlogged hhistory
    have hecho : lost = [] ↔ Echoed s s' := by
      rw [← hsame]
      exact (hdrains.echoed_iff hready).symm
    have hnone : own.outIdx = none := by
      rw [← Option.not_isSome_iff_eq_none, hring.1, hsync]
      exact nofun
    have hm := Inv.drains hdrains hready
    rw [hpic, ← hnone] at hencoder
    rcases hhead with ⟨hlost, hsame⟩ | ⟨head, pending, hcons, hlost, hgone⟩
    · rw [hsame] at hencoder
      refine ⟨held, [], Finset.Subset.refl held, ?_, iff_of_true rfl (.inl (hecho.mp hlost))⟩
      rw [hencoder]
      exact hready.takeBack hext.pending
    · have hnot : ¬Echoed s s' := fun h => nomatch (hecho.mpr h).symm.trans hlost
      rw [hlost] at hm
      have hleft : m.encoder.pending = pending := by rw [hgone]
      have hsplit := hext.pending.symm.trans hcons
      cases hfront : s.encoder.pending with
      | nil =>
        -- The lost frame is the own one.
        rw [hfront, List.nil_append] at hsplit
        obtain ⟨rfl, rfl⟩ := List.cons.inj hsplit
        have hown := hm.owned
        rw [hleft] at hown
        refine ⟨held, [], Finset.Subset.refl held, ?_, iff_of_true rfl (.inr hfront)⟩
        rw [hencoder]
        exact Owned.takeBack_lost hown hleft
      | cons p front =>
        -- The lost frame is an older one.
        rw [hfront, List.cons_append] at hsplit
        obtain ⟨rfl, rfl⟩ := List.cons.inj hsplit
        refine ⟨held, [p], Finset.Subset.refl held, ?_,
          iff_of_false nofun fun hor => hor.elim hnot fun hempty => ?_⟩
        · rw [hencoder]
          exact hm.takeBack hleft
        · exact nomatch hfront.symm.trans hempty
  | rejected hencoder hhistory =>
    have hidx : (if ready.encoder.asyncMode then
        outIdx.filter fun idx => idx < kMaxOutputResources else none) = own.outIdx := by
      have hfilter := hring.outputOf?
      unfold NvencEncoder.outputOf? at hfilter
      rw [← hout, hfilter, ← hring.1]
      cases own.outIdx <;> rfl
    have hecho : Echoed s s' := by
      unfold Echoed handedOut
      rw [hhistory, hext.history, List.drop_length]
      trivial
    refine ⟨held, [], Finset.Subset.refl held, ?_, iff_of_true rfl (.inl hecho)⟩
    rw [hencoder, hidx, hpic]
    exact hready.takeBack hext.pending

theorem FailsOwned.mono {held' : Finset (Fin 8)} (h : FailsOwned s held' s')
    (hsub : held' ⊆ held) : FailsOwned s held s' := by
  obtain ⟨owned, lost, hheld, hown, hlost⟩ := h
  exact ⟨owned, lost, hheld.trans hsub, hown, hlost⟩

/-- Every end of `EncodeFrame` that fails. -/
theorem encodes_failsOwned {slotIdx : Int} {ptsNs : UInt64} {width height : UInt32}
    {answer : Answer} (h : Encodes driver slotIdx ptsNs width height s answer s')
    (hI : Inv s.encoder held []) (hheld : ∀ i ∈ NvencEncoder.slotOf? slotIdx, i ∈ held)
    (hfail : answer.error ≠ none) : FailsOwned s held s' := by
  cases h with
  | refused =>
    have hdone : Drains driver s [] [] s := .done s
    exact hdone.failsOwned hI
  | starved hdrains => exact hdrains.failsOwned hI
  | unmapped hdrains => exact hdrains.failsOwned hI
  | @ended i packets m _ resource outIdx answer' hslot hdrains hsync hoffers hsubmits =>
    have hm : Inv m.encoder held [] := Inv.drains hdrains hI
    have hready := hm.submission (hheld i hslot) ptsNs width height resource hoffers
    have hends := (submits_failsOwned (extends_submission m i ptsNs width height resource outIdx)
      hready rfl rfl hsubmits hfail).mono (Finset.erase_subset i held)
    obtain ⟨held', lost, hsub, hown, hlost⟩ := hends
    refine ⟨held', lost, hsub, hown, ?_⟩
    cases hasync : s.encoder.asyncMode with
    | false =>
      -- Nothing happened before the submission.
      obtain ⟨_, event, hquiet, rfl⟩ := hsync hasync
      have hquieted : completed (s.log event).history = completed s.history := by
        rw [completed_log, hquiet.2]
        exact List.append_nil _
      have hsame : Echoed (s.log event) s' ↔ Echoed s s' := echoed_congr rfl hquieted rfl
      rw [hlost, hsame]
      rfl
    | true =>
      -- Nothing is handed out behind the wait for a buffer.
      have hready' : m.encoder.asyncMode = true := hdrains.frame.asyncMode.trans hasync
      have hkept : completed s'.history = completed m.history := by
        cases hsubmits with
        | submitted => exact absurd rfl hfail
        | buffered => exact absurd rfl hfail
        | consumed => exact absurd rfl hfail
        | unconsumed hclear => exact nomatch hready'.symm.trans hclear
        | rejected _ hhistory => exact hhistory
      have hechoM : Echoed m s' := by
        unfold Echoed handedOut
        rw [hkept, List.drop_length]
        trivial
      have hechoS : Echoed s s' := (echoed_congr rfl rfl hkept).mp ((hdrains.echoed_iff hI).mpr rfl)
      exact iff_of_true (hlost.mpr (.inl hechoM)) (.inl hechoS)

/-- Every failing call from a state of the invariant. -/
theorem call_failsOwned {call : Call} {n : Nat} {answer : Answer} (hI : Inv s.encoder held [])
    (hpermitted : Permitted held call) (h : s.call driver n call = some (answer, s'))
    (hfail : answer.error ≠ none) : FailsOwned s held s' := by
  cases call with
  | acquireFreeSlot =>
    obtain ⟨rfl, rfl⟩ := Prod.mk.inj (Option.some.inj h)
    exact absurd rfl hfail
  | releaseSlot slotIdx =>
    obtain ⟨rfl, rfl⟩ := Prod.mk.inj (Option.some.inj h)
    exact absurd rfl hfail
  | requestKeyframe =>
    obtain ⟨rfl, rfl⟩ := Prod.mk.inj (Option.some.inj h)
    exact absurd rfl hfail
  | encodeFrame slotIdx ptsNs width height =>
    exact encodes_failsOwned (encodeFrame_encodes h) hI hpermitted hfail
  | reapCompleted waitHeadMs =>
    obtain ⟨lost, hdrains, _⟩ := reapCompleted_drains h
    exact hdrains.failsOwned hI
  | flush =>
    obtain ⟨packets, lost, m, count, hdrains, rfl, _, _⟩ := flush_drains h
    obtain ⟨held', lost', hsub, hown, hlost⟩ := hdrains.failsOwned hI
    exact ⟨held', lost', hsub, ⟨hown.inFlight, hown.mapped, hown.outputs⟩, hlost⟩

/-! ## Runs -/

/-- A step of the caller whose outputs name their frames. -/
def EchoedStep (driver : Driver) (c : Caller) (a : Call × Nat) : Prop :=
  ∀ c' ∈ c.step driver a, Echoed c.session c'.session

instance (driver : Driver) (c : Caller) (a : Call × Nat) : Decidable (EchoedStep driver c a) :=
  inferInstanceAs (Decidable (∀ c' ∈ c.step driver a, Echoed c.session c'.session))

/-- The rings behind a failed call, in any state that calls which succeed can reach. -/
theorem failed_call_consistent_iff {asyncMode : Bool} {activeDepth : Fin (kMaxOutputResources + 1)}
    {gopDurationNs frameIntervalNs : UInt64} {calls : List (Call × Nat)} {c : Caller}
    (hecho : StepRun.Meets (Caller.step driver) (EchoedStep driver)
      (start asyncMode activeDepth gopDurationNs frameIntervalNs) calls)
    (hrun : StepRun.exec (Caller.step driver)
      (start asyncMode activeDepth gopDurationNs frameIntervalNs) calls = some c)
    {call : Call} {n : Nat} {answer : Answer} (hpermitted : Permitted c.held call)
    (hcall : c.session.call driver n call = some (answer, s')) (hfail : answer.error ≠ none) :
    Consistent s'.encoder c.held ↔ Echoed c.session s' ∨ c.session.encoder.pending = [] := by
  have hI : Inv c.session.encoder c.held [] := by
    refine StepRun.exec_invariant (I := fun c => Inv c.session.encoder c.held []) ?_
      (start_inv asyncMode activeDepth gopDurationNs frameIntervalNs) hecho hrun
    exact fun c a c' hI hG hstep => step_inv hI hstep fun _ => hG c' hstep
  exact (call_failsOwned hI hpermitted hcall hfail).consistent_iff

end

/-! ## Two failures -/

/-- Buffers the first picture, takes the others, and hands out outputs of timestamp `stamp`. -/
def stampDriver (stamp : UInt64) (mapStatus : List DriverEvent → NvencStatus) : Driver where
  mapInputResource history _ := (mapStatus history, some 0)
  encodePicture history _ := if accepted history = [] then .needMoreInput else .success
  encodeEos _ := .success
  lockBitstream _ _ _ := (.success, { outputTimeStamp := stamp, pictureType := .idr, bytes := [1] })
  waitForSingleObject _ _ _ := .object0
  now _ := 0

/-- A frame is buffered, the slot of the next one is acquired. -/
def bufferedRun (driver : Driver) : Option Caller :=
  StepRun.exec (Caller.step driver) (start false 2 0 0)
    [(.acquireFreeSlot, 0), (.encodeFrame 0 0 1920 1080, 0), (.acquireFreeSlot, 0)]

/-- The map of the second frame fails: the first one still owns its slot. -/
theorem failed_call_consistent_unmapped :
    ∃ driver, ∃ c ∈ bufferedRun driver, ∃ r ∈ c.session.call driver 0 (.encodeFrame 1 16 1920 1080),
      r.1.error ≠ none ∧ Consistent r.2.encoder c.held := by
  let driver := stampDriver 0 fun history => if accepted history = [] then .success else .mapFailed
  have hmeets : StepRun.Meets (Caller.step driver) (EchoedStep driver) (start false 2 0 0)
      [(.acquireFreeSlot, 0), (.encodeFrame 0 0 1920 1080, 0), (.acquireFreeSlot, 0)] := by
    decide
  have hfails : ∃ c ∈ bufferedRun driver, Permitted c.held (.encodeFrame 1 16 1920 1080) ∧
      ∃ r ∈ c.session.call driver 0 (.encodeFrame 1 16 1920 1080),
        r.1.error ≠ none ∧ Echoed c.session r.2 := by
    decide
  obtain ⟨c, hc, hpermitted, r, hr, herror, hecho⟩ := hfails
  exact ⟨driver, c, hc, r, hr, herror,
    (failed_call_consistent_iff hmeets hc hpermitted hr herror).mpr (.inl hecho)⟩

/-- The output of the second frame's lock names the second frame, the first one is older: its slot
    stays mapped without an entry. -/
theorem failed_call_not_consistent :
    ∃ driver, ∃ c ∈ bufferedRun driver, Permitted c.held (.encodeFrame 1 16 1920 1080) ∧
      ∃ r ∈ c.session.call driver 0 (.encodeFrame 1 16 1920 1080),
        r.1.error ≠ none ∧ ¬Consistent r.2.encoder c.held := by
  let driver := stampDriver 1 fun _ => .success
  have hfails : ∃ c ∈ bufferedRun driver, Permitted c.held (.encodeFrame 1 16 1920 1080) ∧
      ∃ r ∈ c.session.call driver 0 (.encodeFrame 1 16 1920 1080), r.1.error ≠ none ∧
        (r.2.encoder.slots 0).mapped = true ∧ r.2.encoder.pending = [] := by
    decide
  obtain ⟨c, hc, hpermitted, r, hr, herror, hmapped, hpending⟩ := hfails
  refine ⟨driver, c, hc, hpermitted, r, hr, herror, fun hconsistent => ?_⟩
  rcases hconsistent.slots 0 (.inl hmapped) with hcount | ⟨_, hclear⟩
  · rw [hpending] at hcount
    exact nomatch hcount
  · exact nomatch hmapped.symm.trans hclear

end Exosnap.Engine.Nvenc
