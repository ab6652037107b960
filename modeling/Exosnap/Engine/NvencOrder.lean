/-
  The frames of an encoder over a driver that keeps their order.

  `CompletesInOrder` is the driver's part: locked successfully, the buffer of the oldest picture
  still outstanding hands out an output with that picture's timestamp. Then the pending FIFO is
  the driver's queue (`Matched`), no frame is lost, and over a run of calls that succeed the
  packets are the frames submitted, in their order (`run_bookkeeping`).
-/
import Exosnap.Engine.NvencCaller

namespace Exosnap.Engine.Nvenc

open SlotQueue Caller

/-- The oldest picture outstanding is the one behind as many as were handed out. -/
def CompletesInOrder (driver : Driver) : Prop :=
  ∀ history buffer nonBlocking bitstream pic,
    driver.lockBitstream history buffer nonBlocking = (.success, bitstream) →
    (accepted history)[(completed history).length]? = some pic → pic.output = buffer →
    bitstream.outputTimeStamp = pic.inputTimeStamp

/-- The FIFO is the driver's queue. -/
structure Matched (s : Session) : Prop where
  le : (completed s.history).length ≤ (accepted s.history).length
  queue : ((accepted s.history).drop (completed s.history).length).map
      (fun pic => (pic.inputTimeStamp, pic.output, pic.forceIdr)) =
    s.encoder.pending.map fun p => (p.inputTs, p.outIdx, p.predictedKeyframe)
  /-- The outputs handed out name the pictures taken, in order. -/
  echoed : (completed s.history).map (·.outputTimeStamp) =
    ((accepted s.history).take (completed s.history).length).map (·.inputTimeStamp)

section
variable {driver : Driver} {s s' : Session} {held : Finset (Fin 8)} {p : PendingFrame}
  {pending : List PendingFrame} {packets : List EncodedVideoPacket} {lost : List PendingFrame}

theorem Matched.head (h : Matched s) (hpending : s.encoder.pending = p :: pending) :
    ∃ pic, (accepted s.history)[(completed s.history).length]? = some pic ∧
      pic.inputTimeStamp = p.inputTs ∧ pic.output = p.outIdx ∧
      pic.forceIdr = p.predictedKeyframe := by
  have hqueue := h.queue
  rw [hpending, List.map_cons] at hqueue
  cases hdrop : (accepted s.history).drop (completed s.history).length with
  | nil =>
    rw [hdrop] at hqueue
    exact nomatch hqueue
  | cons pic rest =>
    rw [hdrop, List.map_cons] at hqueue
    obtain ⟨hts, hout, hforce⟩ : pic.inputTimeStamp = p.inputTs ∧ pic.output = p.outIdx ∧
        pic.forceIdr = p.predictedKeyframe := by
      simpa only [Prod.mk.injEq] using (List.cons.inj hqueue).1
    refine ⟨pic, ?_, hts, hout, hforce⟩
    rw [← List.head?_drop, hdrop]
    rfl

/-- The encoder locks the buffer of its oldest frame. -/
theorem bitstreamToLock_head (hring : s.encoder.InRing p)
    (hpending : s.encoder.pending = p :: pending) : s.bitstreamToLock = p.outIdx := by
  unfold Session.bitstreamToLock
  rw [hpending, ← hring.1]
  cases hidx : p.outIdx with
  | none => rfl
  | some idx =>
    show NvencEncoder.outputOf? p = some idx
    rw [hring.outputOf?, hidx]

/-- A lock in front of the oldest frame hands out that frame. -/
theorem lock_in_order (hdriver : CompletesInOrder driver) (hI : Inv s.encoder held [])
    (hM : Matched s) (hpending : s.encoder.pending = p :: pending) {nonBlocking : Bool}
    {bitstream : LockBitstream}
    (hlock : driver.lockBitstream s.history s.bitstreamToLock nonBlocking =
      (.success, bitstream)) : bitstream.outputTimeStamp = p.inputTs := by
  obtain ⟨pic, hpic, hts, hout, _⟩ := hM.head hpending
  have hring := hI.inRing p (hpending ▸ List.mem_cons_self)
  have hbuffer := bitstreamToLock_head hring hpending
  rw [← hts]
  exact hdriver _ _ _ _ pic hlock hpic (hout.trans hbuffer.symm)

theorem accepted_retire (bitstream : LockBitstream) :
    accepted (s.retire p pending bitstream).history = accepted s.history := by
  unfold Session.retire
  dsimp only
  generalize hset : s.setEncoder _ = m
  have hm : accepted (m.freeSlot p.slotIdx).history = accepted s.history := by
    rw [← hset]
    unfold Session.freeSlot
    dsimp only
    split
    · exact (accepted_log _ _).trans (List.append_nil _)
    · rfl
  split
  · exact hm
  · exact hm

theorem accepted_lockedWith (bitstream : LockBitstream) :
    accepted (s.lockedWith bitstream).history = accepted s.history :=
  (accepted_log s _).trans (List.append_nil _)

/-- The oldest frame leaves the FIFO and the driver's queue. -/
theorem Matched.take (hM : Matched s) (hpending : s.encoder.pending = p :: pending)
    {bitstream : LockBitstream} (hecho : bitstream.outputTimeStamp = p.inputTs) :
    Matched ((s.lockedWith bitstream).retire p pending bitstream) := by
  obtain ⟨pic, hpic, hts, _, _⟩ := hM.head hpending
  have hlt : (completed s.history).length < (accepted s.history).length :=
    (List.getElem?_eq_some_iff.mp hpic).1
  have hcompleted : completed ((s.lockedWith bitstream).retire p pending bitstream).history =
      completed s.history ++ [bitstream] := by
    rw [retire_completed, lockedWith_completed]
  have haccepted : accepted ((s.lockedWith bitstream).retire p pending bitstream).history =
      accepted s.history := by
    rw [accepted_retire, accepted_lockedWith]
  have hlength : (completed s.history ++ [bitstream]).length =
      (completed s.history).length + 1 := by
    rw [List.length_append, List.length_singleton]
  refine ⟨?_, ?_, ?_⟩
  · rw [hcompleted, haccepted, hlength]
    exact hlt
  · rw [hcompleted, haccepted, hlength, retire_pending, ← List.tail_drop, List.map_tail, hM.queue,
      hpending]
    rfl
  · rw [hcompleted, haccepted, hlength, List.map_append, hM.echoed, List.take_add_one, hpic,
      List.map_append]
    show _ ++ [bitstream.outputTimeStamp] = _ ++ [pic.inputTimeStamp]
    rw [hecho, hts]

/-- Over a driver that keeps the order a drain loses nothing: its packets are the oldest frames. -/
theorem Drains.matched (h : Drains driver s packets lost s') (hdriver : CompletesInOrder driver) :
    Inv s.encoder held [] → Matched s →
      lost = [] ∧ Matched s' ∧ accepted s'.history = accepted s.history ∧
      (∃ outputs, completed s'.history = completed s.history ++ outputs ∧
        packets.map (·.bytes) = outputs.map (·.bytes)) ∧
      s.encoder.pending.map (·.ptsNs) =
        packets.map (·.ptsNs) ++ s'.encoder.pending.map (·.ptsNs) := by
  induction h with
  | done s => exact fun _ hM => ⟨rfl, hM, rfl, ⟨[], (List.append_nil _).symm, rfl⟩, rfl⟩
  | @quiet s s' _ _ event hquiet _ ih =>
    intro hI hM
    have hcompleted : completed (s.log event).history = completed s.history := by
      rw [completed_log, hquiet.2]
      exact List.append_nil _
    have haccepted : accepted (s.log event).history = accepted s.history := by
      rw [accepted_log, hquiet.1]
      exact List.append_nil _
    have hlogged : Matched (s.log event) := by
      obtain ⟨hle, hqueue, hecho⟩ := hM
      refine ⟨?_, ?_, ?_⟩
      · rwa [hcompleted, haccepted]
      · rw [hcompleted, haccepted]
        exact hqueue
      · rwa [hcompleted, haccepted]
    have hrest := ih hI hlogged
    rwa [hcompleted, haccepted] at hrest
  | turn cursor _ ih =>
    exact fun hI hM => ih (hI.congr rfl rfl rfl rfl rfl rfl) ⟨hM.le, hM.queue, hM.echoed⟩
  | @take s s' packets lost p pending _ bitstream hpending hlock hecho _ ih =>
    intro hI hM
    have hretired := Inv.retire (s := s.lockedWith bitstream) hI hpending bitstream
    obtain ⟨hlost, hM', haccepted, ⟨outputs, houts, hbytes⟩, hpts⟩ :=
      ih hretired (hM.take hpending hecho)
    rw [accepted_retire, accepted_lockedWith] at haccepted
    rw [retire_completed, lockedWith_completed, List.append_assoc] at houts
    rw [retire_pending] at hpts
    refine ⟨hlost, hM', haccepted, ⟨bitstream :: outputs, houts, ?_⟩, ?_⟩
    · rw [List.map_cons, List.map_cons, hbytes]
      rfl
    · rw [hpending, List.map_cons, hpts]
      rfl
  | lose hpending hlock hecho _ ih =>
    exact fun hI hM => absurd (lock_in_order hdriver hI hM hpending hlock) hecho

/-! ## Calls -/

/-- What the caller got and what is pending is what it submitted. -/
structure Delivered (s : Session) (submitted : List UInt64)
    (packets : List EncodedVideoPacket) : Prop where
  matched : Matched s
  order : packets.map (·.ptsNs) ++ s.encoder.pending.map (·.ptsNs) = submitted
  content : packets.map (·.bytes) = (completed s.history).map (·.bytes)
  once : (accepted s.history).length = submitted.length
  /-- The sync flush drains as many frames as wait for more input. -/
  count : s.encoder.asyncMode = false →
    s.encoder.needMoreInputCount = s.encoder.pending.length

section
variable {submitted : List UInt64} {got : List EncodedVideoPacket}

/-- Where FIFO, mode, counter and history stay. -/
theorem Delivered.congr (h : Delivered s submitted got)
    (hpending : s'.encoder.pending = s.encoder.pending)
    (hasync : s'.encoder.asyncMode = s.encoder.asyncMode)
    (hcount : s'.encoder.needMoreInputCount = s.encoder.needMoreInputCount)
    (haccepted : accepted s'.history = accepted s.history)
    (hcompleted : completed s'.history = completed s.history) : Delivered s' submitted got where
  matched := by
    obtain ⟨hle, hqueue, hecho⟩ := h.matched
    refine ⟨?_, ?_, ?_⟩
    · rwa [haccepted, hcompleted]
    · rwa [haccepted, hcompleted, hpending]
    · rwa [haccepted, hcompleted]
  order := by rw [hpending, h.order]
  content := by rw [hcompleted, h.content]
  once := by rw [haccepted, h.once]
  count hsync := by rw [hpending, hcount, h.count (hasync ▸ hsync)]

/-- A drain of packets; in sync mode the counter is the caller's business. -/
theorem Delivered.drains (h : Delivered s submitted got) (hI : Inv s.encoder held [])
    (hdriver : CompletesInOrder driver) (hdrains : Drains driver s packets lost s')
    (hasync : s.encoder.asyncMode = true ∨ packets = []) :
    Delivered s' submitted (got ++ packets) := by
  obtain ⟨hlost, hM, haccepted, ⟨outputs, houts, hbytes⟩, hpts⟩ :=
    hdrains.matched hdriver hI h.matched
  refine ⟨hM, ?_, ?_, ?_, fun hsync => ?_⟩
  · rw [List.map_append, List.append_assoc, ← hpts, h.order]
  · rw [List.map_append, h.content, hbytes, houts, List.map_append]
  · rw [haccepted, h.once]
  · have hsame := hdrains.frame.asyncMode
    rcases hasync with htrue | hnone
    · rw [htrue, hsync] at hsame
      exact nomatch hsame
    · have hlength := hdrains.length
      rw [hnone, hlost] at hlength
      rw [hdrains.frame.needMoreInputCount, h.count (hsame ▸ hsync), hlength]
      simp

/-- The driver took the picture of a submission. -/
theorem Delivered.submission (h : Delivered s submitted got) (i : Fin 8) (ptsNs : UInt64)
    (width height : UInt32) (resource outIdx : Option Nat) (status : NvencStatus)
    {pic : PicParams} {ready : Session}
    (hready : s.submission i ptsNs width height resource outIdx = (pic, ready))
    (hstatus : (DriverEvent.encoded pic status).accepted? = some pic) :
    Matched (ready.log (.encoded pic status)) ∧
      got.map (·.ptsNs) ++ ready.encoder.pending.map (·.ptsNs) = submitted ++ [ptsNs] ∧
      got.map (·.bytes) = (completed (ready.log (.encoded pic status)).history).map (·.bytes) ∧
      (accepted (ready.log (.encoded pic status)).history).length =
        (submitted ++ [ptsNs]).length := by
  have hpic : (s.submission i ptsNs width height resource outIdx).1 = pic :=
    congrArg Prod.fst hready
  have hmade : (s.submission i ptsNs width height resource outIdx).2 = ready :=
    congrArg Prod.snd hready
  have hmatched := h.matched
  have hpending : ready.encoder.pending =
      s.encoder.pending ++ [s.encoder.entry i ptsNs outIdx] := hmade ▸ rfl
  have hhistory : ready.history = s.history := hmade ▸ rfl
  have hfields : (pic.inputTimeStamp, pic.output, pic.forceIdr) =
      ((s.encoder.entry i ptsNs outIdx).inputTs, (s.encoder.entry i ptsNs outIdx).outIdx,
        (s.encoder.entry i ptsNs outIdx).predictedKeyframe) := hpic ▸ rfl
  have haccepted : accepted (ready.log (.encoded pic status)).history =
      accepted s.history ++ [pic] := by
    rw [accepted_log, hstatus, hhistory]
    rfl
  have hcompleted : completed (ready.log (.encoded pic status)).history = completed s.history := by
    rw [completed_log, hhistory]
    exact List.append_nil _
  refine ⟨⟨?_, ?_, ?_⟩, ?_, ?_, ?_⟩
  · rw [haccepted, hcompleted, List.length_append]
    exact Nat.le_add_right_of_le hmatched.le
  · show _ = ready.encoder.pending.map _
    rw [haccepted, hcompleted, List.drop_append_of_le_length hmatched.le, List.map_append,
      hmatched.queue, hpending, List.map_append, List.map_singleton, List.map_singleton, hfields]
  · rw [haccepted, hcompleted, List.take_append_of_le_length hmatched.le]
    exact hmatched.echoed
  · rw [hpending, List.map_append, ← List.append_assoc, h.order]
    rfl
  · rw [hcompleted, h.content]
  · rw [haccepted, List.length_append, List.length_append, h.once]
    rfl

/-- A submission that succeeds. -/
theorem Delivered.submits (h : Delivered s submitted got) {i : Fin 8} {ptsNs : UInt64}
    {width height : UInt32} {resource outIdx : Option Nat} {pic : PicParams} {ready : Session}
    {answer : Answer} (hI : Inv ready.encoder held []) (hdriver : CompletesInOrder driver)
    (hready : s.submission i ptsNs width height resource outIdx = (pic, ready))
    (hsubmits : Submits driver i outIdx pic ready answer s') (hok : answer.error = none) :
    Delivered s' (submitted ++ [ptsNs]) (got ++ answer.packets) := by
  have hmade : (s.submission i ptsNs width height resource outIdx).2 = ready :=
    congrArg Prod.snd hready
  have hasync : ready.encoder.asyncMode = s.encoder.asyncMode := hmade ▸ rfl
  have hcount : ready.encoder.needMoreInputCount = s.encoder.needMoreInputCount := hmade ▸ rfl
  have hlength : ready.encoder.pending.length = s.encoder.pending.length + 1 := by
    rw [← hmade, submission_pending, List.length_append]
    rfl
  cases hsubmits with
  | submitted htrue =>
    obtain ⟨hM, horder, hcontent, honce⟩ :=
      h.submission i ptsNs width height resource outIdx .success hready rfl
    rw [List.append_nil]
    exact ⟨hM, horder, hcontent, honce, fun hsync => nomatch htrue.symm.trans hsync⟩
  | buffered =>
    obtain ⟨hM, horder, hcontent, honce⟩ :=
      h.submission i ptsNs width height resource outIdx .needMoreInput hready rfl
    rw [List.append_nil]
    refine ⟨⟨hM.le, hM.queue, hM.echoed⟩, horder, hcontent, honce, fun hsync => ?_⟩
    show ready.encoder.needMoreInputCount + 1 = ready.encoder.pending.length
    rw [hcount, hlength, h.count (hasync.symm.trans hsync)]
  | @consumed packet _ hfalse hdrains =>
    obtain ⟨hM, horder, hcontent, honce⟩ :=
      h.submission i ptsNs width height resource outIdx .success hready rfl
    obtain ⟨_, hM', haccepted, ⟨outputs, houts, hbytes⟩, hpts⟩ :=
      hdrains.matched hdriver hI hM
    refine ⟨hM', ?_, ?_, ?_, fun _ => ?_⟩
    · have hpts' : ready.encoder.pending.map (·.ptsNs) = _ := hpts
      rw [List.map_append, List.append_assoc, ← hpts', horder]
    · rw [List.map_append, hcontent, hbytes, houts, List.map_append]
    · rw [haccepted, honce]
    · have hlen : ready.encoder.pending.length = _ := hdrains.length
      rw [hlength, List.length_singleton, List.length_nil] at hlen
      have hsame : s'.encoder.needMoreInputCount = ready.encoder.needMoreInputCount :=
        hdrains.frame.needMoreInputCount
      rw [hsame, hcount, h.count (hasync.symm.trans hfalse)]
      omega
  | unconsumed => exact nomatch hok
  | rejected => exact nomatch hok

theorem flush_echoed {c c' : Caller} {n : Nat} (hdriver : CompletesInOrder driver)
    (hI : Inv c.session.encoder c.held []) (hM : Matched c.session)
    (h : c.step driver (.flush, n) = some c') : Echoed c.session c'.session := by
  obtain ⟨answer, s', _, hcall, _, rfl⟩ := step_some h
  obtain ⟨packets, lost, m, count, hdrains, rfl, _, _⟩ := flush_drains hcall
  exact (hdrains.echoed_iff hI).mpr (hdrains.matched hdriver hI hM).1

/-- The end of a flush that succeeds: its packets, and an empty FIFO. -/
theorem Delivered.flush {n : Nat} {answer : Answer} (h : Delivered s submitted got)
    (hI : Inv s.encoder held []) (hdriver : CompletesInOrder driver)
    (hcall : s.flush driver n = some (answer, s')) (hok : answer.error = none) :
    Delivered s' submitted (got ++ answer.packets) ∧ s'.encoder.pending = [] := by
  obtain ⟨packets, lost, m, count, hdrains, rfl, hpackets, hstopped⟩ := flush_drains hcall
  obtain ⟨hlost, hM, haccepted, ⟨outputs, houts, hbytes⟩, hpts⟩ :=
    hdrains.matched hdriver hI h.matched
  rw [hpackets hlost]
  obtain ⟨rfl, hstop⟩ := hstopped hok
  have hempty : m.encoder.pending = [] := by
    rcases hstop with hempty | ⟨hsync, hcount⟩
    · exact hempty
    · have hlength := hdrains.length
      rw [h.count hsync] at hcount
      exact List.length_eq_zero_iff.mp (by omega)
  refine ⟨⟨⟨hM.le, hM.queue, hM.echoed⟩, ?_, ?_, ?_, fun _ => ?_⟩, hempty⟩
  · show _ ++ m.encoder.pending.map _ = _
    rw [List.map_append, List.append_assoc, ← hpts, h.order]
  · show _ = (completed m.history).map _
    rw [List.map_append, h.content, hbytes, houts, List.map_append]
  · show (accepted m.history).length = _
    rw [haccepted, h.once]
  · show 0 = m.encoder.pending.length
    rw [hempty]
    rfl

/-! ## Runs -/

/-- Rings, FIFO and packets behind calls that succeeded. -/
structure Bookkeeping (c : Caller) : Prop where
  order : c.packets.map (·.ptsNs) ++ c.session.encoder.pending.map (·.ptsNs) = c.submitted
  content : c.packets.map (·.bytes) = (completed c.session.history).map (·.bytes)
  echoed : (completed c.session.history).map (·.outputTimeStamp) =
    ((accepted c.session.history).take c.packets.length).map (·.inputTimeStamp)
  once : (accepted c.session.history).length = c.submitted.length
  inFlight : ∀ i, (c.session.encoder.slots i).inFlight = true ↔
    i ∈ c.held ∨ (c.session.encoder.pending.map (·.slotIdx)).count i = 1
  outputs : c.session.encoder.asyncMode = true → ∀ idx, c.session.encoder.outputs idx = true ↔
    (c.session.encoder.pending.filterMap (·.outIdx)).count idx = 1
  slots_nodup : (c.session.encoder.pending.map (·.slotIdx)).Nodup
  outputs_nodup : (c.session.encoder.pending.filterMap (·.outIdx)).Nodup

/-- What every call that succeeds keeps. -/
structure Tracks (c : Caller) : Prop where
  inv : Inv c.session.encoder c.held []
  delivered : Delivered c.session c.submitted c.packets

theorem tracks_start (asyncMode : Bool) (activeDepth : Fin (kMaxOutputResources + 1))
    (gopDurationNs frameIntervalNs : UInt64) :
    Tracks (start asyncMode activeDepth gopDurationNs frameIntervalNs) where
  inv := start_inv asyncMode activeDepth gopDurationNs frameIntervalNs
  delivered := ⟨⟨Nat.le_refl 0, rfl, rfl⟩, rfl, rfl, rfl, fun _ => rfl⟩

theorem freeSlot_quiet (s : Session) (i : Fin 8) :
    accepted (s.freeSlot i).history = accepted s.history ∧
      completed (s.freeSlot i).history = completed s.history := by
  unfold Session.freeSlot
  dsimp only
  split
  · exact ⟨(accepted_log _ _).trans (List.append_nil _),
      (completed_log _ _).trans (List.append_nil _)⟩
  · exact ⟨rfl, rfl⟩

theorem Tracks.step {c c' : Caller} {a : Call × Nat} (hdriver : CompletesInOrder driver)
    (h : Tracks c) (hstep : c.step driver a = some c') : Tracks c' := by
  obtain ⟨hI, hD⟩ := h
  refine ⟨step_inv hI hstep fun hflush => ?_, ?_⟩
  · obtain ⟨call, n⟩ := a
    obtain rfl : call = .flush := hflush
    exact flush_echoed hdriver hI hD.matched hstep
  obtain ⟨answer, s', hpermitted, hcall, hok, rfl⟩ := step_some hstep
  obtain ⟨call, n⟩ := a
  cases call with
  | acquireFreeSlot =>
    obtain ⟨rfl, rfl⟩ := Prod.mk.inj (Option.some.inj hcall)
    show Delivered (c.session.setEncoder c.session.encoder.acquireFreeSlot.2) (_ ++ []) (_ ++ [])
    rw [List.append_nil, List.append_nil]
    cases hslot : c.session.encoder.acquireFreeSlot.1 with
    | none =>
      rw [acquireFreeSlot_none hslot]
      exact hD
    | some i =>
      rw [(acquireFreeSlot_some hslot).2.2]
      exact hD.congr rfl rfl rfl rfl rfl
  | releaseSlot slotIdx =>
    obtain ⟨rfl, rfl⟩ := Prod.mk.inj (Option.some.inj hcall)
    show Delivered (c.session.releaseSlot slotIdx) (_ ++ []) (_ ++ [])
    rw [List.append_nil, List.append_nil]
    unfold Session.releaseSlot
    split
    · exact hD
    · next i hslot =>
      obtain ⟨slot, hfree, _⟩ := freeSlot_encoder c.session i
      obtain ⟨haccepted, hcompleted⟩ := freeSlot_quiet c.session i
      refine hD.congr ?_ ?_ ?_ haccepted hcompleted
      · rw [hfree]
        rfl
      · rw [hfree]
        rfl
      · rw [hfree]
        rfl
  | requestKeyframe =>
    obtain ⟨rfl, rfl⟩ := Prod.mk.inj (Option.some.inj hcall)
    show Delivered _ (_ ++ []) (_ ++ [])
    rw [List.append_nil, List.append_nil]
    exact hD.congr rfl rfl rfl rfl rfl
  | encodeFrame slotIdx ptsNs width height =>
    obtain ⟨i, packets, m, resource, outIdx, answer', hslot, hdrains, hsync, hoffers, hok',
      hpackets, hsubmits⟩ := encodes_ok (encodeFrame_encodes hcall) hok
    have hm := Inv.drains hdrains hI
    have hready := hm.submission (hpermitted i hslot) ptsNs width height resource hoffers
    have hmode : c.session.encoder.asyncMode = true ∨ packets = [] := by
      cases hasync : c.session.encoder.asyncMode with
      | true => exact .inl rfl
      | false => exact .inr (hsync hasync).1
    have hwaited := hD.drains hI hdriver hdrains hmode
    show Delivered s' (c.submitted ++ [ptsNs]) (c.packets ++ answer.packets)
    rw [hpackets, ← List.append_assoc]
    exact hwaited.submits hready hdriver rfl hsubmits hok'
  | reapCompleted waitHeadMs =>
    show Delivered s' (c.submitted ++ []) (c.packets ++ answer.packets)
    rw [List.append_nil]
    cases hasync : c.session.encoder.asyncMode with
    | true =>
      obtain ⟨lost, hdrains, _⟩ := reapCompleted_drains hcall
      exact hD.drains hI hdriver hdrains (.inl hasync)
    | false =>
      have hnothing : c.session.reapCompleted driver waitHeadMs n = some ({}, c.session) := by
        unfold Session.reapCompleted
        rw [hasync]
        rfl
      obtain ⟨rfl, rfl⟩ := Prod.mk.inj (Option.some.inj (hcall.symm.trans hnothing))
      rw [List.append_nil]
      exact hD
  | flush =>
    show Delivered s' (c.submitted ++ []) (c.packets ++ answer.packets)
    rw [List.append_nil]
    exact (hD.flush hI hdriver hcall hok).1

theorem Tracks.bookkeeping {c : Caller} (h : Tracks c) : Bookkeeping c := by
  obtain ⟨hI, hD⟩ := h
  have hown := hI.owned
  rw [List.append_nil] at hown
  have hlength : c.packets.length = (completed c.session.history).length := by
    have := congrArg List.length hD.content
    rwa [List.length_map, List.length_map] at this
  refine ⟨hD.order, hD.content, ?_, hD.once, hown.inFlight.marked_iff_count, fun _ idx => ?_,
    hown.inFlight.nodup, hown.outputs.nodup⟩
  · rw [hlength]
    exact hD.matched.echoed
  · rw [hown.outputs.marked_iff_count]
    simp

theorem run_bookkeeping (hdriver : CompletesInOrder driver) {asyncMode : Bool}
    {activeDepth : Fin (kMaxOutputResources + 1)} {gopDurationNs frameIntervalNs : UInt64}
    {calls : List (Call × Nat)} {c : Caller}
    (hrun : StepRun.exec (Caller.step driver)
      (start asyncMode activeDepth gopDurationNs frameIntervalNs) calls = some c) :
    Bookkeeping c ∧
      ∀ n c', c.step driver (.flush, n) = some c' → c'.session.encoder.pending = [] := by
  have htracks : Tracks c := StepRun.exec_invariant_all
    (fun c a c' h hstep => h.step hdriver hstep)
    (tracks_start asyncMode activeDepth gopDurationNs frameIntervalNs) hrun
  refine ⟨htracks.bookkeeping, fun n c' hstep => ?_⟩
  obtain ⟨answer, s', _, hcall, hok, rfl⟩ := step_some hstep
  exact (htracks.delivered.flush htracks.inv hdriver hcall hok).2

end

end

/-- Takes every picture and hands them out one by one. -/
def fifoDriver : Driver where
  mapInputResource _ i := (.success, some i.val)
  encodePicture _ _ := .success
  encodeEos _ := .success
  lockBitstream history _ _ :=
    match (accepted history)[(completed history).length]? with
    | some pic =>
        (.success, { outputTimeStamp := pic.inputTimeStamp, pictureType := .other, bytes := [1] })
    | none => (.lockBusy, { outputTimeStamp := 0, pictureType := .other, bytes := [] })
  waitForSingleObject _ _ _ := .object0
  now _ := 0

theorem fifoDriver_completesInOrder : CompletesInOrder fifoDriver := by
  intro history buffer nonBlocking bitstream pic hlock hpic _
  dsimp only [fifoDriver] at hlock
  rw [hpic] at hlock
  exact congrArg LockBitstream.outputTimeStamp (Prod.mk.inj hlock).2.symm

/-- Three frames over a ring of two buffers: the third waits for the first. -/
theorem run_bookkeeping_full_ring :
    ∃ c ∈ StepRun.exec (Caller.step fifoDriver) (start true 2 0 0)
      [(.acquireFreeSlot, 0), (.encodeFrame 0 0 1920 1080, 9), (.acquireFreeSlot, 0),
        (.encodeFrame 1 16 1920 1080, 9), (.acquireFreeSlot, 0), (.encodeFrame 2 33 1920 1080, 9)],
      Bookkeeping c ∧ c.packets.map (·.ptsNs) = [0] ∧
        c.session.encoder.pending.map (·.ptsNs) = [16, 33] := by
  have hruns : ∃ c ∈ StepRun.exec (Caller.step fifoDriver) (start true 2 0 0)
      [(.acquireFreeSlot, 0), (.encodeFrame 0 0 1920 1080, 9), (.acquireFreeSlot, 0),
        (.encodeFrame 1 16 1920 1080, 9), (.acquireFreeSlot, 0), (.encodeFrame 2 33 1920 1080, 9)],
      c.packets.map (·.ptsNs) = [0] ∧ c.session.encoder.pending.map (·.ptsNs) = [16, 33] := by
    decide
  obtain ⟨c, hc, hgot, hpending⟩ := hruns
  exact ⟨c, hc, (run_bookkeeping fifoDriver_completesInOrder hc).1, hgot, hpending⟩

end Exosnap.Engine.Nvenc
