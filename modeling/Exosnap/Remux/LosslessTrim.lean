/-
  What a lossless trim keeps. The packet loop is followed once, over the packets that are left:
  when it comes to its end it has written the packets from the start keyframe on up to the first
  video packet at or past the end (`loop_copies`), and no step of it has failed (`loop_quiet`).

  In an input with non-decreasing timestamps these are all the packets before the end, and behind
  them those of other streams that stand before that video packet: the streams without pictures
  follow the video boundary.
-/
import Exosnap.Remux.Mp4Remuxer
import Exosnap.Lib.ListCut

namespace Exosnap.Remux

/-- A read, write, trailer or close that failed, or a callback that cancelled. The answer to the
last report is none: by then there is nothing left to cancel. -/
def RemuxStep.Failed : RemuxStep → Bool
  | .progress answer => !answer
  | .read ret => ret < 0 ∧ ret ≠ AVERROR_EOF
  | .write ret => ret < 0
  | .trailer ret => ret < 0
  | .flush error => error < 0
  | .close error => error < 0
  | .finished _ => false

namespace Job

variable {j : Job}

/-! ## Packets -/

theorem isVideo_streamOf {pkt : AVPacket} (h : j.isVideo pkt = true) :
    (j.streamOf pkt).isSome := by
  obtain ⟨i, hi, hpkt⟩ := (Option.any_eq_true _ _).mp h
  have hlt : i < j.av.streams.length := (List.findIdx?_eq_some_iff_getElem.mp hi).1
  have hindex : pkt.streamIndex = i := by simpa using hpkt
  simp [streamOf, hindex, hlt]

theorem pastEnd_streamOf {pkt : AVPacket} (h : j.pastEnd pkt = true) :
    (j.streamOf pkt).isSome := by
  simp only [pastEnd, decide_eq_true_eq] at h
  exact isVideo_streamOf h.2.1

/-- A packet that ends the start boundary. -/
def isKeyframe (j : Job) (pkt : AVPacket) : Bool := j.isVideo pkt && pkt.key

/-- The packets that are copied out of those that are left. -/
def copied (j : Job) (locked : Bool) (packets : List AVPacket) : List AVPacket :=
  let kept := if locked then packets else packets.dropWhile fun pkt => !j.isKeyframe pkt
  (kept.takeWhile fun pkt => !j.pastEnd pkt).filter fun pkt => (j.streamOf pkt).isSome

@[simp] theorem copied_nil (locked : Bool) : j.copied locked [] = [] := by
  cases locked <;> rfl

theorem copied_skip {locked : Bool} {pkt : AVPacket} {rest : List AVPacket}
    (h : (j.streamOf pkt).isNone) : j.copied locked (pkt :: rest) = j.copied locked rest := by
  have hnone : (j.streamOf pkt).isSome = false := by simpa using h
  have hpast : j.pastEnd pkt = false := by
    cases hp : j.pastEnd pkt with
    | false => rfl
    | true => simp [pastEnd_streamOf hp] at hnone
  have hkey : j.isKeyframe pkt = false := by
    cases hv : j.isVideo pkt with
    | false => simp [isKeyframe, hv]
    | true => simp [isVideo_streamOf hv] at hnone
  cases locked <;> simp [copied, hpast, hkey, hnone]

theorem copied_unlocked {pkt : AVPacket} {rest : List AVPacket}
    (h : j.isKeyframe pkt = false) : j.copied false (pkt :: rest) = j.copied false rest := by
  simp [copied, h]

theorem copied_lock {locked : Bool} {pkt : AVPacket} {rest : List AVPacket}
    (h : locked = true ∨ j.isKeyframe pkt = true) :
    j.copied locked (pkt :: rest) = j.copied true (pkt :: rest) := by
  cases locked with
  | true => rfl
  | false => simp [copied, show j.isKeyframe pkt = true by simpa using h]

theorem copied_stop {pkt : AVPacket} {rest : List AVPacket} (h : j.pastEnd pkt = true) :
    j.copied true (pkt :: rest) = [] := by
  simp [copied, h]

theorem copied_write {pkt : AVPacket} {rest : List AVPacket} (h : j.pastEnd pkt = false)
    (hsome : (j.streamOf pkt).isSome) :
    j.copied true (pkt :: rest) = pkt :: j.copied true rest := by
  simp [copied, h, hsome]

/-! ## The steps of the loop -/

/-- No step has failed so far. -/
def LoopState.Quiet (s : LoopState) : Prop := ∀ step ∈ s.steps, step.Failed = false

theorem LoopState.quiet_snoc {s : LoopState} {step : RemuxStep} {t : LoopState}
    (ht : t.steps = s.steps ++ [step]) (h : s.Quiet) (hstep : step.Failed = false) : t.Quiet := by
  intro other hother
  rw [ht, List.mem_append, List.mem_singleton] at hother
  obtain hold | rfl := hother
  · exact h other hold
  · exact hstep

theorem progress_spec {s t : LoopState} {answer : Bool} (h : j.progress s = (t, answer)) :
    t.written = s.written ∧ t.locked = s.locked ∧ (answer = true → s.Quiet → t.Quiet) := by
  unfold progress at h
  cases hcb : j.progressCb with
  | none =>
    simp only [hcb, Prod.mk.injEq] at h
    obtain ⟨rfl, rfl⟩ := h
    exact ⟨rfl, rfl, fun _ hquiet => hquiet⟩
  | some cb =>
    simp only [hcb, Prod.mk.injEq] at h
    obtain ⟨rfl, rfl⟩ := h
    exact ⟨rfl, rfl, fun hanswer hquiet =>
      LoopState.quiet_snoc rfl hquiet (by simp [RemuxStep.Failed, hanswer])⟩

theorem readFrame_spec {s t : LoopState} {ret : Int} {stop : Option LoopEnd}
    (h : readFrame s ret = (t, stop)) (hstop : stop = none ∨ stop = some .ended) :
    t.written = s.written ∧ t.locked = s.locked ∧ (s.Quiet → t.Quiet) := by
  obtain ⟨rfl, rfl⟩ := Prod.mk.inj h
  refine ⟨rfl, rfl, fun hs => LoopState.quiet_snoc rfl hs ?_⟩
  by_cases heof : ret = AVERROR_EOF
  · simp [RemuxStep.Failed, heof]
  · by_cases hret : ret < 0
    · simp [heof, hret] at hstop
    · simp [RemuxStep.Failed, hret]

theorem nextFrame_spec {s t : LoopState} {ret : Int} {stop : Option LoopEnd}
    (h : j.nextFrame s ret = (t, stop)) (hstop : stop = none ∨ stop = some .ended) :
    t.written = s.written ∧ t.locked = s.locked ∧ (s.Quiet → t.Quiet) := by
  unfold nextFrame at h
  split at h
  · obtain ⟨-, rfl⟩ := Prod.mk.inj h
    simp at hstop
  · rename_i u hp
    obtain ⟨hwritten, hlocked, hquiet⟩ := progress_spec hp
    obtain ⟨hwritten', hlocked', hquiet'⟩ := readFrame_spec h hstop
    exact ⟨hwritten'.trans hwritten, hlocked'.trans hlocked, fun hs => hquiet' (hquiet rfl hs)⟩

/-- The loop ends at a read only behind the last packet. -/
theorem nextFrame_zero {s t : LoopState} : j.nextFrame s 0 ≠ (t, some .ended) := by
  intro h
  unfold nextFrame at h
  split at h
  · simp at h
  · rename_i u _
    unfold readFrame av_read_frame at h
    cases hfault : j.av.readFault u.reads with
    | none => simp [hfault, AVERROR_EOF] at h
    | some fault => simp [hfault, fault.not_eof, fault.negative] at h

theorem writePacket_spec {s t : LoopState} {pkt : AVPacket} {stop : Option LoopEnd}
    (h : j.writePacket s pkt = (t, stop)) (hstop : stop = none ∨ stop = some .ended) :
    stop = none ∧ t.written = s.written ++ [j.rescaled pkt] ∧ t.locked = s.locked ∧
      (s.Quiet → t.Quiet) := by
  unfold writePacket at h
  simp only at h
  split at h
  · obtain ⟨-, rfl⟩ := Prod.mk.inj h
    simp at hstop
  · rename_i hret
    have hwrote : ∀ u : LoopState,
        u.steps = s.steps ++ [.write (j.av.interleavedWriteFrame s.written.length)] →
        s.Quiet → u.Quiet := fun u hu hs =>
      LoopState.quiet_snoc hu hs (by simpa [RemuxStep.Failed] using hret)
    split at h
    · split at h
      · obtain ⟨-, rfl⟩ := Prod.mk.inj h
        simp at hstop
      · rename_i u hp
        obtain ⟨rfl, rfl⟩ := Prod.mk.inj h
        obtain ⟨hwritten, hlocked, hquiet⟩ := progress_spec hp
        exact ⟨rfl, hwritten, hlocked, fun hs => hquiet rfl (hwrote _ rfl hs)⟩
    · obtain ⟨rfl, rfl⟩ := Prod.mk.inj h
      exact ⟨rfl, rfl, rfl, fun hs => hwrote _ rfl hs⟩

/-- A packet is skipped, written, or the first past the end. -/
theorem copyPacket_spec {s t : LoopState} {pkt : AVPacket} {stop : Option LoopEnd}
    (h : j.copyPacket s pkt = (t, stop)) (hstop : stop = none ∨ stop = some .ended)
    (rest : List AVPacket) :
    (s.Quiet → t.Quiet) ∧
      (stop = some .ended → t.written = s.written ∧ j.copied s.locked (pkt :: rest) = []) ∧
      (stop = none → t.written ++ (j.copied t.locked rest).map j.rescaled =
        s.written ++ (j.copied s.locked (pkt :: rest)).map j.rescaled) := by
  unfold copyPacket at h
  split at h
  · rename_i hnone
    obtain ⟨rfl, rfl⟩ := Prod.mk.inj h
    exact ⟨id, by simp, fun _ => by rw [copied_skip hnone]⟩
  · rename_i hsome
    have hstream : (j.streamOf pkt).isSome :=
      Option.isSome_iff_ne_none.mpr (by simpa using hsome)
    split at h
    · rename_i hskip
      obtain ⟨rfl, rfl⟩ := Prod.mk.inj h
      have hkey : j.isKeyframe pkt = false := by simpa [isKeyframe] using hskip.2
      exact ⟨id, by simp, fun _ => by rw [hskip.1, copied_unlocked hkey]⟩
    · rename_i hlock
      have hopen : s.locked = true ∨ j.isKeyframe pkt = true := by
        cases hlocked : s.locked with
        | true => exact .inl rfl
        | false => exact .inr (by simpa [isKeyframe, hlocked] using hlock)
      split at h
      · rename_i hpast
        obtain ⟨rfl, rfl⟩ := Prod.mk.inj h
        exact ⟨id, fun _ => ⟨rfl, by rw [copied_lock hopen, copied_stop hpast]⟩, by simp⟩
      · rename_i hpast
        obtain ⟨rfl, hwritten, hlocked, hquiet⟩ := writePacket_spec h hstop
        refine ⟨hquiet, by simp, fun _ => ?_⟩
        rw [hwritten, hlocked, copied_lock hopen, copied_write (by simpa using hpast) hstream]
        simp

/-! ## The loop -/

theorem loop_copies {s t : LoopState} {packets : List AVPacket}
    (h : j.packetLoop s packets = (t, .ended)) :
    t.written = s.written ++ (j.copied s.locked packets).map j.rescaled := by
  induction packets generalizing s with
  | nil =>
    simp only [packetLoop] at h
    split at h
    · rename_i u stop hnext
      obtain ⟨rfl, rfl⟩ := Prod.mk.inj h
      simp [(nextFrame_spec hnext (.inr rfl)).1]
    · rename_i u hnext
      obtain ⟨rfl, -⟩ := Prod.mk.inj h
      simp [(nextFrame_spec hnext (.inl rfl)).1]
  | cons pkt rest ih =>
    simp only [packetLoop] at h
    split at h
    · rename_i u stop hnext
      obtain ⟨rfl, rfl⟩ := Prod.mk.inj h
      exact absurd hnext nextFrame_zero
    · rename_i u hnext
      obtain ⟨hwritten, hlocked, -⟩ := nextFrame_spec hnext (.inl rfl)
      rw [← hwritten, ← hlocked]
      split at h
      · rename_i v stop hcopy
        obtain ⟨rfl, rfl⟩ := Prod.mk.inj h
        obtain ⟨hkept, hnil⟩ := (copyPacket_spec hcopy (.inr rfl) rest).2.1 rfl
        simp [hkept, hnil]
      · rename_i v hcopy
        rw [← (copyPacket_spec hcopy (.inl rfl) rest).2.2 rfl]
        exact ih h

theorem loop_quiet {s t : LoopState} {packets : List AVPacket}
    (h : j.packetLoop s packets = (t, .ended)) (hs : s.Quiet) : t.Quiet := by
  induction packets generalizing s with
  | nil =>
    simp only [packetLoop] at h
    split at h
    · rename_i u stop hnext
      obtain ⟨rfl, rfl⟩ := Prod.mk.inj h
      exact (nextFrame_spec hnext (.inr rfl)).2.2 hs
    · rename_i u hnext
      obtain ⟨rfl, -⟩ := Prod.mk.inj h
      exact (nextFrame_spec hnext (.inl rfl)).2.2 hs
  | cons pkt rest ih =>
    simp only [packetLoop] at h
    split at h
    · rename_i u stop hnext
      obtain ⟨rfl, rfl⟩ := Prod.mk.inj h
      exact (nextFrame_spec hnext (.inr rfl)).2.2 hs
    · rename_i u hnext
      have hu := (nextFrame_spec hnext (.inl rfl)).2.2 hs
      split at h
      · rename_i v stop hcopy
        obtain ⟨rfl, rfl⟩ := Prod.mk.inj h
        exact (copyPacket_spec hcopy (.inr rfl) rest).1 hu
      · rename_i v hcopy
        exact ih h ((copyPacket_spec hcopy (.inl rfl) rest).1 hu)

/-! ## The finalization -/

theorem closeOutput_spec {s t : LoopState} {error : Int} (h : j.closeOutput s = (t, error))
    (herror : 0 ≤ error) : t.written = s.written ∧ (s.Quiet → t.Quiet) := by
  unfold closeOutput at h
  split at h
  · obtain ⟨rfl, -⟩ := Prod.mk.inj h
    exact ⟨rfl, id⟩
  · simp only [Prod.mk.injEq] at h
    obtain ⟨rfl, rfl⟩ := h
    split at herror
    · omega
    · rename_i hflush
      refine ⟨rfl, fun hs step hstep => ?_⟩
      simp only [List.mem_append, List.mem_cons, List.not_mem_nil, or_false] at hstep
      obtain hold | rfl | rfl := hstep
      · exact hs step hold
      · simpa [RemuxStep.Failed] using hflush
      · simpa [RemuxStep.Failed] using herror

theorem signalFinished_quiet {s : LoopState} (hs : s.Quiet) : (j.signalFinished s).Quiet := by
  unfold signalFinished
  split
  · exact hs
  · exact LoopState.quiet_snoc rfl hs rfl

theorem finalize_spec {outputs : List AVCodecParameters} {s : LoopState}
    (h : (j.finalize outputs s).result.success = true) :
    (j.finalize outputs s).written = s.written ∧
      (s.Quiet → ∀ step ∈ (j.finalize outputs s).steps, step.Failed = false) := by
  unfold finalize at h ⊢
  by_cases htrailer : j.av.writeTrailer < 0
  · simp [htrailer, failed, RemuxResult.Fail] at h
  · simp only [htrailer, if_false] at h ⊢
    cases hclose : j.closeOutput { s with steps := s.steps ++ [.trailer j.av.writeTrailer] } with
    | mk t error =>
      simp only [hclose] at h ⊢
      by_cases herror : error < 0
      · simp [herror, RemuxResult.Fail] at h
      · simp only [herror, if_false]
        obtain ⟨hwritten, hquiet⟩ := closeOutput_spec hclose (by omega)
        refine ⟨hwritten, fun hs => signalFinished_quiet (hquiet ?_)⟩
        exact LoopState.quiet_snoc rfl hs (by simpa [RemuxStep.Failed] using htrailer)

/-- A remux that succeeded came to the end of its loop and through its finalization. -/
theorem success_ended (h : j.RemuxStreamCopy.result.success = true) :
    ∃ outputs s, j.RemuxStreamCopy = j.finalize outputs s ∧
      j.packetLoop { locked := j.startLocked } (j.av.packets.drop j.landing) = (s, .ended) := by
  unfold RemuxStreamCopy at h ⊢
  simp only at h ⊢
  split at h
  · cases h
  split at h
  · cases h
  split at h
  · cases h
  rename_i hopen hinfo halloc
  simp only [hopen, hinfo, halloc, if_false]
  split at h
  · cases h
  · rename_i outputs hmap
    split at h
    · cases h
    split at h
    · cases h
    split at h
    · cases h
    rename_i havio hheader hpacket
    simp only [hmap, havio, hheader, hpacket, if_false]
    unfold copyPackets at h ⊢
    cases hloop : j.packetLoop { locked := j.startLocked } (j.av.packets.drop j.landing) with
    | mk s stop =>
      simp only [hloop] at h ⊢
      cases stop with
      | ended => exact ⟨outputs, s, rfl, rfl⟩
      | cancelled => cases h
      | failed call ret => cases h

theorem success_written (h : j.RemuxStreamCopy.result.success = true) :
    j.RemuxStreamCopy.written =
      (j.copied j.startLocked (j.av.packets.drop j.landing)).map j.rescaled := by
  obtain ⟨outputs, s, hrun, hloop⟩ := success_ended h
  rw [hrun] at h ⊢
  rw [(finalize_spec h).1, loop_copies hloop]
  rfl

/-- Success is a guarantee: nothing that was done has failed. -/
theorem success_quiet (h : j.RemuxStreamCopy.result.success = true) :
    ∀ step ∈ j.RemuxStreamCopy.steps, step.Failed = false := by
  obtain ⟨outputs, s, hrun, hloop⟩ := success_ended h
  rw [hrun] at h ⊢
  exact (finalize_spec h).2 (loop_quiet hloop fun _ hstep => nomatch hstep)

/-! ## Inputs in order -/

/-- The packets of a recording, as `MatroskaStreamWriter` emits them: of known streams, stamped,
and in order over all streams. -/
structure Delivered (j : Job) : Prop where
  streams : ∀ pkt ∈ j.av.packets, (j.streamOf pkt).isSome
  stamped : ∀ pkt ∈ j.av.packets, pkt.pts ≠ AV_NOPTS_VALUE
  ordered : j.av.packets.Pairwise fun a b => j.ptsUs a ≤ j.ptsUs b

/-- Packet number `k` is the last video keyframe at or before the start. -/
def StartKeyframe (j : Job) (k : Nat) : Prop :=
  (∃ pkt, j.av.packets[k]? = some pkt ∧ j.isKeyframe pkt = true ∧ j.ptsUs pkt ≤ j.tr.startUs) ∧
    ∀ pkt ∈ j.av.packets.drop (k + 1), j.isKeyframe pkt = true → j.tr.startUs < j.ptsUs pkt

def beforeEnd (j : Job) (pkt : AVPacket) : Bool := j.tr.HasEnd → j.ptsUs pkt < j.tr.endUs

/-- The packets from the place on where the seek landed. -/
def source (j : Job) : List AVPacket := j.av.packets.drop j.landing

/-- The packets of other streams that stand between the end and the first picture behind it. -/
def edge (j : Job) : List AVPacket :=
  (j.source.dropWhile j.beforeEnd).takeWhile fun pkt => !j.isVideo pkt

theorem beforeEnd_not_pastEnd (pkt : AVPacket) (h : j.beforeEnd pkt = true) :
    (!j.pastEnd pkt) = true := by
  simp only [beforeEnd, decide_eq_true_eq] at h
  simp only [pastEnd, Bool.not_eq_true', decide_eq_false_iff_not]
  rintro ⟨hend, -, -, hpast⟩
  have := h hend
  omega

namespace Delivered

theorem source_ordered (h : j.Delivered) :
    j.source.Pairwise fun a b => j.beforeEnd b = true → j.beforeEnd a = true := by
  refine (h.ordered.sublist (List.drop_sublist _ _)).imp fun {a b} hab hb => ?_
  simp only [beforeEnd, decide_eq_true_eq] at hb ⊢
  intro hend
  have := hb hend
  omega

/-- Behind the end, what stops the loop is a picture. -/
theorem pastEnd_eq (h : j.Delivered) :
    ∀ pkt ∈ j.source.dropWhile j.beforeEnd, (!j.pastEnd pkt) = !j.isVideo pkt := by
  intro pkt hpkt
  have hlate := ListCut.dropWhile_false h.source_ordered pkt hpkt
  have hstamp : pkt.pts ≠ AV_NOPTS_VALUE :=
    h.stamped pkt (List.mem_of_mem_drop ((List.dropWhile_sublist _).subset hpkt))
  simp only [beforeEnd, decide_eq_false_iff_not, Classical.not_imp, Int.not_lt] at hlate
  simp [pastEnd, hlate.1, hlate.2, hstamp]

theorem takeWhile_pastEnd (h : j.Delivered) :
    j.source.takeWhile (fun pkt => !j.pastEnd pkt) = j.source.filter j.beforeEnd ++ j.edge := by
  rw [ListCut.takeWhile_of_imp beforeEnd_not_pastEnd, ListCut.filter_eq_takeWhile h.source_ordered,
    ListCut.takeWhile_congr h.pastEnd_eq]
  rfl

/-- The first packet of a trim with a start is the keyframe that ends the start boundary. -/
theorem copied_source (h : j.Delivered)
    (hseek : j.tr.HasStart → j.videoStreamIdx ≠ none → j.StartKeyframe j.landing) :
    j.copied j.startLocked j.source = j.source.filter j.beforeEnd ++ j.edge := by
  have hlocked : j.copied j.startLocked j.source = j.copied true j.source := by
    by_cases hopen : ¬ j.tr.HasStart ∨ j.videoStreamIdx = none
    · simp [startLocked, hopen]
    · obtain ⟨hstart, hvideo⟩ := not_or.mp hopen
      obtain ⟨⟨pkt, hpkt, hkey, -⟩, -⟩ := hseek (Classical.not_not.mp hstart) hvideo
      have hsource : j.source = pkt :: j.av.packets.drop (j.landing + 1) :=
        List.drop_eq_getElem?_toList_append.trans (by simp [hpkt])
      rw [hsource]
      exact copied_lock (.inr hkey)
  have hstreams : ∀ pkt ∈ j.source.takeWhile (fun pkt => !j.pastEnd pkt),
      (j.streamOf pkt).isSome = true := fun pkt hpkt =>
    h.streams pkt (List.mem_of_mem_drop ((List.takeWhile_sublist _).subset hpkt))
  rw [hlocked, ← h.takeWhile_pastEnd]
  exact List.filter_eq_self.mpr hstreams

end Delivered

/-- A remux that succeeds has written the packets from the landing of the seek on that stand
before the end, and behind them those of the edge, in the order of the input. It does not succeed
when a step fails or the callback cancels. -/
theorem trim_is_lossless (j : Job) (h : j.Delivered)
    (hseek : j.tr.HasStart → j.videoStreamIdx ≠ none → j.StartKeyframe j.landing)
    (hend : j.tr.HasEnd → j.videoStreamIdx ≠ none) :
    (j.RemuxStreamCopy.result.success = true →
      j.RemuxStreamCopy.written = (j.source.filter j.beforeEnd ++ j.edge).map j.rescaled ∧
        j.source.filter j.beforeEnd ++ j.edge <+: j.source) ∧
    ((∃ step ∈ j.RemuxStreamCopy.steps, step.Failed = true) →
      j.RemuxStreamCopy.result.success = false) := by
  refine ⟨fun hsuccess => ⟨?_, ?_⟩, ?_⟩
  · rw [← h.copied_source hseek]
    exact success_written hsuccess
  · rw [← h.takeWhile_pastEnd]
    exact List.takeWhile_prefix _
  · rintro ⟨step, hstep, hfailed⟩
    cases hsuccess : j.RemuxStreamCopy.result.success with
    | false => rfl
    | true =>
      rw [success_quiet hsuccess step hstep] at hfailed
      cases hfailed

end Job

/-! ## A trim with sound at its end -/

/-- A picture at 0 ms, a packet of sound at 30 ms, a picture at 40 ms; milliseconds throughout. -/
def edgeLibav : Libav where
  openInput := 0
  findStreamInfo := 0
  durationKnown := false
  streams := [⟨⟨1, 1000⟩, ⟨.video, .hevc, "", 1, 1, 1, 1, false⟩⟩,
    ⟨⟨1, 1000⟩, ⟨.audio, .other 0, "", 2, 2, 2, 0, false⟩⟩]
  packets := [⟨0, 0, 0, 40, 0, true, [1]⟩, ⟨1, 30, 30, 20, 1, true, [2]⟩,
    ⟨0, 40, 40, 40, 2, false, [3]⟩]
  allocOutputContext := (0, true)
  newStream := fun _ => true
  parametersCopy := fun _ => 0
  noFile := false
  avioOpen := 0
  writeHeader := fun _ => 0
  outputTimeBase := fun _ => ⟨1, 1000⟩
  seekFrame := fun _ _ => .ok 0
  packetAlloc := true
  readFault := fun _ => none
  interleavedWriteFrame := fun _ => 0
  writeTrailer := 0
  streamError := 0
  avioClosep := 0
  strerror := fun _ => ""

/-- From 10 ms to 20 ms. The fourth call of the callback is the last one. -/
def edgeJob : Job := ⟨edgeLibav, some fun call => call < 3, kMkvOptions, ⟨10000, 20000⟩, none⟩

theorem edgeJob_delivered : edgeJob.Delivered where
  streams := by decide
  stamped := by decide
  ordered := by decide

theorem edgeJob_startKeyframe : edgeJob.StartKeyframe edgeJob.landing :=
  ⟨⟨⟨0, 0, 0, 40, 0, true, [1]⟩, by decide, by decide, by decide⟩, by decide⟩

/-- The sound at 30 ms is written although the trim ends at 20 ms, and the callback that refuses
the last report does not turn the success around. -/
theorem sound_past_end :
    edgeJob.Delivered ∧ edgeJob.StartKeyframe edgeJob.landing ∧
      edgeJob.RemuxStreamCopy.result.success = true ∧
      edgeJob.RemuxStreamCopy.written ≠
        (edgeJob.source.filter edgeJob.beforeEnd).map edgeJob.rescaled ∧
      RemuxStep.finished false ∈ edgeJob.RemuxStreamCopy.steps :=
  ⟨edgeJob_delivered, edgeJob_startKeyframe, by decide, by decide, by decide⟩

theorem trim_is_lossless_edge :
    edgeJob.RemuxStreamCopy.written =
        (edgeJob.source.filter edgeJob.beforeEnd ++ edgeJob.edge).map edgeJob.rescaled ∧
      edgeJob.edge = [⟨1, 30, 30, 20, 1, true, [2]⟩] :=
  ⟨((edgeJob.trim_is_lossless edgeJob_delivered (fun _ _ => edgeJob_startKeyframe)
    (fun _ => by decide)).1 (by decide)).1, by decide⟩

end Exosnap.Remux
