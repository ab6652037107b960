/-
  Where the mux thread's audio packets end up: every non-empty audio packet with a track id in
  range is pushed once, counted as trimmed once, or dropped because its shifted PTS is negative
  (`audio_accounted`).

  This holds of the runs in which no packet waiting for a segment's first video packet is made
  negative by a second shift, and every split's file opens (`KeepsAudio`). A packet that is
  made negative disappears (`deferred_audio_lost`).

  The invariant is a count: at every moment the number of times a packet arrived is the number
  of times it is found in one of the places a packet can be in, the packets in flight included.
-/
import Exosnap.Engine.MuxAudioPlacement

namespace Exosnap.Engine.MuxThread

variable {env : MuxEnv} {view : SharedView} {st st' : MuxState} {h : HeldAudio}

/-- The audio packet a push wrote. -/
def WriterPush.audio? (p : WriterPush) : Option AudioArrival :=
  match p.source with
  | .video _ => none
  | .audio a => some a

/-- The audio packets pushed so far, over all segments. -/
def MuxState.pushedAudio (st : MuxState) : List AudioArrival :=
  (st.completed.flatMap CompletedSegment.pushes ++ st.seg.pushes).filterMap WriterPush.audio?

/-- How often a packet is found in the places a packet can be in. -/
def MuxState.placesOf (st : MuxState) (fl : List HeldAudio) (a : AudioArrival) : Nat :=
  st.pushedAudio.count a + st.trimmed.count a + st.dropped.count a + st.skipped.count a +
    (st.pendingAudio.map HeldAudio.origin).count a +
    (st.segmentPendingAudio.map HeldAudio.origin).count a + (fl.map HeldAudio.origin).count a

structure Accounted (env : MuxEnv) (fl : List HeldAudio) (st : MuxState) : Prop where
  count : ∀ a, st.arrivals.count a = st.placesOf fl a
  seqs : st.arrivals.map AudioArrival.seq = List.range st.arrivals.length
  counted : st.trimmedAudioPackets = st.trimmed.length
  skippedOut : ∀ a ∈ st.skipped, env.inRange a.packet.trackId = false
  placedIn : ∀ a ∈ st.pushedAudio ++ st.trimmed ++ st.dropped, env.inRange a.packet.trackId = true
  heldIn : ∀ h ∈ st.segmentPendingAudio, env.inRange h.origin.packet.trackId = true
  droppedNegative : ∀ a ∈ st.dropped, st.Settled a.packet.trackId ∧
    shiftAudioPts a.packet.ptsNs (st.shiftOf a.packet.trackId) = none

/-- A second shift does not make the packet negative. -/
def Survives (shift : Int64) (h : HeldAudio) : Prop := shiftAudioPts h.payload.ptsNs shift ≠ none

instance (shift : Int64) (h : HeldAudio) : Decidable (Survives shift h) :=
  inferInstanceAs (Decidable (_ ≠ _))

/-- A push drops only a packet whose own shifted PTS is negative. -/
theorem negative_of_inFlight {s : Int64} (hf : InFlight Survives st h)
    (hs : shiftAudioPts h.payload.ptsNs s = none)
    (hshift : st.Settled h.payload.trackId → s = st.shiftOf h.payload.trackId) :
    shiftAudioPts h.origin.packet.ptsNs s = none := by
  rcases hf with heq | ⟨-, honce, hready⟩
  · rw [← heq]
    exact hs
  · rw [hshift honce.settled] at hs
    exact absurd hs hready

theorem Accounted.dropped_latch {f : UInt32 → Option Int64} {fl : List HeldAudio}
    (hA : Accounted env fl st) (hf : Latching env view st f) (ha : st'.audioShift = f)
    (hr : st'.epochResolved = st.epochResolved) :
    ∀ a ∈ st.dropped, st'.Settled a.packet.trackId ∧
      shiftAudioPts a.packet.ptsNs (st'.shiftOf a.packet.trackId) = none := by
  intro a hmem
  obtain ⟨hset, hneg⟩ := hA.droppedNegative a hmem
  exact ⟨hf.settled_mono ha hr hset, by rw [hf.shiftOf_mono ha hset]; exact hneg⟩

theorem pushedAudio_of_append {st st' : MuxState} {p : WriterPush}
    (hc : st'.completed = st.completed) (hp : st'.seg.pushes = st.seg.pushes ++ [p]) :
    st'.pushedAudio = st.pushedAudio ++ p.audio?.toList := by
  rw [MuxState.pushedAudio, MuxState.pushedAudio, hc, hp, ← List.append_assoc,
    List.filterMap_append]
  cases hq : p.audio? <;> simp [hq]

/-- One packet leaves the flight for one place. -/
structure PlacesOne (st st' : MuxState) (o : AudioArrival)
    (toPushed toTrimmed toDropped toSkipped : List AudioArrival) (toHeld : List HeldAudio) : Prop where
  arrivals : st'.arrivals = st.arrivals
  pendingAudio : st'.pendingAudio = st.pendingAudio
  pushedAudio : st'.pushedAudio = st.pushedAudio ++ toPushed
  trimmed : st'.trimmed = st.trimmed ++ toTrimmed
  trimmedAudioPackets : st'.trimmedAudioPackets = st.trimmedAudioPackets + toTrimmed.length
  dropped : st'.dropped = st.dropped ++ toDropped
  skipped : st'.skipped = st.skipped ++ toSkipped
  segmentPendingAudio : st'.segmentPendingAudio = st.segmentPendingAudio ++ toHeld
  one : toPushed ++ toTrimmed ++ toDropped ++ toSkipped ++ toHeld.map HeldAudio.origin = [o]

theorem PlacesOne.placesOf_eq {toPushed toTrimmed toDropped toSkipped : List AudioArrival}
    {toHeld fl : List HeldAudio}
    (hp : PlacesOne st st' h.origin toPushed toTrimmed toDropped toSkipped toHeld)
    (a : AudioArrival) : st'.placesOf fl a = st.placesOf (h :: fl) a := by
  have hone := congrArg (List.count a) hp.one
  rw [MuxState.placesOf, MuxState.placesOf, hp.pushedAudio, hp.trimmed, hp.dropped, hp.skipped,
    hp.segmentPendingAudio, hp.pendingAudio]
  simp only [List.map_append, List.map_cons, List.count_cons, List.count_append, List.count_nil]
    at hone ⊢
  omega

/-- The accounting is kept when the place is right for the packet: a skipped packet is out of
    range, every other one is in range, and a dropped one is negative after its shift. -/
theorem Accounted.place {toPushed toTrimmed toDropped toSkipped : List AudioArrival}
    {toHeld fl : List HeldAudio} (hA : Accounted env (h :: fl) st)
    (hp : PlacesOne st st' h.origin toPushed toTrimmed toDropped toSkipped toHeld)
    (hout : ∀ a ∈ toSkipped, env.inRange a.packet.trackId = false)
    (hin : ∀ a ∈ toPushed ++ toTrimmed ++ toDropped, env.inRange a.packet.trackId = true)
    (hheld : ∀ g ∈ toHeld, env.inRange g.origin.packet.trackId = true)
    (hneg : ∀ a ∈ st.dropped ++ toDropped, st'.Settled a.packet.trackId ∧
      shiftAudioPts a.packet.ptsNs (st'.shiftOf a.packet.trackId) = none) :
    Accounted env fl st' where
  count := fun a => by
    rw [hp.arrivals, hA.count a, hp.placesOf_eq a]
  seqs := by
    rw [hp.arrivals]
    exact hA.seqs
  counted := by
    rw [hp.trimmedAudioPackets, hp.trimmed, hA.counted, List.length_append]
  skippedOut := fun a hmem => by
    rw [hp.skipped] at hmem
    rcases List.mem_append.mp hmem with hold | hnew
    · exact hA.skippedOut a hold
    · exact hout a hnew
  placedIn := fun a hmem => by
    have hbefore := hA.placedIn a
    have hafter := hin a
    rw [hp.pushedAudio, hp.trimmed, hp.dropped] at hmem
    simp only [List.mem_append] at hmem hbefore hafter
    tauto
  heldIn := fun g hmem => by
    rw [hp.segmentPendingAudio] at hmem
    rcases List.mem_append.mp hmem with hold | hnew
    · exact hA.heldIn g hold
    · exact hheld g hnew
  droppedNegative := by
    rw [hp.dropped]
    exact hneg

/-- A packet dropped after a shift is negative after its own track's shift. -/
theorem dropped_negative {f : UInt32 → Option Int64} {s : Int64} {fl : List HeldAudio}
    (hI : HoldInv Survives (h :: fl) st) (hf : Latched env view st h.payload.trackId f s)
    (hs : shiftAudioPts h.payload.ptsNs s = none) :
    shiftAudioPts h.origin.packet.ptsNs ((f h.payload.trackId).getD 0) = none := by
  rw [hf.value hI.unlatched]
  refine negative_of_inFlight (hI.flight h List.mem_cons_self) hs fun hsettled => ?_
  rw [← hf.value hI.unlatched]
  exact hf.shiftOf_eq hsettled

/-- Whatever a push does with a packet while the segment's file is open, the packet leaves the
    flight for one place. -/
theorem Accounted.push {fl : List HeldAudio} (hA : Accounted env (h :: fl) st)
    (hI : HoldInv Survives (h :: fl) st) (halive : st.seg.writer ≠ none)
    (hlive : st.writeError = false) (ho : AudioOutcome env view st h st') :
    Accounted env fl st' := by
  have hsame := ho.same
  have htrack := (hI.flight h List.mem_cons_self).trackId
  cases ho with
  | abandoned hdead =>
      rcases hdead with hwe | hclosed
      · rw [hwe] at hlive
        cases hlive
      · exact absurd hclosed halive
  | skipped hout =>
      rw [htrack] at hout
      have hp : PlacesOne st { st with skipped := st.skipped ++ [h.origin] } h.origin
          [] [] [] [h.origin] [] := by
        constructor <;> simp [MuxState.pushedAudio]
      refine hA.place hp (by simpa using hout) (by simp) (by simp) ?_
      rw [List.append_nil]
      exact hA.droppedNegative
  | dropped f s hf hin hs =>
      have hneg := dropped_negative hI hf hs
      have hp : PlacesOne st { st with audioShift := f, dropped := st.dropped ++ [h.origin] }
          h.origin [] [] [h.origin] [] [] := by
        constructor <;> simp [MuxState.pushedAudio]
      have hsettled := hf.settled
      rw [htrack] at hin hneg hsettled
      refine hA.place hp (by simp) (by simpa using hin) (by simp) fun a hmem => ?_
      rcases List.mem_append.mp hmem with hmem | hmem
      · exact hA.dropped_latch hf.toLatching rfl hsame.epochResolved a hmem
      · rw [List.mem_singleton.mp hmem]
        exact ⟨hsettled, hneg⟩
  | deferred f s q hf hin hs hset =>
      have hp : PlacesOne st { st with
          audioShift := f
          segmentPendingAudio :=
            st.segmentPendingAudio ++ [⟨{ h.payload with ptsNs := q }, h.origin⟩] }
          h.origin [] [] [] [] [⟨{ h.payload with ptsNs := q }, h.origin⟩] := by
        constructor <;> simp [MuxState.pushedAudio]
      rw [htrack] at hin
      exact hA.place hp (by simp) (by simp) (by simpa using hin)
        (by simpa using hA.dropped_latch hf.toLatching rfl hsame.epochResolved)
  | trimmed f s q hf hin hs hset hlt =>
      have hp : PlacesOne st { st with
          audioShift := f
          trimmedAudioPackets := st.trimmedAudioPackets + 1
          trimmed := st.trimmed ++ [h.origin] } h.origin [] [h.origin] [] [] [] := by
        constructor <;> simp [MuxState.pushedAudio]
      rw [htrack] at hin
      exact hA.place hp (by simp) (by simpa using hin) (by simp)
        (by simpa using hA.dropped_latch hf.toLatching rfl hsame.epochResolved)
  | written f s q w maxLocal ends err hf hin hs hopen hset hge _ =>
      have hpushed := pushedAudio_of_append hsame.completed rfl
      have hp : PlacesOne st _ h.origin [h.origin] [] [] [] [] := {
        arrivals := hsame.arrivals
        pendingAudio := hsame.pendingAudio
        pushedAudio := hpushed
        trimmed := (List.append_nil _).symm
        trimmedAudioPackets := rfl
        dropped := (List.append_nil _).symm
        skipped := (List.append_nil _).symm
        segmentPendingAudio := (List.append_nil _).symm
        one := rfl }
      rw [htrack] at hin
      exact hA.place hp (by simp) (by simpa using hin) (by simp)
        (by simpa using hA.dropped_latch hf.toLatching rfl hsame.epochResolved)

theorem AudioOutcome.alive (ho : AudioOutcome env view st h st') (halive : st.seg.writer ≠ none) :
    st'.seg.writer ≠ none := by
  cases ho with
  | written _ _ _ _ _ _ _ _ _ _ _ _ _ _ => exact fun h => by cases h
  | abandoned _ => exact halive
  | skipped _ => exact halive
  | dropped _ _ _ _ _ => exact halive
  | deferred _ _ _ _ _ _ _ => exact halive
  | trimmed _ _ _ _ _ _ _ _ => exact halive

/-- Packets change places between the hold queues and the flight. -/
theorem Accounted.move {fl fl' pending held : List HeldAudio} (hA : Accounted env fl st)
    (hcount : ∀ a, st.placesOf fl a =
      { st with pendingAudio := pending, segmentPendingAudio := held }.placesOf fl' a)
    (hheld : ∀ h ∈ held, h ∈ st.segmentPendingAudio) :
    Accounted env fl' { st with pendingAudio := pending, segmentPendingAudio := held } where
  count := fun a => (hA.count a).trans (hcount a)
  seqs := hA.seqs
  counted := hA.counted
  skippedOut := hA.skippedOut
  placedIn := hA.placedIn
  heldIn := fun h hmem => hA.heldIn h (hheld h hmem)
  droppedNegative := hA.droppedNegative

theorem Accounted.hold (hA : Accounted env [h] st) :
    Accounted env [] { st with pendingAudio := st.pendingAudio ++ [h] } :=
  hA.move (fun a => by
    simp only [MuxState.placesOf, MuxState.pushedAudio, List.map_append, List.count_append,
      List.map_nil, List.count_nil]
    omega) fun _ hmem => hmem

theorem Accounted.takePending {fl : List HeldAudio} (hA : Accounted env fl st) :
    Accounted env (st.pendingAudio ++ fl) { st with pendingAudio := [] } :=
  hA.move (fun a => by
    simp only [MuxState.placesOf, MuxState.pushedAudio, List.map_append, List.count_append,
      List.map_nil, List.count_nil]
    omega) fun _ hmem => hmem

theorem Accounted.takeHeld {fl : List HeldAudio} (hA : Accounted env fl st) :
    Accounted env (st.segmentPendingAudio ++ fl) { st with segmentPendingAudio := [] } :=
  hA.move (fun a => by
    simp only [MuxState.placesOf, MuxState.pushedAudio, List.map_append, List.count_append,
      List.map_nil, List.count_nil]
    omega) (by simp)

/-- What the accounting reads. -/
structure SamePlaces (st st' : MuxState) : Prop where
  pushedAudio : st'.pushedAudio = st.pushedAudio
  arrivals : st'.arrivals = st.arrivals
  trimmed : st'.trimmed = st.trimmed
  trimmedAudioPackets : st'.trimmedAudioPackets = st.trimmedAudioPackets
  dropped : st'.dropped = st.dropped
  skipped : st'.skipped = st.skipped
  pendingAudio : st'.pendingAudio = st.pendingAudio
  segmentPendingAudio : st'.segmentPendingAudio = st.segmentPendingAudio
  epochResolved : st'.epochResolved = st.epochResolved
  audioShift : st'.audioShift = st.audioShift

theorem Accounted.congr {fl : List HeldAudio} (hA : Accounted env fl st) (hs : SamePlaces st st') :
    Accounted env fl st' where
  count := fun a => by
    rw [MuxState.placesOf, hs.pushedAudio, hs.arrivals, hs.trimmed, hs.dropped, hs.skipped,
      hs.pendingAudio, hs.segmentPendingAudio]
    exact hA.count a
  seqs := by rw [hs.arrivals]; exact hA.seqs
  counted := by rw [hs.trimmedAudioPackets, hs.trimmed]; exact hA.counted
  skippedOut := by rw [hs.skipped]; exact hA.skippedOut
  placedIn := by rw [hs.pushedAudio, hs.trimmed, hs.dropped]; exact hA.placedIn
  heldIn := by rw [hs.segmentPendingAudio]; exact hA.heldIn
  droppedNegative := by
    rw [hs.dropped]
    intro a hmem
    rw [MuxState.Settled, MuxState.shiftOf, hs.epochResolved, hs.audioShift]
    exact hA.droppedNegative a hmem

theorem Accounted.arrive (hA : Accounted env [] st) (payload : EncodedAudioPacket) :
    Accounted env [⟨payload, st.arrival payload⟩]
      { st with arrivals := st.arrivals ++ [st.arrival payload] } where
  count := fun a => by
    have := hA.count a
    simp only [MuxState.placesOf, MuxState.pushedAudio, List.map_cons, List.map_nil,
      List.count_append, List.count_cons, List.count_nil] at this ⊢
    omega
  seqs := by
    show (st.arrivals ++ [st.arrival payload]).map AudioArrival.seq =
      List.range (st.arrivals ++ [st.arrival payload]).length
    rw [List.map_append, hA.seqs, List.length_append, List.length_singleton, List.range_succ]
    rfl
  counted := hA.counted
  skippedOut := hA.skippedOut
  placedIn := hA.placedIn
  heldIn := hA.heldIn
  droppedNegative := hA.droppedNegative

theorem Accounted.video {p : EncodedVideoPacket} (hA : Accounted env [] st)
    (ho : VideoOutcome st p st') (hok : st'.writeError = false) : Accounted env [] st' := by
  cases ho with
  | idle _ => exact hA
  | failed _ herr =>
      rw [herr] at hok
      cases hok
  | written w maxLocal err mp hopen _ =>
      refine hA.congr ⟨?_, rfl, rfl, rfl, rfl, rfl, rfl, rfl, rfl, rfl⟩
      simp [MuxState.pushedAudio, WriterPush.audio?]

/-- Finalizing moves the segment's pushes into its report. -/
theorem Accounted.finalize (hA : Accounted env [] st) (view : SharedView) (sessionEnd : Bool) :
    Accounted env [] (finalizeSegment env view sessionEnd st) := by
  cases hw : st.seg.writer with
  | none => rw [finalizeSegment_of_none hw]; exact hA
  | some w =>
      obtain ⟨c, err, hc, heq⟩ := finalizeSegment_of_some env view sessionEnd hw
      rw [heq]
      refine hA.congr ⟨?_, rfl, rfl, rfl, rfl, rfl, rfl, rfl, rfl, rfl⟩
      simp [MuxState.pushedAudio, hc]

/-! ## The run -/

/-- Before the video epoch is known no packet is deferred or dropped. -/
structure NothingPlaced (st : MuxState) : Prop where
  noneDeferred : st.NoneDeferred
  noneDropped : st.epochResolved = false → st.dropped = []

theorem Accounted.resolve {fl : List HeldAudio} (hA : Accounted env fl st) (hN : NothingPlaced st)
    (view : SharedView) : Accounted env fl (resolveEpoch view st) := by
  unfold resolveEpoch
  split
  · exact hA
  · rename_i hres
    split
    · exact hA
    · exact {
        count := hA.count
        seqs := hA.seqs
        counted := hA.counted
        skippedOut := hA.skippedOut
        placedIn := hA.placedIn
        heldIn := hA.heldIn
        droppedNegative := fun a hmem => by
          rw [show st.dropped = [] from hN.noneDropped (Bool.eq_false_iff.mpr hres)] at hmem
          cases hmem }

theorem NothingPlaced.of_resolved (hres : st.epochResolved = true) : NothingPlaced st :=
  ⟨fun h => absurd h (by simp [hres]), fun h => absurd h (by simp [hres])⟩

/-! ### The session hold is empty once the epoch is known -/

theorem drainHeld_writeError_eq (l : List HeldAudio) :
    ∀ st, (drainHeld env view st l).1.writeError = false → st.writeError = false := by
  induction l with
  | nil => exact fun _ hok => hok
  | cons h l ih =>
      intro st hok
      unfold drainHeld at hok
      split at hok
      · exact hok
      · exact (pushAudio_outcome env view st h).writeError_eq (ih _ hok)

/-- What a drain of the segment's hold leaves alone. -/
theorem drainSegment_same (env : MuxEnv) (view : SharedView) (st : MuxState) :
    SameQueues st (drainSegmentPendingAudio env view st) := by
  unfold drainSegmentPendingAudio
  split
  · exact ⟨rfl, rfl, rfl, rfl, rfl, rfl, rfl⟩
  · have h := drainHeld_same env view st.segmentPendingAudio { st with segmentPendingAudio := [] }
    exact ⟨h.1, h.2, h.3, h.4, h.5, h.6, h.7⟩

theorem drainSegment_writeError_eq
    (hok : (drainSegmentPendingAudio env view st).writeError = false) : st.writeError = false := by
  unfold drainSegmentPendingAudio at hok
  split at hok
  · exact hok
  · exact drainHeld_writeError_eq st.segmentPendingAudio { st with segmentPendingAudio := [] } hok

theorem drainPendingLoop_empty (hok : (drainPendingLoop env view st).writeError = false) :
    (drainPendingLoop env view st).pendingAudio = [] :=
  (drainHeld_left env view st.pendingAudio { st with pendingAudio := [] }).resolve_right
    fun herr => by
      have : (drainPendingLoop env view st).writeError = true := herr
      rw [hok] at this
      cases this

theorem drainPending_empty (hok : (drainPendingAudio env view st).writeError = false)
    (hres : (drainPendingAudio env view st).epochResolved = true) :
    (drainPendingAudio env view st).pendingAudio = [] := by
  rw [drainPendingAudio_epochResolved] at hres
  unfold drainPendingAudio at hok ⊢
  rw [if_neg (by simp [hres])] at hok ⊢
  exact drainPendingLoop_empty hok

def Drained (st : MuxState) : Prop :=
  st.writeError = false → st.epochResolved = true → st.pendingAudio = []

theorem Drained.finalizeOpen {index : UInt32} (hD : Drained st) :
    Drained (openSegment env (finalizeSegment env view false st) index 0 false).1 := by
  have ho := openSegment_outcome env (finalizeSegment env view false st) index
  have hwe := ho.writeError_eq
  generalize openSegment env (finalizeSegment env view false st) index 0 false = r at ho hwe
  have hq : r.1.epochResolved = st.epochResolved ∧ r.1.pendingAudio = st.pendingAudio := by
    have hf : (finalizeSegment env view false st).epochResolved = st.epochResolved ∧
        (finalizeSegment env view false st).pendingAudio = st.pendingAudio := by
      unfold finalizeSegment
      split <;> exact ⟨rfl, rfl⟩
    cases ho <;> exact hf
  intro hok hres
  rw [hq.2]
  exact hD (finalizeSegment_writeError_eq (hwe ▸ hok)) (hq.1 ▸ hres)

theorem handle_drained {step : SharedView × MuxItem} (hD : Drained st) :
    Drained (handle env st step) := by
  obtain ⟨view, item⟩ := step
  -- a drain of the session hold, then of the segment's
  have hboth : ∀ st : MuxState,
      Drained (drainSegmentPendingAudio env view (drainPendingAudio env view st)) := by
    intro st hok hres
    have hs := drainSegment_same env view (drainPendingAudio env view st)
    rw [hs.pendingAudio]
    exact drainPending_empty (drainSegment_writeError_eq hok) (hs.epochResolved ▸ hres)
  cases item with
  | video payload =>
      unfold handle
      dsimp only
      split
      · exact hD
      · exact hboth _
  | audio payload =>
      unfold handle
      dsimp only
      split
      · exact hD
      · split
        · intro hok hres
          have ho := pushAudio_outcome env view
            (drainPendingAudio env view
              (resolveEpoch view { st with arrivals := st.arrivals ++ [st.arrival payload] }))
            ⟨payload, st.arrival payload⟩
          have hp := ho.same.pendingAudio
          have he := ho.same.epochResolved
          exact hp.trans (drainPending_empty (ho.writeError_eq hok) (he ▸ hres))
        · rename_i hoff
          exact fun _ hres => absurd hres hoff
  | split s =>
      unfold handle beginNewSegment
      dsimp only
      split
      · exact hD
      · split
        · rename_i hwe
          exact fun hok => absurd hwe (by simp [hok])
        · exact (hboth st).finalizeOpen
  | videoEos => exact hD
  | audioEos track =>
      unfold handle
      dsimp only
      split <;> exact hD

/-- The invariant of a run without write errors whose splits all find a file. -/
structure AccountingInv (env : MuxEnv) (fl : List HeldAudio) (st : MuxState) : Prop where
  hold : HoldInv Survives fl st
  places : Accounted env fl st
  alive : st.seg.writer ≠ none
  nothing : NothingPlaced st

theorem resolveEpoch_seg (view : SharedView) (st : MuxState) :
    (resolveEpoch view st).seg = st.seg := by
  unfold resolveEpoch
  split
  · rfl
  · split <;> rfl

theorem NothingPlaced.resolve (hN : NothingPlaced st) (view : SharedView) :
    NothingPlaced (resolveEpoch view st) := by
  unfold resolveEpoch
  split
  · exact hN
  · split
    · exact hN
    · exact NothingPlaced.of_resolved rfl

theorem AccountingInv.video {p : EncodedVideoPacket} (hJ : AccountingInv env [] st)
    (hready : st.seg.epochSet = false →
      ∀ g ∈ st.segmentPendingAudio, Survives (st.shiftOf g.payload.trackId) g)
    (ho : VideoOutcome st p st') (hok : st'.writeError = false) : AccountingInv env [] st' where
  hold := hJ.hold.video hready ho hok
  places := hJ.places.video ho hok
  alive := by
    cases ho with
    | idle _ => exact hJ.alive
    | failed _ herr =>
        rw [herr] at hok
        cases hok
    | written _ _ _ _ _ _ => exact fun h => by cases h
  nothing := by
    cases ho with
    | idle _ => exact hJ.nothing
    | failed _ herr =>
        rw [herr] at hok
        cases hok
    | written _ _ _ _ _ _ => exact ⟨hJ.nothing.noneDeferred, hJ.nothing.noneDropped⟩

/-- A split whose file opens leaves an open segment, with nothing pushed yet. -/
theorem AccountingInv.split {index : UInt32} {r : MuxState × Bool} (hJ : AccountingInv env [] st)
    (hopens : env.segmentOpens index = true) (view : SharedView)
    (ho : OpenOutcome env (finalizeSegment env view false st) index r) :
    AccountingInv env [] r.1 := by
  have hA := hJ.places.finalize view false
  have hI := hJ.hold.finalize env view false
  have hN : NothingPlaced (finalizeSegment env view false st) := by
    unfold finalizeSegment
    split
    · exact hJ.nothing
    · exact ⟨hJ.nothing.noneDeferred, hJ.nothing.noneDropped⟩
  have hnone : (finalizeSegment env view false st).seg.pushes = [] := by
    unfold finalizeSegment
    split
    · rename_i hw
      exact absurd hw hJ.alive
    · rfl
  have hI' := hI.open ho
  cases ho with
  | noPath failure hfails =>
      rw [hopens] at hfails
      cases hfails
  | failed failure hfails =>
      rw [hopens] at hfails
      cases hfails
  | opened w _ =>
      refine ⟨hI', hA.congr ⟨?_, rfl, rfl, rfl, rfl, rfl, rfl, rfl, rfl, rfl⟩, fun h => (by cases h),
        ⟨hN.noneDeferred, hN.noneDropped⟩⟩
      rw [MuxState.pushedAudio, MuxState.pushedAudio, hnone]

/-- Every packet in a place stays there or moves to one other place. -/
theorem accounting_rule (env : MuxEnv) :
    StepRule env Survives (fun s => env.segmentOpens s.newSegmentIndex = true)
      (fun fl st => st.writeError = false → AccountingInv env fl st) where
  error := fun fl st herr hok => by rw [herr] at hok; cases hok
  noneDeferred := fun fl st hJ hok => (hJ hok).nothing.noneDeferred
  resolve := fun view fl st hfresh hJ hok =>
    have hj := hJ (resolveEpoch_writeError view st ▸ hok)
    ⟨hj.hold.resolve hj.nothing.noneDeferred hfresh view, hj.places.resolve hj.nothing view,
      by rw [resolveEpoch_seg]; exact hj.alive, hj.nothing.resolve view⟩
  arrive := fun st payload hJ hok =>
    have hj := hJ hok
    ⟨hj.hold.arrive payload, hj.places.arrive payload, hj.alive, ⟨hj.nothing.1, hj.nothing.2⟩⟩
  hold := fun st h hfresh _ hJ hok =>
    have hj := hJ hok
    ⟨hj.hold.hold hfresh, hj.places.hold, hj.alive, ⟨hj.nothing.1, hj.nothing.2⟩⟩
  takePending := fun fl st hJ hok =>
    have hj := hJ hok
    ⟨hj.hold.takePending, hj.places.takePending, hj.alive, ⟨hj.nothing.1, hj.nothing.2⟩⟩
  takeHeld := fun fl st hset hJ hok =>
    have hj := hJ hok
    ⟨hj.hold.takeHeld hset, hj.places.takeHeld, hj.alive, ⟨fun _ => rfl, hj.nothing.2⟩⟩
  push := fun view st h fl st' hres hJ ho hok =>
    have hj := hJ (ho.writeError_eq hok)
    ⟨hj.hold.push ho, hj.places.push hj.hold hj.alive (ho.writeError_eq hok) ho,
      ho.alive hj.alive, NothingPlaced.of_resolved (ho.same.epochResolved.trans hres)⟩
  video := fun st p st' hready hJ ho hok => (hJ (ho.writeError_eq hok)).video hready ho hok
  split := fun view st s r hopens hJ hok ho _ =>
    (hJ (finalizeSegment_writeError_eq hok)).split hopens view ho
  eos := fun st v a hJ hok =>
    have hj := hJ hok
    ⟨hj.hold.congr ⟨rfl, rfl, rfl, rfl, rfl, rfl, rfl⟩ rfl rfl,
      hj.places.congr ⟨rfl, rfl, rfl, rfl, rfl, rfl, rfl, rfl, rfl, rfl⟩,
      hj.alive, ⟨hj.nothing.1, hj.nothing.2⟩⟩

theorem tail_accounting (env : MuxEnv) : DrainRule env (fun _ => True) (fun fl st =>
    st.writeError = false → HoldInv Survives fl st ∧ Accounted env fl st ∧ st.seg.writer ≠ none) where
  error := fun fl st herr hok => by rw [herr] at hok; cases hok
  takePending := fun fl st hJ hok =>
    have ⟨hI, hA, halive⟩ := hJ hok
    ⟨hI.takePending, hA.takePending, halive⟩
  takeHeld := fun fl st hset hJ hok =>
    have ⟨hI, hA, halive⟩ := hJ hok
    ⟨hI.takeHeld hset, hA.takeHeld, halive⟩
  push := fun view st h fl st' _ hJ ho hok =>
    have ⟨hI, hA, halive⟩ := hJ (ho.writeError_eq hok)
    ⟨hI.push ho, hA.push hI halive (ho.writeError_eq hok) ho, ho.alive halive⟩

theorem placeTail_empty (hD : Drained st) (hok : (placeTail env view st).writeError = false) :
    (placeTail env view st).pendingAudio = [] := by
  unfold placeTail at hok ⊢
  have hlive := drainSegment_writeError_eq hok
  rw [(drainSegment_same env view _).pendingAudio]
  by_cases hres : st.epochResolved = true
  · rw [if_neg (by simp [hres])] at hlive ⊢
    exact hD hlive hres
  · rw [if_pos (by simp [hres])] at hlive ⊢
    exact drainPendingLoop_empty hlive

/-- The deferred packets the last flush leaves are counted as trimmed. -/
theorem Accounted.trimHeld (hA : Accounted env [] st) :
    Accounted env [] { st with
      trimmedAudioPackets := st.trimmedAudioPackets + st.segmentPendingAudio.length
      trimmed := st.trimmed ++ st.segmentPendingAudio.map HeldAudio.origin
      segmentPendingAudio := [] } where
  count := fun a => by
    have := hA.count a
    simp only [MuxState.placesOf, MuxState.pushedAudio, List.map_nil, List.count_append,
      List.count_nil] at this ⊢
    omega
  seqs := hA.seqs
  counted := by
    show st.trimmedAudioPackets + st.segmentPendingAudio.length = _
    rw [hA.counted, List.length_append, List.length_map]
  skippedOut := hA.skippedOut
  placedIn := fun a hmem => by
    have hbefore := hA.placedIn a
    simp only [MuxState.pushedAudio, List.mem_append, List.mem_map] at hmem hbefore
    rcases hmem with (hmem | hmem | ⟨g, hg, rfl⟩) | hmem
    · exact hbefore (Or.inl (Or.inl hmem))
    · exact hbefore (Or.inl (Or.inr hmem))
    · exact hA.heldIn g hg
    · exact hbefore (Or.inr hmem)
  heldIn := by simp
  droppedNegative := hA.droppedNegative

/-- What a finished run is known by. -/
theorem finish_accounted (hJ : st.writeError = false → AccountingInv env [] st) (hD : Drained st)
    (hok : (finish env view st).writeError = false) :
    Accounted env [] (finish env view st) ∧ (finish env view st).pendingAudio = [] ∧
      (finish env view st).segmentPendingAudio = [] := by
  obtain ⟨failure, heq⟩ := finish_eq env view st
  rw [heq] at hok ⊢
  have hflush : (flushTail env view st).writeError = false := finalizeSegment_writeError_eq hok
  rw [flushTail_eq] at hflush
  obtain ⟨-, hA, -⟩ := (tail_accounting env).placeTail view
    (fun h => ⟨(hJ h).hold, (hJ h).places, (hJ h).alive⟩) hflush
  have hAf := (hA.trimHeld).finalize view true
  have hempty := placeTail_empty hD hflush
  refine ⟨hAf.congr ⟨rfl, rfl, rfl, rfl, rfl, rfl, rfl, rfl, rfl, rfl⟩, ?_, ?_⟩
  · show (finalizeSegment env view true (flushTail env view st)).pendingAudio = []
    unfold finalizeSegment
    split <;> exact hempty
  · show (finalizeSegment env view true (flushTail env view st)).segmentPendingAudio = []
    unfold finalizeSegment
    split <;> rfl

/-! ## Every packet in one place -/

/-- The packets accounted for, each in the one place it went to. -/
theorem Accounted.perm (hA : Accounted env [] st) (hpending : st.pendingAudio = [])
    (hheld : st.segmentPendingAudio = []) :
    (st.pushedAudio ++ st.trimmed ++ st.dropped).Perm
      (st.arrivals.filter fun a => env.inRange a.packet.trackId) := by
  rw [List.perm_iff_count]
  intro a
  have hc := hA.count a
  rw [MuxState.placesOf, hpending, hheld] at hc
  simp only [List.map_nil, List.count_nil, Nat.add_zero] at hc
  rw [List.count_append, List.count_append]
  cases hr : env.inRange a.packet.trackId with
  | true =>
      have hskip : st.skipped.count a = 0 := List.count_eq_zero.mpr fun hmem => by
        rw [hA.skippedOut a hmem] at hr
        cases hr
      rw [List.count_filter (by simpa using hr)]
      omega
  | false =>
      have hplaced : (st.pushedAudio ++ st.trimmed ++ st.dropped).count a = 0 :=
        List.count_eq_zero.mpr fun hmem => by
          rw [hA.placedIn a hmem] at hr
          cases hr
      rw [List.count_append, List.count_append] at hplaced
      rw [hplaced, List.count_eq_zero.mpr fun hmem => by
        have := List.of_mem_filter hmem
        rw [hr] at this
        cases this]

theorem Accounted.nodup (hA : Accounted env [] st) : st.arrivals.Nodup :=
  List.Nodup.of_map _ (hA.seqs ▸ List.nodup_range)

/-- A waiting packet survives its second shift, and every split's file opens. -/
def KeepsAudio (env : MuxEnv) : MuxState → SharedView × MuxItem → Prop :=
  StepGuard Survives fun s => env.segmentOpens s.newSegmentIndex = true

instance (env : MuxEnv) (st : MuxState) (step : SharedView × MuxItem) :
    Decidable (KeepsAudio env st step) :=
  inferInstanceAs (Decidable (StepGuard Survives
    (fun s => env.segmentOpens s.newSegmentIndex = true) st step))

/-- Each audio packet in range that arrived is in exactly one of the three lists, once: pushed,
    trimmed (and counted), or dropped with a negative shifted PTS. The hold queues are empty. -/
theorem audio_accounted {env : MuxEnv} {input : MuxInput}
    (hguard : StepRun.Meets (fun st a => some (handle env st a)) (KeepsAudio env) (started env).1
      input.steps)
    (hok : (run env input).writeError = false) :
    ((run env input).pushedAudio ++ (run env input).trimmed ++ (run env input).dropped).Perm
        ((run env input).arrivals.filter fun a => env.inRange a.packet.trackId) ∧
      ((run env input).pushedAudio ++ (run env input).trimmed ++ (run env input).dropped).Nodup ∧
      (run env input).trimmedAudioPackets = (run env input).trimmed.length ∧
      (∀ a ∈ (run env input).dropped,
        shiftAudioPts a.packet.ptsNs ((run env input).shiftOf a.packet.trackId) = none) ∧
      (run env input).pendingAudio = [] ∧ (run env input).segmentPendingAudio = [] := by
  rcases run_cases env input with ⟨w, -, hstart, hrun⟩ | ⟨failure, hrun⟩
  · have hJ₀ : (started env).1.writeError = false → AccountingInv env [] (started env).1 := by
      rw [hstart]
      intro _
      refine ⟨HoldInv.initial Survives w, ⟨fun a => ?_, rfl, rfl, ?_, ?_, ?_, ?_⟩, ?_, ?_⟩
      · rfl
      · simp
      · simp [MuxState.pushedAudio]
      · simp
      · simp
      · exact fun h => by cases h
      · exact ⟨fun _ => rfl, fun _ => rfl⟩
    have hD₀ : Drained (started env).1 := by
      rw [hstart]
      exact fun _ _ => rfl
    have hJ := (accounting_rule env).run hguard hJ₀
    have hD : Drained (input.steps.foldl (handle env) (started env).1) :=
      @StepRun.exec_invariant_all _ _ (fun st a => some (handle env st a)) Drained
        (fun _ _ _ hd hs => by cases hs; exact handle_drained hd) _ _ _ hD₀
        (StepRun.exec_total (handle env) _ input.steps)
    rw [hrun] at hok ⊢
    obtain ⟨hA, hpending, hheld⟩ := finish_accounted hJ hD hok
    have hperm := hA.perm hpending hheld
    exact ⟨hperm, hperm.nodup_iff.mpr (hA.nodup.filter _), hA.counted,
      fun a hmem => (hA.droppedNegative a hmem).2, hpending, hheld⟩
  · rw [hrun]
    simp [MuxState.pushedAudio]

theorem audio_accounted_splitRun :
    ((run twoTracks splitRun).pushedAudio ++ (run twoTracks splitRun).trimmed ++
        (run twoTracks splitRun).dropped).Perm
      ((run twoTracks splitRun).arrivals.filter fun a => twoTracks.inRange a.packet.trackId) ∧
      (run twoTracks splitRun).pushedAudio.length = 4 :=
  ⟨(@audio_accounted twoTracks splitRun (by decide) (by decide)).1, by decide⟩

/-- Track 0 starts half a millisecond before the picture. -/
def earlyView : SharedView where
  videoEpochQpc100ns := 10000000
  audioEpochQpc100ns _ := 9995000

/-- A packet that begins 0.2 ms into the picture, handled before the first video packet. -/
def earlyAudio : MuxInput where
  videoPremux := []
  audioPremux := []
  queue := [(earlyView, .audio ⟨[1], 700000, 0⟩), (earlyView, .video ⟨[2], 0, true⟩)]
  tail := earlyView

/-- Its shifted PTS is not negative, and still it is neither written nor counted. -/
theorem deferred_audio_lost :
    (run twoTracks earlyAudio).writeError = false ∧
      (∃ c ∈ (run twoTracks earlyAudio).completed, ∃ p ∈ c.pushes,
        p.source = .video ⟨[2], 0, true⟩) ∧
      (⟨0, ⟨[1], 700000, 0⟩⟩ : AudioArrival) ∈ (run twoTracks earlyAudio).arrivals ∧
      (⟨0, ⟨[1], 700000, 0⟩⟩ : AudioArrival) ∉ (run twoTracks earlyAudio).pushedAudio ∧
      (run twoTracks earlyAudio).trimmedAudioPackets = 0 ∧
      shiftAudioPts 700000 ((run twoTracks earlyAudio).shiftOf 0) = some 200000 := by
  decide

end Exosnap.Engine.MuxThread
