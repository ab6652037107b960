/-
  What every run of two peered queues keeps: no packet is lost, doubled or overtaken, the level
  mirror is the buffered time of a stream whenever the mutex is free, the hard limits are exceeded
  by one packet at most, and a `Push` waits only for a reason. The level is kept in 64 bits, so all
  of it rests on the buffered time of a queue fitting into them.
-/
import Exosnap.Engine.PacketQueue

namespace Exosnap.Engine

open WeightedQueue

namespace PacketQueue

/-- The duration of a packet in microseconds. -/
def exactUs (q : PacketQueue) (packet : AVPacket) : Nat :=
  if packet.duration ≤ 0 then 0
  else match q.streams.find? fun stream => stream.streamIndex == packet.streamIndex with
  | some stream => rescaledUs packet.duration.toNat stream.timeBase
  | none => 0

/-- The buffered time of a stream, rounded down. -/
def levelOf (q : PacketQueue) (packets : List AVPacket) : Nat :=
  weight q.exactUs packets / q.streamCount

/-- The reason a `Push` may wait for. -/
def Justified (q : PacketQueue) (w : Wait) : Prop :=
  w.aborted = false ∧ w.consumerGone = false ∧
    (kPacketQueueLimits.hardCapacityUs ≤ q.levelOf w.packets ∨
      kPacketQueueLimits.hardCapacityPackets ≤ w.packets.length ∨
      kPacketQueueLimits.softCapacityUs ≤ q.levelOf w.packets ∧
        ¬ (w.peerAlive = true ∧ w.peerLevelUs < kPacketQueueLimits.peerLowWaterUs))

structure Accounted (q : PacketQueue) : Prop where
  order : q.accepted = q.popped ++ q.freed ++ q.packets
  freed : q.freed ≠ [] → q.aborted = true ∨ q.consumerGone = true
  mirror : q.holder = .free → q.levelUs = q.levelOf q.packets
  limits : ∀ older newest, q.packets = older ++ [newest] →
    q.levelOf older < kPacketQueueLimits.hardCapacityUs ∧
      older.length < kPacketQueueLimits.hardCapacityPackets
  ends : ∀ e ∈ q.ends, e.endOfStream = true ∧ e.packets = []
  waits : ∀ w ∈ q.waits, q.Justified w

def admitted? : Holder → Option AVPacket
  | .admitted packet => some packet
  | _ => none

/-- The packet that is inserted now leaves the buffered time within 64 bits. -/
def Fits (q : PacketQueue) : QueueAction → Prop
  | .advance true =>
      ∀ packet ∈ admitted? q.holder, q.bufferedUs + q.exactUs packet ≤ INT64_MAX
  | _ => True

instance decFits (q : PacketQueue) : (action : QueueAction) → Decidable (q.Fits action)
  | .advance true => inferInstanceAs (Decidable (∀ packet ∈ admitted? q.holder, _))
  | .advance false | .push _ | .recheck _ | .pop | .signalEndOfStream | .abort
  | .closeForConsumer => isTrue trivial

/-- What a queue keeps from step to step. -/
structure Inv (q : PacketQueue) : Prop where
  order : q.accepted = q.popped ++ q.freed ++ q.packets
  freed : q.freed ≠ [] → q.aborted = true ∨ q.consumerGone = true
  buffered : q.bufferedUs = weight q.exactUs q.packets
  fits : q.bufferedUs ≤ INT64_MAX
  mirror : q.holder ≠ .storing → q.holder ≠ .cleared → q.levelUs = q.levelOf q.packets
  emptied : q.holder = .cleared → q.packets = []
  shut : q.aborted = true ∨ q.consumerGone = true →
    q.holder = .closing ∨ q.holder = .clearing ∨ q.packets = []
  stopped : q.holder = .closing ∨ q.holder = .clearing → q.aborted = true ∨ q.consumerGone = true
  pushing : ∀ packet alive, q.holder = .peerLevel packet alive ∨ q.holder = .admitted packet →
    q.aborted = false ∧ q.consumerGone = false
  room : ∀ packet, q.holder = .admitted packet →
    q.levelOf q.packets < kPacketQueueLimits.hardCapacityUs ∧
      q.packets.length < kPacketQueueLimits.hardCapacityPackets
  limits : ∀ older newest, q.packets = older ++ [newest] →
    q.levelOf older < kPacketQueueLimits.hardCapacityUs ∧
      older.length < kPacketQueueLimits.hardCapacityPackets
  ends : ∀ e ∈ q.ends, e.endOfStream = true ∧ e.packets = []
  waits : ∀ w ∈ q.waits, q.Justified w

section
variable {q q' peer : PacketQueue}

theorem durationUs_eq {packet : AVPacket} (h : (q.exactUs packet : Int) ≤ INT64_MAX) :
    q.DurationUs packet = q.exactUs packet := by
  unfold exactUs at h ⊢
  unfold DurationUs
  split
  · rfl
  next hduration =>
    rw [if_neg hduration] at h
    cases hfind : q.streams.find? fun stream => stream.streamIndex == packet.streamIndex with
    | some stream =>
      rw [hfind] at h
      exact if_pos h
    | none => rfl

theorem wrapInt64_eq {x : Int} (h0 : 0 ≤ x) (h : x ≤ INT64_MAX) : wrapInt64 x = x := by
  unfold INT64_MAX at h
  exact Int.bmod_eq_of_le (by omega) (by omega)

theorem level_eq (h : q.bufferedUs = weight q.exactUs q.packets) :
    q.PerStreamLevelUsLocked = q.levelOf q.packets := by
  rw [PerStreamLevelUsLocked, h, levelOf]
  rfl

theorem levelOf_mono {older packets : List AVPacket}
    (h : weight q.exactUs older ≤ weight q.exactUs packets) :
    q.levelOf older ≤ q.levelOf packets :=
  Nat.div_le_div_right h

theorem shouldAdmit_iff {state : PacketAdmissionState} {limits : PacketQueueLimits} :
    ShouldAdmitDemuxedPacket state limits = true ↔ state.aborted = false ∧
      state.queuedUs < limits.hardCapacityUs ∧
      state.queuedPackets < limits.hardCapacityPackets ∧
      (state.queuedUs < limits.softCapacityUs ∨
        state.peerConsuming = true ∧ state.peerQueuedUs < limits.peerLowWaterUs) := by
  unfold ShouldAdmitDemuxedPacket
  cases state.aborted with
  | true => simp
  | false =>
    rw [if_neg (by decide)]
    split
    next hhard =>
      refine iff_of_false (by decide) fun ⟨_, hus, hpackets, _⟩ => ?_
      rcases hhard with hhard | hhard
      · exact absurd hus (Int.not_lt.mpr hhard)
      · exact absurd hpackets (Nat.not_lt.mpr hhard)
    next hhard =>
      obtain ⟨hus, hpackets⟩ := not_or.mp hhard
      split
      next hsoft =>
        exact iff_of_true rfl ⟨rfl, Int.not_le.mp hus, Nat.not_le.mp hpackets, .inl hsoft⟩
      next hsoft =>
        rw [Bool.and_eq_true, decide_eq_true_iff]
        exact ⟨fun h => ⟨rfl, Int.not_le.mp hus, Nat.not_le.mp hpackets, .inr h⟩,
          fun h => h.2.2.2.resolve_left hsoft⟩

theorem Inv.accounted (h : q.Inv) : q.Accounted :=
  ⟨h.order, h.freed, fun hfree => h.mirror (by rw [hfree]; decide) (by rw [hfree]; decide),
    h.limits, h.ends, h.waits⟩

theorem inv_start (streams : List QueuedStream) : Inv { streams } where
  order := rfl
  freed := fun h => absurd rfl h
  buffered := rfl
  fits := show (0 : Int) ≤ INT64_MAX by decide
  mirror := fun _ _ => by
    rw [levelOf, weight_nil, Nat.zero_div]
    rfl
  emptied := fun _ => rfl
  shut := fun h => h.elim nofun nofun
  stopped := fun h => h.elim nofun nofun
  pushing := fun _ _ h => h.elim nofun nofun
  room := nofun
  limits := fun _ _ h => absurd h.symm (by simp)
  ends := nofun
  waits := nofun

/-- The mutex is given back by one that has not closed the queue and has stored its level. -/
theorem Inv.release (h : q.Inv) (hclosing : q.holder ≠ .closing) (hclearing : q.holder ≠ .clearing)
    {levelUs : Int} (hlevel : levelUs = q.levelOf q.packets) :
    Inv { q with holder := .free, levelUs } :=
  { h with
    mirror := fun _ _ => hlevel
    emptied := nofun
    shut := fun hs => .inr (.inr (((h.shut hs).resolve_left hclosing).resolve_left hclearing))
    stopped := fun hp => hp.elim nofun nofun
    pushing := fun _ _ hp => hp.elim nofun nofun
    room := nofun }

/-- A packet is inserted by the `Push` that has found room for it. -/
theorem inv_insert {packet : AVPacket} (h : q.Inv) (hholder : q.holder = .admitted packet)
    (hfits : q.bufferedUs + q.exactUs packet ≤ INT64_MAX) :
    Inv { q with
      holder := .storing, bufferedUs := wrapInt64 (q.bufferedUs + q.DurationUs packet),
      packets := q.packets ++ [packet], accepted := q.accepted ++ [packet] } := by
  obtain ⟨haborted, hgone⟩ := h.pushing packet true (.inr hholder)
  have hbuffered := h.buffered
  have hduration : q.DurationUs packet = q.exactUs packet := durationUs_eq (by omega)
  have hsum : wrapInt64 (q.bufferedUs + q.DurationUs packet) =
      q.bufferedUs + q.exactUs packet := by
    rw [hduration]
    exact wrapInt64_eq (by omega) hfits
  have hfreed : q.freed = [] := by
    by_contra hne
    exact (h.freed hne).elim (fun ha => nomatch haborted.symm.trans ha)
      fun hg => nomatch hgone.symm.trans hg
  exact { h with
    order := by
      have horder := h.order
      rw [hfreed] at horder ⊢
      simp [horder]
    buffered := by
      dsimp only
      rw [hsum, hbuffered, weight_append, weight_cons, weight_nil, Nat.add_zero, Int.natCast_add]
      rfl
    fits := hsum ▸ hfits
    mirror := fun hs => absurd rfl hs
    emptied := nofun
    shut := fun hs => hs.elim (fun ha => nomatch haborted.symm.trans ha)
      fun hg => nomatch hgone.symm.trans hg
    stopped := fun hp => hp.elim nofun nofun
    pushing := fun _ _ hp => hp.elim nofun nofun
    room := nofun
    limits := fun older newest hlast => by
      obtain ⟨rfl, -⟩ := List.append_inj' hlast rfl
      exact h.room packet hholder }

theorem inv_clear (h : q.Inv) (hholder : q.holder = .clearing) :
    Inv { q with
      holder := .cleared, packets := [], bufferedUs := 0, freed := q.freed ++ q.packets } :=
  { h with
    order := by
      dsimp only
      rw [h.order, List.append_nil, List.append_assoc]
    freed := fun _ => h.stopped (.inr hholder)
    buffered := rfl
    fits := show (0 : Int) ≤ INT64_MAX by decide
    mirror := fun _ hs => absurd rfl hs
    emptied := fun _ => rfl
    shut := fun _ => .inr (.inr rfl)
    stopped := fun hp => hp.elim nofun nofun
    pushing := fun _ _ hp => hp.elim nofun nofun
    room := nofun
    limits := fun older newest hlast => absurd hlast.symm (by simp) }

/-- What a `Push` goes on to when the queue is open, before it decides. -/
theorem Inv.look (h : q.Inv) {packet : AVPacket} (hholder : q.holder = .checking packet)
    (hopen : q.aborted = false ∧ q.consumerGone = false) (alive : Bool) :
    Inv { q with holder := .peerLevel packet alive } :=
  { h with
    mirror := fun _ _ => h.mirror (by rw [hholder]; nofun) (by rw [hholder]; nofun)
    emptied := nofun
    shut := fun hs => hs.elim (fun ha => nomatch hopen.1.symm.trans ha)
      fun hg => nomatch hopen.2.symm.trans hg
    stopped := fun hp => hp.elim nofun nofun
    pushing := fun _ _ _ => hopen
    room := nofun }

theorem Inv.enterable (h : q.Inv) {packet : AVPacket} {alive : Bool} {peerLevelUs : Int}
    (hholder : q.holder = .peerLevel packet alive)
    (hroom : ShouldAdmitDemuxedPacket (q.AdmissionStateLocked alive peerLevelUs)
      kPacketQueueLimits = true) :
    Inv { q with holder := .admitted packet } := by
  have hopen := h.pushing packet alive (.inl hholder)
  obtain ⟨-, hus, hpackets, -⟩ := shouldAdmit_iff.mp hroom
  exact { h with
    mirror := fun _ _ => h.mirror (by rw [hholder]; nofun) (by rw [hholder]; nofun)
    emptied := nofun
    shut := fun hs => hs.elim (fun ha => nomatch hopen.1.symm.trans ha)
      fun hg => nomatch hopen.2.symm.trans hg
    stopped := fun hp => hp.elim nofun nofun
    pushing := fun _ _ _ => hopen
    room := fun _ _ => ⟨level_eq h.buffered ▸ hus, hpackets⟩ }

/-- A `Push` that is not admitted has a reason to wait, seen from the queue and its peer now. -/
theorem Inv.justified (h : q.Inv) {packet : AVPacket} {alive : Bool}
    (hholder : q.holder = .peerLevel packet alive)
    (hseen : alive = false → peer.consumerAlive = false)
    (hwait : ¬ ShouldAdmitDemuxedPacket (q.AdmissionStateLocked alive peer.levelUs)
      kPacketQueueLimits = true) :
    q.Justified ⟨q.aborted, q.consumerGone, q.packets, peer.consumerAlive, peer.levelUs⟩ := by
  have hopen := h.pushing packet alive (.inl hholder)
  refine ⟨hopen.1, hopen.2, ?_⟩
  rw [shouldAdmit_iff, AdmissionStateLocked, level_eq h.buffered] at hwait
  dsimp only at hwait ⊢
  by_contra hreason
  obtain ⟨hus, hreason⟩ := not_or.mp hreason
  obtain ⟨hpackets, hreason⟩ := not_or.mp hreason
  refine hwait ⟨hopen.1, Int.not_le.mp hus, Nat.not_le.mp hpackets, ?_⟩
  by_cases hsoft : kPacketQueueLimits.softCapacityUs ≤ q.levelOf q.packets
  · obtain ⟨halive, hlevel⟩ := not_not.mp (not_and.mp hreason hsoft)
    cases alive with
    | true => exact .inr ⟨rfl, hlevel⟩
    | false => exact nomatch (hseen rfl).symm.trans halive
  · exact .inl (Int.not_le.mp hsoft)

theorem inv_advance {allocated : Bool} (h : q.Inv)
    (hseen : ∀ packet, q.holder = .peerLevel packet false → peer.consumerAlive = false)
    (hfits : q.Fits (.advance allocated)) (hs : q.advance peer allocated = some q') : q'.Inv := by
  unfold advance at hs
  split at hs
  · cases hs
  next packet hholder =>
    obtain rfl := Option.some.inj hs
    have hmirror := h.mirror (by rw [hholder]; nofun) (by rw [hholder]; nofun)
    split
    · exact h.release (by rw [hholder]; nofun) (by rw [hholder]; nofun) hmirror
    next hopen =>
      rw [Bool.or_eq_true, not_or, Bool.not_eq_true, Bool.not_eq_true] at hopen
      exact h.look hholder hopen _
  next packet alive hholder =>
    split at hs
    next hroom =>
      obtain rfl := Option.some.inj hs
      exact h.enterable hholder hroom
    next hwait =>
      obtain rfl := Option.some.inj hs
      have hmirror := h.mirror (by rw [hholder]; nofun) (by rw [hholder]; nofun)
      have hreleased := h.release (by rw [hholder]; nofun) (by rw [hholder]; nofun) hmirror
      refine { hreleased with waits := fun w hw => ?_ }
      rcases List.mem_cons.mp hw with rfl | hw
      · exact h.justified hholder (fun halive => hseen packet (halive ▸ hholder)) hwait
      · exact h.waits w hw
  next packet hholder =>
    split at hs
    next hallocated =>
      obtain rfl := Option.some.inj hs
      rw [hallocated] at hfits
      exact inv_insert h hholder (hfits packet (by rw [hholder]; rfl))
    · obtain rfl := Option.some.inj hs
      exact h.release (by rw [hholder]; nofun) (by rw [hholder]; nofun)
        (h.mirror (by rw [hholder]; nofun) (by rw [hholder]; nofun))
  next hholder =>
    obtain rfl := Option.some.inj hs
    exact h.release (by rw [hholder]; nofun) (by rw [hholder]; nofun) (level_eq h.buffered)
  next hholder =>
    obtain rfl := Option.some.inj hs
    exact { h with
      mirror := fun _ _ => h.mirror (by rw [hholder]; nofun) (by rw [hholder]; nofun)
      emptied := nofun
      shut := fun _ => .inr (.inl rfl)
      stopped := fun _ => h.stopped (.inl hholder)
      pushing := fun _ _ hp => hp.elim nofun nofun
      room := nofun }
  next hholder =>
    obtain rfl := Option.some.inj hs
    exact inv_clear h hholder
  next hholder =>
    obtain rfl := Option.some.inj hs
    refine h.release (by rw [hholder]; nofun) (by rw [hholder]; nofun) ?_
    rw [h.emptied hholder, levelOf, weight_nil, Nat.zero_div]
    rfl

/-- The oldest packet is taken from a queue that nobody has closed. -/
theorem inv_take {front : AVPacket} {rest : List AVPacket} (h : q.Inv) (hfree : q.holder = .free)
    (hpackets : q.packets = front :: rest) :
    Inv { q with
      holder := .storing, packets := rest, popped := q.popped ++ [front],
      bufferedUs := if wrapInt64 (q.bufferedUs - q.DurationUs front) < 0 then 0
        else wrapInt64 (q.bufferedUs - q.DurationUs front) } := by
  have hshut : ¬ (q.aborted = true ∨ q.consumerGone = true) := fun hs => by
    rcases h.shut hs with hp | hp | hp
    · exact nomatch hfree.symm.trans hp
    · exact nomatch hfree.symm.trans hp
    · exact nomatch hpackets.symm.trans hp
  have hfreed : q.freed = [] := by_contra fun hne => hshut (h.freed hne)
  have hfits := h.fits
  have hbuffered : q.bufferedUs = q.exactUs front + weight q.exactUs rest := by
    rw [h.buffered, hpackets, weight_cons, Int.natCast_add]
  have hduration : q.DurationUs front = q.exactUs front := durationUs_eq (by omega)
  have hdifference : wrapInt64 (q.bufferedUs - q.DurationUs front) = weight q.exactUs rest := by
    rw [hduration, show q.bufferedUs - q.exactUs front = weight q.exactUs rest by omega]
    exact wrapInt64_eq (by omega) (by omega)
  have hleft : (if wrapInt64 (q.bufferedUs - q.DurationUs front) < 0 then 0
      else wrapInt64 (q.bufferedUs - q.DurationUs front)) = (weight q.exactUs rest : Int) := by
    rw [hdifference, if_neg (by omega)]
  rw [hleft]
  exact { h with
    order := by
      have horder := h.order
      rw [hfreed, hpackets] at horder
      simp [horder, hfreed]
    buffered := rfl
    fits := show (weight q.exactUs rest : Int) ≤ INT64_MAX by omega
    mirror := fun hs => absurd rfl hs
    emptied := nofun
    shut := fun hs => absurd hs hshut
    stopped := fun hp => hp.elim nofun nofun
    pushing := fun _ _ hp => hp.elim nofun nofun
    room := nofun
    limits := fun older newest hlast => by
      obtain ⟨hus, hcount⟩ := h.limits (front :: older) newest
        (hpackets.trans (congrArg (front :: ·) hlast))
      have hmono : q.levelOf older ≤ q.levelOf (front :: older) :=
        levelOf_mono (by rw [weight_cons]; omega)
      exact ⟨Int.lt_of_le_of_lt (Int.ofNat_le.mpr hmono) hus, Nat.lt_of_succ_lt hcount⟩ }

/-- A thread that takes the free mutex without touching packets or level. -/
theorem Inv.hold (h : q.Inv) (hfree : q.holder = .free) {packet : AVPacket}
    {parked : List AVPacket} : Inv { q with holder := .checking packet, parked } :=
  { h with
    mirror := fun _ _ => h.mirror (by rw [hfree]; nofun) (by rw [hfree]; nofun)
    emptied := nofun
    shut := fun hs => .inr (.inr (((h.shut hs).resolve_left (by rw [hfree]; nofun)).resolve_left
      (by rw [hfree]; nofun)))
    stopped := fun hp => hp.elim nofun nofun
    pushing := fun _ _ hp => hp.elim nofun nofun
    room := nofun }

theorem inv_enter {action : QueueAction} (h : q.Inv) (hfree : q.holder = .free)
    (hs : q.enter action = some q') : q'.Inv := by
  have hmirror := h.mirror (by rw [hfree]; nofun) (by rw [hfree]; nofun)
  cases action with
  | push packet =>
    obtain rfl := Option.some.inj hs
    exact h.hold hfree
  | recheck packet =>
    rw [enter] at hs
    split at hs
    · obtain rfl := Option.some.inj hs
      exact h.hold hfree
    · cases hs
  | advance allocated => cases hs
  | pop =>
    rw [enter] at hs
    split at hs
    · obtain rfl := Option.some.inj hs
      exact h
    split at hs
    next hempty =>
      split at hs
      next heos =>
        obtain rfl := Option.some.inj hs
        refine { h with ends := fun e he => ?_ }
        rcases List.mem_cons.mp he with rfl | he
        · exact ⟨heos, hempty⟩
        · exact h.ends e he
      · cases hs
    next front rest hpackets =>
      obtain rfl := Option.some.inj hs
      exact inv_take h hfree hpackets
  | signalEndOfStream =>
    obtain rfl := Option.some.inj hs
    exact { h with }
  | abort =>
    obtain rfl := Option.some.inj hs
    exact { h with
      freed := fun _ => .inl rfl
      mirror := fun _ _ => hmirror
      emptied := nofun
      shut := fun _ => .inr (.inl rfl)
      stopped := fun _ => .inl rfl
      pushing := fun _ _ hp => hp.elim nofun nofun
      room := nofun }
  | closeForConsumer =>
    obtain rfl := Option.some.inj hs
    exact { h with
      freed := fun _ => .inr rfl
      mirror := fun _ _ => hmirror
      emptied := nofun
      shut := fun _ => .inl rfl
      stopped := fun _ => .inr rfl
      pushing := fun _ _ hp => hp.elim nofun nofun
      room := nofun }

theorem inv_step {action : QueueAction} (h : q.Inv)
    (hseen : ∀ packet, q.holder = .peerLevel packet false → peer.consumerAlive = false)
    (hfits : q.Fits action) (hs : q.step peer action = some q') : q'.Inv := by
  unfold step at hs
  split at hs
  · exact inv_advance h hseen hfits hs
  · split at hs
    next hfree => exact inv_enter h hfree hs
    · cases hs

/-- A consumer that has left does not come back. -/
theorem consumerAlive_step {action : QueueAction} (hs : q.step peer action = some q')
    (hgone : q.consumerAlive = false) : q'.consumerAlive = false := by
  unfold step at hs
  split at hs
  · unfold advance at hs
    split at hs <;> (try split at hs) <;> cases hs <;> first | exact hgone | rfl
  · split at hs
    · unfold enter at hs
      split at hs
      case h_2 | h_4 =>
        split at hs <;> (try split at hs) <;> (try split at hs) <;> cases hs <;> exact hgone
      all_goals cases hs
      all_goals exact hgone
    · cases hs

/-- A `Push` that has found its peer's consumer gone has looked at it. -/
theorem seen_step {action : QueueAction} (hs : q.step peer action = some q')
    {packet : AVPacket} (hholder : q'.holder = .peerLevel packet false) :
    peer.consumerAlive = false := by
  unfold step at hs
  split at hs
  · unfold advance at hs
    split at hs
    case h_2 =>
      obtain rfl := Option.some.inj hs
      dsimp only at hholder
      split at hholder
      · cases hholder
      · exact (Holder.peerLevel.inj hholder).2
    all_goals (try split at hs) <;> cases hs <;> cases hholder
  · split at hs
    next hfree =>
      unfold enter at hs
      split at hs <;> (try split at hs) <;> (try split at hs) <;> (try split at hs) <;> cases hs
      all_goals first | cases hholder | cases hfree.symm.trans hholder
    · cases hs

end

end PacketQueue

namespace PeeredQueues

open PacketQueue (Accounted Inv Fits)

/-- What is inserted leaves the buffered time of its queue within 64 bits. -/
def WithinInt64 (s : PeeredQueues) (action : Side × QueueAction) : Prop :=
  (s.queue action.1).Fits action.2

instance decWithinInt64 (s : PeeredQueues) (action : Side × QueueAction) :
    Decidable (s.WithinInt64 action) :=
  PacketQueue.decFits (s.queue action.1) action.2

/-- What holds of both queues in every state of such a run. -/
structure Kept (s : PeeredQueues) : Prop where
  inv : ∀ side, (s.queue side).Inv
  seen : ∀ side packet, (s.queue side).holder = .peerLevel packet false →
    (s.peer side).consumerAlive = false

theorem kept_start (videoStreams audioStreams : List QueuedStream) :
    (start videoStreams audioStreams).Kept :=
  ⟨fun side => by cases side <;> exact PacketQueue.inv_start _, fun side => by cases side <;> nofun⟩

theorem kept_step {s s' : PeeredQueues} {action : Side × QueueAction} (h : s.Kept)
    (hfits : s.WithinInt64 action) (hs : s.step action = some s') : s'.Kept := by
  obtain ⟨side, action⟩ := action
  obtain ⟨q, hq, rfl⟩ := Option.map_eq_some_iff.mp hs
  have hinv : q.Inv := PacketQueue.inv_step (h.inv side) (h.seen side) hfits hq
  have hgone := PacketQueue.consumerAlive_step hq
  constructor
  · intro side'
    have hold := h.inv side'
    cases side <;> cases side' <;> first | exact hinv | exact hold
  · intro side' packet hholder
    have hold := h.seen side' packet
    cases side <;> cases side'
    · exact PacketQueue.seen_step hq hholder
    · exact hgone (hold hholder)
    · exact hgone (hold hholder)
    · exact PacketQueue.seen_step hq hholder

/-- In every run of the two queues whose buffered times fit into 64 bits, each queue accounts for
    its packets, its level, its limits and its waits in every state the run reaches. -/
theorem queues_accounted {videoStreams audioStreams : List QueuedStream}
    {as : List (Side × QueueAction)} {s : PeeredQueues}
    (hfits : StepRun.Meets step WithinInt64 (start videoStreams audioStreams) as)
    (he : (start videoStreams audioStreams).exec as = some s) (side : Side) :
    (s.queue side).Accounted :=
  ((StepRun.exec_invariant (fun _ _ _ => kept_step)
    (kept_start videoStreams audioStreams) hfits he).inv side).accounted

/-! ## Runs on one packet -/

/-- Milliseconds. -/
def millisecondStream : QueuedStream := ⟨0, ⟨1, 1000, by decide⟩⟩

/-- A `Push` to the video queue that is not made to wait. -/
def pushActions (packet : AVPacket) : List (Side × QueueAction) :=
  (.video, .push packet) :: List.replicate 4 (.video, .advance true)

theorem queues_accounted_frame : ∃ s : PeeredQueues,
    (start [millisecondStream] [millisecondStream]).exec
      (pushActions ⟨0, 0, 16⟩ ++ [(.video, .pop)]) = some s ∧
      (s.queue .video).popped = [⟨0, 0, 16⟩] ∧ (s.queue .video).Accounted := by
  obtain ⟨s, hs, hpopped⟩ := (Option.any_eq_true _ _).mp
    (show ((start [millisecondStream] [millisecondStream]).exec
      (pushActions ⟨0, 0, 16⟩ ++ [(.video, .pop)])).any
        (fun s => decide ((s.queue .video).popped = [⟨0, 0, 16⟩])) = true by decide)
  exact ⟨s, hs, of_decide_eq_true hpopped, queues_accounted (by decide) hs .video⟩

/-- A packet whose duration in microseconds does not fit into 64 bits: the level of its queue is far
    below zero once it is in. -/
theorem level_overflows : ∃ s : PeeredQueues,
    (start [millisecondStream] [millisecondStream]).exec (pushActions ⟨0, 0, 2 ^ 62⟩) = some s ∧
      (s.queue .video).levelUs = INT64_MIN ∧ ¬ (s.queue .video).Accounted := by
  obtain ⟨s, hs, hrun⟩ := (Option.any_eq_true _ _).mp
    (show ((start [millisecondStream] [millisecondStream]).exec (pushActions ⟨0, 0, 2 ^ 62⟩)).any
      (fun s => decide ((s.queue .video).holder = .free ∧ (s.queue .video).levelUs = INT64_MIN)) =
        true by decide)
  obtain ⟨hfree, hlevel⟩ := of_decide_eq_true hrun
  refine ⟨s, hs, hlevel, fun h => ?_⟩
  have hmirror := h.mirror hfree
  rw [hlevel] at hmirror
  exact absurd hmirror (by unfold INT64_MIN; omega)

end PeeredQueues

end Exosnap.Engine
