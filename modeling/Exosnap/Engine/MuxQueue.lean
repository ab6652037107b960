/-
  The mux queue and its bound (`session_internal.h`): `PushMuxItemLocked`, `OnMuxItemPopped` and
  `WaitForMuxQueueSpace`, as the video thread, the audio threads and the mux thread use them under
  `mux_mutex`.

  A step is what one thread does between two points at which another may run: it takes the mutex,
  tests `full()`, goes into or comes back from `wait_until`, pushes one item, pops one item, or
  gives the mutex back. A wait may end at any time, notified, spuriously or timed out; a failure
  may be recorded and a stop requested at any time. Whether a packet starts a segment is decided
  from the video thread's own locals and comes with the packet. A thread may go on after a wait
  that was not `Ready`, which the code does only to send its EOS.

  `mux_queue_bytes` wraps at 2^64. What keeps it from wrapping is that a vector holds less than
  2^63 bytes and that the byte limit is no more than that.

  Proved: `mux_queue_bounded`, for every interleaving.
-/
import Mathlib.Logic.Function.Basic
import Exosnap.Lib.StepRun
import Exosnap.Lib.WeightedQueue
import Exosnap.Engine.SplitCoordination

namespace Exosnap.Engine

def MuxItem.bytes : MuxItem → List UInt8
  | .video payload => payload.bytes
  | .audio payload => payload.bytes
  | _ => []

def MuxItem.isPayload : MuxItem → Bool
  | .video _ => true
  | .audio _ => true
  | _ => false

/-- `MuxItemPayloadBytes`, before it is a `size_t`. -/
def MuxItem.size (item : MuxItem) : ℕ := item.bytes.length

@[simp] theorem MuxItem.size_of_sentinel {item : MuxItem} (h : item.isPayload = false) :
    item.size = 0 := by
  cases item <;> simp_all [MuxItem.isPayload, MuxItem.size, MuxItem.bytes]

namespace MuxQueue

open SplitCoordination (MuxQueueWait)
open WeightedQueue

/-! ## State -/

/-- `mux_queue_packet_limit` and `mux_queue_byte_limit`. -/
structure MuxQueueLimits where
  packetLimit : ℕ
  byteLimit : UInt64
  byteLimit_le : byteLimit.toNat ≤ 2 ^ 63

/-- `kMuxQueuePacketLimit` and `kMuxQueueByteLimit` -/
def MuxQueueLimits.production : MuxQueueLimits := ⟨2048, 256 * 1024 * 1024, by decide⟩

inductive Worker where
  | video
  | audio (trackId : UInt32)
  | mux
  deriving DecidableEq, Repr

/-- An encoded packet, as large as a vector can be. -/
structure Payload where
  item : MuxItem
  isPayload : item.isPayload = true
  size_lt : item.size < 2 ^ 63

/-- What a producer takes the mutex for. -/
inductive Push where
  | payload (packet : Payload) (split : Option SplitSentinel)
  | eos

/-- Where a thread is. It holds the mutex from `checking` on, but not in `waiting` and
    `reporting`. -/
inductive Pc where
  | running
  | entering (push : Push)
  /-- In `wait_until`, which has released the mutex. -/
  | waiting (packet : Payload) (split : Option SplitSentinel)
  /-- `RecordFailure` is still to come. -/
  | reporting
  | checking (packet : Payload) (split : Option SplitSentinel)
  /-- `wait_until` has returned with a timeout. -/
  | expired (packet : Payload) (split : Option SplitSentinel)
  /-- `WaitForMuxQueueSpace` has returned `Ready`. -/
  | ready (packet : Payload) (split : Option SplitSentinel)
  /-- The sentinel is in the queue and its packet is not. -/
  | announced (packet : Payload)
  | ending
  | draining
  | leaving (result : MuxQueueWait)

def Pc.holds : Pc → Bool
  | .running | .entering _ | .waiting _ _ | .reporting => false
  | _ => true

/-- Where a thread is when `wait_until` returns. -/
def Pc.awake (packet : Payload) (split : Option SplitSentinel) (timedOut : Bool) : Pc :=
  if timedOut then .expired packet split else .checking packet split

/-- A push of a packet is still to come for which there was room. -/
def Pc.roomy : Pc → Bool
  | .ready _ _ | .announced _ => true
  | _ => false

structure QueueState where
  muxQueue : List MuxItem := []
  muxQueueBytes : UInt64 := 0
  /-- The thread that owns `mux_mutex`. -/
  mutex : Option Worker := none
  pc : Worker → Pc := fun _ => .running
  failure : Bool := false
  stopRequested : Bool := false

namespace QueueState

def goto (s : QueueState) (w : Worker) (p : Pc) : QueueState :=
  { s with pc := Function.update s.pc w p }

@[simp] theorem goto_muxQueue (s : QueueState) (w : Worker) (p : Pc) :
    (s.goto w p).muxQueue = s.muxQueue := rfl

@[simp] theorem goto_muxQueueBytes (s : QueueState) (w : Worker) (p : Pc) :
    (s.goto w p).muxQueueBytes = s.muxQueueBytes := rfl

@[simp] theorem goto_pc (s : QueueState) (w : Worker) (p : Pc) : (s.goto w p).pc w = p := by
  simp [goto]

theorem goto_pc_of_ne (s : QueueState) {w w' : Worker} (p : Pc) (h : w' ≠ w) :
    (s.goto w p).pc w' = s.pc w' := Function.update_of_ne h ..

end QueueState

/-! ## The queue -/

def muxItemPayloadBytes (item : MuxItem) : UInt64 := .ofNat item.size

def pushMuxItemLocked (s : QueueState) (item : MuxItem) : QueueState :=
  { s with
    muxQueueBytes := s.muxQueueBytes + muxItemPayloadBytes item
    muxQueue := s.muxQueue ++ [item] }

def onMuxItemPopped (s : QueueState) (item : MuxItem) : QueueState :=
  let bytes := muxItemPayloadBytes item
  { s with
    muxQueueBytes :=
      s.muxQueueBytes - if bytes ≤ s.muxQueueBytes then bytes else s.muxQueueBytes }

/-- `full` of `WaitForMuxQueueSpace`. -/
def full (limits : MuxQueueLimits) (s : QueueState) : Bool :=
  s.muxQueue.length ≥ limits.packetLimit || s.muxQueueBytes ≥ limits.byteLimit

/-! ## The threads -/

/-- The video thread routes video packets and decides about splits; an audio thread routes the
    packets of its track. -/
def Push.fits : Worker → Push → Bool
  | .mux, _ => false
  | .video, .payload ⟨.video _, _, _⟩ _ => true
  | .audio trackId, .payload ⟨.audio packet, _, _⟩ none => packet.trackId == trackId
  | _, .payload _ _ => false
  | _, .eos => true

def Worker.eos : Worker → MuxItem
  | .audio trackId => .audioEos trackId
  | _ => .videoEos

def offer (s : QueueState) (w : Worker) (push : Push) : Option QueueState :=
  match s.pc w with
  | .running => if push.fits w then some (s.goto w (.entering push)) else none
  | _ => none

def QueueState.acquire (s : QueueState) (w : Worker) (p : Pc) : QueueState :=
  { s.goto w p with mutex := some w }

def QueueState.release (s : QueueState) (w : Worker) (p : Pc) : QueueState :=
  { s.goto w p with mutex := none }

def lock (s : QueueState) (w : Worker) : Option QueueState :=
  if s.mutex.isSome then none
  else
    match w, s.pc w with
    | w, .entering (.payload packet split) => some (s.acquire w (.checking packet split))
    | w, .entering .eos => some (s.acquire w .ending)
    | .mux, .running => some (s.acquire .mux .draining)
    | _, _ => none

/-- The head of the loop in `WaitForMuxQueueSpace`, up to the release of the mutex. -/
def check (limits : MuxQueueLimits) (s : QueueState) (w : Worker) : Option QueueState :=
  match s.pc w with
  | .checking packet split =>
      if !full limits s then some (s.goto w (.ready packet split))
      else if s.failure then some (s.goto w (.leaving .failed))
      else some (s.release w (.waiting packet split))
  | _ => none

/-- `wait_until` takes the mutex again and returns. -/
def wake (s : QueueState) (w : Worker) (timedOut : Bool) : Option QueueState :=
  if s.mutex.isSome then none
  else
    match s.pc w with
    | .waiting packet split =>
        some (s.acquire w (.awake packet split timedOut))
    | _ => none

/-- What `WaitForMuxQueueSpace` does after a timeout. -/
def expire (limits : MuxQueueLimits) (s : QueueState) (w : Worker) : Option QueueState :=
  match s.pc w with
  | .expired packet split =>
      if !full limits s then some (s.goto w (.ready packet split))
      else if s.failure then some (s.goto w (.leaving .failed))
      else if s.stopRequested then some (s.goto w (.leaving .stopping))
      else some (s.goto w (.leaving .timedOut))
  | _ => none

/-- One `PushMuxItemLocked`. -/
def push (s : QueueState) (w : Worker) : Option QueueState :=
  match s.pc w with
  | .ready packet (some split) =>
      some ((pushMuxItemLocked s (.split split)).goto w (.announced packet))
  | .ready packet none => some ((pushMuxItemLocked s packet.item).goto w (.leaving .ready))
  | .announced packet => some ((pushMuxItemLocked s packet.item).goto w (.leaving .ready))
  | .ending => some ((pushMuxItemLocked s w.eos).goto w (.leaving .ready))
  | _ => none

/-- The mux thread takes the oldest item. -/
def pop (s : QueueState) : Option QueueState :=
  match s.pc .mux, s.muxQueue with
  | .draining, item :: rest =>
      some ((onMuxItemPopped { s with muxQueue := rest } item).goto .mux (.leaving .ready))
  | _, _ => none

def unlock (s : QueueState) (w : Worker) : Option QueueState :=
  match s.pc w with
  | .leaving .timedOut => some (s.release w .reporting)
  | .leaving _ => some (s.release w .running)
  | .draining => some (s.release w .running)
  | _ => none

/-- `RecordFailure` after a timed out wait. -/
def report (s : QueueState) (w : Worker) : Option QueueState :=
  match s.pc w with
  | .reporting => some { s.goto w .running with failure := true }
  | _ => none

inductive QueueAction where
  | offer (w : Worker) (push : Push)
  | lock (w : Worker)
  | check (w : Worker)
  | wake (w : Worker) (timedOut : Bool)
  | expire (w : Worker)
  | push (w : Worker)
  | pop
  | unlock (w : Worker)
  | report (w : Worker)
  /-- A failure recorded by any other code. -/
  | recordFailure
  | requestStop

def step (limits : MuxQueueLimits) (s : QueueState) : QueueAction → Option QueueState
  | .offer w p => offer s w p
  | .lock w => lock s w
  | .check w => check limits s w
  | .wake w timedOut => wake s w timedOut
  | .expire w => expire limits s w
  | .push w => push s w
  | .pop => pop s
  | .unlock w => unlock s w
  | .report w => report s w
  | .recordFailure => some { s with failure := true }
  | .requestStop => some { s with stopRequested := true }

/-! ## What a step does -/

variable {limits : MuxQueueLimits} {s s' : QueueState} {a : QueueAction}

/-- Every step is one of these. -/
inductive Outcome (limits : MuxQueueLimits) (s : QueueState) : QueueState → Prop
  | flags (failure stopRequested : Bool) :
      Outcome limits s { s with failure := failure, stopRequested := stopRequested }
  | acquired (w : Worker) (p : Pc) (hfree : s.mutex = none) (hp : p.roomy = false) :
      Outcome limits s (s.acquire w p)
  | released (w : Worker) (p : Pc) (hw : (s.pc w).holds = true) (hp : p.holds = false) :
      Outcome limits s (s.release w p)
  | moved (w : Worker) (p : Pc) (failure : Bool) (hp : p.holds = true → (s.pc w).holds = true)
      (hroom : p.roomy = true → full limits s = false) :
      Outcome limits s { s.goto w p with failure := failure }
  | sentinel (w : Worker) (p : Pc) (item : MuxItem) (hitem : item.isPayload = false)
      (hw : (s.pc w).holds = true) (hp : p.roomy = true → (s.pc w).roomy = true) :
      Outcome limits s ((pushMuxItemLocked s item).goto w p)
  | packet (w : Worker) (p : Pc) (packet : Payload) (hw : (s.pc w).holds = true)
      (hroom : (s.pc w).roomy = true) (hp : p.roomy = false) :
      Outcome limits s ((pushMuxItemLocked s packet.item).goto w p)
  | popped (item : MuxItem) (rest : List MuxItem) (p : Pc) (hq : s.muxQueue = item :: rest)
      (hw : (s.pc .mux).holds = true) (hp : p.roomy = false) :
      Outcome limits s ((onMuxItemPopped { s with muxQueue := rest } item).goto .mux p)

theorem offer_outcome {w : Worker} {p : Push} (h : offer s w p = some s') :
    Outcome limits s s' := by
  unfold offer at h
  split at h
  · split_ifs at h
    cases h
    exact .moved w (.entering p) s.failure nofun nofun
  · exact nomatch h

theorem lock_outcome {w : Worker} (h : lock s w = some s') : Outcome limits s s' := by
  unfold lock at h
  split_ifs at h with hfree
  have hnone : s.mutex = none := by simpa using hfree
  split at h <;> cases h
  · exact .acquired _ _ hnone rfl
  · exact .acquired _ _ hnone rfl
  · exact .acquired _ _ hnone rfl

theorem check_outcome {w : Worker} (h : check limits s w = some s') : Outcome limits s s' := by
  unfold check at h
  split at h
  · rename_i packet split hpc
    have hholds : (s.pc w).holds = true := by rw [hpc]; rfl
    split_ifs at h with hfull hfail <;> cases h
    · exact .moved w _ s.failure (fun _ => hholds) fun _ => by simpa using hfull
    · exact .moved w _ s.failure (fun _ => hholds) nofun
    · exact .released w _ hholds rfl
  · exact nomatch h

theorem wake_outcome {w : Worker} {timedOut : Bool} (h : wake s w timedOut = some s') :
    Outcome limits s s' := by
  unfold wake at h
  split_ifs at h with hfree
  have hnone : s.mutex = none := by simpa using hfree
  split at h
  · cases h
    exact .acquired w _ hnone (by cases timedOut <;> rfl)
  · exact nomatch h

theorem expire_outcome {w : Worker} (h : expire limits s w = some s') : Outcome limits s s' := by
  unfold expire at h
  split at h
  · rename_i packet split hpc
    have hholds : (s.pc w).holds = true := by rw [hpc]; rfl
    split_ifs at h with hfull hfail hstop <;> cases h
    · exact .moved w _ s.failure (fun _ => hholds) fun _ => by simpa using hfull
    · exact .moved w _ s.failure (fun _ => hholds) nofun
    · exact .moved w _ s.failure (fun _ => hholds) nofun
    · exact .moved w _ s.failure (fun _ => hholds) nofun
  · exact nomatch h

theorem push_outcome {w : Worker} (h : push s w = some s') : Outcome limits s s' := by
  unfold push at h
  split at h
  · rename_i packet split hpc
    cases h
    exact .sentinel w _ _ rfl (by rw [hpc]; rfl) fun _ => by rw [hpc]; rfl
  · rename_i packet hpc
    cases h
    exact .packet w _ packet (by rw [hpc]; rfl) (by rw [hpc]; rfl) rfl
  · rename_i packet hpc
    cases h
    exact .packet w _ packet (by rw [hpc]; rfl) (by rw [hpc]; rfl) rfl
  · rename_i hpc
    cases h
    exact .sentinel w _ _ (by cases w <;> rfl) (by rw [hpc]; rfl) nofun
  · exact nomatch h

theorem pop_outcome (h : pop s = some s') : Outcome limits s s' := by
  unfold pop at h
  split at h
  · rename_i item rest hpc hq
    cases h
    exact .popped item rest _ hq (by rw [hpc]; rfl) rfl
  · exact nomatch h

theorem unlock_outcome {w : Worker} (h : unlock s w = some s') : Outcome limits s s' := by
  unfold unlock at h
  split at h
  · rename_i hpc
    cases h
    exact .released w _ (by rw [hpc]; rfl) rfl
  · rename_i hpc
    cases h
    exact .released w _ (by rw [hpc]; rfl) rfl
  · rename_i hpc
    cases h
    exact .released w _ (by rw [hpc]; rfl) rfl
  · exact nomatch h

theorem report_outcome {w : Worker} (h : report s w = some s') : Outcome limits s s' := by
  unfold report at h
  split at h
  · cases h
    exact .moved w .running true nofun nofun
  · exact nomatch h

theorem step_outcome (h : step limits s a = some s') : Outcome limits s s' := by
  cases a with
  | offer w p => exact offer_outcome h
  | lock w => exact lock_outcome h
  | check w => exact check_outcome h
  | wake w timedOut => exact wake_outcome h
  | expire w => exact expire_outcome h
  | push w => exact push_outcome h
  | pop => exact pop_outcome h
  | unlock w => exact unlock_outcome h
  | report w => exact report_outcome h
  | recordFailure =>
      cases h
      exact .flags true s.stopRequested
  | requestStop =>
      cases h
      exact .flags s.failure true

/-! ## The invariant -/

/-- A packet may be pushed. -/
structure HasRoom (limits : MuxQueueLimits) (queue : List MuxItem) : Prop where
  packets : queue.countP MuxItem.isPayload < limits.packetLimit
  bytes : weight MuxItem.size queue < limits.byteLimit.toNat

structure Inv (limits : MuxQueueLimits) (s : QueueState) : Prop where
  counted : s.muxQueueBytes.toNat = weight MuxItem.size s.muxQueue
  packets : s.muxQueue.countP MuxItem.isPayload ≤ limits.packetLimit
  within : Within MuxItem.size limits.byteLimit.toNat s.muxQueue
  exclusive : ∀ w, (s.pc w).holds = true → s.mutex = some w
  /-- A thread that found room still has it when it pushes. -/
  room : ∀ w, (s.pc w).roomy = true → HasRoom limits s.muxQueue

theorem Pc.holds_of_roomy {p : Pc} (h : p.roomy = true) : p.holds = true := by
  cases p <;> first | rfl | exact nomatch h

theorem hasRoom_of_not_full (hI : Inv limits s) (h : full limits s = false) :
    HasRoom limits s.muxQueue := by
  simp only [full, Bool.or_eq_false_iff, decide_eq_false_iff_not, ge_iff_le, not_le,
    UInt64.not_le] at h
  obtain ⟨hlength, hbytes⟩ := h
  refine ⟨Nat.lt_of_le_of_lt List.countP_le_length hlength, ?_⟩
  rw [← hI.counted]
  exact UInt64.lt_iff_toNat_lt.mp hbytes

theorem inv_initial : Inv limits {} where
  counted := rfl
  packets := Nat.zero_le _
  within := .nil
  exclusive := nofun
  room := nofun

/-- The thread that holds the mutex is the only one that does. -/
theorem Inv.unique (hI : Inv limits s) {w w' : Worker} (hw : (s.pc w).holds = true)
    (hw' : (s.pc w').holds = true) : w' = w :=
  Option.some.inj ((hI.exclusive w' hw').symm.trans (hI.exclusive w hw))

theorem Inv.flags (hI : Inv limits s) (failure stopRequested : Bool) :
    Inv limits { s with failure := failure, stopRequested := stopRequested } := { hI with }

theorem Inv.acquired (hI : Inv limits s) {w : Worker} {p : Pc} (hfree : s.mutex = none)
    (hp : p.roomy = false) : Inv limits (s.acquire w p) := by
  have hnobody : ∀ w', (s.pc w').holds = false := by
    intro w'
    by_contra hh
    have hmutex := hI.exclusive w' (by simpa using hh)
    rw [hfree] at hmutex
    exact nomatch hmutex
  refine ⟨hI.counted, hI.packets, hI.within, ?_, ?_⟩
  · refine (Function.forall_update_iff s.pc fun w' q => q.holds = true → some w = some w').mpr
      ⟨fun _ => rfl, fun w' _ hw' => ?_⟩
    rw [hnobody w'] at hw'
    exact nomatch hw'
  · refine (Function.forall_update_iff s.pc fun _ q => q.roomy = true → _).mpr
      ⟨fun hw => ?_, fun w' _ => hI.room w'⟩
    rw [hp] at hw
    exact nomatch hw

theorem Inv.released (hI : Inv limits s) {w : Worker} {p : Pc} (hw : (s.pc w).holds = true)
    (hp : p.holds = false) : Inv limits (s.release w p) := by
  refine ⟨hI.counted, hI.packets, hI.within, ?_, ?_⟩
  · refine (Function.forall_update_iff s.pc fun w' q => q.holds = true → none = some w').mpr
      ⟨fun hheld => ?_, fun w' hne hheld => absurd (hI.unique hw hheld) hne⟩
    rw [hp] at hheld
    exact nomatch hheld
  · refine (Function.forall_update_iff s.pc fun _ q => q.roomy = true → _).mpr
      ⟨fun hroomy => ?_, fun w' _ => hI.room w'⟩
    rw [Pc.holds_of_roomy hroomy] at hp
    exact nomatch hp

theorem Inv.moved (hI : Inv limits s) {w : Worker} {p : Pc} (failure : Bool)
    (hp : p.holds = true → (s.pc w).holds = true)
    (hroom : p.roomy = true → full limits s = false) :
    Inv limits { s.goto w p with failure := failure } := by
  have hfound := hasRoom_of_not_full hI
  refine ⟨hI.counted, hI.packets, hI.within, ?_, ?_⟩
  · exact (Function.forall_update_iff s.pc fun w' q => q.holds = true → s.mutex = some w').mpr
      ⟨fun hheld => hI.exclusive w (hp hheld), fun w' _ => hI.exclusive w'⟩
  · exact (Function.forall_update_iff s.pc fun _ q => q.roomy = true → _).mpr
      ⟨fun hroomy => hfound (hroom hroomy), fun w' _ => hI.room w'⟩

/-- What a change to the queue by the thread that holds the mutex has to keep. -/
theorem Inv.changed (hI : Inv limits s) {w : Worker} {p : Pc} {queue : List MuxItem}
    {bytes : UInt64} (hw : (s.pc w).holds = true)
    (hcounted : bytes.toNat = weight MuxItem.size queue)
    (hpackets : queue.countP MuxItem.isPayload ≤ limits.packetLimit)
    (hwithin : Within MuxItem.size limits.byteLimit.toNat queue)
    (hroom : p.roomy = true → HasRoom limits queue) :
    Inv limits { s.goto w p with muxQueue := queue, muxQueueBytes := bytes } := by
  refine ⟨hcounted, hpackets, hwithin, ?_, ?_⟩
  · exact (Function.forall_update_iff s.pc fun w' q => q.holds = true → s.mutex = some w').mpr
      ⟨fun _ => hI.exclusive w hw, fun w' _ => hI.exclusive w'⟩
  · -- no other thread holds the mutex, so none has found room before the change
    refine (Function.forall_update_iff s.pc fun _ q => q.roomy = true → _).mpr
      ⟨hroom, fun w' hne hroomy => absurd (hI.unique hw (Pc.holds_of_roomy hroomy)) hne⟩

/-! ## Pushing and popping -/

theorem muxItemPayloadBytes_toNat {item : MuxItem} (h : item.size < 2 ^ 64) :
    (muxItemPayloadBytes item).toNat = item.size := by
  rw [muxItemPayloadBytes, UInt64.toNat_ofNat']
  exact Nat.mod_eq_of_lt h

/-- The counter follows a push that does not take it over 2^64. -/
theorem pushMuxItemLocked_counted {item : MuxItem}
    (hcounted : s.muxQueueBytes.toNat = weight MuxItem.size s.muxQueue)
    (hfits : weight MuxItem.size s.muxQueue + item.size < 2 ^ 64) :
    (pushMuxItemLocked s item).muxQueueBytes.toNat =
      weight MuxItem.size (pushMuxItemLocked s item).muxQueue := by
  have hitem := @muxItemPayloadBytes_toNat item (by omega)
  simp only [pushMuxItemLocked, UInt64.toNat_add, hitem, hcounted, weight_append, weight_cons,
    weight_nil]
  omega

/-- The counter follows a pop: it is never less than what is taken off it. -/
theorem onMuxItemPopped_counted {item : MuxItem} {rest : List MuxItem}
    (hq : s.muxQueue = item :: rest)
    (hcounted : s.muxQueueBytes.toNat = weight MuxItem.size s.muxQueue) :
    (onMuxItemPopped { s with muxQueue := rest } item).muxQueueBytes.toNat =
      weight MuxItem.size rest := by
  rw [hq, weight_cons] at hcounted
  have hlt := s.muxQueueBytes.toNat_lt
  have hitem := @muxItemPayloadBytes_toNat item (by omega)
  have hle : muxItemPayloadBytes item ≤ s.muxQueueBytes := by
    rw [UInt64.le_iff_toNat_le]
    omega
  simp only [onMuxItemPopped, if_pos hle, UInt64.toNat_sub_of_le _ _ hle]
  omega

theorem Inv.sentinel (hI : Inv limits s) {w : Worker} {p : Pc} {item : MuxItem}
    (hitem : item.isPayload = false) (hw : (s.pc w).holds = true)
    (hp : p.roomy = true → (s.pc w).roomy = true) :
    Inv limits ((pushMuxItemLocked s item).goto w p) := by
  have hsize := MuxItem.size_of_sentinel hitem
  have hlt := s.muxQueueBytes.toNat_lt
  have hcount : (s.muxQueue ++ [item]).countP MuxItem.isPayload =
      s.muxQueue.countP MuxItem.isPayload := by simp [hitem]
  have hweight : weight MuxItem.size (s.muxQueue ++ [item]) = weight MuxItem.size s.muxQueue := by
    simp [hsize]
  refine hI.changed hw ?_ ?_ (hI.within.push_weightless hsize) fun hroomy => ?_
  · refine pushMuxItemLocked_counted hI.counted ?_
    rw [← hI.counted]
    omega
  · exact hcount.trans_le hI.packets
  · have hroom := hI.room w (hp hroomy)
    exact ⟨hcount ▸ hroom.packets, hweight ▸ hroom.bytes⟩

theorem Inv.packet (hI : Inv limits s) {w : Worker} {p : Pc} (packet : Payload)
    (hw : (s.pc w).holds = true) (hroomy : (s.pc w).roomy = true) (hp : p.roomy = false) :
    Inv limits ((pushMuxItemLocked s packet.item).goto w p) := by
  have hroom := hI.room w hroomy
  have hlimit := limits.byteLimit_le
  have hbytes := hroom.bytes
  have hsize := packet.size_lt
  refine hI.changed hw ?_ ?_ (.push hbytes) fun h => ?_
  · exact pushMuxItemLocked_counted hI.counted (by omega)
  · change (s.muxQueue ++ [packet.item]).countP MuxItem.isPayload ≤ limits.packetLimit
    rw [List.countP_append, List.countP_singleton, if_pos packet.isPayload]
    exact hroom.packets
  · rw [hp] at h
    exact nomatch h

theorem Inv.popped (hI : Inv limits s) {item : MuxItem} {rest : List MuxItem} {p : Pc}
    (hq : s.muxQueue = item :: rest) (hw : (s.pc .mux).holds = true) (hp : p.roomy = false) :
    Inv limits ((onMuxItemPopped { s with muxQueue := rest } item).goto .mux p) := by
  have hpackets := hI.packets
  have hwithin := hI.within
  rw [hq] at hpackets hwithin
  refine hI.changed hw (onMuxItemPopped_counted hq hI.counted) ?_ hwithin.pop fun h => ?_
  · exact Nat.le_trans (List.sublist_cons_self item rest).countP_le hpackets
  · rw [hp] at h
    exact nomatch h

theorem Inv.step (hI : Inv limits s) (h : step limits s a = some s') : Inv limits s' := by
  cases step_outcome h with
  | flags failure stopRequested => exact hI.flags failure stopRequested
  | acquired w p hfree hp => exact hI.acquired hfree hp
  | released w p hw hp => exact hI.released hw hp
  | moved w p failure hp hroom => exact hI.moved failure hp hroom
  | sentinel w p item hitem hw hp => exact hI.sentinel hitem hw hp
  | packet w p packet hw hroom hp => exact hI.packet packet hw hroom hp
  | popped item rest p hq hw hp => exact hI.popped hq hw hp

/-- In every state of every run the counter is the sum of the queued payloads, the packets are
    within their limit, and the bytes are over theirs by less than one queued packet. -/
theorem mux_queue_bounded (limits : MuxQueueLimits) {as : List QueueAction} {s : QueueState}
    (h : StepRun.exec (step limits) {} as = some s) :
    s.muxQueueBytes.toNat = weight MuxItem.size s.muxQueue ∧
      s.muxQueue.countP MuxItem.isPayload ≤ limits.packetLimit ∧
      (weight MuxItem.size s.muxQueue ≤ limits.byteLimit.toNat ∨
        ∃ item ∈ s.muxQueue, item.isPayload = true ∧
          weight MuxItem.size s.muxQueue < limits.byteLimit.toNat + item.size) := by
  have hI : Inv limits s :=
    StepRun.exec_invariant_all (fun _ _ _ hI hstep => hI.step hstep) inv_initial h
  refine ⟨hI.counted, hI.packets, ?_⟩
  rcases hI.within.over_by_one with hle | ⟨item, hmem, hlt⟩
  · exact .inl hle
  · cases hpayload : item.isPayload with
    | true => exact .inr ⟨item, hmem, hpayload, hlt⟩
    | false =>
        rw [MuxItem.size_of_sentinel hpayload] at hlt
        exact .inl (Nat.le_of_lt hlt)

def smallLimits : MuxQueueLimits := ⟨3, 3, by decide⟩

def videoPayload : Payload := ⟨.video { bytes := [1, 2] }, rfl, by decide⟩

def audioPayload : Payload := ⟨.audio { bytes := [3, 4] }, rfl, by decide⟩

/-- Two video packets, the second with a boundary; an audio packet that waits until the first
    is popped. -/
def contendedRun : List QueueAction :=
  [.offer .video (.payload videoPayload none), .lock .video, .check .video, .push .video,
    .offer (.audio 0) (.payload audioPayload none), .unlock .video,
    .offer .video (.payload videoPayload (some ⟨1, .hotkey⟩)), .lock .video, .check .video,
    .push .video, .push .video, .unlock .video,
    .lock (.audio 0), .check (.audio 0), .lock .mux, .pop, .unlock .mux,
    .wake (.audio 0) false, .check (.audio 0), .push (.audio 0)]

theorem mux_queue_bounded_contendedRun :
    ∃ s, StepRun.exec (step smallLimits) {} contendedRun = some s ∧
      s.muxQueue = [.split ⟨1, .hotkey⟩, videoPayload.item, audioPayload.item] ∧
      s.muxQueueBytes.toNat = weight MuxItem.size s.muxQueue ∧
      s.muxQueue.countP MuxItem.isPayload ≤ smallLimits.packetLimit ∧
      (weight MuxItem.size s.muxQueue ≤ smallLimits.byteLimit.toNat ∨
        ∃ item ∈ s.muxQueue, item.isPayload = true ∧
          weight MuxItem.size s.muxQueue < smallLimits.byteLimit.toNat + item.size) := by
  have hrun : ∃ s ∈ StepRun.exec (step smallLimits) {} contendedRun,
      s.muxQueue = [.split ⟨1, .hotkey⟩, videoPayload.item, audioPayload.item] := by decide
  obtain ⟨s, hs, hqueue⟩ := hrun
  exact ⟨s, hs, hqueue, mux_queue_bounded smallLimits hs⟩

end MuxQueue
end Exosnap.Engine
