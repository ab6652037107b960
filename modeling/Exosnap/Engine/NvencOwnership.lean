/-
  Who owns the slots of the encoder: the caller, a pending frame, or nobody.

  `Owned e held queue` reads the flags of the two rings as three slot queues: the input slots in
  flight and those mapped are named by the frames of `queue` (in flight also those that the caller
  holds), the output buffers in flight by the frames of `queue`. On states without an accident the
  queue is the pending FIFO; a frame that was lost stays in the queue and not in the FIFO
  (`Inv e held lost`).
-/
import Exosnap.Engine.NvencSteps
import Exosnap.Lib.SlotQueue

namespace Exosnap.Engine.Nvenc

open SlotQueue

/-! ## Flags -/

structure Owned (e : NvencEncoder) (held : Finset (Fin 8)) (queue : List PendingFrame) : Prop where
  inFlight : Owns (fun i => (e.slots i).inFlight) held (queue.map (·.slotIdx))
  mapped : Owns (fun i => (e.slots i).mapped) ∅ (queue.map (·.slotIdx))
  outputs : Owns e.outputs ∅ (queue.filterMap (·.outIdx))

def clearOutput (outputs : Nat → Bool) : Option Nat → Nat → Bool
  | some idx => Function.update outputs idx false
  | none => outputs

theorem flag_update (flag : InputSlot → Bool) (slots : Fin 8 → InputSlot) (i : Fin 8)
    (slot : InputSlot) : (fun j => flag (Function.update slots i slot j)) =
      Function.update (fun j => flag (slots j)) i (flag slot) :=
  funext fun j => Function.apply_update (fun _ => flag) slots i slot j

theorem Owned.perm {e : NvencEncoder} {held : Finset (Fin 8)} {queue queue' : List PendingFrame}
    (h : Owned e held queue) (hperm : queue.Perm queue') : Owned e held queue' where
  inFlight := h.inFlight.perm (hperm.map _)
  mapped := h.mapped.perm (hperm.map _)
  outputs := h.outputs.perm (hperm.filterMap _)

/-- A frame of the queue goes with its slot and its output buffer. -/
theorem Owned.free {e e' : NvencEncoder} {held : Finset (Fin 8)} {p : PendingFrame}
    {queue : List PendingFrame} {slot : InputSlot} (h : Owned e held (p :: queue))
    (hslots : e'.slots = Function.update e.slots p.slotIdx slot) (hflight : slot.inFlight = false)
    (hmapped : slot.mapped = false) (houtputs : e'.outputs = clearOutput e.outputs p.outIdx) :
    Owned e' held queue where
  inFlight := by
    rw [hslots, flag_update InputSlot.inFlight, hflight]
    exact h.inFlight.dequeue
  mapped := by
    rw [hslots, flag_update InputSlot.mapped, hmapped]
    exact h.mapped.dequeue
  outputs := by
    have houts := h.outputs
    rw [houtputs]
    cases hidx : p.outIdx with
    | none =>
      rw [List.filterMap_cons_none hidx] at houts
      exact houts
    | some idx =>
      rw [List.filterMap_cons_some hidx] at houts
      exact houts.dequeue

/-! ## Timestamps -/

/-- Timestamps that count up from `first`; `next` comes behind them. -/
def Consecutive (first : UInt64) : List UInt64 → UInt64 → Prop
  | [], next => first = next
  | t :: ts, next => t = first ∧ Consecutive (first + 1) ts next

theorem Consecutive.push {ts : List UInt64} {next : UInt64} :
    ∀ {first : UInt64}, Consecutive first ts next →
      Consecutive first (ts ++ [next]) (next + 1) := by
  induction ts with
  | nil =>
    rintro first rfl
    exact ⟨rfl, rfl⟩
  | cons t ts ih => exact fun h => ⟨h.1, ih h.2⟩

theorem Consecutive.toNat_next {ts : List UInt64} {next : UInt64} :
    ∀ {first : UInt64}, Consecutive first ts next →
      next.toNat = (first.toNat + ts.length) % 2 ^ 64 := by
  induction ts with
  | nil =>
    rintro first rfl
    exact (Nat.mod_eq_of_lt first.toNat_lt).symm
  | cons t ts ih =>
    intro first h
    rw [ih h.2, UInt64.toNat_add, List.length_cons]
    simp
    omega

/-- The next timestamp is a new one. -/
theorem Consecutive.next_not_mem {ts : List UInt64} {next : UInt64} (hlen : ts.length < 2 ^ 64) :
    ∀ {first : UInt64}, Consecutive first ts next → next ∉ ts := by
  induction ts with
  | nil => exact fun _ => List.not_mem_nil
  | cons t ts ih =>
    intro first h hmem
    rw [List.length_cons] at hlen
    rcases List.mem_cons.mp hmem with heq | hrest
    · have hnext := h.2.toNat_next
      have hfirst : t = first := h.1
      rw [heq, hfirst, UInt64.toNat_add] at hnext
      have := first.toNat_lt
      simp at hnext
      omega
    · exact ih (by omega) h.2 hrest

/-! ## The invariant -/

/-- A pending frame names an output buffer of the ring in async mode, none in sync mode. -/
def NvencEncoder.InRing (e : NvencEncoder) (p : PendingFrame) : Prop :=
  p.outIdx.isSome = e.asyncMode ∧ ∀ idx ∈ p.outIdx, idx < e.activeDepth

structure Inv (e : NvencEncoder) (held : Finset (Fin 8)) (lost : List PendingFrame) : Prop where
  owned : Owned e held (e.pending ++ lost)
  inRing : ∀ p ∈ e.pending, e.InRing p
  stamps : ∃ first, Consecutive first (e.pending.map (·.inputTs)) e.frameIdx

/-- The output buffer of a frame in the ring is in the range that the code checks. -/
theorem NvencEncoder.InRing.outputOf? {e : NvencEncoder} {p : PendingFrame} (h : e.InRing p) :
    NvencEncoder.outputOf? p = p.outIdx := by
  unfold NvencEncoder.outputOf?
  cases hidx : p.outIdx with
  | none => rfl
  | some idx =>
    have hdepth := h.2 idx hidx
    have hle := e.activeDepth.is_lt
    have hlt : idx < kMaxOutputResources := by omega
    simp [Option.filter, hlt]

/-- What taking the oldest frame leaves of the encoder. -/
theorem retire_encoder {s : Session} {p : PendingFrame} (pending : List PendingFrame)
    (bitstream : LockBitstream) (hring : s.encoder.InRing p) :
    ∃ slot gopStart, slot.inFlight = false ∧ slot.mapped = false ∧
      (s.retire p pending bitstream).encoder =
        { s.encoder with
          pending := pending
          gopStartPtsNs := gopStart
          slots := Function.update s.encoder.slots p.slotIdx slot
          outputs := clearOutput s.encoder.outputs p.outIdx } := by
  unfold Session.retire
  dsimp only
  generalize hset : s.setEncoder _ = m
  obtain ⟨slot, hfree, hflight, hmapped⟩ := freeSlot_encoder m p.slotIdx
  have hasync : (m.freeSlot p.slotIdx).encoder.asyncMode = p.outIdx.isSome := by
    rw [hfree, hring.1, ← hset]
    rfl
  refine ⟨slot, m.encoder.gopStartPtsNs, hflight, hmapped, ?_⟩
  rw [hring.outputOf?, hasync]
  cases hidx : p.outIdx with
  | none =>
    show (m.freeSlot p.slotIdx).encoder = _
    rw [hfree, ← hset]
    rfl
  | some idx =>
    show ((m.freeSlot p.slotIdx).encoder.setOutput idx false) = _
    rw [hfree, ← hset]
    rfl

/-! ## One step -/

section
variable {s s' : Session} {e : NvencEncoder} {held : Finset (Fin 8)} {lost : List PendingFrame}
  {p : PendingFrame} {pending : List PendingFrame}

/-- The invariant reads nothing but flags, FIFO, mode and frame counter. -/
theorem Inv.congr {e' : NvencEncoder} (h : Inv e held lost) (hslots : e'.slots = e.slots)
    (houtputs : e'.outputs = e.outputs) (hpending : e'.pending = e.pending)
    (hasync : e'.asyncMode = e.asyncMode) (hdepth : e'.activeDepth = e.activeDepth)
    (hframe : e'.frameIdx = e.frameIdx) : Inv e' held lost where
  owned := by
    obtain ⟨hflight, hmapped, houts⟩ := h.owned
    exact ⟨by rw [hslots, hpending]; exact hflight, by rw [hslots, hpending]; exact hmapped,
      by rw [houtputs, hpending]; exact houts⟩
  inRing q hq := by
    have hring := h.inRing q (hpending ▸ hq)
    exact ⟨by rw [hasync]; exact hring.1, by rw [hdepth]; exact hring.2⟩
  stamps := by
    rw [hpending, hframe]
    exact h.stamps

theorem Consecutive.tail {ts : List UInt64} {first t next : UInt64}
    (h : Consecutive first (t :: ts) next) : Consecutive (first + 1) ts next := h.2

theorem Inv.retire (h : Inv s.encoder held lost) (hpending : s.encoder.pending = p :: pending)
    (bitstream : LockBitstream) : Inv (s.retire p pending bitstream).encoder held lost := by
  obtain ⟨hown, hrings, first, hstamps⟩ := h
  rw [hpending] at hown hstamps
  obtain ⟨slot, gopStart, hflight, hmapped, hencoder⟩ :=
    retire_encoder pending bitstream (hrings p (hpending ▸ List.mem_cons_self))
  rw [hencoder]
  exact ⟨hown.free rfl hflight hmapped rfl,
    fun q hq => hrings q (hpending ▸ List.mem_cons_of_mem p hq), first + 1, hstamps.tail⟩

/-- A lost frame keeps its slot and its buffer. -/
theorem Inv.lose (h : Inv s.encoder held lost) (hpending : s.encoder.pending = p :: pending) :
    Inv (s.lose pending).encoder held (p :: lost) := by
  obtain ⟨hown, hrings, first, hstamps⟩ := h
  rw [hpending] at hown hstamps
  have hperm : (p :: (pending ++ lost)).Perm (pending ++ p :: lost) := List.perm_middle.symm
  have hkept := hown.perm hperm
  exact ⟨⟨hkept.inFlight, hkept.mapped, hkept.outputs⟩,
    fun q hq => hrings q (hpending ▸ List.mem_cons_of_mem p hq), first + 1, hstamps.tail⟩

/-! ## Draining -/

theorem Inv.drains {driver : Driver} {packets : List EncodedVideoPacket}
    {gone : List PendingFrame} (h : Drains driver s packets gone s') :
    ∀ {lost : List PendingFrame}, Inv s.encoder held lost →
      Inv s'.encoder held (gone.reverse ++ lost) := by
  induction h with
  | done s => exact fun hI => hI
  | quiet event hquiet _ ih => exact fun hI => ih hI
  | turn cursor _ ih => exact fun hI => ih (hI.congr rfl rfl rfl rfl rfl rfl)
  | @take s _ _ _ p pending _ _ hpending hlock hecho _ ih =>
    exact fun hI => ih (Inv.retire (s := s.lockedWith _) hI hpending _)
  | @lose s _ _ gone p pending _ _ hpending hlock hecho _ ih =>
    intro lost hI
    have hrest := ih (Inv.lose (s := s.lockedWith _) hI hpending)
    rw [List.reverse_cons, List.append_assoc]
    exact hrest

/-! ## Slots of the caller -/

/-- A slot that the caller holds is in flight and not mapped. -/
theorem Owned.heldSlot {queue : List PendingFrame} (h : Owned e held queue) {i : Fin 8}
    (hi : i ∈ held) : (e.slots i).inFlight = true ∧ (e.slots i).mapped = false := by
  refine ⟨(h.inFlight.marked i).mpr (.inl hi), ?_⟩
  rw [Bool.eq_false_iff]
  intro hmapped
  rcases (h.mapped.marked i).mp hmapped with hnone | hqueue
  · exact absurd hnone (Finset.notMem_empty i)
  · exact h.inFlight.disjoint i hqueue hi

theorem acquireFreeSlot_some {i : Fin 8} (h : e.acquireFreeSlot.1 = some i) :
    (e.slots i).inFlight = false ∧ (e.slots i).mapped = false ∧
      e.acquireFreeSlot.2 =
        { e.setSlot i { e.slots i with inFlight := true } with slotCursor := i + 1 } := by
  unfold NvencEncoder.acquireFreeSlot at h ⊢
  split at h
  · next idx hfind =>
    obtain rfl := Option.some.inj h
    have hfree := List.find?_some hfind
    rw [Bool.and_eq_true, Bool.not_eq_true', Bool.not_eq_true'] at hfree
    exact ⟨hfree.1, hfree.2, rfl⟩
  · exact nomatch h

theorem acquireFreeSlot_none (h : e.acquireFreeSlot.1 = none) : e.acquireFreeSlot.2 = e := by
  unfold NvencEncoder.acquireFreeSlot at h ⊢
  split at h
  · exact nomatch h
  · rfl

theorem Inv.acquire {i : Fin 8} (h : Inv e held []) (hi : e.acquireFreeSlot.1 = some i) :
    Inv e.acquireFreeSlot.2 (insert i held) [] := by
  obtain ⟨hflight, _, hencoder⟩ := acquireFreeSlot_some hi
  obtain ⟨⟨howns, hmapped, houtputs⟩, hrings, hstamps⟩ := h
  rw [hencoder]
  refine ⟨⟨?_, ?_, houtputs⟩, hrings, hstamps⟩
  · show Owns (fun j => (Function.update e.slots i _ j).inFlight) _ _
    rw [flag_update InputSlot.inFlight]
    exact howns.hold hflight
  · show Owns (fun j => (Function.update e.slots i _ j).mapped) _ _
    rw [flag_update InputSlot.mapped]
    dsimp only
    rw [Function.update_eq_self i fun j => (e.slots j).mapped]
    exact hmapped

theorem Inv.release {i : Fin 8} (h : Inv s.encoder held []) (hi : i ∈ held) :
    Inv (s.freeSlot i).encoder (held.erase i) [] := by
  obtain ⟨slot, hfree, hflight, hclear⟩ := freeSlot_encoder s i
  obtain ⟨hown, hrings, hstamps⟩ := h
  have hunmapped := (hown.heldSlot hi).2
  obtain ⟨howns, hmapped, houtputs⟩ := hown
  rw [hfree]
  refine ⟨⟨?_, ?_, houtputs⟩, hrings, hstamps⟩
  · show Owns (fun j => (Function.update s.encoder.slots i slot j).inFlight) _ _
    rw [flag_update InputSlot.inFlight, hflight]
    exact howns.drop hi
  · show Owns (fun j => (Function.update s.encoder.slots i slot j).mapped) _ _
    rw [flag_update InputSlot.mapped, hclear, ← hunmapped,
      Function.update_eq_self i fun j => (s.encoder.slots j).mapped]
    exact hmapped

/-! ## Submission -/

/-- The entry of a submission. -/
def NvencEncoder.entry (e : NvencEncoder) (i : Fin 8) (ptsNs : UInt64) (outIdx : Option Nat) :
    PendingFrame where
  ptsNs := ptsNs
  slotIdx := i
  inputTs := e.frameIdx
  predictedKeyframe := (nextGopKeyframePhase ptsNs e.haveGopStart e.gopStartPtsNs e.gopDurationNs
    e.frameIntervalNs e.forceIdrNext).isKeyframe
  outIdx := outIdx

theorem submission_pending (s : Session) (i : Fin 8) (ptsNs : UInt64) (width height : UInt32)
    (resource outIdx : Option Nat) :
    (s.submission i ptsNs width height resource outIdx).2.encoder.pending =
      s.encoder.pending ++ [s.encoder.entry i ptsNs outIdx] := rfl

theorem Inv.submission {i : Fin 8} (h : Inv s.encoder held []) (hi : i ∈ held)
    (ptsNs : UInt64) (width height : UInt32) (resource : Option Nat) {outIdx : Option Nat}
    (hout : s.encoder.Offers outIdx) :
    Inv (s.submission i ptsNs width height resource outIdx).2.encoder (held.erase i) [] := by
  obtain ⟨hown, hrings, first, hstamps⟩ := h
  obtain ⟨hflight, hunmapped⟩ := hown.heldSlot hi
  obtain ⟨howns, hmapped, houtputs⟩ := hown
  rw [List.append_nil] at howns hmapped houtputs
  refine ⟨⟨?_, ?_, ?_⟩, ?_, first, ?_⟩
  · rw [submission_pending, List.append_nil, List.map_append]
    show Owns (fun j => (Function.update s.encoder.slots i _ j).inFlight) _ _
    rw [flag_update InputSlot.inFlight]
    dsimp only
    rw [Function.update_eq_self i fun j => (s.encoder.slots j).inFlight]
    exact howns.enqueue hi
  · rw [submission_pending, List.append_nil, List.map_append]
    show Owns (fun j => (Function.update s.encoder.slots i _ j).mapped) _ _
    rw [flag_update InputSlot.mapped]
    exact hmapped.place hunmapped
  · rw [submission_pending, List.append_nil, List.filterMap_append]
    cases outIdx with
    | none =>
      show Owns s.encoder.outputs ∅ (_ ++ [])
      rwa [List.append_nil]
    | some idx => exact houtputs.place (hout.2 idx rfl).2
  · intro p hp
    rw [submission_pending] at hp
    rcases List.mem_append.mp hp with hold | hnew
    · exact hrings p hold
    · rw [List.mem_singleton.mp hnew]
      exact ⟨hout.1, fun idx hidx => (hout.2 idx hidx).1⟩
  · rw [submission_pending, List.map_append]
    exact hstamps.push

end

end Exosnap.Engine.Nvenc
