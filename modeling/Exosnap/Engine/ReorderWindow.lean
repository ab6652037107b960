/-
  The reorder window of the Matroska writer: what the blocks of a finished file are, given
  the packets pushed.

  Input condition (`Admissible`): no PTS is more than the window behind one pushed before it,
  the window never holds more than its ceiling, and no PTS plus the window reaches `2^64`.
  The last one matters: `DrainWindow` adds the two in 64 bits, and a wrapped sum lets a packet
  go at once (`reorderWindow_wraps`).

  The invariant (`WindowInv`) is one equation: the packets drained so far followed by the
  window are the stable sort of what was pushed. A new packet goes into the window part,
  because a drained packet is at least a window older than the newest PTS, and so precedes
  every packet that may still arrive (`push_inv`). `Finalize` moves the rest of the window to
  the drained part.
-/
import Exosnap.Engine.MatroskaStreamWriter
import Mathlib.Algebra.GroupWithZero.Nat

namespace Exosnap.Engine

/-- No step fails. -/
def OutputIo.Healthy (io : OutputIo) : Prop := ∀ n, io.fails n = none

namespace MuxPacket

instance : IsTrans MuxPacket Precedes := ⟨fun _ _ _ h h' => UInt64.le_trans h h'⟩

instance : Std.Total Precedes := ⟨fun a b => UInt64.le_total a.ptsNs b.ptsNs⟩

def nonEmpty (p : MuxPacket) : Bool := !p.bytes.isEmpty

/-- `p` is at most `windowNs` behind `q`. -/
def NotLate (windowNs : UInt64) (q p : MuxPacket) : Prop :=
  q.ptsNs.toNat ≤ p.ptsNs.toNat + windowNs.toNat

instance (windowNs : UInt64) : DecidableRel (NotLate windowNs) :=
  fun _ _ => inferInstanceAs (Decidable (_ ≤ _))

/-- The track number names one of `n` entries. -/
def hasTrack (n : Nat) (p : MuxPacket) : Bool := (Writer.resolveTrack n p.trackNum).isSome

/-- The block a packet is written as, when its track number names one of `n` entries. -/
def block? (n : Nat) (p : MuxPacket) : Option SimpleBlock :=
  (Writer.resolveTrack n p.trackNum).map fun t => ⟨t, p.ptsNs, p.isKey, p.bytes⟩

end MuxPacket

open MuxPacket

namespace Writer

/-- Below `2^32` the track numbers are exactly `1 … n`, each its own entry. -/
theorem resolveTrack_eq_some_iff {n : Nat} (hn : 0 < n) {t : UInt64} (ht : t.toNat < 2 ^ 32)
    {i : Nat} : resolveTrack n t = some i ↔ t.toNat = i + 1 ∧ i < n := by
  unfold resolveTrack
  by_cases h0 : t = 0
  · subst h0
    simp
  · by_cases h1 : t = 1
    · subst h1
      simp
      omega
    · have h0' : t.toNat ≠ 0 := fun h => h0 (UInt64.toNat_inj.mp h)
      have h1' : t.toNat ≠ 1 := fun h => h1 (UInt64.toNat_inj.mp h)
      have hle : (2 : UInt64) ≤ t := UInt64.le_iff_toNat_le.mpr (by simp; omega)
      have hidx : ((t - 2).toUInt32 + 1).toNat = t.toNat - 1 := by
        rw [UInt32.toNat_add, UInt64.toNat_toUInt32, UInt64.toNat_sub_of_le _ _ hle]
        simp
        omega
      simp only [if_neg h0, if_neg h1, hidx]
      split
      · simp
        omega
      · simp
        omega

/-! ## One step without I/O failure -/

section
variable {io : OutputIo} (hio : io.Healthy)
include hio

theorem ioStep_healthy (w : Writer) : w.ioStep io = (none, { w with ioCount := w.ioCount + 1 }) := by
  unfold ioStep
  rw [hio]

end

/-- What a drain never touches. -/
structure SameWindowState (w w' : Writer) : Prop where
  config : w'.config = w.config
  trackEntries : w'.trackEntries = w.trackEntries
  maxPushedPtsNs : w'.maxPushedPtsNs = w.maxPushedPtsNs
  failed : w'.failed = w.failed
  opened : w'.opened = w.opened
  finalized : w'.finalized = w.finalized
  peakWindowPackets : w'.peakWindowPackets = w.peakWindowPackets

theorem SameWindowState.trans {a b c : Writer} (h : SameWindowState a b)
    (h' : SameWindowState b c) : SameWindowState a c where
  config := h'.config.trans h.config
  trackEntries := h'.trackEntries.trans h.trackEntries
  maxPushedPtsNs := h'.maxPushedPtsNs.trans h.maxPushedPtsNs
  failed := h'.failed.trans h.failed
  opened := h'.opened.trans h.opened
  finalized := h'.finalized.trans h.finalized
  peakWindowPackets := h'.peakWindowPackets.trans h.peakWindowPackets

/-- Once the first cluster was started there is an open one to append to. -/
def ClusterOpen (w : Writer) : Prop := w.firstCluster = false → w.cluster ≠ none

section
variable {io : OutputIo} (hio : io.Healthy)
include hio

/-- A flush moves the open cluster's blocks into the file. -/
theorem flushCluster_spec (w : Writer) :
    ∃ w', w.flushCluster io = (w', true) ∧ SameWindowState w w' ∧
      w'.writtenBlocks = w.emittedBlocks ∧ w'.cluster = none ∧ w'.firstCluster = w.firstCluster := by
  unfold flushCluster
  cases hc : w.cluster with
  | none =>
      refine ⟨w, rfl, ⟨rfl, rfl, rfl, rfl, rfl, rfl, rfl⟩, ?_, hc, rfl⟩
      simp [emittedBlocks, hc]
  | some c =>
      dsimp only
      rw [ioStep_healthy hio]
      dsimp only
      rw [ioStep_healthy hio]
      refine ⟨_, rfl, ⟨rfl, rfl, rfl, rfl, rfl, rfl, rfl⟩, ?_, rfl, rfl⟩
      simp [emittedBlocks, writtenBlocks, hc]

/-- A packet of some track becomes the next block; one of no track leaves the writer as it
    was. -/
theorem emitPacket_spec {w : Writer} (hopen : w.ClusterOpen) (e : MuxPacket) :
    ∃ w', w.emitPacket io e = (w', true) ∧ SameWindowState w w' ∧ w'.ClusterOpen ∧
      w'.emittedBlocks = w.emittedBlocks ++ (e.block? w.trackEntries).toList := by
  unfold emitPacket block?
  cases hr : resolveTrack w.trackEntries e.trackNum with
  | none => exact ⟨w, rfl, ⟨rfl, rfl, rfl, rfl, rfl, rfl, rfl⟩, hopen, by simp⟩
  | some t =>
      dsimp only
      split
      · obtain ⟨w', hf, hsame, hblocks, -, -⟩ := flushCluster_spec hio w
        rw [hf]
        refine ⟨_, rfl, ⟨hsame.config, hsame.trackEntries, hsame.maxPushedPtsNs, hsame.failed,
          hsame.opened, hsame.finalized, hsame.peakWindowPackets⟩, by simp [ClusterOpen, addBlock], ?_⟩
        rw [← hblocks]
        simp [emittedBlocks, writtenBlocks, addBlock]
      · rename_i hneed
        -- no new cluster is needed, so the first one was started and one is open
        have hfirst : w.firstCluster = false := by
          cases hfc : w.firstCluster with
          | false => rfl
          | true => simp [needNewCluster, hfc] at hneed
        obtain ⟨c, hc⟩ := Option.ne_none_iff_exists'.mp (hopen hfirst)
        refine ⟨_, rfl, ⟨rfl, rfl, rfl, rfl, rfl, rfl, rfl⟩, by simp [ClusterOpen, addBlock, hc], ?_⟩
        simp [emittedBlocks, writtenBlocks, addBlock, hc]

/-- The drain takes a prefix off the window and emits it in order: all of it when forced, and
    otherwise, within the ceiling, only packets behind the horizon. -/
theorem drainFrom_spec (force : Bool) (l : List MuxPacket) {w : Writer} (hopen : w.ClusterOpen) :
    ∃ w' out rest, w.drainFrom io force l = (w', true) ∧ l = out ++ rest ∧ w'.window = rest ∧
      SameWindowState w w' ∧ w'.ClusterOpen ∧
      w'.emittedBlocks = w.emittedBlocks ++ out.filterMap (block? w.trackEntries) ∧
      (force = true → rest = []) ∧
      (force = false → l.length ≤ w.config.reorderWindowMaxPackets →
        ∀ e ∈ out, e.ptsNs + w.config.reorderWindowNs ≤ w.maxPushedPtsNs) := by
  induction l generalizing w with
  | nil =>
      exact ⟨_, [], [], rfl, rfl, rfl, ⟨rfl, rfl, rfl, rfl, rfl, rfl, rfl⟩, hopen,
        by simp [emittedBlocks, writtenBlocks], fun _ => rfl, by simp⟩
  | cons front rest ih =>
      unfold drainFrom
      dsimp only
      split
      · rename_i hstop
        refine ⟨_, [], front :: rest, rfl, rfl, rfl, ⟨rfl, rfl, rfl, rfl, rfl, rfl, rfl⟩, hopen,
          by simp [emittedBlocks, writtenBlocks], fun hforce => ?_, by simp⟩
        simp [hforce] at hstop
      · rename_i hgo
        obtain ⟨w₁, he, hsame₁, hopen₁, hblocks₁⟩ := emitPacket_spec hio hopen front
        rw [he]
        dsimp only
        obtain ⟨w', out, rest', hd, hl, hw, hsame, hopen', hblocks, hforce, hhorizon⟩ :=
          ih (w := { w₁ with curWindowBytes := w₁.curWindowBytes - front.bytes.length }) hopen₁
        refine ⟨w', front :: out, rest', hd, by rw [hl]; rfl, hw, ?_, hopen', ?_, hforce, ?_⟩
        · exact hsame₁.trans ⟨hsame.config, hsame.trackEntries, hsame.maxPushedPtsNs, hsame.failed,
            hsame.opened, hsame.finalized, hsame.peakWindowPackets⟩
        · rw [hblocks]
          show w₁.emittedBlocks ++ out.filterMap (block? w₁.trackEntries) = _
          rw [hblocks₁, hsame₁.trackEntries, List.append_assoc, List.filterMap_cons]
          cases front.block? w.trackEntries <;> simp
        · intro hf hlen e he'
          rcases List.mem_cons.mp he' with rfl | hmem
          · -- not forced and not over the ceiling, so the horizon let the front go
            by_contra hcon
            exact hgo (by simp [hf, hcon]; simpa using hlen)
          · have := hhorizon hf (by
              show rest.length ≤ w₁.config.reorderWindowMaxPackets
              rw [hsame₁.config]
              exact Nat.le_of_succ_le hlen) e hmem
            have hcfg : w₁.config.reorderWindowNs = w.config.reorderWindowNs := by
              rw [hsame₁.config]
            rw [← hsame₁.maxPushedPtsNs, ← hcfg]
            exact this

end

theorem push_empty {io : OutputIo} {w : Writer} {p : MuxPacket} (hp : p.nonEmpty = false) :
    (w.push io p).1 = w := by
  have hb : p.bytes.isEmpty = true := by simpa [nonEmpty] using hp
  unfold push
  rw [hb]
  split <;> rfl

theorem andThen_true (w : Writer) (phase : Writer → Writer × Bool) :
    andThen (w, true) phase = phase w := rfl

/-! ## The invariant of a run of pushes -/

/-- After the non-empty packets `pushed`. -/
structure WindowInv (cfg : MatroskaStreamConfig) (pushed : List MuxPacket) (w : Writer) : Prop where
  config : w.config = cfg
  trackEntries : w.trackEntries = 1 + cfg.audioTracks.length
  opened : w.opened = true
  failed : w.failed = false
  finalized : w.finalized = false
  clusterOpen : w.ClusterOpen
  maxPushed_ge : ∀ p ∈ pushed, p.ptsNs ≤ w.maxPushedPtsNs
  maxPushed_attained : w.maxPushedPtsNs = 0 ∨ ∃ p ∈ pushed, p.ptsNs = w.maxPushedPtsNs
  drained : ∃ out, out ++ w.window = pushed.insertionSort Precedes ∧
    w.emittedBlocks = out.filterMap (block? (1 + cfg.audioTracks.length)) ∧
    ∀ e ∈ out, e.ptsNs.toNat + cfg.reorderWindowNs.toNat ≤ w.maxPushedPtsNs.toNat

theorem enqueue_maxPushed_ge (w : Writer) (p : MuxPacket) :
    w.maxPushedPtsNs ≤ (w.enqueue p).maxPushedPtsNs ∧ p.ptsNs ≤ (w.enqueue p).maxPushedPtsNs := by
  show _ ≤ (if w.maxPushedPtsNs < p.ptsNs then p.ptsNs else w.maxPushedPtsNs) ∧
    _ ≤ (if w.maxPushedPtsNs < p.ptsNs then p.ptsNs else w.maxPushedPtsNs)
  split
  · rename_i hlt
    exact ⟨UInt64.le_of_lt hlt, UInt64.le_refl _⟩
  · rename_i hlt
    exact ⟨UInt64.le_refl _, UInt64.not_lt.mp hlt⟩

theorem enqueue_maxPushed_attained {w : Writer} {pushed : List MuxPacket} (p : MuxPacket)
    (h : w.maxPushedPtsNs = 0 ∨ ∃ q ∈ pushed, q.ptsNs = w.maxPushedPtsNs) :
    (w.enqueue p).maxPushedPtsNs = 0 ∨
      ∃ q ∈ pushed ++ [p], q.ptsNs = (w.enqueue p).maxPushedPtsNs := by
  show (if w.maxPushedPtsNs < p.ptsNs then p.ptsNs else w.maxPushedPtsNs) = 0 ∨ _
  by_cases hlt : w.maxPushedPtsNs < p.ptsNs
  · exact Or.inr ⟨p, by simp, by simp [enqueue, hlt]⟩
  · rw [if_neg hlt]
    refine h.imp id fun hmem => ?_
    obtain ⟨q, hq, hqm⟩ := hmem
    exact ⟨q, by simp [hq], by simp [enqueue, hlt, hqm]⟩

/-- Every drained packet precedes one that is not late, so the scan over the window alone is
    the scan over all packets so far. -/
theorem WindowInv.enqueue_sorted {cfg : MatroskaStreamConfig} {pushed out : List MuxPacket}
    {w : Writer} {p : MuxPacket} (h : WindowInv cfg pushed w)
    (hsort : out ++ w.window = pushed.insertionSort Precedes)
    (hbehind : ∀ e ∈ out, e.ptsNs.toNat + cfg.reorderWindowNs.toNat ≤ w.maxPushedPtsNs.toNat)
    (hlate : ∀ q ∈ pushed, NotLate cfg.reorderWindowNs q p) :
    out ++ (w.enqueue p).window = (pushed ++ [p]).insertionSort Precedes := by
  have hmax : w.maxPushedPtsNs.toNat ≤ p.ptsNs.toNat + cfg.reorderWindowNs.toNat := by
    rcases h.maxPushed_attained with h0 | ⟨q, hq, hqm⟩
    · rw [h0]
      exact Nat.zero_le _
    · rw [← hqm]
      exact hlate q hq
  have hprec : ∀ e ∈ out, Precedes e p := by
    intro e he
    have := hbehind e he
    exact UInt64.le_iff_toNat_le.mpr (by omega)
  rw [StableInsert.insertionSort_concat, ← hsort, StableInsert.insertFromBack_append _ hprec]
  rfl

section
variable {io : OutputIo} (hio : io.Healthy)
include hio

theorem openFile_inv {cfg : MatroskaStreamConfig} (hopen : (openFile io {} cfg).2 = true) :
    WindowInv cfg [] (openFile io {} cfg).1 := by
  unfold openFile at hopen ⊢
  simp only [ioStep_healthy hio] at hopen ⊢
  cases hweb : webmError cfg with
  | some reason => simp [hweb] at hopen
  | none =>
      cases htrk : cfg.audioTracks.findSome? fun t => trackHeaderError cfg.audioCodec t.codecPrivate with
      | some reason => simp [hweb, htrk] at hopen
      | none =>
          simp only [Bool.false_eq_true, if_false]
          exact {
            config := rfl
            trackEntries := rfl
            opened := rfl
            failed := rfl
            finalized := rfl
            clusterOpen := by simp [ClusterOpen]
            maxPushed_ge := by simp
            maxPushed_attained := Or.inl rfl
            drained := ⟨[], rfl, rfl, by simp⟩ }

/-- A packet no more than the window behind the ones before it keeps the invariant: every
    drained packet precedes it. -/
theorem push_inv {cfg : MatroskaStreamConfig} {pushed : List MuxPacket} {w : Writer}
    (h : WindowInv cfg pushed w) {p : MuxPacket} (hp : p.nonEmpty = true)
    (hlate : ∀ q ∈ pushed, NotLate cfg.reorderWindowNs q p)
    (hwrap : ∀ q ∈ pushed ++ [p], q.ptsNs.toNat + cfg.reorderWindowNs.toNat < 2 ^ 64)
    (hcap : (w.push io p).1.peakWindowPackets ≤ cfg.reorderWindowMaxPackets) :
    WindowInv cfg (pushed ++ [p]) (w.push io p).1 := by
  have hpush : w.push io p = (w.enqueue p).drainWindow io false := by
    have hb : p.bytes.isEmpty = false := by simpa [nonEmpty] using hp
    simp [push, h.failed, h.opened, h.finalized, hb]
  obtain ⟨out₀, hsort, hblocks₀, hbehind₀⟩ := h.drained
  obtain ⟨w', out, rest, hd, hl, hw, hsame, hopen', hblocks, -, hhorizon⟩ :=
    drainFrom_spec hio false (w.enqueue p).window (w := w.enqueue p) h.clusterOpen
  have hres : w.push io p = (w', true) := hpush.trans hd
  rw [hres] at hcap ⊢
  have hsorted := h.enqueue_sorted hsort hbehind₀ hlate
  obtain ⟨hmono, hown⟩ := enqueue_maxPushed_ge w p
  have hlen : (w.enqueue p).window.length ≤ cfg.reorderWindowMaxPackets := by
    rw [hsame.peakWindowPackets] at hcap
    exact le_trans (le_max_right w.peakWindowPackets _) hcap
  have hcfg : (w.enqueue p).config = cfg := h.config
  refine {
    config := hsame.config.trans h.config
    trackEntries := hsame.trackEntries.trans h.trackEntries
    opened := hsame.opened.trans h.opened
    failed := hsame.failed.trans h.failed
    finalized := hsame.finalized.trans h.finalized
    clusterOpen := hopen'
    maxPushed_ge := fun q hq => ?_
    maxPushed_attained := ?_
    drained := ⟨out₀ ++ out, ?_, ?_, ?_⟩ }
  · rw [hsame.maxPushedPtsNs]
    rcases List.mem_append.mp hq with hq | hq
    · exact UInt64.le_trans (h.maxPushed_ge q hq) hmono
    · rw [List.mem_singleton.mp hq]
      exact hown
  · rw [hsame.maxPushedPtsNs]
    exact enqueue_maxPushed_attained p h.maxPushed_attained
  · rw [List.append_assoc, hw, ← hl, hsorted]
  · rw [hblocks, List.filterMap_append, ← hblocks₀]
    show _ ++ out.filterMap (block? w.trackEntries) = _
    rw [h.trackEntries]
    rfl
  · intro e he
    rw [hsame.maxPushedPtsNs]
    rcases List.mem_append.mp he with he | he
    · exact le_trans (hbehind₀ e he) (UInt64.le_iff_toNat_le.mp hmono)
    · -- the sum the horizon compares did not wrap
      have hmem : e ∈ pushed ++ [p] := by
        rw [← (List.perm_insertionSort Precedes _).mem_iff, ← hsorted, hl]
        simp [he]
      have hno := hwrap e hmem
      have := UInt64.le_iff_toNat_le.mp (hhorizon rfl (by rw [hcfg]; exact hlen) e he)
      rw [hcfg, UInt64.toNat_add, Nat.mod_eq_of_lt (by omega)] at this
      exact this

/-- The recorded peak only grows. -/
theorem push_peak_le {w : Writer} (hopen : w.ClusterOpen) (p : MuxPacket) :
    w.peakWindowPackets ≤ (w.push io p).1.peakWindowPackets ∧ (w.push io p).1.ClusterOpen := by
  unfold push
  split
  · exact ⟨Nat.le_refl _, hopen⟩
  · split
    · exact ⟨Nat.le_refl _, hopen⟩
    · obtain ⟨w', out, rest, hd, -, -, hsame, hopen', -⟩ :=
        drainFrom_spec hio false (w.enqueue p).window (w := w.enqueue p) hopen
      rw [drainWindow, hd]
      exact ⟨by rw [hsame.peakWindowPackets]; exact le_max_left _ _, hopen'⟩

theorem pushAll_peak_le (packets : List MuxPacket) {w : Writer} (hopen : w.ClusterOpen) :
    w.peakWindowPackets ≤ (w.pushAll io packets).peakWindowPackets := by
  induction packets generalizing w with
  | nil => exact Nat.le_refl _
  | cons p packets ih =>
      obtain ⟨hpeak, hopen'⟩ := push_peak_le hio hopen p
      exact le_trans hpeak (ih hopen')

/-- The run lemma. -/
theorem pushAll_inv {cfg : MatroskaStreamConfig} {packets pushed : List MuxPacket} {w : Writer}
    (h : WindowInv cfg pushed w)
    (hlate : (pushed ++ packets.filter nonEmpty).Pairwise (NotLate cfg.reorderWindowNs))
    (hwrap : ∀ q ∈ pushed ++ packets.filter nonEmpty,
      q.ptsNs.toNat + cfg.reorderWindowNs.toNat < 2 ^ 64)
    (hcap : (w.pushAll io packets).peakWindowPackets ≤ cfg.reorderWindowMaxPackets) :
    WindowInv cfg (pushed ++ packets.filter nonEmpty) (w.pushAll io packets) := by
  induction packets generalizing pushed w with
  | nil => simpa [pushAll] using h
  | cons p packets ih =>
      have hcons : w.pushAll io (p :: packets) = (w.push io p).1.pushAll io packets := rfl
      rw [hcons] at hcap ⊢
      cases hp : p.nonEmpty with
      | false =>
          rw [push_empty hp] at hcap ⊢
          rw [List.filter_cons, if_neg (by simp [hp])] at hlate hwrap ⊢
          exact ih h hlate hwrap hcap
      | true =>
          rw [List.filter_cons, if_pos hp, List.append_cons] at hlate hwrap ⊢
          have hsplit := (List.pairwise_append.mp (List.pairwise_append.mp hlate).1).2.2
          have hcap' := pushAll_peak_le hio packets (push_peak_le hio h.clusterOpen p).2
          have hinv := push_inv hio h hp (fun q hq => hsplit q hq p (by simp))
            (fun q hq => hwrap q (List.mem_append_left _ hq)) (le_trans hcap' hcap)
          exact ih hinv hlate hwrap hcap

theorem writeTrailer_spec (w : Writer) :
    ∃ w', w.writeTrailer io = (w', true) ∧ w'.clusters = w.clusters ∧ w'.failed = w.failed := by
  unfold writeTrailer
  rw [ioStep_healthy hio]
  exact ⟨_, rfl, rfl, rfl⟩

/-- Nothing behind the last flush touches the blocks. -/
theorem closing_spec (w : Writer) :
    ((w.finalFlush io).closeIo io).clusters = w.clusters ∧
      ((w.finalFlush io).closeIo io).failed = w.failed := by
  unfold finalFlush closeIo
  simp only [ioStep_healthy hio]
  cases hopen : w.ioOpen <;> simp [hopen]

/-- `Finalize` writes the rest of the window and succeeds. -/
theorem finalize_spec {cfg : MatroskaStreamConfig} {pushed : List MuxPacket} {w : Writer}
    (h : WindowInv cfg pushed w) :
    (w.finalize io).2 = true ∧
      (w.finalize io).1.writtenBlocks =
        (pushed.insertionSort Precedes).filterMap (block? (1 + cfg.audioTracks.length)) := by
  obtain ⟨out₀, hsort, hblocks₀, -⟩ := h.drained
  obtain ⟨w₁, out, rest, hd, hl, -, hsame₁, -, hblocks₁, hforce, -⟩ :=
    drainFrom_spec hio true w.window (w := { w with finalized := true }) h.clusterOpen
  obtain ⟨w₂, hf, hsame₂, hblocks₂, -, -⟩ := flushCluster_spec hio w₁
  have hnf : w₂.failed = false := (hsame₂.failed.trans hsame₁.failed).trans h.failed
  have hblocks : w₂.writtenBlocks =
      (pushed.insertionSort Precedes).filterMap (block? (1 + cfg.audioTracks.length)) := by
    have hout : w.window = out := by rw [hl, hforce rfl, List.append_nil]
    rw [hblocks₂, hblocks₁, ← hsort, List.filterMap_append, ← hblocks₀, hout]
    show w.emittedBlocks ++ out.filterMap (block? w.trackEntries) = _
    rw [h.trackEntries]
  have hdrain : drainWindow io true { w with finalized := true } = (w₁, true) := hd
  obtain ⟨w₃, ht, hclusters₃, hfailed₃⟩ := writeTrailer_spec hio w₂
  have hfin : w.finalize io =
      ((w₃.finalFlush io).closeIo io, !((w₃.finalFlush io).closeIo io).failed) := by
    have hok : (!w.failed) = true := by rw [h.failed]; rfl
    unfold finalize
    rw [if_neg (by simp [h.opened, h.finalized])]
    dsimp only
    rw [hok, andThen_true, hdrain, andThen_true, hf, andThen_true, ht]
    simp
  obtain ⟨hclusters, hfailed⟩ := closing_spec hio w₃
  rw [hfin, hfailed, hfailed₃, hnf, ← hblocks, writtenBlocks, hclusters, hclusters₃]
  exact ⟨rfl, rfl⟩

end

/-! ## The whole run -/

/-- The writer after `Open` and the pushes. -/
def session (io : OutputIo) (cfg : MatroskaStreamConfig) (packets : List MuxPacket) : Writer :=
  (openFile io {} cfg).1.pushAll io packets

/-- No packet is more than the window behind one pushed before it, and the window stays within
    its ceiling. -/
structure Admissible (io : OutputIo) (cfg : MatroskaStreamConfig) (packets : List MuxPacket) :
    Prop where
  notLate : (packets.filter nonEmpty).Pairwise (NotLate cfg.reorderWindowNs)
  windowFits : (session io cfg packets).peakWindowPackets ≤ cfg.reorderWindowMaxPackets

/-- The packets of a track, each as its block. -/
theorem map_some_filterMap_block (n : Nat) (l : List MuxPacket) :
    (l.filterMap (block? n)).map some = (l.filter (hasTrack n)).map (block? n) := by
  induction l with
  | nil => rfl
  | cons p l ih =>
      unfold hasTrack at *
      cases hr : resolveTrack n p.trackNum with
      | none => simpa [List.filterMap_cons, List.filter_cons, block?, hr] using ih
      | some t => simpa [List.filterMap_cons, List.filter_cons, block?, hr] using ih

/-- Without I/O failure, and with sums that stay in 64 bits, the finished file holds exactly
    the non-empty packets of valid tracks, each once, in the stable sort of the push order. -/
theorem finalize_writes_stable_sort {io : OutputIo} {cfg : MatroskaStreamConfig}
    {packets : List MuxPacket} (hio : io.Healthy) (hopen : (openFile io {} cfg).2 = true)
    (hadm : Admissible io cfg packets)
    (hwrap : ∀ p ∈ packets.filter nonEmpty, p.ptsNs.toNat + cfg.reorderWindowNs.toNat < 2 ^ 64) :
    ((session io cfg packets).finalize io).2 = true ∧
      ((session io cfg packets).finalize io).1.writtenBlocks.map some =
        (((packets.filter nonEmpty).filter (hasTrack (1 + cfg.audioTracks.length))).insertionSort
          Precedes).map (block? (1 + cfg.audioTracks.length)) := by
  have hinv : WindowInv cfg (packets.filter nonEmpty) (session io cfg packets) :=
    pushAll_inv hio (openFile_inv hio hopen) hadm.notLate hwrap hadm.windowFits
  obtain ⟨hok, hblocks⟩ := finalize_spec hio hinv
  refine ⟨hok, ?_⟩
  rw [hblocks, map_some_filterMap_block, StableInsert.filter_insertionSort]

/-- An output that never fails. -/
def quietIo : OutputIo := ⟨fun _ => none, fun n => n.toUInt64⟩

/-- One audio track, a window of 100 ns for at most four packets. -/
def narrowConfig : MatroskaStreamConfig :=
  { audioTracks := [{}], reorderWindowNs := 100, reorderWindowMaxPackets := 4 }

/-- Late audio, an equal PTS, an empty packet and a packet of no track. -/
def interleavedPackets : List MuxPacket :=
  [⟨40, 1, true, [1]⟩, ⟨10, 2, false, [2]⟩, ⟨40, 2, false, [3]⟩, ⟨7, 2, false, []⟩,
    ⟨150, 1, false, [4]⟩, ⟨90, 9, false, [5]⟩, ⟨90, 2, false, [6]⟩]

theorem finalize_writes_stable_sort_interleaved :
    ((session quietIo narrowConfig interleavedPackets).finalize quietIo).1.writtenBlocks.map some =
      (((interleavedPackets.filter nonEmpty).filter (hasTrack 2)).insertionSort Precedes).map
        (block? 2) :=
  (@finalize_writes_stable_sort _ narrowConfig _ (fun _ => rfl) (by decide)
    ⟨by decide, by decide⟩ (by decide)).2

/-- Two packets in the last nanoseconds of the 64-bit range. -/
def wrappingPackets : List MuxPacket :=
  [⟨18446744073709551615, 1, true, [1]⟩, ⟨18446744073709551614, 1, false, [2]⟩]

/-- The horizon's sum wraps and both packets go at once, in push order. -/
theorem reorderWindow_wraps :
    quietIo.Healthy ∧ (openFile quietIo {} {}).2 = true ∧ Admissible quietIo {} wrappingPackets ∧
      ((session quietIo {} wrappingPackets).finalize quietIo).1.writtenBlocks.map some ≠
        (((wrappingPackets.filter nonEmpty).filter (hasTrack 1)).insertionSort Precedes).map
          (block? 1) :=
  ⟨fun _ => rfl, by decide, ⟨by decide, by decide⟩, by decide⟩

end Writer

end Exosnap.Engine
