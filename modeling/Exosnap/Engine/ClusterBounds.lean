/-
  When the clusters of a finished file are well formed: their timecodes do not decrease, every
  block's timecode relative to its cluster fits 16 bits, and a cluster was opened for one of the
  two reasons the writer has (`ClustersWellFormed`).

  `EmitPacket` takes the distance of a packet to the cluster start twice, once signed and once
  unsigned, and looks only at the far side. A video keyframe before the start wraps the unsigned
  distance and opens a cluster that starts earlier; any other packet before the start is
  appended, however far back it lies. `clusters_wellFormed_iff`: the file is well formed if and
  only if no emitted packet is that late (`OnTime`). Packets in PTS order are on time
  (`onTime_of_sorted`), so only the window's ceiling or a track delayed past the horizon gets
  there.
-/
import Mathlib.Data.List.Chain
import Exosnap.Lib.StepRun
import Exosnap.Engine.AvEpochAlign
import Exosnap.Engine.ClusterLayout

namespace Exosnap.Engine

open MuxPacket

/-- A block's timecode relative to a cluster, in milliseconds. -/
def SimpleBlock.relativeMs (c : Cluster) (b : SimpleBlock) : Int :=
  ((b.ptsNs / kTimecodeScaleNs).toNat : Int) - c.startMs.toNat

def SimpleBlock.videoKey (b : SimpleBlock) : Bool := b.isKey && b.trackEntry == 0

/-- The relative timecode has 16 signed bits. -/
def SimpleBlock.Fits (c : Cluster) (b : SimpleBlock) : Prop :=
  -2 ^ 15 ≤ b.relativeMs c ∧ b.relativeMs c < 2 ^ 15

instance (c : Cluster) (b : SimpleBlock) : Decidable (b.Fits c) :=
  inferInstanceAs (Decidable (_ ∧ _))

/-- `d` was opened behind `c` for a reason: its first block is too far behind the start of `c`
    to be addressed from there, or a video keyframe behind the boundary. -/
def Cluster.OpensAfter (c d : Cluster) : Prop :=
  ∃ b ∈ d.blocks.head?, kMaxClusterRelativeMs.toInt < b.relativeMs c ∨
    (b.videoKey = true ∧ (kClusterBoundaryMs.toNat : Int) ≤ b.relativeMs c)

structure ClustersWellFormed (cs : List Cluster) : Prop where
  ordered : (cs.map Cluster.startMs).Pairwise (· ≤ ·)
  fits : ∀ c ∈ cs, ∀ b ∈ c.blocks, b.Fits c
  opened : cs.IsChain Cluster.OpensAfter

namespace Writer

/-- The start of the open cluster behind a packet. -/
def nextStart (start : Option UInt64) (e : MuxPacket) : Option UInt64 :=
  if opensCluster start e then some e.ptsMs else start

/-- The packet is not before the start of the open cluster, or it is no video keyframe and at
    most `2^15` ms before it. -/
def OnTime (start : Option UInt64) (e : MuxPacket) : Prop :=
  ∀ s ∈ start, s ≤ e.ptsMs ∨ (e.videoKey = false ∧ s.toNat ≤ e.ptsMs.toNat + 2 ^ 15)

instance decOnTime (start : Option UInt64) (e : MuxPacket) : Decidable (OnTime start e) :=
  inferInstanceAs (Decidable (∀ s ∈ start, _ ∨ _))

/-- Every packet is on time in the state left by those before it. -/
def AllOnTime (es : List MuxPacket) : Prop :=
  StepRun.Meets (fun s e => some (nextStart s e)) OnTime none es

instance decAllOnTime (es : List MuxPacket) : Decidable (AllOnTime es) :=
  @StepRun.decMeets _ _ _ _ decOnTime none es

/-! ## Distances to a cluster start -/

theorem ptsMs_lt (e : MuxPacket) : e.ptsMs.toNat < 2 ^ 63 := by
  have hlt := e.ptsNs.toNat_lt
  have hdiv : e.ptsMs.toNat = e.ptsNs.toNat / 1000000 := UInt64.toNat_div _ _
  omega

theorem ms_behind_iff {s ms : UInt64} (hs : s.toNat < 2 ^ 63) (hms : ms.toNat < 2 ^ 63) :
    kMaxClusterRelativeMs < ms.toInt64 - s.toInt64 ↔ (s.toNat : Int) + 32767 < ms.toNat := by
  rw [Int64.lt_iff_toInt_lt, Int64.toInt_sub, toInt_toInt64 hs, toInt_toInt64 hms,
    Int.bmod_eq_of_le (by omega) (by omega)]
  show (32767 : Int) < _ ↔ _
  omega

/-- Unsigned, everything before the start is far behind it. -/
theorem boundary_le_iff {s ms : UInt64} (hs : s.toNat < 2 ^ 63) (hms : ms.toNat < 2 ^ 63) :
    kClusterBoundaryMs ≤ ms - s ↔ s.toNat + 2000 ≤ ms.toNat ∨ ms.toNat < s.toNat := by
  rw [UInt64.le_iff_toNat_le, UInt64.toNat_sub]
  show 2000 ≤ _ ↔ _
  omega

theorem opensCluster_some {s : UInt64} (hs : s.toNat < 2 ^ 63) (e : MuxPacket) :
    opensCluster (some s) e = true ↔ s.toNat + 32767 < e.ptsMs.toNat ∨
      (e.videoKey = true ∧ (s.toNat + 2000 ≤ e.ptsMs.toNat ∨ e.ptsMs.toNat < s.toNat)) := by
  unfold opensCluster
  rw [Bool.or_eq_true, Bool.and_eq_true, decide_eq_true_iff, decide_eq_true_iff,
    ms_behind_iff hs (ptsMs_lt e), boundary_le_iff hs (ptsMs_lt e)]
  exact or_congr (by omega) Iff.rfl

theorem onTime_some {s : UInt64} {e : MuxPacket} :
    OnTime (some s) e ↔
      s.toNat ≤ e.ptsMs.toNat ∨ (e.videoKey = false ∧ s.toNat ≤ e.ptsMs.toNat + 2 ^ 15) := by
  simp [OnTime, UInt64.le_iff_toNat_le]

/-! ## Adding one packet -/

/-- What two neighbours in the file have to do with each other. -/
def Follows (c d : Cluster) : Prop := c.startMs ≤ d.startMs ∧ c.OpensAfter d

theorem wellFormed_iff_chain {cs : List Cluster} :
    ClustersWellFormed cs ↔ cs.IsChain Follows ∧ ∀ c ∈ cs, ∀ b ∈ c.blocks, b.Fits c := by
  have htrans : IsTrans UInt64 (· ≤ ·) := ⟨fun _ _ _ => UInt64.le_trans⟩
  constructor
  · intro h
    have hordered := (List.isChain_map _).mp h.ordered.isChain
    refine ⟨?_, h.fits⟩
    exact List.isChain_iff_getElem.mpr fun i hi =>
      ⟨List.isChain_iff_getElem.mp hordered i hi, List.isChain_iff_getElem.mp h.opened i hi⟩
  · rintro ⟨hchain, hfits⟩
    refine ⟨?_, hfits, hchain.imp fun _ _ h => h.2⟩
    exact List.isChain_iff_pairwise.mp ((List.isChain_map _).mpr (hchain.imp fun _ _ h => h.1))

theorem wellFormed_concat {cs : List Cluster} {d : Cluster} :
    ClustersWellFormed (cs ++ [d]) ↔
      ClustersWellFormed cs ∧ (∀ c ∈ cs.getLast?, Follows c d) ∧ ∀ b ∈ d.blocks, b.Fits d := by
  simp only [wellFormed_iff_chain, List.isChain_append, List.isChain_singleton, List.head?_cons,
    Option.mem_some_iff, forall_eq', List.forall_mem_append, List.forall_mem_singleton, true_and]
  tauto

/-- A block that joins the last cluster only has to fit. -/
theorem wellFormed_addBlock {cs : List Cluster} {d : Cluster} {b : SimpleBlock}
    (hne : d.blocks ≠ []) :
    ClustersWellFormed (cs ++ [{ d with blocks := d.blocks ++ [b] }]) ↔
      ClustersWellFormed (cs ++ [d]) ∧ b.Fits d := by
  have hfollows : ∀ c, Follows c { d with blocks := d.blocks ++ [b] } ↔ Follows c d := by
    intro c
    unfold Follows Cluster.OpensAfter
    rw [List.head?_append_of_ne_nil _ hne]
  simp only [wellFormed_concat, hfollows, List.forall_mem_append, List.forall_mem_singleton]
  have hfits : ∀ x : SimpleBlock, x.Fits { d with blocks := d.blocks ++ [b] } ↔ x.Fits d :=
    fun x => Iff.rfl
  simp only [hfits]
  tauto

section
variable {n : Nat} {g : Grouping} {e : MuxPacket} {b : SimpleBlock}

theorem block_ms (hb : e.block? n = some b) : b.ptsNs = e.ptsNs := by
  obtain ⟨t, -, rfl⟩ := Option.map_eq_some_iff.mp hb
  rfl

/-- Track number 1 is the first entry. -/
theorem block_videoKey (hb : e.block? n = some b) (hk : e.videoKey = true) :
    b.videoKey = true := by
  obtain ⟨t, ht, rfl⟩ := Option.map_eq_some_iff.mp hb
  obtain ⟨hkey, hnum⟩ := Bool.and_eq_true_iff.mp hk
  have hnum' : e.trackNum = 1 := by simpa using hnum
  rw [hnum'] at ht
  cases ht
  simp [SimpleBlock.videoKey, hkey]

theorem fits_iff {c : Cluster} (hb : e.block? n = some b) :
    b.Fits c ↔ c.startMs.toNat ≤ e.ptsMs.toNat + 2 ^ 15 ∧
      e.ptsMs.toNat < c.startMs.toNat + 2 ^ 15 := by
  have hms : b.ptsNs / kTimecodeScaleNs = e.ptsMs := by
    rw [block_ms hb]
    rfl
  unfold SimpleBlock.Fits SimpleBlock.relativeMs
  rw [hms]
  omega

/-- A cluster opened for a packet follows the one before it unless the packet is late. -/
theorem follows_opened {c : Cluster} (hc : c.startMs.toNat < 2 ^ 63) (hb : e.block? n = some b)
    (hopens : opensCluster (some c.startMs) e = true) :
    Follows c ⟨e.ptsMs, [b]⟩ ↔ OnTime (some c.startMs) e := by
  rw [onTime_some]
  unfold Follows
  rw [UInt64.le_iff_toNat_le]
  constructor
  · exact fun h => .inl h.1
  · intro htime
    have hle : c.startMs.toNat ≤ e.ptsMs.toNat := by
      rcases (opensCluster_some hc e).mp hopens with hfar | ⟨hk, hfar⟩
      · omega
      · rcases htime with hle | ⟨hnk, -⟩
        · exact hle
        · rw [hk] at hnk
          cases hnk
    refine ⟨hle, b, rfl, ?_⟩
    unfold SimpleBlock.relativeMs
    rw [block_ms hb]
    change (32767 : Int) < (e.ptsMs.toNat : Int) - _ ∨
      b.videoKey = true ∧ (2000 : Int) ≤ (e.ptsMs.toNat : Int) - _
    rcases (opensCluster_some hc e).mp hopens with hfar | ⟨hk, hfar⟩
    · exact .inl (by omega)
    · exact .inr ⟨block_videoKey hb hk, by omega⟩

/-- A packet that joins the open cluster is on time when its block fits. -/
theorem fits_joined {c : Cluster} (hc : c.startMs.toNat < 2 ^ 63) (hb : e.block? n = some b)
    (hjoins : opensCluster (some c.startMs) e = false) :
    b.Fits c ↔ OnTime (some c.startMs) e := by
  have hno := fun h => Bool.false_ne_true (hjoins.symm.trans ((opensCluster_some hc e).mpr h))
  have hnear : ¬ c.startMs.toNat + 32767 < e.ptsMs.toNat := fun h => hno (.inl h)
  rw [onTime_some, fits_iff hb]
  cases hk : e.videoKey with
  | true =>
      have hnear' : ¬ (c.startMs.toNat + 2000 ≤ e.ptsMs.toNat ∨
          e.ptsMs.toNat < c.startMs.toNat) := fun h => hno (.inr ⟨hk, h⟩)
      constructor
      · exact fun _ => .inl (by omega)
      · exact fun _ => ⟨by omega, by omega⟩
  | false =>
      constructor
      · exact fun h => .inr ⟨rfl, h.1⟩
      · rintro (h | ⟨-, h⟩)
        · exact ⟨by omega, by omega⟩
        · exact ⟨h, by omega⟩

/-- One emission keeps the clusters well formed exactly when the packet is on time. -/
theorem wellFormed_add (hg : g.current = [] → g.closed = [])
    (htracks : ∀ a ∈ g.current, hasTrack n a = true) (hb : e.block? n = some b) :
    ClustersWellFormed ((g.add e).groups.map (clusterOf n)) ↔
      ClustersWellFormed (g.groups.map (clusterOf n)) ∧ OnTime g.start e := by
  have hopened : clusterOf n [e] = ⟨e.ptsMs, [b]⟩ := by simp [clusterOf, hb]
  have hself : b.Fits ⟨e.ptsMs, [b]⟩ := by
    rw [fits_iff hb]
    show e.ptsMs.toNat ≤ _ ∧ _ < e.ptsMs.toNat + _
    omega
  by_cases hcur : g.current = []
  · have hstart : g.start = none := Grouping.start_eq_none.mpr hcur
    rw [Grouping.groups_add_opens (by rw [hstart]; rfl), Grouping.groups_nil hcur, hg hcur, hstart]
    rw [List.map_append, List.map_singleton, wellFormed_concat, hopened]
    simp [hself, OnTime]
  · have hstart : g.start = some (clusterOf n g.current).startMs := by
      obtain ⟨a, l, hl⟩ := List.exists_cons_of_ne_nil hcur
      simp [Grouping.start, clusterOf, hl]
    have hlt : (clusterOf n g.current).startMs.toNat < 2 ^ 63 := by
      obtain ⟨a, l, hl⟩ := List.exists_cons_of_ne_nil hcur
      simpa [clusterOf, hl] using ptsMs_lt a
    cases hopens : opensCluster g.start e with
    | true =>
        rw [Grouping.groups_add_opens hopens, Grouping.groups_of_current hcur]
        rw [hstart] at hopens ⊢
        rw [List.map_append, List.map_singleton, wellFormed_concat, hopened,
          ← follows_opened hlt hb hopens]
        simp [hself]
    | false =>
        have hblocks : (clusterOf n g.current).blocks ≠ [] := by
          obtain ⟨a, l, hl⟩ := List.exists_cons_of_ne_nil hcur
          obtain ⟨t, ht⟩ := Option.isSome_iff_exists.mp (htracks a (by simp [hl]))
          simp [clusterOf, hl, block?, ht]
        rw [Grouping.groups_add_joins hopens, Grouping.groups_of_current hcur]
        rw [hstart] at hopens ⊢
        rw [List.map_append, List.map_singleton, clusterOf_concat hcur hb,
          wellFormed_addBlock hblocks, ← fits_joined hlt hb hopens]
        simp

theorem start_add (g : Grouping) (e : MuxPacket) : (g.add e).start = nextStart g.start e := by
  unfold Grouping.add nextStart
  split
  · rfl
  · next h =>
      obtain ⟨a, l, hl⟩ :=
        List.exists_cons_of_ne_nil (Grouping.current_of_not_opens (by simpa using h))
      simp [Grouping.start, hl]

end

theorem start_ofPackets (es : List MuxPacket) :
    (Grouping.ofPackets es).start = es.foldl nextStart none := by
  have hrun : ∀ (l : List MuxPacket) (g : Grouping),
      (l.foldl Grouping.add g).start = l.foldl nextStart g.start := by
    intro l
    induction l with
    | nil => exact fun g => rfl
    | cons e l ih => exact fun g => (ih _).trans (by rw [start_add]; rfl)
  exact hrun es {}

/-- There are clusters in the file only behind an open one. -/
theorem closed_ofPackets (es : List MuxPacket) (h : (Grouping.ofPackets es).current = []) :
    (Grouping.ofPackets es).closed = [] := by
  induction es using List.reverseRecOn with
  | nil => rfl
  | append_singleton es e =>
      rw [Grouping.ofPackets_concat, Grouping.add] at h
      split at h <;> simp at h

theorem mem_of_mem_current {es : List MuxPacket} {a : MuxPacket}
    (ha : a ∈ (Grouping.ofPackets es).current) : a ∈ es := by
  rw [← Grouping.flatten_ofPackets es, Grouping.groups_of_current (List.ne_nil_of_mem ha)]
  simp [ha]

/-- Over packets of a track, the clusters are well formed exactly when all are on time. -/
theorem wellFormed_ofPackets {n : Nat} {es : List MuxPacket}
    (htracks : ∀ e ∈ es, hasTrack n e = true) :
    ClustersWellFormed ((Grouping.ofPackets es).groups.map (clusterOf n)) ↔ AllOnTime es := by
  induction es using List.reverseRecOn with
  | nil => simp [Grouping.ofPackets, Grouping.groups, wellFormed_iff_chain, AllOnTime, StepRun.Meets]
  | append_singleton es e ih =>
      obtain ⟨t, ht⟩ := Option.isSome_iff_exists.mp (htracks e (by simp))
      have hb : e.block? n = some ⟨t, e.ptsNs, e.isKey, e.bytes⟩ := by
        rw [block?, ht]
        rfl
      have hcurrent : ∀ a ∈ (Grouping.ofPackets es).current, hasTrack n a = true :=
        fun a ha => htracks a (List.mem_append_left _ (mem_of_mem_current ha))
      rw [Grouping.ofPackets_concat, wellFormed_add (closed_ofPackets es) hcurrent hb,
        start_ofPackets,
        ih fun a ha => htracks a (List.mem_append_left _ ha), AllOnTime, AllOnTime,
        StepRun.meets_concat]

/-! ## The finished file -/

theorem trackOrder_hasTrack {cfg : MatroskaStreamConfig} {packets : List MuxPacket}
    {e : MuxPacket} (he : e ∈ trackOrder cfg packets) :
    hasTrack (1 + cfg.audioTracks.length) e = true :=
  (List.mem_filter.mp he).2

/-- A finished file is well formed if and only if no packet of a track left the reorder window
    too late for the cluster that was open then. -/
theorem clusters_wellFormed_iff {io : OutputIo} {cfg : MatroskaStreamConfig}
    {packets : List MuxPacket} (hok : ((session io cfg packets).finalize io).2 = true) :
    ClustersWellFormed ((session io cfg packets).finalize io).1.clusters ↔
      AllOnTime (trackOrder cfg packets) := by
  rw [(finalize_renders hok).1]
  exact wellFormed_ofPackets fun e => trackOrder_hasTrack

theorem ptsMs_mono {a e : MuxPacket} (h : Precedes a e) : a.ptsMs ≤ e.ptsMs := by
  have hle : a.ptsNs.toNat ≤ e.ptsNs.toNat := UInt64.le_iff_toNat_le.mp h
  have hdiv : ∀ p : MuxPacket, p.ptsMs.toNat = p.ptsNs.toNat / 1000000 :=
    fun p => UInt64.toNat_div _ _
  rw [UInt64.le_iff_toNat_le, hdiv, hdiv]
  exact Nat.div_le_div_right hle

/-- The open cluster starts at one of the packets. -/
theorem start_mem (es : List MuxPacket) :
    ∀ s ∈ es.foldl nextStart none, ∃ a ∈ es, s = a.ptsMs := by
  induction es using List.reverseRecOn with
  | nil => exact nofun
  | append_singleton es e ih =>
      intro s hs
      rw [List.foldl_append, List.foldl_cons, List.foldl_nil, nextStart] at hs
      split at hs
      · exact ⟨e, by simp, (Option.mem_some_iff.mp hs).symm⟩
      · obtain ⟨a, ha, hsa⟩ := ih s hs
        exact ⟨a, List.mem_append_left _ ha, hsa⟩

/-- Packets in PTS order are on time. -/
theorem onTime_of_sorted {es : List MuxPacket} (h : es.Pairwise Precedes) : AllOnTime es := by
  induction es using List.reverseRecOn with
  | nil => exact trivial
  | append_singleton es e ih =>
      obtain ⟨hes, -, hlast⟩ := List.pairwise_append.mp h
      refine (StepRun.meets_concat nextStart OnTime e es none).mpr ⟨ih hes, fun s hs => .inl ?_⟩
      obtain ⟨a, ha, rfl⟩ := start_mem es s hs
      exact ptsMs_mono (hlast a ha e (by simp))

theorem writtenBlocks_trackOrder {io : OutputIo} {cfg : MatroskaStreamConfig}
    {packets : List MuxPacket} (hok : ((session io cfg packets).finalize io).2 = true) :
    ((session io cfg packets).finalize io).1.writtenBlocks =
      (trackOrder cfg packets).filterMap (block? (1 + cfg.audioTracks.length)) := by
  rw [writtenBlocks, (finalize_renders hok).1, List.flatMap_map]
  conv_rhs => rw [← Grouping.flatten_ofPackets (trackOrder cfg packets), List.filterMap_flatten]
  rfl

theorem block_of_mem {cfg : MatroskaStreamConfig} {packets : List MuxPacket} {e : MuxPacket}
    (he : e ∈ trackOrder cfg packets) :
    ∃ b, e.block? (1 + cfg.audioTracks.length) = some b := by
  obtain ⟨t, ht⟩ := Option.isSome_iff_exists.mp (trackOrder_hasTrack he)
  exact ⟨_, by rw [block?, ht]; rfl⟩

/-- Where the window sorts, the file is well formed. -/
theorem clusters_wellFormed_of_admissible {io : OutputIo} {cfg : MatroskaStreamConfig}
    {packets : List MuxPacket} (hio : io.Healthy) (hopen : (openFile io {} cfg).2 = true)
    (hadm : Admissible io cfg packets)
    (hwrap : ∀ p ∈ packets.filter nonEmpty, p.ptsNs.toNat + cfg.reorderWindowNs.toNat < 2 ^ 64) :
    ClustersWellFormed ((session io cfg packets).finalize io).1.clusters := by
  have hinv : WindowInv cfg (packets.filter nonEmpty) (session io cfg packets) :=
    pushAll_inv hio (openFile_inv hio hopen) hadm.notLate hwrap hadm.windowFits
  obtain ⟨hok, hblocks⟩ := finalize_spec hio hinv
  have horder : (trackOrder cfg packets).filterMap (block? (1 + cfg.audioTracks.length)) =
      ((packets.filter nonEmpty).insertionSort Precedes).filterMap
        (block? (1 + cfg.audioTracks.length)) :=
    (writtenBlocks_trackOrder hok).symm.trans hblocks
  have hsorted : ((trackOrder cfg packets).filterMap
      (block? (1 + cfg.audioTracks.length))).Pairwise (fun b b' => b.ptsNs ≤ b'.ptsNs) := by
    rw [horder]
    refine (List.pairwise_insertionSort Precedes _).filterMap _ fun p q hpq b hb b' hb' => ?_
    rw [block_ms hb, block_ms hb']
    exact hpq
  rw [(finalize_renders hok).1, wellFormed_ofPackets fun e => trackOrder_hasTrack]
  refine onTime_of_sorted ((List.pairwise_filterMap.mp hsorted).imp_of_mem ?_)
  intro p q hp hq hpq
  obtain ⟨b, hb⟩ := block_of_mem hp
  obtain ⟨b', hb'⟩ := block_of_mem hq
  have hle := hpq b hb b' hb'
  rw [block_ms hb, block_ms hb'] at hle
  exact hle

theorem clusters_wellFormed_iff_keyed :
    ((session quietIo narrowConfig keyedPackets).finalize quietIo).2 = true ∧
      (ClustersWellFormed ((session quietIo narrowConfig keyedPackets).finalize quietIo).1.clusters ↔
        AllOnTime (trackOrder narrowConfig keyedPackets)) :=
  ⟨by decide, @clusters_wellFormed_iff quietIo narrowConfig keyedPackets (by decide)⟩

/-- A video keyframe four seconds behind the cluster that is open when it arrives. -/
def delayedPackets : List MuxPacket :=
  [⟨5000000000, 1, true, [1]⟩, ⟨9000000000, 2, false, [2]⟩, ⟨1000000000, 1, true, [3]⟩]

/-- Without a failure, the second cluster of the file starts before the first. -/
theorem delayed_keyframe_reverses_clusters :
    quietIo.Healthy ∧ ((session quietIo { audioTracks := [{}] } delayedPackets).finalize quietIo).2 =
      true ∧ ¬ ClustersWellFormed
        ((session quietIo { audioTracks := [{}] } delayedPackets).finalize quietIo).1.clusters := by
  refine ⟨fun _ => rfl, by decide, fun h => ?_⟩
  have hordered := h.ordered
  revert hordered
  decide

end Writer

end Exosnap.Engine
