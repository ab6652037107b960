/-
  Which packets share a cluster, and the cues that point at it.

  `Grouping` is the layout of the emitted packets without the writer: the packets of the
  clusters in the file, and those of the open one. The writer renders it at every moment
  (`Renders`, `emitPacket_renders`): each cluster has its group's blocks, the pending cue times
  are those of the open group, and the cues of a group carry the position of the cluster it was
  rendered as. Pending cues are attached at the flush of the cluster they were queued under,
  because a new cluster is opened, and with it the pending list emptied, before the packet that
  opens it is queued.
-/
import Exosnap.Engine.EmissionOrder

namespace Exosnap.Engine

open MuxPacket

namespace Writer

/-- Whether a packet opens a cluster, given the start of the open one. -/
def opensCluster (start : Option UInt64) (e : MuxPacket) : Bool :=
  match start with
  | none => true
  | some startMs =>
      decide (kMaxClusterRelativeMs < e.ptsMs.toInt64 - startMs.toInt64) ||
        (e.videoKey && decide (kClusterBoundaryMs ≤ e.ptsMs - startMs))

/-- The emitted packets by cluster. The last group is the open cluster's. -/
structure Grouping where
  closed : List (List MuxPacket) := []
  current : List MuxPacket := []

namespace Grouping

/-- The timecode of the open cluster is that of its first packet. -/
def start (g : Grouping) : Option UInt64 := g.current.head?.map ptsMs

def groups (g : Grouping) : List (List MuxPacket) :=
  if g.current = [] then g.closed else g.closed ++ [g.current]

def add (g : Grouping) (e : MuxPacket) : Grouping :=
  if opensCluster g.start e then ⟨g.groups, [e]⟩ else { g with current := g.current ++ [e] }

/-- The grouping of the packets in emission order. -/
def ofPackets (es : List MuxPacket) : Grouping := es.foldl add {}

theorem ofPackets_concat (es : List MuxPacket) (e : MuxPacket) :
    ofPackets (es ++ [e]) = (ofPackets es).add e := by
  rw [ofPackets, ofPackets, List.foldl_append]
  rfl

theorem groups_nil {g : Grouping} (h : g.current = []) : g.groups = g.closed := by
  rw [groups, if_pos h]

theorem groups_of_current {g : Grouping} (h : g.current ≠ []) :
    g.groups = g.closed ++ [g.current] := by
  rw [groups, if_neg h]

theorem start_eq_none {g : Grouping} : g.start = none ↔ g.current = [] := by
  rw [start, Option.map_eq_none_iff, List.head?_eq_none_iff]

/-- A packet joins the open cluster only when there is one. -/
theorem current_of_not_opens {g : Grouping} {e : MuxPacket}
    (h : opensCluster g.start e = false) : g.current ≠ [] := by
  intro hnil
  rw [start_eq_none.mpr hnil] at h
  cases h

theorem groups_add_opens {g : Grouping} {e : MuxPacket} (h : opensCluster g.start e = true) :
    (g.add e).groups = g.groups ++ [[e]] := by
  rw [add, if_pos h, groups_of_current (List.cons_ne_nil e [])]

theorem groups_add_joins {g : Grouping} {e : MuxPacket} (h : opensCluster g.start e = false) :
    (g.add e).groups = g.closed ++ [g.current ++ [e]] := by
  rw [add, if_neg (by simp [h]), groups_of_current (by simp)]

theorem flatten_add (g : Grouping) (e : MuxPacket) :
    (g.add e).groups.flatten = g.groups.flatten ++ [e] := by
  cases h : opensCluster g.start e with
  | true => simp [groups_add_opens h]
  | false => simp [groups_add_joins h, groups_of_current (current_of_not_opens h)]

/-- Grouping drops no packet and keeps the order. -/
theorem flatten_ofPackets (es : List MuxPacket) : (ofPackets es).groups.flatten = es := by
  have hrun : ∀ (l : List MuxPacket) (g : Grouping),
      (l.foldl add g).groups.flatten = g.groups.flatten ++ l := by
    intro l
    induction l with
    | nil => intro g; simp
    | cons e l ih =>
        intro g
        rw [List.foldl_cons, ih, flatten_add]
        simp
  exact (hrun es {}).trans (List.nil_append es)

end Grouping

/-- The cluster a group is rendered as, over `n` track entries. -/
def clusterOf (n : Nat) (group : List MuxPacket) : Cluster :=
  ⟨(group.head?.map ptsMs).getD 0, group.filterMap (block? n)⟩

/-- One cue for each video keyframe of the group, at the position of its cluster. -/
def cuesOf (position : UInt64) (group : List MuxPacket) : List CuePoint :=
  (group.filter videoKey).map fun e => ⟨e.ptsMs, position⟩

/-- The cues of all groups, the k-th rendered at the k-th position. -/
def cueIndex (io : OutputIo) (groups : List (List MuxPacket)) : List CuePoint :=
  groups.zipIdx.flatMap fun g => cuesOf (io.clusterPosition g.2) g.1

theorem cueIndex_concat (io : OutputIo) (groups : List (List MuxPacket)) (g : List MuxPacket) :
    cueIndex io (groups ++ [g]) =
      cueIndex io groups ++ cuesOf (io.clusterPosition groups.length) g := by
  simp [cueIndex, List.zipIdx_append]

/-- The writer shows the grouping. -/
structure Renders (io : OutputIo) (n : Nat) (g : Grouping) (w : Writer) : Prop where
  trackEntries : w.trackEntries = n
  clusters : w.clusters = g.closed.map (clusterOf n)
  cluster : w.cluster = if g.current = [] then none else some (clusterOf n g.current)
  firstCluster : w.firstCluster = decide (g.current = [])
  clusterStartMs : ∀ s ∈ g.start, w.clusterStartMs = s
  pendingCueMs : w.pendingCueMs = (g.current.filter videoKey).map ptsMs
  flushCount : w.flushCount = g.closed.length
  cues : w.cues = cueIndex io g.closed

section
variable {io : OutputIo} {n : Nat} {g : Grouping} {w w' : Writer} {e : MuxPacket}

theorem Renders.frame (h : Renders io n g w) (hs : SameLayout w w') : Renders io n g w' where
  trackEntries := hs.trackEntries.trans h.trackEntries
  clusters := hs.clusters.trans h.clusters
  cluster := hs.cluster.trans h.cluster
  firstCluster := hs.firstCluster.trans h.firstCluster
  clusterStartMs := fun s hmem => hs.clusterStartMs.trans (h.clusterStartMs s hmem)
  pendingCueMs := hs.pendingCueMs.trans h.pendingCueMs
  flushCount := hs.flushCount.trans h.flushCount
  cues := hs.cues.trans h.cues

/-- The test of the source reads the start of the open cluster. -/
theorem Renders.needNewCluster (h : Renders io n g w) (e : MuxPacket) :
    w.needNewCluster e (e.ptsNs / kTimecodeScaleNs) = opensCluster g.start e := by
  unfold Writer.needNewCluster opensCluster
  rw [h.firstCluster, h.cluster]
  cases hs : g.start with
  | none => simp [Grouping.start_eq_none.mp hs]
  | some s =>
      have hcur : g.current ≠ [] := fun hnil => by
        rw [Grouping.start_eq_none.mpr hnil] at hs
        cases hs
      rw [h.clusterStartMs s hs]
      simp only [hcur, if_false, decide_false, Bool.false_or, Option.isSome_some, Bool.true_and]
      rfl

/-- After a flush the file holds all groups, each cluster's cues with it. -/
theorem Renders.flush (h : Renders io n g w) (hf : w.flushCluster io = (w', true)) :
    w'.trackEntries = n ∧ w'.clusters = g.groups.map (clusterOf n) ∧
      w'.flushCount = g.groups.length ∧ w'.cues = cueIndex io g.groups ∧ w'.pendingCueMs = [] := by
  have hcluster := h.cluster
  obtain ⟨hnone, rfl⟩ | ⟨c, k, hsome, rfl⟩ := flushCluster_true hf
  · have hcur : g.current = [] := by
      by_contra hne
      rw [hnone, if_neg hne] at hcluster
      cases hcluster
    rw [Grouping.groups_nil hcur]
    refine ⟨h.trackEntries, h.clusters, h.flushCount, h.cues, ?_⟩
    rw [h.pendingCueMs, hcur]
    rfl
  · have hcur : g.current ≠ [] := fun hnil => by
      rw [hsome, if_pos hnil] at hcluster
      cases hcluster
    obtain rfl : c = clusterOf n g.current := by
      rw [hsome, if_neg hcur] at hcluster
      exact Option.some.inj hcluster
    rw [Grouping.groups_of_current hcur, cueIndex_concat]
    refine ⟨h.trackEntries, ?_, ?_, ?_, rfl⟩
    · simp [h.clusters]
    · simp [h.flushCount]
    · simp [h.cues, h.pendingCueMs, h.flushCount, cuesOf, Function.comp_def]

theorem addBlock_pendingCueMs (w : Writer) (e : MuxPacket) (t : Nat) :
    (w.addBlock e t (e.ptsNs / kTimecodeScaleNs)).pendingCueMs =
      if e.videoKey then w.pendingCueMs ++ [e.ptsMs] else w.pendingCueMs := rfl

theorem clusterOf_concat {group : List MuxPacket} {b : SimpleBlock} (hne : group ≠ [])
    (hb : e.block? n = some b) :
    clusterOf n (group ++ [e]) =
      { clusterOf n group with blocks := (clusterOf n group).blocks ++ [b] } := by
  obtain ⟨a, l, rfl⟩ := List.exists_cons_of_ne_nil hne
  unfold clusterOf
  rw [List.filterMap_append, List.filterMap_cons_some hb, List.filterMap_nil]
  rfl

/-- An emitted packet of some track joins the grouping. -/
theorem Renders.emit (h : Renders io n g w) (ht : hasTrack n e = true)
    (he : w.emitPacket io e = (w', true)) : Renders io n (g.add e) w' := by
  obtain ⟨t, hr⟩ := Option.isSome_iff_exists.mp ht
  have hblock : e.block? n = some ⟨t, e.ptsNs, e.isKey, e.bytes⟩ := by
    rw [block?, hr]
    rfl
  unfold emitPacket at he
  rw [h.trackEntries, hr] at he
  dsimp only at he
  rw [h.needNewCluster e] at he
  unfold Grouping.add
  split at he
  · next hopens =>
      rw [if_pos hopens]
      split at he
      · cases he
      · next w₁ hf =>
          obtain ⟨htrack, hclusters, hcount, hcues, hpending⟩ := h.flush hf
          cases he
          exact {
            trackEntries := htrack
            clusters := hclusters
            cluster := by simp [addBlock, clusterOf, hblock, ptsMs]
            firstCluster := by simp [addBlock]
            clusterStartMs := by simp [addBlock, Grouping.start, ptsMs]
            pendingCueMs := by
              rw [addBlock_pendingCueMs]
              cases hk : e.videoKey <;> simp [hk, hpending]
            flushCount := hcount
            cues := hcues }
  · next hjoins =>
      rw [if_neg hjoins]
      have hcur := Grouping.current_of_not_opens (by simpa using hjoins)
      cases he
      exact {
        trackEntries := h.trackEntries
        clusters := h.clusters
        cluster := by
          rw [if_neg (by simp), clusterOf_concat hcur hblock]
          simp [addBlock, h.cluster, hcur]
        firstCluster := by simpa [addBlock, hcur] using h.firstCluster
        clusterStartMs := fun s hs => by
          refine h.clusterStartMs s ?_
          obtain ⟨a, l, hl⟩ := List.exists_cons_of_ne_nil hcur
          simpa [Grouping.start, hl] using hs
        pendingCueMs := by
          rw [addBlock_pendingCueMs, h.pendingCueMs]
          cases hk : e.videoKey <;> simp [hk]
        flushCount := h.flushCount
        cues := h.cues }

/-- A packet of no track leaves the writer as it was. -/
theorem emitPacket_skipped (ht : hasTrack w.trackEntries e = false)
    (he : w.emitPacket io e = (w', true)) : w' = w := by
  unfold emitPacket at he
  have hnone : resolveTrack w.trackEntries e.trackNum = none := by
    simpa [hasTrack] using ht
  rw [hnone] at he
  cases he
  rfl

end

/-- The writer renders the grouping of what was emitted so far. -/
theorem renders_rule (io : OutputIo) (n : Nat) :
    EmitRule io fun w es => Renders io n (.ofPackets (es.filter (hasTrack n))) w where
  frame := fun hs h => h.frame hs
  emit := fun {w w' es e} h he => by
    rw [List.filter_append]
    cases ht : hasTrack n e with
    | true =>
        rw [List.filter_cons_of_pos ht, List.filter_nil, Grouping.ofPackets_concat]
        exact h.emit ht he
    | false =>
        rw [List.filter_cons_of_neg (by simp [ht]), List.filter_nil, List.append_nil,
          emitPacket_skipped (by rw [h.trackEntries]; exact ht) he]
        exact h

/-- The packets of a track, in emission order. -/
def trackOrder (cfg : MatroskaStreamConfig) (packets : List MuxPacket) : List MuxPacket :=
  (emissionOrder cfg packets).filter (hasTrack (1 + cfg.audioTracks.length))

/-- The finished file shows the grouping of the emission order. -/
theorem finalize_renders {io : OutputIo} {cfg : MatroskaStreamConfig} {packets : List MuxPacket}
    (hok : ((session io cfg packets).finalize io).2 = true) :
    ((session io cfg packets).finalize io).1.clusters =
        (Grouping.ofPackets (trackOrder cfg packets)).groups.map
          (clusterOf (1 + cfg.audioTracks.length)) ∧
      ((session io cfg packets).finalize io).1.trailer.map Trailer.cues =
        some (cueIndex io (Grouping.ofPackets (trackOrder cfg packets)).groups) := by
  have hstart : ∀ w, openFile io {} cfg = (w, true) →
      Renders io (1 + cfg.audioTracks.length)
        (.ofPackets ([].filter (hasTrack (1 + cfg.audioTracks.length)))) w := by
    intro w hw
    rcases openFile_cases io cfg with ⟨hfalse, -⟩ | ⟨k, heq⟩
    · rw [hw] at hfalse
      cases hfalse
    · obtain rfl := (Prod.mk.inj (hw.symm.trans heq)).1
      exact ⟨rfl, rfl, rfl, rfl, nofun, rfl, rfl, rfl⟩
  obtain ⟨w₁, w₂, hR, hflush, hclusters, htrailer⟩ :=
    finalize_emits (renders_rule io _) hstart hok
  obtain ⟨-, hcl, -, hcues, -⟩ := hR.flush hflush
  rw [hclusters, htrailer]
  exact ⟨hcl, congrArg some hcues⟩

/-- Every packet of a track is emitted exactly once. -/
theorem trackOrder_perm (cfg : MatroskaStreamConfig) (packets : List MuxPacket) :
    (trackOrder cfg packets).Perm
      ((packets.filter nonEmpty).filter (hasTrack (1 + cfg.audioTracks.length))) :=
  (emissionOrder_perm cfg packets).filter _

/-- The cues of a finished file: one for each emitted video keyframe, in emission order, with its
    time and the position of the cluster its block was written in. -/
theorem cues_index_keyframes {io : OutputIo} {cfg : MatroskaStreamConfig} {packets : List MuxPacket}
    (hok : ((session io cfg packets).finalize io).2 = true) :
    ∃ groups : List (List MuxPacket),
      groups.flatten = trackOrder cfg packets ∧
      ((session io cfg packets).finalize io).1.clusters.map Cluster.blocks =
        groups.map (·.filterMap (block? (1 + cfg.audioTracks.length))) ∧
      ((session io cfg packets).finalize io).1.trailer.map Trailer.cues =
        some (cueIndex io groups) := by
  obtain ⟨hclusters, hcues⟩ := finalize_renders hok
  refine ⟨(Grouping.ofPackets (trackOrder cfg packets)).groups, Grouping.flatten_ofPackets _, ?_,
    hcues⟩
  rw [hclusters, List.map_map]
  rfl

/-- Keyframes two seconds apart, and audio around them. -/
def keyedPackets : List MuxPacket :=
  [⟨0, 1, true, [1]⟩, ⟨1000000, 2, false, [2]⟩, ⟨2000000000, 1, true, [3]⟩,
    ⟨2000000000, 2, false, [4]⟩, ⟨2500000000, 1, true, [5]⟩]

theorem cues_index_keyframes_keyed :
    ((session quietIo narrowConfig keyedPackets).finalize quietIo).2 = true ∧
      ∃ groups : List (List MuxPacket),
        groups.flatten = trackOrder narrowConfig keyedPackets ∧
        ((session quietIo narrowConfig keyedPackets).finalize quietIo).1.clusters.map
          Cluster.blocks = groups.map (·.filterMap (block? 2)) ∧
        ((session quietIo narrowConfig keyedPackets).finalize quietIo).1.trailer.map Trailer.cues =
          some (cueIndex quietIo groups) :=
  ⟨by decide, @cues_index_keyframes quietIo narrowConfig keyedPackets (by decide)⟩

example : ((session quietIo narrowConfig keyedPackets).finalize quietIo).1.trailer.map Trailer.cues =
    some [⟨0, 0⟩, ⟨2000, 1⟩, ⟨2500, 1⟩] := by decide

end Writer

end Exosnap.Engine
