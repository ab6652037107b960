/-
  The order in which the reorder window hands packets to `EmitPacket`, as a function of the
  pushed packets alone (`emissionOrder`): when a packet leaves the window depends on the window,
  the newest PTS and the bounds, never on the clusters or on the output.

  `finalize_emits` is the rule for what a finished file contains. A property of the writer and
  of the packets emitted so far that every emission keeps (`EmitRule`) holds, when `Finalize`
  returned true, of the emission order just before the last cluster is flushed. The output may
  answer anything: a step that fails marks the writer, and a marked writer never finalizes
  (`drainFrom_failed`).
-/
import Exosnap.Engine.ReorderWindow

namespace Exosnap.Engine

namespace MuxPacket

/-- The packet's timecode. -/
def ptsMs (e : MuxPacket) : UInt64 := e.ptsNs / kTimecodeScaleNs

def videoKey (e : MuxPacket) : Bool := e.isKey && e.trackNum == 1

end MuxPacket

open MuxPacket

namespace Writer

/-- The loop of `DrainWindow` does not stop at `front`. -/
def mayRelease (cfg : MatroskaStreamConfig) (force : Bool) (maxPushedPtsNs : UInt64)
    (front : MuxPacket) (rest : List MuxPacket) : Bool :=
  force || decide (front.ptsNs + cfg.reorderWindowNs ≤ maxPushedPtsNs) ||
    decide (cfg.reorderWindowMaxPackets < (front :: rest).length)

/-- The packets one drain releases, and those it keeps. -/
def release (cfg : MatroskaStreamConfig) (force : Bool) (maxPushedPtsNs : UInt64) :
    List MuxPacket → List MuxPacket × List MuxPacket
  | [] => ([], [])
  | front :: rest =>
      if mayRelease cfg force maxPushedPtsNs front rest then
        let r := release cfg force maxPushedPtsNs rest
        (front :: r.1, r.2)
      else ([], front :: rest)

/-- The window without the writer around it. -/
structure Reorder where
  released : List MuxPacket := []
  window : List MuxPacket := []
  maxPushedPtsNs : UInt64 := 0

def Reorder.push (cfg : MatroskaStreamConfig) (r : Reorder) (p : MuxPacket) : Reorder :=
  if p.bytes.isEmpty then r
  else
    let newest := if r.maxPushedPtsNs < p.ptsNs then p.ptsNs else r.maxPushedPtsNs
    let drained := release cfg false newest (StableInsert.insertFromBack Precedes p r.window)
    ⟨r.released ++ drained.1, drained.2, newest⟩

def Reorder.pushAll (cfg : MatroskaStreamConfig) (r : Reorder) (packets : List MuxPacket) :
    Reorder :=
  packets.foldl (Reorder.push cfg) r

/-- The order in which a finished session emits its packets. -/
def emissionOrder (cfg : MatroskaStreamConfig) (packets : List MuxPacket) : List MuxPacket :=
  let r := Reorder.pushAll cfg {} packets
  r.released ++ r.window

/-! ## The emission order of itself -/

theorem release_append (cfg : MatroskaStreamConfig) (force : Bool) (newest : UInt64)
    (l : List MuxPacket) :
    (release cfg force newest l).1 ++ (release cfg force newest l).2 = l := by
  induction l with
  | nil => rfl
  | cons front rest ih =>
      unfold release
      split
      · exact congrArg (front :: ·) ih
      · rfl

theorem release_force (cfg : MatroskaStreamConfig) (newest : UInt64) (l : List MuxPacket) :
    release cfg true newest l = (l, []) := by
  induction l with
  | nil => rfl
  | cons front rest ih =>
      unfold release
      rw [if_pos (by simp [mayRelease]), ih]

theorem Reorder.push_perm (cfg : MatroskaStreamConfig) (r : Reorder) (p : MuxPacket) :
    ((r.push cfg p).released ++ (r.push cfg p).window).Perm
      (r.released ++ r.window ++ [p].filter nonEmpty) := by
  unfold Reorder.push
  cases hp : p.bytes.isEmpty with
  | true => simp [nonEmpty, hp]
  | false =>
      simp only [Bool.false_eq_true, if_false, List.append_assoc, release_append]
      rw [List.filter_cons_of_pos (by simp [nonEmpty, hp])]
      refine List.Perm.append_left _ ((StableInsert.perm_insertFromBack Precedes p r.window).trans ?_)
      exact (List.perm_append_singleton p r.window).symm

/-- Every non-empty packet is emitted exactly once. -/
theorem emissionOrder_perm (cfg : MatroskaStreamConfig) (packets : List MuxPacket) :
    (emissionOrder cfg packets).Perm (packets.filter nonEmpty) := by
  have hrun : ∀ (l : List MuxPacket) (r : Reorder),
      ((r.pushAll cfg l).released ++ (r.pushAll cfg l).window).Perm
        (r.released ++ r.window ++ l.filter nonEmpty) := by
    intro l
    induction l with
    | nil => intro r; simp [Reorder.pushAll]
    | cons p l ih =>
        intro r
        have hsplit : (p :: l).filter nonEmpty = [p].filter nonEmpty ++ l.filter nonEmpty := by
          rw [← List.filter_append]
          rfl
        rw [hsplit, ← List.append_assoc]
        exact (ih (r.push cfg p)).trans ((r.push_perm cfg p).append_right _)
  simpa [emissionOrder] using hrun packets {}

/-! ## A writer that was not marked failed -/

section
variable {io : OutputIo} {w w' : Writer} {e : MuxPacket}

theorem fail_failed (w : Writer) (reason : String) : (w.fail reason).failed = true := by
  unfold fail
  split
  · assumption
  · rfl

theorem flushCluster_failed (h : w.flushCluster io = (w', false)) : w'.failed = true := by
  unfold flushCluster at h
  split at h
  · cases h
  · split at h
    · cases h
      exact fail_failed _ _
    · dsimp only at h
      split at h
      · cases h
        exact fail_failed _ _
      · cases h

theorem emitPacket_failed (h : w.emitPacket io e = (w', false)) : w'.failed = true := by
  unfold emitPacket at h
  split at h
  · cases h
  · dsimp only at h
    split at h
    · split at h
      · next hf =>
          cases h
          exact flushCluster_failed hf
      · cases h
    · cases h

/-- A drain that stops early leaves the writer marked. -/
theorem drainFrom_failed (force : Bool) (l : List MuxPacket) :
    ∀ {w w' : Writer}, w.drainFrom io force l = (w', false) → w'.failed = true := by
  induction l with
  | nil => exact fun h => by cases h
  | cons front rest ih =>
      intro w w' h
      unfold drainFrom at h
      dsimp only at h
      split at h
      · cases h
      · split at h
        · next he =>
            cases h
            have hfailed := emitPacket_failed he
            exact hfailed
        · exact ih h

/-- A flush that succeeds renders the open cluster and attaches the pending cues to it. -/
theorem flushCluster_true (h : w.flushCluster io = (w', true)) :
    (w.cluster = none ∧ w' = w) ∨
      ∃ c n, w.cluster = some c ∧ w' = { w with
        ioCount := n
        flushCount := w.flushCount + 1
        clusters := w.clusters ++ [c]
        cues := w.cues ++ w.pendingCueMs.map (CuePoint.mk · (io.clusterPosition w.flushCount))
        pendingCueMs := []
        cluster := none } := by
  unfold flushCluster ioStep at h
  cases hc : w.cluster with
  | none =>
      rw [hc] at h
      cases h
      exact .inl ⟨rfl, rfl⟩
  | some c =>
      rw [hc] at h
      dsimp only at h
      cases hio : io.fails w.ioCount with
      | some what =>
          rw [hio] at h
          cases h
      | none =>
          rw [hio] at h
          dsimp only at h
          cases hio' : io.fails (w.ioCount + 1) with
          | some what =>
              rw [hio'] at h
              cases h
          | none =>
              rw [hio'] at h
              cases h
              exact .inr ⟨c, _, rfl, rfl⟩

theorem flushCluster_same (h : w.flushCluster io = (w', true)) : SameWindowState w w' := by
  obtain ⟨-, rfl⟩ | ⟨c, n, -, rfl⟩ := flushCluster_true h <;>
    exact ⟨rfl, rfl, rfl, rfl, rfl, rfl, rfl⟩

theorem emitPacket_same (h : w.emitPacket io e = (w', true)) : SameWindowState w w' := by
  unfold emitPacket at h
  split at h
  · cases h
    exact ⟨rfl, rfl, rfl, rfl, rfl, rfl, rfl⟩
  · dsimp only at h
    split at h
    · split at h
      · cases h
      · next hf =>
          cases h
          have hsame := flushCluster_same hf
          exact ⟨hsame.config, hsame.trackEntries, hsame.maxPushedPtsNs, hsame.failed,
            hsame.opened, hsame.finalized, hsame.peakWindowPackets⟩
    · cases h
      exact ⟨rfl, rfl, rfl, rfl, rfl, rfl, rfl⟩

end

/-! ## What the emissions keep -/

/-- The members that place blocks and cues. -/
structure SameLayout (w w' : Writer) : Prop where
  trackEntries : w'.trackEntries = w.trackEntries
  cluster : w'.cluster = w.cluster
  firstCluster : w'.firstCluster = w.firstCluster
  clusterStartMs : w'.clusterStartMs = w.clusterStartMs
  pendingCueMs : w'.pendingCueMs = w.pendingCueMs
  flushCount : w'.flushCount = w.flushCount
  cues : w'.cues = w.cues
  clusters : w'.clusters = w.clusters

/-- `J` speaks of the layout and of the packets emitted so far, and every emission keeps it. -/
structure EmitRule (io : OutputIo) (J : Writer → List MuxPacket → Prop) : Prop where
  frame : ∀ {w w' es}, SameLayout w w' → J w es → J w' es
  emit : ∀ {w w' es e}, J w es → w.emitPacket io e = (w', true) → J w' (es ++ [e])

section
variable {io : OutputIo} {J : Writer → List MuxPacket → Prop} {w : Writer}

theorem drainFrom_rule (R : EmitRule io J) (force : Bool) (l : List MuxPacket) :
    ∀ {w w' : Writer} {es : List MuxPacket}, J w es → w.drainFrom io force l = (w', true) →
      J w' (es ++ (release w.config force w.maxPushedPtsNs l).1) ∧
        w'.window = (release w.config force w.maxPushedPtsNs l).2 ∧ SameWindowState w w' := by
  induction l with
  | nil =>
      intro w w' es hJ h
      cases h
      refine ⟨?_, rfl, rfl, rfl, rfl, rfl, rfl, rfl, rfl⟩
      rw [release, List.append_nil]
      exact R.frame (w := w) ⟨rfl, rfl, rfl, rfl, rfl, rfl, rfl, rfl⟩ hJ
  | cons front rest ih =>
      intro w w' es hJ h
      unfold drainFrom at h
      unfold release
      dsimp only at h
      split at h
      · next hstop =>
          cases h
          rw [if_neg (by simpa [mayRelease] using hstop)]
          refine ⟨?_, rfl, rfl, rfl, rfl, rfl, rfl, rfl, rfl⟩
          rw [List.append_nil]
          exact R.frame (w := w) ⟨rfl, rfl, rfl, rfl, rfl, rfl, rfl, rfl⟩ hJ
      · next hgo =>
          have hmay : mayRelease w.config force w.maxPushedPtsNs front rest = true := by
            by_contra hno
            exact hgo (by simpa [mayRelease] using hno)
          rw [if_pos hmay]
          split at h
          · cases h
          · next w₁ he =>
              have hsame := emitPacket_same he
              have hJ₁ : J { w₁ with curWindowBytes := w₁.curWindowBytes - front.bytes.length }
                  (es ++ [front]) :=
                R.frame (w := w₁) ⟨rfl, rfl, rfl, rfl, rfl, rfl, rfl, rfl⟩ (R.emit hJ he)
              obtain ⟨hJ', hwin, hsame'⟩ := ih hJ₁ h
              rw [hsame.config, hsame.maxPushedPtsNs] at hJ' hwin
              refine ⟨?_, hwin, hsame.trans ?_⟩
              · rw [List.append_assoc] at hJ'
                exact hJ'
              · exact ⟨hsame'.config, hsame'.trackEntries, hsame'.maxPushedPtsNs, hsame'.failed,
                  hsame'.opened, hsame'.finalized, hsame'.peakWindowPackets⟩

/-- The writer after the pushes that made `r` of the window. -/
structure Emitted (J : Writer → List MuxPacket → Prop) (cfg : MatroskaStreamConfig) (r : Reorder)
    (w : Writer) : Prop where
  config : w.config = cfg
  opened : w.opened = true
  finalized : w.finalized = false
  window : w.window = r.window
  maxPushedPtsNs : w.maxPushedPtsNs = r.maxPushedPtsNs
  emitted : J w r.released

theorem push_rule (R : EmitRule io J) {cfg : MatroskaStreamConfig} {r : Reorder} {w : Writer}
    {p : MuxPacket} (hw : w.failed = false → Emitted J cfg r w)
    (hok : (w.push io p).1.failed = false) : Emitted J cfg (r.push cfg p) (w.push io p).1 := by
  unfold push at hok ⊢
  split at hok
  · next hdead =>
      have hE := hw hok
      have hnf : w.failed = false := hok
      simp [hnf, hE.opened, hE.finalized] at hdead
  · next hlive =>
      have hnf : w.failed = false := by
        simp only [Bool.or_eq_true, not_or, Bool.not_eq_true] at hlive
        exact hlive.1.1
      have hE := hw hnf
      rw [if_neg hlive]
      unfold Reorder.push
      split
      · exact hE
      · next hne =>
          rw [if_neg hne] at hok
          cases hd : (w.enqueue p).drainWindow io false with
          | mk w' b =>
              rw [hd] at hok
              cases b with
              | false =>
                  rw [drainFrom_failed false _ hd] at hok
                  cases hok
              | true =>
                  have hJ : J (w.enqueue p) r.released :=
                    R.frame (w := w) ⟨rfl, rfl, rfl, rfl, rfl, rfl, rfl, rfl⟩ hE.emitted
                  obtain ⟨hJ', hwin, hsame⟩ := drainFrom_rule R false _ hJ hd
                  have hnew : (w.enqueue p).maxPushedPtsNs =
                      if r.maxPushedPtsNs < p.ptsNs then p.ptsNs else r.maxPushedPtsNs := by
                    rw [← hE.maxPushedPtsNs]
                    rfl
                  have hwindow : (w.enqueue p).window =
                      StableInsert.insertFromBack Precedes p r.window := by
                    rw [← hE.window]
                    rfl
                  have hcfg : (w.enqueue p).config = cfg := hE.config
                  rw [hcfg, hnew, hwindow] at hJ' hwin
                  exact {
                    config := hsame.config.trans hcfg
                    opened := hsame.opened.trans hE.opened
                    finalized := hsame.finalized.trans hE.finalized
                    window := hwin
                    maxPushedPtsNs := hsame.maxPushedPtsNs.trans hnew
                    emitted := hJ' }

theorem pushAll_rule (R : EmitRule io J) {cfg : MatroskaStreamConfig} (packets : List MuxPacket) :
    ∀ {r : Reorder} {w : Writer}, (w.failed = false → Emitted J cfg r w) →
      (w.pushAll io packets).failed = false →
        Emitted J cfg (r.pushAll cfg packets) (w.pushAll io packets) := by
  induction packets with
  | nil => exact fun hw hok => hw hok
  | cons p packets ih => exact fun hw hok => ih (push_rule R hw) hok

theorem closeIo_failed (h : w.failed = true) : (w.closeIo io).failed = true := by
  unfold closeIo ioStep fail
  split
  · cases io.fails w.ioCount with
    | none => exact h
    | some what =>
        dsimp only
        rw [if_pos h]
        exact h
  · exact h

/-- `Open` marks the writer or leaves it as constructed, with the configuration in place. -/
theorem openFile_cases (io : OutputIo) (cfg : MatroskaStreamConfig) :
    ((openFile io {} cfg).2 = false ∧ (openFile io {} cfg).1.failed = true) ∨
      ∃ n, openFile io {} cfg = ({
        config := cfg
        opened := true
        ioOpen := true
        ioCount := n
        contentLightReserved := cfg.hdr && cfg.reserveContentLightLevel
        trackEntries := 1 + cfg.audioTracks.length }, true) := by
  unfold openFile ioStep
  rw [if_neg (by simp)]
  dsimp only
  cases io.fails 0 with
  | some what => exact .inl ⟨rfl, fail_failed _ _⟩
  | none =>
      dsimp only
      cases webmError cfg with
      | some reason => exact .inl ⟨rfl, closeIo_failed (fail_failed _ _)⟩
      | none =>
          dsimp only
          cases io.fails (0 + 1) with
          | some what => exact .inl ⟨rfl, closeIo_failed (fail_failed _ _)⟩
          | none =>
              dsimp only
              cases cfg.audioTracks.findSome?
                  fun t => trackHeaderError cfg.audioCodec t.codecPrivate with
              | some reason => exact .inl ⟨rfl, closeIo_failed (fail_failed _ _)⟩
              | none =>
                  dsimp only
                  cases io.fails (0 + 1 + 1) with
                  | some what => exact .inl ⟨rfl, closeIo_failed (fail_failed _ _)⟩
                  | none => exact .inr ⟨_, rfl⟩

theorem andThen_eq_true {r : Writer × Bool} {phase : Writer → Writer × Bool} {w' : Writer}
    (h : andThen r phase = (w', true)) : ∃ w, r = (w, true) ∧ phase w = (w', true) := by
  obtain ⟨w, b⟩ := r
  cases b with
  | true => exact ⟨w, rfl, h⟩
  | false => cases h

theorem writeTrailer_true {w' : Writer} (h : w.writeTrailer io = (w', true)) :
    w'.clusters = w.clusters ∧ w'.trailer = some w.trailerOf := by
  unfold writeTrailer ioStep at h
  cases hio : io.fails w.ioCount with
  | some what =>
      rw [hio] at h
      cases h
  | none =>
      rw [hio] at h
      cases h
      exact ⟨rfl, rfl⟩

/-- Closing the file touches neither clusters nor trailer. -/
theorem closing_same (io : OutputIo) (w : Writer) :
    ((w.finalFlush io).closeIo io).clusters = w.clusters ∧
      ((w.finalFlush io).closeIo io).trailer = w.trailer := by
  have hfail : ∀ (w : Writer) (what : String),
      (w.fail what).clusters = w.clusters ∧ (w.fail what).trailer = w.trailer := by
    intro w what
    unfold fail
    split <;> exact ⟨rfl, rfl⟩
  have hflush : (w.finalFlush io).clusters = w.clusters ∧ (w.finalFlush io).trailer = w.trailer := by
    unfold finalFlush ioStep
    split
    · cases io.fails w.ioCount with
      | none => exact ⟨rfl, rfl⟩
      | some reason => exact hfail _ _
    · exact ⟨rfl, rfl⟩
  rw [← hflush.1, ← hflush.2]
  generalize w.finalFlush io = v
  unfold closeIo ioStep
  split
  · cases io.fails v.ioCount with
    | none => exact ⟨rfl, rfl⟩
    | some what => exact hfail { v with ioCount := v.ioCount + 1 } what
  · exact ⟨rfl, rfl⟩

/-- The rule for a finished file. -/
theorem finalize_emits (R : EmitRule io J) {cfg : MatroskaStreamConfig} {packets : List MuxPacket}
    (hstart : ∀ w, openFile io {} cfg = (w, true) → J w [])
    (hok : ((session io cfg packets).finalize io).2 = true) :
    ∃ w₁ w₂, J w₁ (emissionOrder cfg packets) ∧ w₁.flushCluster io = (w₂, true) ∧
      ((session io cfg packets).finalize io).1.clusters = w₂.clusters ∧
      ((session io cfg packets).finalize io).1.trailer = some w₂.trailerOf := by
  have hopen : (openFile io {} cfg).1.failed = false → Emitted J cfg {} (openFile io {} cfg).1 := by
    intro hnf
    rcases openFile_cases io cfg with ⟨-, hfailed⟩ | ⟨n, heq⟩
    · rw [hfailed] at hnf
      cases hnf
    · have hJ := hstart _ heq
      rw [heq]
      exact ⟨rfl, rfl, rfl, rfl, rfl, hJ⟩
  have hrun := pushAll_rule R packets hopen
  change ((session io cfg packets).failed = false →
    Emitted J cfg (Reorder.pushAll cfg {} packets) (session io cfg packets)) at hrun
  generalize session io cfg packets = w at hok hrun ⊢
  unfold finalize at hok ⊢
  split at hok
  · next hdead =>
      have hE := hrun (by simpa using hok)
      simp [hE.opened, hE.finalized] at hdead
  · next hlive =>
      rw [if_neg hlive]
      dsimp only at hok ⊢
      generalize hr : andThen (andThen (andThen ({ w with finalized := true }, !w.failed)
        (drainWindow io true)) (flushCluster io)) (writeTrailer io) = r at hok ⊢
      obtain ⟨w₃, b⟩ := r
      obtain rfl : b = true := (Bool.and_eq_true_iff.mp hok).1
      obtain ⟨w₂, hflushed, htrailer⟩ := andThen_eq_true hr
      obtain ⟨w₁, hdrained, hflush⟩ := andThen_eq_true hflushed
      obtain ⟨w₀, hw₀, hdrain⟩ := andThen_eq_true hdrained
      obtain ⟨rfl, hnf⟩ := Prod.mk.inj hw₀
      have hE := hrun (by simpa using hnf)
      have hJ : J { w with finalized := true } (Reorder.pushAll cfg {} packets).released :=
        R.frame (w := w) ⟨rfl, rfl, rfl, rfl, rfl, rfl, rfl, rfl⟩ hE.emitted
      obtain ⟨hJ₁, -, -⟩ := drainFrom_rule R true _ hJ hdrain
      rw [release_force, hE.window] at hJ₁
      obtain ⟨hclusters, htrailer'⟩ := writeTrailer_true htrailer
      obtain ⟨hcl, htr⟩ := closing_same io w₃
      exact ⟨w₁, w₂, hJ₁, hflush, hcl.trans hclusters, htr.trans htrailer'⟩

end

end Writer

end Exosnap.Engine
