/-
  When the edit mixer drops nothing.

  The mix is handed on through the trailing track, but waits no longer than an allowance behind
  the leading one: `kStartupGraceFrames` while a track has not started, `kMaxTrackLagFrames`
  afterwards. `LagKept` says that the tracks stay within these allowances. It does not say where
  a track's later blocks start, and a block that goes back behind what its track has delivered
  is late with all tracks in time (`repeated_block_late`). `InOrder` adds that no block starts in
  front of the reset's origin or in front of what its track has delivered.

  `Ahead` is the invariant: the origin is behind every track that has started, and as long as one
  has not, no further than the grace behind the leading track. With all tracks started both
  bounds of a `take` lie behind every track; before that the wider allowance applies to all of
  them, and the tracks that have started are within the narrower one.
-/
import Exosnap.Engine.EditAudioPlacement

namespace Exosnap.Engine

open PositionSums EditAudioMix

namespace EditAudioMixer

/-! ## The two folds over the tracks -/

theorem le_foldl_max (ts : List Track) (init : Int) :
    init ≤ ts.foldl (fun newest t => max newest t.throughFrame) init ∧
      ∀ t ∈ ts, t.throughFrame ≤ ts.foldl (fun newest t => max newest t.throughFrame) init := by
  induction ts generalizing init with
  | nil => exact ⟨Int.le_refl _, nofun⟩
  | cons t ts ih =>
    obtain ⟨hinit, hts⟩ := ih (max init t.throughFrame)
    rw [List.foldl_cons]
    refine ⟨by omega, fun u hu => ?_⟩
    rcases List.mem_cons.mp hu with rfl | hu
    · omega
    · exact hts u hu

theorem foldl_max_le {ts : List Track} {init bound : Int} (hinit : init ≤ bound)
    (hts : ∀ t ∈ ts, t.throughFrame ≤ bound) :
    ts.foldl (fun newest t => max newest t.throughFrame) init ≤ bound := by
  induction ts generalizing init with
  | nil => exact hinit
  | cons t ts ih =>
    have ht := hts t List.mem_cons_self
    have hmax : max init t.throughFrame ≤ bound := by omega
    exact ih hmax fun u hu => hts u (List.mem_cons_of_mem t hu)

theorem foldl_min_le (ts : List Track) (init : Int) :
    ts.foldl (fun barrier t => min barrier t.throughFrame) init ≤ init ∧
      ∀ t ∈ ts, ts.foldl (fun barrier t => min barrier t.throughFrame) init ≤ t.throughFrame := by
  induction ts generalizing init with
  | nil => exact ⟨Int.le_refl _, nofun⟩
  | cons t ts ih =>
    obtain ⟨hinit, hts⟩ := ih (min init t.throughFrame)
    rw [List.foldl_cons]
    refine ⟨by omega, fun u hu => ?_⟩
    rcases List.mem_cons.mp hu with rfl | hu
    · omega
    · exact hts u hu

theorem le_newest (m : EditAudioMixer) :
    m.originFrame ≤ m.newest ∧ ∀ t ∈ m.tracks, t.throughFrame ≤ m.newest :=
  le_foldl_max m.tracks m.originFrame

/-- The barrier is behind a track, or an allowance behind the leading one. -/
theorem barrier_le (m : EditAudioMixer) :
    m.barrier ≤ m.accumEnd ∧
      ∀ t ∈ m.tracks, m.barrier ≤ max t.throughFrame (m.newest - m.lagFrames) := by
  have hmin := foldl_min_le m.tracks m.accumEnd
  unfold barrier
  dsimp only
  refine ⟨Int.min_le_right _ _, fun t ht => ?_⟩
  have htrack := hmin.2 t ht
  omega

/-! ## The conditions -/

/-- Each track stays within its allowance: a block of a track that has not started starts within
    the grace, and whenever the mix is taken the started tracks are within the lag. -/
def LagKept (m : EditAudioMixer) : Call → Prop
  | .submit track ptsUs frames =>
      frames ≠ [] → ∀ t ∈ m.tracks[track]?, t.hasContributed = false →
        m.newest - kStartupGraceFrames ≤ frameIndexForUs ptsUs
  | .take =>
      ∀ t ∈ m.tracks, t.hasContributed = true → m.newest - kMaxTrackLagFrames ≤ t.throughFrame

/-- No block starts in front of the origin of the run or in front of what its track delivered. -/
def InOrder (origin : Int) (m : EditAudioMixer) : Call → Prop
  | .submit track ptsUs frames =>
      frames ≠ [] → ∀ t ∈ m.tracks[track]?, origin ≤ frameIndexForUs ptsUs ∧
        (t.hasContributed = true → t.throughFrame ≤ frameIndexForUs ptsUs)
  | .take => True

instance decLagKept (m : EditAudioMixer) : (c : Call) → Decidable (LagKept m c)
  | .submit track ptsUs frames =>
      inferInstanceAs (Decidable (frames ≠ [] → ∀ t ∈ m.tracks[track]?,
        t.hasContributed = false → m.newest - kStartupGraceFrames ≤ frameIndexForUs ptsUs))
  | .take =>
      inferInstanceAs (Decidable (∀ t ∈ m.tracks, t.hasContributed = true →
        m.newest - kMaxTrackLagFrames ≤ t.throughFrame))

instance decInOrder (origin : Int) (m : EditAudioMixer) : (c : Call) → Decidable (InOrder origin m c)
  | .submit track ptsUs frames =>
      inferInstanceAs (Decidable (frames ≠ [] → ∀ t ∈ m.tracks[track]?,
        origin ≤ frameIndexForUs ptsUs ∧
          (t.hasContributed = true → t.throughFrame ≤ frameIndexForUs ptsUs)))
  | .take => isTrue trivial

/-! ## The invariant -/

structure Ahead (origin : Int) (m : EditAudioMixer) : Prop where
  late : m.lateFramesDropped = 0
  started : ∀ t ∈ m.tracks, t.hasContributed = true → m.originFrame ≤ t.throughFrame
  waiting : ∀ t ∈ m.tracks, t.hasContributed = false → t.throughFrame = origin ∧
    m.originFrame ≤ max origin (m.newest - kStartupGraceFrames)

/-- A block that meets both conditions starts behind the origin of the moment. -/
theorem Ahead.origin_le_start {origin : Int} {m : EditAudioMixer} (h : Ahead origin m)
    {track : Nat} {ptsUs : Int} {frames : List Frame} (hne : frames ≠ [])
    (hlag : LagKept m (.submit track ptsUs frames))
    (horder : InOrder origin m (.submit track ptsUs frames)) {t : Track}
    (ht : t ∈ m.tracks[track]?) : m.originFrame ≤ frameIndexForUs ptsUs := by
  have hmem : t ∈ m.tracks := List.mem_of_getElem? ht
  obtain ⟨horigin, hthrough⟩ := horder hne t ht
  cases hc : t.hasContributed with
  | false =>
    have hgrace := hlag hne t ht hc
    have hwait := (h.waiting t hmem hc).2
    omega
  | true =>
    have hstart := hthrough hc
    have hbehind := h.started t hmem hc
    omega

theorem mem_modify {l : List Track} {track : Nat} {f : Track → Track} {t : Track} :
    t ∈ l.modify track f → t ∈ l ∨ ∃ u ∈ l[track]?, t = f u := by
  intro h
  obtain ⟨i, hi⟩ := List.mem_iff_getElem?.mp h
  rw [List.getElem?_modify] at hi
  obtain ⟨u, hu, heq⟩ := Option.map_eq_some_iff.mp hi
  split at heq
  · next hpos =>
      rw [← hpos] at hu
      exact .inr ⟨u, hu, heq.symm⟩
  · rw [heq] at hu
    exact .inl (List.mem_of_getElem? hu)

/-- No track delivers less than before. -/
theorem newest_mono {m m' : EditAudioMixer} (horigin : m.originFrame ≤ m'.originFrame)
    (htracks : ∀ t ∈ m.tracks, ∃ t' ∈ m'.tracks, t.throughFrame ≤ t'.throughFrame) :
    m.newest ≤ m'.newest := by
  obtain ⟨horigin', htracks'⟩ := le_newest m'
  refine foldl_max_le (by omega) fun t ht => ?_
  obtain ⟨t', ht', hle⟩ := htracks t ht
  have := htracks' t' ht'
  omega

theorem deliver_throughFrame (blockEnd : Int) (t : Track) :
    blockEnd ≤ (t.deliver blockEnd).throughFrame ∧ t.throughFrame ≤ (t.deliver blockEnd).throughFrame := by
  dsimp only [Track.deliver]
  split <;> omega

theorem submit_tracks {m : EditAudioMixer} {track : Nat} {ptsUs : Int} {frames : List Frame}
    (hin : ¬ (m.tracks.length ≤ track ∨ frames.length = 0)) :
    (m.submit track ptsUs frames).tracks =
      m.tracks.modify track (Track.deliver (frameIndexForUs ptsUs + frames.length)) := by
  unfold EditAudioMixer.submit
  dsimp only
  rw [if_neg hin]
  split
  · split <;> rfl
  · rfl

theorem submit_newest {m : EditAudioMixer} {track : Nat} {ptsUs : Int} {frames : List Frame}
    (hin : ¬ (m.tracks.length ≤ track ∨ frames.length = 0)) :
    m.newest ≤ (m.submit track ptsUs frames).newest := by
  refine newest_mono (Int.le_of_eq (submit_kept m track ptsUs frames).1.symm) fun t ht => ?_
  rw [submit_tracks hin]
  obtain ⟨i, hi⟩ := List.mem_iff_getElem?.mp ht
  by_cases heq : track = i
  · refine ⟨t.deliver (frameIndexForUs ptsUs + frames.length), List.mem_iff_getElem?.mpr ⟨i, ?_⟩,
      (deliver_throughFrame _ t).2⟩
    rw [List.getElem?_modify, hi]
    exact congrArg some (if_pos heq)
  · refine ⟨t, List.mem_iff_getElem?.mpr ⟨i, ?_⟩, Int.le_refl _⟩
    rw [List.getElem?_modify, hi]
    exact congrArg some (if_neg heq)

theorem Ahead.submit {origin : Int} {m : EditAudioMixer} (h : Ahead origin m) {track : Nat}
    {ptsUs : Int} {frames : List Frame} (hlag : LagKept m (.submit track ptsUs frames))
    (horder : InOrder origin m (.submit track ptsUs frames)) :
    Ahead origin (m.submit track ptsUs frames) := by
  by_cases hin : m.tracks.length ≤ track ∨ frames.length = 0
  · have hsame : m.submit track ptsUs frames = m := if_pos hin
    rw [hsame]
    exact h
  · have hne : frames ≠ [] := by
      rintro rfl
      exact hin (.inr rfl)
    have ht : track < m.tracks.length := by omega
    have hstart := h.origin_le_start hne hlag horder (List.getElem?_eq_getElem ht)
    have hskip : 0 = (m.originFrame - frameIndexForUs ptsUs).toNat := by omega
    have hlate := (submit_spec ht ptsUs frames hskip).1
    have horigin := (submit_kept m track ptsUs frames).1
    have hnewest : m.newest ≤ (m.submit track ptsUs frames).newest := submit_newest hin
    constructor
    · rw [hlate, List.take_zero, h.late]
      rfl
    · intro t' ht' hc
      rw [submit_tracks hin] at ht'
      rw [horigin]
      rcases mem_modify ht' with hold | ⟨u, hu, rfl⟩
      · exact h.started t' hold hc
      · have hthrough := (deliver_throughFrame (frameIndexForUs ptsUs + frames.length) u).1
        omega
    · intro t' ht' hc
      rw [submit_tracks hin] at ht'
      rw [horigin]
      rcases mem_modify ht' with hold | ⟨u, hu, rfl⟩
      · obtain ⟨hthrough, hwait⟩ := h.waiting t' hold hc
        exact ⟨hthrough, by omega⟩
      · exact absurd hc (by simp [Track.deliver])

theorem take_cases (m : EditAudioMixer) :
    m.take = (m, none) ∨ m.originFrame < m.barrier ∧
      m.take = m.takeFrames (m.barrier - m.originFrame).toNat := by
  unfold EditAudioMixer.take
  split
  · exact .inl rfl
  · split
    · exact .inl rfl
    · exact .inr ⟨by omega, rfl⟩

theorem takeFrames_spec (m : EditAudioMixer) (frames : Nat) :
    (m.takeFrames frames).1.originFrame = m.originFrame + frames ∧
      (m.takeFrames frames).1.tracks = m.tracks ∧
      (m.takeFrames frames).1.lateFramesDropped = m.lateFramesDropped := by
  unfold EditAudioMixer.takeFrames
  split
  · next hzero =>
      subst hzero
      exact ⟨(Int.add_zero _).symm, rfl, rfl⟩
  · exact ⟨rfl, rfl, rfl⟩

theorem Ahead.take {origin : Int} {m : EditAudioMixer} (h : Ahead origin m)
    (hlag : LagKept m .take) : Ahead origin m.take.1 := by
  rcases take_cases m with hnone | ⟨hbarrier, htake⟩
  · rw [hnone]
    exact h
  · obtain ⟨horigin, htracks, hlate⟩ := takeFrames_spec m (m.barrier - m.originFrame).toNat
    rw [← htake] at horigin htracks hlate
    have hsame : m.take.1.originFrame = m.barrier := by omega
    have hnewest : m.newest ≤ m.take.1.newest := by
      refine newest_mono (by omega) fun t ht => ⟨t, ?_, Int.le_refl _⟩
      rw [htracks]
      exact ht
    have hbehind := (barrier_le m).2
    constructor
    · exact hlate.trans h.late
    · intro t ht hc
      rw [htracks] at ht
      have hle := hbehind t ht
      have hlagged := hlag t ht hc
      have hwider : (kMaxTrackLagFrames : Int) ≤ m.lagFrames := by
        unfold lagFrames
        split <;> decide
      omega
    · intro t ht hc
      rw [htracks] at ht
      obtain ⟨hthrough, -⟩ := h.waiting t ht hc
      have hle := hbehind t ht
      -- one track has not started, so all are allowed the grace
      have hgrace : m.lagFrames = kStartupGraceFrames := by
        have hnot : m.allStarted = false := by
          rw [allStarted, List.all_eq_false]
          exact ⟨t, ht, by simp [hc]⟩
        rw [lagFrames, hnot]
        rfl
      exact ⟨hthrough, by omega⟩

/-! ## Runs -/

def KeepsUp (origin : Int) (r : Run) (c : Call) : Prop :=
  LagKept r.mixer c ∧ InOrder origin r.mixer c

instance decKeepsUp (origin : Int) (r : Run) (c : Call) : Decidable (KeepsUp origin r c) :=
  inferInstanceAs (Decidable (_ ∧ _))

theorem Ahead.step {origin : Int} {r : Run} (h : Ahead origin r.mixer) {c : Call}
    (hc : KeepsUp origin r c) : Ahead origin (r.step c).mixer := by
  cases c with
  | submit track ptsUs frames => exact h.submit hc.1 hc.2
  | take => exact h.take hc.1

theorem ahead_run {trackCount : Nat} {startUs : Int} {calls : List Call}
    (h : StepRun.Meets (fun r c => some (Run.step r c)) (KeepsUp (frameIndexForUs startUs))
      { mixer := ({} : EditAudioMixer).reset trackCount startUs } calls) :
    Ahead (frameIndexForUs startUs) (run trackCount startUs calls).mixer := by
  refine StepRun.exec_invariant (I := fun r : Run => Ahead (frameIndexForUs startUs) r.mixer)
    (fun r c r' hr hc hstep => ?_) ?_ h (StepRun.exec_total Run.step _ calls)
  · obtain rfl := Option.some.inj hstep
    exact hr.step hc
  · exact
      { late := rfl
        started := fun t ht hc => by
          rw [List.eq_of_mem_replicate ht] at hc
          cases hc
        waiting := fun t ht _ => by
          rw [List.eq_of_mem_replicate ht]
          exact ⟨rfl, Int.le_max_left _ _⟩ }

/-- What is handed out ends at the barrier. -/
theorem take_length {m : EditAudioMixer} {block : MixedBlock} (hblock : m.take.2 = some block) :
    m.originFrame + block.interleavedStereo.length ≤ m.barrier := by
  rcases take_cases m with hnone | ⟨hbarrier, htake⟩
  · rw [hnone] at hblock
    cases hblock
  · rw [htake] at hblock
    unfold EditAudioMixer.takeFrames at hblock
    split at hblock
    · cases hblock
    · obtain rfl := Option.some.inj hblock
      dsimp only
      rw [List.length_take]
      omega

/-- While the tracks keep up, at every point of the run nothing is late, and a block that is
    handed out ends before the first frame that a started track in its allowance has not
    delivered. -/
theorem live_tracks_lose_nothing {trackCount : Nat} {startUs : Int} {calls : List Call}
    (h : StepRun.Meets (fun r c => some (Run.step r c)) (KeepsUp (frameIndexForUs startUs))
      { mixer := ({} : EditAudioMixer).reset trackCount startUs } calls) :
    ∀ before, before <+: calls →
      let m := (run trackCount startUs before).mixer
      m.lateFramesDropped = 0 ∧
        ∀ block, m.take.2 = some block → ∀ t ∈ m.tracks, t.hasContributed = true →
          m.newest - m.lagFrames ≤ t.throughFrame →
            m.originFrame + block.interleavedStereo.length ≤ t.throughFrame := by
  rintro before ⟨after, rfl⟩
  refine ⟨(ahead_run h.of_append).late, fun block hblock t ht _ hlag => ?_⟩
  have hend := take_length hblock
  have hbarrier := (barrier_le (run trackCount startUs before).mixer).2 t ht
  omega

/-! ## A run that keeps up, and one that does not -/

/-- Two tracks, the second of which starts half a second after the first. -/
def staggeredCalls : List Call :=
  [.submit 0 0 [silence, silence], .take, .submit 1 500000 [silence], .submit 0 500000 [silence],
    .take]

theorem live_tracks_lose_nothing_staggered :
    (run 2 0 staggeredCalls).mixer.lateFramesDropped = 0 ∧
      ∀ block, (run 2 0 staggeredCalls).mixer.take.2 = some block →
        ∀ t ∈ (run 2 0 staggeredCalls).mixer.tracks, t.hasContributed = true →
          (run 2 0 staggeredCalls).mixer.newest - (run 2 0 staggeredCalls).mixer.lagFrames ≤
              t.throughFrame →
            (run 2 0 staggeredCalls).mixer.originFrame + block.interleavedStereo.length ≤
              t.throughFrame :=
  @live_tracks_lose_nothing 2 0 staggeredCalls (by decide) staggeredCalls
    (List.prefix_refl _)

/-- One track that delivers a block, is taken, and delivers the block again. -/
def repeatedCalls : List Call := [.submit 0 0 [silence], .take, .submit 0 0 [silence]]

/-- A block that begins a millisecond in front of the run. -/
def earlyCalls : List Call := [.submit 0 0 [silence]]

theorem repeated_block_late :
    (StepRun.Meets (fun r c => some (Run.step r c)) (fun r c => LagKept r.mixer c)
        { mixer := ({} : EditAudioMixer).reset 1 0 } repeatedCalls ∧
      (run 1 0 repeatedCalls).mixer.lateFramesDropped = 1) ∧
    (StepRun.Meets (fun r c => some (Run.step r c)) (fun r c => LagKept r.mixer c)
        { mixer := ({} : EditAudioMixer).reset 1 1000 } earlyCalls ∧
      (run 1 1000 earlyCalls).mixer.lateFramesDropped = 1) := by
  refine ⟨⟨?_, ?_⟩, ?_, ?_⟩ <;> decide

end EditAudioMixer

end Exosnap.Engine
