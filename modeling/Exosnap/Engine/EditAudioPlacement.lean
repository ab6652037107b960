/-
  Where the edit mixer puts what it is given.

  `Mixed`, kept by every call: what was handed out followed by what is still buffered holds, for
  each frame index, the sum of the frames of that index that were on time, in the order they
  were submitted; the blocks handed out continue each other from the reset's origin on; the rest
  is counted as late. `frames_mixed_at_their_index` reads this off at the end of a run.

  For two orders of the same blocks in which nothing is late the sums have the same terms. As
  the sums are rounded, they agree for at most two terms and for the terms of one track, and in
  general not: `three_tracks_round_differently`.
-/
import Exosnap.Lib.Float32Sum
import Exosnap.Engine.EditAudioMix
import Mathlib.Data.List.GetD
import Mathlib.Data.List.Induction

namespace Exosnap.Engine

open PositionSums EditAudioMix

namespace EditAudioMixer

/-- Blocks that continue each other from frame `origin` on. -/
def Contiguous : Int → List MixedBlock → Prop
  | _, [] => True
  | origin, b :: bs =>
      b.ptsUs = usForFrameIndex origin ∧
        b.frameCount = b.interleavedStereo.length.toUInt32 ∧ b.interleavedStereo ≠ [] ∧
          Contiguous (origin + b.interleavedStereo.length) bs

theorem contiguous_concat (origin : Int) (bs : List MixedBlock) (b : MixedBlock) :
    Contiguous origin (bs ++ [b]) ↔
      Contiguous origin bs ∧ Contiguous (origin + (bs.flatMap (·.interleavedStereo)).length) [b] := by
  induction bs generalizing origin with
  | nil => simp [Contiguous]
  | cons b' bs ih =>
    have hlen : origin + (b'.interleavedStereo.length : Int) +
        ((bs.flatMap (·.interleavedStereo)).length : Nat) =
          origin + (((b' :: bs).flatMap (·.interleavedStereo)).length : Nat) := by
      rw [List.flatMap_cons, List.length_append]
      omega
    rw [List.cons_append, Contiguous, Contiguous, ih, hlen]
    tauto

/-- What every call keeps. -/
structure Mixed (trackCount : Nat) (origin : Int) (r : Run) : Prop where
  tracks : r.mixer.tracks.length = trackCount
  holds : Holds silence origin (r.output ++ r.mixer.accum) r.onTime
  originFrame : r.mixer.originFrame = origin + r.output.length
  late : r.mixer.lateFramesDropped = r.late.length
  behind : ∀ x ∈ r.onTime, origin ≤ x.position
  blocks : Contiguous origin r.blocks

/-! ## Submissions -/

theorem submit_ignored {m : EditAudioMixer} {track : Nat} (h : m.tracks.length ≤ track)
    (ptsUs : Int) (frames : List Frame) : m.submit track ptsUs frames = m :=
  if_pos (.inl h)

theorem submit_kept (m : EditAudioMixer) (track : Nat) (ptsUs : Int) (frames : List Frame) :
    (m.submit track ptsUs frames).originFrame = m.originFrame ∧
      (m.submit track ptsUs frames).tracks.length = m.tracks.length := by
  unfold submit
  dsimp only
  split
  · exact ⟨rfl, rfl⟩
  · split
    · split
      · exact ⟨rfl, List.length_modify ..⟩
      · exact ⟨rfl, List.length_modify ..⟩
    · exact ⟨rfl, List.length_modify ..⟩

/-- The frames in front of the origin are counted, the others are added at their distance from
    it. -/
theorem submit_spec {m : EditAudioMixer} {track : Nat} (h : track < m.tracks.length)
    (ptsUs : Int) (frames : List Frame) {skip : Nat}
    (hskip : skip = (m.originFrame - frameIndexForUs ptsUs).toNat) :
    (m.submit track ptsUs frames).lateFramesDropped =
        m.lateFramesDropped + (frames.take skip).length ∧
      (m.submit track ptsUs frames).accum =
        if frames.drop skip = [] then m.accum
        else addAt silence m.accum (frameIndexForUs ptsUs + skip - m.originFrame).toNat
          (frames.drop skip) := by
  unfold submit
  dsimp only
  by_cases hempty : frames.length = 0
  · obtain rfl : frames = [] := List.length_eq_zero_iff.mp hempty
    simp
  · rw [if_neg (by omega)]
    split
    · next hoffset =>
        split
        · next hall =>
            have hdrop : frames.drop skip = [] := List.drop_eq_nil_of_le (by omega)
            rw [if_pos hdrop, List.length_take, Nat.min_eq_right (by omega)]
            exact ⟨rfl, rfl⟩
        · next hsome =>
            have hdrop : frames.drop skip ≠ [] := by
              rw [Ne, List.drop_eq_nil_iff]
              omega
            have hlate : (-(frameIndexForUs ptsUs - m.originFrame)).toNat = skip := by omega
            have hstart : (frameIndexForUs ptsUs + skip - m.originFrame).toNat = 0 := by omega
            rw [if_neg hdrop, List.length_take, Nat.min_eq_left (by omega), hlate, hstart]
            exact ⟨rfl, rfl⟩
    · next hoffset =>
        obtain rfl : skip = 0 := by omega
        have hdrop : frames.drop 0 ≠ [] := by
          rw [List.drop_zero]
          exact List.ne_nil_of_length_pos (by omega)
        rw [if_neg hdrop]
        simp

theorem Mixed.submit {trackCount : Nat} {origin : Int} {r : Run} (h : Mixed trackCount origin r)
    (track : Nat) (ptsUs : Int) (frames : List Frame) :
    Mixed trackCount origin (r.step (.submit track ptsUs frames)) := by
  have hkept := submit_kept r.mixer track ptsUs frames
  by_cases ht : track < r.mixer.tracks.length
  · have harrivals : (Call.submit track ptsUs frames).arrivals r.mixer.tracks.length =
        place track (frameIndexForUs ptsUs) frames := if_pos ht
    obtain ⟨hlate, haccum⟩ := submit_spec ht ptsUs frames rfl
    have horigin := h.originFrame
    constructor
    · exact hkept.2.trans h.tracks
    · dsimp only [Run.step, Run.arrive, Run.output]
      rw [harrivals, filter_place_ge, haccum]
      split
      · next hnil =>
          rw [hnil, place, List.append_nil]
          exact h.holds
      · next hne =>
          have hbuffer := h.holds.addAt silence track (r.output.length + (frameIndexForUs ptsUs +
            (r.mixer.originFrame - frameIndexForUs ptsUs).toNat - r.mixer.originFrame).toNat) hne
          have hposition : origin + ((r.output.length + (frameIndexForUs ptsUs +
              (r.mixer.originFrame - frameIndexForUs ptsUs).toNat -
                r.mixer.originFrame).toNat : Nat) : Int) =
                frameIndexForUs ptsUs + (r.mixer.originFrame - frameIndexForUs ptsUs).toNat := by
            omega
          rw [addAt_append, hposition] at hbuffer
          exact hbuffer
    · exact hkept.1.trans h.originFrame
    · dsimp only [Run.step, Run.arrive]
      rw [harrivals, filter_place_lt, List.length_append, length_place, hlate, h.late]
    · intro x hx
      rcases List.mem_append.mp hx with hx | hx
      · exact h.behind x hx
      · have hbehind := of_decide_eq_true (List.mem_filter.mp hx).2
        omega
    · exact h.blocks
  · have hnone : (Call.submit track ptsUs frames).arrivals r.mixer.tracks.length = [] := if_neg ht
    have hsame : r.step (.submit track ptsUs frames) = r := by
      dsimp only [Run.step, Run.arrive]
      rw [hnone, List.filter_nil, List.filter_nil, List.append_nil, List.append_nil,
        submit_ignored (Nat.le_of_not_lt ht)]
    rw [hsame]
    exact h

/-! ## Blocks handed out -/

theorem Mixed.takeFrames {trackCount : Nat} {origin : Int} {r : Run} (h : Mixed trackCount origin r)
    {frames : Nat} (hframes : frames ≤ r.mixer.accum.length) :
    Mixed trackCount origin (r.handOut (r.mixer.takeFrames frames)) := by
  have horigin := h.originFrame
  unfold EditAudioMixer.takeFrames
  split
  · have hsame : r.handOut (r.mixer, none) = r := by
      dsimp only [Run.handOut, Option.toList]
      rw [List.append_nil]
    rw [hsame]
    exact h
  · next hpos =>
    have hlen : (r.mixer.accum.take frames).length = frames := by
      rw [List.length_take, Nat.min_eq_left hframes]
    have houtput : (r.blocks ++ [(⟨usForFrameIndex r.mixer.originFrame, frames.toUInt32,
        r.mixer.accum.take frames⟩ : MixedBlock)]).flatMap (·.interleavedStereo) =
          r.output ++ r.mixer.accum.take frames := by
      rw [List.flatMap_append, List.flatMap_singleton]
      rfl
    constructor
    · exact h.tracks
    · dsimp only [Run.handOut, Run.output, Option.toList]
      rw [houtput, List.append_assoc, List.take_append_drop]
      exact h.holds
    · dsimp only [Run.handOut, Run.output, Option.toList]
      rw [houtput, List.length_append, hlen]
      omega
    · exact h.late
    · exact h.behind
    · dsimp only [Run.handOut, Option.toList]
      refine (contiguous_concat origin r.blocks _).mpr ⟨h.blocks, ?_, ?_, ?_, trivial⟩
      · exact congrArg usForFrameIndex horigin
      · dsimp only
        rw [hlen]
      · exact List.ne_nil_of_length_pos (by rw [hlen]; omega)

theorem Mixed.take {trackCount : Nat} {origin : Int} {r : Run} (h : Mixed trackCount origin r) :
    Mixed trackCount origin (r.step .take) := by
  have harrive : r.arrive [] = r := by
    dsimp only [Run.arrive]
    rw [List.filter_nil, List.filter_nil, List.append_nil, List.append_nil]
  have hstep : r.step .take = r.handOut r.mixer.take := by
    dsimp only [Run.step, Call.arrivals]
    rw [harrive]
  have hnone : Mixed trackCount origin (r.handOut (r.mixer, none)) :=
    h.takeFrames (Nat.zero_le _)
  rw [hstep]
  unfold EditAudioMixer.take
  split
  · exact hnone
  · split
    · exact hnone
    · refine h.takeFrames ?_
      have hbarrier : r.mixer.barrier ≤ r.mixer.accumEnd := Int.min_le_right _ _
      have hend : r.mixer.accumEnd = r.mixer.originFrame + r.mixer.accum.length := rfl
      omega

theorem Mixed.takeRemainder {trackCount : Nat} {origin : Int} {r : Run}
    (h : Mixed trackCount origin r) :
    Mixed trackCount origin (r.handOut r.mixer.takeRemainder) ∧
      (r.handOut r.mixer.takeRemainder).mixer.accum = [] := by
  unfold EditAudioMixer.takeRemainder
  split
  · next hnil => exact ⟨h.takeFrames (Nat.zero_le _), hnil⟩
  · next hne =>
    refine ⟨h.takeFrames (Nat.le_refl _), ?_⟩
    have hlen : r.mixer.accum.length ≠ 0 := by simpa using hne
    unfold EditAudioMixer.takeFrames
    rw [if_neg hlen]
    exact List.drop_length

theorem Mixed.run (trackCount : Nat) (startUs : Int) (calls : List Call) :
    Mixed trackCount (frameIndexForUs startUs) (run trackCount startUs calls) := by
  refine StepRun.foldl_invariant (I := Mixed trackCount (frameIndexForUs startUs)) ?_ calls ?_
  · rintro r (⟨track, ptsUs, frames⟩ | _) h
    · exact h.submit track ptsUs frames
    · exact h.take
  · exact
      { tracks := List.length_replicate
        holds := Holds.empty silence _
        originFrame := (Int.add_zero _).symm
        late := rfl
        behind := nofun
        blocks := trivial }

/-! ## Everything that arrived -/

/-- The frames of all calls, in order. -/
def submitted (trackCount : Nat) (calls : List Call) : List (Placed Frame) :=
  calls.flatMap (Call.arrivals trackCount)

theorem arrive_perm (r : Run) (arrivals : List (Placed Frame)) :
    ((r.arrive arrivals).onTime ++ (r.arrive arrivals).late).Perm
      (r.onTime ++ r.late ++ arrivals) := by
  have hsplit : (arrivals.filter fun x => decide (x.position < r.mixer.originFrame)) =
      arrivals.filter fun x => !decide (r.mixer.originFrame ≤ x.position) := by
    congr 1
    funext x
    have hiff : x.position < r.mixer.originFrame ↔ ¬ r.mixer.originFrame ≤ x.position := by omega
    simp only [hiff, decide_not]
  have hfilter := List.filter_append_perm (fun x => decide (r.mixer.originFrame ≤ x.position)) arrivals
  dsimp only [Run.arrive]
  rw [hsplit]
  refine List.Perm.trans ?_ (hfilter.append_left (r.onTime ++ r.late))
  rw [List.append_assoc, List.append_assoc]
  exact (List.perm_append_comm_assoc _ _ _).append_left r.onTime

theorem step_arrive (r : Run) (c : Call) :
    (r.step c).onTime = (r.arrive (c.arrivals r.mixer.tracks.length)).onTime ∧
      (r.step c).late = (r.arrive (c.arrivals r.mixer.tracks.length)).late := by
  cases c <;> exact ⟨rfl, rfl⟩

theorem run_concat (trackCount : Nat) (startUs : Int) (calls : List Call) (c : Call) :
    run trackCount startUs (calls ++ [c]) = (run trackCount startUs calls).step c :=
  List.foldl_concat ..

/-- Each frame that was submitted is on time or late. -/
theorem run_perm (trackCount : Nat) (startUs : Int) (calls : List Call) :
    ((run trackCount startUs calls).onTime ++ (run trackCount startUs calls).late).Perm
      (submitted trackCount calls) := by
  induction calls using List.reverseRecOn with
  | nil => exact List.Perm.refl _
  | append_singleton calls c ih =>
    have htracks := (Mixed.run trackCount startUs calls).tracks
    obtain ⟨honTime, hlate⟩ := step_arrive (run trackCount startUs calls) c
    rw [run_concat, honTime, hlate, htracks, submitted, List.flatMap_append, List.flatMap_singleton]
    exact (arrive_perm _ _).trans (ih.append_right _)

/-- Without late frames they are on time in the order of their submission. -/
theorem run_onTime {trackCount : Nat} {startUs : Int} {calls : List Call}
    (h : (run trackCount startUs calls).late = []) :
    (run trackCount startUs calls).onTime = submitted trackCount calls := by
  induction calls using List.reverseRecOn with
  | nil => rfl
  | append_singleton calls c ih =>
    have htracks := (Mixed.run trackCount startUs calls).tracks
    obtain ⟨honTime, hlate⟩ := step_arrive (run trackCount startUs calls) c
    rw [run_concat, hlate, htracks] at h
    obtain ⟨hbefore, hnow⟩ := List.append_eq_nil_iff.mp h
    have hall : (c.arrivals trackCount).filter (fun x =>
        decide ((run trackCount startUs calls).mixer.originFrame ≤ x.position)) =
          c.arrivals trackCount := by
      refine List.filter_eq_self.mpr fun x hx => ?_
      have hx := List.filter_eq_nil_iff.mp hnow x hx
      simp only [decide_eq_true_eq] at hx ⊢
      omega
    rw [run_concat, honTime, htracks, submitted, List.flatMap_append, List.flatMap_singleton]
    dsimp only [Run.arrive]
    rw [hall, ih hbefore]
    rfl

/-! ## Two orders of the same blocks -/

def Call.onTrack (track : Nat) : Call → Bool
  | .submit t _ _ => t == track
  | .take => false

/-- The same blocks, each track's in the same order. -/
def SameBlocks (calls calls' : List Call) : Prop :=
  ∀ track, calls.filter (Call.onTrack track) = calls'.filter (Call.onTrack track)

theorem filter_submitted (trackCount track : Nat) (calls : List Call) :
    (submitted trackCount calls).filter (fun x => x.source = track) =
      submitted trackCount (calls.filter (Call.onTrack track)) := by
  induction calls with
  | nil => rfl
  | cons c calls ih =>
    have hcons : submitted trackCount (c :: calls) =
        c.arrivals trackCount ++ submitted trackCount calls := List.flatMap_cons
    rw [hcons, List.filter_append, ih]
    cases c with
    | take => rfl
    | submit t ptsUs frames =>
      have hsource : ∀ x ∈ (Call.submit t ptsUs frames).arrivals trackCount, x.source = t := by
        intro x hx
        dsimp only [Call.arrivals] at hx
        split at hx
        · exact (mem_place hx).1
        · cases hx
      by_cases ht : t = track
      · subst ht
        have hself := List.filter_eq_self.mpr fun x hx => decide_eq_true (hsource x hx)
        rw [List.filter_cons_of_pos (by simp [Call.onTrack]), submitted, submitted,
          List.flatMap_cons, hself]
      · have hnone : ((Call.submit t ptsUs frames).arrivals trackCount).filter
            (fun x => x.source = track) = [] := by
          refine List.filter_eq_nil_iff.mpr fun x hx => ?_
          rw [hsource x hx]
          simpa using ht
        rw [List.filter_cons_of_neg (by simpa [Call.onTrack] using ht), hnone, List.nil_append]

theorem SameBlocks.interleaved {calls calls' : List Call} (h : SameBlocks calls calls')
    (trackCount : Nat) :
    Interleaved (submitted trackCount calls) (submitted trackCount calls') := by
  intro track
  rw [filter_submitted, filter_submitted, h track]

/-! ## The whole run -/

theorem finish_mixed (trackCount : Nat) (startUs : Int) (calls : List Call) :
    Mixed trackCount (frameIndexForUs startUs) (finish trackCount startUs calls) ∧
      Holds silence (frameIndexForUs startUs) (finish trackCount startUs calls).output
        (finish trackCount startUs calls).onTime := by
  obtain ⟨hmixed, hempty⟩ := (Mixed.run trackCount startUs calls).takeRemainder
  have hholds := hmixed.holds
  rw [hempty, List.append_nil] at hholds
  exact ⟨hmixed, hholds⟩

theorem silence_swap (a b : Frame) : silence + a + b = silence + b + a :=
  Prod.ext (Float32Sum.zero_add_right_comm a.1 b.1) (Float32Sum.zero_add_right_comm a.2 b.2)

/-- Each frame of an announced track is mixed once, at its own index, or counted once as late;
    the blocks continue each other; and two orders of the same blocks without late frames give
    outputs of one length that sum the same frames, and are the same frame wherever at most two
    frames, or those of one track, are summed. -/
theorem frames_mixed_at_their_index (trackCount : Nat) (startUs : Int) (calls : List Call) :
    let origin := frameIndexForUs startUs
    let r := finish trackCount startUs calls
    (r.onTime ++ r.late).Perm (submitted trackCount calls) ∧
      r.mixer.lateFramesDropped = r.late.length ∧
      (∀ x ∈ r.onTime, origin ≤ x.position ∧ x.position < origin + r.output.length) ∧
      (∀ i : Nat, ∀ h : i < r.output.length, r.output[i] = sumAt silence r.onTime (origin + i)) ∧
      Contiguous origin r.blocks ∧
      ∀ calls', SameBlocks calls calls' → r.late = [] →
        (finish trackCount startUs calls').late = [] →
          r.output.length = (finish trackCount startUs calls').output.length ∧
          Interleaved r.onTime (finish trackCount startUs calls').onTime ∧
          ∀ i : Nat, OrderFree (valuesAt (origin + i) r.onTime) →
            r.output[i]? = (finish trackCount startUs calls').output[i]? := by
  intro origin r
  obtain ⟨hmixed, hholds⟩ := finish_mixed trackCount startUs calls
  refine ⟨run_perm trackCount startUs calls, hmixed.late, fun x hx => ⟨hmixed.behind x hx, ?_⟩,
    fun i hi => ?_, hmixed.blocks, fun calls' hsame hlate hlate' => ?_⟩
  · rw [hholds.extent_eq]
    exact (extent_ge origin r.onTime).2 x hx
  · rw [← hholds.sums i]
    exact (List.getD_eq_getElem _ _ hi).symm
  · obtain ⟨-, hholds'⟩ := finish_mixed trackCount startUs calls'
    have horder : Interleaved r.onTime (finish trackCount startUs calls').onTime := by
      have h := hsame.interleaved trackCount
      rwa [← run_onTime hlate, ← run_onTime hlate'] at h
    have hlen : r.output.length = (finish trackCount startUs calls').output.length :=
      hholds.length_eq silence hholds' horder.perm
    refine ⟨hlen, horder, fun i hfree => ?_⟩
    have heq := sumAt_eq_of_interleaved silence_swap horder (origin + i) hfree
    rw [← hholds.sums i, ← hholds'.sums i] at heq
    by_cases hi : i < r.output.length
    · rw [List.getElem?_eq_getElem hi, List.getElem?_eq_getElem (hlen ▸ hi)]
      rwa [List.getD_eq_getElem _ _ hi, List.getD_eq_getElem _ _ (hlen ▸ hi), ← Option.some_inj] at heq
    · rw [List.getElem?_eq_none (Nat.le_of_not_lt hi), List.getElem?_eq_none (by omega)]

/-! ## Three tracks -/

/-- One frame per track: 1, and twice the half of its last place. -/
def roundedCalls : List Call :=
  [.submit 0 0 [(Float32.ofBits 0x3F800000, 0)], .submit 1 0 [(Float32.ofBits 0x33800000, 0)],
    .submit 2 0 [(Float32.ofBits 0x33800000, 0)]]

/-- The same blocks, the first track's last. -/
def exactCalls : List Call :=
  [.submit 1 0 [(Float32.ofBits 0x33800000, 0)], .submit 2 0 [(Float32.ofBits 0x33800000, 0)],
    .submit 0 0 [(Float32.ofBits 0x3F800000, 0)]]

theorem three_tracks_round_differently :
    SameBlocks roundedCalls exactCalls ∧ (finish 3 0 roundedCalls).late = [] ∧
      (finish 3 0 exactCalls).late = [] ∧
      (finish 3 0 roundedCalls).output = [(Float32.ofBits 0x3F800000, 0)] ∧
      (finish 3 0 exactCalls).output = [(Float32.ofBits 0x3F800001, 0)] := by
  refine ⟨fun track => ?_, by decide, by decide, by decide,
    by decide⟩
  match track with
  | 0 => rfl
  | 1 => rfl
  | 2 => rfl
  | _ + 3 => rfl

end EditAudioMixer

end Exosnap.Engine
