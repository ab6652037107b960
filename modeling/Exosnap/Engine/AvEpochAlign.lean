/-
  `av_epoch_align.h`: the shift that puts an audio track on the video timeline, and the
  placement of an aligned packet on a segment's local timeline.

  Timestamps are the source's 64-bit words (`uint64_t` nanoseconds, `int64_t` shifts), so the
  casts of `ShiftAudioPts` are the source's casts; an overflow of the signed sum, which C++
  leaves undefined, wraps here. Two readings of a written timestamp follow: as 64-bit words
  for every input (`writtenTimestamp`), and as integers when the packet's PTS fits `int64_t`
  (`writtenTimestamp_toNat`).
-/
import Mathlib.Tactic.Common
import Mathlib.Algebra.Order.Ring.Int

namespace Exosnap.Engine

/-- Largest audio/video epoch difference treated as a real measurement: 5 s. -/
def kMaxAudioEpochShiftNs : Int64 := 5000000000

/-- Whether a measured audio epoch is a believable distance from the video epoch. -/
def isPlausibleAudioEpoch (audioEpoch100ns videoEpoch100ns : UInt64) : Bool :=
  if audioEpoch100ns = 0 then false
  else
    let shift := (audioEpoch100ns.toInt64 - videoEpoch100ns.toInt64) * 100
    decide (shift ≤ kMaxAudioEpochShiftNs) && decide (-kMaxAudioEpochShiftNs ≤ shift)

/-- Nanoseconds to add to an audio packet's session PTS, clamped to the plausible range. -/
def audioTimelineShiftNs (audioEpoch100ns videoEpoch100ns : UInt64) : Int64 :=
  let shift := (audioEpoch100ns.toInt64 - videoEpoch100ns.toInt64) * 100
  if kMaxAudioEpochShiftNs < shift then kMaxAudioEpochShiftNs
  else if shift < -kMaxAudioEpochShiftNs then -kMaxAudioEpochShiftNs
  else shift

/-- Apply a shift to a session PTS. `none` is the source's `false`: the packet falls before
    the video epoch and is dropped. -/
def shiftAudioPts (ptsNs : UInt64) (shiftNs : Int64) : Option UInt64 :=
  let shifted := ptsNs.toInt64 + shiftNs
  if shifted < 0 then none else some shifted.toUInt64

inductive SegmentPlacement where
  | write
  | defer
  | trim
  deriving DecidableEq, Repr

structure SegmentLocalPts where
  placement : SegmentPlacement
  localPtsNs : UInt64
  deriving DecidableEq, Repr

def placeOnSegmentTimeline (ptsNs : UInt64) (epochSet : Bool) (epochSessionPtsNs : UInt64) :
    SegmentLocalPts :=
  if !epochSet then ⟨.defer, 0⟩
  else if ptsNs < epochSessionPtsNs then ⟨.trim, 0⟩
  else ⟨.write, ptsNs - epochSessionPtsNs⟩

/-! ## The cast of a PTS to `int64_t` -/

theorem toInt_toInt64 {p : UInt64} (h : p.toNat < 2 ^ 63) : p.toInt64.toInt = p.toNat := by
  have hb : p.toInt64.toInt = p.toBitVec.toInt := rfl
  rw [hb, BitVec.toInt_eq_toNat_of_lt]
  · rfl
  · show 2 * p.toNat < 2 ^ 64
    omega

theorem toNat_toUInt64 {x : Int64} (h : 0 ≤ x.toInt) : (x.toUInt64.toNat : Int) = x.toInt := by
  have hx : x.toInt = x.toBitVec.toInt := rfl
  have hu : x.toUInt64.toNat = x.toBitVec.toNat := rfl
  rw [hx] at h ⊢
  rw [hu, BitVec.toInt_eq_toNat_cond] at *
  split at h
  · rename_i hlt
    rw [if_pos hlt]
  · have := x.toBitVec.isLt
    omega

/-! ## Shifting -/

/-- A shift that keeps the packet adds itself, in the timestamp type's own arithmetic. -/
theorem shiftAudioPts_eq_add {p q : UInt64} {s : Int64} (h : shiftAudioPts p s = some q) :
    q = p + s.toUInt64 := by
  unfold shiftAudioPts at h
  dsimp only at h
  split at h
  · cases h
  · cases h
    simp

/-- A kept packet lies in the non-negative half of `int64_t`. -/
theorem shiftAudioPts_lt {p q : UInt64} {s : Int64} (h : shiftAudioPts p s = some q) :
    q.toNat < 2 ^ 63 := by
  unfold shiftAudioPts at h
  dsimp only at h
  split at h
  · cases h
  · rename_i hneg
    cases h
    have h0 : 0 ≤ (p.toInt64 + s).toInt := by
      have := Int64.not_lt.mp hneg
      simpa [Int64.le_iff_toInt_le] using this
    have heq := toNat_toUInt64 h0
    have := Int64.toInt_lt (p.toInt64 + s)
    omega

/-- For a PTS that fits `int64_t` a kept packet is shifted by exactly the shift: the signed
    sum cannot have wrapped, because a wrapped sum is negative. -/
theorem shiftAudioPts_toNat {p q : UInt64} {s : Int64} (h : shiftAudioPts p s = some q)
    (hp : p.toNat < 2 ^ 63) : (q.toNat : Int) = p.toNat + s.toInt := by
  unfold shiftAudioPts at h
  dsimp only at h
  split at h
  · cases h
  · rename_i hneg
    cases h
    have h0 : 0 ≤ (p.toInt64 + s).toInt := by
      have := Int64.not_lt.mp hneg
      simpa [Int64.le_iff_toInt_le] using this
    rw [toNat_toUInt64 h0]
    rw [Int64.toInt_add, toInt_toInt64 hp] at h0 ⊢
    have hlo := Int64.le_toInt s
    have hhi := Int64.toInt_lt s
    rw [Int.bmod_def] at h0 ⊢
    split at h0 <;> rename_i hlt <;> simp only [hlt, if_true, if_false] <;> omega

/-- A zero shift changes nothing, on a PTS that fits `int64_t`. -/
theorem shiftAudioPts_zero {p : UInt64} (hp : p.toNat < 2 ^ 63) :
    shiftAudioPts p 0 = some p := by
  have h0 : ¬ p.toInt64 + 0 < 0 := by
    rw [Int64.lt_iff_toInt_lt, Int64.toInt_add, toInt_toInt64 hp, Int.bmod_def]
    simp only [Int64.toInt_zero]
    split <;> omega
  unfold shiftAudioPts
  dsimp only
  rw [if_neg h0]
  simp

/-- The clamp: a resolved shift never leaves the plausible range. -/
theorem audioTimelineShiftNs_clamped (a v : UInt64) :
    -kMaxAudioEpochShiftNs ≤ audioTimelineShiftNs a v ∧
      audioTimelineShiftNs a v ≤ kMaxAudioEpochShiftNs := by
  have hself : (-kMaxAudioEpochShiftNs : Int64) ≤ kMaxAudioEpochShiftNs := by decide
  unfold audioTimelineShiftNs
  dsimp only
  split
  · exact ⟨hself, Int64.le_refl _⟩
  · rename_i h1
    split
    · exact ⟨Int64.le_refl _, hself⟩
    · rename_i h2
      exact ⟨Int64.not_lt.mp h2, Int64.not_lt.mp h1⟩

/-- A plausible measurement is applied as it is: the clamp does not touch it. -/
theorem audioTimelineShiftNs_of_plausible {a v : UInt64} (h : isPlausibleAudioEpoch a v = true) :
    audioTimelineShiftNs a v = (a.toInt64 - v.toInt64) * 100 := by
  unfold isPlausibleAudioEpoch at h
  split at h
  · cases h
  · simp only [Bool.and_eq_true, decide_eq_true_eq] at h
    unfold audioTimelineShiftNs
    dsimp only
    rw [if_neg (Int64.not_lt.mpr h.1), if_neg (Int64.not_lt.mpr h.2)]

/-! ## Placing -/

@[simp] theorem place_unset (p e : UInt64) : placeOnSegmentTimeline p false e = ⟨.defer, 0⟩ := rfl

theorem place_set (p e : UInt64) :
    placeOnSegmentTimeline p true e =
      if p < e then ⟨.trim, 0⟩ else ⟨.write, p - e⟩ := by
  simp [placeOnSegmentTimeline]

/-- The epoch itself is written at 0. -/
theorem place_epoch (e : UInt64) : placeOnSegmentTimeline e true e = ⟨.write, 0⟩ := by
  rw [place_set, if_neg (by simp)]
  simp

/-! ## The timestamp a placed packet is written at -/

/-- Where the alignment puts a packet: its session PTS, shifted onto the video timeline,
    rebased to the segment and offset by the track's codec delay. -/
def writtenTimestamp (ptsNs : UInt64) (shiftNs : Int64) (epochNs delayNs : UInt64) : UInt64 :=
  ptsNs + shiftNs.toUInt64 - epochNs + delayNs

/-- A packet that is shifted once and written lands at `writtenTimestamp`. -/
theorem writtenTimestamp_of_placed {p q e d : UInt64} {s : Int64}
    (h : shiftAudioPts p s = some q) : q - e + d = writtenTimestamp p s e d := by
  rw [shiftAudioPts_eq_add h, writtenTimestamp]

/-- The same as integers: for a PTS that fits `int64_t` and a delay below `2^63`, no step of
    the rebasing wraps. -/
theorem writtenTimestamp_toNat {p q e d : UInt64} {s : Int64} (h : shiftAudioPts p s = some q)
    (he : ¬ q < e) (hd : d.toNat < 2 ^ 63) (hp : p.toNat < 2 ^ 63) :
    ((writtenTimestamp p s e d).toNat : Int) = p.toNat + s.toInt - e.toNat + d.toNat := by
  have hq := shiftAudioPts_lt h
  have hs := shiftAudioPts_toNat h hp
  have hle : e ≤ q := UInt64.not_lt.mp he
  have hle' : e.toNat ≤ q.toNat := UInt64.le_iff_toNat_le.mp hle
  rw [← writtenTimestamp_of_placed h, UInt64.toNat_add, UInt64.toNat_sub_of_le _ _ hle,
    Nat.mod_eq_of_lt (by omega)]
  omega

end Exosnap.Engine
