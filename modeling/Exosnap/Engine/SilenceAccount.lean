/-
  The account of the silence that a stall is filled with (`audio_silence_fill.h`,
  `emitSilenceForElapsed` of `audio_thread.cpp`), in the 64 bits of the source.

  A call makes frames of the time since the last accounted nanosecond, and takes them back into whole
  nanoseconds. What the second rounding leaves behind is counted again by the next call: the frames
  of a stall are bounded by its length and that remainder, less than a nanosecond for each call that
  filled (`silence_of_stall`). A call that its own bound cut leaves the rest to the calls behind it.
-/
import Exosnap.Engine.AudioThread
import Mathlib.Algebra.GroupWithZero.Nat

namespace Exosnap.Engine.Silence

/-- `kMaxFillPerIter` -/
def kMaxFill : UInt64 := 48000 * 5

def SilenceFillFrames (nowNs lastAccountedNs : UInt64) (sampleRate : UInt32) (maxFrames : UInt64) :
    UInt64 :=
  if sampleRate = 0 ∨ nowNs ≤ lastAccountedNs then 0
  else
    let frames := (nowNs - lastAccountedNs) * sampleRate.toUInt64 / 1000000000
    if frames > maxFrames then maxFrames else frames

/-- `framesFilled` is what the calls of the stall injected. The last two fields are a history that no
    call reads: what the roundings left behind, in frames for a thousand million, and the calls that
    filled. -/
structure Account where
  lastAccountedQpcNs : UInt64
  framesFilled : Nat := 0
  rounded : Nat := 0
  fills : Nat := 0
  deriving DecidableEq

/-- One call, at a reading of the clock. -/
def Account.emit (sampleRate : UInt32) (a : Account) (now : UInt64) : Account :=
  let framesToFill := SilenceFillFrames now a.lastAccountedQpcNs sampleRate kMaxFill
  if framesToFill = 0 then a
  else
    let filledNs := framesToFill * 1000000000 / sampleRate.toUInt64
    { lastAccountedQpcNs := a.lastAccountedQpcNs + filledNs
      framesFilled := a.framesFilled + framesToFill.toNat
      rounded := a.rounded + framesToFill.toNat * 1000000000 % sampleRate.toNat
      fills := a.fills + 1 }

/-- The calls of a stall that starts at the time accounted for. -/
def stall (sampleRate : UInt32) (start : UInt64) (readings : List UInt64) : Account :=
  readings.foldl (Account.emit sampleRate) { lastAccountedQpcNs := start }

/-- The frames of so much time. -/
def framesOf (sampleRate : UInt32) (elapsedNs : Nat) : Nat :=
  elapsedNs * sampleRate.toNat / 1000000000

variable {sampleRate : UInt32} {a : Account} {start now : UInt64}

/-! ## One call -/

theorem silenceFillFrames_toNat {now last : UInt64} (hrate : sampleRate ≠ 0) (h : last < now) :
    (SilenceFillFrames now last sampleRate kMaxFill).toNat =
      min ((now.toNat - last.toNat) * sampleRate.toNat % 2 ^ 64 / 1000000000) 240000 := by
  have hsub : (now - last).toNat = now.toNat - last.toNat :=
    UInt64.toNat_sub_of_le _ _ (UInt64.le_of_lt h)
  have hframes : ((now - last) * sampleRate.toUInt64 / 1000000000).toNat =
      (now.toNat - last.toNat) * sampleRate.toNat % 2 ^ 64 / 1000000000 := by
    rw [UInt64.toNat_div, UInt64.toNat_mul, hsub, UInt32.toNat_toUInt64]
    rfl
  rw [SilenceFillFrames, if_neg (not_or.mpr ⟨hrate, UInt64.not_le.mpr h⟩)]
  have hmax : kMaxFill.toNat = 240000 := rfl
  dsimp only
  split_ifs with hcut
  · have hlt := UInt64.lt_iff_toNat_lt.mp hcut
    rw [hframes, hmax] at hlt
    rw [hmax, Nat.min_eq_right (Nat.le_of_lt hlt)]
  · have hle := UInt64.le_iff_toNat_le.mp (UInt64.not_lt.mp hcut)
    rw [hframes, hmax] at hle
    rw [hframes, Nat.min_eq_left hle]

theorem rate_and_time_of_fills {now last : UInt64}
    (h : SilenceFillFrames now last sampleRate kMaxFill ≠ 0) : sampleRate ≠ 0 ∧ last < now := by
  by_contra hnone
  refine h (if_pos ?_)
  rwa [not_and_or, not_not, UInt64.not_lt] at hnone

/-- What a call that fills leaves: so many frames, no more than the time holds, and the nanoseconds
    they cover. -/
structure Filled (sampleRate : UInt32) (a : Account) (now : UInt64) (frames : Nat) (a' : Account) :
    Prop where
  rate : 0 < sampleRate.toNat
  later : a.lastAccountedQpcNs.toNat < now.toNat
  some : 0 < frames
  fits : frames * 1000000000 ≤ (now.toNat - a.lastAccountedQpcNs.toNat) * sampleRate.toNat
  accounted : a'.lastAccountedQpcNs.toNat =
    a.lastAccountedQpcNs.toNat + frames * 1000000000 / sampleRate.toNat
  framesFilled : a'.framesFilled = a.framesFilled + frames
  rounded : a'.rounded = a.rounded + frames * 1000000000 % sampleRate.toNat
  fills : a'.fills = a.fills + 1

theorem Filled.accounted_le {frames : Nat} {a' : Account}
    (h : Filled sampleRate a now frames a') : a'.lastAccountedQpcNs.toNat ≤ now.toNat := by
  have hcovered : frames * 1000000000 / sampleRate.toNat ≤ now.toNat - a.lastAccountedQpcNs.toNat :=
    Nat.div_le_of_le_mul (by rw [Nat.mul_comm _ (now.toNat - _)]; exact h.fits)
  have hlater := h.later
  rw [h.accounted]
  omega

/-- Either the clock is not far enough on, or the call fills. -/
theorem emit_spec (sampleRate : UInt32) (a : Account) (now : UInt64) :
    (SilenceFillFrames now a.lastAccountedQpcNs sampleRate kMaxFill = 0 ∧
        a.emit sampleRate now = a) ∨
      Filled sampleRate a now
        (SilenceFillFrames now a.lastAccountedQpcNs sampleRate kMaxFill).toNat
        (a.emit sampleRate now) := by
  by_cases hzero : SilenceFillFrames now a.lastAccountedQpcNs sampleRate kMaxFill = 0
  · exact .inl ⟨hzero, if_pos hzero⟩
  obtain ⟨hrate, hlater⟩ := rate_and_time_of_fills hzero
  have hfill := silenceFillFrames_toNat hrate hlater
  have hle : (SilenceFillFrames now a.lastAccountedQpcNs sampleRate kMaxFill).toNat ≤ 240000 :=
    hfill ▸ Nat.min_le_right _ _
  have hpos : 0 < sampleRate.toNat := Nat.pos_of_ne_zero fun h0 => hrate (UInt32.toNat_inj.mp h0)
  have hsome : 0 < (SilenceFillFrames now a.lastAccountedQpcNs sampleRate kMaxFill).toNat :=
    Nat.pos_of_ne_zero fun h0 => hzero (UInt64.toNat_inj.mp h0)
  have hfits : (SilenceFillFrames now a.lastAccountedQpcNs sampleRate kMaxFill).toNat * 1000000000 ≤
      (now.toNat - a.lastAccountedQpcNs.toNat) * sampleRate.toNat := by
    rw [hfill]
    calc _ ≤ (now.toNat - a.lastAccountedQpcNs.toNat) * sampleRate.toNat % 2 ^ 64 / 1000000000 *
          1000000000 := Nat.mul_le_mul_right _ (Nat.min_le_left _ _)
      _ ≤ (now.toNat - a.lastAccountedQpcNs.toNat) * sampleRate.toNat % 2 ^ 64 :=
          Nat.div_mul_le_self _ _
      _ ≤ _ := Nat.mod_le _ _
  rw [Account.emit, if_neg hzero]
  generalize SilenceFillFrames now a.lastAccountedQpcNs sampleRate kMaxFill = frames at *
  refine .inr ⟨hpos, UInt64.lt_iff_toNat_lt.mp hlater, hsome, hfits, ?_, rfl, rfl, rfl⟩
  have hns : (frames * 1000000000 / sampleRate.toUInt64).toNat =
      frames.toNat * 1000000000 / sampleRate.toNat := by
    have hprod : frames.toNat * 1000000000 < 2 ^ 64 := by omega
    rw [UInt64.toNat_div, UInt64.toNat_mul, UInt32.toNat_toUInt64]
    exact congrArg (· / sampleRate.toNat) (Nat.mod_eq_of_lt hprod)
  have hcovered : frames.toNat * 1000000000 / sampleRate.toNat ≤
      now.toNat - a.lastAccountedQpcNs.toNat :=
    Nat.div_le_of_le_mul (by rw [Nat.mul_comm _ (now.toNat - _)]; exact hfits)
  have hnow := now.toNat_lt
  have hlast := UInt64.lt_iff_toNat_lt.mp hlater
  rw [UInt64.toNat_add, hns]
  exact Nat.mod_eq_of_lt (by omega)

/-- As long as the product fits, these are the frames of the loop's model. -/
theorem silenceFillFrames_eq {now last : UInt64}
    (hfits : (now.toNat - last.toNat) * sampleRate.toNat < 2 ^ 64) :
    silenceFillFrames now.toNat last.toNat sampleRate.toNat kMaxFillPerIter =
      (SilenceFillFrames now last sampleRate kMaxFill).toNat := by
  by_cases hnone : sampleRate = 0 ∨ now ≤ last
  · have hnat : sampleRate.toNat = 0 ∨ now.toNat ≤ last.toNat :=
      hnone.imp (congrArg UInt32.toNat) UInt64.le_iff_toNat_le.mp
    rw [silenceFillFrames, if_pos hnat, SilenceFillFrames, if_pos hnone]
    rfl
  · have hnat : ¬ (sampleRate.toNat = 0 ∨ now.toNat ≤ last.toNat) :=
      mt (Or.imp (fun h => UInt32.toNat_inj.mp h) UInt64.le_iff_toNat_le.mpr) hnone
    rw [not_or, UInt64.not_le] at hnone
    rw [silenceFillFrames, if_neg hnat, silenceFillFrames_toNat hnone.1 hnone.2,
      Nat.mod_eq_of_lt hfits]
    rfl

/-- The account is the loop's: a call moves both alike. -/
theorem emitSilenceForElapsed_account {σ κ δ α β : Type*} (p : Parts σ κ δ α β)
    {t : AudioThread σ κ δ β} (routed : Bool)
    (hrate : t.outputFormat.targetRate = sampleRate.toNat)
    (hlast : t.lastAccountedQpcNs = a.lastAccountedQpcNs.toNat)
    (hfits : (now.toNat - a.lastAccountedQpcNs.toNat) * sampleRate.toNat < 2 ^ 64) :
    (t.emitSilenceForElapsed p now.toNat routed).lastAccountedQpcNs =
        (a.emit sampleRate now).lastAccountedQpcNs.toNat ∧
      (t.emitSilenceForElapsed p now.toNat routed).silenceFilledFramesSincePacket + a.framesFilled =
        t.silenceFilledFramesSincePacket + (a.emit sampleRate now).framesFilled := by
  have hframes := silenceFillFrames_eq hfits
  rw [AudioThread.emitSilenceForElapsed, hrate, hlast, hframes]
  rcases emit_spec sampleRate a now with ⟨hzero, heq⟩ | hfilled
  · have hnone : (SilenceFillFrames now a.lastAccountedQpcNs sampleRate kMaxFill).toNat = 0 :=
      congrArg UInt64.toNat hzero
    rw [heq, if_pos hnone]
    exact ⟨hlast, rfl⟩
  · rw [if_neg (Nat.pos_iff_ne_zero.mp hfilled.some), hfilled.accounted, hfilled.framesFilled]
    rw [← Nat.add_assoc, Nat.add_right_comm]
    cases routed <;> exact ⟨rfl, rfl⟩

/-! ## A stall -/

/-- The frames cover the accounted time and what the roundings left behind. -/
structure Accounted (sampleRate : UInt32) (start : UInt64) (a : Account) : Prop where
  start_le : start.toNat ≤ a.lastAccountedQpcNs.toNat
  frames : a.framesFilled * 1000000000 =
    (a.lastAccountedQpcNs.toNat - start.toNat) * sampleRate.toNat + a.rounded
  rounded_le : a.rounded ≤ a.fills * (sampleRate.toNat - 1)

theorem accounted_emit (h : Accounted sampleRate start a) (now : UInt64) :
    Accounted sampleRate start (a.emit sampleRate now) := by
  rcases emit_spec sampleRate a now with ⟨-, heq⟩ | hfilled
  · rwa [heq]
  revert hfilled
  generalize a.emit sampleRate now = a'
  generalize (SilenceFillFrames now a.lastAccountedQpcNs sampleRate kMaxFill).toNat = frames
  intro hfilled
  have hmod := Nat.mod_lt (frames * 1000000000) hfilled.rate
  have hdiv := Nat.div_add_mod (frames * 1000000000) sampleRate.toNat
  refine ⟨?_, ?_, ?_⟩
  · rw [hfilled.accounted]
    exact Nat.le_trans h.start_le (Nat.le_add_right _ _)
  · rw [hfilled.framesFilled, hfilled.accounted, hfilled.rounded, Nat.add_mul, h.frames,
      Nat.sub_add_comm h.start_le, Nat.add_mul, Nat.mul_comm (_ / _)]
    omega
  · rw [hfilled.rounded, hfilled.fills, Nat.succ_mul]
    have hle := h.rounded_le
    omega

theorem accounted_stall (sampleRate : UInt32) (start : UInt64) (readings : List UInt64) :
    Accounted sampleRate start (stall sampleRate start readings) := by
  rw [stall]
  have hinit : Accounted sampleRate start { lastAccountedQpcNs := start } :=
    ⟨Nat.le_refl _, by simp, Nat.zero_le _⟩
  revert hinit
  generalize ({ lastAccountedQpcNs := start } : Account) = a
  intro h
  induction readings generalizing a with
  | nil => exact h
  | cons now readings ih => exact ih _ (accounted_emit h now)

/-- What is accounted for is not behind the latest reading. -/
theorem stall_accounted_le (hstart : start ≤ now) {readings : List UInt64}
    (hlatest : ∀ reading ∈ readings, reading ≤ now) :
    (stall sampleRate start readings).lastAccountedQpcNs ≤ now := by
  rw [stall]
  have hinit : ({ lastAccountedQpcNs := start } : Account).lastAccountedQpcNs ≤ now := hstart
  revert hinit
  generalize ({ lastAccountedQpcNs := start } : Account) = a
  intro h
  induction readings generalizing a with
  | nil => exact h
  | cons reading readings ih =>
      refine ih (fun r hr => hlatest r (List.mem_cons_of_mem _ hr)) _ ?_
      rcases emit_spec sampleRate a reading with ⟨-, heq⟩ | hfilled
      · rwa [heq]
      · have hle := UInt64.le_iff_toNat_le.mp (hlatest reading List.mem_cons_self)
        exact UInt64.le_iff_toNat_le.mpr (Nat.le_trans hfilled.accounted_le hle)

/-- At a reading behind what is accounted for, the frames are those of the elapsed time and of what
    was left behind, at most. -/
theorem emit_framesFilled_le (h : Accounted sampleRate start a)
    (hlater : a.lastAccountedQpcNs.toNat ≤ now.toNat) :
    (a.emit sampleRate now).framesFilled ≤
      ((now.toNat - start.toNat) * sampleRate.toNat + a.rounded) / 1000000000 := by
  have hsplit : now.toNat - start.toNat = (a.lastAccountedQpcNs.toNat - start.toNat) +
      (now.toNat - a.lastAccountedQpcNs.toNat) := by
    have hstart := h.start_le
    omega
  rw [Nat.le_div_iff_mul_le (by decide), hsplit, Nat.add_mul]
  have hframes := h.frames
  rcases emit_spec sampleRate a now with ⟨-, heq⟩ | hfilled
  · rw [heq]
    omega
  · revert hfilled
    generalize (SilenceFillFrames now a.lastAccountedQpcNs sampleRate kMaxFill).toNat = frames
    intro hfilled
    rw [hfilled.framesFilled, Nat.add_mul, hframes, Nat.add_right_comm]
    exact Nat.add_le_add_right (Nat.add_le_add_left hfilled.fits _) _

/-- A call that its bound does not cut is level with the clock. -/
theorem framesOf_le_emit (h : Accounted sampleRate start a)
    (hfills : SilenceFillFrames now a.lastAccountedQpcNs sampleRate kMaxFill ≠ 0)
    (hbound : framesOf sampleRate (now.toNat - a.lastAccountedQpcNs.toNat) ≤ kMaxFill.toNat) :
    framesOf sampleRate (now.toNat - start.toNat) ≤ (a.emit sampleRate now).framesFilled := by
  obtain ⟨hrate, hlater⟩ := rate_and_time_of_fills hfills
  have hlast := UInt64.lt_iff_toNat_lt.mp hlater
  have hframes : (SilenceFillFrames now a.lastAccountedQpcNs sampleRate kMaxFill).toNat =
      framesOf sampleRate (now.toNat - a.lastAccountedQpcNs.toNat) := by
    have hmax : kMaxFill.toNat = 240000 := rfl
    rw [framesOf, hmax] at hbound
    have hfits : (now.toNat - a.lastAccountedQpcNs.toNat) * sampleRate.toNat < 2 ^ 64 := by omega
    rw [silenceFillFrames_toNat hrate hlater, Nat.mod_eq_of_lt hfits, Nat.min_eq_left hbound]
    rfl
  have hfilled : (a.emit sampleRate now).framesFilled =
      a.framesFilled + framesOf sampleRate (now.toNat - a.lastAccountedQpcNs.toNat) := by
    rw [Account.emit, if_neg hfills, hframes]
  have hsplit : now.toNat - start.toNat = (a.lastAccountedQpcNs.toNat - start.toNat) +
      (now.toNat - a.lastAccountedQpcNs.toNat) := by
    have hstart := h.start_le
    omega
  calc framesOf sampleRate (now.toNat - start.toNat)
      ≤ (a.framesFilled * 1000000000 +
          (now.toNat - a.lastAccountedQpcNs.toNat) * sampleRate.toNat) / 1000000000 := by
        refine Nat.div_le_div_right ?_
        rw [hsplit, Nat.add_mul, h.frames]
        omega
    _ = a.framesFilled + framesOf sampleRate (now.toNat - a.lastAccountedQpcNs.toNat) := by
        rw [Nat.add_comm, Nat.add_mul_div_right _ _ (by decide), Nat.add_comm]
        rfl
    _ = _ := hfilled.symm

end Exosnap.Engine.Silence
