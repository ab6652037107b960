/-
  From binary32 to binary64 and back: every binary32 number is a binary64 number, so that widening
  it and narrowing the result gives the number again.

  A conversion unpacks, rounds to the other format and packs. A mantissa is widened by shifting it up
  and narrowed by shifting it down; the bits that go were put there by the widening, so that nothing
  is rounded away (`round_down`, `round_up`).
-/
import Exosnap.Lib.Float32Sum
import Mathlib.Algebra.Order.Ring.Int

namespace FloatWidening

open Float.Model Float.Model.UnpackedFloat

/-- The same value, rounded to a format. -/
def convert (spec : Format) : UnpackedFloat → UnpackedFloat
  | .finite s m e _ => UnpackedFloat.round spec s m e
  | f => f

def widen (f : Float32) : Float := .ofModel (.pack (convert .binary64 f.toModel.unpack))

def narrow (d : Float) : Float32 := .ofModel (.pack (convert .binary32 d.toModel.unpack))

/-! ## Exact rounding -/

section
variable {spec : Format} {m k : Nat} {e : Int}

theorem log2_mul_two_pow (hm : m ≠ 0) (k : Nat) : (m * 2 ^ k).log2 = m.log2 + k := by
  induction k with
  | zero => simp
  | succ k ih =>
    have hne : m * 2 ^ k ≠ 0 := Nat.mul_ne_zero hm (Nat.two_pow_pos k).ne'
    have hpow : m * 2 ^ (k + 1) = 2 * (m * 2 ^ k) := by
      rw [Nat.pow_succ, ← Nat.mul_assoc, Nat.mul_comm]
    rw [hpow, Nat.log2_two_mul hne, ih]
    omega

theorem totalExponent_mul_two_pow (hm : m ≠ 0) (k : Nat) (e : Int) :
    totalExponent (m * 2 ^ k) e = totalExponent m (e + k) := by
  unfold totalExponent
  rw [log2_mul_two_pow hm]
  omega

/-- Shifting down zeros that were shifted in leaves no residue. -/
theorem shiftRight_mul_two_pow (m k : Nat) :
    ExtendedMantissa.mk (m * 2 ^ k) false false >>> k = ExtendedMantissa.mk m false false := by
  induction k generalizing m with
  | zero => simp [HShiftRight.hShiftRight, Nat.repeat]
  | succ k ih =>
    have hpow : m * 2 ^ (k + 1) = 2 * m * 2 ^ k := by
      rw [Nat.pow_succ, ← Nat.mul_assoc, Nat.mul_comm, ← Nat.mul_assoc]
    have hstep : ExtendedMantissa.mk (m * 2 ^ (k + 1)) false false >>> (k + 1) =
        (ExtendedMantissa.mk (2 * m * 2 ^ k) false false >>> k).shiftRightOne := by
      rw [hpow]
      rfl
    rw [hstep, ih (2 * m)]
    simp [ExtendedMantissa.shiftRightOne]

theorem shiftToTargetExponent_exact (hm : m ≠ 0)
    (htarget : spec.targetExponent (totalExponent m (e + k)) = e + k) :
    shiftToTargetExponent spec (m * 2 ^ k) e .exact = (ExtendedMantissa.mk m false false, e + k) := by
  have hamount : (e + (k : Int) - e).toNat = k := by omega
  unfold shiftToTargetExponent
  rw [totalExponent_mul_two_pow hm, htarget]
  simp only [shiftToExponent, hamount, ExtendedMantissa.ofMantissaAndAccuracy,
    shiftRight_mul_two_pow]

theorem roundWithAccuracy_exact (s : Sign) (hm : 0 < m)
    (htarget : spec.targetExponent (totalExponent m (e + k)) = e + k) :
    roundWithAccuracy spec s (m * 2 ^ k) e .exact = .finite s m (e + k) hm := by
  have hagain : shiftToTargetExponent spec m (e + k) .exact =
      (ExtendedMantissa.mk m false false, e + k) := by
    have h : shiftToTargetExponent spec (m * 2 ^ 0) (e + k) .exact =
        (ExtendedMantissa.mk m false false, e + k + ((0 : Nat) : Int)) :=
      shiftToTargetExponent_exact hm.ne' (by simpa using htarget)
    simpa using h
  unfold roundWithAccuracy
  rw [shiftToTargetExponent_exact hm.ne' htarget]
  simp only [ExtendedMantissa.roundedMantissa, ExtendedMantissa.accuracy,
    Accuracy.roundToNearestEven, hagain]
  rw [dif_neg hm.ne']

/-- To a format with room for fewer bits, when the bits that go are zero. -/
theorem round_down (s : Sign) (hm : 0 < m)
    (htarget : spec.targetExponent (totalExponent m (e + k)) = e + k) :
    UnpackedFloat.round spec s (m * 2 ^ k) e = .finite s m (e + k) hm := by
  have hamount : (e - (e + (k : Int))).toNat = 0 := by omega
  unfold UnpackedFloat.round decreaseExponent
  rw [totalExponent_mul_two_pow hm.ne', htarget]
  simp only [hamount, Nat.shiftLeft_zero, Int.ofNat_zero, Int.sub_zero]
  exact roundWithAccuracy_exact s hm htarget

/-- To a format with room for more bits. -/
theorem round_up (s : Sign) (hm : 0 < m) (hm' : 0 < m * 2 ^ k)
    (htarget : spec.targetExponent (totalExponent m e) = e - k) :
    UnpackedFloat.round spec s m e = .finite s (m * 2 ^ k) (e - k) hm' := by
  have hamount : (e - (e - (k : Int))).toNat = k := by omega
  have hback : spec.targetExponent (totalExponent (m * 2 ^ k) (e - k + (0 : Nat))) =
      e - k + (0 : Nat) := by
    rw [totalExponent_mul_two_pow hm.ne']
    simpa using htarget
  have hexact := roundWithAccuracy_exact s hm' hback
  unfold UnpackedFloat.round decreaseExponent
  rw [htarget]
  simp only [hamount, Nat.shiftLeft_eq]
  simpa using hexact

end

/-! ## The two formats -/

theorem targetExponent_binary32 (m : Nat) (e : Int) :
    Format.binary32.targetExponent (totalExponent m e) = max (m.log2 + e - 23) (-149) := by
  simp [Format.targetExponent, totalExponent, Format.mantissaBits, Format.minExponent]
  omega

theorem targetExponent_binary64 (m : Nat) (e : Int) :
    Format.binary64.targetExponent (totalExponent m e) = max (m.log2 + e - 52) (-1074) := by
  simp [Format.targetExponent, totalExponent, Format.mantissaBits, Format.minExponent]
  omega

/-- The mantissa of a normal number, with the implicit bit in front. -/
theorem toNat_one_append {w : Nat} (x : BitVec w) : (1#1 ++ x).toNat = 2 ^ w + x.toNat := by
  have hor := Nat.two_pow_add_eq_or_of_lt x.isLt 1
  rw [Nat.mul_one] at hor
  rw [BitVec.toNat_append, hor, Nat.shiftLeft_eq]
  simp

/-- What unpacking a binary32 number gives is rounded to its format, and in range. -/
theorem unpack_finite {f : Float32.Model} {s : Sign} {m : Nat} {e : Int} {hm : 0 < m}
    (h : f.unpack = .finite s m e hm) :
    Format.binary32.targetExponent (totalExponent m e) = e ∧ m.log2 ≤ 23 ∧ -149 ≤ e ∧ e ≤ 104 := by
  have hexp : (@unpackExponent .binary32 f.toBits.toBitVec).toNat < 2 ^ 8 :=
    (@unpackExponent .binary32 f.toBits.toBitVec).isLt
  have hmant : (@unpackMantissa .binary32 f.toBits.toBitVec).toNat < 2 ^ 23 :=
    (@unpackMantissa .binary32 f.toBits.toBitVec).isLt
  rw [targetExponent_binary32]
  unfold Float32.Model.unpack UnpackedFloat.unpack at h
  dsimp only at h
  split at h
  · split at h <;> cases h
  · next hmax =>
    split at h
    · next hlow =>
      split at h
      · cases h
      · next hne =>
        -- subnormal
        injection h with hs hm he
        have hlog : m.log2 < 23 := (Nat.log2_lt (by omega)).mpr (hm ▸ hmant)
        rw [hlow] at he
        simp [Format.exponentBias] at he
        omega
    · next hlow =>
      -- normal
      injection h with hs hm he
      rw [toNat_one_append] at hm
      have hfull : 2 ^ 23 + (@unpackMantissa .binary32 f.toBits.toBitVec).toNat = m := hm
      have hlog : m.log2 = 23 := (Nat.log2_eq_iff (by omega)).mpr ⟨by omega, by omega⟩
      have hpos : (@unpackExponent .binary32 f.toBits.toBitVec).toNat ≠ 0 :=
        fun h0 => hlow (BitVec.eq_of_toNat_eq h0)
      have hbelow : (@unpackExponent .binary32 f.toBits.toBitVec).toNat ≠ 255 :=
        fun h255 => hmax (BitVec.eq_of_toNat_eq h255)
      simp [Format.exponentBias] at he
      omega

theorem ofBitVec_toBitVec (s : Sign) : Sign.ofBitVec s.toBitVec = s := by
  cases s <;> rfl

theorem unpackSign_packComponents {spec : Format} {sign exponent mantissa} :
    unpackSign (packComponents spec sign exponent mantissa) = sign.toBitVec := by
  ext i hi
  have hi0 : i = 0 := by omega
  subst hi0
  simp [unpackSign, packComponents, BitVec.getLsbD_append, BitVec.getElem_append]

/-- A normal binary64 number is read back as it was packed. -/
theorem unpack_pack_normal (s : Sign) {m : Nat} {e : Int} (hm : 0 < m) (hlog : m.log2 = 52)
    (hlo : -1074 ≤ e) (hhi : e ≤ 971) :
    (Float.Model.pack (.finite s m e hm)).unpack = .finite s m e hm := by
  have hbiased : (e + (Format.binary64.exponentBias : Nat) + (52 : Nat)).toNat = (e + 1075).toNat := by
    simp [Format.exponentBias]
    omega
  have hnormal : ¬ 2 ^ 11 ≤ (e + 1075).toNat + 1 := by omega
  have hbits : 52 + 1 = Format.binary64.mantissaBits := rfl
  obtain ⟨hmlo, hmhi⟩ := (Nat.log2_eq_iff hm.ne').mp hlog
  unfold Float.Model.unpack Float.Model.pack
  simp only [UnpackedFloat.pack]
  rw [hbiased, if_neg hnormal, hlog, if_pos hbits]
  have hexp : (BitVec.ofNat 11 (e + 1075).toNat).toNat = (e + 1075).toNat := by
    rw [BitVec.toNat_ofNat, Nat.mod_eq_of_lt (by omega)]
  have hmax : BitVec.ofNat 11 (e + 1075).toNat ≠ -1#11 := by
    intro h
    have := hexp ▸ congrArg BitVec.toNat h
    simp at this
    omega
  have hzero : BitVec.ofNat 11 (e + 1075).toNat ≠ 0#11 := by
    intro h
    have := hexp ▸ congrArg BitVec.toNat h
    simp at this
    omega
  have hmantissa : (1#1 ++ BitVec.ofNat 52 m).toNat = m := by
    rw [toNat_one_append, BitVec.toNat_ofNat]
    omega
  have hexponent : ((e + 1075).toNat : Int) - ((Format.binary64.exponentBias : Nat) + (52 : Nat)) = e := by
    simp [Format.exponentBias]
    omega
  simp only [UnpackedFloat.unpack, unpackExponent_packComponents, unpackMantissa_packComponents,
    unpackSign_packComponents, ofBitVec_toBitVec]
  rw [if_neg hmax, if_neg hzero]
  simp only [hmantissa, hexp, hexponent]

/-- On a number of its own format, rounding to it after rounding to the wider one changes nothing. -/
theorem convert_convert (f : Float32.Model) :
    convert .binary32 (Float.Model.pack (convert .binary64 f.unpack)).unpack = f.unpack := by
  cases hf : f.unpack with
  | notANumber => rfl
  | infinity s => cases s <;> rfl
  | zero s => cases s <;> rfl
  | finite s m e hm =>
    obtain ⟨htarget, hlog, hlo, hhi⟩ := unpack_finite hf
    obtain ⟨k, hk⟩ : ∃ k, m.log2 + k = 52 := ⟨52 - m.log2, by omega⟩
    have hm' : 0 < m * 2 ^ k := Nat.mul_pos hm (Nat.two_pow_pos k)
    have hwide : Format.binary64.targetExponent (totalExponent m e) = e - k := by
      rw [targetExponent_binary64]
      omega
    have hlog' : (m * 2 ^ k).log2 = 52 := by rw [log2_mul_two_pow hm.ne', hk]
    have hback : e - (k : Int) + k = e := by omega
    have hnarrow : Format.binary32.targetExponent (totalExponent m (e - k + k)) = e - k + k := by
      rw [hback, htarget]
    have hround : convert .binary64 (.finite s m e hm) = .finite s (m * 2 ^ k) (e - k) hm' :=
      round_up s hm hm' hwide
    have hdown : convert .binary32 (.finite s (m * 2 ^ k) (e - k) hm') =
        .finite s m (e - k + k) hm := round_down s hm hnarrow
    rw [hround, unpack_pack_normal s hm' hlog' (by omega) (by omega), hdown]
    simp only [hback]

/-- Narrowing undoes widening. -/
theorem narrow_widen (f : Float32) : narrow (widen f) = f := by
  unfold narrow widen
  rw [convert_convert, Float32Sum.ofModel_pack_unpack]

end FloatWidening
