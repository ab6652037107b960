/-
  Sums of binary32 numbers: addition commutes, and in a sum that starts at zero two terms may
  change places. A third term may not be moved across a rounding.

  `Float32` is the standard library's, whose logical model has signed zeros, infinities and one
  NaN. Zero is no left unit of it (`0 + (-0) = 0`), so that the second fact needs the numbers
  unpacked and packed again (`pack_unpack`).
-/
import Mathlib

namespace Float32Sum

open Float.Model Float.Model.UnpackedFloat

/-! ## Packing -/

theorem toBitVec_ofBitVec (v : BitVec 1) : (Sign.ofBitVec v).toBitVec = v := by
  revert v
  decide

theorem packComponents_unpack (b : BitVec Format.binary32.numBits) :
    packComponents Format.binary32 (Sign.ofBitVec (unpackSign b)) (unpackExponent b)
      (unpackMantissa b) = b := by
  rw [packComponents, toBitVec_ofBitVec]
  ext i hi
  simp only [unpackSign, unpackExponent, unpackMantissa, BitVec.getElem_append,
    BitVec.getElem_cast]
  split
  · simp [BitVec.getLsbD_eq_getElem hi]
  · split
    · have hpos : 23 + (i - 23) = i := by omega
      simp [hpos, BitVec.getLsbD_eq_getElem hi]
    · have hsign : i = 31 := by simp only at *; omega
      subst hsign
      simp [BitVec.getLsbD_eq_getElem hi]

/-- Packing undoes unpacking. -/
theorem pack_unpack {b : BitVec Format.binary32.numBits} (hb : Format.binary32.Valid b) :
    UnpackedFloat.pack Format.binary32 (UnpackedFloat.unpack Format.binary32 b) = b := by
  have hparts := packComponents_unpack b
  have hexp : (unpackExponent b).toNat < 2 ^ 8 := (unpackExponent b).isLt
  have hmant : (unpackMantissa b).toNat < 2 ^ 23 := (unpackMantissa b).isLt
  rw [UnpackedFloat.unpack]
  dsimp only
  split
  · next hmax =>
      split
      · next hzero =>
          rw [hmax, hzero] at hparts
          exact hparts
      · next hne => exact (hb.eq_packedNaN hmax hne).symm
  · next hmax =>
      split
      · next hlow =>
          split
          · next hzero =>
              rw [hlow, hzero] at hparts
              exact hparts
          · next hne =>
              -- subnormal
              have hlog : (unpackMantissa b).toNat.log2 < 23 :=
                (Nat.log2_lt (by simpa [← BitVec.toNat_inj] using hne)).mpr hmant
              have hmin : ¬ (unpackMantissa b).toNat.log2 + 1 = Format.binary32.mantissaBits :=
                Nat.ne_of_lt (Nat.succ_lt_succ hlog)
              rw [hlow] at hparts ⊢
              simp only [UnpackedFloat.pack]
              rw [if_neg (by decide), if_neg hmin, BitVec.ofNat_toNat, BitVec.setWidth_eq]
              exact hparts
      · next hlow =>
          -- normal, with the implicit bit in front of the mantissa
          have hfull : (1#1 ++ unpackMantissa b).toNat = 2 ^ 23 + (unpackMantissa b).toNat := by
            have hor := Nat.two_pow_add_eq_or_of_lt hmant 1
            rw [Nat.mul_one] at hor
            rw [BitVec.toNat_append, hor]
            rfl
          have hlog : (1#1 ++ unpackMantissa b).toNat.log2 = 23 :=
            (Nat.log2_eq_iff (by omega)).mpr ⟨by omega, by omega⟩
          have hbelow : (unpackExponent b).toNat ≠ 255 :=
            fun h => hmax (BitVec.eq_of_toNat_eq h)
          have hbiased : (((unpackExponent b).toNat : Int) -
              ((Format.binary32.exponentBias : Nat) + (23 : Nat)) +
              (Format.binary32.exponentBias : Nat) + (23 : Nat)).toNat =
                (unpackExponent b).toNat := by omega
          have hnormal : ¬ 2 ^ 8 ≤ (unpackExponent b).toNat + 1 := by omega
          have hbits : 23 + 1 = Format.binary32.mantissaBits := rfl
          have hmantissa :
              BitVec.ofNat 23 (1#1 ++ unpackMantissa b).toNat = unpackMantissa b := by
            apply BitVec.eq_of_toNat_eq
            rw [BitVec.toNat_ofNat, hfull, Nat.add_mod_left, Nat.mod_eq_of_lt hmant]
          simp only [UnpackedFloat.pack]
          rw [hbiased, if_neg hnormal, hlog, if_pos hbits, hmantissa, BitVec.ofNat_toNat,
            BitVec.setWidth_eq]
          exact hparts

theorem model_pack_unpack (f : Float32.Model) : Float32.Model.pack f.unpack = f := by
  obtain ⟨bits, hvalid⟩ := f
  have h := pack_unpack hvalid
  simp only [Float32.Model.pack, Float32.Model.unpack, h]

/-! ## Addition -/

theorem unpacked_add_comm (spec : Format) (x y : UnpackedFloat) :
    UnpackedFloat.add spec x y = UnpackedFloat.add spec y x := by
  cases x with
  | notANumber => cases y <;> rfl
  | infinity s =>
      cases y with
      | infinity s' => cases s <;> cases s' <;> rfl
      | _ => rfl
  | zero s =>
      cases y with
      | zero s' => cases s <;> cases s' <;> rfl
      | _ => rfl
  | finite s m e hm =>
      cases y with
      | finite s' m' e' hm' => simp only [UnpackedFloat.add, min_comm e e', Int.add_comm]
      | _ => rfl

theorem add_comm (a b : Float32) : a + b = b + a :=
  congrArg (fun x => Float32.ofModel (Float32.Model.pack x)) (unpacked_add_comm _ _ _)

theorem add_eq_pack (a b : Float32) :
    a + b = .ofModel (.pack (UnpackedFloat.add Format.binary32 a.toModel.unpack b.toModel.unpack)) :=
  rfl

theorem ofModel_pack_unpack (a : Float32) : .ofModel (.pack a.toModel.unpack) = a :=
  congrArg Float32.ofModel (model_pack_unpack a.toModel)

theorem zero_eq_ofBits : (0 : Float32) = Float32.ofBits 0 := by decide

theorem unpack_zero : (0 : Float32).toModel.unpack = .zero .positive := by
  have hbits : (Float32.ofBits 0).toModel.toBits = 0 := by decide
  rw [zero_eq_ofBits, Float32.Model.unpack, hbits]
  rfl

/-- Zero is a unit for every number but the negative zero. -/
theorem zero_add_of_ne {a : Float32} (ha : a.toModel.unpack ≠ .zero .negative) : 0 + a = a := by
  conv_rhs => rw [← ofModel_pack_unpack a]
  rw [add_eq_pack, unpack_zero]
  cases hu : a.toModel.unpack with
  | zero s =>
      cases s with
      | negative => exact absurd hu ha
      | positive => rfl
  | _ => rfl

theorem zero_add_negZero {a : Float32} (ha : a.toModel.unpack = .zero .negative) : 0 + a = 0 := by
  conv_rhs => rw [← ofModel_pack_unpack 0]
  rw [add_eq_pack, unpack_zero, ha]
  rfl

/-- Adding the negative zero changes no other number. -/
theorem add_negZero {a b : Float32} (ha : a.toModel.unpack ≠ .zero .negative)
    (hb : b.toModel.unpack = .zero .negative) : a + b = a := by
  conv_rhs => rw [← ofModel_pack_unpack a]
  rw [add_eq_pack, hb]
  cases hu : a.toModel.unpack with
  | zero s =>
      cases s with
      | negative => exact absurd hu ha
      | positive => rfl
  | _ => rfl

/-- Two terms of a sum that starts at zero change places. -/
theorem zero_add_right_comm (a b : Float32) : 0 + a + b = 0 + b + a := by
  by_cases ha : a.toModel.unpack = .zero .negative
  · by_cases hb : b.toModel.unpack = .zero .negative
    · rw [zero_add_negZero ha, zero_add_negZero hb, zero_add_negZero ha]
    · rw [zero_add_negZero ha, zero_add_of_ne hb, add_negZero hb ha]
  · by_cases hb : b.toModel.unpack = .zero .negative
    · rw [zero_add_of_ne ha, zero_add_negZero hb, add_negZero ha hb, zero_add_of_ne ha]
    · rw [zero_add_of_ne ha, zero_add_of_ne hb, add_comm]

end Float32Sum
