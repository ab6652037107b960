/-
  `split_sentinel_policy.h`: the split-request word. Sequence number, primary trigger and the
  mask of coalesced triggers share one 64-bit word, so that one load reads all three.

  `packSplitRequest_toNat` and `unpackSplitRequest_*` give the word as a number; every other
  fact about the word follows from these by arithmetic.
-/
import Mathlib.Data.Nat.Bitwise
import Exosnap.Engine.SessionTypes

namespace Exosnap.Engine

/-! ## Triggers as the word holds them -/

/-- The enumerator's value. -/
def SplitTriggerSource.toUInt32 : SplitTriggerSource → UInt32
  | .automaticDuration => 0
  | .automaticSize => 1
  | .manualButton => 2
  | .hotkey => 3

/-- `static_cast<SplitTriggerSource>`, for the value of an enumerator. -/
def SplitTriggerSource.ofUInt32 (v : UInt32) : SplitTriggerSource :=
  if v = 0 then .automaticDuration
  else if v = 1 then .automaticSize
  else if v = 2 then .manualButton
  else .hotkey

@[simp] theorem SplitTriggerSource.ofUInt32_toUInt32 (t : SplitTriggerSource) :
    SplitTriggerSource.ofUInt32 t.toUInt32 = t := by
  cases t <;> rfl

/-! ## The word -/

structure SplitRequestState where
  sequence : UInt64 := 0
  /-- The trigger of the most recent request. -/
  primaryTrigger : UInt32 := 0
  /-- One bit per trigger seen since the last consume, primary included. -/
  coalescedTriggers : UInt32 := 0
  deriving DecidableEq, Repr

def kSplitTriggerBits : UInt64 := 8
def kSplitMaskBits : UInt64 := 8
def kSplitTriggerMask : UInt64 := (1 <<< kSplitTriggerBits) - 1
def kSplitCoalesceMask : UInt64 := (1 <<< kSplitMaskBits) - 1

def packSplitRequest (state : SplitRequestState) : UInt64 :=
  (state.sequence <<< (kSplitTriggerBits + kSplitMaskBits)) |||
    ((state.coalescedTriggers.toUInt64 &&& kSplitCoalesceMask) <<< kSplitTriggerBits) |||
    (state.primaryTrigger.toUInt64 &&& kSplitTriggerMask)

def unpackSplitRequest (packed : UInt64) : SplitRequestState where
  primaryTrigger := (packed &&& kSplitTriggerMask).toUInt32
  coalescedTriggers := ((packed >>> kSplitTriggerBits) &&& kSplitCoalesceMask).toUInt32
  sequence := packed >>> (kSplitTriggerBits + kSplitMaskBits)

/-- `1u << (trigger & 0x7u)` -/
def splitTriggerBit (trigger : UInt32) : UInt32 := 1 <<< (trigger &&& 7)

/-- The word after a request with `trigger`. -/
def splitRequestWith (packed : UInt64) (trigger : UInt32) : UInt64 :=
  let state := unpackSplitRequest packed
  packSplitRequest
    { sequence := state.sequence + 1
      primaryTrigger := trigger &&& kSplitTriggerMask.toUInt32
      coalescedTriggers := state.coalescedTriggers ||| splitTriggerBit trigger }

/-- The word after a consumer has taken everything up to `state.sequence`. -/
def splitRequestConsumed (state : SplitRequestState) : UInt64 :=
  packSplitRequest { state with coalescedTriggers := 0 }

/-- Whether this packet is the forced keyframe that carries the split sentinel. -/
def shouldEmitSplitSentinel (splitArmed : Bool) (splitForcedPtsNs : UInt64) (pktKeyframe : Bool)
    (pktPtsNs : UInt64) : Bool :=
  splitArmed && pktKeyframe && decide (pktPtsNs ≥ splitForcedPtsNs)

/-! ## The word as a number -/

theorem packSplitRequest_toNat (state : SplitRequestState) :
    (packSplitRequest state).toNat =
      state.sequence.toNat % 2 ^ 48 * 2 ^ 16 + state.coalescedTriggers.toNat % 256 * 2 ^ 8 +
        state.primaryTrigger.toNat % 256 := by
  have hseq : (state.sequence <<< (kSplitTriggerBits + kSplitMaskBits)).toNat =
      2 ^ 16 * (state.sequence.toNat % 2 ^ 48) := by
    rw [UInt64.toNat_shiftLeft]
    have : (kSplitTriggerBits + kSplitMaskBits).toNat % 64 = 16 := by decide
    rw [this, Nat.shiftLeft_eq]
    omega
  have hmask : ((state.coalescedTriggers.toUInt64 &&& kSplitCoalesceMask) <<<
      kSplitTriggerBits).toNat = 2 ^ 8 * (state.coalescedTriggers.toNat % 256) := by
    rw [UInt64.toNat_shiftLeft, UInt64.toNat_and]
    have h8 : kSplitTriggerBits.toNat % 64 = 8 := by decide
    have h255 : kSplitCoalesceMask.toNat = 2 ^ 8 - 1 := by decide
    rw [h8, h255, Nat.and_two_pow_sub_one_eq_mod, Nat.shiftLeft_eq, UInt32.toNat_toUInt64]
    omega
  have hprim : (state.primaryTrigger.toUInt64 &&& kSplitTriggerMask).toNat =
      state.primaryTrigger.toNat % 256 := by
    rw [UInt64.toNat_and]
    have h255 : kSplitTriggerMask.toNat = 2 ^ 8 - 1 := by decide
    rw [h255, Nat.and_two_pow_sub_one_eq_mod, UInt32.toNat_toUInt64]
  unfold packSplitRequest
  rw [UInt64.toNat_or, UInt64.toNat_or, hseq, hmask, hprim]
  -- the three fields do not overlap, so each `or` is a sum
  rw [← Nat.two_pow_add_eq_or_of_lt (by omega : 2 ^ 8 * (state.coalescedTriggers.toNat % 256) <
    2 ^ 16)]
  have hsplit : 2 ^ 16 * (state.sequence.toNat % 2 ^ 48) +
      2 ^ 8 * (state.coalescedTriggers.toNat % 256) =
      2 ^ 8 * (2 ^ 8 * (state.sequence.toNat % 2 ^ 48) + state.coalescedTriggers.toNat % 256) := by
    omega
  rw [hsplit, ← Nat.two_pow_add_eq_or_of_lt (by omega : state.primaryTrigger.toNat % 256 < 2 ^ 8)]
  omega

theorem unpackSplitRequest_sequence (packed : UInt64) :
    (unpackSplitRequest packed).sequence.toNat = packed.toNat / 2 ^ 16 := by
  unfold unpackSplitRequest
  rw [UInt64.toNat_shiftRight]
  have : (kSplitTriggerBits + kSplitMaskBits).toNat % 64 = 16 := by decide
  rw [this, Nat.shiftRight_eq_div_pow]

theorem unpackSplitRequest_coalescedTriggers (packed : UInt64) :
    (unpackSplitRequest packed).coalescedTriggers.toNat = packed.toNat / 2 ^ 8 % 256 := by
  unfold unpackSplitRequest
  have h8 : kSplitTriggerBits.toNat % 64 = 8 := by decide
  have h255 : kSplitCoalesceMask.toNat = 2 ^ 8 - 1 := by decide
  rw [UInt64.toNat_toUInt32, UInt64.toNat_and, UInt64.toNat_shiftRight, h8, h255,
    Nat.and_two_pow_sub_one_eq_mod, Nat.shiftRight_eq_div_pow]
  omega

theorem unpackSplitRequest_primaryTrigger (packed : UInt64) :
    (unpackSplitRequest packed).primaryTrigger.toNat = packed.toNat % 256 := by
  unfold unpackSplitRequest
  have h255 : kSplitTriggerMask.toNat = 2 ^ 8 - 1 := by decide
  rw [UInt64.toNat_toUInt32, UInt64.toNat_and, h255, Nat.and_two_pow_sub_one_eq_mod]
  omega

/-! ## Round trips -/

theorem SplitRequestState.ext_toNat {a b : SplitRequestState}
    (hs : a.sequence.toNat = b.sequence.toNat)
    (hp : a.primaryTrigger.toNat = b.primaryTrigger.toNat)
    (hc : a.coalescedTriggers.toNat = b.coalescedTriggers.toNat) : a = b := by
  obtain ⟨as, ap, ac⟩ := a
  obtain ⟨bs, bp, bc⟩ := b
  rw [SplitRequestState.mk.injEq]
  exact ⟨UInt64.toNat_inj.mp hs, UInt32.toNat_inj.mp hp, UInt32.toNat_inj.mp hc⟩

theorem unpack_packSplitRequest {state : SplitRequestState}
    (hs : state.sequence.toNat < 2 ^ 48) (hp : state.primaryTrigger.toNat < 256)
    (hc : state.coalescedTriggers.toNat < 256) :
    unpackSplitRequest (packSplitRequest state) = state := by
  have hpack := packSplitRequest_toNat state
  apply SplitRequestState.ext_toNat
  · rw [unpackSplitRequest_sequence]
    omega
  · rw [unpackSplitRequest_primaryTrigger]
    omega
  · rw [unpackSplitRequest_coalescedTriggers]
    omega

/-- What the consumer expects in its compare-exchange is the word it loaded. -/
@[simp] theorem pack_unpackSplitRequest (packed : UInt64) :
    packSplitRequest (unpackSplitRequest packed) = packed := by
  apply UInt64.toNat_inj.mp
  have h := packed.toNat_lt
  rw [packSplitRequest_toNat, unpackSplitRequest_sequence, unpackSplitRequest_primaryTrigger,
    unpackSplitRequest_coalescedTriggers]
  omega

theorem unpackSplitRequest_coalesced_lt (packed : UInt64) :
    (unpackSplitRequest packed).coalescedTriggers.toNat < 256 := by
  rw [unpackSplitRequest_coalescedTriggers]
  omega

/-! ## Requests and consumption -/

theorem splitTriggerBit_lt (trigger : UInt32) : (splitTriggerBit trigger).toNat < 256 := by
  have h7 : (7 : UInt32).toNat = 2 ^ 3 - 1 := by decide
  unfold splitTriggerBit
  rw [UInt32.toNat_shiftLeft, UInt32.toNat_and, h7, Nat.and_two_pow_sub_one_eq_mod,
    Nat.shiftLeft_eq]
  have hpow : 2 ^ (trigger.toNat % 2 ^ 3 % 32) ≤ 2 ^ 7 :=
    Nat.pow_le_pow_right (by omega) (by omega)
  have hone : UInt32.toNat 1 = 1 := by decide
  rw [hone]
  omega

theorem or_triggerBit_lt {mask : UInt32} (hm : mask.toNat < 256) (trigger : UInt32) :
    (mask ||| splitTriggerBit trigger).toNat < 256 := by
  rw [UInt32.toNat_or]
  exact Nat.or_lt_two_pow (n := 8) hm (splitTriggerBit_lt trigger)

theorem splitRequestWith_coalesced (packed : UInt64) (trigger : UInt32) :
    (unpackSplitRequest (splitRequestWith packed trigger)).coalescedTriggers =
      (unpackSplitRequest packed).coalescedTriggers ||| splitTriggerBit trigger := by
  apply UInt32.toNat_inj.mp
  have hlt := or_triggerBit_lt (unpackSplitRequest_coalesced_lt packed) trigger
  rw [unpackSplitRequest_coalescedTriggers]
  unfold splitRequestWith
  rw [packSplitRequest_toNat]
  dsimp only
  omega

theorem splitRequestWith_primary (packed : UInt64) (trigger : SplitTriggerSource) :
    (unpackSplitRequest (splitRequestWith packed trigger.toUInt32)).primaryTrigger =
      trigger.toUInt32 := by
  apply UInt32.toNat_inj.mp
  rw [unpackSplitRequest_primaryTrigger]
  unfold splitRequestWith
  rw [packSplitRequest_toNat]
  have hand : (trigger.toUInt32 &&& kSplitTriggerMask.toUInt32) = trigger.toUInt32 := by
    cases trigger <;> decide
  have hlt : trigger.toUInt32.toNat < 256 := by cases trigger <;> decide
  simp only [hand]
  omega

/-- A request advances the sequence, modulo its 48 bits. -/
theorem splitRequestWith_sequence (packed : UInt64) (trigger : UInt32) :
    (unpackSplitRequest (splitRequestWith packed trigger)).sequence.toNat =
      ((unpackSplitRequest packed).sequence.toNat + 1) % 2 ^ 48 := by
  have hlt := packed.toNat_lt
  have hseq := unpackSplitRequest_sequence packed
  rw [unpackSplitRequest_sequence (splitRequestWith packed trigger)]
  unfold splitRequestWith
  rw [packSplitRequest_toNat]
  have hadd : ((unpackSplitRequest packed).sequence + 1).toNat =
      (unpackSplitRequest packed).sequence.toNat + 1 := by
    have hone : UInt64.toNat 1 = 1 := by decide
    rw [UInt64.toNat_add, hone]
    omega
  simp only [hadd]
  omega

theorem unpack_splitRequestConsumed (packed : UInt64) :
    unpackSplitRequest (splitRequestConsumed (unpackSplitRequest packed)) =
      { unpackSplitRequest packed with coalescedTriggers := 0 } := by
  have hlt := packed.toNat_lt
  apply unpack_packSplitRequest
  · show (unpackSplitRequest packed).sequence.toNat < _
    rw [unpackSplitRequest_sequence]
    omega
  · show (unpackSplitRequest packed).primaryTrigger.toNat < _
    rw [unpackSplitRequest_primaryTrigger]
    omega
  · show (0 : UInt32).toNat < 256
    decide

end Exosnap.Engine
