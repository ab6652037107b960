/-
  The reader of parameter sets (`rbsp_bit_reader.h`) on the bits of a payload without its
  emulation-prevention bytes.

  `unescape` takes these bytes out of a NAL unit's payload, as the syntax has it. The reader skips
  them where it stands, by a look at the two bytes before (`emulation`); what is in front of it
  (`left`) are the bits of the payload that remain (`left_start`), and each read takes its bits off
  the front.
-/
import Exosnap.Lib.BitString
import Mathlib.Tactic.Ring

namespace Exosnap.Engine.Rbsp

open BitString

/-! ## The reader -/

structure RbspBitReader where
  data : List UInt8
  bytePos : Nat := 0
  bitPos : Nat := 0

/-- The byte there is a 3 behind two zeros. -/
def emulation (data : List UInt8) (pos : Nat) : Bool :=
  decide (pos ≥ 2) && decide (pos < data.length) && data.getD pos 0 == 3 &&
    data.getD (pos - 1) 0 == 0 && data.getD (pos - 2) 0 == 0

/-- A parser that fails with what it has by then. -/
abbrev Parse (ε α : Type) := StateT RbspBitReader (Except ε) α

variable {ε : Type}

def readBit (fail : ε) : Parse ε Nat := fun r =>
  if r.bytePos ≥ r.data.length then .error fail
  else
    let out := ((r.data.getD r.bytePos 0).toNat >>> (7 - r.bitPos)) &&& 1
    if r.bitPos + 1 = 8 then
      let next := r.bytePos + 1
      .ok (out, { r with
        bitPos := 0, bytePos := if emulation r.data next then next + 1 else next })
    else .ok (out, { r with bitPos := r.bitPos + 1 })

/-- The loop of `ReadBits`, with a 32-bit number. -/
def readLoop (fail : ε) : Nat → Nat → Parse ε Nat
  | 0, out => pure out
  | count + 1, out => do
      let bit ← readBit fail
      readLoop fail count ((out <<< 1) % 2 ^ 32 ||| bit)

def readBits (fail : ε) (count : Nat) : Parse ε Nat := readLoop fail count 0

/-- The loop of `ReadUe`: the zeros in front of the first 1, of which there may be 31. -/
def leadingZeros (fail : ε) : Nat → Nat → Parse ε Nat
  | 0, _ => fun _ => .error fail
  | fuel + 1, zeros => do
      let bit ← readBit fail
      if bit = 1 then pure zeros else leadingZeros fail fuel (zeros + 1)

/-- The bits behind the first 1: none are read where there are none. -/
def readSuffix (fail : ε) (zeros : Nat) : Parse ε Nat :=
  if zeros > 0 then readBits fail zeros else pure 0

def readUe (fail : ε) : Parse ε Nat := do
  let zeros ← leadingZeros fail 32 0
  let suffix ← readSuffix fail zeros
  pure ((1 <<< zeros - 1 + suffix) % 2 ^ 32)

/-! ## Emulation prevention -/

/-- A payload without its emulation-prevention bytes. -/
def unescape : List UInt8 → List UInt8
  | [] => []
  | 0 :: 0 :: 3 :: rest => 0 :: 0 :: unescape rest
  | b :: rest => b :: unescape rest

/-- The payload from a position on. -/
def payloadFrom (data : List UInt8) (pos : Nat) : List UInt8 :=
  if pos < data.length then
    if emulation data pos then payloadFrom data (pos + 1)
    else data.getD pos 0 :: payloadFrom data (pos + 1)
  else []
termination_by data.length - pos

theorem payloadFrom_end {data : List UInt8} {pos : Nat} (h : data.length ≤ pos) :
    payloadFrom data pos = [] := by
  rw [payloadFrom, if_neg (Nat.not_lt.mpr h)]

theorem payloadFrom_skip {data : List UInt8} {pos : Nat} (h : emulation data pos = true) :
    payloadFrom data pos = payloadFrom data (pos + 1) := by
  have hlt : pos < data.length := by
    simp only [emulation, Bool.and_eq_true, decide_eq_true_eq] at h
    exact h.1.1.1.2
  rw [payloadFrom, if_pos hlt, if_pos h]

theorem payloadFrom_cons {data : List UInt8} {pos : Nat} (hlt : pos < data.length)
    (h : emulation data pos = false) :
    payloadFrom data pos = data.getD pos 0 :: payloadFrom data (pos + 1) := by
  rw [payloadFrom, if_pos hlt, h, if_neg Bool.false_ne_true]

/-- Behind a skipped byte none is skipped. -/
theorem emulation_succ {data : List UInt8} {pos : Nat} (h : emulation data pos = true) :
    emulation data (pos + 1) = false := by
  simp only [emulation, Bool.and_eq_true, beq_iff_eq] at h
  rw [emulation, Nat.add_sub_cancel, h.1.1.2]
  simp

/-- A list behind two bytes of which it is known whether they are zero. -/
def strip : Bool → Bool → List UInt8 → List UInt8
  | _, _, [] => []
  | z2, z1, b :: rest =>
      if z2 && z1 && b == 3 then strip z1 false rest else b :: strip z1 (b == 0) rest

theorem payloadFrom_eq_strip (data : List UInt8) (pos : Nat) :
    payloadFrom data pos =
      strip (decide (pos ≥ 2) && data.getD (pos - 2) 0 == 0)
        (decide (pos ≥ 1) && data.getD (pos - 1) 0 == 0) (data.drop pos) := by
  induction hn : data.length - pos generalizing pos with
  | zero =>
      have hend : data.length ≤ pos := by omega
      rw [payloadFrom_end hend, List.drop_eq_nil_of_le hend, strip]
  | succ n ih =>
      have hlt : pos < data.length := by omega
      have hnext := ih (pos + 1) (by omega)
      have hdrop : data.drop pos = data.getD pos 0 :: data.drop (pos + 1) := by
        rw [List.drop_eq_getElem_cons hlt, List.getD_eq_getElem _ _ hlt]
      have hone : (decide (pos + 1 ≥ 1) && data.getD (pos + 1 - 1) 0 == 0) =
          (data.getD pos 0 == 0) := by
        rw [decide_eq_true (by omega), Bool.true_and, Nat.add_sub_cancel]
      have htwo : (decide (pos + 1 ≥ 2) && data.getD (pos + 1 - 2) 0 == 0) =
          (decide (pos ≥ 1) && data.getD (pos - 1) 0 == 0) := by
        rw [show pos + 1 - 2 = pos - 1 by omega,
          decide_eq_decide.mpr (show pos + 1 ≥ 2 ↔ pos ≥ 1 by omega)]
      have hhere : emulation data pos = ((decide (pos ≥ 2) && data.getD (pos - 2) 0 == 0) &&
          (decide (pos ≥ 1) && data.getD (pos - 1) 0 == 0) && data.getD pos 0 == 3) := by
        rw [emulation, decide_eq_true hlt]
        by_cases hpos : pos ≥ 2
        · rw [decide_eq_true hpos, decide_eq_true (Nat.le_of_succ_le hpos)]
          generalize (data.getD pos 0 == 3) = three, (data.getD (pos - 1) 0 == 0) = first,
            (data.getD (pos - 2) 0 == 0) = second
          cases three <;> cases first <;> cases second <;> rfl
        · rw [decide_eq_false hpos]
          simp
      rw [hone, htwo] at hnext
      rw [hdrop, strip, ← hhere]
      cases hskip : emulation data pos with
      | true =>
          have hthree : data.getD pos 0 = 3 := by
            rw [hhere, Bool.and_eq_true, beq_iff_eq] at hskip
            exact hskip.2
          rw [hthree] at hnext
          rw [if_pos rfl, payloadFrom_skip hskip, hnext]
          rfl
      | false => rw [if_neg Bool.false_ne_true, payloadFrom_cons hlt hskip, hnext]

theorem unescape_of_ne {b : UInt8} (hb : b ≠ 0) (rest : List UInt8) :
    unescape (b :: rest) = b :: unescape rest := by
  rw [unescape]
  rintro rest' rfl
  exact absurd rfl hb

theorem unescape_zero_of_ne {b : UInt8} (hb : b ≠ 0) (rest : List UInt8) :
    unescape (0 :: b :: rest) = 0 :: b :: unescape rest := by
  rw [unescape, unescape_of_ne hb]
  rintro rest' - h
  exact hb (List.cons.inj h).1

theorem unescape_zeros_of_ne {b : UInt8} (hb : b ≠ 3) (rest : List UInt8) :
    unescape (0 :: 0 :: b :: rest) = 0 :: unescape (0 :: b :: rest) := by
  rw [unescape]
  rintro rest' - h
  exact hb (List.cons.inj (List.cons.inj h).2).1

theorem strip_eq_unescape (l : List UInt8) :
    (∀ z2, strip z2 false l = unescape l) ∧ 0 :: strip false true l = unescape (0 :: l) ∧
      0 :: 0 :: strip true true l = unescape (0 :: 0 :: l) := by
  induction l with
  | nil => exact ⟨fun _ => rfl, rfl, rfl⟩
  | cons b rest ih =>
      obtain ⟨hnone, hone, htwo⟩ := ih
      refine ⟨fun z2 => ?_, ?_, ?_⟩
      · rw [strip, Bool.and_false, Bool.false_and, if_neg Bool.false_ne_true]
        by_cases hb : b = 0
        · subst hb
          exact hone
        · rw [beq_false_of_ne hb, hnone, unescape_of_ne hb]
      · rw [strip, Bool.false_and, Bool.false_and, if_neg Bool.false_ne_true]
        by_cases hb : b = 0
        · subst hb
          exact htwo
        · rw [beq_false_of_ne hb, hnone, unescape_zero_of_ne hb]
      · rw [strip, Bool.and_self, Bool.true_and]
        by_cases hthree : b = 3
        · subst hthree
          rw [if_pos (beq_self_eq_true _), hnone, unescape]
        · rw [beq_false_of_ne hthree, if_neg Bool.false_ne_true, unescape_zeros_of_ne hthree]
          by_cases hb : b = 0
          · subst hb
            exact congrArg _ htwo
          · rw [beq_false_of_ne hb, hnone, unescape_zero_of_ne hb]

theorem payloadFrom_zero (data : List UInt8) : payloadFrom data 0 = unescape data := by
  rw [payloadFrom_eq_strip]
  exact (strip_eq_unescape data).1 _

theorem strip_zeros (z2 z1 : Bool) (n : Nat) :
    strip z2 z1 (List.replicate n 0) = List.replicate n 0 := by
  induction n generalizing z2 z1 with
  | zero => rfl
  | succ n ih =>
      have hthree : ((0 : UInt8) == 3) = false := rfl
      rw [List.replicate_succ, strip, hthree, Bool.and_false, if_neg Bool.false_ne_true, ih]

theorem strip_append_zeros (z2 z1 : Bool) (l : List UInt8) (n : Nat) :
    strip z2 z1 (l ++ List.replicate n 0) = strip z2 z1 l ++ List.replicate n 0 := by
  induction l generalizing z2 z1 with
  | nil => exact strip_zeros z2 z1 n
  | cons b l ih =>
      rw [List.cons_append, strip, strip]
      split_ifs
      · exact ih _ _
      · rw [ih, List.cons_append]

/-- Zeros behind a payload stay behind it. -/
theorem unescape_append_zeros (l : List UInt8) (n : Nat) :
    unescape (l ++ List.replicate n 0) = unescape l ++ List.replicate n 0 := by
  have h := strip_append_zeros false false l n
  rwa [(strip_eq_unescape _).1, (strip_eq_unescape _).1] at h

theorem length_le_of_bytesBits {bytes bytes' : List UInt8} {behind : List Bool}
    (h : bytesBits bytes = bytesBits bytes' ++ behind) : bytes'.length ≤ bytes.length := by
  have hlen := congrArg List.length h
  rw [List.length_append, length_bytesBits, length_bytesBits] at hlen
  omega

theorem strip_two (x y : UInt8) (l : List UInt8) :
    strip false false (x :: y :: l) = x :: y :: strip (x == 0) (y == 0) l := by
  rw [strip, Bool.and_self, Bool.false_and, if_neg Bool.false_ne_true, strip, Bool.false_and,
    Bool.false_and, if_neg Bool.false_ne_true]

theorem length_strip_le (z2 z1 : Bool) (l : List UInt8) : (strip z2 z1 l).length ≤ l.length := by
  induction l generalizing z2 z1 with
  | nil => exact Nat.le_refl _
  | cons b l ih =>
      rw [strip]
      split_ifs
      · exact Nat.le_succ_of_le (ih _ _)
      · exact Nat.succ_le_succ (ih _ _)

theorem length_unescape_le (l : List UInt8) : (unescape l).length ≤ l.length := by
  rw [← (strip_eq_unescape l).1 false]
  exact length_strip_le _ _ l

/-- The first three bytes stand there themselves unless the first two of them are zeros. -/
theorem unescape_three {a b c : UInt8} {l : List UInt8} {behind : List Bool}
    (h : bytesBits (unescape l) = bytesBits [a, b, c] ++ behind) (hzero : a ≠ 0 ∨ b ≠ 0) :
    ∃ rest, l = a :: b :: c :: rest := by
  have hlen := length_le_of_bytesBits h
  rw [← (strip_eq_unescape l).1 false] at h hlen
  match l, h, hlen with
  | [], _, hlen => exact absurd hlen (by decide : ¬ 3 ≤ 0)
  | [x], _, hlen => exact absurd hlen (by decide : ¬ 3 ≤ 1)
  | [x, y], _, hlen => exact absurd hlen (by decide : ¬ 3 ≤ 2)
  | x :: y :: z :: l, h, _ =>
      rw [strip_two, bytesBits_cons, bytesBits_cons, bytesBits_cons, bytesBits_cons,
        List.append_assoc, List.append_assoc] at h
      obtain ⟨hx, hbehindX⟩ := byteBits_append_inj h
      obtain ⟨hy, hbehindY⟩ := byteBits_append_inj hbehindX
      have hkept : ((x == 0) && (y == 0) && z == 3) = false := by
        rw [hx, hy]
        rcases hzero with ha | hb
        · rw [beq_false_of_ne ha, Bool.false_and, Bool.false_and]
        · rw [beq_false_of_ne hb, Bool.and_false, Bool.false_and]
      rw [strip, hkept, if_neg Bool.false_ne_true, bytesBits_cons, bytesBits_cons,
        List.append_assoc] at hbehindY
      obtain ⟨hz, -⟩ := byteBits_append_inj hbehindY
      exact ⟨l, by rw [hx, hy, hz]⟩

/-! ## Single reads -/

/-- The bits in front of a reader. -/
def left (r : RbspBitReader) : List Bool :=
  if r.bitPos < 8 ∧ r.bytePos < r.data.length then
    (byteBits (r.data.getD r.bytePos 0)).drop r.bitPos ++
      bytesBits (payloadFrom r.data (r.bytePos + 1))
  else []

theorem left_at {data : List UInt8} {pos : Nat} (h : emulation data pos = false) :
    left { data := data, bytePos := pos } = bytesBits (payloadFrom data pos) := by
  rw [left]
  by_cases hlt : pos < data.length
  · rw [if_pos ⟨Nat.succ_pos 7, hlt⟩, payloadFrom_cons hlt h, bytesBits_cons]
    rfl
  · rw [if_neg fun hall => hlt hall.2, payloadFrom_end (Nat.not_lt.mp hlt)]
    rfl

theorem left_start (data : List UInt8) : left { data := data } = bytesBits (unescape data) := by
  rw [← payloadFrom_zero]
  exact left_at rfl

/-- Behind a byte the reader stands where the payload goes on. -/
theorem left_next (data : List UInt8) (pos : Nat) :
    left { data := data, bytePos := if emulation data pos then pos + 1 else pos } =
      bytesBits (payloadFrom data pos) := by
  cases h : emulation data pos with
  | true => rw [if_pos rfl, left_at (emulation_succ h), payloadFrom_skip h]
  | false => rw [if_neg Bool.false_ne_true, left_at h]

theorem byteBits_drop (b : UInt8) {n : Nat} (hn : n < 8) :
    (byteBits b).drop n = b.toNat.testBit (7 - n) :: (byteBits b).drop (n + 1) := by
  have hlen : n < (byteBits b).length := by
    rw [byteBits, length_natBits]
    exact hn
  have hget := natBits_getElem? 8 b.toNat hn
  rw [show natBits 8 b.toNat = byteBits b from rfl, List.getElem?_eq_getElem hlen] at hget
  rw [List.drop_eq_getElem_cons hlen, Option.some.inj hget]

/-- A bit read is the first of those in front. -/
theorem reads_bit (fail : ε) (b : Bool) : Reads left (readBit fail) [b] b.toNat := by
  intro r tail h
  have hat : r.bitPos < 8 ∧ r.bytePos < r.data.length := by
    by_contra hnot
    rw [left, if_neg hnot] at h
    exact nomatch h
  rw [left, if_pos hat, byteBits_drop _ hat.1, List.singleton_append, List.cons_append] at h
  obtain ⟨hbit, htail⟩ := List.cons.inj h
  have hout : ((r.data.getD r.bytePos 0).toNat >>> (7 - r.bitPos)) &&& 1 = b.toNat := by
    rw [← hbit, Nat.toNat_testBit, Nat.and_one_is_mod, Nat.shiftRight_eq_div_pow]
  rw [readBit, if_neg (Nat.not_le.mpr hat.2)]
  dsimp only
  rw [hout]
  by_cases hlast : r.bitPos + 1 = 8
  · rw [if_pos hlast]
    refine ⟨_, rfl, ?_⟩
    rw [left_next, ← htail, hlast]
    rfl
  · rw [if_neg hlast]
    refine ⟨_, rfl, ?_⟩
    rw [left, if_pos ⟨by dsimp only; omega, hat.2⟩]
    exact htail

theorem reads_loop (fail : ε) (bits : List Bool) (out : Nat)
    (h : out * 2 ^ bits.length + ofBits bits < 2 ^ 32) :
    Reads left (readLoop fail bits.length out) bits (out * 2 ^ bits.length + ofBits bits) := by
  induction bits generalizing out with
  | nil =>
      rw [ofBits, List.length_nil, Nat.pow_zero, Nat.mul_one, Nat.add_zero]
      exact Reads.pure out
  | cons b bits ih =>
      have hb : b.toNat < 2 ^ 1 := by cases b <;> decide
      have hvalue : out * 2 ^ (b :: bits).length + ofBits (b :: bits) =
          (2 * out + b.toNat) * 2 ^ bits.length + ofBits bits := by
        rw [ofBits, List.length_cons, Nat.pow_succ]
        ring
      rw [hvalue] at h ⊢
      have hsmall : 2 * out < 2 ^ 32 := by
        have hpos := Nat.one_le_two_pow (n := bits.length)
        have := Nat.le_mul_of_pos_right (2 * out + b.toNat) hpos
        omega
      have hor : (out <<< 1) % 2 ^ 32 ||| b.toNat = 2 * out + b.toNat := by
        have hshift : out <<< 1 = 2 * out := by rw [Nat.shiftLeft_eq, Nat.pow_one, Nat.mul_comm]
        rw [Nat.mod_eq_of_lt (by rw [hshift]; exact hsmall), ← Nat.shiftLeft_add_eq_or_of_lt hb,
          hshift]
      have hrest : Reads left (readLoop fail bits.length ((out <<< 1) % 2 ^ 32 ||| b.toNat)) bits
          ((2 * out + b.toNat) * 2 ^ bits.length + ofBits bits) := by
        rw [hor]
        exact ih _ h
      exact (reads_bit fail b).bind (k := fun bit =>
        readLoop fail bits.length ((out <<< 1) % 2 ^ 32 ||| bit)) hrest

/-- A read takes as many bits as its width. -/
theorem reads_bits (fail : ε) {bits : List Bool} (h : bits.length ≤ 32) :
    Reads left (readBits fail bits.length) bits (ofBits bits) := by
  have hlt := Nat.lt_of_lt_of_le (ofBits_lt bits) (Nat.pow_le_pow_right (by decide) h)
  have hloop := reads_loop fail bits 0 (by rw [Nat.zero_mul, Nat.zero_add]; exact hlt)
  rw [Nat.zero_mul, Nat.zero_add] at hloop
  exact hloop

theorem reads_field (fail : ε) {n v : Nat} (hn : n ≤ 32) (hv : v < 2 ^ n) :
    Reads left (readBits fail n) (natBits n v) v := by
  have h : Reads left (readBits fail (natBits n v).length) (natBits n v) _ :=
    reads_bits fail (by rw [length_natBits]; exact hn)
  rwa [length_natBits, ofBits_natBits hv] at h

/-- `ue(v)`: as many zeros as the number has bits behind its first one. -/
def ueBits (v : Nat) : List Bool :=
  List.replicate (v + 1).log2 false ++ natBits ((v + 1).log2 + 1) (v + 1)

theorem ueBits_pos (v : Nat) : 0 < (ueBits v).length := by
  rw [ueBits, List.length_append, length_natBits]
  omega

theorem reads_leadingZeros (fail : ε) (n fuel zeros : Nat) (h : n < fuel) :
    Reads left (leadingZeros fail fuel zeros) (List.replicate n false ++ [true]) (zeros + n) := by
  induction n generalizing fuel zeros with
  | zero =>
      obtain ⟨fuel, rfl⟩ := Nat.exists_eq_succ_of_ne_zero (Nat.ne_of_gt h)
      exact (reads_bit fail true).bind (k := fun bit =>
        if bit = 1 then pure zeros else leadingZeros fail fuel (zeros + 1)) (Reads.pure zeros)
  | succ n ih =>
      obtain ⟨fuel, rfl⟩ := Nat.exists_eq_succ_of_ne_zero (Nat.ne_of_gt (Nat.zero_lt_of_lt h))
      have hrest := ih fuel (zeros + 1) (Nat.lt_of_succ_lt_succ h)
      rw [Nat.add_assoc, Nat.add_comm 1] at hrest
      exact (reads_bit fail false).bind (k := fun bit =>
        if bit = 1 then pure zeros else leadingZeros fail fuel (zeros + 1)) hrest

theorem reads_suffix (fail : ε) {n : Nat} (hn : n ≤ 32) (v : Nat) :
    Reads left (readSuffix fail n) (natBits n v) (v % 2 ^ n) := by
  unfold readSuffix
  by_cases hpos : n > 0
  · have h : Reads left (readBits fail (natBits n v).length) (natBits n v) _ :=
      reads_bits fail (by rw [length_natBits]; exact hn)
    rw [length_natBits, ofBits_natBits_mod] at h
    rwa [if_pos hpos]
  · obtain rfl : n = 0 := Nat.eq_zero_of_not_pos hpos
    rw [if_neg hpos, Nat.pow_zero, Nat.mod_one]
    exact Reads.pure 0

theorem ueBits_eq (v : Nat) :
    ueBits v = (List.replicate (v + 1).log2 false ++ [true]) ++ natBits (v + 1).log2 (v + 1) := by
  rw [ueBits, natBits, Nat.testBit_log2 (Nat.succ_ne_zero v), List.append_assoc]
  rfl

theorem mod_log2 (v : Nat) : (v + 1) % 2 ^ (v + 1).log2 = v + 1 - 2 ^ (v + 1).log2 := by
  have hge : 2 ^ (v + 1).log2 ≤ v + 1 := Nat.log2_self_le (Nat.succ_ne_zero v)
  have hlt : v + 1 < 2 ^ ((v + 1).log2 + 1) := Nat.lt_log2_self
  rw [Nat.pow_succ] at hlt
  rw [Nat.mod_eq_sub_mod hge, Nat.mod_eq_of_lt (by omega)]

theorem reads_ue (fail : ε) {v : Nat} (hv : v < 2 ^ 32 - 1) :
    Reads left (readUe fail) (ueBits v) v := by
  have hlog : (v + 1).log2 < 32 := (Nat.log2_lt (Nat.succ_ne_zero v)).mpr (by omega)
  have hge : 2 ^ (v + 1).log2 ≤ v + 1 := Nat.log2_self_le (Nat.succ_ne_zero v)
  have hvalue : (1 <<< (v + 1).log2 - 1 + (v + 1) % 2 ^ (v + 1).log2) % 2 ^ 32 = v := by
    have hpos := Nat.two_pow_pos (v + 1).log2
    rw [mod_log2, Nat.one_shiftLeft, Nat.mod_eq_of_lt] <;> omega
  have hzeros := reads_leadingZeros fail (v + 1).log2 32 0 hlog
  rw [Nat.zero_add] at hzeros
  have hsuffix := (reads_suffix fail (Nat.le_of_lt hlog) (v + 1)).map
    fun suffix => (1 <<< (v + 1).log2 - 1 + suffix) % 2 ^ 32
  rw [hvalue] at hsuffix
  rw [ueBits_eq]
  exact hzeros.bind hsuffix

end Exosnap.Engine.Rbsp
