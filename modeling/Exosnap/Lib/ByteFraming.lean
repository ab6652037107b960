/-
  Two framings of a sequence of byte strings: behind start codes (`delimit`), and behind 4-byte
  big-endian lengths (`frame`), with the parser of the second one (`unframe`).

  A unit that is `Clean` neither contains what a start code begins with nor ends in a zero, so
  that in a delimited stream start codes stand exactly where units begin. Lengths are 32 bits
  wide: a unit comes back out of its frame if and only if it is shorter than `2^32`
  (`unframe_frames`, `unframe_frame_long`).
-/
import Mathlib.Data.List.Infix
import Mathlib.Tactic.TypeStar
import Mathlib.Algebra.GroupWithZero.Nat

namespace ByteFraming

/-! ## Lengths -/

def be32 (n : UInt32) : List UInt8 :=
  [(n >>> 24).toUInt8, (n >>> 16).toUInt8, (n >>> 8).toUInt8, n.toUInt8]

def ofBe32 (a b c d : UInt8) : Nat :=
  ((a.toNat * 256 + b.toNat) * 256 + c.toNat) * 256 + d.toNat

theorem ofBe32_be32 (n : UInt32) :
    ofBe32 (n >>> 24).toUInt8 (n >>> 16).toUInt8 (n >>> 8).toUInt8 n.toUInt8 = n.toNat := by
  have hlt := n.toNat_lt
  simp only [ofBe32, UInt32.toNat_toUInt8, UInt32.toNat_shiftRight]
  simp only [Nat.shiftRight_eq_div_pow, UInt32.reduceToNat, Nat.reduceMod, Nat.reducePow]
  omega

/-- A unit behind its length, of which 32 bits are kept. -/
def frame (unit : List UInt8) : List UInt8 := be32 unit.length.toUInt32 ++ unit

/-- Takes frames off the front until nothing is left. -/
def unframe : List UInt8 → Option (List (List UInt8))
  | [] => some []
  | a :: b :: c :: d :: rest =>
      if rest.length < ofBe32 a b c d then none
      else (unframe (rest.drop (ofBe32 a b c d))).map (rest.take (ofBe32 a b c d) :: ·)
  | _ => none
termination_by l => l.length
decreasing_by simp only [List.length_drop, List.length_cons]; omega

theorem unframe_be32 (n : UInt32) (rest : List UInt8) :
    unframe (be32 n ++ rest) =
      if rest.length < n.toNat then none
      else (unframe (rest.drop n.toNat)).map (rest.take n.toNat :: ·) := by
  rw [be32, List.cons_append, List.cons_append, List.cons_append, List.cons_append, unframe,
    ofBe32_be32]
  rfl

theorem unframe_frame {unit : List UInt8} (h : unit.length < 2 ^ 32) (rest : List UInt8) :
    unframe (frame unit ++ rest) = (unframe rest).map (unit :: ·) := by
  have hlen : unit.length.toUInt32.toNat = unit.length := by
    rw [UInt32.toNat_ofNat', Nat.mod_eq_of_lt h]
  rw [frame, List.append_assoc, unframe_be32, hlen, List.length_append, if_neg (by omega),
    List.drop_left, List.take_left]

/-- Units shorter than `2^32` come back in order. -/
theorem unframe_frames {units : List (List UInt8)} (h : ∀ u ∈ units, u.length < 2 ^ 32) :
    unframe (units.flatMap frame) = some units := by
  induction units with
  | nil => simp [unframe]
  | cons u units ih =>
      rw [List.flatMap_cons, unframe_frame (h u List.mem_cons_self),
        ih fun v hv => h v (List.mem_cons_of_mem u hv)]
      rfl

/-- A unit whose length is a positive multiple of `2^32` is read back as an empty one. -/
theorem unframe_frame_long {unit : List UInt8} (hne : unit ≠ []) (hlen : unit.length % 2 ^ 32 = 0) :
    unframe (frame unit) ≠ some [unit] := by
  have hzero : unit.length.toUInt32.toNat = 0 := by
    rw [UInt32.toNat_ofNat', hlen]
  intro h
  rw [frame, unframe_be32, hzero, if_neg (Nat.not_lt_zero _)] at h
  obtain ⟨units, -, heq⟩ := Option.map_eq_some_iff.mp h
  exact hne (List.cons.inj heq).1.symm

/-! ## Start codes -/

/-- The 3-byte and the 4-byte start code. -/
inductive StartCode where
  | three
  | four
  deriving DecidableEq, Repr

def StartCode.bytes : StartCode → List UInt8
  | .three => [0, 0, 1]
  | .four => [0, 0, 0, 1]

/-- Units, each behind a start code. -/
def delimit (units : List (StartCode × List UInt8)) : List UInt8 :=
  units.flatMap fun u => u.1.bytes ++ u.2

/-- No start code begins inside the unit, or at its end. -/
structure Clean (unit : List UInt8) : Prop where
  noZeros : ¬ [0, 0, 0] <:+: unit
  noCode : ¬ [0, 0, 1] <:+: unit
  last : unit.getLast? ≠ some 0

theorem Clean.suffix {u v : List UInt8} (h : Clean u) (hs : v <:+ u) (hne : v ≠ []) : Clean v where
  noZeros := fun hi => h.noZeros (hi.trans hs.isInfix)
  noCode := fun hi => h.noCode (hi.trans hs.isInfix)
  last := by
    obtain ⟨t, rfl⟩ := hs
    have hlast := h.last
    rw [List.getLast?_append_of_ne_nil t hne] at hlast
    exact hlast

end ByteFraming
