/-
  The calls of `RbspBitReader` one after the other, failed ones among them, on the escaped form of a
  byte string.

  A read is compared with the one on the list of bits that are left (`Delivers`): the reader skips
  the emulation-prevention bytes, so what is left in front of it are the bits of the byte string.
  Two limits are its own. A number has 32 bits, so of a longer read the last 32 are delivered; and
  `ReadUe` gives up at the 32nd zero, before it knows how long the code is.
-/
import Exosnap.Engine.RbspBits
import Mathlib.Data.Nat.ModEq

namespace Exosnap.Engine.Rbsp

open BitString

/-! ## Reads that may go on behind a failure -/

namespace RbspBitReader

def nextBit (r : RbspBitReader) : Option Nat × RbspBitReader :=
  if r.bytePos ≥ r.data.length then (none, r)
  else
    let out := ((r.data.getD r.bytePos 0).toNat >>> (7 - r.bitPos)) &&& 1
    if r.bitPos + 1 = 8 then
      let next := r.bytePos + 1
      (some out, { r with
        bitPos := 0, bytePos := if emulation r.data next then next + 1 else next })
    else (some out, { r with bitPos := r.bitPos + 1 })

/-- A call that goes on with what another one has read, if it has. -/
def andThen (x : Option Nat × RbspBitReader)
    (k : Nat → RbspBitReader → Option Nat × RbspBitReader) : Option Nat × RbspBitReader :=
  match x with
  | (none, r) => (none, r)
  | (some a, r) => k a r

def bitsLoop : Nat → Nat → RbspBitReader → Option Nat × RbspBitReader
  | 0, out, r => (some out, r)
  | count + 1, out, r =>
      andThen r.nextBit fun bit r => bitsLoop count ((out <<< 1) % 2 ^ 32 ||| bit) r

def readBits (r : RbspBitReader) (count : Nat) : Option Nat × RbspBitReader := bitsLoop count 0 r

/-- `fuel` counts the zeros that may still come. -/
def zerosLoop : Nat → Nat → RbspBitReader → Option Nat × RbspBitReader
  | 0, _, r => (none, r)
  | fuel + 1, zeros, r =>
      andThen r.nextBit fun bit r =>
        if bit = 1 then (some zeros, r) else zerosLoop fuel (zeros + 1) r

def readUe (r : RbspBitReader) : Option Nat × RbspBitReader :=
  andThen (zerosLoop 32 0 r) fun zeros r =>
    andThen (if zeros > 0 then r.readBits zeros else (some 0, r)) fun suffix r =>
      (some ((1 <<< zeros - 1 + suffix) % 2 ^ 32), r)

end RbspBitReader

/-- What a parser that stops at the first failure makes of a call. -/
def stopped (fail : ε) (x : Option Nat × RbspBitReader) : Except ε (Nat × RbspBitReader) :=
  match x with
  | (none, _) => .error fail
  | (some a, r) => .ok (a, r)

theorem stopped_andThen (fail : ε) (x : Option Nat × RbspBitReader)
    (k : Nat → RbspBitReader → Option Nat × RbspBitReader) (m : Parse ε Nat) (f : Nat → Parse ε Nat)
    (r : RbspBitReader) (hx : m r = stopped fail x) (hk : ∀ a r, f a r = stopped fail (k a r)) :
    (m >>= f) r = stopped fail (RbspBitReader.andThen x k) := by
  change (m r >>= fun p => f p.1 p.2) = _
  rw [hx]
  match x with
  | (none, r) => rfl
  | (some a, r) => exact hk a r

theorem readBit_stopped (fail : ε) (r : RbspBitReader) :
    readBit fail r = stopped fail r.nextBit := by
  rw [readBit, RbspBitReader.nextBit]
  dsimp only
  split_ifs <;> rfl

theorem readLoop_stopped (fail : ε) (count out : Nat) (r : RbspBitReader) :
    readLoop fail count out r = stopped fail (RbspBitReader.bitsLoop count out r) := by
  induction count generalizing out r with
  | zero => rfl
  | succ count ih =>
      exact stopped_andThen fail _ _ _ _ r (readBit_stopped fail r) fun bit r => ih _ r

theorem leadingZeros_stopped (fail : ε) (fuel zeros : Nat) (r : RbspBitReader) :
    leadingZeros fail fuel zeros r = stopped fail (RbspBitReader.zerosLoop fuel zeros r) := by
  induction fuel generalizing zeros r with
  | zero => rfl
  | succ fuel ih =>
      refine stopped_andThen fail _ _ _ _ r (readBit_stopped fail r) fun bit r => ?_
      split_ifs
      · rfl
      · exact ih _ r

/-- The parsers of the parameter sets make the same reads, up to their first failure. -/
theorem readUe_stopped (fail : ε) (r : RbspBitReader) : readUe fail r = stopped fail r.readUe := by
  refine stopped_andThen fail _ _ _ _ r (leadingZeros_stopped fail 32 0 r) fun zeros r => ?_
  refine stopped_andThen fail _ _ _ _ r ?_ fun suffix r => rfl
  rw [readSuffix]
  split_ifs
  · exact readLoop_stopped fail zeros 0 r
  · rfl

/-! ## Reads on a list of bits -/

/-- `ReadBits`: as many bits as it asks for, of which a number keeps the last 32. -/
def takeBits (count : Nat) (bits : List Bool) : Option Nat × List Bool :=
  if count ≤ bits.length then (some (ofBits (bits.take count) % 2 ^ 32), bits.drop count)
  else (none, [])

/-- `ReadUe`: a code of `zeros` zeros, a one and as many bits again; 32 zeros are too many. -/
def takeUe (bits : List Bool) : Option Nat × List Bool :=
  let zeros := (bits.takeWhile (!·)).length
  if zeros ≥ 32 then (none, bits.drop 32)
  else if 2 * zeros + 1 ≤ bits.length then
    (some (2 ^ zeros - 1 + ofBits ((bits.drop (zeros + 1)).take zeros)),
      bits.drop (2 * zeros + 1))
  else (none, [])

/-- The reader stands within a byte, in front of these bits. -/
def At (r : RbspBitReader) (bits : List Bool) : Prop := r.bitPos < 8 ∧ left r = bits

/-- A call delivers what the one on the bits in front of the reader does, and leaves what that
    leaves. -/
def Delivers (call : RbspBitReader → Option Nat × RbspBitReader)
    (take : List Bool → Option Nat × List Bool) : Prop :=
  ∀ r bits, At r bits → (call r).1 = (take bits).1 ∧ At (call r).2 (take bits).2

theorem nextBit_nil {r : RbspBitReader} (h : At r []) : r.nextBit = (none, r) := by
  obtain ⟨hbit, hleft⟩ := h
  have hend : r.bytePos ≥ r.data.length := by
    by_contra hlt
    rw [left, if_pos ⟨hbit, Nat.not_le.mp hlt⟩, byteBits_drop _ hbit] at hleft
    cases hleft
  rw [RbspBitReader.nextBit, if_pos hend]

theorem nextBit_bitPos {r : RbspBitReader} (h : r.bitPos < 8) : r.nextBit.2.bitPos < 8 := by
  rw [RbspBitReader.nextBit]
  dsimp only
  split_ifs
  · exact h
  · exact Nat.succ_pos 7
  · exact Nat.succ_pos 7
  · show r.bitPos + 1 < 8
    omega

theorem nextBit_cons {r : RbspBitReader} {b : Bool} {bits : List Bool} (h : At r (b :: bits)) :
    ∃ r', r.nextBit = (some b.toNat, r') ∧ At r' bits := by
  obtain ⟨hbit, hleft⟩ := h
  obtain ⟨r', hread, hrest⟩ := reads_bit () b r bits hleft
  rw [readBit_stopped] at hread
  have hbit' := nextBit_bitPos hbit
  match hnext : r.nextBit, hread with
  | (some bit, r''), hread =>
      obtain ⟨rfl, rfl⟩ := Prod.mk.inj (Except.ok.inj hread)
      rw [hnext] at hbit'
      exact ⟨r'', rfl, hbit', hrest⟩

/-- A bit put behind a number of 32 bits. -/
theorem shift_bit (out : Nat) {bit : Nat} (h : bit < 2) :
    (out <<< 1) % 2 ^ 32 ||| bit = (2 * out + bit) % 2 ^ 32 := by
  have heven : (out <<< 1) % 2 ^ 32 = (out % 2 ^ 31) <<< 1 := by
    rw [Nat.shiftLeft_eq, Nat.shiftLeft_eq]
    omega
  rw [heven, ← Nat.shiftLeft_add_eq_or_of_lt (i := 1) h, Nat.shiftLeft_eq]
  omega

theorem bitsLoop_delivers (count : Nat) {out : Nat} (hout : out < 2 ^ 32) :
    Delivers (RbspBitReader.bitsLoop count out) fun bits =>
      if count ≤ bits.length then
        (some ((out * 2 ^ count + ofBits (bits.take count)) % 2 ^ 32), bits.drop count)
      else (none, []) := by
  induction count generalizing out with
  | zero =>
      intro r bits h
      dsimp only
      rw [if_pos (Nat.zero_le _), List.take_zero, List.drop_zero, ofBits, Nat.pow_zero, Nat.mul_one,
        Nat.add_zero, Nat.mod_eq_of_lt hout]
      exact ⟨rfl, h⟩
  | succ count ih =>
      intro r bits h
      cases bits with
      | nil =>
          rw [RbspBitReader.bitsLoop, nextBit_nil h]
          exact ⟨rfl, h⟩
      | cons b bits =>
          obtain ⟨r', hnext, hrest⟩ := nextBit_cons h
          have hshift := shift_bit out (Bool.toNat_lt b)
          have hrest := ih (Nat.mod_lt (2 * out + b.toNat) (Nat.two_pow_pos 32)) r' bits hrest
          dsimp only at hrest ⊢
          rw [RbspBitReader.bitsLoop, hnext, List.length_cons, List.take_succ_cons,
            List.drop_succ_cons]
          dsimp only [RbspBitReader.andThen]
          rw [hshift]
          by_cases hlong : count ≤ bits.length
          · have hvalue : ((2 * out + b.toNat) % 2 ^ 32 * 2 ^ count + ofBits (bits.take count)) %
                2 ^ 32 = (out * 2 ^ (count + 1) + ofBits (b :: bits.take count)) % 2 ^ 32 := by
              have hmod := ((Nat.mod_modEq (2 * out + b.toNat) (2 ^ 32)).mul_right
                (2 ^ count)).add_right (ofBits (bits.take count))
              rw [hmod, ofBits, List.length_take, Nat.min_eq_left hlong, Nat.pow_succ]
              congr 1
              ring
            rw [if_pos hlong, hvalue] at hrest
            rw [if_pos (Nat.succ_le_succ hlong)]
            exact hrest
          · rw [if_neg hlong] at hrest
            rw [if_neg (mt Nat.le_of_succ_le_succ hlong)]
            exact hrest

theorem readBits_delivers (count : Nat) :
    Delivers (fun r => r.readBits count) (takeBits count) := by
  intro r bits h
  have hloop := bitsLoop_delivers count (Nat.two_pow_pos 32) r bits h
  dsimp only at hloop
  rw [Nat.zero_mul, Nat.zero_add] at hloop
  exact hloop

/-- The zeros in front of a one, if they are fewer than `fuel`. -/
def takeZeros : Nat → Nat → List Bool → Option Nat × List Bool
  | 0, _, bits => (none, bits)
  | _ + 1, _, [] => (none, [])
  | _ + 1, zeros, true :: bits => (some zeros, bits)
  | fuel + 1, zeros, false :: bits => takeZeros fuel (zeros + 1) bits

theorem zerosLoop_delivers (fuel zeros : Nat) :
    Delivers (RbspBitReader.zerosLoop fuel zeros) (takeZeros fuel zeros) := by
  induction fuel generalizing zeros with
  | zero => exact fun r bits h => ⟨rfl, h⟩
  | succ fuel ih =>
      intro r bits h
      cases bits with
      | nil =>
          rw [RbspBitReader.zerosLoop, nextBit_nil h]
          exact ⟨rfl, h⟩
      | cons b bits =>
          obtain ⟨r', hnext, hrest⟩ := nextBit_cons h
          rw [RbspBitReader.zerosLoop, hnext]
          cases b with
          | true => exact ⟨rfl, hrest⟩
          | false => exact ih (zeros + 1) r' bits hrest

theorem takeZeros_eq (fuel zeros : Nat) (bits : List Bool) :
    takeZeros fuel zeros bits =
      if (bits.takeWhile (!·)).length ≥ fuel then (none, bits.drop fuel)
      else if (bits.takeWhile (!·)).length < bits.length then
        (some (zeros + (bits.takeWhile (!·)).length),
          bits.drop ((bits.takeWhile (!·)).length + 1))
      else (none, []) := by
  induction fuel generalizing zeros bits with
  | zero => rfl
  | succ fuel ih =>
      match bits with
      | [] => rfl
      | true :: bits =>
          rw [List.takeWhile_cons_of_neg (by decide)]
          rfl
      | false :: bits =>
          rw [takeZeros, ih, List.takeWhile_cons_of_pos (by decide), List.length_cons,
            List.length_cons, List.drop_succ_cons, List.drop_succ_cons]
          simp only [ge_iff_le, Nat.add_le_add_iff_right, Nat.add_lt_add_iff_right]
          split_ifs <;> first | rfl | (rw [Nat.add_assoc, Nat.add_comm 1])

theorem readSuffix_eq (zeros : Nat) (r : RbspBitReader) :
    (if zeros > 0 then r.readBits zeros else (some 0, r)) = r.readBits zeros := by
  split_ifs with hpos
  · rfl
  · rw [Nat.eq_zero_of_not_pos hpos]
    rfl

theorem readUe_delivers : Delivers RbspBitReader.readUe takeUe := by
  intro r bits h
  obtain ⟨hzeros, hat⟩ := zerosLoop_delivers 32 0 r bits h
  rw [takeZeros_eq] at hzeros hat
  have hle : (bits.takeWhile (!·)).length ≤ bits.length := (List.takeWhile_prefix _).length_le
  rw [RbspBitReader.readUe, takeUe]
  generalize RbspBitReader.zerosLoop 32 0 r = first at hzeros hat ⊢
  generalize (bits.takeWhile (!·)).length = zeros at hzeros hat hle ⊢
  obtain ⟨read, r'⟩ := first
  by_cases hmany : zeros ≥ 32
  · rw [if_pos hmany] at hzeros hat
    obtain rfl : read = none := hzeros
    rw [if_pos hmany]
    exact ⟨rfl, hat⟩
  · rw [if_neg hmany] at hzeros hat
    rw [if_neg hmany]
    by_cases hone : zeros < bits.length
    · rw [if_pos hone] at hzeros hat
      obtain rfl : read = some (0 + zeros) := hzeros
      obtain ⟨hsuffix, hbehind⟩ := readBits_delivers zeros r' _ hat
      dsimp only [RbspBitReader.andThen] at hsuffix hbehind ⊢
      rw [Nat.zero_add, readSuffix_eq]
      rw [takeBits, List.length_drop] at hsuffix hbehind
      generalize r'.readBits zeros = second at hsuffix hbehind ⊢
      obtain ⟨suffix, r''⟩ := second
      by_cases hlong : 2 * zeros + 1 ≤ bits.length
      · have hlong' : zeros ≤ bits.length - (zeros + 1) := by omega
        have hbits := ofBits_lt ((bits.drop (zeros + 1)).take zeros)
        have hpow : 2 ^ zeros ≤ 2 ^ 31 := Nat.pow_le_pow_right (by decide) (by omega)
        rw [if_pos hlong'] at hsuffix hbehind
        rw [List.length_take, List.length_drop, Nat.min_eq_left hlong'] at hbits
        rw [Nat.mod_eq_of_lt (by omega)] at hsuffix
        obtain rfl : suffix = some _ := hsuffix
        rw [if_pos hlong]
        refine ⟨congrArg some ?_, ?_⟩
        · rw [Nat.one_shiftLeft, Nat.mod_eq_of_lt (by omega)]
        · rw [List.drop_drop] at hbehind
          rwa [show 2 * zeros + 1 = zeros + 1 + zeros by omega]
      · rw [if_neg (by omega)] at hsuffix hbehind
        obtain rfl : suffix = none := hsuffix
        rw [if_neg hlong]
        exact ⟨rfl, hbehind⟩
    · rw [if_neg hone] at hzeros hat
      obtain rfl : read = none := hzeros
      rw [if_neg (by omega)]
      exact ⟨rfl, hat⟩

/-! ## Sequences of reads -/

inductive Read where
  | bits (count : Nat)
  | ue

def Read.call : Read → RbspBitReader → Option Nat × RbspBitReader
  | .bits count, r => r.readBits count
  | .ue, r => r.readUe

def Read.take : Read → List Bool → Option Nat × List Bool
  | .bits count => takeBits count
  | .ue => takeUe

/-- What the reads deliver one after the other. -/
def readAll (r : RbspBitReader) : List Read → List (Option Nat)
  | [] => []
  | read :: reads => (read.call r).1 :: readAll (read.call r).2 reads

def takeAll (bits : List Bool) : List Read → List (Option Nat)
  | [] => []
  | read :: reads => (read.take bits).1 :: takeAll (read.take bits).2 reads

theorem Read.delivers (read : Read) : Delivers read.call read.take := by
  cases read with
  | bits count => exact readBits_delivers count
  | ue => exact readUe_delivers

theorem readAll_eq {r : RbspBitReader} {bits : List Bool} (h : At r bits) (reads : List Read) :
    readAll r reads = takeAll bits reads := by
  induction reads generalizing r bits with
  | nil => rfl
  | cons read reads ih =>
      obtain ⟨hread, hbehind⟩ := read.delivers r bits h
      rw [readAll, takeAll, hread, ih hbehind]

/-! ## The escaped form -/

/-- A byte string with a 3 in front of each byte up to 3 that comes behind two zeros; `closed`, with
    one behind the last byte, too, where it ends in two zeros. The two `Bool`s say which of the two
    bytes before are zero. -/
def escapeFrom (closed : Bool) : Bool → Bool → List UInt8 → List UInt8
  | z2, z1, [] => if closed && z2 && z1 then [3] else []
  | z2, z1, b :: rest =>
      if z2 && z1 && decide (b ≤ 3) then 3 :: b :: escapeFrom closed false (b == 0) rest
      else b :: escapeFrom closed z1 (b == 0) rest

def escape (closed : Bool) (bytes : List UInt8) : List UInt8 := escapeFrom closed false false bytes

theorem strip_escapeFrom (closed z2 z1 : Bool) (bytes : List UInt8) :
    strip z2 z1 (escapeFrom closed z2 z1 bytes) = bytes := by
  induction bytes generalizing z2 z1 with
  | nil =>
      cases closed <;> cases z2 <;> cases z1 <;> rfl
  | cons b bytes ih =>
      rw [escapeFrom]
      by_cases hescape : (z2 && z1 && decide (b ≤ 3)) = true
      · rw [if_pos hescape]
        rw [Bool.and_eq_true, Bool.and_eq_true] at hescape
        rw [hescape.1.1, hescape.1.2, strip, if_pos (by decide), strip, Bool.and_false,
          Bool.false_and, if_neg Bool.false_ne_true, ih]
      · have hkept : ¬ (z2 && z1 && b == 3) = true := by
          intro hthree
          rw [Bool.and_eq_true, beq_iff_eq] at hthree
          exact hescape (by rw [hthree.1, hthree.2]; rfl)
        rw [if_neg hescape, strip, if_neg hkept, ih]

theorem unescape_escape (closed : Bool) (bytes : List UInt8) :
    unescape (escape closed bytes) = bytes := by
  rw [← (strip_eq_unescape _).1 false]
  exact strip_escapeFrom closed false false bytes

theorem at_start (closed : Bool) (bytes : List UInt8) :
    At { data := escape closed bytes } (bytesBits bytes) :=
  ⟨Nat.succ_pos 7, by rw [left_start, unescape_escape]⟩

theorem takeBits_eq_none (count : Nat) (bits : List Bool) :
    (takeBits count bits).1 = none ↔ bits.length < count := by
  rw [takeBits]
  split_ifs with h
  · exact ⟨nofun, fun hshort => absurd h (Nat.not_le.mpr hshort)⟩
  · exact ⟨fun _ => Nat.not_le.mp h, fun _ => rfl⟩

theorem takeUe_eq_none (bits : List Bool) :
    (takeUe bits).1 = none ↔ 32 ≤ (bits.takeWhile (!·)).length ∨
      bits.length < 2 * (bits.takeWhile (!·)).length + 1 := by
  rw [takeUe]
  split_ifs with hmany hlong
  · exact ⟨fun _ => .inl hmany, fun _ => rfl⟩
  · refine ⟨nofun, ?_⟩
    rintro (hmany' | hshort)
    · exact absurd hmany' hmany
    · exact absurd hlong (Nat.not_le.mpr hshort)
  · exact ⟨fun _ => .inr (Nat.not_le.mp hlong), fun _ => rfl⟩

theorem takeUe_ueBits {n : Nat} (hn : n < 2 ^ 32 - 1) (behind : List Bool) :
    takeUe (ueBits n ++ behind) = (some n, behind) := by
  have hlog : (n + 1).log2 < 32 := (Nat.log2_lt (Nat.succ_ne_zero n)).mpr (by omega)
  have hge : 2 ^ (n + 1).log2 ≤ n + 1 := Nat.log2_self_le (Nat.succ_ne_zero n)
  have hpos := Nat.two_pow_pos (n + 1).log2
  have hzeros : ((ueBits n ++ behind).takeWhile (!·)).length = (n + 1).log2 := by
    rw [ueBits_eq, List.append_assoc, List.append_assoc, List.takeWhile_append_of_pos (by simp)]
    simp
  have hbehind : (ueBits n ++ behind).drop ((n + 1).log2 + 1) =
      natBits (n + 1).log2 (n + 1) ++ behind := by
    rw [ueBits_eq, List.append_assoc]
    exact List.drop_left' (by simp)
  have hlength : 2 * (n + 1).log2 + 1 ≤ (ueBits n ++ behind).length := by
    rw [ueBits_eq]
    simp only [List.length_append, List.length_replicate, List.length_singleton, length_natBits]
    omega
  rw [takeUe]
  rw [hzeros, if_neg (Nat.not_le.mpr hlog), if_pos hlength, hbehind,
    List.take_left' (length_natBits _ _), ofBits_natBits_mod, mod_log2,
    show 2 * (n + 1).log2 + 1 = (n + 1).log2 + 1 + (n + 1).log2 by omega, ← List.drop_drop, hbehind,
    List.drop_left' (length_natBits _ _), show 2 ^ (n + 1).log2 - 1 + (n + 1 - 2 ^ (n + 1).log2) = n
      by omega]

/-- Any reads on the escaped form of a byte string, one after the other, deliver what the same
    reads on its bits deliver. `ReadBits` fails if and only if fewer bits are left than it asks for;
    `ReadUe` fails if and only if fewer are left than the zeros ask for, or there are 32 zeros; and
    of the code of a number below 2³² - 1 it is the number. -/
theorem emulation_round_trip :
    (∀ (closed : Bool) (bytes : List UInt8) (reads : List Read),
        readAll { data := escape closed bytes } reads = takeAll (bytesBits bytes) reads) ∧
      (∀ (count : Nat) (bits : List Bool), (takeBits count bits).1 = none ↔ bits.length < count) ∧
      (∀ bits : List Bool, (takeUe bits).1 = none ↔
        32 ≤ (bits.takeWhile (!·)).length ∨
          bits.length < 2 * (bits.takeWhile (!·)).length + 1) ∧
      ∀ (n : Nat) (behind : List Bool), n < 2 ^ 32 - 1 →
        takeUe (ueBits n ++ behind) = (some n, behind) :=
  ⟨fun closed bytes => readAll_eq (at_start closed bytes), takeBits_eq_none, takeUe_eq_none,
    fun _ behind hn => takeUe_ueBits hn behind⟩

/-- A code of 32 zeros, of which all 65 bits are there. -/
def longCode : List UInt8 := [0, 0, 0, 0, 255, 255, 255, 255, 255]

theorem thirtyTwo_zeros_refused :
    (RbspBitReader.readUe { data := escape false longCode }).1 = none ∧
      ((bytesBits longCode).takeWhile (!·)).length = 32 ∧
      2 * 32 + 1 ≤ (bytesBits longCode).length := by
  decide

end Exosnap.Engine.Rbsp
