/-
  The parser of `codec_private.cpp` on the bits of a valid sequence header, part by part.

  `left` is what a bit reader has not read. One lemma for each part of the parser says which bits
  it takes (`BitString.Reads`), where it takes those of the syntax. Two parts do so under a
  condition: an operating point whose level index is not 4 to 7, in a stream without a decoder
  model (`reads_operatingPoint`). The last part, `readSubsampling`, is followed to its answer only
  (`Answers`): for 12 bits the answer is not the header's (`answers_subsampling`).
-/
import Exosnap.Engine.CodecPrivate
import Exosnap.Engine.Av1Syntax
import Mathlib.Tactic.Ring

namespace Exosnap.Engine.CodecPrivate

open BitString Av1

/-! ## Single reads -/

/-- The bits in front of a reader. -/
def left (br : BitReader) : List Bool :=
  if br.overflow then [] else (bytesBits br.data).drop br.pos

theorem left_eq {br : BitReader} (h : br.overflow = false) :
    left br = (bytesBits br.data).drop br.pos := by
  rw [left, h]
  rfl

/-- The reader behind `n` more bits. -/
def advance (br : BitReader) (n : Nat) : BitReader := { br with pos := br.pos + n }

theorem left_advance {br : BitReader} (h : br.overflow = false) (n : Nat) :
    left (advance br n) = (left br).drop n := by
  have hadvanced : left (advance br n) = (bytesBits br.data).drop (br.pos + n) := left_eq h
  rw [hadvanced, left_eq h, List.drop_drop]

theorem overflow_of_ne {br : BitReader} (h : left br ≠ []) : br.overflow = false := by
  unfold left at h
  split at h
  · exact absurd rfl h
  · next ho => simpa using ho

theorem overflow_of_left {br : BitReader} {b : Bool} {bits : List Bool} (h : left br = b :: bits) :
    br.overflow = false := overflow_of_ne (by rw [h]; exact nofun)

/-- The bit at the position is the first of those in front. -/
theorem bit_of_left {br : BitReader} {b : Bool} {bits : List Bool} (h : left br = b :: bits) :
    br.bit = b.toNat := by
  have ho := overflow_of_left h
  rw [left_eq ho] at h
  have hget : (bytesBits br.data)[br.pos]? = some b := by
    rw [← List.head?_drop, h]
    rfl
  have hlt := (List.getElem?_eq_some_iff.mp hget).1
  rw [length_bytesBits] at hlt
  rw [bytesBits_getElem? hlt] at hget
  have hbit := Option.some.inj hget
  rw [BitReader.bit, ← hbit, Nat.toNat_testBit, Nat.and_one_is_mod, Nat.shiftRight_eq_div_pow]

theorem readLoop_spec (bits : List Bool) :
    ∀ {br : BitReader} {tail : List Bool} (val : Nat), left br = bits ++ tail →
      BitReader.readLoop bits.length br val =
        (val * 2 ^ bits.length + ofBits bits, advance br bits.length) := by
  induction bits with
  | nil =>
    intro br tail val _
    simp [BitReader.readLoop, ofBits, advance]
  | cons b bits ih =>
    intro br tail val h
    have ho := overflow_of_left h
    have hnext : left (advance br 1) = bits ++ tail := by
      rw [left_advance ho, h]
      rfl
    have hor : val <<< 1 ||| b.toNat = 2 * val + b.toNat := by
      have hb : b.toNat < 2 ^ 1 := by cases b <;> decide
      rw [← Nat.shiftLeft_add_eq_or_of_lt hb, Nat.shiftLeft_eq]
      omega
    have hrest := ih (val <<< 1 ||| b.toNat) hnext
    rw [List.length_cons, BitReader.readLoop, bit_of_left h]
    refine hrest.trans (Prod.ext ?_ ?_)
    · dsimp only
      rw [hor, ofBits, Nat.pow_succ]
      ring
    · dsimp only [advance]
      rw [Nat.add_assoc, Nat.add_comm 1]

theorem f_spec {br : BitReader} {bits tail : List Bool} (hne : bits ≠ [])
    (h : left br = bits ++ tail) :
    br.f bits.length = (ofBits bits, advance br bits.length) := by
  obtain ⟨b, bits', rfl⟩ := List.exists_cons_of_ne_nil hne
  have ho := overflow_of_left h
  have hroom : br.pos + (b :: bits').length ≤ br.totalBits := by
    have hlen := congrArg List.length ((left_eq ho).symm.trans h)
    rw [List.length_drop, length_bytesBits, List.length_append] at hlen
    have hpos : 0 < (b :: bits').length := Nat.succ_pos _
    unfold BitReader.totalBits
    omega
  have hloop := readLoop_spec (b :: bits') 0 h
  rw [Nat.zero_mul, Nat.zero_add] at hloop
  have hpos : (b :: bits').length ≠ 0 := Nat.succ_ne_zero _
  unfold BitReader.f
  rw [if_neg hpos, if_neg (by omega), hloop]

/-- A read takes as many bits as its width. -/
theorem reads_bits {n : Nat} {bits : List Bool} (hlen : bits.length = n) (hn : n ≠ 0)
    (ctx : String) : Reads left (read n ctx) bits (ofBits bits) := by
  intro br tail h
  subst hlen
  have hne : bits ≠ [] := fun hnil => hn (by rw [hnil]; rfl)
  have hf := f_spec hne h
  obtain ⟨b, bits', rfl⟩ := List.exists_cons_of_ne_nil hne
  have ho := overflow_of_left h
  refine ⟨advance br (b :: bits').length, ?_, ?_⟩
  · unfold read checked
    dsimp only
    rw [hf, if_neg (by rw [show (advance br _).overflow = br.overflow from rfl, ho]; exact nofun)]
  · rw [left_advance ho, h, List.drop_left]

theorem reads_field {n v : Nat} (hv : v < 2 ^ n) (hn : n ≠ 0) (ctx : String) :
    Reads left (read n ctx) (natBits n v) v := by
  have h := reads_bits (length_natBits n v) hn ctx
  rwa [ofBits_natBits hv] at h

theorem reads_flag (b : Bool) (ctx : String) : Reads left (read 1 ctx) [b] b.toNat := by
  have h : Reads left (read 1 ctx) [b] (ofBits [b]) :=
    reads_bits (rfl : [b].length = 1) Nat.one_ne_zero ctx
  rwa [show ofBits [b] = b.toNat by simp [ofBits]] at h

theorem reads_skip {n : Nat} {bits : List Bool} (hlen : bits.length = n) (hn : n ≠ 0)
    (ctx : String) : Reads left (skip n ctx) bits () := by
  have h := (reads_bits hlen hn ctx).bind (k := fun _ => pure ()) (Reads.pure ())
  rwa [List.append_nil] at h

theorem reads_skipField (n v : Nat) (hn : n ≠ 0) (ctx : String) :
    Reads left (skip n ctx) (natBits n v) () := reads_skip (length_natBits n v) hn ctx

theorem reads_skipFlag (b : Bool) (ctx : String) : Reads left (skip 1 ctx) [b] () :=
  reads_skip (rfl : [b].length = 1) Nat.one_ne_zero ctx

/-! ## `uvlc` -/

/-- One bit read, in the form that `leadingZeros` and `uvlc` use. -/
theorem f_one {br : BitReader} {b : Bool} {tail : List Bool} (h : left br = b :: tail) :
    br.f 1 = (b.toNat, advance br 1) ∧ (advance br 1).overflow = false ∧
      left (advance br 1) = tail := by
  have hf : br.f [b].length = (ofBits [b], advance br [b].length) := f_spec nofun h
  have ho := overflow_of_left h
  refine ⟨?_, ho, ?_⟩
  · rw [show ofBits [b] = b.toNat by simp [ofBits]] at hf
    exact hf
  · rw [left_advance ho, h]
    rfl

theorem leadingZeros_spec (n : Nat) :
    ∀ {br : BitReader} {tail : List Bool} (fuel zeros : Nat), n < fuel →
      left br = List.replicate n false ++ true :: tail →
      BitReader.leadingZeros fuel br zeros = (zeros + n, advance br (n + 1)) := by
  induction n with
  | zero =>
    intro br tail fuel zeros hfuel h
    obtain ⟨fuel, rfl⟩ : ∃ k, fuel = k + 1 := ⟨fuel - 1, by omega⟩
    obtain ⟨hf, ho, -⟩ := f_one h
    unfold BitReader.leadingZeros
    rw [hf]
    dsimp only
    rw [ho]
    rfl
  | succ n ih =>
    intro br tail fuel zeros hfuel h
    obtain ⟨fuel, rfl⟩ : ∃ k, fuel = k + 1 := ⟨fuel - 1, by omega⟩
    obtain ⟨hf, ho, hleft⟩ := f_one h
    have hrest := ih fuel (zeros + 1) (by omega) hleft
    unfold BitReader.leadingZeros
    rw [hf]
    dsimp only
    rw [ho]
    refine hrest.trans (Prod.ext ?_ ?_)
    · dsimp only
      omega
    · dsimp only [advance]
      rw [Nat.add_assoc, Nat.add_comm 1]

theorem uvlcBits_eq (v : Nat) :
    uvlcBits v = List.replicate (v + 1).log2 false ++ true :: natBits (v + 1).log2 (v + 1) := by
  rw [uvlcBits, natBits, Nat.testBit_log2 (Nat.succ_ne_zero v)]

theorem uvlc_spec {br : BitReader} {v : Nat} {tail : List Bool} (hv : v < 2 ^ 32 - 1)
    (h : left br = uvlcBits v ++ tail) :
    ∃ n, br.uvlc = (v, advance br n) ∧ (uvlcBits v).length = n := by
  have hlog : (v + 1).log2 < 32 := (Nat.log2_lt (Nat.succ_ne_zero v)).mpr (by omega)
  have hge := Nat.log2_self_le (Nat.succ_ne_zero v)
  have hlt := @Nat.lt_log2_self (v + 1)
  rw [uvlcBits_eq, List.append_assoc, List.cons_append] at h
  have ho : br.overflow = false := overflow_of_ne (by rw [h]; simp)
  have hzeros := leadingZeros_spec _ 32 0 hlog h
  rw [Nat.zero_add] at hzeros
  refine ⟨(uvlcBits v).length, ?_, rfl⟩
  have hlen : (uvlcBits v).length = (v + 1).log2 + 1 + (v + 1).log2 := by
    rw [uvlcBits_eq, List.length_append, List.length_replicate, List.length_cons, length_natBits]
    omega
  rw [hlen]
  generalize hk : (v + 1).log2 = k at *
  unfold BitReader.uvlc
  rw [hzeros]
  dsimp only
  rw [show (advance br (k + 1)).overflow = false from ho, if_neg nofun]
  by_cases hzero : k = 0
  · subst hzero
    rw [if_pos rfl]
    refine Prod.ext ?_ rfl
    dsimp only
    omega
  · have hleft : left (advance br (k + 1)) = natBits k (v + 1) ++ tail := by
      rw [left_advance ho, h, List.drop_append, List.length_replicate,
        List.drop_eq_nil_of_le (by simp), show k + 1 - k = 1 by omega]
      rfl
    have hne : natBits k (v + 1) ≠ [] := fun hnil => hzero (by
      have := congrArg List.length hnil
      rwa [length_natBits] at this)
    have hf := f_spec hne hleft
    rw [length_natBits, ofBits_natBits_mod] at hf
    rw [if_neg hzero, hf]
    dsimp only
    rw [show (advance (advance br (k + 1)) k).overflow = false from ho, if_neg nofun]
    have hmod : (v + 1) % 2 ^ k = v + 1 - 2 ^ k := by
      rw [Nat.mod_eq_sub_mod hge, Nat.mod_eq_of_lt]
      rw [Nat.pow_succ] at hlt
      omega
    refine Prod.ext ?_ ?_
    · dsimp only
      rw [hmod, Nat.shiftLeft_eq]
      omega
    · dsimp only [advance]
      rw [Nat.add_assoc]

/-- A number below `2^32 - 1` has at most 31 zeros in front. -/
theorem reads_uvlc {v : Nat} (hv : v < 2 ^ 32 - 1) (ctx : String) :
    Reads left (readUvlc ctx) (uvlcBits v) v := by
  intro br tail h
  obtain ⟨n, huvlc, hlen⟩ := uvlc_spec hv h
  have ho : br.overflow = false := by
    refine overflow_of_ne ?_
    rw [h, uvlcBits_eq]
    simp
  refine ⟨advance br n, ?_, ?_⟩
  · unfold readUvlc checked
    dsimp only
    rw [huvlc, if_neg (by rw [show (advance br n).overflow = false from ho]; exact nofun)]
  · rw [left_advance ho, h, ← hlen, List.drop_left]

/-! ## Timing and operating points -/

theorem reads_pictureInterval {ticks : Option Nat} (hticks : ∀ n ∈ ticks, n < 2 ^ 32 - 1) :
    Reads left skipPictureInterval (optionBits uvlcBits ticks) () := by
  cases ticks with
  | none => exact (reads_flag false _).bind (Reads.pure ())
  | some n =>
    have huvlc := (reads_uvlc (hticks n rfl) "num_ticks_per_picture_minus_1").map fun _ => ()
    exact (reads_flag true _).bind huvlc

/-- A stream without a decoder model. -/
theorem reads_timingInfo {h : SequenceHeader} (hv : h.Valid) (hmodel : h.decoderModelInfo = none) :
    Reads left readTimingInfo h.timingBits {} := by
  have hticks := hv.ticks
  unfold SequenceHeader.timingBits
  rw [hmodel]
  cases ht : h.timingInfo with
  | none => exact (reads_flag false _).bind (Reads.pure ({} : DecoderModel))
  | some t =>
    rw [ht] at hticks
    have hmodel : Reads left readDecoderModel [false] {} :=
      (reads_flag false _).bind (Reads.pure ({} : DecoderModel))
    dsimp only [TimingInfo.bits]
    rw [List.append_assoc, List.append_assoc]
    exact (reads_flag true _).bind ((reads_skipField 32 _ (by decide) _).bind
      ((reads_skipField 32 _ (by decide) _).bind ((reads_pictureInterval (hticks t rfl)).bind hmodel)))

theorem reads_initialDisplayDelay (present : Bool) (delay : Option Nat) :
    Reads left (skipInitialDisplayDelay present.toNat)
      (if present then optionBits (natBits 4) delay else []) () := by
  cases present with
  | false => exact Reads.pure ()
  | true =>
    cases delay with
    | none => exact (reads_flag false _).bind (Reads.pure ())
    | some n => exact (reads_flag true _).bind (reads_skipField 4 n (by decide) _)

/-- The tier bit is where the parser looks for it, but for the level indices 4 to 7. -/
theorem reads_operatingPoint {op : OperatingPoint} (hlevel : op.seqLevelIdx < 32)
    (htier : op.seqLevelIdx ≤ 7 → op.seqTier = false)
    (hclear : op.seqLevelIdx < 4 ∨ 7 < op.seqLevelIdx) (present : Bool) :
    Reads left (readOperatingPoint {} present.toNat) (op.bits none present)
      (op.seqLevelIdx, op.seqTier.toNat) := by
  have hread : Reads left (if 4 ≤ op.seqLevelIdx then read 1 "seq_tier" else pure 0)
      (if 7 < op.seqLevelIdx then [op.seqTier] else []) op.seqTier.toNat := by
    rcases hclear with hlow | hhigh
    · rw [if_neg (by omega), if_neg (by omega), htier (by omega)]
      exact Reads.pure 0
    · rw [if_pos (by omega), if_pos hhigh]
      exact reads_flag _ _
  have hdelay := (reads_initialDisplayDelay present op.initialDisplayDelayMinus1).map
    fun _ => (op.seqLevelIdx, op.seqTier.toNat)
  exact (reads_skipField 12 _ (by decide) _).bind ((reads_field hlevel (by decide) _).bind
    (hread.bind ((Reads.pure ()).bind hdelay)))

theorem reads_operatingPoints (present : Bool) (ops : List OperatingPoint)
    (hops : ∀ op ∈ ops, op.seqLevelIdx < 32 ∧ (op.seqLevelIdx ≤ 7 → op.seqTier = false) ∧
      (op.seqLevelIdx < 4 ∨ 7 < op.seqLevelIdx)) :
    Reads left (readOperatingPoints {} present.toNat ops.length)
      (ops.flatMap (OperatingPoint.bits none present))
      (ops.map fun op => (op.seqLevelIdx, op.seqTier.toNat)) := by
  induction ops with
  | nil => exact Reads.pure []
  | cons op ops ih =>
    obtain ⟨hlevel, htier, hclear⟩ := hops op List.mem_cons_self
    have hrest := (ih fun op hop => hops op (List.mem_cons_of_mem _ hop)).map
      fun points => (op.seqLevelIdx, op.seqTier.toNat) :: points
    exact (reads_operatingPoint hlevel htier hclear present).bind hrest

/-- Level and tier of the first operating point. -/
theorem reads_level {h : SequenceHeader} (hv : h.Valid) (hmodel : h.decoderModelInfo = none)
    (hclear : ∀ op ∈ h.operatingPoints, op.seqLevelIdx < 4 ∨ 7 < op.seqLevelIdx) :
    Reads left (readLevel {}) h.operatingBits
      (h.operatingPoints.head?.elim 0 (·.seqLevelIdx),
        (h.operatingPoints.head?.elim false (·.seqTier)).toNat) := by
  have hpos := hv.points_pos
  have hle := hv.points_le
  have hcount : h.operatingPoints.length - 1 + 1 = h.operatingPoints.length := by omega
  have hpoints := (reads_operatingPoints h.initialDisplayDelayPresent h.operatingPoints
    fun op hop => ⟨hv.level op hop, hv.tier op hop, hclear op hop⟩).map (·.headD (0, 0))
  have hhead : (h.operatingPoints.map fun op => (op.seqLevelIdx, op.seqTier.toNat)).headD (0, 0) =
      (h.operatingPoints.head?.elim 0 (·.seqLevelIdx),
        (h.operatingPoints.head?.elim false (·.seqTier)).toNat) := by
    cases h.operatingPoints <;> rfl
  rw [hhead, ← hcount] at hpoints
  unfold SequenceHeader.operatingBits
  rw [hmodel]
  exact (reads_flag _ _).bind ((reads_field (by omega) (by decide) _).bind hpoints)

/-! ## Size, frame ids, tools -/

theorem reads_frameSize {h : SequenceHeader} (hv : h.Valid) :
    Reads left skipFrameSize h.sizeBits () :=
  (reads_field (n := 4) hv.widthBits (by decide) _).bind
    ((reads_field (n := 4) hv.heightBits (by decide) _).bind
      ((reads_skipField _ _ (Nat.succ_ne_zero _) _).bind
        (reads_skipField _ _ (Nat.succ_ne_zero _) _)))

theorem reads_frameIds (ids : Option (Nat × Nat)) :
    Reads left skipFrameIds (optionBits (fun n => natBits 4 n.1 ++ natBits 3 n.2) ids) () := by
  cases ids with
  | none => exact (reads_flag false _).bind (Reads.pure ())
  | some n =>
    exact (reads_flag true _).bind ((reads_skipField 4 _ (by decide) _).bind
      (reads_skipField 3 _ (by decide) _))

/-- The flag `enable_order_hint` and, elsewhere, what it announces. -/
theorem reads_orderHint (o : Option OrderHint) :
    Reads left (skipOrderHint o.isSome.toNat)
        (o.elim [] fun o => [o.enableJntComp, o.enableRefFrameMvs]) () ∧
      Reads left (skipOrderHintBits o.isSome.toNat)
        (o.elim [] fun o => natBits 3 o.orderHintBitsMinus1) () := by
  cases o with
  | none => exact ⟨Reads.pure (), Reads.pure ()⟩
  | some o =>
    exact ⟨(reads_skipFlag _ _).bind (reads_skipFlag _ _), reads_skipField 3 _ (by decide) _⟩

theorem reads_forceScreenContentTools (force : Option Bool) :
    Reads left readForceScreenContentTools (chooseBits force) (force.elim 2 Bool.toNat) := by
  cases force with
  | none => exact (reads_flag true _).bind (Reads.pure 2)
  | some force => exact (reads_flag false _).bind (reads_flag force _)

theorem reads_integerMv (force : Option Bool) (mv : Option Bool) :
    Reads left (skipIntegerMv (force.elim 2 Bool.toNat))
      (if force = some false then [] else chooseBits mv) () := by
  have hchoose : Reads left (skipIntegerMv 2) (chooseBits mv) () := by
    cases mv with
    | none => exact (reads_flag true _).bind (Reads.pure ())
    | some mv => exact (reads_flag false _).bind (reads_skipFlag mv _)
  rcases force with _ | _ | _
  · exact hchoose
  · exact Reads.pure ()
  · exact hchoose

theorem reads_tools (t : Tools) : Reads left skipTools t.bits () := by
  obtain ⟨hhint, hhintBits⟩ := reads_orderHint t.orderHint
  have hforce := reads_forceScreenContentTools t.forceScreenContentTools
  have hmv := reads_integerMv t.forceScreenContentTools t.forceIntegerMv
  exact (reads_skipFlag _ _).bind ((reads_skipFlag _ _).bind ((reads_skipFlag _ _).bind
    ((reads_skipFlag _ _).bind ((reads_skipFlag _ _).bind ((reads_skipFlag _ _).bind
      ((reads_skipFlag _ _).bind ((reads_flag _ _).bind (hhint.bind (hforce.bind (hmv.bind
        (hhintBits.bind ((reads_skipFlag _ _).bind ((reads_skipFlag _ _).bind
          (reads_skipFlag _ _))))))))))))))

/-! ## Color -/

theorem reads_colorDescription {d : Option (Nat × Nat × Nat)}
    (hd : ∀ x ∈ d, x.1 < 256 ∧ x.2.1 < 256 ∧ x.2.2 < 256) :
    Reads left readColorDescription
      (optionBits (fun d => natBits 8 d.1 ++ (natBits 8 d.2.1 ++ natBits 8 d.2.2)) d)
      (d.getD (2, 2, 2)) := by
  cases d with
  | none => exact (reads_flag false _).bind (Reads.pure (2, 2, 2))
  | some d =>
    obtain ⟨hprimaries, htransfer, hmatrix⟩ := hd d rfl
    exact (reads_flag true _).bind ((reads_field (n := 8) hprimaries (by decide) _).bind
      ((reads_field (n := 8) htransfer (by decide) _).bind
        ((reads_field (n := 8) hmatrix (by decide) _).map fun m => (d.1, d.2.1, m))))

/-- What the parser takes for the sample position where the subsampling is coded: the two bits
    behind the color range. -/
def misreadPosition (c : Av1.ColorConfig) : Nat :=
  if c.subsamplingX then if c.subsamplingY then 3 else 2 else c.separateUvDeltaQ.toNat

/-- The subsampling and the sample position that the parser comes to. -/
def parsedChroma (c : Av1.ColorConfig) (seqProfile : Nat) : Nat × Nat × Nat :=
  if c.subsamplingCoded seqProfile then (1, 1, misreadPosition c)
  else (c.subsamplingX.toNat, c.subsamplingY.toNat, c.chromaSamplePosition)

/-- For 12 bits the parser reads a sample position wherever the header is. -/
theorem reads_chroma_twelve (range first second third : Bool) :
    Reads left (readChroma 2 1) [range, first, second, third]
      (1, 1, 2 * first.toNat + second.toNat) := by
  have hposition : Reads left (read 2 "chroma_sample_position") [first, second]
      (ofBits [first, second]) :=
    reads_bits (rfl : [first, second].length = 2) (Nat.succ_ne_zero 1) _
  have hvalue : ofBits [first, second] = 2 * first.toNat + second.toNat := by
    simp [ofBits, Nat.mul_comm]
  rw [hvalue] at hposition
  exact (reads_skipFlag range _).bind (hposition.bind ((reads_skipFlag third _).map fun _ => _))

/-- Where the subsampling follows from the profile, the parser and the syntax agree on it. -/
theorem reads_chroma {c : Av1.ColorConfig} {seqProfile : Nat} (hprofile : seqProfile ≤ 2)
    (hc : c.Valid seqProfile) (hmono : c.monoChrome = false) (hsrgb : c.isSrgb = false)
    (hcoded : c.subsamplingCoded seqProfile = false) :
    Reads left (readChroma seqProfile c.twelveBit.toNat)
      ([c.colorRange] ++ ((if c.subsamplingX && c.subsamplingY then
        natBits 2 c.chromaSamplePosition else []) ++ [c.separateUvDeltaQ]))
      (c.subsamplingX.toNat, c.subsamplingY.toNat, c.chromaSamplePosition) := by
  obtain ⟨hx, hy⟩ := hc.profile hmono hsrgb hcoded
  have hsubsampling : profileSubsampling seqProfile c.twelveBit.toNat =
      (c.subsamplingX.toNat, c.subsamplingY.toNat) := by
    rw [hx, hy]
    obtain rfl | rfl | rfl : seqProfile = 0 ∨ seqProfile = 1 ∨ seqProfile = 2 := by omega
    · rfl
    · rfl
    · have htwelve : c.twelveBit = false := by
        simpa [ColorConfig.subsamplingCoded, hmono, hsrgb] using hcoded
      rw [htwelve]
      rfl
  have hposition : Reads left
      (if c.subsamplingX.toNat ≠ 0 ∧ c.subsamplingY.toNat ≠ 0 then read 2 "chroma_sample_position"
        else pure 0)
      (if c.subsamplingX && c.subsamplingY then natBits 2 c.chromaSamplePosition else [])
      c.chromaSamplePosition := by
    cases hboth : c.subsamplingX && c.subsamplingY with
    | true =>
      rw [Bool.and_eq_true] at hboth
      rw [hboth.1, hboth.2, if_pos (by decide)]
      exact reads_field (n := 2) hc.position_lt (by decide) _
    | false =>
      have hzero := hc.position (by
        rw [hmono, hsrgb, Bool.false_or, Bool.false_or, ← Bool.not_and, hboth]
        rfl)
      rw [hzero, if_neg ?_]
      · exact Reads.pure 0
      · rintro ⟨hxne, hyne⟩
        cases hcx : c.subsamplingX <;> cases hcy : c.subsamplingY <;> simp_all
  unfold readChroma
  rw [hsubsampling]
  exact (reads_skipFlag _ _).bind (hposition.bind ((reads_skipFlag _ _).map fun _ => _))

/-- The film grain flag behind the color config is the bit that `separate_uv_delta_q` is read
    from, at the latest. -/
theorem answers_subsampling {c : Av1.ColorConfig} {seqProfile : Nat} (hprofile : seqProfile ≤ 2)
    (hc : c.Valid seqProfile) (filmGrain : Bool) :
    Answers left
      (readSubsampling seqProfile c.twelveBit.toNat c.monoChrome.toNat
        (c.description.getD (2, 2, 2)))
      (c.chromaBits seqProfile ++ [filmGrain]) (parsedChroma c seqProfile) := by
  have hcoded : c.subsamplingCoded seqProfile = (!c.monoChrome && !c.isSrgb && seqProfile == 2 &&
    c.twelveBit) := rfl
  unfold readSubsampling ColorConfig.chromaBits
  cases hmono : c.monoChrome with
  | true =>
    obtain ⟨hx, hy⟩ := hc.mono hmono
    have hposition := hc.position (by rw [hmono]; rfl)
    rw [parsedChroma, hcoded, hmono, hx, hy, hposition]
    exact ((reads_skipFlag c.colorRange _).map fun _ => (1, 1, 0)).answers [filmGrain]
  | false =>
    cases hsrgb : c.isSrgb with
    | true =>
      obtain ⟨hx, hy⟩ := hc.srgb hmono hsrgb
      have hposition := hc.position (by rw [hmono, hsrgb]; rfl)
      have hdescription : c.description.getD (2, 2, 2) = (1, 13, 0) := by
        simpa [ColorConfig.isSrgb] using hsrgb
      rw [parsedChroma, hcoded, hmono, hsrgb, hx, hy, hposition, hdescription]
      exact (Reads.pure (0, 0, 0)).answers [c.separateUvDeltaQ, filmGrain]
    | false =>
      have hdescription : c.description.getD (2, 2, 2) ≠ (1, 13, 0) := by
        simpa [ColorConfig.isSrgb] using hsrgb
      rw [if_neg nofun, if_neg hdescription, if_neg nofun, if_neg nofun, parsedChroma]
      cases hsub : c.subsamplingCoded seqProfile with
      | false => exact (reads_chroma hprofile hc hmono hsrgb hsub).answers [filmGrain]
      | true =>
        have htwelve : seqProfile = 2 ∧ c.twelveBit = true := by
          simpa [ColorConfig.subsamplingCoded, hmono, hsrgb] using hsub
        have hfalse := hc.coded hsub
        rw [htwelve.1, htwelve.2, if_pos rfl, if_pos rfl, misreadPosition]
        cases hx : c.subsamplingX with
        | false =>
          have hread := (reads_chroma_twelve c.colorRange false c.separateUvDeltaQ
            filmGrain).answers []
          rw [show 2 * false.toNat + c.separateUvDeltaQ.toNat = c.separateUvDeltaQ.toNat from
            Nat.zero_add _] at hread
          rw [hfalse hx]
          exact hread
        | true =>
          cases hy : c.subsamplingY with
          | false => exact (reads_chroma_twelve _ true false c.separateUvDeltaQ).answers [filmGrain]
          | true =>
            exact (reads_chroma_twelve _ true true (c.chromaSamplePosition.testBit 1)).answers
              [c.chromaSamplePosition.testBit 0, c.separateUvDeltaQ, filmGrain]

theorem answers_colorConfig {c : Av1.ColorConfig} {seqProfile : Nat} (hprofile : seqProfile ≤ 2)
    (hc : c.Valid seqProfile) (filmGrain : Bool) :
    Answers left (readColorConfig seqProfile) (c.bits seqProfile ++ [filmGrain])
      { highBitdepth := c.highBitdepth.toNat
        twelveBit := c.twelveBit.toNat
        monoChrome := c.monoChrome.toNat
        subsamplingX := (parsedChroma c seqProfile).1
        subsamplingY := (parsedChroma c seqProfile).2.1
        chromaSamplePosition := (parsedChroma c seqProfile).2.2 } := by
  have htwelve : Reads left
      (if seqProfile = 2 ∧ c.highBitdepth.toNat ≠ 0 then read 1 "twelve_bit" else pure 0)
      (if seqProfile = 2 ∧ c.highBitdepth = true then [c.twelveBit] else []) c.twelveBit.toNat := by
    by_cases hcoded : seqProfile = 2 ∧ c.highBitdepth = true
    · rw [if_pos hcoded, if_pos ⟨hcoded.1, by rw [hcoded.2]; decide⟩]
      exact reads_flag _ _
    · have hclear : c.twelveBit = false := Bool.eq_false_iff.mpr fun h => hcoded (hc.twelveBit h)
      rw [if_neg hcoded, if_neg fun h => hcoded ⟨h.1, by simpa using h.2⟩, hclear]
      exact Reads.pure 0
  have hmono : Reads left (if seqProfile = 1 then pure 0 else read 1 "mono_chrome")
      (if seqProfile = 1 then [] else [c.monoChrome]) c.monoChrome.toNat := by
    by_cases hone : seqProfile = 1
    · have hclear : c.monoChrome = false :=
        Bool.eq_false_iff.mpr fun h => hc.monoChrome h hone
      rw [if_pos hone, if_pos hone, hclear]
      exact Reads.pure 0
    · rw [if_neg hone, if_neg hone]
      exact reads_flag _ _
  have hchroma := answers_subsampling hprofile hc filmGrain
  unfold ColorConfig.bits
  rw [List.append_assoc, List.append_assoc, List.append_assoc, List.append_assoc]
  exact (reads_flag _ _).bind_answers (htwelve.bind_answers (hmono.bind_answers
    ((reads_colorDescription hc.description).bind_answers (hchroma.map fun _ => _))))

/-! ## The header -/

/-- What the parser makes of a header. -/
def parsedHeader (h : SequenceHeader) : ParsedHeader where
  seqProfile := h.seqProfile
  seqLevelIdx0 := h.operatingPoints.head?.elim 0 (·.seqLevelIdx)
  seqTier0 := (h.operatingPoints.head?.elim false (·.seqTier)).toNat
  color :=
    { highBitdepth := h.color.highBitdepth.toNat
      twelveBit := h.color.twelveBit.toNat
      monoChrome := h.color.monoChrome.toNat
      subsamplingX := (parsedChroma h.color h.seqProfile).1
      subsamplingY := (parsedChroma h.color h.seqProfile).2.1
      chromaSamplePosition := (parsedChroma h.color h.seqProfile).2.2 }

theorem answers_sequenceHeader {h : SequenceHeader} (hv : h.Valid)
    (hmodel : h.decoderModelInfo = none)
    (hclear : ∀ op ∈ h.operatingPoints, op.seqLevelIdx < 4 ∨ 7 < op.seqLevelIdx) :
    Answers left parseSequenceHeaderObu h.bits (parsedHeader h) := by
  have hprofile : h.seqProfile < 2 ^ 3 := by
    have := hv.profile
    omega
  have hcolor := answers_colorConfig hv.profile hv.color h.filmGrainParamsPresent
  exact (reads_field hprofile (by decide) _).bind_answers ((reads_skipFlag _ _).bind_answers
    ((reads_flag false _).bind_answers ((reads_timingInfo hv hmodel).bind_answers
      ((reads_level hv hmodel hclear).bind_answers ((reads_frameSize hv).bind_answers
        ((reads_frameIds _).bind_answers ((reads_tools _).bind_answers
          (hcolor.map fun _ => _))))))))

end Exosnap.Engine.CodecPrivate
