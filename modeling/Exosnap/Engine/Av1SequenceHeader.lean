/-
  The configuration record against the sequence header that it is derived from.

  Three places of the parser leave the syntax: the tier is read for level indices 4 to 7, the flag
  `decoder_model_present_for_this_op` is not read, and the subsampling of a 12-bit stream is not
  read. Off the first two, the record carries the header exactly when what the parser assumes of a
  12-bit stream is what it codes (`deriveAv1CodecPrivate_carries_iff`).
-/
import Exosnap.Engine.Av1Reads
import Exosnap.Engine.ObuScan

namespace Exosnap.Engine.CodecPrivate

open BitString Av1

/-- The second and third byte of the record repeat the header. -/
def Carries (h : SequenceHeader) (record : List UInt8) : Prop :=
  bytesBits ((record.drop 1).take 2) = h.av1cBits

instance (h : SequenceHeader) (record : List UInt8) : Decidable (Carries h record) :=
  inferInstanceAs (Decidable (_ = _))

/-! ## The bytes of the record -/

theorem profile_level_bits : ∀ (profile : Fin 8) (level : Fin 32),
    byteBits ((profile.val <<< 5) ||| (level.val &&& 0x1F)).toUInt8 =
      natBits 3 profile.val ++ natBits 5 level.val := by
  decide +kernel

theorem color_bits : ∀ (tier high twelve mono x y : Bool) (position : Fin 4),
    byteBits ((tier.toNat <<< 7) ||| (high.toNat <<< 6) ||| (twelve.toNat <<< 5) |||
      (mono.toNat <<< 4) ||| (x.toNat <<< 3) ||| (y.toNat <<< 2) |||
        (position.val &&& 0x03)).toUInt8 =
      [tier, high, twelve, mono, x, y] ++ natBits 2 position.val := by
  decide +kernel

/-- The record of a parsed header, as bits of the fields. -/
theorem record_bits {profile level position : Nat} (hprofile : profile < 8) (hlevel : level < 32)
    (hposition : position < 4) (tier high twelve mono x y : Bool) (obu : List UInt8) :
    bytesBits (((av1CodecConfigurationRecord
      { seqProfile := profile, seqLevelIdx0 := level, seqTier0 := tier.toNat,
        color := ⟨high.toNat, twelve.toNat, mono.toNat, x.toNat, y.toNat, position⟩ }
      obu).drop 1).take 2) =
      natBits 3 profile ++ (natBits 5 level ++
        ([tier, high, twelve, mono, x, y] ++ natBits 2 position)) := by
  have hfirst := profile_level_bits ⟨profile, hprofile⟩ ⟨level, hlevel⟩
  have hsecond := color_bits tier high twelve mono x y ⟨position, hposition⟩
  show byteBits _ ++ (byteBits _ ++ []) = _
  rw [List.append_nil, ← List.append_assoc]
  exact congrArg₂ (· ++ ·) hfirst hsecond

theorem natBits_two_injective : ∀ p q : Fin 4, natBits 2 p.val = natBits 2 q.val → p = q := by
  decide

/-- The record of what the parser takes for the header carries the header when the two agree on
    subsampling and sample position. -/
theorem carries_parsedHeader {h : SequenceHeader} (hv : h.Valid) (obu : List UInt8) :
    Carries h (av1CodecConfigurationRecord (parsedHeader h) obu) ↔
      (h.color.subsamplingCoded h.seqProfile = true → h.color.subsamplingX = true ∧
        h.color.subsamplingY = true ∧ h.color.chromaSamplePosition = 3) := by
  have hprofile : h.seqProfile < 8 := by
    have := hv.profile
    omega
  have hlevel : h.operatingPoints.head?.elim 0 (·.seqLevelIdx) < 32 := by
    cases hhead : h.operatingPoints.head? with
    | none => exact Nat.succ_pos 31
    | some op => exact hv.level op (List.mem_of_head? hhead)
  have hposition := hv.color.position_lt
  cases hcoded : h.color.subsamplingCoded h.seqProfile with
  | false =>
    have hrecord := record_bits hprofile hlevel hposition
      (h.operatingPoints.head?.elim false (·.seqTier)) h.color.highBitdepth h.color.twelveBit
      h.color.monoChrome h.color.subsamplingX h.color.subsamplingY obu
    refine ⟨fun _ => nofun, fun _ => ?_⟩
    unfold Carries parsedHeader parsedChroma
    rw [hcoded]
    exact hrecord
  | true =>
    have hmisread : misreadPosition h.color < 4 := by
      unfold misreadPosition
      have := Bool.toNat_lt h.color.separateUvDeltaQ
      split
      · split <;> decide
      · omega
    have hrecord := record_bits hprofile hlevel hmisread
      (h.operatingPoints.head?.elim false (·.seqTier)) h.color.highBitdepth h.color.twelveBit
      h.color.monoChrome true true obu
    have hparsed : parsedHeader h =
        { seqProfile := h.seqProfile
          seqLevelIdx0 := h.operatingPoints.head?.elim 0 (·.seqLevelIdx)
          seqTier0 := (h.operatingPoints.head?.elim false (·.seqTier)).toNat
          color := ⟨h.color.highBitdepth.toNat, h.color.twelveBit.toNat, h.color.monoChrome.toNat,
            true.toNat, true.toNat, misreadPosition h.color⟩ } := by
      unfold parsedHeader parsedChroma
      rw [hcoded]
      rfl
    rw [Carries, hparsed, hrecord, SequenceHeader.av1cBits, List.append_cancel_left_eq,
      List.append_cancel_left_eq]
    constructor
    · intro heq _
      obtain ⟨hx, hy, hbits⟩ : true = h.color.subsamplingX ∧ true = h.color.subsamplingY ∧
          natBits 2 (misreadPosition h.color) = natBits 2 h.color.chromaSamplePosition := by
        simpa using heq
      have hsame := natBits_two_injective ⟨_, hmisread⟩ ⟨_, hposition⟩ hbits
      have hthree : misreadPosition h.color = 3 := by
        rw [misreadPosition, ← hx, ← hy]
        rfl
      exact ⟨hx.symm, hy.symm, (congrArg Fin.val hsame).symm.trans hthree⟩
    · intro himp
      obtain ⟨hx, hy, hthree⟩ := himp rfl
      rw [misreadPosition, hx, hy, hthree]
      rfl

/-! ## The record of a packet -/

/-- A stream of OBUs whose first sequence header is `h`, with trailing bits. -/
theorem deriveAv1CodecPrivate_carries_iff {h : SequenceHeader} (hv : h.Valid)
    (hmodel : h.decoderModelInfo = none)
    (hclear : ∀ op ∈ h.operatingPoints, op.seqLevelIdx < 4 ∨ 7 < op.seqLevelIdx)
    {before : List SerializedObu} (hbefore : ∀ x ∈ before, x.Skipped)
    {o : SerializedObu} (ho : o.WellFormed) (htype : o.obuType = 1) {trailing : List Bool}
    (hpayload : bytesBits o.payload = h.bits ++ trailing)
    {after : List UInt8} (hlast : o.size = none → after = []) :
    (∃ record, deriveAv1CodecPrivate (obuStream before ++ (o.bytes ++ after)) = .ok record ∧
      Carries h record) ↔
      (h.color.subsamplingCoded h.seqProfile = true → h.color.subsamplingX = true ∧
        h.color.subsamplingY = true ∧ h.color.chromaSamplePosition = 3) := by
  have hleft : left { data := o.payload } = h.bits ++ trailing := by
    rw [left_eq rfl, hpayload]
    rfl
  obtain ⟨br, hparse⟩ := answers_sequenceHeader hv hmodel hclear _ trailing hleft
  rw [deriveAv1CodecPrivate_stream hbefore ho htype hlast, hparse,
    ← carries_parsedHeader hv o.bytes]
  constructor
  · rintro ⟨record, hrecord, hcarries⟩
    rwa [← Except.ok.inj hrecord] at hcarries
  · exact fun hcarries => ⟨_, rfl, hcarries⟩

/-! ## Packets -/

/-- 2560x1440, 8 bits, 4:2:0, level 5.0. -/
def sampleHeader : SequenceHeader where
  seqProfile := 0
  stillPicture := false
  timingInfo := none
  decoderModelInfo := none
  initialDisplayDelayPresent := false
  operatingPoints := [⟨0, 12, false, none, none⟩]
  frameWidthBitsMinus1 := 11
  frameHeightBitsMinus1 := 10
  maxFrameWidthMinus1 := 2559
  maxFrameHeightMinus1 := 1439
  frameIdNumbers := none
  tools :=
    { use128x128Superblock := false
      enableFilterIntra := false
      enableIntraEdgeFilter := false
      enableInterintraCompound := false
      enableMaskedCompound := false
      enableWarpedMotion := false
      enableDualFilter := false
      orderHint := some ⟨false, false, 6⟩
      forceScreenContentTools := some false
      forceIntegerMv := none
      enableSuperres := false
      enableCdef := true
      enableRestoration := true }
  color :=
    { highBitdepth := false
      twelveBit := false
      monoChrome := false
      description := some (1, 1, 1)
      colorRange := false
      subsamplingX := true
      subsamplingY := true
      chromaSamplePosition := 0
      separateUvDeltaQ := false }
  filmGrainParamsPresent := false

/-- 1280x720, level 3.1. -/
def sampleHeader720 : SequenceHeader :=
  { sampleHeader with
    operatingPoints := [⟨0, 5, false, none, none⟩]
    frameWidthBitsMinus1 := 10
    frameHeightBitsMinus1 := 9
    maxFrameWidthMinus1 := 1279
    maxFrameHeightMinus1 := 719 }

/-- With a decoder model that the operating point does not use. -/
def sampleHeaderModel : SequenceHeader :=
  { sampleHeader with
    timingInfo := some ⟨1, 60, none⟩
    decoderModelInfo := some ⟨4, 1, 4, 4⟩ }

/-- Twelve bits, 4:4:4. -/
def sampleHeaderTwelve : SequenceHeader :=
  { sampleHeader with
    seqProfile := 2
    color :=
      { sampleHeader.color with
        highBitdepth := true
        twelveBit := true
        subsamplingX := false
        subsamplingY := false } }

/-- A sequence header OBU with its size. -/
def sampleObu (payload : List UInt8) : SerializedObu :=
  ⟨0x0A, none, some [payload.length.toUInt8], payload⟩

def samplePayload : List UInt8 :=
  [0x00, 0x00, 0x00, 0x62, 0xEA, 0x7F, 0xEC, 0xF8, 0x04, 0x33, 0x20, 0x20, 0x20, 0x20, 0x80]

def samplePayload720 : List UInt8 :=
  [0x00, 0x00, 0x00, 0x2D, 0x4C, 0xFF, 0xB3, 0xC0, 0x21, 0x99, 0x01, 0x01, 0x01, 0x04]

def samplePayloadModel : List UInt8 :=
  [0x04, 0x00, 0x00, 0x00, 0x04, 0x00, 0x00, 0x00, 0xF1, 0x20, 0x00, 0x00, 0x00, 0x09, 0x08, 0x00,
    0x00, 0x30, 0xBA, 0x9F, 0xFB, 0x3E, 0x01, 0x0C, 0xC8, 0x08, 0x08, 0x08, 0x20]

def samplePayloadTwelve : List UInt8 :=
  [0x40, 0x00, 0x00, 0x62, 0xEA, 0x7F, 0xEC, 0xF8, 0x04, 0x33, 0xD0, 0x10, 0x10, 0x10, 0x80]

theorem sampleObu_wellFormed {payload : List UInt8} (h : payload.length < 128) :
    (sampleObu payload).WellFormed where
  extension := by
    show ((0x0A : UInt8) >>> 2) &&& 0x1 ≠ 0 ↔ (none : Option UInt8).isSome = true
    decide
  hasSize := ⟨fun _ => rfl, fun _ => by show ((0x0A : UInt8) >>> 1) &&& 0x1 ≠ 0; decide⟩
  size := by
    rintro bs ⟨⟩
    have hsmall : ∀ n : Fin 128, n.val.toUInt8 &&& 0x80 = 0 ∧
        (n.val.toUInt8 &&& 0x7F).toNat = n.val := by
      decide +kernel
    obtain ⟨hlast, hvalue⟩ := hsmall ⟨payload.length, h⟩
    have hleb := Leb128.last _ hlast
    rw [hvalue] at hleb
    exact ⟨hleb, (by decide : 1 ≤ 8)⟩

theorem sampleColor_valid : sampleHeader.color.Valid 0 := by
  constructor <;> decide

theorem sampleHeader_valid : sampleHeader.Valid where
  profile := by decide
  model := by decide
  ticks := by decide
  points_pos := by decide
  points_le := by decide
  level := by decide
  tier := by decide
  widthBits := by decide
  heightBits := by decide
  color := sampleColor_valid

theorem sampleHeader720_valid : sampleHeader720.Valid :=
  { sampleHeader_valid with
    level := by decide
    tier := by decide
    widthBits := by decide
    heightBits := by decide }

theorem sampleHeaderModel_valid : sampleHeaderModel.Valid :=
  { sampleHeader_valid with
    model := nofun
    ticks := by decide }

theorem sampleHeaderTwelve_valid : sampleHeaderTwelve.Valid :=
  { sampleHeader_valid with
    profile := by decide
    color := by constructor <;> decide }

/-- A temporal delimiter in front, a frame behind. -/
theorem deriveAv1CodecPrivate_carries_sample :
    ∃ record, deriveAv1CodecPrivate (obuStream [⟨0x12, none, some [0x00], []⟩] ++
      ((sampleObu samplePayload).bytes ++ [0x32, 0x03, 0x10, 0x20, 0x30])) = .ok record ∧
      Carries sampleHeader record := by
  have hdelimiter : ∀ x ∈ [(⟨0x12, none, some [0x00], []⟩ : SerializedObu)], x.Skipped := by
    rintro x hx
    rw [List.mem_singleton.mp hx]
    refine ⟨⟨by decide, by decide, ?_⟩, nofun, by decide⟩
    rintro bs ⟨⟩
    exact ⟨Leb128.last 0x00 (by decide), by decide⟩
  have hbits : bytesBits (sampleObu samplePayload).payload =
      sampleHeader.bits ++ [true, false, false, false, false, false, false, false] := by
    decide +kernel
  exact (deriveAv1CodecPrivate_carries_iff sampleHeader_valid rfl (by decide) hdelimiter
    (sampleObu_wellFormed (by decide)) (by decide) hbits nofun).mpr (by decide)

/-- A level of 4 to 7, a decoder model, twelve bits. -/
theorem deriveAv1CodecPrivate_not_carries :
    (sampleHeader720.Valid ∧
      bytesBits samplePayload720 = sampleHeader720.bits ++ [true, false, false] ∧
      ¬∃ record, deriveAv1CodecPrivate (sampleObu samplePayload720).bytes = .ok record ∧
        Carries sampleHeader720 record) ∧
    (sampleHeaderModel.Valid ∧
      bytesBits samplePayloadModel =
        sampleHeaderModel.bits ++ [true, false, false, false, false, false] ∧
      ¬∃ record, deriveAv1CodecPrivate (sampleObu samplePayloadModel).bytes = .ok record ∧
        Carries sampleHeaderModel record) ∧
    sampleHeaderTwelve.Valid ∧
      bytesBits samplePayloadTwelve =
        sampleHeaderTwelve.bits ++ [true, false, false, false, false, false, false, false] ∧
      ¬∃ record, deriveAv1CodecPrivate (sampleObu samplePayloadTwelve).bytes = .ok record ∧
        Carries sampleHeaderTwelve record := by
  have hderived : ∀ {h : SequenceHeader} {stream : List UInt8},
      (∀ record ∈ (deriveAv1CodecPrivate stream).toOption, ¬Carries h record) →
      ¬∃ record, deriveAv1CodecPrivate stream = .ok record ∧ Carries h record := by
    rintro h stream hnot ⟨record, hrecord, hcarries⟩
    rw [hrecord] at hnot
    exact hnot record rfl hcarries
  refine ⟨⟨sampleHeader720_valid, by decide +kernel, hderived ?_⟩,
    ⟨sampleHeaderModel_valid, by decide +kernel, hderived ?_⟩,
    sampleHeaderTwelve_valid, by decide +kernel, hderived ?_⟩
  · decide +kernel
  · decide +kernel
  · decide +kernel

end Exosnap.Engine.CodecPrivate
