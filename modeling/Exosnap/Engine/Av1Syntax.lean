/-
  The sequence header of the AV1 bitstream, as section 5.5 of its specification serialises it.

  This is the statement of what an encoder may send, not a model of the parser: the header as a
  value, its bits in the order of the syntax tables (`SequenceHeader.bits`), and the ranges and
  inferred values of its fields (`SequenceHeader.Valid`). `reduced_still_picture_header` is 0. An
  optional part is an `Option`, coded as a flag with the part behind it.

  `av1cBits` are the two bytes of the codec configuration record that repeat header fields.
-/
import Exosnap.Lib.BitString

namespace Exosnap.Engine.Av1

open BitString

/-- A flag and, where it is set, what it announces. -/
def optionBits {α : Type*} (bits : α → List Bool) : Option α → List Bool
  | none => [false]
  | some a => true :: bits a

/-- `uvlc()`: as many zeros as the number has bits behind its first one. -/
def uvlcBits (v : Nat) : List Bool :=
  List.replicate (v + 1).log2 false ++ natBits ((v + 1).log2 + 1) (v + 1)

structure TimingInfo where
  numUnitsInDisplayTick : Nat
  timeScale : Nat
  /-- Present with `equal_picture_interval`. -/
  numTicksPerPictureMinus1 : Option Nat

def TimingInfo.bits (t : TimingInfo) : List Bool :=
  natBits 32 t.numUnitsInDisplayTick ++ (natBits 32 t.timeScale ++
    optionBits uvlcBits t.numTicksPerPictureMinus1)

structure DecoderModelInfo where
  bufferDelayLengthMinus1 : Nat
  numUnitsInDecodingTick : Nat
  bufferRemovalTimeLengthMinus1 : Nat
  framePresentationTimeLengthMinus1 : Nat

def DecoderModelInfo.bits (d : DecoderModelInfo) : List Bool :=
  natBits 5 d.bufferDelayLengthMinus1 ++ (natBits 32 d.numUnitsInDecodingTick ++
    (natBits 5 d.bufferRemovalTimeLengthMinus1 ++ natBits 5 d.framePresentationTimeLengthMinus1))

structure OperatingParameters where
  decoderBufferDelay : Nat
  encoderBufferDelay : Nat
  lowDelayModeFlag : Bool

def OperatingParameters.bits (d : DecoderModelInfo) (q : OperatingParameters) : List Bool :=
  natBits (d.bufferDelayLengthMinus1 + 1) q.decoderBufferDelay ++
    (natBits (d.bufferDelayLengthMinus1 + 1) q.encoderBufferDelay ++ [q.lowDelayModeFlag])

structure OperatingPoint where
  idc : Nat
  seqLevelIdx : Nat
  seqTier : Bool
  /-- Present with `decoder_model_present_for_this_op`. -/
  parameters : Option OperatingParameters
  /-- Present with `initial_display_delay_present_for_this_op`. -/
  initialDisplayDelayMinus1 : Option Nat

/-- The tier is coded above level index 7. -/
def OperatingPoint.bits (model : Option DecoderModelInfo) (delayPresent : Bool)
    (op : OperatingPoint) : List Bool :=
  natBits 12 op.idc ++ (natBits 5 op.seqLevelIdx ++
    ((if 7 < op.seqLevelIdx then [op.seqTier] else []) ++
      ((match model with
        | none => []
        | some d => optionBits (OperatingParameters.bits d) op.parameters) ++
        if delayPresent then optionBits (natBits 4) op.initialDisplayDelayMinus1 else [])))

structure OrderHint where
  enableJntComp : Bool
  enableRefFrameMvs : Bool
  orderHintBitsMinus1 : Nat

/-- `none` is the value `SELECT` of the two `force` fields. -/
structure Tools where
  use128x128Superblock : Bool
  enableFilterIntra : Bool
  enableIntraEdgeFilter : Bool
  enableInterintraCompound : Bool
  enableMaskedCompound : Bool
  enableWarpedMotion : Bool
  enableDualFilter : Bool
  orderHint : Option OrderHint
  forceScreenContentTools : Option Bool
  forceIntegerMv : Option Bool
  enableSuperres : Bool
  enableCdef : Bool
  enableRestoration : Bool

/-- A `choose` flag and, where it is clear, the forced value. -/
def chooseBits : Option Bool → List Bool
  | none => [true]
  | some force => [false, force]

def Tools.bits (t : Tools) : List Bool :=
  [t.use128x128Superblock] ++ ([t.enableFilterIntra] ++ ([t.enableIntraEdgeFilter] ++
    ([t.enableInterintraCompound] ++ ([t.enableMaskedCompound] ++ ([t.enableWarpedMotion] ++
      ([t.enableDualFilter] ++ ([t.orderHint.isSome] ++
        ((t.orderHint.elim [] fun o => [o.enableJntComp, o.enableRefFrameMvs]) ++
          (chooseBits t.forceScreenContentTools ++
            ((if t.forceScreenContentTools = some false then [] else
              chooseBits t.forceIntegerMv) ++
              ((t.orderHint.elim [] fun o => natBits 3 o.orderHintBitsMinus1) ++
                ([t.enableSuperres] ++ ([t.enableCdef] ++ [t.enableRestoration])))))))))))))

structure ColorConfig where
  highBitdepth : Bool
  twelveBit : Bool
  monoChrome : Bool
  /-- Primaries, transfer characteristics, matrix. -/
  description : Option (Nat × Nat × Nat)
  colorRange : Bool
  subsamplingX : Bool
  subsamplingY : Bool
  chromaSamplePosition : Nat
  separateUvDeltaQ : Bool

/-- BT.709 primaries, the sRGB transfer and the identity matrix. -/
def ColorConfig.isSrgb (c : ColorConfig) : Bool :=
  c.description.getD (2, 2, 2) == (1, 13, 0)

/-- Whether the subsampling is coded: for 12 bits, all others follow from the profile. -/
def ColorConfig.subsamplingCoded (c : ColorConfig) (seqProfile : Nat) : Bool :=
  !c.monoChrome && !c.isSrgb && seqProfile == 2 && c.twelveBit

def ColorConfig.chromaBits (c : ColorConfig) (seqProfile : Nat) : List Bool :=
  if c.monoChrome then [c.colorRange]
  else if c.isSrgb then [c.separateUvDeltaQ]
  else [c.colorRange] ++
    ((if c.subsamplingCoded seqProfile then
        if c.subsamplingX then [true, c.subsamplingY] else [false]
      else []) ++
      ((if c.subsamplingX && c.subsamplingY then natBits 2 c.chromaSamplePosition else []) ++
        [c.separateUvDeltaQ]))

def ColorConfig.bits (c : ColorConfig) (seqProfile : Nat) : List Bool :=
  [c.highBitdepth] ++ ((if seqProfile = 2 ∧ c.highBitdepth = true then [c.twelveBit] else []) ++
    ((if seqProfile = 1 then [] else [c.monoChrome]) ++
      (optionBits (fun d => natBits 8 d.1 ++ (natBits 8 d.2.1 ++ natBits 8 d.2.2)) c.description ++
        c.chromaBits seqProfile)))

/-- Ranges, and the values of what is not coded. -/
structure ColorConfig.Valid (c : ColorConfig) (seqProfile : Nat) : Prop where
  twelveBit : c.twelveBit = true → seqProfile = 2 ∧ c.highBitdepth = true
  monoChrome : c.monoChrome = true → seqProfile ≠ 1
  description : ∀ d ∈ c.description, d.1 < 256 ∧ d.2.1 < 256 ∧ d.2.2 < 256
  position_lt : c.chromaSamplePosition < 4
  mono : c.monoChrome = true → c.subsamplingX = true ∧ c.subsamplingY = true
  srgb : c.monoChrome = false → c.isSrgb = true → c.subsamplingX = false ∧ c.subsamplingY = false
  profile : c.monoChrome = false → c.isSrgb = false → c.subsamplingCoded seqProfile = false →
    c.subsamplingX = (seqProfile != 1) ∧ c.subsamplingY = (seqProfile == 0)
  coded : c.subsamplingCoded seqProfile = true → c.subsamplingX = false → c.subsamplingY = false
  position : (c.monoChrome || c.isSrgb || !c.subsamplingX || !c.subsamplingY) = true →
    c.chromaSamplePosition = 0

structure SequenceHeader where
  seqProfile : Nat
  stillPicture : Bool
  timingInfo : Option TimingInfo
  decoderModelInfo : Option DecoderModelInfo
  initialDisplayDelayPresent : Bool
  operatingPoints : List OperatingPoint
  frameWidthBitsMinus1 : Nat
  frameHeightBitsMinus1 : Nat
  maxFrameWidthMinus1 : Nat
  maxFrameHeightMinus1 : Nat
  /-- `delta_frame_id_length_minus_2` and `additional_frame_id_length_minus_1`. -/
  frameIdNumbers : Option (Nat × Nat)
  tools : Tools
  color : ColorConfig
  filmGrainParamsPresent : Bool

namespace SequenceHeader

/-- `timing_info` with the decoder model behind it. -/
def timingBits (h : SequenceHeader) : List Bool :=
  match h.timingInfo with
  | none => [false]
  | some t => [true] ++ (t.bits ++ optionBits DecoderModelInfo.bits h.decoderModelInfo)

def operatingBits (h : SequenceHeader) : List Bool :=
  [h.initialDisplayDelayPresent] ++ (natBits 5 (h.operatingPoints.length - 1) ++
    h.operatingPoints.flatMap
      (OperatingPoint.bits h.decoderModelInfo h.initialDisplayDelayPresent))

def sizeBits (h : SequenceHeader) : List Bool :=
  natBits 4 h.frameWidthBitsMinus1 ++ (natBits 4 h.frameHeightBitsMinus1 ++
    (natBits (h.frameWidthBitsMinus1 + 1) h.maxFrameWidthMinus1 ++
      natBits (h.frameHeightBitsMinus1 + 1) h.maxFrameHeightMinus1))

/-- `sequence_header_obu()`. -/
def bits (h : SequenceHeader) : List Bool :=
  natBits 3 h.seqProfile ++ ([h.stillPicture] ++ ([false] ++ (h.timingBits ++ (h.operatingBits ++
    (h.sizeBits ++ (optionBits (fun n => natBits 4 n.1 ++ natBits 3 n.2) h.frameIdNumbers ++
      (h.tools.bits ++ (h.color.bits h.seqProfile ++ [h.filmGrainParamsPresent]))))))))

/-- The fields are in range, and what is not coded has its inferred value. -/
structure Valid (h : SequenceHeader) : Prop where
  profile : h.seqProfile ≤ 2
  /-- A decoder model is announced by the timing info. -/
  model : h.timingInfo = none → h.decoderModelInfo = none
  /-- `(1 << 32) - 1` ticks are excluded. -/
  ticks : ∀ t ∈ h.timingInfo, ∀ n ∈ t.numTicksPerPictureMinus1, n < 2 ^ 32 - 1
  points_pos : 0 < h.operatingPoints.length
  points_le : h.operatingPoints.length ≤ 32
  level : ∀ op ∈ h.operatingPoints, op.seqLevelIdx < 32
  /-- The tier is 0 where it is not coded. -/
  tier : ∀ op ∈ h.operatingPoints, op.seqLevelIdx ≤ 7 → op.seqTier = false
  widthBits : h.frameWidthBitsMinus1 < 16
  heightBits : h.frameHeightBitsMinus1 < 16
  color : h.color.Valid h.seqProfile

/-- The header fields of the configuration record: profile, level and tier of the first operating
    point, high bit depth, twelve bits, monochrome, subsampling, chroma sample position. -/
def av1cBits (h : SequenceHeader) : List Bool :=
  natBits 3 h.seqProfile ++ (natBits 5 (h.operatingPoints.head?.elim 0 (·.seqLevelIdx)) ++
    ([h.operatingPoints.head?.elim false (·.seqTier), h.color.highBitdepth, h.color.twelveBit,
      h.color.monoChrome, h.color.subsamplingX, h.color.subsamplingY] ++
      natBits 2 h.color.chromaSamplePosition))

end SequenceHeader

end Exosnap.Engine.Av1
