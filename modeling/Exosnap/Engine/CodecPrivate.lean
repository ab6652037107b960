/-
  `codec_private.cpp`: the AV1 codec configuration record from a bitstream packet.

  The bytes of a packet are a list, its length fits `size_t`. Reads of the bit reader are at most
  32 bits wide, so their values are natural numbers without a wrap; so is a leb128 size, which
  has 56 bits at most. A reader's failure is the text of the reason.
-/
import Exosnap.Lib.BitString

namespace Exosnap.Engine.CodecPrivate

/-! ## The bit reader -/

structure BitReader where
  data : List UInt8
  pos : Nat := 0
  overflow : Bool := false

namespace BitReader

def totalBits (br : BitReader) : Nat := br.data.length * 8

/-- The bit at the position. -/
def bit (br : BitReader) : Nat :=
  ((br.data.getD (br.pos / 8) 0).toNat >>> (7 - br.pos % 8)) &&& 1

def readLoop : Nat → BitReader → Nat → Nat × BitReader
  | 0, br, val => (val, br)
  | n + 1, br, val => readLoop n { br with pos := br.pos + 1 } (val <<< 1 ||| br.bit)

def f (br : BitReader) (n : Nat) : Nat × BitReader :=
  if n = 0 then (0, br)
  else if br.totalBits < br.pos + n then (0, { br with overflow := true })
  else readLoop n br 0

/-- The zeros in front of the first one, 32 of which overflow. -/
def leadingZeros : Nat → BitReader → Nat → Nat × BitReader
  | 0, br, zeros => (zeros, { br with overflow := true })
  | n + 1, br, zeros =>
      let (bit, br) := br.f 1
      if br.overflow then (0, br)
      else if bit = 1 then (zeros, br)
      else leadingZeros n br (zeros + 1)

def uvlc (br : BitReader) : Nat × BitReader :=
  let (zeros, br) := leadingZeros 32 br 0
  if br.overflow then (0, br)
  else if zeros = 0 then (0, br)
  else
    let (value, br) := br.f zeros
    if br.overflow then (0, br) else (value + (1 <<< zeros) - 1, br)

end BitReader

/-! ## The sequence header -/

abbrev Parse := StateT BitReader (Except String)

/-- `CHECK_OVERFLOW` behind a read. -/
def checked (r : BitReader → Nat × BitReader) (ctx : String) : Parse Nat := fun br =>
  let (value, br) := r br
  if br.overflow then .error ("BitReader overflow at " ++ ctx) else .ok (value, br)

def read (n : Nat) (ctx : String) : Parse Nat := checked (·.f n) ctx

def readUvlc (ctx : String) : Parse Nat := checked BitReader.uvlc ctx

def skip (n : Nat) (ctx : String) : Parse Unit := do
  let _ ← read n ctx
  return ()

/-- What the decoder model of the stream leaves to its operating points. -/
structure DecoderModel where
  presentFlag : Nat := 0
  bufferDelayLengthMinus1 : Nat := 0

def readDecoderModel : Parse DecoderModel := do
  let present ← read 1 "decoder_model_info_present_flag"
  if present = 0 then return { presentFlag := present }
  else
    let bufferDelayLengthMinus1 ← read 5 "buffer_delay_length_minus_1"
    skip 32 "num_units_in_decoding_tick"
    skip 5 "buffer_removal_time_length_minus_1"
    skip 5 "frame_presentation_time_length_minus_1"
    return { presentFlag := present, bufferDelayLengthMinus1 := bufferDelayLengthMinus1 }

def skipPictureInterval : Parse Unit := do
  let equalPictureInterval ← read 1 "equal_picture_interval"
  if equalPictureInterval = 0 then return ()
  else
    let _ ← readUvlc "num_ticks_per_picture_minus_1"
    return ()

def readTimingInfo : Parse DecoderModel := do
  let present ← read 1 "timing_info_present_flag"
  if present = 0 then return {}
  else
    skip 32 "num_units_in_display_tick"
    skip 32 "time_scale"
    skipPictureInterval
    readDecoderModel

/-- The decoder buffer of one operating point. -/
def skipOperatingParameters (model : DecoderModel) : Parse Unit :=
  if model.presentFlag = 0 then return ()
  else do
    skip (model.bufferDelayLengthMinus1 + 1) "decoder_buffer_delay"
    skip (model.bufferDelayLengthMinus1 + 1) "encoder_buffer_delay"
    skip 1 "low_delay_mode_flag"

def skipInitialDisplayDelay (presentFlag : Nat) : Parse Unit :=
  if presentFlag = 0 then return ()
  else do
    let delayPresent ← read 1 "initial_display_delay_present_for_this_op"
    if delayPresent = 0 then return ()
    else skip 4 "initial_display_delay_minus_1"

/-- The level and tier of one operating point. -/
def readOperatingPoint (model : DecoderModel) (delayFlag : Nat) : Parse (Nat × Nat) := do
  skip 12 "operating_point_idc"
  let seqLevelIdx ← read 5 "seq_level_idx"
  let seqTier ← (if 4 ≤ seqLevelIdx then read 1 "seq_tier" else pure 0 : Parse Nat)
  skipOperatingParameters model
  skipInitialDisplayDelay delayFlag
  return (seqLevelIdx, seqTier)

def readOperatingPoints (model : DecoderModel) (delayFlag : Nat) : Nat → Parse (List (Nat × Nat))
  | 0 => return []
  | n + 1 => do
      let point ← readOperatingPoint model delayFlag
      let points ← readOperatingPoints model delayFlag n
      return point :: points

/-- The level and tier of the first operating point. -/
def readLevel (model : DecoderModel) : Parse (Nat × Nat) := do
  let delayFlag ← read 1 "initial_display_delay_present_flag"
  let cntMinus1 ← read 5 "operating_points_cnt_minus_1"
  let points ← readOperatingPoints model delayFlag (cntMinus1 + 1)
  return points.headD (0, 0)

def skipFrameSize : Parse Unit := do
  let widthBitsMinus1 ← read 4 "frame_width_bits_minus_1"
  let heightBitsMinus1 ← read 4 "frame_height_bits_minus_1"
  skip (widthBitsMinus1 + 1) "max_frame_width_minus_1"
  skip (heightBitsMinus1 + 1) "max_frame_height_minus_1"

def skipFrameIds : Parse Unit := do
  let present ← read 1 "frame_id_numbers_present_flag"
  if present = 0 then return ()
  else
    skip 4 "delta_frame_id_length_minus_2"
    skip 3 "additional_frame_id_length_minus_1"

def skipOrderHint (enableOrderHint : Nat) : Parse Unit :=
  if enableOrderHint = 0 then return ()
  else do
    skip 1 "enable_jnt_comp"
    skip 1 "enable_ref_frame_mvs"

def readForceScreenContentTools : Parse Nat := do
  let choose ← read 1 "seq_choose_screen_content_tools"
  if choose = 0 then read 1 "seq_force_screen_content_tools" else return 2

def skipIntegerMv (forceScreenContentTools : Nat) : Parse Unit :=
  if forceScreenContentTools = 0 then return ()
  else do
    let choose ← read 1 "seq_choose_integer_mv"
    if choose = 0 then skip 1 "seq_force_integer_mv" else return ()

def skipOrderHintBits (enableOrderHint : Nat) : Parse Unit :=
  if enableOrderHint = 0 then return () else skip 3 "order_hint_bits_minus_1"

def skipTools : Parse Unit := do
  skip 1 "use_128x128_superblock"
  skip 1 "enable_filter_intra"
  skip 1 "enable_intra_edge_filter"
  skip 1 "enable_interintra_compound"
  skip 1 "enable_masked_compound"
  skip 1 "enable_warped_motion"
  skip 1 "enable_dual_filter"
  let enableOrderHint ← read 1 "enable_order_hint"
  skipOrderHint enableOrderHint
  let forceScreenContentTools ← readForceScreenContentTools
  skipIntegerMv forceScreenContentTools
  skipOrderHintBits enableOrderHint
  skip 1 "enable_superres"
  skip 1 "enable_cdef"
  skip 1 "enable_restoration"

structure ColorConfig where
  highBitdepth : Nat
  twelveBit : Nat
  monoChrome : Nat
  subsamplingX : Nat
  subsamplingY : Nat
  chromaSamplePosition : Nat
  deriving DecidableEq

/-- Primaries, transfer characteristics and matrix, 2 where they are not coded. -/
def readColorDescription : Parse (Nat × Nat × Nat) := do
  let present ← read 1 "color_description_present_flag"
  if present = 0 then return (2, 2, 2)
  else
    let primaries ← read 8 "color_primaries"
    let transfer ← read 8 "transfer_characteristics"
    let matrix ← read 8 "matrix_coefficients"
    return (primaries, transfer, matrix)

/-- The subsampling that the code takes for a profile. -/
def profileSubsampling (seqProfile twelveBit : Nat) : Nat × Nat :=
  if seqProfile = 0 then (1, 1)
  else if seqProfile = 1 then (0, 0)
  else if twelveBit ≠ 0 then (1, 1)
  else (1, 0)

/-- Subsampling and sample position of a picture with chroma that is not sRGB. -/
def readChroma (seqProfile twelveBit : Nat) : Parse (Nat × Nat × Nat) := do
  skip 1 "color_range"
  let (x, y) := profileSubsampling seqProfile twelveBit
  let position ← (if x ≠ 0 ∧ y ≠ 0 then read 2 "chroma_sample_position" else pure 0 : Parse Nat)
  skip 1 "separate_uv_delta_q"
  return (x, y, position)

def readSubsampling (seqProfile twelveBit monoChrome : Nat) (description : Nat × Nat × Nat) :
    Parse (Nat × Nat × Nat) :=
  if monoChrome ≠ 0 then do
    skip 1 "color_range(mono)"
    return (1, 1, 0)
  else if description = (1, 13, 0) then return (0, 0, 0)
  else readChroma seqProfile twelveBit

def readColorConfig (seqProfile : Nat) : Parse ColorConfig := do
  let highBitdepth ← read 1 "high_bitdepth"
  let twelveBit ←
    (if seqProfile = 2 ∧ highBitdepth ≠ 0 then read 1 "twelve_bit" else pure 0 : Parse Nat)
  let monoChrome ← (if seqProfile = 1 then pure 0 else read 1 "mono_chrome" : Parse Nat)
  let description ← readColorDescription
  let chroma ← readSubsampling seqProfile twelveBit monoChrome description
  return {
    highBitdepth := highBitdepth
    twelveBit := twelveBit
    monoChrome := monoChrome
    subsamplingX := chroma.1
    subsamplingY := chroma.2.1
    chromaSamplePosition := chroma.2.2 }

structure ParsedHeader where
  seqProfile : Nat
  seqLevelIdx0 : Nat
  seqTier0 : Nat
  color : ColorConfig
  deriving DecidableEq

def parseSequenceHeaderObu : Parse ParsedHeader := do
  let seqProfile ← read 3 "seq_profile"
  skip 1 "still_picture"
  let reducedStillPictureHeader ← read 1 "reduced_still_picture_header"
  if reducedStillPictureHeader ≠ 0 then
    throw "reduced_still_picture_header=1 — cannot derive full color config"
  else
    let model ← readTimingInfo
    let level ← readLevel model
    skipFrameSize
    skipFrameIds
    skipTools
    let color ← readColorConfig seqProfile
    return { seqProfile := seqProfile, seqLevelIdx0 := level.1, seqTier0 := level.2, color := color }

/-! ## The packet -/

/-- The size field at `i`: up to 8 bytes, 0 where the packet ends inside. -/
def readLeb128 (bs : List UInt8) : Nat → Nat → Nat → Nat → Nat × Nat
  | 0, i, _, size => (i, size)
  | n + 1, i, shift, size =>
      match bs[i]? with
      | none => (i, 0)
      | some b =>
          let size := size ||| ((b &&& 0x7F).toNat <<< shift)
          if b &&& 0x80 = 0 then (i + 1, size) else readLeb128 bs n (i + 1) (shift + 7) size

structure Obu where
  start : Nat
  payload : Nat
  payloadSize : Nat

/-- The OBUs from `i` on, up to the first sequence header. Each takes a byte at least, so as many
    rounds as bytes are enough. -/
def scanObus (bs : List UInt8) : Nat → Nat → Except String (Option Obu)
  | 0, _ => .ok none
  | n + 1, start =>
      match bs[start]? with
      | none => .ok none
      | some headerByte =>
          let obuType := (headerByte >>> 3) &&& 0x0F
          let extensionFlag := (headerByte >>> 2) &&& 0x1
          let hasSizeField := (headerByte >>> 1) &&& 0x1
          let i := start + 1
          if extensionFlag ≠ 0 ∧ bs.length ≤ i then .ok none
          else
            let i := if extensionFlag ≠ 0 then i + 1 else i
            let (i, payloadSize) :=
              if hasSizeField ≠ 0 then readLeb128 bs 8 i 0 0 else (i, bs.length - i)
            if obuType = 1 then
              if bs.length < i + payloadSize then
                .error "Sequence Header OBU payload exceeds packet boundary"
              else .ok (some ⟨start, i, payloadSize⟩)
            else if bs.length < i + payloadSize then .ok none
            else scanObus bs n (i + payloadSize)

/-- `AV1CodecConfigurationRecord`, with the bytes of the OBU behind its four. -/
def av1CodecConfigurationRecord (h : ParsedHeader) (obu : List UInt8) : List UInt8 :=
  0x81 :: ((h.seqProfile <<< 5) ||| (h.seqLevelIdx0 &&& 0x1F)).toUInt8 ::
    ((h.seqTier0 <<< 7) ||| (h.color.highBitdepth <<< 6) ||| (h.color.twelveBit <<< 5) |||
      (h.color.monoChrome <<< 4) ||| (h.color.subsamplingX <<< 3) |||
      (h.color.subsamplingY <<< 2) ||| (h.color.chromaSamplePosition &&& 0x03)).toUInt8 ::
    0x00 :: obu

def deriveAv1CodecPrivate (bs : List UInt8) : Except String (List UInt8) :=
  if bs = [] then .error "empty bitstream"
  else do
    let found ← scanObus bs bs.length 0
    match found with
    | none => throw "Sequence Header OBU (type 1) not found in bitstream packet"
    | some obu =>
        let payload := (bs.drop obu.payload).take obu.payloadSize
        let (header, _) ← parseSequenceHeaderObu { data := payload }
        return av1CodecConfigurationRecord header
          ((bs.drop obu.start).take (obu.payload + obu.payloadSize - obu.start))

end Exosnap.Engine.CodecPrivate
