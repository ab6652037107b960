/-
  The hvcC record of an access unit (`ExtractHevcVpsSpsPps`, `BuildHvccFromAnnexBVpsSpsPps`) against
  the syntax of its sequence parameter set.

  The record is built from a second scan, over the extract. The extract is a byte stream like the
  access unit, so both scans find the same spans (`find_extract`).
-/
import Exosnap.Engine.AvccRecord

namespace Exosnap.Engine.AnnexB

open ByteFraming BitString Rbsp

/-! ## The code -/

def kHevcNalVps : UInt8 := 32

def kHevcNalSps : UInt8 := 33

def kHevcNalPps : UInt8 := 34

/-- The first VPS, SPS and PPS among NAL units. -/
def findParameterSets (nals : List (List UInt8)) :
    Option (List UInt8 × List UInt8 × List UInt8) :=
  match nals.find? (hevcNalType · == kHevcNalVps), nals.find? (hevcNalType · == kHevcNalSps),
      nals.find? (hevcNalType · == kHevcNalPps) with
  | some vps, some sps, some pps => some (vps, sps, pps)
  | _, _, _ => none

def extractHevcVpsSpsPps (data : List UInt8) : Option (List UInt8) :=
  match findParameterSets (enumerateNals 2 data) with
  | some (vps, sps, pps) =>
      some (longStartCode ++ vps ++ longStartCode ++ sps ++ longStartCode ++ pps)
  | none => none

/-- `profile_tier_level()` of the general layer. -/
structure ProfileTierLevel where
  profileSpace : Nat := 0
  tierFlag : Nat := 0
  profileIdc : Nat := 1
  profileCompatibility : Nat := 0
  constraintBytes : List Nat := [0, 0, 0, 0, 0, 0]
  levelIdc : Nat := 0
  deriving DecidableEq

structure ParsedHevcSps extends ProfileTierLevel where
  chromaFormatIdc : Nat := 1
  bitDepthLumaMinus8 : Nat := 0
  bitDepthChromaMinus8 : Nat := 0
  deriving DecidableEq

def readBytes : Nat → Parse PUnit (List Nat)
  | 0 => pure []
  | n + 1 => do
      let v ← readBits PUnit.unit 8
      let rest ← readBytes n
      pure (v :: rest)

/-- The two flags of each sub-layer. -/
def readPresence : Nat → Parse PUnit (List (Nat × Nat))
  | 0 => pure []
  | n + 1 => do
      let pp ← readBit PUnit.unit
      let lp ← readBit PUnit.unit
      let rest ← readPresence n
      pure ((pp, lp) :: rest)

def skipReserved : Nat → Parse PUnit PUnit
  | 0 => pure PUnit.unit
  | n + 1 => do
      let _ ← readBits PUnit.unit 2
      skipReserved n

def skipSubLayerProfile (present : Nat) : Parse PUnit PUnit :=
  if present ≠ 0 then do
    let _ ← readBits PUnit.unit 8
    let _ ← readBits PUnit.unit 32
    let _ ← readBytes 6
    pure PUnit.unit
  else pure PUnit.unit

def skipSubLayerLevel (present : Nat) : Parse PUnit PUnit :=
  if present ≠ 0 then do
    let _ ← readBits PUnit.unit 8
    pure PUnit.unit
  else pure PUnit.unit

def skipSubLayers : List (Nat × Nat) → Parse PUnit PUnit
  | [] => pure PUnit.unit
  | (pp, lp) :: rest => do
      skipSubLayerProfile pp
      skipSubLayerLevel lp
      skipSubLayers rest

def readSubLayers (maxSubLayersMinus1 : Nat) : Parse PUnit PUnit :=
  if maxSubLayersMinus1 > 0 then do
    let presence ← readPresence maxSubLayersMinus1
    skipReserved (if maxSubLayersMinus1 < 8 then 8 - maxSubLayersMinus1 else 0)
    skipSubLayers presence
  else pure PUnit.unit

def parseProfileTierLevel (maxSubLayersMinus1 : Nat) : Parse PUnit ProfileTierLevel := do
  let profileSpace ← readBits PUnit.unit 2
  let tierFlag ← readBit PUnit.unit
  let profileIdc ← readBits PUnit.unit 5
  let profileCompatibility ← readBits PUnit.unit 32
  let constraintBytes ← readBytes 6
  let levelIdc ← readBits PUnit.unit 8
  readSubLayers maxSubLayersMinus1
  pure {
    profileSpace := profileSpace
    tierFlag := tierFlag
    profileIdc := profileIdc
    profileCompatibility := profileCompatibility
    constraintBytes := constraintBytes
    levelIdc := levelIdc }

def readConformanceWindow (present : Nat) : Parse PUnit PUnit :=
  if present ≠ 0 then do
    let _ ← readUe PUnit.unit
    let _ ← readUe PUnit.unit
    let _ ← readUe PUnit.unit
    let _ ← readUe PUnit.unit
    pure PUnit.unit
  else pure PUnit.unit

/-- The reads of `ParseHevcSps`. -/
def readHevcSps : Parse PUnit ParsedHevcSps := do
  let _ ← readBits PUnit.unit 4
  let maxSubLayersMinus1 ← readBits PUnit.unit 3
  let _ ← readBit PUnit.unit
  let general ← parseProfileTierLevel maxSubLayersMinus1
  let _ ← readUe PUnit.unit
  let chromaFormatIdc ← readUe PUnit.unit
  readColourPlane PUnit.unit chromaFormatIdc
  let _ ← readUe PUnit.unit
  let _ ← readUe PUnit.unit
  let conformanceWindowFlag ← readBit PUnit.unit
  readConformanceWindow conformanceWindowFlag
  let bitDepthLumaMinus8 ← readUe PUnit.unit
  let bitDepthChromaMinus8 ← readUe PUnit.unit
  pure { general with
    chromaFormatIdc := chromaFormatIdc
    bitDepthLumaMinus8 := bitDepthLumaMinus8
    bitDepthChromaMinus8 := bitDepthChromaMinus8 }

/-- `none` on truncated or malformed input. -/
def parseHevcSps (spsNal : List UInt8) : Option ParsedHevcSps :=
  if spsNal.length < 3 then none
  else match readHevcSps { data := spsNal.drop 2 } with
    | .ok (out, _) => some out
    | .error _ => none

/-- What the record falls back on when the SPS is not parsed. -/
def fallbackSps (spsNal : List UInt8) : ParsedHevcSps where
  profileCompatibility := 0x60000000
  constraintBytes := [0x90, 0, 0, 0, 0, 0]
  levelIdc := if spsNal.length ≥ 15 then (spsNal.getD 14 0).toNat else 0

/-- One NAL unit in an array of the record. -/
def hvccArray (header : UInt8) (nal : List UInt8) : List UInt8 :=
  [header, 0x00, 0x01] ++ be16 nal.length ++ nal

/-- HEVCDecoderConfigurationRecord, as `BuildHvccFromAnnexBVpsSpsPps` writes it. -/
def hvccRecord (vps sps pps : List UInt8) : List UInt8 :=
  let info := (parseHevcSps sps).getD (fallbackSps sps)
  ([0x01,
    (((info.profileSpace &&& 0x3) <<< 6) ||| ((info.tierFlag &&& 0x1) <<< 5) |||
      (info.profileIdc &&& 0x1F)).toUInt8,
    ((info.profileCompatibility >>> 24) &&& 0xFF).toUInt8,
    ((info.profileCompatibility >>> 16) &&& 0xFF).toUInt8,
    ((info.profileCompatibility >>> 8) &&& 0xFF).toUInt8,
    (info.profileCompatibility &&& 0xFF).toUInt8] : List UInt8) ++
  info.constraintBytes.map Nat.toUInt8 ++
  ([info.levelIdc.toUInt8, 0xF0, 0x00, 0xFC,
    0xFC ||| (info.chromaFormatIdc &&& 0x3).toUInt8,
    0xF8 ||| (info.bitDepthLumaMinus8 &&& 0x7).toUInt8,
    0xF8 ||| (info.bitDepthChromaMinus8 &&& 0x7).toUInt8,
    0x00, 0x00, 0x0F, 0x03] : List UInt8) ++
  hvccArray 0xA0 vps ++ hvccArray 0xA1 sps ++ hvccArray 0xA2 pps

def buildHvccFromAnnexBVpsSpsPps (annexb : List UInt8) : Option (List UInt8) :=
  if annexb.length < 18 then none
  else if annexb.take 4 ≠ longStartCode then none
  else match findParameterSets (enumerateNals 2 annexb) with
    | none => none
    | some (vps, sps, pps) =>
        if vps.length < 2 ∨ sps.length < 2 ∨ pps.length < 2 then none
        else if vps.length > 0xFFFF ∨ sps.length > 0xFFFF ∨ pps.length > 0xFFFF then none
        else some (hvccRecord vps sps pps)

/-! ## The syntax -/

/-- The profile and the level of a sub-layer, where they are present. -/
structure SubLayer where
  profile : Option (List UInt8)
  level : Option UInt8

/-- A sequence parameter set up to the bit depths. -/
structure HevcSps where
  videoParameterSetId : Nat
  temporalIdNesting : Bool
  profileSpace : Nat
  tier : Bool
  profileIdc : Nat
  profileCompatibility : Nat
  constraintFlags : List UInt8
  levelIdc : UInt8
  subLayers : List SubLayer
  seqParameterSetId : Nat
  chromaFormatIdc : Nat
  separateColourPlane : Bool
  picWidth : Nat
  picHeight : Nat
  conformanceWindow : Option (Nat × Nat × Nat × Nat)
  bitDepthLumaMinus8 : Nat
  bitDepthChromaMinus8 : Nat

def SubLayer.presenceBits (l : SubLayer) : List Bool := [l.profile.isSome, l.level.isSome]

/-- The profile fields of a sub-layer have 88 bits. -/
def SubLayer.bits (l : SubLayer) : List Bool :=
  l.profile.elim [] bytesBits ++ l.level.elim [] byteBits

namespace HevcSps

def profileBits (h : HevcSps) : List Bool :=
  natBits 2 h.profileSpace ++ ([h.tier] ++ (natBits 5 h.profileIdc ++
    (natBits 32 h.profileCompatibility ++ (bytesBits h.constraintFlags ++ byteBits h.levelIdc))))

def subLayerBits (h : HevcSps) : List Bool :=
  if h.subLayers = [] then []
  else h.subLayers.flatMap SubLayer.presenceBits ++
    (natBits (2 * (8 - h.subLayers.length)) 0 ++ h.subLayers.flatMap SubLayer.bits)

/-- The offsets of the conformance window, where there is one. -/
def windowBits (h : HevcSps) : List Bool :=
  match h.conformanceWindow with
  | none => []
  | some (left, right, top, bottom) =>
      ueBits left ++ (ueBits right ++ (ueBits top ++ ueBits bottom))

def bits (h : HevcSps) : List Bool :=
  natBits 4 h.videoParameterSetId ++ (natBits 3 h.subLayers.length ++ ([h.temporalIdNesting] ++
    (h.profileBits ++ (h.subLayerBits ++ (ueBits h.seqParameterSetId ++ (ueBits h.chromaFormatIdc ++
      ((if h.chromaFormatIdc = 3 then [h.separateColourPlane] else []) ++
        (ueBits h.picWidth ++ (ueBits h.picHeight ++ ([h.conformanceWindow.isSome] ++
          (h.windowBits ++ (ueBits h.bitDepthLumaMinus8 ++
            ueBits h.bitDepthChromaMinus8))))))))))))

/-- The numbers are those that their fields code. -/
structure Valid (h : HevcSps) : Prop where
  vps : h.videoParameterSetId < 2 ^ 4
  space : h.profileSpace < 2 ^ 2
  profile : h.profileIdc < 2 ^ 5
  compatibility : h.profileCompatibility < 2 ^ 32
  constraint : h.constraintFlags.length = 6
  subLayers : h.subLayers.length < 2 ^ 3
  subProfiles : ∀ l ∈ h.subLayers, ∀ profile ∈ l.profile, profile.length = 11
  id : h.seqParameterSetId < 2 ^ 32 - 1
  chromaFormat : h.chromaFormatIdc < 2 ^ 32 - 1
  width : h.picWidth < 2 ^ 32 - 1
  height : h.picHeight < 2 ^ 32 - 1
  window : ∀ w ∈ h.conformanceWindow, w.1 < 2 ^ 32 - 1 ∧ w.2.1 < 2 ^ 32 - 1 ∧
    w.2.2.1 < 2 ^ 32 - 1 ∧ w.2.2.2 < 2 ^ 32 - 1
  luma : h.bitDepthLumaMinus8 < 2 ^ 32 - 1
  chromaDepth : h.bitDepthChromaMinus8 < 2 ^ 32 - 1

/-- The NAL unit codes the parameter set. -/
def CodedBy (h : HevcSps) (nal : List UInt8) : Prop :=
  ∃ behind, bytesBits (unescape (nal.drop 2)) = h.bits ++ behind

/-- One NAL unit in an array of the record. -/
def arrayBits (nalType : Nat) (nal : List UInt8) : List Bool :=
  (natBits 1 1 ++ natBits 1 0 ++ natBits 6 nalType) ++ natBits 16 1 ++ natBits 16 nal.length ++
    bytesBits nal

/-- The configuration record with the parameter sets. -/
def hvccBits (h : HevcSps) (vps sps pps : List UInt8) : List Bool :=
  natBits 8 1 ++ (natBits 2 h.profileSpace ++ [h.tier] ++ natBits 5 h.profileIdc) ++
    natBits 32 h.profileCompatibility ++ bytesBits h.constraintFlags ++ byteBits h.levelIdc ++
    (natBits 4 0xF ++ natBits 12 0) ++ (natBits 6 0x3F ++ natBits 2 0) ++
    (natBits 6 0x3F ++ natBits 2 h.chromaFormatIdc) ++
    (natBits 5 0x1F ++ natBits 3 h.bitDepthLumaMinus8) ++
    (natBits 5 0x1F ++ natBits 3 h.bitDepthChromaMinus8) ++
    natBits 16 0 ++ (natBits 2 0 ++ natBits 3 1 ++ natBits 1 1 ++ natBits 2 3) ++ natBits 8 3 ++
    arrayBits 32 vps ++ arrayBits 33 sps ++ arrayBits 34 pps

/-- What the parser makes of the parameter set. -/
def parsed (h : HevcSps) : ParsedHevcSps where
  profileSpace := h.profileSpace
  tierFlag := h.tier.toNat
  profileIdc := h.profileIdc
  profileCompatibility := h.profileCompatibility
  constraintBytes := h.constraintFlags.map UInt8.toNat
  levelIdc := h.levelIdc.toNat
  chromaFormatIdc := h.chromaFormatIdc
  bitDepthLumaMinus8 := h.bitDepthLumaMinus8
  bitDepthChromaMinus8 := h.bitDepthChromaMinus8

end HevcSps

/-! ## The parse -/

theorem reads_byte (b : UInt8) : Reads left (readBits PUnit.unit 8) (byteBits b) b.toNat :=
  reads_field _ (by decide) b.toNat_lt

theorem reads_bytes (bytes : List UInt8) :
    Reads left (readBytes bytes.length) (bytesBits bytes) (bytes.map UInt8.toNat) := by
  induction bytes with
  | nil => exact Reads.pure []
  | cons b bytes ih => exact (reads_byte b).bind (ih.map _)

theorem reads_presence (layers : List SubLayer) :
    Reads left (readPresence layers.length) (layers.flatMap SubLayer.presenceBits)
      (layers.map fun l => (l.profile.isSome.toNat, l.level.isSome.toNat)) := by
  induction layers with
  | nil => exact Reads.pure []
  | cons l layers ih =>
      exact (reads_bit _ l.profile.isSome).bind ((reads_bit _ l.level.isSome).bind (ih.map _))

theorem reads_reserved (n : Nat) :
    Reads left (skipReserved n) (natBits (2 * n) 0) PUnit.unit := by
  induction n with
  | zero => exact Reads.pure PUnit.unit
  | succ n ih =>
      have hsplit : natBits (2 * (n + 1)) 0 = natBits 2 0 ++ natBits (2 * n) 0 := by
        rw [Nat.mul_succ, Nat.add_comm, natBits_add, Nat.zero_shiftRight]
      rw [hsplit]
      exact (reads_field _ (by decide) (by decide)).bind ih

theorem reads_subLayerProfile {profile : Option (List UInt8)}
    (h : ∀ bytes ∈ profile, bytes.length = 11) :
    Reads left (skipSubLayerProfile profile.isSome.toNat) (profile.elim [] bytesBits)
      PUnit.unit := by
  cases profile with
  | none => exact Reads.pure PUnit.unit
  | some bytes =>
      have hlen := h bytes rfl
      match bytes, hlen with
      | [a, b, c, d, e, f, g, i, j, k, l], _ =>
          have hwide : Reads left (readBits PUnit.unit 32) (bytesBits [b, c, d, e]) _ :=
            reads_bits _ (Nat.le_refl 32)
          exact (reads_byte a).bind (hwide.bind ((reads_bytes [f, g, i, j, k, l]).map fun _ => _))

theorem reads_subLayerLevel (level : Option UInt8) :
    Reads left (skipSubLayerLevel level.isSome.toNat) (level.elim [] byteBits) PUnit.unit := by
  cases level with
  | none => exact Reads.pure PUnit.unit
  | some level => exact (reads_byte level).map fun _ => _

theorem reads_skipSubLayers {layers : List SubLayer}
    (h : ∀ l ∈ layers, ∀ profile ∈ l.profile, profile.length = 11) :
    Reads left
      (skipSubLayers (layers.map fun l => (l.profile.isSome.toNat, l.level.isSome.toNat)))
      (layers.flatMap SubLayer.bits) PUnit.unit := by
  induction layers with
  | nil => exact Reads.pure PUnit.unit
  | cons l layers ih =>
      rw [List.flatMap_cons, SubLayer.bits, List.append_assoc, List.map_cons, skipSubLayers]
      refine (reads_subLayerProfile (h l List.mem_cons_self)).bind ?_
      refine (reads_subLayerLevel l.level).bind ?_
      exact ih fun l hl => h l (List.mem_cons_of_mem _ hl)

theorem reads_subLayers {h : HevcSps} (hv : h.Valid) :
    Reads left (readSubLayers h.subLayers.length) h.subLayerBits PUnit.unit := by
  unfold readSubLayers HevcSps.subLayerBits
  by_cases hnone : h.subLayers = []
  · rw [if_pos hnone, hnone]
    exact Reads.pure PUnit.unit
  · have hpos : h.subLayers.length > 0 := List.length_pos_iff.mpr hnone
    rw [if_neg hnone, if_pos hpos, if_pos (show h.subLayers.length < 8 from hv.subLayers)]
    exact (reads_presence h.subLayers).bind
      ((reads_reserved _).bind (reads_skipSubLayers hv.subProfiles))

theorem reads_profileTierLevel {h : HevcSps} (hv : h.Valid) :
    Reads left (parseProfileTierLevel h.subLayers.length) (h.profileBits ++ h.subLayerBits)
      h.parsed.toProfileTierLevel := by
  have hconstraint := reads_bytes h.constraintFlags
  rw [hv.constraint] at hconstraint
  unfold parseProfileTierLevel HevcSps.profileBits
  simp only [List.append_assoc]
  refine (reads_field _ (by decide) hv.space).bind ?_
  refine (reads_bit _ h.tier).bind ?_
  refine (reads_field _ (by decide) hv.profile).bind ?_
  refine (reads_field _ (by decide) hv.compatibility).bind ?_
  refine hconstraint.bind ?_
  refine (reads_byte h.levelIdc).bind ?_
  exact (reads_subLayers hv).map _

theorem reads_conformanceWindow {h : HevcSps} (hv : h.Valid) :
    Reads left (readConformanceWindow h.conformanceWindow.isSome.toNat) h.windowBits
      PUnit.unit := by
  unfold HevcSps.windowBits
  have hoffsets := hv.window
  cases hwindow : h.conformanceWindow with
  | none => exact Reads.pure PUnit.unit
  | some offsets =>
      obtain ⟨hleft, hright, htop, hbottom⟩ := hoffsets offsets hwindow
      obtain ⟨left, right, top, bottom⟩ := offsets
      refine (reads_ue _ hleft).bind ?_
      refine (reads_ue _ hright).bind ?_
      refine (reads_ue _ htop).bind ?_
      exact (reads_ue _ hbottom).map fun _ => _

theorem reads_hevcSps {h : HevcSps} (hv : h.Valid) : Reads left readHevcSps h.bits h.parsed := by
  unfold readHevcSps HevcSps.bits
  rw [← List.append_assoc h.profileBits]
  refine (reads_field _ (by decide) hv.vps).bind ?_
  refine (reads_field _ (by decide) hv.subLayers).bind ?_
  refine (reads_bit _ h.temporalIdNesting).bind ?_
  refine (reads_profileTierLevel hv).bind ?_
  refine (reads_ue _ hv.id).bind ?_
  refine (reads_ue _ hv.chromaFormat).bind ?_
  refine (reads_colourPlane _ _ h.separateColourPlane).bind ?_
  refine (reads_ue _ hv.width).bind ?_
  refine (reads_ue _ hv.height).bind ?_
  refine (reads_bit _ h.conformanceWindow.isSome).bind ?_
  refine (reads_conformanceWindow hv).bind ?_
  refine (reads_ue _ hv.luma).bind ?_
  exact (reads_ue _ hv.chromaDepth).map _

theorem HevcSps.CodedBy.append_zeros {h : HevcSps} {nal : List UInt8} (hcoded : h.CodedBy nal)
    (hheader : 2 ≤ nal.length) (n : Nat) : h.CodedBy (nal ++ zeros n) := by
  obtain ⟨behind, hbits⟩ := hcoded
  refine ⟨behind ++ bytesBits (zeros n), ?_⟩
  rw [List.drop_append_of_le_length hheader, zeros, unescape_append_zeros, bytesBits_append, hbits,
    List.append_assoc]

theorem parseHevcSps_coded {h : HevcSps} (hv : h.Valid) {sps : List UInt8}
    (hcoded : h.CodedBy sps) : parseHevcSps sps = some h.parsed := by
  obtain ⟨behind, hbits⟩ := hcoded
  have hlen : 3 ≤ sps.length := by
    have hsize := congrArg List.length hbits
    have hle := length_unescape_le (sps.drop 2)
    rw [HevcSps.bits, List.length_append, List.length_append, length_bytesBits,
      length_natBits] at hsize
    rw [List.length_drop] at hle
    omega
  have hleft := left_start (sps.drop 2)
  rw [hbits] at hleft
  obtain ⟨r, hread, -⟩ := reads_hevcSps hv _ _ hleft
  rw [parseHevcSps, if_neg (Nat.not_lt.mpr hlen), hread]

/-! ## The record -/

theorem profile_bits : ∀ (space : Fin 4) (tier : Bool) (profile : Fin 32),
    byteBits (((space.val &&& 0x3) <<< 6) ||| ((tier.toNat &&& 0x1) <<< 5) |||
      (profile.val &&& 0x1F)).toUInt8 =
      natBits 2 space.val ++ [tier] ++ natBits 5 profile.val := by
  decide

theorem bytesBits_word (v : Nat) :
    bytesBits [((v >>> 24) &&& 0xFF).toUInt8, ((v >>> 16) &&& 0xFF).toUInt8,
      ((v >>> 8) &&& 0xFF).toUInt8, (v &&& 0xFF).toUInt8] = natBits 32 v := by
  have hfirst : natBits 32 v = natBits 8 (v >>> 24) ++ natBits 24 v := natBits_add 8 24 v
  have hsecond : natBits 24 v = natBits 8 (v >>> 16) ++ natBits 16 v := natBits_add 8 16 v
  have hthird : natBits 16 v = natBits 8 (v >>> 8) ++ natBits 8 v := natBits_add 8 8 v
  rw [hfirst, hsecond, hthird]
  simp only [bytesBits_cons, bytesBits_nil, byteBits_low, List.append_nil]

theorem map_toUInt8_toNat (bytes : List UInt8) :
    (bytes.map UInt8.toNat).map Nat.toUInt8 = bytes := by
  rw [List.map_map]
  refine (List.map_congr_left fun b _ => ?_).trans (List.map_id bytes)
  exact UInt8.ofNat_toNat

theorem hvccArray_bits {header : UInt8} {nalType : Nat}
    (hheader : byteBits header = natBits 1 1 ++ natBits 1 0 ++ natBits 6 nalType)
    (nal : List UInt8) : bytesBits (hvccArray header nal) = HevcSps.arrayBits nalType nal := by
  have hcount : bytesBits [0x00, 0x01] = natBits 16 1 := by decide
  have hsplit : [header, 0x00, 0x01] = [header] ++ [0x00, 0x01] := rfl
  rw [hvccArray, hsplit, bytesBits_append, bytesBits_append, bytesBits_append, hcount,
    bytesBits_be16, HevcSps.arrayBits, ← hheader, bytesBits_cons, bytesBits_nil, List.append_nil]

theorem hvccRecord_bits {h : HevcSps} (hv : h.Valid) {sps : List UInt8}
    (hcoded : h.CodedBy sps) (vps pps : List UInt8) :
    bytesBits (hvccRecord vps sps pps) = h.hvccBits vps sps pps := by
  have hprofile := profile_bits ⟨h.profileSpace, hv.space⟩ h.tier ⟨h.profileIdc, hv.profile⟩
  have hversion : natBits 8 1 = byteBits 0x01 := rfl
  have hspatial : natBits 4 0xF ++ natBits 12 0 = byteBits 0xF0 ++ byteBits 0x00 := by decide
  have hparallelism : natBits 6 0x3F ++ natBits 2 0 = byteBits 0xFC := by decide
  have hrate : natBits 16 0 = byteBits 0x00 ++ byteBits 0x00 := by decide
  have hlayers : natBits 2 0 ++ natBits 3 1 ++ natBits 1 1 ++ natBits 2 3 = byteBits 0x0F := by
    decide
  have harrays : natBits 8 3 = byteBits 0x03 := rfl
  have hvps := hvccArray_bits (show byteBits 0xA0 = natBits 1 1 ++ natBits 1 0 ++ natBits 6 32 by
    decide) vps
  have hsps := hvccArray_bits (show byteBits 0xA1 = natBits 1 1 ++ natBits 1 0 ++ natBits 6 33 by
    decide) sps
  have hpps := hvccArray_bits (show byteBits 0xA2 = natBits 1 1 ++ natBits 1 0 ++ natBits 6 34 by
    decide) pps
  unfold hvccRecord HevcSps.hvccBits
  rw [parseHevcSps_coded hv hcoded, hversion, hspatial, hparallelism, hrate, hlayers, harrays,
    ← hprofile, ← hvps, ← hsps, ← hpps, ← byteBits_two, ← byteBits_three, ← byteBits_three,
    ← bytesBits_word]
  simp only [Option.getD_some, HevcSps.parsed, map_toUInt8_toNat, UInt8.ofNat_toNat,
    bytesBits_append, bytesBits_cons, bytesBits_nil, List.append_nil, List.append_assoc]

/-! ## Access units -/

def isHevc (nalType : UInt8) (nal : List UInt8) : Bool := hevcNalType nal == nalType

theorem hevc_byHeader (nalType : UInt8) : ByHeader (isHevc nalType) := by
  intro nal n hne
  obtain ⟨b, rest, rfl⟩ := List.exists_cons_of_ne_nil (List.ne_nil_of_length_pos hne)
  rfl

theorem findParameterSets_spans {units : List (Nat × List UInt8)} {trailing : Nat}
    (hunits : ∀ u ∈ units, StreamUnit 2 u) {vpsSpan spsSpan ppsSpan : List UInt8}
    (h : findParameterSets (spans units trailing) = some (vpsSpan, spsSpan, ppsSpan)) :
    ∃ vps a sps b pps c, First (isHevc kHevcNalVps) units trailing vps a ∧
      First (isHevc kHevcNalSps) units trailing sps b ∧
      First (isHevc kHevcNalPps) units trailing pps c ∧
      vpsSpan = vps ++ zeros a ∧ spsSpan = sps ++ zeros b ∧ ppsSpan = pps ++ zeros c := by
  have hlong : ∀ u ∈ units, 1 ≤ u.2.length := fun u hu =>
    Nat.le_trans (by decide) (hunits u hu).header
  rw [findParameterSets] at h
  cases hvps : (spans units trailing).find? (hevcNalType · == kHevcNalVps) with
  | none =>
      rw [hvps] at h
      exact nomatch h
  | some v =>
      cases hsps : (spans units trailing).find? (hevcNalType · == kHevcNalSps) with
      | none =>
          rw [hvps, hsps] at h
          exact nomatch h
      | some s =>
          cases hpps : (spans units trailing).find? (hevcNalType · == kHevcNalPps) with
          | none =>
              rw [hvps, hsps, hpps] at h
              exact nomatch h
          | some p =>
              rw [hvps, hsps, hpps] at h
              obtain ⟨vps, a, hfirstVps, hv⟩ := find_spans (hevc_byHeader _) hlong hvps
              obtain ⟨sps, b, hfirstSps, hs⟩ := find_spans (hevc_byHeader _) hlong hsps
              obtain ⟨pps, c, hfirstPps, hp⟩ := find_spans (hevc_byHeader _) hlong hpps
              obtain ⟨hv', hrest⟩ := Prod.mk.inj (Option.some.inj h)
              obtain ⟨hs', hp'⟩ := Prod.mk.inj hrest
              exact ⟨vps, a, sps, b, pps, c, hfirstVps, hfirstSps, hfirstPps,
                hv'.symm.trans hv, hs'.symm.trans hs, hp'.symm.trans hp⟩

/-- The second scan finds in the extract what the first one took. -/
theorem find_extract {vps sps pps : List UInt8} (hvps : Unit 2 vps) (hsps : Unit 2 sps)
    (hpps : Unit 2 pps) (a b c : Nat) (hvpsType : isHevc kHevcNalVps vps = true)
    (hspsType : isHevc kHevcNalSps sps = true) (hppsType : isHevc kHevcNalPps pps = true) :
    findParameterSets (enumerateNals 2 (longStartCode ++ (vps ++ zeros a) ++ longStartCode ++
        (sps ++ zeros b) ++ longStartCode ++ (pps ++ zeros c))) =
      some (vps ++ zeros a, sps ++ zeros b, pps ++ zeros c) := by
  have hstream : longStartCode ++ (vps ++ zeros a) ++ longStartCode ++ (sps ++ zeros b) ++
      longStartCode ++ (pps ++ zeros c) =
      byteStream [(3, vps), (a + 3, sps), (b + 3, pps)] c := by
    have hcode : ∀ rest, zeros 3 ++ 1 :: rest = longStartCode ++ rest := fun _ => rfl
    simp only [byteStream, zeros_add, List.append_assoc, hcode]
  have hunits : ∀ u ∈ [(3, vps), (a + 3, sps), (b + 3, pps)], StreamUnit 2 u := by
    intro u hu
    simp only [List.mem_cons, List.not_mem_nil, or_false] at hu
    rcases hu with rfl | rfl | rfl
    · exact ⟨hvps, show 2 ≤ 3 by decide⟩
    · exact ⟨hsps, by dsimp only; omega⟩
    · exact ⟨hpps, by dsimp only; omega⟩
  have hspans : spans [(3, vps), (a + 3, sps), (b + 3, pps)] c =
      [vps ++ zeros a, sps ++ zeros b, pps ++ zeros c] := rfl
  have hv : hevcNalType (vps ++ zeros a) = kHevcNalVps := by
    have h := hevc_byHeader kHevcNalVps vps a (Nat.le_trans (by decide) hvps.header)
    exact beq_iff_eq.mp (h.trans hvpsType)
  have hs : hevcNalType (sps ++ zeros b) = kHevcNalSps := by
    have h := hevc_byHeader kHevcNalSps sps b (Nat.le_trans (by decide) hsps.header)
    exact beq_iff_eq.mp (h.trans hspsType)
  have hp : hevcNalType (pps ++ zeros c) = kHevcNalPps := by
    have h := hevc_byHeader kHevcNalPps pps c (Nat.le_trans (by decide) hpps.header)
    exact beq_iff_eq.mp (h.trans hppsType)
  rw [hstream, enumerateNals_byteStream hunits, hspans, findParameterSets]
  simp only [List.find?_cons, hv, hs, hp]
  rfl

theorem build_extractHevc {vps sps pps : List UInt8} (hvps : Unit 2 vps) (hsps : Unit 2 sps)
    (hpps : Unit 2 pps) (a b c : Nat) (hvpsType : isHevc kHevcNalVps vps = true)
    (hspsType : isHevc kHevcNalSps sps = true) (hppsType : isHevc kHevcNalPps pps = true)
    (hlong : (vps ++ zeros a).length ≤ 0xFFFF ∧ (sps ++ zeros b).length ≤ 0xFFFF ∧
      (pps ++ zeros c).length ≤ 0xFFFF) :
    buildHvccFromAnnexBVpsSpsPps (longStartCode ++ (vps ++ zeros a) ++ longStartCode ++
        (sps ++ zeros b) ++ longStartCode ++ (pps ++ zeros c)) =
      some (hvccRecord (vps ++ zeros a) (sps ++ zeros b) (pps ++ zeros c)) := by
  have hfind := find_extract hvps hsps hpps a b c hvpsType hspsType hppsType
  have hheaders : 2 ≤ (vps ++ zeros a).length ∧ 2 ≤ (sps ++ zeros b).length ∧
      2 ≤ (pps ++ zeros c).length := by
    rw [List.length_append, List.length_append, List.length_append]
    exact ⟨Nat.le_add_right_of_le hvps.header, Nat.le_add_right_of_le hsps.header,
      Nat.le_add_right_of_le hpps.header⟩
  generalize vps ++ zeros a = v, sps ++ zeros b = s, pps ++ zeros c = p at *
  have hlen : (longStartCode ++ v ++ longStartCode ++ s ++ longStartCode ++ p).length =
      4 + v.length + 4 + s.length + 4 + p.length := by
    simp only [List.length_append]
    rfl
  have htake : (longStartCode ++ v ++ longStartCode ++ s ++ longStartCode ++ p).take 4 =
      longStartCode := by
    simp only [List.append_assoc]
    rfl
  rw [buildHvccFromAnnexBVpsSpsPps, if_neg (by omega), if_neg (not_not.mpr htake), hfind]
  dsimp only
  rw [if_neg (by omega), if_neg (by omega)]

/-- The hvcC record that is built of an access unit. -/
def HvccCarried (units : List (Nat × List UInt8)) (trailing : Nat) (extract : List UInt8) : Prop :=
  ∃ vps a sps b pps c, First (isHevc kHevcNalVps) units trailing vps a ∧
    First (isHevc kHevcNalSps) units trailing sps b ∧
    First (isHevc kHevcNalPps) units trailing pps c ∧
    ∀ h : HevcSps, h.Valid → h.CodedBy sps →
      (vps ++ zeros a).length ≤ 0xFFFF → (sps ++ zeros b).length ≤ 0xFFFF →
      (pps ++ zeros c).length ≤ 0xFFFF →
      ∃ record, buildHvccFromAnnexBVpsSpsPps extract = some record ∧
        bytesBits record = h.hvccBits (vps ++ zeros a) (sps ++ zeros b) (pps ++ zeros c)

theorem hvcc_carried {units : List (Nat × List UInt8)} {trailing : Nat}
    (hunits : ∀ u ∈ units, StreamUnit 2 u) {extract : List UInt8}
    (hextract : extractHevcVpsSpsPps (byteStream units trailing) = some extract) :
    HvccCarried units trailing extract := by
  rw [extractHevcVpsSpsPps, enumerateNals_byteStream hunits] at hextract
  cases hfound : findParameterSets (spans units trailing) with
  | none =>
      rw [hfound] at hextract
      exact nomatch hextract
  | some found =>
      obtain ⟨vpsSpan, spsSpan, ppsSpan⟩ := found
      rw [hfound] at hextract
      obtain ⟨vps, a, sps, b, pps, c, hvps, hsps, hpps, rfl, rfl, rfl⟩ :=
        findParameterSets_spans hunits hfound
      obtain rfl := Option.some.inj hextract
      refine ⟨vps, a, sps, b, pps, c, hvps, hsps, hpps, fun h hv hcoded hlongV hlongS hlongP => ?_⟩
      obtain ⟨k, hmemVps⟩ := hvps.mem
      obtain ⟨l, hmemSps⟩ := hsps.mem
      obtain ⟨m, hmemPps⟩ := hpps.mem
      have hunitSps : Unit 2 sps := (hunits _ hmemSps).toUnit
      refine ⟨_, build_extractHevc (hunits _ hmemVps).toUnit hunitSps (hunits _ hmemPps).toUnit a b c
        hvps.kind hsps.kind hpps.kind ⟨hlongV, hlongS, hlongP⟩, ?_⟩
      exact hvccRecord_bits hv (hcoded.append_zeros hunitSps.header b) _ _

/-- The records that are built of an access unit carry its first parameter sets, as far as the scan
    takes them, and what the SPS codes. -/
theorem parameterSets_carried (units : List (Nat × List UInt8)) (trailing : Nat)
    (extract : List UInt8) :
    ((∀ u ∈ units, StreamUnit 1 u) →
      extractH264SpsAndPps (byteStream units trailing) = some extract →
        AvccCarried units trailing extract) ∧
      ((∀ u ∈ units, StreamUnit 2 u) →
        extractHevcVpsSpsPps (byteStream units trailing) = some extract →
          HvccCarried units trailing extract) :=
  ⟨fun hunits hextract => avcc_carried hunits hextract,
    fun hunits hextract => hvcc_carried hunits hextract⟩

/-- A parameter set of 16 bits a sample, in 4:2:0. -/
def sixteenBit : HevcSps where
  videoParameterSetId := 0
  temporalIdNesting := true
  profileSpace := 0
  tier := false
  profileIdc := 4
  profileCompatibility := 0x08010101
  constraintFlags := [0x9E, 1, 1, 1, 1, 1]
  levelIdc := 0x5D
  subLayers := []
  seqParameterSetId := 0
  chromaFormatIdc := 1
  separateColourPlane := false
  picWidth := 64
  picHeight := 64
  conformanceWindow := none
  bitDepthLumaMinus8 := 8
  bitDepthChromaMinus8 := 8

def sixteenBitNal : List UInt8 :=
  [0x42, 1, 1, 4, 8, 1, 1, 1, 0x9E, 1, 1, 1, 1, 1, 0x5D, 0xA0, 0x20, 0x81, 4, 0x24, 0x4C]

/-- A parameter set of profile 0, whose level stands behind an emulation-prevention byte. -/
def profileZero : H264Sps where
  profileIdc := 0
  constraintFlags := 0
  levelIdc := 1
  seqParameterSetId := 0
  chroma := {}
  separateColourPlane := false

/-- Of four zeros before a start code one goes into the copy of the SPS; 16 bits do not fit into the
    field of the bit depth; and an escaped level is not the one copied. -/
theorem parameterSets_not_carried :
    ((extractH264SpsAndPps
        (byteStream [(3, [0x67, 0x42, 0, 0x1E, 0x80]), (4, [0x68, 0xCE])] 0)).bind
      buildAvccFromAnnexBSpsAndPps =
        some [1, 0x42, 0, 0x1E, 0xFF, 0xE1, 0, 6, 0x67, 0x42, 0, 0x1E, 0x80, 0,
          1, 0, 2, 0x68, 0xCE]) ∧
      (sixteenBit.CodedBy sixteenBitNal ∧
        ((extractHevcVpsSpsPps
            (byteStream [(3, [0x40, 1, 1]), (3, sixteenBitNal), (3, [0x44, 1, 1])] 0)).bind
          buildHvccFromAnnexBVpsSpsPps).map (·.getD 17 0) = some 0xF8) ∧
      (profileZero.CodedBy [0x67, 0, 0, 3, 1, 0x80] ∧
        ((extractH264SpsAndPps
            (byteStream [(3, [0x67, 0, 0, 3, 1, 0x80]), (3, [0x68, 0xCE])] 0)).bind
          buildAvccFromAnnexBSpsAndPps).map (·.getD 3 0) = some 3) := by
  refine ⟨by decide, ⟨⟨natBits 3 4, by decide⟩, by decide +kernel⟩, ⟨natBits 7 0, by decide⟩,
    by decide⟩

end Exosnap.Engine.AnnexB
