/-
  The avcC record of an access unit (`ExtractH264SpsAndPps`, `BuildAvccFromAnnexBSpsAndPps`) against
  the syntax of its sequence parameter set.

  A function that fills a buffer answers `none` where the source answers false. A pointer into a
  buffer together with the bytes left is the suffix from there.
-/
import Exosnap.Engine.NalStream
import Exosnap.Engine.RbspBits

namespace Exosnap.Engine.AnnexB

open ByteFraming BitString Rbsp

/-! ## The code -/

def longStartCode : List UInt8 := [0, 0, 0, 1]

def extractH264SpsAndPps (data : List UInt8) : Option (List UInt8) :=
  let nals := enumerateNals 1 data
  match nals.find? (h264NalType · == 7), nals.find? (h264NalType · == 8) with
  | some sps, some pps => some (longStartCode ++ sps ++ longStartCode ++ pps)
  | _, _ => none

structure H264SpsChromaInfo where
  chromaFormatIdc : Nat := 1
  bitDepthLumaMinus8 : Nat := 0
  bitDepthChromaMinus8 : Nat := 0
  deriving DecidableEq

/-- The profiles whose SPS carries the chroma and bit-depth block. -/
def kHighFamily : List UInt8 := [100, 110, 122, 244, 44, 83, 86, 118, 128, 138, 139, 134, 135]

/-- `separate_colour_plane_flag`, which only 4:4:4 has. -/
def readColourPlane {ε : Type} (fail : ε) (chromaFormatIdc : Nat) : Parse ε PUnit :=
  if chromaFormatIdc = 3 then do
    let _ ← readBit fail
    pure ()
  else pure ()

/-- A read that fails leaves what was read before it. -/
def readChromaInfo : Parse H264SpsChromaInfo H264SpsChromaInfo := do
  let out : H264SpsChromaInfo := {}
  let _ ← readBits out 24
  let _ ← readUe out
  let chromaFormatIdc ← readUe out
  let out := { out with chromaFormatIdc := chromaFormatIdc }
  readColourPlane out chromaFormatIdc
  let bitDepthLumaMinus8 ← readUe out
  let out := { out with bitDepthLumaMinus8 := bitDepthLumaMinus8 }
  let bitDepthChromaMinus8 ← readUe out
  pure { out with bitDepthChromaMinus8 := bitDepthChromaMinus8 }

def parseH264SpsChromaInfo (sps : List UInt8) : Bool × H264SpsChromaInfo :=
  if sps.length < 4 then (false, {})
  else if !kHighFamily.contains (sps.getD 1 0) then (true, {})
  else match readChromaInfo { data := sps.drop 1 } with
    | .ok (out, _) => (true, out)
    | .error out => (false, out)

/-- The number of bytes before the next four-byte start code. -/
def bytesToLongStartCode : List UInt8 → Option Nat
  | [] => none
  | b :: rest =>
      if startCodeLen (b :: rest) = 4 then some 0 else (bytesToLongStartCode rest).map (· + 1)

def be16 (n : Nat) : List UInt8 := [((n >>> 8) &&& 0xFF).toUInt8, (n &&& 0xFF).toUInt8]

/-- AVCDecoderConfigurationRecord, as `BuildAvccFromAnnexBSpsAndPps` writes it. -/
def avccRecord (sps pps : List UInt8) : List UInt8 :=
  let profileIdc := sps.getD 1 0
  let profileCompat := sps.getD 2 0
  let levelIdc := sps.getD 3 0
  let info := (parseH264SpsChromaInfo sps).2
  [0x01, profileIdc, profileCompat, levelIdc, 0xFF, 0xE1] ++ be16 sps.length ++ sps ++
    [0x01] ++ be16 pps.length ++ pps ++
    (if profileIdc ≠ 66 ∧ profileIdc ≠ 77 ∧ profileIdc ≠ 88 then
      [0xFC ||| (info.chromaFormatIdc &&& 0x03).toUInt8,
        0xF8 ||| (info.bitDepthLumaMinus8 &&& 0x07).toUInt8,
        0xF8 ||| (info.bitDepthChromaMinus8 &&& 0x07).toUInt8, 0x00]
    else [])

def buildAvccFromAnnexBSpsAndPps (annexb : List UInt8) : Option (List UInt8) :=
  if annexb.length < 14 then none
  else if annexb.take 4 ≠ longStartCode then none
  else match bytesToLongStartCode (annexb.drop 5) with
    | none => none
    | some n =>
        let sps := (annexb.drop 4).take (n + 1)
        let pps := annexb.drop (4 + (n + 1) + 4)
        if sps.length < 4 ∨ pps.length < 1 then none
        else if sps.length > 0xFFFF ∨ pps.length > 0xFFFF then none
        else some (avccRecord sps pps)

/-! ## The syntax -/

/-- A sequence parameter set up to the bit depths. Those and the chroma format are coded in the
    profiles of the high family only. -/
structure H264Sps where
  profileIdc : UInt8
  constraintFlags : UInt8
  levelIdc : UInt8
  seqParameterSetId : Nat
  chroma : H264SpsChromaInfo
  separateColourPlane : Bool

namespace H264Sps

def chromaBits (h : H264Sps) : List Bool :=
  ueBits h.chroma.chromaFormatIdc ++
    ((if h.chroma.chromaFormatIdc = 3 then [h.separateColourPlane] else []) ++
      (ueBits h.chroma.bitDepthLumaMinus8 ++ ueBits h.chroma.bitDepthChromaMinus8))

def bits (h : H264Sps) : List Bool :=
  bytesBits [h.profileIdc, h.constraintFlags, h.levelIdc] ++ (ueBits h.seqParameterSetId ++
    (if h.profileIdc ∈ kHighFamily then h.chromaBits else []))

/-- The numbers are those that `ue(v)` codes, and where the chroma block is not coded, it is 8-bit
    4:2:0. -/
structure Valid (h : H264Sps) : Prop where
  id : h.seqParameterSetId < 2 ^ 32 - 1
  chromaFormat : h.chroma.chromaFormatIdc < 2 ^ 32 - 1
  luma : h.chroma.bitDepthLumaMinus8 < 2 ^ 32 - 1
  chromaDepth : h.chroma.bitDepthChromaMinus8 < 2 ^ 32 - 1
  inferred : h.profileIdc ∉ kHighFamily → h.chroma = {}

/-- The NAL unit codes the parameter set. -/
def CodedBy (h : H264Sps) (nal : List UInt8) : Prop :=
  ∃ behind, bytesBits (unescape (nal.drop 1)) = h.bits ++ behind

/-- The configuration record with the parameter sets. -/
def avccBits (h : H264Sps) (sps pps : List UInt8) : List Bool :=
  natBits 8 1 ++ byteBits h.profileIdc ++ byteBits h.constraintFlags ++ byteBits h.levelIdc ++
    (natBits 6 0x3F ++ natBits 2 3) ++ (natBits 3 7 ++ natBits 5 1) ++
    natBits 16 sps.length ++ bytesBits sps ++
    natBits 8 1 ++ natBits 16 pps.length ++ bytesBits pps ++
    (if h.profileIdc ≠ 66 ∧ h.profileIdc ≠ 77 ∧ h.profileIdc ≠ 88 then
      (natBits 6 0x3F ++ natBits 2 h.chroma.chromaFormatIdc) ++
        (natBits 5 0x1F ++ natBits 3 h.chroma.bitDepthLumaMinus8) ++
        (natBits 5 0x1F ++ natBits 3 h.chroma.bitDepthChromaMinus8) ++ natBits 8 0
    else [])

end H264Sps

/-! ## Fields of a record -/

theorem byteBits_low (n : Nat) : byteBits (n &&& 0xFF).toUInt8 = natBits 8 n := by
  have hmask : n &&& 0xFF = n % 2 ^ 8 := Nat.and_two_pow_sub_one_eq_mod n 8
  have hlt := Nat.mod_lt n (show 2 ^ 8 > 0 by decide)
  rw [hmask, byteBits, UInt8.toNat_ofNat_of_lt' hlt, natBits_mod (Nat.le_refl 8)]

theorem bytesBits_be16 (n : Nat) : bytesBits (be16 n) = natBits 16 n := by
  rw [be16, bytesBits_cons, bytesBits_cons, bytesBits_nil, List.append_nil, byteBits_low,
    byteBits_low, ← natBits_add 8 8]

/-- Six bits set and two of a number. -/
theorem byteBits_two (v : Nat) :
    byteBits (0xFC ||| (v &&& 0x03).toUInt8) = natBits 6 0x3F ++ natBits 2 v := by
  have hall : ∀ x : Fin 4,
      byteBits (0xFC ||| x.val.toUInt8) = natBits 6 0x3F ++ natBits 2 x.val := by decide
  have hmask : v &&& 0x03 = v % 2 ^ 2 := Nat.and_two_pow_sub_one_eq_mod v 2
  rw [hmask, hall ⟨v % 2 ^ 2, Nat.mod_lt _ (by decide)⟩, natBits_mod (Nat.le_refl 2)]

/-- Five bits set and three of a number. -/
theorem byteBits_three (v : Nat) :
    byteBits (0xF8 ||| (v &&& 0x07).toUInt8) = natBits 5 0x1F ++ natBits 3 v := by
  have hall : ∀ x : Fin 8,
      byteBits (0xF8 ||| x.val.toUInt8) = natBits 5 0x1F ++ natBits 3 x.val := by decide
  have hmask : v &&& 0x07 = v % 2 ^ 3 := Nat.and_two_pow_sub_one_eq_mod v 3
  rw [hmask, hall ⟨v % 2 ^ 3, Nat.mod_lt _ (by decide)⟩, natBits_mod (Nat.le_refl 3)]

/-! ## The parse -/

theorem reads_colourPlane {ε : Type} (fail : ε) (chromaFormatIdc : Nat) (plane : Bool) :
    Reads left (readColourPlane fail chromaFormatIdc)
      (if chromaFormatIdc = 3 then [plane] else []) PUnit.unit := by
  unfold readColourPlane
  by_cases h : chromaFormatIdc = 3
  · rw [if_pos h, if_pos h]
    exact (reads_bit fail plane).bind (k := fun _ => pure PUnit.unit) (Reads.pure PUnit.unit)
  · rw [if_neg h, if_neg h]
    exact Reads.pure PUnit.unit

theorem reads_chromaInfo {h : H264Sps} (hv : h.Valid) :
    Reads left readChromaInfo
      (bytesBits [h.profileIdc, h.constraintFlags, h.levelIdc] ++
        (ueBits h.seqParameterSetId ++ h.chromaBits)) h.chroma := by
  unfold readChromaInfo H264Sps.chromaBits
  have hheader : Reads left (readBits ({} : H264SpsChromaInfo) 24)
      (bytesBits [h.profileIdc, h.constraintFlags, h.levelIdc]) _ :=
    reads_bits _ (show 24 ≤ 32 by decide)
  refine hheader.bind ?_
  refine (reads_ue _ hv.id).bind ?_
  refine (reads_ue _ hv.chromaFormat).bind ?_
  refine (reads_colourPlane _ _ h.separateColourPlane).bind ?_
  refine (reads_ue _ hv.luma).bind ?_
  exact (reads_ue _ hv.chromaDepth).map _

/-- Zeros behind the NAL unit change nothing of what it codes. -/
theorem H264Sps.CodedBy.append_zeros {h : H264Sps} {nal : List UInt8} (hcoded : h.CodedBy nal)
    (hne : 1 ≤ nal.length) (n : Nat) : h.CodedBy (nal ++ zeros n) := by
  obtain ⟨behind, hbits⟩ := hcoded
  refine ⟨behind ++ bytesBits (zeros n), ?_⟩
  rw [List.drop_append_of_le_length hne, zeros, unescape_append_zeros, bytesBits_append, hbits,
    List.append_assoc]

/-- What the record is made from, in a parameter set whose first bytes are not escaped. -/
structure Parsed (h : H264Sps) (sps : List UInt8) : Prop where
  length : 5 ≤ sps.length
  profile : sps.getD 1 0 = h.profileIdc
  flags : sps.getD 2 0 = h.constraintFlags
  level : sps.getD 3 0 = h.levelIdc
  chroma : (parseH264SpsChromaInfo sps).2 = h.chroma

theorem parsed_of_coded {h : H264Sps} (hv : h.Valid) {sps : List UInt8} (hcoded : h.CodedBy sps)
    (hzero : h.profileIdc ≠ 0 ∨ h.constraintFlags ≠ 0) : Parsed h sps := by
  obtain ⟨behind, hbits⟩ := hcoded
  have hthree := hbits
  rw [H264Sps.bits, List.append_assoc] at hthree
  obtain ⟨rest, hrest⟩ := unescape_three hthree hzero
  have hlen : 5 ≤ sps.length := by
    have hsize := congrArg List.length hbits
    have hle := length_unescape_le (sps.drop 1)
    have hue := ueBits_pos h.seqParameterSetId
    rw [H264Sps.bits, List.length_append, List.length_append, List.length_append, length_bytesBits,
      length_bytesBits] at hsize
    rw [List.length_drop] at hle
    have hheader : [h.profileIdc, h.constraintFlags, h.levelIdc].length = 3 := rfl
    omega
  obtain ⟨header, tail, rfl⟩ : ∃ header tail, sps = header :: tail := by
    cases sps with
    | nil => exact absurd hlen (by decide : ¬ 5 ≤ 0)
    | cons header tail => exact ⟨header, tail, rfl⟩
  obtain rfl : tail = h.profileIdc :: h.constraintFlags :: h.levelIdc :: rest := hrest
  refine ⟨hlen, rfl, rfl, rfl, ?_⟩
  have hprofile : (header :: h.profileIdc :: h.constraintFlags :: h.levelIdc :: rest).getD 1 0 =
      h.profileIdc := rfl
  rw [parseH264SpsChromaInfo, if_neg (by omega), hprofile]
  by_cases hhigh : h.profileIdc ∈ kHighFamily
  · have hleft := left_start
      ((header :: h.profileIdc :: h.constraintFlags :: h.levelIdc :: rest).drop 1)
    rw [hbits, H264Sps.bits, if_pos hhigh] at hleft
    obtain ⟨r, hread, -⟩ := reads_chromaInfo hv _ _ hleft
    rw [List.contains_iff_mem.mpr hhigh, hread]
    rfl
  · have hcontains : kHighFamily.contains h.profileIdc = false := by
      rw [Bool.eq_false_iff, ne_eq, List.contains_iff_mem]
      exact hhigh
    rw [hcontains, hv.inferred hhigh]
    rfl

/-! ## The two parameter sets in the extract -/

theorem bytesToLongStartCode_zeros (n : Nat) (rest : List UInt8) :
    bytesToLongStartCode (zeros n ++ (longStartCode ++ rest)) = some n := by
  induction n with
  | zero => rfl
  | succ n ih =>
      have hnone : startCodeLen (0 :: (zeros n ++ (longStartCode ++ rest))) = 0 := by
        match n with
        | 0 => rfl
        | 1 => rfl
        | 2 => rfl
        | n + 3 => rfl
      rw [zeros_succ, List.cons_append, bytesToLongStartCode, hnone, if_neg (by decide), ih]
      rfl

/-- A unit and zeros behind it are passed over. -/
theorem bytesToLongStartCode_unit {v : List UInt8} (hv : Clean v) {u : List UInt8} (hu : u <:+ v)
    (n : Nat) (rest : List UInt8) :
    bytesToLongStartCode (u ++ (zeros n ++ (longStartCode ++ rest))) = some (u.length + n) := by
  induction u with
  | nil =>
      rw [List.nil_append, List.length_nil, Nat.zero_add]
      exact bytesToLongStartCode_zeros n rest
  | cons a u ih =>
      have hclean := hv.suffix hu (List.cons_ne_nil a u)
      have hnone : startCodeLen (a :: (u ++ (zeros n ++ (longStartCode ++ rest)))) = 0 :=
        startCodeLen_clean hclean (List.cons_ne_nil a u) _
      rw [List.cons_append, bytesToLongStartCode, hnone, if_neg (by decide),
        ih ((List.suffix_cons a u).trans hu), Option.map_some, List.length_cons,
        Nat.add_right_comm]

/-- The record that is built of the extract. -/
theorem build_extract {nal : List UInt8} (hnal : Unit 1 nal) (n : Nat) (pps : List UInt8)
    (hpps : 1 ≤ pps.length) (hlong : 5 ≤ (nal ++ zeros n).length)
    (hsps : (nal ++ zeros n).length ≤ 0xFFFF) (hshort : pps.length ≤ 0xFFFF) :
    buildAvccFromAnnexBSpsAndPps
        (longStartCode ++ (nal ++ zeros n) ++ longStartCode ++ pps) =
      some (avccRecord (nal ++ zeros n) pps) := by
  generalize hspan : nal ++ zeros n = sps at *
  have hlen : (longStartCode ++ sps ++ longStartCode ++ pps).length =
      4 + sps.length + 4 + pps.length := by
    rw [List.length_append, List.length_append, List.length_append]
    rfl
  have hassoc : longStartCode ++ sps ++ longStartCode ++ pps =
      longStartCode ++ (sps ++ (longStartCode ++ pps)) := by
    simp only [List.append_assoc]
  have htake : (longStartCode ++ sps ++ longStartCode ++ pps).take 4 = longStartCode := by
    rw [hassoc]
    rfl
  have hbehind : (longStartCode ++ sps ++ longStartCode ++ pps).drop 4 =
      sps ++ (longStartCode ++ pps) := by
    rw [hassoc]
    rfl
  have hfind : bytesToLongStartCode ((longStartCode ++ sps ++ longStartCode ++ pps).drop 5) =
      some (sps.length - 1) := by
    have hdrop : (longStartCode ++ sps ++ longStartCode ++ pps).drop 5 =
        nal.drop 1 ++ (zeros n ++ (longStartCode ++ pps)) := by
      rw [show (5 : Nat) = 4 + 1 from rfl, ← List.drop_drop, hbehind, ← hspan, List.append_assoc,
        List.drop_append_of_le_length hnal.header]
    rw [hdrop, bytesToLongStartCode_unit hnal.clean (List.drop_suffix 1 nal), List.length_drop,
      ← hspan, List.length_append, zeros, List.length_replicate]
    have := hnal.header
    congr 1
    omega
  have hspsSlice : ((longStartCode ++ sps ++ longStartCode ++ pps).drop 4).take
      (sps.length - 1 + 1) = sps := by
    rw [hbehind, Nat.sub_add_cancel (by omega), List.take_left]
  have hppsSlice : (longStartCode ++ sps ++ longStartCode ++ pps).drop
      (4 + (sps.length - 1 + 1) + 4) = pps := by
    refine List.drop_left' ?_
    rw [List.length_append, List.length_append]
    have hcode : longStartCode.length = 4 := rfl
    omega
  rw [buildAvccFromAnnexBSpsAndPps, if_neg (by omega), if_neg (not_not.mpr htake), hfind]
  dsimp only
  rw [hspsSlice, hppsSlice, if_neg (by omega), if_neg (by omega)]

/-- The record carries the parameter set that is coded. -/
theorem avccRecord_bits {h : H264Sps} {sps : List UInt8} (hparsed : Parsed h sps)
    (pps : List UInt8) : bytesBits (avccRecord sps pps) = h.avccBits sps pps := by
  have hfirst : byteBits 0x01 = natBits 8 1 := rfl
  have hsize : byteBits 0xFF = natBits 6 0x3F ++ natBits 2 3 := by decide
  have hcount : byteBits 0xE1 = natBits 3 7 ++ natBits 5 1 := by decide
  have hext : byteBits 0x00 = natBits 8 0 := rfl
  unfold avccRecord H264Sps.avccBits
  dsimp only
  rw [hparsed.profile, hparsed.flags, hparsed.level, hparsed.chroma]
  simp only [bytesBits_append, bytesBits_be16, bytesBits_cons, bytesBits_nil, List.append_nil,
    hfirst, hsize, hcount]
  by_cases hextended : h.profileIdc ≠ 66 ∧ h.profileIdc ≠ 77 ∧ h.profileIdc ≠ 88
  · rw [if_pos hextended, if_pos hextended]
    simp only [bytesBits_cons, bytesBits_nil, List.append_nil, byteBits_two, byteBits_three, hext,
      List.append_assoc]
  · rw [if_neg hextended, if_neg hextended]
    simp only [bytesBits_nil, List.append_nil, List.append_assoc]

/-! ## Access units -/

def isH264Sps (nal : List UInt8) : Bool := h264NalType nal == 7

def isH264Pps (nal : List UInt8) : Bool := h264NalType nal == 8

theorem h264_byHeader (kind : UInt8 → Bool) : ByHeader fun nal => kind (h264NalType nal) := by
  intro nal n hne
  obtain ⟨b, rest, rfl⟩ := List.exists_cons_of_ne_nil (List.ne_nil_of_length_pos hne)
  rfl

/-- What `ExtractH264SpsAndPps` takes out of an access unit. -/
theorem extractH264_eq {units : List (Nat × List UInt8)} {trailing : Nat}
    (hunits : ∀ u ∈ units, StreamUnit 1 u) {extract : List UInt8}
    (h : extractH264SpsAndPps (byteStream units trailing) = some extract) :
    ∃ sps n pps m, First isH264Sps units trailing sps n ∧ First isH264Pps units trailing pps m ∧
      extract = longStartCode ++ (sps ++ zeros n) ++ longStartCode ++ (pps ++ zeros m) := by
  have hlong : ∀ u ∈ units, 1 ≤ u.2.length := fun u hu => (hunits u hu).header
  rw [extractH264SpsAndPps, enumerateNals_byteStream hunits] at h
  cases hsps : (spans units trailing).find? (h264NalType · == 7) with
  | none =>
      rw [hsps] at h
      exact nomatch h
  | some spsSpan =>
      cases hpps : (spans units trailing).find? (h264NalType · == 8) with
      | none =>
          rw [hsps, hpps] at h
          exact nomatch h
      | some ppsSpan =>
          rw [hsps, hpps] at h
          obtain ⟨sps, n, hfirstSps, rfl⟩ := find_spans (h264_byHeader (· == 7)) hlong hsps
          obtain ⟨pps, m, hfirstPps, rfl⟩ := find_spans (h264_byHeader (· == 8)) hlong hpps
          exact ⟨sps, n, pps, m, hfirstSps, hfirstPps, (Option.some.inj h).symm⟩

/-- The avcC record that is built of an access unit. -/
def AvccCarried (units : List (Nat × List UInt8)) (trailing : Nat) (extract : List UInt8) : Prop :=
  ∃ sps n pps m, First isH264Sps units trailing sps n ∧ First isH264Pps units trailing pps m ∧
    ∀ h : H264Sps, h.Valid → h.CodedBy sps → (h.profileIdc ≠ 0 ∨ h.constraintFlags ≠ 0) →
      (sps ++ zeros n).length ≤ 0xFFFF → (pps ++ zeros m).length ≤ 0xFFFF →
      ∃ record, buildAvccFromAnnexBSpsAndPps extract = some record ∧
        bytesBits record = h.avccBits (sps ++ zeros n) (pps ++ zeros m)

theorem avcc_carried {units : List (Nat × List UInt8)} {trailing : Nat}
    (hunits : ∀ u ∈ units, StreamUnit 1 u) {extract : List UInt8}
    (hextract : extractH264SpsAndPps (byteStream units trailing) = some extract) :
    AvccCarried units trailing extract := by
  obtain ⟨sps, n, pps, m, hsps, hpps, rfl⟩ := extractH264_eq hunits hextract
  refine ⟨sps, n, pps, m, hsps, hpps, fun h hv hcoded hzero hlong hshort => ?_⟩
  obtain ⟨k, hmem⟩ := hsps.mem
  obtain ⟨k', hmem'⟩ := hpps.mem
  have hunit : Unit 1 sps := (hunits _ hmem).toUnit
  have hpos : 1 ≤ (pps ++ zeros m).length := by
    rw [List.length_append]
    exact Nat.le_add_right_of_le (hunits _ hmem').header
  have hparsed := parsed_of_coded hv (hcoded.append_zeros hunit.header n) hzero
  exact ⟨_, build_extract hunit n _ hpos hparsed.length hlong hshort, avccRecord_bits hparsed _⟩

end Exosnap.Engine.AnnexB
