/-
  `annexb_to_avcc.cpp`, `annexb_to_hvcc.cpp`: Annex-B packets rewritten as the length-prefixed
  samples of avc1 and hvc1.

  A pointer into the packet together with the bytes left is the suffix of the packet from there.
  A NAL span is the bytes it spans. The two files carry the same scan, which differs in the
  length of the NAL header only (`enumerateNals`), and the same rewriting loop (`toSamples`).

  `annexB_framesKept`: over a packet of clean NAL units behind start codes of either length, the
  output frames exactly the units whose type is not excluded, in order. The frame's length has
  32 bits: units of `2^32` bytes and more are framed by a truncated length, and only shorter
  ones are parsed back (`unit_of_2_32_is_lost`).
-/
import Exosnap.Lib.ByteFraming

namespace Exosnap.Engine.AnnexB

open ByteFraming

/-! ## The scan -/

/-- The length of the start code the bytes begin with, 0 if there is none. -/
def startCodeLen : List UInt8 → Nat
  | 0 :: 0 :: 0 :: 1 :: _ => 4
  | 0 :: 0 :: 1 :: _ => 3
  | _ => 0

/-- The number of bytes before the next start code, or all of them. -/
def bytesToStartCode : List UInt8 → Nat
  | [] => 0
  | b :: rest => if 0 < startCodeLen (b :: rest) then 0 else 1 + bytesToStartCode rest

/-- `EnumerateNals`, `EnumerateHevcNals`. The search for the end of a NAL begins behind its
    header, and the scan stops at a start code with fewer bytes than a header behind it. The
    fuel is the number of bytes. -/
def enumerateFrom (headerBytes : Nat) : Nat → List UInt8 → List (List UInt8)
  | 0, _ => []
  | _, [] => []
  | fuel + 1, b :: rest =>
      let scLen := startCodeLen (b :: rest)
      if scLen = 0 then enumerateFrom headerBytes fuel rest
      else
        let payload := (b :: rest).drop scLen
        if payload.length < headerBytes then []
        else
          let payloadSize := headerBytes + bytesToStartCode (payload.drop headerBytes)
          payload.take payloadSize :: enumerateFrom headerBytes fuel (payload.drop payloadSize)

def enumerateNals (headerBytes : Nat) (data : List UInt8) : List (List UInt8) :=
  enumerateFrom headerBytes data.length data

/-! ## The samples -/

/-- The low five bits of the first byte. -/
def h264NalType (nal : List UInt8) : UInt8 := nal.headD 0 &&& 0x1F

/-- The six bits behind the forbidden zero bit. -/
def hevcNalType (nal : List UInt8) : UInt8 := (nal.headD 0 >>> 1) &&& 0x3F

/-- AUD, SPS and PPS. -/
def h264Excluded (nalType : UInt8) : Bool := nalType == 9 || nalType == 7 || nalType == 8

def kHevcNalAud : UInt8 := 35

/-- AUD, VPS, SPS and PPS. -/
def hevcExcluded (nalType : UInt8) : Bool :=
  nalType == kHevcNalAud || (nalType == 32 || nalType == 33 || nalType == 34)

/-- The loop over the spans. -/
def toSamples (excluded : List UInt8 → Bool) (nals : List (List UInt8)) : List UInt8 :=
  nals.foldl (fun out nal =>
    if excluded nal then out
    else if nal.length = 0 then out
    else out ++ be32 nal.length.toUInt32 ++ nal) []

/-- What the two conversions share: the answer, and the output buffer, which an empty packet
    leaves alone. -/
def convert (headerBytes : Nat) (excluded : List UInt8 → Bool) (data out : List UInt8) :
    Bool × List UInt8 :=
  if data.length = 0 then (false, out)
  else
    let out := toSamples excluded (enumerateNals headerBytes data)
    (!out.isEmpty, out)

def h264Dropped (nal : List UInt8) : Bool := h264Excluded (h264NalType nal)

def hevcDropped (nal : List UInt8) : Bool := hevcExcluded (hevcNalType nal)

def convertAnnexBToAvcc (data out : List UInt8) : Bool × List UInt8 :=
  convert 1 h264Dropped data out

def convertAnnexBToHevcSample (data out : List UInt8) : Bool × List UInt8 :=
  convert 2 hevcDropped data out

/-! ## The scan over clean units -/

theorem startCodeLen_bytes (sc : StartCode) (rest : List UInt8) :
    startCodeLen (sc.bytes ++ rest) = sc.bytes.length := by
  cases sc <;> rfl

/-- Inside a clean unit no start code begins, whatever follows. -/
theorem startCodeLen_clean {u : List UInt8} (hu : Clean u) (hne : u ≠ []) (rest : List UInt8) :
    startCodeLen (u ++ rest) = 0 := by
  have hlast := hu.last
  have hzeros := hu.noZeros
  have hcode := hu.noCode
  match u with
  | [] => exact absurd rfl hne
  | [a] =>
      have ha : a ≠ 0 := by simpa using hlast
      simp [startCodeLen, ha]
  | [a, b] =>
      have hb : b ≠ 0 := by simpa using hlast
      simp [startCodeLen, hb]
  | a :: b :: c :: l =>
      have hno : ∀ x, ¬ [0, 0, x] <:+: a :: b :: c :: l → ¬ (a = 0 ∧ b = 0 ∧ c = x) := by
        rintro x hx ⟨rfl, rfl, rfl⟩
        exact hx (List.IsPrefix.isInfix (by simp))
      have h0 := hno 0 hzeros
      have h1 := hno 1 hcode
      unfold startCodeLen
      split
      · next heq =>
          simp only [List.cons_append, List.cons.injEq] at heq
          exact absurd ⟨heq.1, heq.2.1, heq.2.2.1⟩ h0
      · next heq =>
          simp only [List.cons_append, List.cons.injEq] at heq
          exact absurd ⟨heq.1, heq.2.1, heq.2.2.1⟩ h1
      · rfl

/-- Behind a clean unit comes the end of the packet or a start code. -/
def AtBoundary (rest : List UInt8) : Prop := rest = [] ∨ 0 < startCodeLen rest

theorem bytesToStartCode_clean {u rest : List UInt8} (hrest : AtBoundary rest) {v : List UInt8}
    (hv : Clean v) (hu : u <:+ v) : bytesToStartCode (u ++ rest) = u.length := by
  induction u with
  | nil =>
      rcases hrest with rfl | hcode
      · rfl
      · cases rest with
        | nil => rfl
        | cons b rest => exact if_pos hcode
  | cons a u ih =>
      have hnone : startCodeLen (a :: (u ++ rest)) = 0 :=
        startCodeLen_clean (hv.suffix hu (List.cons_ne_nil a u)) (List.cons_ne_nil a u) rest
      rw [List.cons_append, bytesToStartCode, hnone, if_neg (Nat.lt_irrefl 0),
        ih ((List.suffix_cons a u).trans hu), List.length_cons, Nat.add_comm]

theorem atBoundary_delimit (units : List (StartCode × List UInt8)) : AtBoundary (delimit units) := by
  cases units with
  | nil => exact .inl rfl
  | cons u units =>
      right
      rw [delimit, List.flatMap_cons, List.append_assoc, startCodeLen_bytes]
      cases u.1 <;> decide

/-- What the claim asks of a unit: clean, and no shorter than the NAL header. -/
structure Unit (headerBytes : Nat) (nal : List UInt8) : Prop where
  clean : Clean nal
  header : headerBytes ≤ nal.length

/-- One step of the scan at a start code. -/
theorem enumerateFrom_startCode (headerBytes fuel : Nat) (sc : StartCode) (payload : List UInt8) :
    enumerateFrom headerBytes (fuel + 1) (sc.bytes ++ payload) =
      if payload.length < headerBytes then []
      else
        let payloadSize := headerBytes + bytesToStartCode (payload.drop headerBytes)
        payload.take payloadSize :: enumerateFrom headerBytes fuel (payload.drop payloadSize) := by
  obtain ⟨b, rest, heq⟩ : ∃ b rest, sc.bytes ++ payload = b :: rest := by
    cases sc <;> exact ⟨_, _, rfl⟩
  have hpos : sc.bytes.length ≠ 0 := by cases sc <;> decide
  have hlen := startCodeLen_bytes sc payload
  rw [heq, enumerateFrom]
  simp only [← heq, hlen, if_neg hpos, List.drop_left]

/-- The span of a clean unit is the unit. -/
theorem payloadSize_unit {headerBytes : Nat} {nal : List UInt8}
    (hnal : Unit headerBytes nal) {rest : List UInt8} (hrest : AtBoundary rest) :
    headerBytes + bytesToStartCode ((nal ++ rest).drop headerBytes) = nal.length := by
  have hle := hnal.header
  have hbehind := bytesToStartCode_clean hrest hnal.clean (List.drop_suffix headerBytes nal)
  rw [List.drop_append_of_le_length hle, hbehind, List.length_drop]
  omega

/-- The scan finds exactly the units. -/
theorem enumerateFrom_delimit {headerBytes : Nat} (hh : 0 < headerBytes)
    (units : List (StartCode × List UInt8)) :
    ∀ fuel, (delimit units).length ≤ fuel → (∀ u ∈ units, Unit headerBytes u.2) →
      enumerateFrom headerBytes fuel (delimit units) = units.map Prod.snd := by
  induction units with
  | nil => intro fuel _ _; cases fuel <;> rfl
  | cons u units ih =>
      intro fuel hfuel hunits
      obtain ⟨sc, nal⟩ := u
      have hnal : Unit headerBytes nal := hunits (sc, nal) List.mem_cons_self
      have hle := hnal.header
      have hsplit : delimit ((sc, nal) :: units) = sc.bytes ++ (nal ++ delimit units) := by
        rw [delimit, List.flatMap_cons, List.append_assoc]
        rfl
      rw [hsplit, List.length_append, List.length_append] at hfuel
      have hcode : 0 < sc.bytes.length := by cases sc <;> decide
      cases fuel with
      | zero => omega
      | succ fuel =>
          rw [hsplit, enumerateFrom_startCode, if_neg (by rw [List.length_append]; omega)]
          simp only [payloadSize_unit hnal (atBoundary_delimit units), List.take_left,
            List.drop_left, List.map_cons]
          rw [ih fuel (by omega) fun v hv => hunits v (List.mem_cons_of_mem _ hv)]

theorem enumerateNals_delimit {headerBytes : Nat} (hh : 0 < headerBytes)
    {units : List (StartCode × List UInt8)} (hunits : ∀ u ∈ units, Unit headerBytes u.2) :
    enumerateNals headerBytes (delimit units) = units.map Prod.snd :=
  enumerateFrom_delimit hh units _ (Nat.le_refl _) hunits

/-! ## The rewriting -/

/-- What the output carries: the units that are not dropped. -/
def kept (dropped : List UInt8 → Bool) (units : List (StartCode × List UInt8)) :
    List (List UInt8) :=
  (units.map Prod.snd).filter fun nal => !dropped nal

/-- The loop appends the frames of the NALs that are not dropped. -/
theorem toSamples_eq (dropped : List UInt8 → Bool) {nals : List (List UInt8)}
    (hne : ∀ nal ∈ nals, nal ≠ []) :
    toSamples dropped nals = (nals.filter fun nal => !dropped nal).flatMap frame := by
  have hloop : ∀ out, nals.foldl (fun out nal =>
      if dropped nal then out
      else if nal.length = 0 then out
      else out ++ be32 nal.length.toUInt32 ++ nal) out =
        out ++ (nals.filter fun nal => !dropped nal).flatMap frame := by
    induction nals with
    | nil => intro out; simp
    | cons nal nals ih =>
        intro out
        have hlen : nal.length ≠ 0 := by simpa using hne nal List.mem_cons_self
        rw [List.foldl_cons, ih fun v hv => hne v (List.mem_cons_of_mem nal hv)]
        by_cases hdrop : dropped nal
        · simp [hdrop]
        · simp [hdrop, hlen, frame]
  exact hloop []

theorem frames_isEmpty (units : List (List UInt8)) :
    (!(units.flatMap frame).isEmpty) = decide (units ≠ []) := by
  cases units with
  | nil => rfl
  | cons u units => simp [frame, be32]

theorem convert_delimit {headerBytes : Nat} (hh : 0 < headerBytes) (dropped : List UInt8 → Bool)
    {units : List (StartCode × List UInt8)} (hne : units ≠ [])
    (hunits : ∀ u ∈ units, Unit headerBytes u.2) (out : List UInt8) :
    convert headerBytes dropped (delimit units) out =
      (decide (kept dropped units ≠ []), (kept dropped units).flatMap frame) := by
  have hdata : (delimit units).length ≠ 0 := by
    obtain ⟨u, units, rfl⟩ := List.exists_cons_of_ne_nil hne
    cases hu : u.1 <;> simp [delimit, hu, StartCode.bytes]
  have hnals : ∀ nal ∈ units.map Prod.snd, nal ≠ [] := by
    rintro nal hmem rfl
    obtain ⟨u, hu, hnil⟩ := List.mem_map.mp hmem
    have hle := (hunits u hu).header
    rw [hnil, List.length_nil] at hle
    omega
  rw [convert, if_neg hdata, enumerateNals_delimit hh hunits, toSamples_eq dropped hnals]
  exact Prod.ext (frames_isEmpty _) rfl

/-- What a conversion makes of a delimited packet: the frames of the units kept, and the answer
    whether there are any. Where their lengths fit, they are parsed back. -/
def FramesKept (headerBytes : Nat) (dropped : List UInt8 → Bool)
    (converted : List UInt8 → List UInt8 → Bool × List UInt8) : Prop :=
  ∀ (units : List (StartCode × List UInt8)) (out : List UInt8), units ≠ [] →
    (∀ u ∈ units, Unit headerBytes u.2) →
      converted (delimit units) out =
        (decide (kept dropped units ≠ []), (kept dropped units).flatMap frame) ∧
      ((∀ nal ∈ kept dropped units, nal.length < 2 ^ 32) →
        unframe (converted (delimit units) out).2 = some (kept dropped units))

theorem convert_framesKept {headerBytes : Nat} (hh : 0 < headerBytes)
    (dropped : List UInt8 → Bool) : FramesKept headerBytes dropped (convert headerBytes dropped) := by
  intro units out hne hunits
  have heq := convert_delimit hh dropped hne hunits out
  refine ⟨heq, fun hshort => ?_⟩
  rw [heq]
  exact unframe_frames hshort

/-- Both conversions frame exactly the units whose type stays in the sample. -/
theorem annexB_framesKept :
    FramesKept 1 h264Dropped convertAnnexBToAvcc ∧
      FramesKept 2 hevcDropped convertAnnexBToHevcSample :=
  ⟨convert_framesKept (by decide) h264Dropped, convert_framesKept (by decide) hevcDropped⟩

/-! ## Units of `2^32` bytes -/

/-- A slice of zero-free bytes. -/
def longUnit (n : Nat) : List UInt8 := List.replicate n 1

theorem longUnit_clean {n : Nat} : Clean (longUnit n) := by
  have hall : ∀ b ∈ longUnit n, b = 1 := fun b hb => List.eq_of_mem_replicate hb
  have hno : ¬ (0 : UInt8) ∈ longUnit n := fun h => absurd (hall 0 h) (by decide)
  exact
    { noZeros := fun h => hno (h.subset (by decide))
      noCode := fun h => hno (h.subset (by decide))
      last := fun h => hno (List.mem_of_getLast? h) }

theorem longUnit_h264Dropped {n : Nat} (hn : 0 < n) : h264Dropped (longUnit n) = false := by
  obtain ⟨m, rfl⟩ := Nat.exists_eq_succ_of_ne_zero (Nat.ne_of_gt hn)
  have htype : h264NalType (longUnit (m + 1)) = 1 &&& 0x1F := rfl
  rw [h264Dropped, htype]
  decide

theorem longUnit_lost {n : Nat} (hn : 0 < n) (hmod : n % 2 ^ 32 = 0) :
    Unit 1 (longUnit n) ∧ h264Dropped (longUnit n) = false ∧
      unframe (convertAnnexBToAvcc (delimit [(.four, longUnit n)]) []).2 ≠ some [longUnit n] := by
  have hlen : (longUnit n).length = n := List.length_replicate
  have hunit : Unit 1 (longUnit n) := ⟨longUnit_clean, by rw [hlen]; exact hn⟩
  have hkeep := longUnit_h264Dropped hn
  refine ⟨hunit, hkeep, ?_⟩
  have hunits : ∀ u ∈ [(StartCode.four, longUnit n)], Unit 1 u.2 := by
    intro u hu
    rw [List.mem_singleton.mp hu]
    exact hunit
  have hkept : kept h264Dropped [(.four, longUnit n)] = [longUnit n] := by
    simp [kept, hkeep]
  rw [convertAnnexBToAvcc,
    convert_delimit (by decide) h264Dropped (List.cons_ne_nil _ _) hunits [], hkept]
  simp only [List.flatMap_cons, List.flatMap_nil, List.append_nil]
  exact unframe_frame_long (List.ne_nil_of_length_pos (by rw [hlen]; exact hn)) (by rw [hlen, hmod])

/-- One slice of `2^32` bytes is framed by the length 0. -/
theorem unit_of_2_32_is_lost :
    Unit 1 (longUnit (2 ^ 32)) ∧ h264Dropped (longUnit (2 ^ 32)) = false ∧
      unframe (convertAnnexBToAvcc (delimit [(.four, longUnit (2 ^ 32))]) []).2 ≠
        some [longUnit (2 ^ 32)] :=
  longUnit_lost (by decide) (by decide)

/-! ## Examples -/

example : convertAnnexBToAvcc [0, 0, 1, 9, 16, 0, 0, 0, 1, 101, 0, 7, 0, 0, 1, 65] [] =
    (true, [0, 0, 0, 3, 101, 0, 7, 0, 0, 0, 1, 65]) := by decide

example : convertAnnexBToHevcSample [0, 0, 0, 1, 70, 1, 80] [] = (false, []) := by decide

end Exosnap.Engine.AnnexB
