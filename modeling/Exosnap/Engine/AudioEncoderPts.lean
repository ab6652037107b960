/-
  The timestamps of the audio encoders (`pcm_audio_encoder.cpp`, `opus_audio_encoder.cpp`,
  `flac_audio_encoder.cpp`).

  Each of them stamps a packet with the frames before it, times a thousand million, over the rate, in
  64 bits. The packets of a run come in the order of their frames; their timestamps are exact, and in
  order, exactly if none starts behind the last frame whose product fits
  (`encoder_timestamps`).

  The bytes of a packet, the conversion of the samples and the codecs are left out: what libopus
  and libFLAC answer comes with each call. No caller asks the Opus encoder to reset its state.
-/
import Mathlib.Algebra.GroupWithZero.Nat
import Mathlib.Data.Nat.Basic

namespace Exosnap.Engine.Encoders

/-- The expression of the three encoders. -/
def ptsNs (frames : UInt64) (sampleRate : UInt32) : UInt64 :=
  frames * 1000000000 / sampleRate.toUInt64

/-- A frame counter: the 64 bits of the source, beside the frames it has counted. -/
structure Counter where
  frames : UInt64
  counted : Nat
  agree : frames = UInt64.ofNat counted

namespace Counter

def start (frames : UInt64) : Counter := ⟨frames, frames.toNat, UInt64.ofNat_toNat.symm⟩

def advance (c : Counter) (n : Nat) : Counter :=
  ⟨c.frames + UInt64.ofNat n, c.counted + n, by rw [c.agree, UInt64.ofNat_add]⟩

end Counter

/-- A packet, with the frames before it: no encoder reads them back. -/
structure EncodedAudioPacket where
  ptsNs : UInt64
  frames : Nat

def packetAt (sampleRate : UInt32) (c : Counter) : EncodedAudioPacket :=
  ⟨ptsNs c.frames sampleRate, c.counted⟩

/-- What every encoder is handed: whether there is data, the samples, and their format. -/
structure FeedCall where
  data : Bool
  totalFloatSamples : Nat
  sampleRate : UInt32
  channels : UInt32

/-- An encoder behind `Init`. -/
structure Format where
  sampleRate : UInt32
  channels : UInt32
  rate_ne : sampleRate ≠ 0
  channels_ne : channels ≠ 0

variable (format : Format)

/-! ## PCM -/

structure PcmRun where
  accumulatedFrames : Counter
  outPackets : List EncodedAudioPacket := []

/-- `PcmAudioEncoder::FeedFloat32` -/
def PcmRun.FeedFloat32 (s : PcmRun) (call : FeedCall) : PcmRun :=
  if ¬ call.data ∨ call.totalFloatSamples = 0 ∨ call.channels = 0 then s
  else if call.sampleRate ≠ format.sampleRate ∨ call.channels ≠ format.channels then s
  else
    { accumulatedFrames :=
        s.accumulatedFrames.advance (call.totalFloatSamples / call.channels.toNat)
      outPackets := s.outPackets ++ [packetAt call.sampleRate s.accumulatedFrames] }

/-! ## Opus -/

structure OpusFormat extends Format where
  frameSizeSamples : UInt32
  frameSize_ne : frameSizeSamples ≠ 0

namespace OpusFormat

def frameFloatSamples (format : OpusFormat) : Nat :=
  format.frameSizeSamples.toNat * format.channels.toNat

theorem frameFloatSamples_pos (format : OpusFormat) : 0 < format.frameFloatSamples :=
  Nat.mul_pos
    (Nat.pos_of_ne_zero fun h => format.frameSize_ne (UInt32.toNat_inj.mp h))
    (Nat.pos_of_ne_zero fun h => format.channels_ne (UInt32.toNat_inj.mp h))

end OpusFormat

structure OpusRun where
  frameBuffer : Nat := 0
  emittedFrames : Counter
  accumulatedFrames : Counter
  outPackets : List EncodedAudioPacket := []

namespace OpusRun

variable (format : OpusFormat)

/-- The loop of `OpusAudioEncoder::FeedFloat32`. Whether libopus encodes a frame is `encoded`. -/
def encodeLoop (encoded : Nat → Bool) (turn : Nat) (s : OpusRun) : OpusRun :=
  if format.frameFloatSamples ≤ s.frameBuffer then
    let accumulated := s.accumulatedFrames.advance format.frameSizeSamples.toNat
    encodeLoop encoded (turn + 1)
      { frameBuffer := s.frameBuffer - format.frameFloatSamples
        emittedFrames := accumulated
        accumulatedFrames := accumulated
        outPackets :=
          if encoded turn then s.outPackets ++ [packetAt format.sampleRate s.accumulatedFrames]
          else s.outPackets }
  else s
termination_by s.frameBuffer
decreasing_by
  have := format.frameFloatSamples_pos
  omega

def FeedFloat32 (encoded : Nat → Bool) (s : OpusRun) (call : FeedCall) : OpusRun :=
  if ¬ call.data ∨ call.totalFloatSamples = 0 then s
  else if call.sampleRate ≠ format.sampleRate ∨ call.channels ≠ format.channels ∨
      call.channels = 0 then s
  else
    encodeLoop format encoded 0
      { s with
        frameBuffer := s.frameBuffer + call.totalFloatSamples
        emittedFrames := s.accumulatedFrames }

/-- The rest of the buffer, filled up to a frame. -/
def Flush (encoded : Bool) (s : OpusRun) : OpusRun :=
  if s.frameBuffer = 0 then s
  else if encoded then
    { s with
      frameBuffer := 0
      emittedFrames := s.emittedFrames.advance format.frameSizeSamples.toNat
      outPackets := s.outPackets ++ [packetAt format.sampleRate s.emittedFrames] }
  else { s with frameBuffer := 0 }

end OpusRun

/-! ## FLAC -/

/-- A call of the write callback: whether it brings bytes, and for how many samples. -/
structure FlacWrite where
  bytes : Bool
  samples : UInt32

structure FlacRun where
  capturingHeader : Bool := true
  emittedSamples : Counter
  pendingFrames : List EncodedAudioPacket := []
  finished : Bool := false
  accumulatedFrames : Counter
  outPackets : List EncodedAudioPacket := []

namespace FlacRun

def OnWrite (s : FlacRun) (write : FlacWrite) : FlacRun :=
  if ¬ write.bytes then s
  else if write.samples = 0 ∧ s.capturingHeader then s
  else
    { s with
      capturingHeader := false
      pendingFrames := s.pendingFrames ++ [packetAt format.sampleRate s.emittedSamples]
      emittedSamples := s.emittedSamples.advance write.samples.toNat }

/-- The pending frames are handed out. -/
def drain (s : FlacRun) : FlacRun :=
  { s with outPackets := s.outPackets ++ s.pendingFrames, pendingFrames := [] }

/-- What libFLAC writes during the call, and whether it succeeds, are its answer. -/
def FeedFloat32 (writes : List FlacWrite) (ok : Bool) (s : FlacRun) (call : FeedCall) : FlacRun :=
  if ¬ call.data ∨ call.totalFloatSamples = 0 ∨ call.channels = 0 then s
  else if call.sampleRate ≠ format.sampleRate ∨ call.channels ≠ format.channels then s
  else
    let frameCount := call.totalFloatSamples / call.channels.toNat
    if frameCount = 0 then s
    else
      let s := writes.foldl (OnWrite format) s
      if ¬ ok then s
      else { s.drain with accumulatedFrames := s.accumulatedFrames.advance frameCount }

def Flush (writes : List FlacWrite) (s : FlacRun) : FlacRun :=
  if s.finished then s
  else (writes.foldl (OnWrite format) { s with finished := true }).drain

end FlacRun

/-! ## Runs -/

inductive OpusCall where
  | feed (encoded : Nat → Bool) (call : FeedCall)
  | flush (encoded : Bool)

inductive FlacCall where
  | feed (writes : List FlacWrite) (ok : Bool) (call : FeedCall)
  | flush (writes : List FlacWrite)

def pcmRun (start : UInt64) (calls : List FeedCall) : PcmRun :=
  calls.foldl (PcmRun.FeedFloat32 format) { accumulatedFrames := .start start }

def OpusRun.step (format : OpusFormat) (s : OpusRun) : OpusCall → OpusRun
  | .feed encoded call => s.FeedFloat32 format encoded call
  | .flush encoded => s.Flush format encoded

def opusRun (format : OpusFormat) (start : UInt64) (calls : List OpusCall) : OpusRun :=
  calls.foldl (OpusRun.step format)
    { emittedFrames := .start start, accumulatedFrames := .start start }

def FlacRun.step (s : FlacRun) : FlacCall → FlacRun
  | .feed writes ok call => s.FeedFloat32 format writes ok call
  | .flush writes => s.Flush format writes

def flacRun (start : UInt64) (calls : List FlacCall) : FlacRun :=
  calls.foldl (FlacRun.step format)
    { emittedSamples := .start start, accumulatedFrames := .start start }

/-- Every timestamp is the floor of the exact one, none is before the one it follows, and no product
    on the way is cut. -/
structure Timestamped (sampleRate : UInt32) (packets : List EncodedAudioPacket) : Prop where
  exact : ∀ p ∈ packets, p.ptsNs.toNat = p.frames * 1000000000 / sampleRate.toNat
  ordered : packets.Pairwise fun p q => p.ptsNs ≤ q.ptsNs
  noWrap : ∀ p ∈ packets, p.frames * 1000000000 < 2 ^ 64

/-- The last frame count whose product fits. -/
def kLastFrames : Nat := 18446744073

/-- The packets are stamped by their frames, and in the order of these, all before the counter. -/
structure Counted (sampleRate : UInt32) (counted : Nat) (packets : List EncodedAudioPacket) :
    Prop where
  stamped : ∀ p ∈ packets, p.ptsNs = ptsNs (UInt64.ofNat p.frames) sampleRate
  ordered : packets.Pairwise fun p q => p.frames ≤ q.frames
  before : ∀ p ∈ packets, p.frames ≤ counted

variable {format : Format} {sampleRate : UInt32} {counted : Nat} {packets : List EncodedAudioPacket}

namespace Counted

theorem nil (sampleRate : UInt32) (counted : Nat) : Counted sampleRate counted [] :=
  ⟨nofun, .nil, nofun⟩

theorem mono (h : Counted sampleRate counted packets) {later : Nat} (hle : counted ≤ later) :
    Counted sampleRate later packets :=
  ⟨h.stamped, h.ordered, fun p hp => Nat.le_trans (h.before p hp) hle⟩

theorem packet {c : Counter} (h : Counted sampleRate c.counted packets) :
    Counted sampleRate c.counted (packets ++ [packetAt sampleRate c]) where
  stamped p hp := by
    rcases List.mem_append.mp hp with hp | hp
    · exact h.stamped p hp
    · rw [List.mem_singleton.mp hp, packetAt, c.agree]
  ordered := List.pairwise_append.mpr ⟨h.ordered, List.pairwise_singleton _ _, fun p hp q hq => by
    rw [List.mem_singleton.mp hq]
    exact h.before p hp⟩
  before p hp := by
    rcases List.mem_append.mp hp with hp | hp
    · exact h.before p hp
    · rw [List.mem_singleton.mp hp]
      exact Nat.le_refl _

theorem left {more : List EncodedAudioPacket} (h : Counted sampleRate counted (packets ++ more)) :
    Counted sampleRate counted packets :=
  ⟨fun p hp => h.stamped p (List.mem_append_left _ hp), (List.pairwise_append.mp h.ordered).1,
    fun p hp => h.before p (List.mem_append_left _ hp)⟩

end Counted

/-! ## The product -/

theorem ptsNs_toNat (frames : Nat) (sampleRate : UInt32) :
    (ptsNs (UInt64.ofNat frames) sampleRate).toNat =
      frames * 1000000000 % 2 ^ 64 / sampleRate.toNat := by
  rw [ptsNs, UInt64.toNat_div, UInt64.toNat_mul, UInt64.toNat_ofNat', UInt32.toNat_toUInt64,
    Nat.mod_mul_mod]
  rfl

/-- The timestamp is the exact one only if the product fits: more than the rate is cut off. -/
theorem ptsNs_exact_iff (hrate : sampleRate ≠ 0) (frames : Nat) :
    (ptsNs (UInt64.ofNat frames) sampleRate).toNat = frames * 1000000000 / sampleRate.toNat ↔
      frames ≤ kLastFrames := by
  have hpos : 0 < sampleRate.toNat := Nat.pos_of_ne_zero fun h => hrate (UInt32.toNat_inj.mp h)
  rw [ptsNs_toNat]
  constructor
  · intro h
    by_contra hlast
    have hlarge : 2 ^ 64 ≤ frames * 1000000000 := by
      unfold kLastFrames at hlast
      omega
    have hcut : frames * 1000000000 % 2 ^ 64 + sampleRate.toNat ≤ frames * 1000000000 := by
      have hlt := Nat.mod_lt (frames * 1000000000) (show 0 < 2 ^ 64 by decide)
      have hmod := Nat.div_add_mod (frames * 1000000000) (2 ^ 64)
      have hone := Nat.div_pos hlarge (by decide)
      have hrate := sampleRate.toNat_lt
      omega
    have hless := Nat.div_le_div_right (c := sampleRate.toNat) hcut
    rw [Nat.add_div_right _ hpos, h] at hless
    exact absurd hless (Nat.not_succ_le_self _)
  · intro hlast
    have hfits : frames * 1000000000 < 2 ^ 64 := by
      unfold kLastFrames at hlast
      omega
    rw [Nat.mod_eq_of_lt hfits]

/-- The packets that a counter stamped are timestamped exactly if all products fit. -/
theorem Counted.timestamped_iff (h : Counted sampleRate counted packets) (hrate : sampleRate ≠ 0) :
    Timestamped sampleRate packets ↔ ∀ p ∈ packets, p.frames ≤ kLastFrames := by
  constructor
  · intro hstamps p hp
    refine (ptsNs_exact_iff hrate p.frames).mp ?_
    rw [← h.stamped p hp]
    exact hstamps.exact p hp
  · intro hlast
    have hexact : ∀ p ∈ packets, p.ptsNs.toNat = p.frames * 1000000000 / sampleRate.toNat := by
      intro p hp
      rw [h.stamped p hp]
      exact (ptsNs_exact_iff hrate p.frames).mpr (hlast p hp)
    refine ⟨hexact, ?_, fun p hp => ?_⟩
    · refine h.ordered.imp_of_mem fun {p q} hp hq hle => ?_
      rw [UInt64.le_iff_toNat_le, hexact p hp, hexact q hq]
      exact Nat.div_le_div_right (Nat.mul_le_mul_right _ hle)
    · have hle := hlast p hp
      unfold kLastFrames at hle
      omega

/-! ## The encoders -/

theorem counted_advance {c : Counter} (h : Counted sampleRate c.counted packets) (n : Nat) :
    Counted sampleRate (c.advance n).counted packets := h.mono (Nat.le_add_right _ _)

theorem counted_pcmFeed {s : PcmRun}
    (h : Counted format.sampleRate s.accumulatedFrames.counted s.outPackets) (call : FeedCall) :
    Counted format.sampleRate (s.FeedFloat32 format call).accumulatedFrames.counted
      (s.FeedFloat32 format call).outPackets := by
  rw [PcmRun.FeedFloat32]
  split_ifs with hempty hformat
  · exact h
  · exact h
  · rw [not_or, not_not] at hformat
    rw [hformat.1]
    exact counted_advance h.packet _

theorem counted_pcmRun (format : Format) (start : UInt64) (calls : List FeedCall) :
    Counted format.sampleRate (pcmRun format start calls).accumulatedFrames.counted
      (pcmRun format start calls).outPackets := by
  rw [pcmRun]
  have hinit := Counted.nil format.sampleRate (Counter.start start).counted
  change Counted format.sampleRate (PcmRun.mk (.start start) []).accumulatedFrames.counted
    (PcmRun.mk (.start start) []).outPackets at hinit
  generalize PcmRun.mk (.start start) [] = s at hinit ⊢
  induction calls generalizing s with
  | nil => exact hinit
  | cons call calls ih => exact ih _ (counted_pcmFeed hinit call)

/-- While there is something in the buffer, the two counters of the Opus encoder agree. -/
structure OpusInvariant (format : OpusFormat) (s : OpusRun) : Prop where
  packets : Counted format.sampleRate s.accumulatedFrames.counted s.outPackets
  level : 0 < s.frameBuffer → s.emittedFrames = s.accumulatedFrames

theorem opusInvariant_encodeLoop {format : OpusFormat} {encoded : Nat → Bool} {turn : Nat}
    {s : OpusRun} (h : Counted format.sampleRate s.accumulatedFrames.counted s.outPackets)
    (hlevel : s.emittedFrames = s.accumulatedFrames) :
    OpusInvariant format (s.encodeLoop format encoded turn) := by
  fun_induction OpusRun.encodeLoop format encoded turn s with
  | case1 turn s hframe accumulated ih =>
      refine ih (counted_advance ?_ _) rfl
      cases encoded turn with
      | false => exact h
      | true => exact h.packet
  | case2 turn s hframe => exact ⟨h, fun _ => hlevel⟩

theorem opusInvariant_step {format : OpusFormat} {s : OpusRun} (h : OpusInvariant format s)
    (call : OpusCall) : OpusInvariant format (s.step format call) := by
  cases call with
  | feed encoded call =>
      rw [OpusRun.step, OpusRun.FeedFloat32]
      split_ifs
      · exact h
      · exact h
      · exact opusInvariant_encodeLoop h.packets rfl
  | flush encoded =>
      rw [OpusRun.step, OpusRun.Flush]
      split_ifs with hbuffer
      · exact h
      · have hlevel := h.level (Nat.pos_of_ne_zero hbuffer)
        refine ⟨?_, fun hpos => absurd hpos (Nat.lt_irrefl 0)⟩
        rw [hlevel]
        exact h.packets.packet
      · exact ⟨h.packets, fun hpos => absurd hpos (Nat.lt_irrefl 0)⟩

theorem opusInvariant_run (format : OpusFormat) (start : UInt64) (calls : List OpusCall) :
    OpusInvariant format (opusRun format start calls) := by
  rw [opusRun]
  have hinit : OpusInvariant format
      { emittedFrames := .start start, accumulatedFrames := .start start } :=
    ⟨.nil _ _, fun _ => rfl⟩
  generalize ({ emittedFrames := .start start, accumulatedFrames := .start start } : OpusRun) = s
    at hinit ⊢
  induction calls generalizing s with
  | nil => exact hinit
  | cons call calls ih => exact ih _ (opusInvariant_step hinit call)

/-- What is handed out and what is pending, in this order. -/
def FlacInvariant (format : Format) (s : FlacRun) : Prop :=
  Counted format.sampleRate s.emittedSamples.counted (s.outPackets ++ s.pendingFrames)

theorem flacInvariant_onWrite {s : FlacRun} (h : FlacInvariant format s) (write : FlacWrite) :
    FlacInvariant format (s.OnWrite format write) := by
  rw [FlacRun.OnWrite]
  split_ifs
  · exact h
  · have hpacket := counted_advance h.packet write.samples.toNat
    rwa [List.append_assoc] at hpacket
  · exact h

theorem flacInvariant_writes {s : FlacRun} (h : FlacInvariant format s) (writes : List FlacWrite) :
    FlacInvariant format (writes.foldl (FlacRun.OnWrite format) s) := by
  induction writes generalizing s with
  | nil => exact h
  | cons write writes ih => exact ih (flacInvariant_onWrite h write)

theorem flacInvariant_drain {s : FlacRun} (h : FlacInvariant format s) :
    FlacInvariant format s.drain := by
  rw [FlacInvariant, FlacRun.drain, List.append_nil]
  exact h

theorem flacInvariant_step {s : FlacRun} (h : FlacInvariant format s) (call : FlacCall) :
    FlacInvariant format (s.step format call) := by
  cases call with
  | feed writes ok call =>
      have hwrites := flacInvariant_writes h writes
      rw [FlacRun.step, FlacRun.FeedFloat32]
      dsimp only
      split_ifs
      · exact h
      · exact h
      · exact h
      · exact flacInvariant_drain hwrites
      · exact hwrites
  | flush writes =>
      rw [FlacRun.step, FlacRun.Flush]
      split_ifs
      · exact h
      · exact flacInvariant_drain (flacInvariant_writes (s := { s with finished := true }) h writes)

theorem flacInvariant_run (format : Format) (start : UInt64) (calls : List FlacCall) :
    FlacInvariant format (flacRun format start calls) := by
  rw [flacRun]
  have hinit : FlacInvariant format
      { emittedSamples := .start start, accumulatedFrames := .start start } := .nil _ _
  generalize ({ emittedSamples := .start start, accumulatedFrames := .start start } : FlacRun) = s
    at hinit ⊢
  induction calls generalizing s with
  | nil => exact hinit
  | cons call calls ih => exact ih _ (flacInvariant_step hinit call)

/-- Over a run of any of the encoders, from any frame count, the timestamps are exact and in order if
    and only if no packet starts behind the last frame whose product fits. -/
theorem encoder_timestamps (start : UInt64) :
    (∀ (format : Format) (calls : List FeedCall),
      Timestamped format.sampleRate (pcmRun format start calls).outPackets ↔
        ∀ p ∈ (pcmRun format start calls).outPackets, p.frames ≤ kLastFrames) ∧
    (∀ (format : OpusFormat) (calls : List OpusCall),
      Timestamped format.sampleRate (opusRun format start calls).outPackets ↔
        ∀ p ∈ (opusRun format start calls).outPackets, p.frames ≤ kLastFrames) ∧
    ∀ (format : Format) (calls : List FlacCall),
      Timestamped format.sampleRate (flacRun format start calls).outPackets ↔
        ∀ p ∈ (flacRun format start calls).outPackets, p.frames ≤ kLastFrames :=
  ⟨fun format calls => (counted_pcmRun format start calls).timestamped_iff format.rate_ne,
    fun format calls =>
      (opusInvariant_run format start calls).packets.timestamped_iff format.rate_ne,
    fun format calls => (flacInvariant_run format start calls).left.timestamped_iff format.rate_ne⟩

/-- Behind 106 hours at 48 kHz the PCM timestamps start again from 0. -/
theorem pcm_timestamps_wrap :
    ¬ ∀ (format : Format) (start : UInt64) (calls : List FeedCall),
      Timestamped format.sampleRate (pcmRun format start calls).outPackets := by
  intro h
  have hordered := (h ⟨48000, 2, by decide, by decide⟩ 18446744073
    [⟨true, 2, 48000, 2⟩, ⟨true, 2, 48000, 2⟩]).ordered
  exact absurd hordered (by decide)

end Exosnap.Engine.Encoders
