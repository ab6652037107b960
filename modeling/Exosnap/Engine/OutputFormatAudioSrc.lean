/-
  `output_format_audio_src.{h,cpp}`: a capture source behind a converter to the output format.

  libswresample is a parameter, `Resampler`: a context of type `σ`, frames of type `α` in and of
  type `β` out. `LengthOnly` is what is relied on: how many frames come out, and the delay, depend
  on how many went in, not on their samples. With it two decorators that are fed packets of one
  shape answer with packets of one shape (`acquire_sameShape`, `drainResampler_sameShape`).

  The rate compensation is the sample delta that the source computes from ppm values; the
  conversion from 16-bit samples of the pass-through is `forward`.
-/
import Exosnap.Engine.AudioFrame
import Mathlib.Data.List.Basic

namespace Exosnap.Engine

/-- The stream a capture source comes up with. -/
structure InnerStream where
  rate : Nat
  channels : Nat
  /-- 16-bit samples. -/
  int16 : Bool
  deriving DecidableEq

/-- A rate compensation: whether its ppm are not 0, and the sample delta they come to. -/
structure Compensation where
  nonzero : Bool := false
  sampleDelta : Int := 0

/-- libswresample, as far as it is used. -/
structure Resampler (σ α β : Type*) where
  /-- A context for an input format, or `none` where it cannot be built. -/
  build : InnerStream → Option σ
  /-- `swr_get_out_samples`, `none` for a negative answer. -/
  outSamples : σ → Nat → Option Nat
  /-- `swr_convert`, `none` for a negative answer. -/
  convert : σ → List α → Option (σ × List β)
  /-- `swr_convert` without input: the next frames of the delay line. -/
  flush : σ → σ × List β
  /-- `swr_get_delay` in nanoseconds. -/
  delayNs : σ → Nat
  /-- `swr_set_compensation`. -/
  setCompensation : σ → Int → σ
  /-- A frame of zero samples. -/
  silentIn : α
  /-- A frame passed through. -/
  forward : α → β

/-- What a capture source answers to `AcquireBuffer`: a failure, with a text where `lost`, or a
    packet and the time of its first frame. -/
inductive CaptureAnswer (α : Type*) where
  | failed (lost : Bool)
  | packet (buf : RawAudioBuffer α) (qpcNs : Nat)

structure OutputFormatAudioSrc (σ : Type*) where
  targetRate : Nat
  targetChannels : Nat
  inner : InnerStream := ⟨0, 0, false⟩
  passthrough : Bool := false
  swr : Option σ := none
  outputQpcNs : Nat := 0
  compensation : Compensation := {}
  compensationEngaged : Bool := false
  inTotal : Int := 0
  outTotal : Int := 0

namespace OutputFormatAudioSrc

variable {σ α β : Type*}

def kMaxDrainIterations : Nat := 16

variable (rs : Resampler σ α β)

def configureConversion (d : OutputFormatAudioSrc σ) (inner : InnerStream) :
    OutputFormatAudioSrc σ × Bool :=
  let d := { d with inner := inner }
  if inner.rate = 0 ∨ inner.channels = 0 then (d, false)
  else if d.targetRate = inner.rate ∧ d.targetChannels = inner.channels then
    ({ d with passthrough := true }, true)
  else match rs.build inner with
    | none => ({ d with passthrough := false }, false)
    | some swr => ({ d with passthrough := false, swr := some swr }, true)

/-- Reacquiring the source, whose answer is the stream it came back with. -/
def reinit (d : OutputFormatAudioSrc σ) : Option InnerStream → OutputFormatAudioSrc σ × Bool
  | none => (d, false)
  | some inner =>
      { d with
        swr := none
        compensationEngaged := false
        compensation := {}
        inTotal := 0
        outTotal := 0 }.configureConversion rs inner

def setCompensationPpm (d : OutputFormatAudioSrc σ) (c : Compensation) : OutputFormatAudioSrc σ :=
  let d := { d with compensation := c }
  if c.nonzero && !d.compensationEngaged then
    if d.passthrough || d.swr.isNone then
      match rs.build d.inner with
      | some swr =>
          { d with
            swr := some swr
            passthrough := false
            inTotal := 0
            outTotal := 0
            compensationEngaged := true }
      | none => { d with compensation := {} }
    else { d with compensationEngaged := true }
  else d

/-- The input of a conversion, zeros where the packet is silent or has no bytes. -/
def inputFrames (buf : RawAudioBuffer α) : List α :=
  match buf.bytes with
  | some frames =>
      if buf.silent then List.replicate buf.numFrames rs.silentIn
      else (List.range buf.numFrames).map fun i => frames.getD i rs.silentIn
  | none => List.replicate buf.numFrames rs.silentIn

/-- The time of the first frame handed out. -/
def outputQpc (d : OutputFormatAudioSrc σ) (qpcNs : Nat) : Nat :=
  match d.swr with
  | some swr => if qpcNs = 0 then 0 else qpcNs - rs.delayNs swr
  | none => qpcNs

/-- The packet with its frames passed through. -/
def forwardBuffer (buf : RawAudioBuffer α) : RawAudioBuffer β where
  bytes := buf.bytes.map (List.map rs.forward)
  numFrames := buf.numFrames
  silent := buf.silent
  dataDiscontinuity := buf.dataDiscontinuity
  gapFrames := buf.gapFrames

/-- The context with the compensation armed for the next conversion. -/
def armed (d : OutputFormatAudioSrc σ) (swr : σ) : σ :=
  if d.compensationEngaged then rs.setCompensation swr d.compensation.sampleDelta else swr

def convertBuffer (d : OutputFormatAudioSrc σ) (swr : σ) (buf : RawAudioBuffer α) :
    OutputFormatAudioSrc σ × Option (RawAudioBuffer β) :=
  let gap := scaleDiscontinuityGapFrames buf.gapFrames d.inner.rate d.targetRate
  match rs.outSamples swr buf.numFrames with
  | none =>
      (d, some
        { silent := buf.silent, dataDiscontinuity := buf.dataDiscontinuity, gapFrames := gap })
  | some _ =>
      match rs.convert (d.armed rs swr) (inputFrames rs buf) with
      | none => ({ d with swr := some (d.armed rs swr) }, none)
      | some (swr, out) =>
          ({ d with
              swr := some swr
              inTotal := d.inTotal + buf.numFrames
              outTotal := d.outTotal + out.length },
            some
              { bytes := some out
                numFrames := out.length
                silent := out.length == 0 || buf.silent
                dataDiscontinuity := buf.dataDiscontinuity
                gapFrames := gap })

/-- `AcquireBuffer` over the answer of the decorated source. -/
def acquireBuffer (d : OutputFormatAudioSrc σ) (answer : CaptureAnswer α) :
    OutputFormatAudioSrc σ × CaptureAnswer β :=
  match answer with
  | .failed lost => (d, .failed lost)
  | .packet buf qpcNs =>
      let d := { d with outputQpcNs := d.outputQpc rs qpcNs }
      if d.passthrough then (d, .packet (forwardBuffer rs buf) d.outputQpcNs)
      else match d.swr with
        | none => (d, .failed true) -- a decorator in neither mode is not read
        | some swr =>
            match d.convertBuffer rs swr buf with
            | (d, some out) => (d, .packet out d.outputQpcNs)
            | (d, none) => (d, .failed true)

/-- The flush loop, from what it has produced so far. -/
def drainLoop : Nat → σ → List β → σ × List β
  | 0, swr, frames => (swr, frames)
  | n + 1, swr, frames =>
      match rs.flush swr with
      | (swr, []) => (swr, frames)
      | (swr, out) => drainLoop n swr (frames ++ out)

/-- `DrainResampler`: the frames of the delay line. -/
def drainResampler (d : OutputFormatAudioSrc σ) : OutputFormatAudioSrc σ × List β :=
  if d.passthrough then (d, [])
  else match d.swr with
    | none => (d, [])
    | some swr =>
        let (swr, frames) := drainLoop rs kMaxDrainIterations swr []
        ({ d with swr := some swr, outTotal := d.outTotal + frames.length }, frames)

end OutputFormatAudioSrc

/-! ## Shapes -/

/-- Two buffers that differ in the values of their samples only. -/
structure SameShape {φ : Type*} (b b' : RawAudioBuffer φ) : Prop where
  bytes : b.bytes.isSome = b'.bytes.isSome
  numFrames : b.numFrames = b'.numFrames
  silent : b.silent = b'.silent
  dataDiscontinuity : b.dataDiscontinuity = b'.dataDiscontinuity
  gapFrames : b.gapFrames = b'.gapFrames

/-- Two answers that do. -/
inductive SameAnswer {φ : Type*} : CaptureAnswer φ → CaptureAnswer φ → Prop where
  | failed (lost : Bool) : SameAnswer (.failed lost) (.failed lost)
  | packet {b b' : RawAudioBuffer φ} (qpcNs : Nat) (h : SameShape b b') :
      SameAnswer (.packet b qpcNs) (.packet b' qpcNs)

/-- What is relied on of a resampler: `R` relates contexts that were fed the same numbers of
    frames. -/
structure LengthOnly {σ α β : Type*} (rs : Resampler σ α β) (R : σ → σ → Prop) : Prop where
  refl : ∀ s, R s s
  outSamples : ∀ {s t}, R s t → rs.outSamples s = rs.outSamples t
  delayNs : ∀ {s t}, R s t → rs.delayNs s = rs.delayNs t
  setCompensation : ∀ {s t}, R s t → ∀ delta, R (rs.setCompensation s delta) (rs.setCompensation t delta)
  convert : ∀ {s t}, R s t → ∀ {xs ys : List α}, xs.length = ys.length →
    (rs.convert s xs = none ∧ rs.convert t ys = none) ∨
      ∃ s' t' out out', rs.convert s xs = some (s', out) ∧ rs.convert t ys = some (t', out') ∧
        R s' t' ∧ out.length = out'.length
  flush : ∀ {s t}, R s t → R (rs.flush s).1 (rs.flush t).1 ∧
    (rs.flush s).2.length = (rs.flush t).2.length

namespace OutputFormatAudioSrc

variable {σ α β : Type*} {rs : Resampler σ α β} {R : σ → σ → Prop}

/-- Two decorators that were fed packets of the same shapes. -/
structure Blind (R : σ → σ → Prop) (d e : OutputFormatAudioSrc σ) : Prop where
  swr : Option.Rel R d.swr e.swr
  rest : e = { d with swr := e.swr }

theorem Blind.refl (hrs : LengthOnly rs R) (d : OutputFormatAudioSrc σ) : Blind R d d where
  swr := by
    cases d.swr with
    | none => exact .none
    | some s => exact .some (hrs.refl s)
  rest := rfl

theorem Blind.elim {d e : OutputFormatAudioSrc σ} (h : Blind R d e) :
    ∃ swr, Option.Rel R d.swr swr ∧ e = { d with swr := swr } :=
  ⟨e.swr, h.swr, h.rest⟩

theorem isNone_of_rel {a b : Option σ} (h : Option.Rel R a b) : a.isNone = b.isNone := by
  cases h <;> rfl

theorem Blind.setCompensationPpm (hrs : LengthOnly rs R) {d e : OutputFormatAudioSrc σ}
    (h : Blind R d e) (c : Compensation) :
    Blind R (d.setCompensationPpm rs c) (e.setCompensationPpm rs c) := by
  obtain ⟨swr, hswr, rfl⟩ := h.elim
  have hnone := isNone_of_rel hswr
  unfold OutputFormatAudioSrc.setCompensationPpm
  dsimp only
  rw [hnone]
  split
  · split
    · split
      · next s _ => exact ⟨(.some (hrs.refl s)), rfl⟩
      · exact ⟨hswr, rfl⟩
    · exact ⟨hswr, rfl⟩
  · exact ⟨hswr, rfl⟩

theorem Blind.configureConversion (hrs : LengthOnly rs R) {d e : OutputFormatAudioSrc σ}
    (h : Blind R d e) (inner : InnerStream) :
    Blind R (d.configureConversion rs inner).1 (e.configureConversion rs inner).1 ∧
      (d.configureConversion rs inner).2 = (e.configureConversion rs inner).2 := by
  obtain ⟨swr, hswr, rfl⟩ := h.elim
  unfold OutputFormatAudioSrc.configureConversion
  dsimp only
  split
  · exact ⟨⟨hswr, rfl⟩, rfl⟩
  · split
    · exact ⟨⟨hswr, rfl⟩, rfl⟩
    · split
      · exact ⟨⟨hswr, rfl⟩, rfl⟩
      · next s _ => exact ⟨⟨(.some (hrs.refl s)), rfl⟩, rfl⟩

theorem Blind.reinit (hrs : LengthOnly rs R) {d e : OutputFormatAudioSrc σ} (h : Blind R d e)
    (answer : Option InnerStream) :
    Blind R (d.reinit rs answer).1 (e.reinit rs answer).1 ∧
      (d.reinit rs answer).2 = (e.reinit rs answer).2 := by
  cases answer with
  | none => exact ⟨h, rfl⟩
  | some inner =>
    obtain ⟨swr, -, rfl⟩ := h.elim
    exact (Blind.refl hrs _).configureConversion hrs inner

theorem length_inputFrames {b b' : RawAudioBuffer α} (h : SameShape b b') :
    (inputFrames rs b).length = (inputFrames rs b').length := by
  have hlen : ∀ b : RawAudioBuffer α, (inputFrames rs b).length = b.numFrames := by
    intro b
    unfold inputFrames
    split
    · split
      · exact List.length_replicate
      · rw [List.length_map, List.length_range]
    · exact List.length_replicate
  rw [hlen, hlen, h.numFrames]

theorem sameShape_forward {b b' : RawAudioBuffer α} (h : SameShape b b') :
    SameShape (forwardBuffer rs b) (forwardBuffer rs b') where
  bytes := by
    have hbytes := h.bytes
    dsimp only [forwardBuffer]
    rw [Option.isSome_map, Option.isSome_map, hbytes]
  numFrames := h.numFrames
  silent := h.silent
  dataDiscontinuity := h.dataDiscontinuity
  gapFrames := h.gapFrames

theorem armed_rel (hrs : LengthOnly rs R) (d : OutputFormatAudioSrc σ) {s t : σ} (hst : R s t) :
    R (d.armed rs s) (d.armed rs t) := by
  unfold armed
  split
  · exact hrs.setCompensation hst _
  · exact hst

theorem Blind.convertBuffer (hrs : LengthOnly rs R) {d e : OutputFormatAudioSrc σ}
    (h : Blind R d e) {s t : σ} (hst : R s t) {b b' : RawAudioBuffer α} (hb : SameShape b b') :
    Blind R (d.convertBuffer rs s b).1 (e.convertBuffer rs t b').1 ∧
      Option.Rel SameShape (d.convertBuffer rs s b).2 (e.convertBuffer rs t b').2 := by
  obtain ⟨swr, hswr, rfl⟩ := h.elim
  have harmed : R (d.armed rs s) (({ d with swr := swr }).armed rs t) := armed_rel hrs d hst
  unfold OutputFormatAudioSrc.convertBuffer
  dsimp only
  rw [← hrs.outSamples hst, ← hb.numFrames, ← hb.gapFrames]
  cases rs.outSamples s b.numFrames with
  | none => exact ⟨⟨hswr, rfl⟩, .some ⟨rfl, rfl, hb.silent, hb.dataDiscontinuity, rfl⟩⟩
  | some _ =>
    rcases hrs.convert harmed (length_inputFrames hb) with
      ⟨hs, ht⟩ | ⟨s', t', out, out', hs, ht, hst', hlen⟩
    · rw [hs, ht]
      exact ⟨⟨(.some harmed), rfl⟩, .none⟩
    · rw [hs, ht]
      dsimp only
      rw [hlen]
      exact ⟨⟨(.some hst'), rfl⟩, .some ⟨rfl, rfl, by rw [hb.silent], hb.dataDiscontinuity, rfl⟩⟩

theorem Blind.outputQpc (hrs : LengthOnly rs R) {d e : OutputFormatAudioSrc σ}
    (h : Blind R d e) (qpcNs : Nat) : d.outputQpc rs qpcNs = e.outputQpc rs qpcNs := by
  have hswr := h.swr
  unfold OutputFormatAudioSrc.outputQpc
  generalize d.swr = ds at hswr
  generalize e.swr = es at hswr
  cases hswr with
  | none => rfl
  | some hst =>
    dsimp only
    rw [hrs.delayNs hst]

theorem Blind.withQpc {d e : OutputFormatAudioSrc σ} (h : Blind R d e) (qpcNs : Nat) :
    Blind R { d with outputQpcNs := qpcNs } { e with outputQpcNs := qpcNs } := by
  obtain ⟨swr, hswr, rfl⟩ := h.elim
  exact ⟨hswr, rfl⟩

/-- The two sides of a conversion, as packets. -/
theorem Blind.converted {x y : OutputFormatAudioSrc σ × Option (RawAudioBuffer β)}
    (h : Blind R x.1 y.1 ∧ Option.Rel SameShape x.2 y.2) :
    let answer := fun x : OutputFormatAudioSrc σ × Option (RawAudioBuffer β) =>
      match x with
      | (d, some out) => (d, CaptureAnswer.packet out d.outputQpcNs)
      | (d, none) => (d, CaptureAnswer.failed true)
    Blind R (answer x).1 (answer y).1 ∧ SameAnswer (answer x).2 (answer y).2 := by
  obtain ⟨d, out⟩ := x
  obtain ⟨e, out'⟩ := y
  obtain ⟨hrel, hout⟩ := h
  dsimp only at hrel hout
  have hq : d.outputQpcNs = e.outputQpcNs := by rw [hrel.rest]
  cases hout with
  | none => exact ⟨hrel, .failed true⟩
  | some hshape =>
    dsimp only
    rw [← hq]
    exact ⟨hrel, .packet _ hshape⟩

/-- Packets of one shape leave the decorators alike and come out in one shape. -/
theorem Blind.acquireBuffer (hrs : LengthOnly rs R) {d e : OutputFormatAudioSrc σ}
    (h : Blind R d e) {a a' : CaptureAnswer α} (ha : SameAnswer a a') :
    Blind R (d.acquireBuffer rs a).1 (e.acquireBuffer rs a').1 ∧
      SameAnswer (d.acquireBuffer rs a).2 (e.acquireBuffer rs a').2 := by
  cases ha with
  | failed lost => exact ⟨h, .failed lost⟩
  | @packet b b' qpcNs hb =>
    have hqpc := h.outputQpc hrs qpcNs
    obtain ⟨swr', hswr, rfl⟩ := h.elim
    obtain ⟨targetRate, targetChannels, inner, passthrough, swr, outputQpcNs, c, engaged, i, o⟩ := d
    unfold OutputFormatAudioSrc.acquireBuffer
    dsimp only at hqpc hswr ⊢
    rw [← hqpc]
    split
    · exact ⟨⟨hswr, rfl⟩, .packet _ (sameShape_forward hb)⟩
    · cases hswr with
      | none => exact ⟨⟨.none, rfl⟩, .failed true⟩
      | some hst =>
        exact Blind.converted ((h.withQpc _).convertBuffer hrs hst hb)

/-- The flush loops produce the same number of frames. -/
theorem drainLoop_rel (hrs : LengthOnly rs R) (n : Nat) :
    ∀ {s t : σ} {xs ys : List β}, R s t → xs.length = ys.length →
      R (drainLoop rs n s xs).1 (drainLoop rs n t ys).1 ∧
        (drainLoop rs n s xs).2.length = (drainLoop rs n t ys).2.length := by
  induction n with
  | zero => exact fun hst hlen => ⟨hst, hlen⟩
  | succ n ih =>
    intro s t xs ys hst hlen
    obtain ⟨hflush, hout⟩ := hrs.flush hst
    unfold drainLoop
    generalize rs.flush s = fs at hflush hout ⊢
    generalize rs.flush t = ft at hflush hout ⊢
    obtain ⟨s', out⟩ := fs
    obtain ⟨t', out'⟩ := ft
    dsimp only at hflush hout ⊢
    cases out with
    | nil =>
      obtain rfl : out' = [] := List.length_eq_zero_iff.mp hout.symm
      exact ⟨hflush, hlen⟩
    | cons x out =>
      obtain ⟨y, out', rfl⟩ := List.exists_cons_of_length_eq_add_one hout.symm
      exact ih hflush (by rw [List.length_append, List.length_append, hlen, hout])

theorem Blind.drainResampler (hrs : LengthOnly rs R) {d e : OutputFormatAudioSrc σ}
    (h : Blind R d e) :
    Blind R (d.drainResampler rs).1 (e.drainResampler rs).1 ∧
      (d.drainResampler rs).2.length = (e.drainResampler rs).2.length := by
  obtain ⟨swr', hswr, rfl⟩ := h.elim
  obtain ⟨targetRate, targetChannels, inner, passthrough, swr, outputQpcNs, c, engaged, i, o⟩ := d
  unfold OutputFormatAudioSrc.drainResampler
  dsimp only at hswr ⊢
  split
  · exact ⟨⟨hswr, rfl⟩, rfl⟩
  · cases hswr with
    | none => exact ⟨⟨.none, rfl⟩, rfl⟩
    | @some s t hst =>
      have hnil : ([] : List β).length = ([] : List β).length := rfl
      obtain ⟨hrel, hlen⟩ := drainLoop_rel hrs kMaxDrainIterations hst hnil
      dsimp only
      rw [hlen]
      exact ⟨⟨(.some hrel), rfl⟩, rfl⟩

end OutputFormatAudioSrc

end Exosnap.Engine
