/-
  The frame path of `NvencEncoder`: input ring, output ring, pending FIFO.

  The driver is a parameter. It answers each call from the history of the calls before it, so a
  `Driver` is any sequence of answers; a `Session` is the encoder with that history. Waits and
  flush polls loop until the driver or the clock ends them: they take fuel, and `none` is a call
  that has not returned yet.

  Left out: log lines, the encode latency, the HDR payloads and pixel formats, and
  `nvEncUnlockBitstream`.
-/
import Exosnap.Engine.SessionTypes
import Mathlib.Algebra.GroupWithZero.Nat
import Mathlib.Algebra.Order.Ring.Rat
import Mathlib.Logic.Function.Basic

namespace Exosnap.Engine.Nvenc

/-! ## The driver -/

inductive NvencStatus where
  | success
  | noEncodeDevice
  | unsupportedDevice
  | invalidEncoderDevice
  | invalidDevice
  | deviceNotExist
  | invalidPtr
  | invalidEvent
  | invalidParam
  | invalidCall
  | outOfMemory
  | encoderNotInitialized
  | unsupportedParam
  | lockBusy
  | notEnoughBuffer
  | invalidVersion
  | mapFailed
  | needMoreInput
  | encoderBusy
  | eventNotRegisterd
  | generic
  | incompatibleClientKey
  | unimplemented
  | resourceRegisterFailed
  | resourceNotRegistered
  | resourceNotMapped
  | unknown
  deriving DecidableEq

def nvencStatusName : NvencStatus → String
  | .success => "NV_ENC_SUCCESS"
  | .noEncodeDevice => "NV_ENC_ERR_NO_ENCODE_DEVICE"
  | .unsupportedDevice => "NV_ENC_ERR_UNSUPPORTED_DEVICE"
  | .invalidEncoderDevice => "NV_ENC_ERR_INVALID_ENCODERDEVICE"
  | .invalidDevice => "NV_ENC_ERR_INVALID_DEVICE"
  | .deviceNotExist => "NV_ENC_ERR_DEVICE_NOT_EXIST"
  | .invalidPtr => "NV_ENC_ERR_INVALID_PTR"
  | .invalidEvent => "NV_ENC_ERR_INVALID_EVENT"
  | .invalidParam => "NV_ENC_ERR_INVALID_PARAM"
  | .invalidCall => "NV_ENC_ERR_INVALID_CALL"
  | .outOfMemory => "NV_ENC_ERR_OUT_OF_MEMORY"
  | .encoderNotInitialized => "NV_ENC_ERR_ENCODER_NOT_INITIALIZED"
  | .unsupportedParam => "NV_ENC_ERR_UNSUPPORTED_PARAM"
  | .lockBusy => "NV_ENC_ERR_LOCK_BUSY"
  | .notEnoughBuffer => "NV_ENC_ERR_NOT_ENOUGH_BUFFER"
  | .invalidVersion => "NV_ENC_ERR_INVALID_VERSION"
  | .mapFailed => "NV_ENC_ERR_MAP_FAILED"
  | .needMoreInput => "NV_ENC_ERR_NEED_MORE_INPUT"
  | .encoderBusy => "NV_ENC_ERR_ENCODER_BUSY"
  | .eventNotRegisterd => "NV_ENC_ERR_EVENT_NOT_REGISTERD"
  | .generic => "NV_ENC_ERR_GENERIC"
  | .incompatibleClientKey => "NV_ENC_ERR_INCOMPATIBLE_CLIENT_KEY"
  | .unimplemented => "NV_ENC_ERR_UNIMPLEMENTED"
  | .resourceRegisterFailed => "NV_ENC_ERR_RESOURCE_REGISTER_FAILED"
  | .resourceNotRegistered => "NV_ENC_ERR_RESOURCE_NOT_REGISTERED"
  | .resourceNotMapped => "NV_ENC_ERR_RESOURCE_NOT_MAPPED"
  | .unknown => "NV_ENC_ERR_UNKNOWN"

/-- What `WaitForSingleObject` returns; `other` are the results without a name in the source. -/
inductive WaitResult where
  | object0
  | timeout
  | failed
  | other
  deriving DecidableEq

inductive PictureType where
  | idr
  | i
  | other
  deriving DecidableEq

/-- A submitted picture. `output` is its ring buffer, `none` the single one of the sync mode. -/
structure PicParams where
  width : UInt32
  height : UInt32
  inputBuffer : Option Nat
  forceIdr : Bool
  inputTimeStamp : UInt64
  output : Option Nat
  deriving DecidableEq

structure LockBitstream where
  outputTimeStamp : UInt64
  pictureType : PictureType
  bytes : List UInt8
  deriving DecidableEq

/-- A call with its answer. -/
inductive DriverEvent where
  | mapped (slot : Fin 8) (status : NvencStatus) (resource : Option Nat)
  | unmapped (resource : Option Nat)
  | encoded (pic : PicParams) (status : NvencStatus)
  | ended (status : NvencStatus)
  | locked (buffer : Option Nat) (status : NvencStatus) (bitstream : LockBitstream)
  | waited (event : Nat) (timeoutMs : UInt32) (result : WaitResult)
  deriving DecidableEq

/-- The answers, from the calls so far. `ended` is the picture that ends the stream, `now` the
    clock in milliseconds. -/
structure Driver where
  mapInputResource : List DriverEvent → Fin 8 → NvencStatus × Option Nat
  encodePicture : List DriverEvent → PicParams → NvencStatus
  encodeEos : List DriverEvent → NvencStatus
  lockBitstream : List DriverEvent → Option Nat → Bool → NvencStatus × LockBitstream
  waitForSingleObject : List DriverEvent → Nat → UInt32 → WaitResult
  now : List DriverEvent → ℚ

/-! ## Pure helpers -/

inductive DrainStep where
  | consume
  | retry
  | abortTimeout
  | abortError
  deriving DecidableEq

def nextFlushDrainStep (lockStatus : NvencStatus) (elapsedMs budgetMs : ℚ) : DrainStep :=
  match lockStatus with
  | .success => .consume
  | .lockBusy => if elapsedMs < budgetMs then .retry else .abortTimeout
  | _ => .abortError

def nextEventDrainStep (waitResult : WaitResult) (elapsedMs budgetMs : ℚ) : DrainStep :=
  match waitResult with
  | .object0 => .consume
  | .timeout => if elapsedMs < budgetMs then .retry else .abortTimeout
  | _ => .abortError

structure FreeOutputSlotResult where
  slotIdx : Option Nat
  nextCursor : Nat

def findFreeOutputSlot (inFlight : Nat → Bool) (count cursor : Nat) : FreeOutputSlotResult :=
  match ((List.range count).map fun i => (cursor + i) % count).find? fun idx => !inFlight idx with
  | some idx => ⟨some idx, (idx + 1) % count⟩
  | none => ⟨none, cursor⟩

structure GopKeyframePhase where
  isKeyframe : Bool
  gopStartPtsNs : UInt64

def nextGopKeyframePhase (ptsNs : UInt64) (haveGopStart : Bool)
    (gopStartPtsNs gopDurationNs frameIntervalNs : UInt64) (forcedIdr : Bool) : GopKeyframePhase :=
  let key := forcedIdr || !haveGopStart ||
    (decide (0 < gopDurationNs) &&
      decide (gopStartPtsNs + gopDurationNs ≤ ptsNs + frameIntervalNs / 2))
  { isKeyframe := key, gopStartPtsNs := if key then ptsNs else gopStartPtsNs }

def resyncGopStartFromActual (predictedKeyframe actualIsIdr : Bool)
    (packetPtsNs gopStartPtsNs : UInt64) : UInt64 :=
  if actualIsIdr && !predictedKeyframe then
    if gopStartPtsNs < packetPtsNs then packetPtsNs else gopStartPtsNs
  else gopStartPtsNs

def formatOutputTsMismatchError (expected actual : UInt64) : String :=
  "NVENC outputTimeStamp echo mismatch: expected=" ++ toString expected.toNat ++ " actual=" ++
    toString actual.toNat ++ " (PTS assignment can no longer be trusted for this packet)"

/-! ## The encoder -/

structure InputSlot where
  mappedResource : Option Nat := none
  inFlight : Bool := false
  mapped : Bool := false
  deriving DecidableEq

/-- `outIdx` is `none` in sync mode. -/
structure PendingFrame where
  ptsNs : UInt64
  slotIdx : Fin 8
  inputTs : UInt64
  predictedKeyframe : Bool
  outIdx : Option Nat
  deriving DecidableEq

def discardRejectedSubmission (pending : List PendingFrame) (rejectedInputTs : UInt64) :
    List PendingFrame :=
  pending.filter fun p => p.inputTs ≠ rejectedInputTs

def kMaxOutputResources : Nat := 4

instance neZero_slots : NeZero (8 : Nat) := ⟨by decide⟩

/-- The encoder; the outputs are the `in_flight` flags of its ring. -/
structure NvencEncoder where
  asyncMode : Bool
  activeDepth : Fin (kMaxOutputResources + 1)
  gopDurationNs : UInt64
  frameIntervalNs : UInt64
  slots : Fin 8 → InputSlot := fun _ => {}
  slotCursor : Fin 8 := 0
  outputs : Nat → Bool := fun _ => false
  outputCursor : Nat := 0
  pending : List PendingFrame := []
  needMoreInputCount : Nat := 0
  frameIdx : UInt64 := 0
  forceIdrNext : Bool := false
  haveGopStart : Bool := false
  gopStartPtsNs : UInt64 := 0

namespace NvencEncoder

def setSlot (e : NvencEncoder) (i : Fin 8) (slot : InputSlot) : NvencEncoder :=
  { e with slots := Function.update e.slots i slot }

def setOutput (e : NvencEncoder) (idx : Nat) (inFlight : Bool) : NvencEncoder :=
  { e with outputs := Function.update e.outputs idx inFlight }

/-- A slot index of the interface. -/
def slotOf? (slotIdx : Int) : Option (Fin 8) :=
  if h : 0 ≤ slotIdx ∧ slotIdx < 8 then some ⟨slotIdx.toNat, by omega⟩ else none

/-- The ring buffer of an entry, as `out_idx >= 0 && out_idx < kMaxOutputResources` has it. -/
def outputOf? (p : PendingFrame) : Option Nat :=
  p.outIdx.filter fun idx => idx < kMaxOutputResources

def acquireFreeSlot (e : NvencEncoder) : Option (Fin 8) × NvencEncoder :=
  match ((List.finRange 8).map fun i => e.slotCursor + i).find? fun idx =>
      !(e.slots idx).inFlight && !(e.slots idx).mapped with
  | some idx =>
      (some idx, { e.setSlot idx { e.slots idx with inFlight := true } with
        slotCursor := idx + 1 })
  | none => (none, e)

def requestKeyframe (e : NvencEncoder) : NvencEncoder := { e with forceIdrNext := true }

end NvencEncoder

structure Session where
  encoder : NvencEncoder
  history : List DriverEvent := []

namespace Session

def log (s : Session) (event : DriverEvent) : Session :=
  { s with history := s.history ++ [event] }

def setEncoder (s : Session) (e : NvencEncoder) : Session := { s with encoder := e }

/-- The release of a slot, as `ReleaseSlot` and the consumption of an output do it. -/
def freeSlot (s : Session) (i : Fin 8) : Session :=
  let slot := s.encoder.slots i
  if slot.mapped && slot.mappedResource.isSome then
    (s.log (.unmapped slot.mappedResource)).setEncoder (s.encoder.setSlot i {})
  else s.setEncoder (s.encoder.setSlot i { slot with mapped := false, inFlight := false })

def releaseSlot (s : Session) (slotIdx : Int) : Session :=
  match NvencEncoder.slotOf? slotIdx with
  | none => s
  | some i => s.freeSlot i

/-- The buffer that the next lock reads. -/
def bitstreamToLock (s : Session) : Option Nat :=
  if s.encoder.asyncMode then s.encoder.pending.head?.bind NvencEncoder.outputOf? else none

/-- The lock's status, and the packet or the error of `LockAndConsumeBitstream`. -/
def lockAndConsumeBitstream (driver : Driver) (nonBlocking : Bool) (s : Session) :
    NvencStatus × Except String EncodedVideoPacket × Session :=
  let (status, lockBS) := driver.lockBitstream s.history s.bitstreamToLock nonBlocking
  let s := s.log (.locked s.bitstreamToLock status lockBS)
  if status ≠ .success then
    (status, .error ("nvEncLockBitstream: " ++ nvencStatusName status), s)
  else
    let actualIsIdr := decide (lockBS.pictureType = .idr)
    let isKey := actualIsIdr || decide (lockBS.pictureType = .i)
    match s.encoder.pending with
    | [] => (status, .ok { bytes := lockBS.bytes, ptsNs := 0, keyframe := isKey }, s)
    | pf :: pending =>
        let s := s.setEncoder { s.encoder with pending := pending }
        if lockBS.outputTimeStamp ≠ pf.inputTs then
          (status, .error (formatOutputTsMismatchError pf.inputTs lockBS.outputTimeStamp), s)
        else
          let s := s.setEncoder { s.encoder with
            gopStartPtsNs := resyncGopStartFromActual pf.predictedKeyframe actualIsIdr pf.ptsNs
              s.encoder.gopStartPtsNs }
          let s := s.freeSlot pf.slotIdx
          let s :=
            match s.encoder.asyncMode, NvencEncoder.outputOf? pf with
            | true, some idx => s.setEncoder (s.encoder.setOutput idx false)
            | _, _ => s
          (status, .ok { bytes := lockBS.bytes, ptsNs := pf.ptsNs, keyframe := isKey }, s)

def waitForSingleObject (driver : Driver) (event : Nat) (timeoutMs : UInt32) (s : Session) :
    WaitResult × Session :=
  let result := driver.waitForSingleObject s.history event timeoutMs
  (result, s.log (.waited event timeoutMs result))

def waitAndConsumeOneAsync (driver : Driver) (event : Nat) (budgetMs start : ℚ) :
    Nat → Session → Option (Except String EncodedVideoPacket × Session)
  | 0, _ => none
  | n + 1, s =>
      let (waitResult, s) := s.waitForSingleObject driver event 20
      match nextEventDrainStep waitResult (driver.now s.history - start) budgetMs with
      | .consume => some (s.lockAndConsumeBitstream driver true).2
      | .retry => waitAndConsumeOneAsync driver event budgetMs start n s
      | .abortTimeout =>
          some (.error "WaitAndConsumeOneAsync: timed out waiting for the completion event", s)
      | .abortError => some (.error "WaitAndConsumeOneAsync: WaitForSingleObject failed", s)

end Session

/-! ## Submission -/

/-- What a call hands back: packets, the error of a failed call, the slot of `AcquireFreeSlot`. -/
structure Answer where
  packets : List EncodedVideoPacket := []
  error : Option String := none
  slot : Option (Fin 8) := none

/-- The picture of a submission, and the encoder with its entry. -/
def NvencEncoder.submit (e : NvencEncoder) (i : Fin 8) (ptsNs : UInt64) (width height : UInt32)
    (resource outIdx : Option Nat) : PicParams × NvencEncoder :=
  let phase := nextGopKeyframePhase ptsNs e.haveGopStart e.gopStartPtsNs e.gopDurationNs
    e.frameIntervalNs e.forceIdrNext
  let pic : PicParams :=
    { width := width, height := height, inputBuffer := resource, forceIdr := phase.isKeyframe,
      inputTimeStamp := e.frameIdx, output := outIdx }
  let pf : PendingFrame :=
    { ptsNs := ptsNs, slotIdx := i, inputTs := e.frameIdx, predictedKeyframe := phase.isKeyframe,
      outIdx := outIdx }
  (pic,
    { e with
      forceIdrNext := false
      haveGopStart := e.haveGopStart || phase.isKeyframe
      gopStartPtsNs := phase.gopStartPtsNs
      frameIdx := e.frameIdx + 1
      outputs := match outIdx with
        | some idx => Function.update e.outputs idx true
        | none => e.outputs
      pending := e.pending ++ [pf] })

namespace Session

/-- A free buffer of the output ring. While there is none, the oldest frame is waited for. -/
def claimOutputSlot (driver : Driver) :
    Nat → Session → Option (List EncodedVideoPacket × Except String Nat × Session)
  | 0, _ => none
  | n + 1, s =>
      let free := findFreeOutputSlot s.encoder.outputs s.encoder.activeDepth s.encoder.outputCursor
      match free.slotIdx with
      | some idx =>
          some ([], .ok idx, s.setEncoder { s.encoder with outputCursor := free.nextCursor })
      | none =>
          match s.encoder.pending with
          | [] =>
              some ([],
                .error "EncodeFrame (async): output ring full but no pending frame to wait on", s)
          | head :: _ =>
              match head.outIdx with
              | none => none -- reads the ring at -1
              | some event =>
                  match s.waitAndConsumeOneAsync driver event 2000 (driver.now s.history) n with
                  | none => none
                  | some (.error err, s) => some ([], .error err, s)
                  | some (.ok packet, s) =>
                      (claimOutputSlot driver n s).map fun r => (packet :: r.1, r.2)

/-- The slot of a submission that failed. -/
def cleanUpSlot (s : Session) (i : Fin 8) : Session :=
  (s.log (.unmapped (s.encoder.slots i).mappedResource)).setEncoder (s.encoder.setSlot i {})

def discard (s : Session) (inputTs : UInt64) : Session :=
  s.setEncoder { s.encoder with pending := discardRejectedSubmission s.encoder.pending inputTs }

/-- The slot is mapped and the frame is in the FIFO, in front of `nvEncEncodePicture`. -/
def submission (s : Session) (i : Fin 8) (ptsNs : UInt64) (width height : UInt32)
    (resource outIdx : Option Nat) : PicParams × Session :=
  let s := s.setEncoder (s.encoder.setSlot i
    { s.encoder.slots i with mappedResource := resource, mapped := true })
  let (pic, e) := s.encoder.submit i ptsNs width height resource outIdx
  (pic, s.setEncoder e)

/-- `EncodeFrame` from `nvEncEncodePicture` on. -/
def encodeSubmission (driver : Driver) (i : Fin 8) (outIdx : Option Nat) (pic : PicParams)
    (s : Session) : Answer × Session :=
  let status := driver.encodePicture s.history pic
  let s := s.log (.encoded pic status)
  match status with
  | .success =>
      if s.encoder.asyncMode then ({}, s)
      else
        match s.lockAndConsumeBitstream driver false with
        | (_, .error err, s) =>
            ({ error := some err }, (s.cleanUpSlot i).discard pic.inputTimeStamp)
        | (_, .ok packet, s) => ({ packets := [packet] }, s)
  | .needMoreInput =>
      ({}, s.setEncoder { s.encoder with needMoreInputCount := s.encoder.needMoreInputCount + 1 })
  | status =>
      let s := s.cleanUpSlot i
      let s :=
        match s.encoder.asyncMode, outIdx.filter fun idx => idx < kMaxOutputResources with
        | true, some idx => s.setEncoder (s.encoder.setOutput idx false)
        | _, _ => s
      ({ error := some ("nvEncEncodePicture: " ++ nvencStatusName status) },
        s.discard pic.inputTimeStamp)

/-- `EncodeFrame` behind the choice of the output buffer. -/
def submitFrame (driver : Driver) (i : Fin 8) (ptsNs : UInt64) (width height : UInt32)
    (outIdx : Option Nat) (s : Session) : Answer × Session :=
  let (status, resource) := driver.mapInputResource s.history i
  let s := s.log (.mapped i status resource)
  if status ≠ .success then
    ({ error := some ("nvEncMapInputResource: " ++ nvencStatusName status) }, s)
  else
    let (pic, s) := s.submission i ptsNs width height resource outIdx
    s.encodeSubmission driver i outIdx pic

def encodeFrame (driver : Driver) (slotIdx : Int) (ptsNs : UInt64) (width height : UInt32) (n : Nat)
    (s : Session) : Option (Answer × Session) :=
  match NvencEncoder.slotOf? slotIdx with
  | none => some ({ error := some "EncodeFrame: slot_idx out of range [0,7]" }, s)
  | some i =>
      if (s.encoder.slots i).mapped then
        some ({ error := some "EncodeFrame: slot already mapped" }, s)
      else if s.encoder.asyncMode then
        match s.claimOutputSlot driver n with
        | none => none
        | some (packets, .error err, s) => some ({ packets := packets, error := some err }, s)
        | some (packets, .ok idx, s) =>
            let (answer, s) := s.submitFrame driver i ptsNs width height (some idx)
            some ({ answer with packets := packets ++ answer.packets }, s)
      else some (s.submitFrame driver i ptsNs width height none)

/-! ## Draining -/

def reapLoop (driver : Driver) : Nat → UInt32 → Session → Option (Answer × Session)
  | 0, _, _ => none
  | n + 1, timeoutMs, s =>
      match s.encoder.pending with
      | [] => some ({}, s)
      | head :: _ =>
          match NvencEncoder.outputOf? head with
          | none =>
              let err := "ReapCompleted: pending frame has an invalid output-ring index"
              some ({ error := some err }, s)
          | some event =>
              let (waitResult, s) := s.waitForSingleObject driver event timeoutMs
              if waitResult ≠ .object0 then
                if waitResult = .failed then
                  some ({ error := some "ReapCompleted: WaitForSingleObject failed" }, s)
                else some ({}, s)
              else
                match s.lockAndConsumeBitstream driver true with
                | (_, .error err, s) => some ({ error := some err }, s)
                | (_, .ok packet, s) =>
                    (reapLoop driver n 0 s).map fun r =>
                      ({ r.1 with packets := packet :: r.1.packets }, r.2)

def reapCompleted (driver : Driver) (waitHeadMs : UInt32) (n : Nat) (s : Session) :
    Option (Answer × Session) :=
  if s.encoder.asyncMode then s.reapLoop driver n waitHeadMs else some ({}, s)

/-- The drain of the sync mode. A lock that succeeds counts as a packet, whatever the consumption
    made of it. -/
def flushLoop (driver : Driver) : Nat → Nat → ℚ → Session → Option (Answer × Session)
  | 0, _, _, _ => none
  | n + 1, remaining, lastProgress, s =>
      if remaining = 0 ∨ s.encoder.pending = [] then some ({}, s)
      else
        let (lockStatus, result, s) := s.lockAndConsumeBitstream driver true
        match nextFlushDrainStep lockStatus (driver.now s.history - lastProgress) 2000 with
        | .consume =>
            let packet := match result with
              | .ok packet => packet
              | .error _ => { bytes := [] }
            (flushLoop driver n (remaining - 1) (driver.now s.history) s).map fun r =>
              ({ r.1 with packets := packet :: r.1.packets }, r.2)
        | .retry => flushLoop driver n remaining lastProgress s
        | .abortTimeout =>
            let err := "Flush drain timed out — device not delivering buffered frames"
            some ({ error := some err }, s)
        | .abortError =>
            let err := match result with
              | .ok _ => ""
              | .error err => err
            some ({ error := some ("Flush drain stopped: " ++ err) }, s)

def flushAsyncLoop (driver : Driver) : Nat → Session → Option (Answer × Session)
  | 0, _ => none
  | n + 1, s =>
      match s.encoder.pending with
      | [] => some ({}, s)
      | head :: _ =>
          match NvencEncoder.outputOf? head with
          | none =>
              let err := "FlushAsync: pending frame has an invalid output-ring index"
              some ({ error := some err }, s)
          | some event =>
              match s.waitAndConsumeOneAsync driver event 2000 (driver.now s.history) n with
              | none => none
              | some (.error err, s) => some ({ error := some err }, s)
              | some (.ok packet, s) =>
                  (flushAsyncLoop driver n s).map fun r =>
                    ({ r.1 with packets := packet :: r.1.packets }, r.2)

/-- `Flush` and `FlushAsync`: the same but for the loop. -/
def flush (driver : Driver) (n : Nat) (s : Session) : Option (Answer × Session) :=
  let status := driver.encodeEos s.history
  let s := s.log (.ended status)
  if status ≠ .success then
    some ({ error := some ("nvEncEncodePicture(EOS): " ++ nvencStatusName status) }, s)
  else
    let drained :=
      if s.encoder.asyncMode then s.flushAsyncLoop driver n
      else s.flushLoop driver n s.encoder.needMoreInputCount (driver.now s.history)
    drained.map fun r => (r.1, r.2.setEncoder { r.2.encoder with needMoreInputCount := 0 })

end Session

/-! ## The interface -/

inductive Call where
  | acquireFreeSlot
  | releaseSlot (slotIdx : Int)
  | requestKeyframe
  | encodeFrame (slotIdx : Int) (ptsNs : UInt64) (width height : UInt32)
  | reapCompleted (waitHeadMs : UInt32)
  | flush

def Session.call (driver : Driver) (n : Nat) (s : Session) : Call → Option (Answer × Session)
  | .acquireFreeSlot =>
      let (slot, e) := s.encoder.acquireFreeSlot
      some ({ slot := slot }, s.setEncoder e)
  | .releaseSlot slotIdx => some ({}, s.releaseSlot slotIdx)
  | .requestKeyframe => some ({}, s.setEncoder s.encoder.requestKeyframe)
  | .encodeFrame slotIdx ptsNs width height =>
      s.encodeFrame driver slotIdx ptsNs width height n
  | .reapCompleted waitHeadMs => s.reapCompleted driver waitHeadMs n
  | .flush => s.flush driver n

end Exosnap.Engine.Nvenc
