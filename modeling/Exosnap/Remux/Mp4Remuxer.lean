/-
  The stream copy of `mp4_remuxer.cpp`: `RemuxStreamCopy`, behind `RemuxToProgressiveMp4` and
  `RemuxToMkv`, with its trim range, its packet loop and its finalization.

  libav answers through `Libav`. The input file is a list of packets: `av_read_frame` hands them
  out from the place the seek landed on, unless that read fails, and answers `AVERROR_EOF` behind
  the last one. The progress callback is its answers in the order of its calls; the fraction it
  is told is a floating-point estimate and is left out, like the log lines and the timings.
-/
import Mathlib.Algebra.Order.Ring.Int

namespace Exosnap.Remux

def INT64_MAX : Int := 2 ^ 63 - 1

/-- `INT64_MIN`, which is `AV_NOPTS_VALUE` as well. -/
def AV_NOPTS_VALUE : Int := -2 ^ 63

def AV_TIME_BASE : Int := 1000000

def AVERROR_EOF : Int := -541478725

def AVERROR_ENOMEM : Int := -12

def AVERROR_EIO : Int := -5

def AVERROR_ECANCELED : Int := -105

structure AVRational where
  num : Int
  den : Int
deriving DecidableEq, Repr

/-- To the nearest, halfway cases away from zero. -/
def av_rescale_q (a : Int) (bq cq : AVRational) : Int :=
  let b := bq.num * cq.den
  let c := cq.num * bq.den
  if c ≤ 0 ∨ b < 0 then AV_NOPTS_VALUE
  else
    let magnitude := (2 * min (a.natAbs : Int) INT64_MAX * b + c) / (2 * c)
    if INT64_MAX < magnitude then AV_NOPTS_VALUE
    else if a < 0 then -magnitude
    else magnitude

/-! ## Streams and packets -/

inductive CodecType where
  | video
  | audio
  | other
deriving DecidableEq, Repr

inductive CodecId where
  | hevc
  | other (id : Nat)
deriving DecidableEq, Repr

/-- The parameters of a stream that the copy looks at. The colour fields hold libav's numbers. -/
structure AVCodecParameters where
  codecType : CodecType
  codecId : CodecId
  codecTag : String
  colorPrimaries : Nat
  colorTrc : Nat
  colorSpace : Nat
  colorRange : Nat
  masteringDisplay : Bool
deriving DecidableEq, Repr

structure AVStream where
  timeBase : AVRational
  codecpar : AVCodecParameters
deriving DecidableEq, Repr

structure AVPacket where
  streamIndex : Int
  pts : Int
  dts : Int
  duration : Int
  pos : Int
  key : Bool
  data : List UInt8
deriving DecidableEq, Repr

def rescaleStamp (stamp : Int) (src dst : AVRational) : Int :=
  if stamp = AV_NOPTS_VALUE then stamp else av_rescale_q stamp src dst

def av_packet_rescale_ts (pkt : AVPacket) (src dst : AVRational) : AVPacket :=
  { pkt with
    pts := rescaleStamp pkt.pts src dst
    dts := rescaleStamp pkt.dts src dst
    duration := if 0 < pkt.duration then av_rescale_q pkt.duration src dst else pkt.duration }

/-! ## The trim range and the result -/

def kNoTimestamp : Int := AV_NOPTS_VALUE

structure TrimRange where
  startUs : Int := kNoTimestamp
  endUs : Int := kNoTimestamp
deriving DecidableEq, Repr

def TrimRange.HasStart (tr : TrimRange) : Prop := tr.startUs ≠ kNoTimestamp

def TrimRange.HasEnd (tr : TrimRange) : Prop := tr.endUs ≠ kNoTimestamp

instance (tr : TrimRange) : Decidable tr.HasStart := inferInstanceAs (Decidable (_ ≠ _))

instance (tr : TrimRange) : Decidable tr.HasEnd := inferInstanceAs (Decidable (_ ≠ _))

structure RemuxIoFaults where
  failOutputClose : Bool := false

structure RemuxResult where
  success : Bool
  avErrorCode : Int
  message : String
deriving DecidableEq, Repr

def RemuxResult.Ok : RemuxResult := ⟨true, 0, ""⟩

def RemuxResult.Fail (avErr : Int) (msg : String) : RemuxResult := ⟨false, avErr, msg⟩

structure RemuxOptions where
  formatName : String
  extraOpts : List (String × String)

/-! ## libav -/

/-- The code of a read that fails without having reached the end of the file. -/
structure ReadFailure where
  code : Int
  negative : code < 0
  not_eof : code ≠ AVERROR_EOF

structure Libav where
  openInput : Int
  findStreamInfo : Int
  /-- A duration above zero is known. -/
  durationKnown : Bool
  streams : List AVStream
  packets : List AVPacket
  /-- The return code, and whether there is a context behind it. -/
  allocOutputContext : Int × Bool
  newStream : Nat → Bool
  parametersCopy : Nat → Int
  /-- `AVFMT_NOFILE` of the output format. -/
  noFile : Bool
  avioOpen : Int
  writeHeader : List (String × String) → Int
  /-- The time base that the muxer gives to an output stream. -/
  outputTimeBase : Nat → AVRational
  /-- `av_seek_frame` backwards: the packet it lands on, or an error. -/
  seekFrame : Int → Int → Except Int Nat
  packetAlloc : Bool
  /-- What goes wrong in a call of `av_read_frame`, by the number of the call. -/
  readFault : Nat → Option ReadFailure
  interleavedWriteFrame : Nat → Int
  writeTrailer : Int
  streamError : Int
  avioClosep : Int
  strerror : Int → String

/-- Answers of the progress callback, by the number of the call. -/
abbrev RemuxProgressCallback := Nat → Bool

/-- What is given to one remux. -/
structure Job where
  av : Libav
  progressCb : Option RemuxProgressCallback
  opts : RemuxOptions
  tr : TrimRange
  faults : Option RemuxIoFaults := none

/-- What a remux did, in order. -/
inductive RemuxStep where
  | progress (answer : Bool)
  | read (ret : Int)
  | write (ret : Int)
  | trailer (ret : Int)
  | flush (error : Int)
  | close (error : Int)
  | finished (answer : Bool)
deriving DecidableEq, Repr

namespace Job

variable (j : Job)

def errorText (call : String) (ret : Int) : String := call ++ " failed: " ++ j.av.strerror ret

def failed (call : String) (ret : Int) : RemuxResult := .Fail ret (j.errorText call ret)

/-- `video_stream_idx`, where there is one. -/
def videoStreamIdx : Option Nat :=
  j.av.streams.findIdx? fun stream => stream.codecpar.codecType = .video

/-! ## The output streams -/

/-- The fallback of unspecified (2) and reserved (0, or 3 for the matrix) colours. -/
def taggedColour (par : AVCodecParameters) : AVCodecParameters :=
  { par with
    colorPrimaries :=
      if par.colorPrimaries = 2 ∨ par.colorPrimaries = 0 then 1 else par.colorPrimaries
    colorTrc := if par.colorTrc = 2 ∨ par.colorTrc = 0 then 1 else par.colorTrc
    colorSpace := if par.colorSpace = 2 ∨ par.colorSpace = 3 then 1 else par.colorSpace
    colorRange := if par.colorRange = 0 then 1 else par.colorRange }

def outputParameters (outIsMp4 : Bool) (par : AVCodecParameters) : AVCodecParameters :=
  let par := { par with codecTag := "" }
  let par :=
    if outIsMp4 ∧ par.codecType = .video ∧ par.codecId = .hevc then { par with codecTag := "hvc1" }
    else par
  if par.codecType = .video ∧ par.masteringDisplay = false then taggedColour par else par

/-- Streams are mapped from number `i` on. An error is its code and its text. -/
def mapStreams (i : Nat) : List AVStream → Except (Int × String) (List AVCodecParameters)
  | [] => .ok []
  | stream :: rest =>
    if j.av.newStream i = false then
      .error (AVERROR_ENOMEM, "avformat_new_stream failed (out of memory)")
    else if j.av.parametersCopy i < 0 then
      .error (j.av.parametersCopy i,
        j.errorText "avcodec_parameters_copy" (j.av.parametersCopy i))
    else
      match mapStreams (i + 1) rest with
      | .ok outputs =>
        .ok (outputParameters (j.opts.formatName = "mp4") stream.codecpar :: outputs)
      | .error error => .error error

/-! ## The packet loop -/

structure LoopState where
  /-- `trim_start_locked`. -/
  locked : Bool
  calls : Nat := 0
  reads : Nat := 0
  written : List AVPacket := []
  steps : List RemuxStep := []

inductive LoopEnd where
  | ended
  | cancelled
  | failed (call : String) (ret : Int)

/-- Asks the callback, when there is one, and notes its answer. -/
def progress (s : LoopState) : LoopState × Bool :=
  match j.progressCb with
  | none => (s, true)
  | some cb =>
    ({ s with calls := s.calls + 1, steps := s.steps ++ [.progress (cb s.calls)] }, cb s.calls)

/-- What a call of `av_read_frame` returns, `ret` if nothing goes wrong. -/
def av_read_frame (s : LoopState) (ret : Int) : Int :=
  match j.av.readFault s.reads with
  | some fault => fault.code
  | none => ret

def readFrame (s : LoopState) (ret : Int) : LoopState × Option LoopEnd :=
  ({ s with reads := s.reads + 1, steps := s.steps ++ [.read ret] },
    if ret = AVERROR_EOF then some .ended
    else if ret < 0 then some (.failed "av_read_frame" ret)
    else none)

/-- The head of the loop: the cancellation probe, then a read. -/
def nextFrame (s : LoopState) (ret : Int) : LoopState × Option LoopEnd :=
  match j.progress s with
  | (s, false) => (s, some .cancelled)
  | (s, true) => readFrame s (j.av_read_frame s ret)

/-- The stream of a packet, if its index is one of the input. -/
def streamOf (pkt : AVPacket) : Option AVStream :=
  if pkt.streamIndex < 0 then none else j.av.streams[pkt.streamIndex.toNat]?

def isVideo (pkt : AVPacket) : Bool := j.videoStreamIdx.any fun i : Nat => pkt.streamIndex = i

def ptsUs (pkt : AVPacket) : Int :=
  match j.streamOf pkt with
  | some stream => av_rescale_q pkt.pts stream.timeBase ⟨1, AV_TIME_BASE⟩
  | none => AV_NOPTS_VALUE

/-- The end boundary is decided on the video stream alone. -/
def pastEnd (pkt : AVPacket) : Bool :=
  j.tr.HasEnd ∧ j.isVideo pkt ∧ pkt.pts ≠ AV_NOPTS_VALUE ∧ j.tr.endUs ≤ j.ptsUs pkt

/-- The packet in the time base of its output stream. -/
def rescaled (pkt : AVPacket) : AVPacket :=
  match j.streamOf pkt with
  | some stream =>
    { av_packet_rescale_ts pkt stream.timeBase (j.av.outputTimeBase pkt.streamIndex.toNat) with
      pos := -1 }
  | none => pkt

/-- Writes a packet and reports progress. -/
def writePacket (s : LoopState) (pkt : AVPacket) : LoopState × Option LoopEnd :=
  let ret := j.av.interleavedWriteFrame s.written.length
  let s := { s with written := s.written ++ [j.rescaled pkt], steps := s.steps ++ [.write ret] }
  if ret < 0 then (s, some (.failed "av_interleaved_write_frame" ret))
  else if j.av.durationKnown ∧ j.isVideo pkt ∧ (j.rescaled pkt).pts ≠ AV_NOPTS_VALUE then
    match j.progress s with
    | (s, false) => (s, some .cancelled)
    | (s, true) => (s, none)
  else (s, none)

def copyPacket (s : LoopState) (pkt : AVPacket) : LoopState × Option LoopEnd :=
  if (j.streamOf pkt).isNone then (s, none)
  -- Only a video keyframe ends the start boundary; everything before it is skipped.
  else if s.locked = false ∧ ¬ (j.isVideo pkt ∧ pkt.key) then (s, none)
  else if j.pastEnd pkt then ({ s with locked := true }, some .ended)
  else j.writePacket { s with locked := true } pkt

def packetLoop (s : LoopState) : List AVPacket → LoopState × LoopEnd
  | [] =>
    match j.nextFrame s AVERROR_EOF with
    | (s, some stop) => (s, stop)
    | (s, none) => (s, .ended)
  | pkt :: rest =>
    match j.nextFrame s 0 with
    | (s, some stop) => (s, stop)
    | (s, none) =>
      match j.copyPacket s pkt with
      | (s, some stop) => (s, stop)
      | (s, none) => packetLoop s rest

/-! ## The remux -/

structure Remuxed where
  result : RemuxResult
  /-- The packets that were handed to the muxer. -/
  written : List AVPacket := []
  outputs : List AVCodecParameters := []
  steps : List RemuxStep := []
  /-- The partial output was removed. -/
  removed : Bool := false

/-- What the backward seek is told: the stream, and the start in that stream's time base. -/
def seekTarget : Int × Int :=
  match j.videoStreamIdx with
  | some i =>
    (i, match j.av.streams[i]? with
      | some stream => av_rescale_q j.tr.startUs ⟨1, AV_TIME_BASE⟩ stream.timeBase
      | none => j.tr.startUs)
  | none => (-1, j.tr.startUs)

/-- Where the reads begin. A failed seek is not fatal: they begin at the first packet. -/
def landing : Nat :=
  if j.tr.HasStart then
    match j.av.seekFrame j.seekTarget.1 j.seekTarget.2 with
    | .ok position => position
    | .error _ => 0
  else 0

def startLocked : Bool := ¬ j.tr.HasStart ∨ j.videoStreamIdx = none

/-- Flush and close of the output file. The first error counts. -/
def closeOutput (s : LoopState) : LoopState × Int :=
  if j.av.noFile then (s, 0)
  else
    let closeError :=
      if (j.faults.any fun faults => faults.failOutputClose) ∧ 0 ≤ j.av.avioClosep then AVERROR_EIO
      else j.av.avioClosep
    ({ s with steps := s.steps ++ [.flush j.av.streamError, .close closeError] },
      if j.av.streamError < 0 then j.av.streamError else closeError)

/-- The last call of the callback reports 100 %, and its answer is not looked at. -/
def signalFinished (s : LoopState) : LoopState :=
  match j.progressCb with
  | none => s
  | some cb => { s with calls := s.calls + 1, steps := s.steps ++ [.finished (cb s.calls)] }

def finalize (outputs : List AVCodecParameters) (s : LoopState) : Remuxed :=
  let s := { s with steps := s.steps ++ [.trailer j.av.writeTrailer] }
  if j.av.writeTrailer < 0 then
    ⟨j.failed "av_write_trailer" j.av.writeTrailer, s.written, outputs, s.steps, false⟩
  else
    match j.closeOutput s with
    | (s, error) =>
      if error < 0 then
        ⟨.Fail error ("Output flush/close failed: " ++ j.av.strerror error), s.written, outputs,
          s.steps, false⟩
      else ⟨.Ok, s.written, outputs, (j.signalFinished s).steps, false⟩

def copyPackets (outputs : List AVCodecParameters) : Remuxed :=
  match j.packetLoop { locked := j.startLocked } (j.av.packets.drop j.landing) with
  | (s, .failed call ret) => ⟨j.failed call ret, s.written, outputs, s.steps, false⟩
  | (s, .cancelled) =>
    ⟨.Fail AVERROR_ECANCELED "Remux cancelled by caller", s.written, outputs, s.steps, true⟩
  | (s, .ended) => j.finalize outputs s

def RemuxStreamCopy : Remuxed :=
  let av := j.av
  if av.openInput < 0 then { result := j.failed "avformat_open_input" av.openInput }
  else if av.findStreamInfo < 0 then
    { result := j.failed "avformat_find_stream_info" av.findStreamInfo }
  else if av.allocOutputContext.1 < 0 ∨ av.allocOutputContext.2 = false then
    { result := j.failed "avformat_alloc_output_context2"
        (if av.allocOutputContext.1 < 0 then av.allocOutputContext.1 else AVERROR_ENOMEM) }
  else
    match j.mapStreams 0 av.streams with
    | .error (ret, message) => { result := .Fail ret message }
    | .ok outputs =>
      if av.noFile = false ∧ av.avioOpen < 0 then
        { result := j.failed "avio_open" av.avioOpen, outputs := outputs }
      else if av.writeHeader j.opts.extraOpts < 0 then
        { result := j.failed "avformat_write_header" (av.writeHeader j.opts.extraOpts)
          outputs := outputs }
      else if av.packetAlloc = false then
        { result := .Fail AVERROR_ENOMEM "av_packet_alloc failed (out of memory)"
          outputs := outputs }
      else j.copyPackets outputs

end Job

def kMp4Options : RemuxOptions := ⟨"mp4", [("movflags", "+faststart")]⟩

def kMkvOptions : RemuxOptions := ⟨"matroska", []⟩

def RemuxToProgressiveMp4 (av : Libav) (progressCb : Option RemuxProgressCallback)
    (tr : TrimRange := {}) (faults : Option RemuxIoFaults := none) : Job.Remuxed :=
  Job.RemuxStreamCopy ⟨av, progressCb, kMp4Options, tr, faults⟩

def RemuxToMkv (av : Libav) (progressCb : Option RemuxProgressCallback)
    (tr : TrimRange := {}) (faults : Option RemuxIoFaults := none) : Job.Remuxed :=
  Job.RemuxStreamCopy ⟨av, progressCb, kMkvOptions, tr, faults⟩

end Exosnap.Remux
