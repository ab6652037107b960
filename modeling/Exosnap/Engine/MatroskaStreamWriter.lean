/-
  `matroska_stream_writer.cpp`: the incremental Matroska writer, from `Open` over `Push` to
  `Finalize`.

  What is kept is what decides which block lands where: the reorder window, the cluster
  boundaries, the pending cues, the flags that stop a failed or finalized writer, and the
  error texts. The bytes libmatroska renders are not kept: a rendered cluster is its start
  time and its blocks, in file order (`Writer.clusters`).

  The output file is a parameter (`OutputIo`). Every step of the source that can throw or
  report a stream failure asks it once, in program order.
-/
import Mathlib.Data.List.DropRight
import Exosnap.Lib.StableInsert

namespace Exosnap.Engine

/-- Timecode scale: 1 ms per unit. -/
def kTimecodeScaleNs : UInt64 := 1000000

/-- A new cluster starts at a video keyframe once this much has elapsed. -/
def kClusterBoundaryMs : UInt64 := 2000

/-- Largest relative timecode inside a cluster. -/
def kMaxClusterRelativeMs : Int64 := 32767

def kContentLightLevelCeiling : UInt64 := 0xFFFF

def clampContentLightLevel (nits : UInt32) : UInt64 :=
  if kContentLightLevelCeiling < nits.toUInt64 then kContentLightLevelCeiling else nits.toUInt64

/-- `trackNum`: 1 is the video track, 2 + n is audio track n. -/
structure MuxPacket where
  ptsNs : UInt64 := 0
  trackNum : UInt64 := 0
  isKey : Bool := false
  bytes : List UInt8 := []
  deriving DecidableEq, Repr

/-- The order the reorder window keeps. -/
def MuxPacket.Precedes (a b : MuxPacket) : Prop := a.ptsNs ≤ b.ptsNs

instance : DecidableRel MuxPacket.Precedes :=
  fun a b => inferInstanceAs (Decidable (a.ptsNs ≤ b.ptsNs))

inductive StreamAudioCodec where
  | aac
  | opus
  | pcm
  | flac
  deriving DecidableEq, Repr

structure StreamAudioTrack where
  codecPrivate : List UInt8 := []
  deriving DecidableEq, Repr

/-- `audioTracks` is the first `audio_track_count` entries of the source's array. -/
structure MatroskaStreamConfig where
  videoCodecId : String := ""
  frameRateNum : UInt32 := 0
  frameRateDen : UInt32 := 0
  /-- `color.hdr` -/
  hdr : Bool := false
  reserveContentLightLevel : Bool := false
  webm : Bool := false
  audioCodec : StreamAudioCodec := .aac
  audioTracks : List StreamAudioTrack := []
  reorderWindowNs : UInt64 := 3 * 1000000000
  reorderWindowMaxPackets : Nat := 4096
  deriving DecidableEq, Repr

/-- The answers of the output file. `fails n` is the reason the n-th step that can fail gives
    when it does; a durability flush that is not due counts as one that succeeds.
    `clusterPosition n` is `KaxCluster::GetPosition` of the n-th rendered cluster. -/
structure OutputIo where
  fails : Nat → Option String
  clusterPosition : Nat → UInt64

/-- A `KaxSimpleBlock`, with the index of its track entry. -/
structure SimpleBlock where
  trackEntry : Nat
  ptsNs : UInt64
  isKey : Bool
  bytes : List UInt8
  deriving DecidableEq, Repr

structure Cluster where
  startMs : UInt64
  blocks : List SimpleBlock
  deriving DecidableEq, Repr

structure CuePoint where
  timeMs : UInt64
  clusterPosition : UInt64
  deriving DecidableEq, Repr

/-- What `Finalize` writes behind and into the streamed file. -/
structure Trailer where
  cues : List CuePoint
  durationMs : UInt64
  contentLightLevels : Option (UInt64 × UInt64)
  deriving DecidableEq, Repr

/-- `MatroskaStreamWriter`. A window entry has the fields of the packet it was pushed as. -/
structure Writer where
  config : MatroskaStreamConfig := {}
  /-- `m_io != nullptr` -/
  ioOpen : Bool := false
  ioCount : Nat := 0
  /-- `m_track_entries.size()` -/
  trackEntries : Nat := 0
  /-- The two reserved content-light leaves exist. -/
  contentLightReserved : Bool := false
  measuredMaxCll : UInt32 := 0
  measuredMaxFall : UInt32 := 0
  window : List MuxPacket := []
  maxPushedPtsNs : UInt64 := 0
  cluster : Option Cluster := none
  firstCluster : Bool := true
  clusterStartMs : UInt64 := 0
  pendingCueMs : List UInt64 := []
  maxEmittedPtsNs : UInt64 := 0
  opened : Bool := false
  finalized : Bool := false
  failed : Bool := false
  error : String := ""
  peakWindowPackets : Nat := 0
  peakWindowBytes : Nat := 0
  curWindowBytes : Nat := 0
  flushCount : Nat := 0
  cues : List CuePoint := []
  /-- The clusters rendered into the file, in file order. -/
  clusters : List Cluster := []
  trailer : Option Trailer := none
  deriving DecidableEq, Repr

namespace Writer

/-! ## Failing -/

/-- The first reason sticks. -/
def fail (w : Writer) (reason : String) : Writer :=
  if w.failed then w else { w with failed := true, error := reason }

/-- One step that can fail. -/
def ioStep (io : OutputIo) (w : Writer) : Option String × Writer :=
  (io.fails w.ioCount, { w with ioCount := w.ioCount + 1 })

def closeIo (io : OutputIo) (w : Writer) : Writer :=
  if w.ioOpen then
    match w.ioStep io with
    | (none, w) => { w with ioOpen := false }
    | (some what, w) => { w.fail what with ioOpen := false }
  else w

/-! ## Open -/

/-- The CodecPrivate check of one audio track's header. -/
def trackHeaderError (codec : StreamAudioCodec) (slot : List UInt8) : Option String :=
  match codec with
  | .opus =>
      if slot.length < 19 then
        some "Opus CodecPrivate is incomplete; expected full 19-byte OpusHead"
      else none
  | .flac =>
      if slot.take 4 ≠ [0x66, 0x4C, 0x61, 0x43] then
        some "FLAC CodecPrivate is missing or malformed; expected native 'fLaC' header"
      else none
  | .pcm => none
  | .aac => none

/-- The WebM allow-list, checked before anything is rendered. -/
def webmError (cfg : MatroskaStreamConfig) : Option String :=
  if cfg.webm && (cfg.videoCodecId != "V_AV1" || cfg.audioCodec == .aac || cfg.audioCodec == .pcm
      || cfg.audioCodec == .flac) then
    some "WebM permits only AV1 video with Opus audio in this recorder"
  else none

/-- `Open`: the file, the preamble up to the Info element, the track headers. -/
def openFile (io : OutputIo) (w : Writer) (cfg : MatroskaStreamConfig) : Writer × Bool :=
  if w.opened then (w.fail "MatroskaStreamWriter::Open called twice", false)
  else
    match { w with config := cfg, opened := true }.ioStep io with
    | (some what, w) => (w.fail ("DurableFileIo::open failed: " ++ what), false)
    | (none, w) =>
      let w := { w with ioOpen := true }
      match webmError cfg with
      | some reason => ((w.fail reason).closeIo io, false)
      | none =>
        match w.ioStep io with
        | (some what, w) =>
            ((w.fail ("MatroskaStreamWriter::Open render failed: " ++ what)).closeIo io, false)
        | (none, w) =>
          let w := { w with contentLightReserved := cfg.hdr && cfg.reserveContentLightLevel }
          match cfg.audioTracks.findSome? fun t => trackHeaderError cfg.audioCodec t.codecPrivate with
          | some reason => ((w.fail reason).closeIo io, false)
          | none =>
            match w.ioStep io with
            | (some what, w) =>
                ((w.fail ("MatroskaStreamWriter::Open render failed: " ++ what)).closeIo io, false)
            | (none, w) => ({ w with trackEntries := 1 + cfg.audioTracks.length }, true)

/-! ## Clusters -/

/-- `FlushCluster`. The steps that can fail are the render and the flush behind it. -/
def flushCluster (io : OutputIo) (w : Writer) : Writer × Bool :=
  match w.cluster with
  | none => (w, true)
  | some c =>
    match w.ioStep io with
    | (some what, w) =>
        ({ w.fail ("MatroskaStreamWriter::FlushCluster failed: " ++ what) with cluster := none },
          false)
    | (none, w) =>
      let clusterRel := io.clusterPosition w.flushCount
      let w := { w with
        flushCount := w.flushCount + 1
        clusters := w.clusters ++ [c]
        cues := w.cues ++ w.pendingCueMs.map (CuePoint.mk · clusterRel)
        pendingCueMs := []
        cluster := none }
      match w.ioStep io with
      | (some reason, w) => (w.fail reason, false)
      | (none, w) => (w, true)

/-- The track entry a packet's number stands for. The index is computed in 32 bits. -/
def resolveTrack (trackEntries : Nat) (trackNum : UInt64) : Option Nat :=
  if trackNum = 0 then none
  else if trackNum = 1 then some 0
  else
    let entryIdx : UInt32 := (trackNum - 2).toUInt32 + 1
    if trackEntries ≤ entryIdx.toNat then none else some entryIdx.toNat

def needNewCluster (w : Writer) (e : MuxPacket) (pktMs : UInt64) : Bool :=
  w.firstCluster ||
    (w.cluster.isSome &&
      let relMs := pktMs.toInt64 - w.clusterStartMs.toInt64
      (decide (kMaxClusterRelativeMs < relMs) ||
        (e.isKey && e.trackNum == 1 && decide (kClusterBoundaryMs ≤ pktMs - w.clusterStartMs))))

/-- Appends a resolved packet to the open cluster. -/
def addBlock (w : Writer) (e : MuxPacket) (trackEntry : Nat) (pktMs : UInt64) : Writer :=
  { w with
    cluster := w.cluster.map fun c =>
      { c with blocks := c.blocks ++ [⟨trackEntry, e.ptsNs, e.isKey, e.bytes⟩] }
    pendingCueMs := if e.isKey && e.trackNum == 1 then w.pendingCueMs ++ [pktMs] else w.pendingCueMs
    maxEmittedPtsNs := if w.maxEmittedPtsNs < e.ptsNs then e.ptsNs else w.maxEmittedPtsNs }

/-- `EmitPacket`: packets of no track are skipped. -/
def emitPacket (io : OutputIo) (w : Writer) (e : MuxPacket) : Writer × Bool :=
  match resolveTrack w.trackEntries e.trackNum with
  | none => (w, true)
  | some trackEntry =>
    let pktMs := e.ptsNs / kTimecodeScaleNs
    if w.needNewCluster e pktMs then
      match w.flushCluster io with
      | (w, false) => (w, false)
      | (w, true) =>
        let w := { w with firstCluster := false, clusterStartMs := pktMs, cluster := some ⟨pktMs, []⟩ }
        (w.addBlock e trackEntry pktMs, true)
    else (w.addBlock e trackEntry pktMs, true)

/-! ## The reorder window -/

/-- The loop of `DrainWindow` over the window's entries, oldest first. -/
def drainFrom (io : OutputIo) (force : Bool) : Writer → List MuxPacket → Writer × Bool
  | w, [] => ({ w with window := [] }, true)
  | w, front :: rest =>
    let behindHorizon := decide (front.ptsNs + w.config.reorderWindowNs ≤ w.maxPushedPtsNs)
    let overCapacity := decide (w.config.reorderWindowMaxPackets < (front :: rest).length)
    if !force && !behindHorizon && !overCapacity then ({ w with window := front :: rest }, true)
    else
      match w.emitPacket io front with
      | (w, false) => ({ w with window := front :: rest }, false)
      | (w, true) =>
          drainFrom io force { w with curWindowBytes := w.curWindowBytes - front.bytes.length } rest

def drainWindow (io : OutputIo) (force : Bool) (w : Writer) : Writer × Bool :=
  w.drainFrom io force w.window

/-- `Push` up to the drain: the insertion scan and the peaks. -/
def enqueue (w : Writer) (e : MuxPacket) : Writer :=
  let window := StableInsert.insertFromBack MuxPacket.Precedes e w.window
  let curWindowBytes := w.curWindowBytes + e.bytes.length
  { w with
    maxPushedPtsNs := if w.maxPushedPtsNs < e.ptsNs then e.ptsNs else w.maxPushedPtsNs
    curWindowBytes := curWindowBytes
    window := window
    peakWindowPackets := max w.peakWindowPackets window.length
    peakWindowBytes := max w.peakWindowBytes curWindowBytes }

def push (io : OutputIo) (w : Writer) (packet : MuxPacket) : Writer × Bool :=
  if w.failed || !w.opened || w.finalized then (w, false)
  else if packet.bytes.isEmpty then (w, true)
  else (w.enqueue packet).drainWindow io false

def setContentLightLevels (w : Writer) (maxCllNits maxFallNits : UInt32) : Writer :=
  { w with measuredMaxCll := maxCllNits, measuredMaxFall := maxFallNits }

/-! ## Finalize -/

def lastFrameNs (cfg : MatroskaStreamConfig) : UInt64 :=
  if 0 < cfg.frameRateNum ∧ 0 < cfg.frameRateDen then
    cfg.frameRateDen.toUInt64 * 1000000000 / cfg.frameRateNum.toUInt64
  else 0

def trailerOf (w : Writer) : Trailer where
  cues := w.cues
  durationMs := (w.maxEmittedPtsNs + lastFrameNs w.config) / kTimecodeScaleNs
  contentLightLevels :=
    if w.contentLightReserved then
      some (clampContentLightLevel w.measuredMaxCll, clampContentLightLevel w.measuredMaxFall)
    else none

/-- The cues and the back-patches. -/
def writeTrailer (io : OutputIo) (w : Writer) : Writer × Bool :=
  match w.ioStep io with
  | (some what, w) => (w.fail ("MatroskaStreamWriter::Finalize failed: " ++ what), false)
  | (none, w) => ({ w with trailer := some w.trailerOf }, true)

/-- The last CRT flush. -/
def finalFlush (io : OutputIo) (w : Writer) : Writer :=
  if w.ioOpen then
    match w.ioStep io with
    | (some reason, w) => w.fail reason
    | (none, w) => w
  else w

/-- Runs the next phase of `Finalize` unless an earlier one failed. -/
def andThen (r : Writer × Bool) (phase : Writer → Writer × Bool) : Writer × Bool :=
  if r.2 then phase r.1 else r

def finalize (io : OutputIo) (w : Writer) : Writer × Bool :=
  if !w.opened || w.finalized then (w, !w.failed)
  else
    let start := { w with finalized := true }
    let drained := andThen (start, !w.failed) (drainWindow io true)
    let flushed := andThen drained (flushCluster io)
    let r := andThen flushed (writeTrailer io)
    let w := (r.1.finalFlush io).closeIo io
    (w, r.2 && !w.failed)

/-- The writer after the packets are pushed in order. -/
def pushAll (io : OutputIo) (w : Writer) (packets : List MuxPacket) : Writer :=
  packets.foldl (fun w p => (w.push io p).1) w

/-- The blocks in the file, in file order. -/
def writtenBlocks (w : Writer) : List SimpleBlock := w.clusters.flatMap Cluster.blocks

/-- The blocks emitted so far: those in the file and those of the open cluster. -/
def emittedBlocks (w : Writer) : List SimpleBlock :=
  w.writtenBlocks ++ w.cluster.elim [] Cluster.blocks

end Writer

end Exosnap.Engine
