/-
  Markers of a recording and their sidecar files (`RecordingMarker.h`, `MarkerSidecar.h`,
  `RecordingCoordinator.cpp`, `finalize_segment` of `mux_thread.cpp`).

  A sidecar is modelled as its JSON document. Every write of one succeeds, and so does every move of a
  segment to its published name; sums of media times are taken not to overflow. The fields `startNs`
  and `lengthNs` of a segment and the list `written` are a history that no step reads.
-/
import Exosnap.Split.SegmentPath
import Exosnap.Lib.StepRun
import Mathlib.Data.Rat.Floor
import Mathlib.Logic.Function.Basic

namespace Exosnap.Markers

open Capability (Container)
open Services.Path (splitExtension)
open Split (RecordingName Probe DeriveSegmentPath SegmentName)

/-! ## Markers -/

inductive RecordingMarkerType where
  | general
  | cut
  | highlight
  deriving DecidableEq, Repr

structure RecordingMarker where
  timeMs : Nat
  type : RecordingMarkerType
  label : String
  deriving DecidableEq, Repr

def RecordingMarkerTypeToString : RecordingMarkerType → String
  | .general => "general"
  | .cut => "cut"
  | .highlight => "highlight"

def RecordingMarkerTypeDefaultLabel : RecordingMarkerType → String
  | .general => "Marker"
  | .cut => "Cut"
  | .highlight => "Highlight"

def kMaxRecordingMarkers : Nat := 10000

/-- The markers in the half-open window, in segment-local time. -/
def PartitionSegmentMarkers (sessionMarkers : List RecordingMarker) (startMs durationMs : Nat) :
    List RecordingMarker :=
  (sessionMarkers.filter fun m => !(m.timeMs < startMs || m.timeMs ≥ startMs + durationMs)).map
    fun m => { m with timeMs := m.timeMs - startMs }

/-! ## The format -/

structure MarkerJson where
  /-- `none` when it is not a number. -/
  timeMs : Option ℚ
  type : String
  label : String
  deriving DecidableEq

structure MarkerSidecar where
  media : String
  segmentIndex : Option Nat
  markers : List MarkerJson
  deriving DecidableEq

def SerializeMarkerSidecar (markers : List RecordingMarker) (media : String)
    (segmentIndex : Option Nat) : MarkerSidecar where
  media := media
  segmentIndex := segmentIndex
  markers := markers.map fun m =>
    { timeMs := some m.timeMs, type := RecordingMarkerTypeToString m.type, label := m.label }

def kMaxMarkerTimeMs : Nat := 9007199254740992

def ParseMarkerTimeMs : Option ℚ → Option Nat
  | none => none
  | some ms => if ms < 0 ∨ kMaxMarkerTimeMs < ms then none else some ⌊ms⌋.toNat

def ParseMarkerType (type : String) : RecordingMarkerType :=
  if type = "cut" then .cut else if type = "highlight" then .highlight else .general

/-- A marker whose time is unusable is skipped. -/
def ParseMarkerSidecar (document : MarkerSidecar) : List RecordingMarker :=
  document.markers.filterMap fun m =>
    (ParseMarkerTimeMs m.timeMs).map fun timeMs =>
      { timeMs := timeMs, type := ParseMarkerType m.type, label := m.label }

theorem parseMarkerType_toString (type : RecordingMarkerType) :
    ParseMarkerType (RecordingMarkerTypeToString type) = type := by
  cases type <;> decide

theorem parseMarkerTimeMs_natCast {timeMs : Nat} (h : timeMs ≤ kMaxMarkerTimeMs) :
    ParseMarkerTimeMs (some timeMs) = some timeMs := by
  have hle : (timeMs : ℚ) ≤ kMaxMarkerTimeMs := Nat.cast_le.mpr h
  have hpos : (0 : ℚ) ≤ timeMs := Nat.cast_nonneg timeMs
  rw [ParseMarkerTimeMs, if_neg (by rw [not_or, not_lt, not_lt]; exact ⟨hpos, hle⟩), Int.floor_natCast]
  rfl

/-- Markers whose times the format can carry are read back as they were. -/
theorem parse_serialize {markers : List RecordingMarker} {media : String} {segmentIndex : Option Nat}
    (h : ∀ m ∈ markers, m.timeMs ≤ kMaxMarkerTimeMs) :
    ParseMarkerSidecar (SerializeMarkerSidecar markers media segmentIndex) = markers := by
  rw [ParseMarkerSidecar, SerializeMarkerSidecar, List.filterMap_map]
  refine (List.filterMap_congr (g := some) fun m hm => ?_).trans List.filterMap_some
  simp only [Function.comp_apply, parseMarkerTimeMs_natCast (h m hm), parseMarkerType_toString,
    Option.map_some]

def DeriveMarkerSidecarPath (mediaPath : String) : String :=
  if mediaPath = "" then "" else (splitExtension mediaPath).1 ++ ".markers.json"

/-! ## Segments -/

/-- What the mux has taken down of a segment when it closes it. -/
structure MuxSegment where
  epochSessionPtsNs : Nat
  epochSet : Bool
  maxLocalPtsNs : Nat
  deriving DecidableEq, Repr

structure CompletedSegment where
  path : String
  index : Nat
  sessionStartMs : Nat
  durationMs : Nat
  succeeded : Bool
  startNs : Nat
  lengthNs : Nat
  deriving DecidableEq, Repr

/-- The tail is the last video frame's, when there was one. -/
def localDurationNs (segment : MuxSegment) (frameDurNs : Nat) : Nat :=
  segment.maxLocalPtsNs +
    if segment.maxLocalPtsNs > 0 ∧ segment.epochSet = true then frameDurNs else 0

def finalizeSegment (segment : MuxSegment) (frameDurNs : Nat) (path : String) (index : Nat)
    (ok : Bool) : CompletedSegment where
  path := path
  index := index
  sessionStartMs := segment.epochSessionPtsNs / 1000000
  durationMs := localDurationNs segment frameDurNs / 1000000
  succeeded := ok
  startNs := segment.epochSessionPtsNs
  lengthNs := localDurationNs segment frameDurNs

/-! ## A recording -/

structure Session where
  name : RecordingName
  container : Container
  frameDurNs : Nat
  /-- The state is `Recording` or `Paused`. -/
  accepts : Bool
  lastMediaTimeNs : UInt64
  markers : List RecordingMarker
  segments : List CompletedSegment
  sidecars : String → Option MarkerSidecar
  /-- The segments that lie at their final names. -/
  published : List (CompletedSegment × String)
  /-- The names of the sidecars that were written. -/
  written : List String

namespace Session

def output (s : Session) : String := s.name.output s.container

def artefact (s : Session) : String := s.name.artefact s.container

def ReadMarkerSidecar (sidecars : String → Option MarkerSidecar) (path : String) :
    List RecordingMarker :=
  if path = "" then []
  else
    match sidecars path with
    | some document => ParseMarkerSidecar document
    | none => []

/-- `WriteMarkerSidecar` of the format -/
def writeSidecar (s : Session) (path : String) (document : MarkerSidecar) : Session :=
  if path = "" then s
  else { s with
    sidecars := Function.update s.sidecars path (some document), written := path :: s.written }

def MarkerSidecarPath (s : Session) : String := DeriveMarkerSidecarPath s.output

def WriteMarkerSidecar (s : Session) : Session :=
  s.writeSidecar s.MarkerSidecarPath (SerializeMarkerSidecar s.markers s.output none)

def AddMarker (s : Session) (type : RecordingMarkerType) : Session :=
  if s.accepts then
    if s.markers.length ≥ kMaxRecordingMarkers then s
    else
      WriteMarkerSidecar { s with
        markers := s.markers ++ [{ timeMs := (s.lastMediaTimeNs / 1000000).toNat, type := type
                                   label := RecordingMarkerTypeDefaultLabel type }] }
  else s

def WriteSegmentMarkerSidecar (s : Session) (segment : CompletedSegment) : Session :=
  if s.markers = [] then s
  else
    let markers := PartitionSegmentMarkers s.markers segment.sessionStartMs segment.durationMs
    if markers = [] then s
    else s.writeSidecar (DeriveMarkerSidecarPath segment.path)
      (SerializeMarkerSidecar markers segment.path (some segment.index))

def OnSegmentCompleted (s : Session) (segment : CompletedSegment) : Session :=
  let s' := { s with segments := s.segments ++ [segment] }
  if segment.succeeded then s'.WriteSegmentMarkerSidecar segment else s'

/-- The part of `RecordingThreadProc` that builds the result. -/
def buildResult (s : Session) (succeeded : Bool) : Session :=
  if succeeded ∧ s.markers ≠ [] ∧ ¬ s.segments.length > 1 then s.WriteMarkerSidecar else s

/-- The segment is moved, or remuxed, to its final name. -/
def publish (s : Session) (probe : Probe) (index : Nat) : Option Session :=
  match s.segments[index]?, DeriveSegmentPath probe s.output index with
  | some segment, some file =>
      if s.published.any (·.1.index == index) then none
      else some { s with published := s.published ++ [(segment, file)] }
  | _, _ => none

end Session

inductive Action where
  | stats (videoDurationNs : UInt64)
  | setState (accepts : Bool)
  | addMarker (type : RecordingMarkerType)
  /-- The mux closes the file it has opened under the derived name. -/
  | segmentCompleted (probe : Probe) (segment : MuxSegment) (ok : Bool)
  | buildResult (succeeded : Bool)
  | publish (probe : Probe) (index : Nat)

namespace Session

def step (s : Session) : Action → Option Session
  | .stats videoDurationNs => some { s with lastMediaTimeNs := videoDurationNs }
  | .setState accepts => some { s with accepts := accepts }
  | .addMarker type => some (s.AddMarker type)
  | .segmentCompleted probe segment ok =>
      (DeriveSegmentPath probe s.artefact s.segments.length).map fun path =>
        s.OnSegmentCompleted (finalizeSegment segment s.frameDurNs path s.segments.length ok)
  | .buildResult succeeded => some (s.buildResult succeeded)
  | .publish probe index => s.publish probe index

def exec (s : Session) (as : List Action) : Option Session := StepRun.exec step s as

/-- The recording begins, over whatever sidecars there are. -/
def start (name : RecordingName) (container : Container) (frameDurNs : Nat)
    (sidecars : String → Option MarkerSidecar) : Session where
  name := name
  container := container
  frameDurNs := frameDurNs
  accepts := true
  lastMediaTimeNs := 0
  markers := []
  segments := []
  sidecars := sidecars
  published := []
  written := []

end Session

end Exosnap.Markers
