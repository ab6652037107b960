/-
  A recording in segments (`RecordingCoordinator.cpp`, `mux_thread.cpp`): the engine that closes one
  segment and opens the next, `OnSegmentCompleted` on its thread, the pool that remuxes the segments
  of an MP4 recording one at a time, and the recording thread from the end of `Record()` to the
  posted result.

  A step carries what its environment answers: whether the engine, the remux or the move succeeded,
  the names a probe failed on, the size of what was written. Every write of the manifest succeeds. A
  remux that is cancelled is one that fails, a low-disk stop is an answer of the step that builds the
  result, and after a failure of the engine a callback that is under way runs on. The states, the
  durations and the sizes of segments, which decide nothing here, are left out, and so are the
  staging files of a remux. The fields from `written` on are a history that no step reads.
-/
import Exosnap.Split.SegmentPath
import Exosnap.Lib.StepRun
import Mathlib.Logic.Function.Basic

namespace Exosnap.Split

open Capability (Container)

/-! ## Files -/

inductive Content where
  | foreign
  | mkv (segment : Nat)
  | mp4 (segment : Nat)
  deriving DecidableEq, Repr

structure File where
  content : Content
  bytes : Nat := 0
  deriving DecidableEq, Repr

abbrev Disk := String → Option File

def Disk.probe (disk : Disk) (denied : List String) : Probe := fun name =>
  if name ∈ denied then none else some (disk name).isSome

/-- What a step of the environment answers. -/
structure Answer where
  ok : Bool := true
  /-- The names on which a probe fails. -/
  denied : List String := []
  bytes : Nat := 0

structure RecoveryManifestEntry where
  id : Nat
  artefactPath : String
  finalOutputPath : String
  deriving DecidableEq, Repr

/-! ## The threads -/

structure CompletedSegment where
  path : String
  index : Nat
  succeeded : Bool
  sessionEnd : Bool
  deriving DecidableEq, Repr

/-- Where the engine's mux thread is: at a segment, in `OnSegmentCompleted` for the last one, or
    before it opens the next. -/
inductive Mux where
  | writing (index : Nat) (path : String)
  | push (segment : CompletedSegment)
  | exchange (segment : CompletedSegment)
  | deriveTarget (segment : CompletedSegment)
  | readId (segment : CompletedSegment) (target : Option String)
  | deriveNextMkv (segment : CompletedSegment) (target : Option String) (thisId : Option Nat)
  | deriveNextFinal (segment : CompletedSegment) (target : Option String) (thisId : Option Nat)
      (nextMkv : Option String)
  | addNext (segment : CompletedSegment) (target : Option String) (thisId : Option Nat)
      (nextMkv nextFinal : Option String)
  | schedule (segment : CompletedSegment) (target : Option String) (thisId nextId : Option Nat)
  | reap (segment : CompletedSegment)
  | openNext (index : Nat)
  | closed
  deriving DecidableEq, Repr

inductive JobStage where
  | queued
  | placed
  | cleaned
  | forgotten
  | completed (succeeded : Bool)
  deriving DecidableEq, Repr

def JobStage.isCompleted : JobStage → Bool
  | .completed _ => true
  | _ => false

structure SegmentRemuxJob where
  transientMkv : String
  outputMp4 : String
  manifestId : Option Nat
  stage : JobStage := .queued
  /-- `ReapFinishedSegmentRemuxJobs` has taken its handle. -/
  reaped : Bool := false
  deriving DecidableEq, Repr

structure UiRecordingResult where
  succeeded : Bool
  /-- Of each segment, its index and its `file_path`. -/
  segments : List (Nat × String)
  outputFileBytes : Nat := 0
  deriving DecidableEq, Repr

/-- Where the recording thread is, or the remux thread it has left a single MP4 file to. -/
inductive Recorder where
  | record
  | returned (succeeded : Bool)
  | built (succeeded : Bool) (ui : UiRecordingResult)
  | remux (ui : UiRecordingResult)
  | editMaster (ui : UiRecordingResult)
  | remuxForget (ui : UiRecordingResult)
  | deriveFinal (ui : UiRecordingResult)
  | queueFinal (ui : UiRecordingResult) (segment : CompletedSegment) (target : Option String)
  | drain (ui : UiRecordingResult)
  | rewrite (ui : UiRecordingResult) (done todo : List (Nat × String)) (totalBytes : Nat)
  | publish (ui : UiRecordingResult) (done todo : List (Nat × String))
  | publishWhole (ui : UiRecordingResult)
  | forget (ui : UiRecordingResult)
  | post (ui : UiRecordingResult)
  | posted (ui : UiRecordingResult)
  deriving DecidableEq, Repr

/-! ## The session -/

/-- The file of a segment was made from its artefact: by a remux, or by a move. -/
structure Written where
  segment : Nat
  artefact : String
  file : String
  deriving DecidableEq, Repr

structure Session where
  container : Container
  name : RecordingName
  /-- `output_settings_.container`, which the user may change while the recording is made. -/
  liveContainer : Container
  disk : Disk
  manifest : List RecoveryManifestEntry
  nextId : Nat
  currentManifestId : Option Nat
  mux : Mux
  recorder : Recorder := .record
  splitPending : Bool := false
  /-- `RequestSplit` waits for the engine's answer. -/
  splitAsked : Bool := false
  /-- The engine has recorded a failure. -/
  failed : Bool := false
  segments : List CompletedSegment := []
  /-- The jobs that were queued, in order. -/
  jobs : List SegmentRemuxJob := []
  reapedSegmentRemuxFailed : Bool := false
  written : List Written := []
  /-- The artefacts that a remux has used up. -/
  consumed : List String := []
  /-- The artefacts that a remux was started on after another had used them up. -/
  reread : List String := []
  /-- The entries that were removed. -/
  dropped : List RecoveryManifestEntry := []

namespace Session

def output (s : Session) : String := s.name.output s.container

def artefact (s : Session) : String := s.name.artefact s.container

/-- `segment_remux_jobs_` -/
def segmentRemuxJobs (s : Session) : List SegmentRemuxJob := s.jobs.filter fun job => !job.reaped

def derive (s : Session) (answer : Answer) (base : String) (index : Nat) : Option String :=
  DeriveSegmentPath (s.disk.probe answer.denied) base index

def removeEntry (s : Session) (id : Option Nat) : Session :=
  { s with
    manifest := s.manifest.filter fun entry => some entry.id ≠ id
    dropped := (s.manifest.filter fun entry => some entry.id = id) ++ s.dropped }

/-- A remux reads its artefact. -/
def reads (s : Session) (transientMkv : String) : Session :=
  { s with reread := if transientMkv ∈ s.consumed then transientMkv :: s.reread else s.reread }

/-- The MP4 of the segment is in place, or the remux has failed: it needs the artefact. -/
def place (s : Session) (answer : Answer) (transientMkv outputMp4 : String) : Option Session :=
  match s.disk transientMkv with
  | some ⟨.mkv segment, _⟩ =>
      if answer.ok then
        some { s with
          disk := Function.update s.disk outputMp4 (some ⟨.mp4 segment, answer.bytes⟩)
          written := ⟨segment, transientMkv, outputMp4⟩ :: s.written }
      else none
  | _ => none

def consume (s : Session) (transientMkv : String) : Session :=
  { s with
    disk := Function.update s.disk transientMkv none
    consumed := transientMkv :: s.consumed }

/-! ## The UI thread -/

def splittable : Container → Bool
  | .matroska | .webM => true
  | .mp4 => false

def requestSplit (s : Session) : Session :=
  if s.recorder = .record ∧ splittable s.liveContainer = true ∧ s.splitAsked = false ∧
      s.splitPending = false then
    { s with splitPending := true, splitAsked := true }
  else s

def splitAnswered (s : Session) (answer : Answer) : Session :=
  if s.splitAsked then
    { s with splitAsked := false, splitPending := s.splitPending && answer.ok }
  else s

/-! ## The engine -/

/-- The segment is closed, at a boundary or at the end of the session. -/
def finalize (s : Session) (answer : Answer) (sessionEnd : Bool) : Option Session :=
  match s.recorder, s.mux with
  | .record, .writing index path =>
      some { s with
        disk := Function.update s.disk path (some ⟨.mkv index, answer.bytes⟩)
        failed := s.failed || !answer.ok
        mux := .push { path := path, index := index, succeeded := answer.ok, sessionEnd := sessionEnd } }
  | _, _ => none

/-- `Record()` returns, with success only after the last callback has. -/
def returns (s : Session) (answer : Answer) : Option Session :=
  match s.recorder with
  | .record =>
      if answer.ok = true ∧ (s.failed = true ∨ s.mux ≠ .closed) then none
      else some { s with recorder := .returned answer.ok }
  | _ => none

/-- After the callback for the segment. -/
def afterCallback (segment : CompletedSegment) : Mux :=
  if segment.sessionEnd || !segment.succeeded then .closed else .openNext (segment.index + 1)

/-- `OnSegmentCompleted`, and the next segment opened. -/
def muxStep (s : Session) (answer : Answer) : Option Session :=
  match s.mux with
  | .writing _ _ => none
  | .push segment =>
      some { s with segments := s.segments ++ [segment], mux := .exchange segment }
  | .exchange segment =>
      some { s with
        splitPending := false
        mux :=
          if !segment.sessionEnd && s.splitPending && segment.succeeded && s.container == .mp4 then
            .deriveTarget segment
          else afterCallback segment }
  | .deriveTarget segment =>
      some { s with mux := .readId segment (s.derive answer s.output segment.index) }
  | .readId segment target =>
      some { s with mux := .deriveNextMkv segment target s.currentManifestId }
  | .deriveNextMkv segment target thisId =>
      some { s with
        mux := .deriveNextFinal segment target thisId (s.derive answer s.artefact (segment.index + 1)) }
  | .deriveNextFinal segment target thisId nextMkv =>
      some { s with
        mux := .addNext segment target thisId nextMkv (s.derive answer s.output (segment.index + 1)) }
  | .addNext segment target thisId nextMkv nextFinal =>
      match nextMkv, nextFinal with
      | some artefactPath, some finalOutputPath =>
          some { s with
            manifest := ⟨s.nextId, artefactPath, finalOutputPath⟩ :: s.manifest
            nextId := s.nextId + 1
            mux := .schedule segment target thisId (some s.nextId) }
      | _, _ => some { s with mux := .schedule segment target thisId none }
  | .schedule segment target thisId nextId =>
      some { s with
        currentManifestId := nextId
        jobs := s.jobs ++ (target.map fun outputMp4 =>
          { transientMkv := segment.path, outputMp4 := outputMp4, manifestId := thisId }).toList
        mux := .reap segment }
  | .reap segment =>
      some { s with
        reapedSegmentRemuxFailed := s.reapedSegmentRemuxFailed ||
          s.segmentRemuxJobs.any (·.stage == .completed false)
        jobs := s.jobs.map fun job => { job with reaped := job.reaped || job.stage.isCompleted }
        mux := afterCallback segment }
  | .openNext index =>
      match s.recorder, s.derive answer s.artefact index with
      | .record, some path =>
          if answer.ok then
            some { s with
              disk := Function.update s.disk path (some ⟨.mkv index, 0⟩)
              mux := .writing index path }
          else some { s with failed := true, mux := .closed }
      | _, _ => some { s with failed := true, mux := .closed }
  | .closed => none

/-! ## The pool -/

/-- The jobs that are done, the one the pool is at, and those that wait for it. -/
def nextJob : List SegmentRemuxJob →
    Option (List SegmentRemuxJob × SegmentRemuxJob × List SegmentRemuxJob)
  | [] => none
  | job :: rest =>
      if job.stage.isCompleted then
        (nextJob rest).map fun (done, next, waiting) => (job :: done, next, waiting)
      else some ([], job, rest)

/-- `RunSegmentRemuxWork` -/
def runJob (s : Session) (job : SegmentRemuxJob) (answer : Answer) : Session × JobStage :=
  match job.stage with
  | .queued =>
      match (s.reads job.transientMkv).place answer job.transientMkv job.outputMp4 with
      | some s' => (s', .placed)
      | none => (s.reads job.transientMkv, .completed false)
  | .placed => (if answer.ok then s.consume job.transientMkv else s, .cleaned)
  | .cleaned => (s.removeEntry job.manifestId, .forgotten)
  | .forgotten => (s, .completed true)
  | .completed succeeded => (s, .completed succeeded)

def poolStep (s : Session) (answer : Answer) : Option Session :=
  (nextJob s.jobs).map fun (done, job, waiting) =>
    let (s', stage) := s.runJob job answer
    { s' with jobs := done ++ { job with stage := stage } :: waiting }

/-! ## The recording thread -/

def fail (ui : UiRecordingResult) : UiRecordingResult := { ui with succeeded := false }

/-- The loop that gives each segment of a split MP4 recording its file and adds up their sizes. -/
def rewriteStep (s : Session) (answer : Answer) (ui : UiRecordingResult) (done : List (Nat × String))
    (totalBytes : Nat) : List (Nat × String) → Recorder
  | [] => .post { ui with segments := done, outputFileBytes := totalBytes }
  | (index, path) :: todo =>
      match s.derive answer s.output index with
      | some file =>
          .rewrite ui (done ++ [(index, file)]) todo
            (totalBytes + ((s.disk file).map File.bytes).getD 0)
      | none => .rewrite ui (done ++ [(index, path)]) todo totalBytes

/-- `AtomicReplaceInPlace` -/
def publishFile (s : Session) (answer : Answer) (index : Nat) (path file : String) : Option Session :=
  match s.disk path with
  | some content =>
      if answer.ok then
        some { s with
          disk := Function.update (Function.update s.disk path none) file (some content)
          written := ⟨index, path, file⟩ :: s.written }
      else none
  | none => none

/-- The loop that publishes the segments of a Matroska or WebM recording, and ends at the first one
    it cannot. -/
def publishStep (s : Session) (answer : Answer) (ui : UiRecordingResult)
    (done : List (Nat × String)) : List (Nat × String) → Session
  | [] => { s with recorder := .forget { ui with segments := done } }
  | (index, path) :: todo =>
      match s.derive answer s.output index with
      | none => { s with recorder := .forget { ui with segments := done ++ (index, path) :: todo } }
      | some file =>
          match s.publishFile answer index path file with
          | some s' => { s' with recorder := .publish ui (done ++ [(index, file)]) todo }
          | none =>
              { s with recorder := .forget (fail { ui with segments := done ++ (index, path) :: todo }) }

/-- The last segment becomes the last job, with the current entry. -/
def queueFinal (s : Session) (segment : CompletedSegment) (target : Option String) : Session :=
  { s with
    jobs := s.jobs ++ (target.map fun outputMp4 =>
      { transientMkv := segment.path, outputMp4 := outputMp4, manifestId := s.currentManifestId }).toList
    currentManifestId := none }

def recorderStep (s : Session) (answer : Answer) : Option Session :=
  match s.recorder with
  | .record | .posted _ => none
  | .returned succeeded =>
      some { s with
        splitPending := false
        recorder := .built succeeded
          { succeeded := succeeded && answer.ok, segments := s.segments.map fun g => (g.index, g.path) } }
  | .built succeeded ui =>
      some { s with
        recorder :=
          if !succeeded then .forget ui
          else if s.container = .mp4 then
            if s.segmentRemuxJobs.isEmpty then .remux ui else .deriveFinal ui
          else if ui.segments.isEmpty then .publishWhole ui
          else .publish ui [] ui.segments }
  | .remux ui =>
      match (s.reads s.artefact).place answer s.artefact s.output with
      | some s' => some { s' with recorder := .editMaster ui }
      | none =>
          some { s.reads s.artefact with currentManifestId := none, recorder := .post (fail ui) }
  | .editMaster ui =>
      let s' := s.consume s.artefact
      some { s' with
        disk :=
          if answer.ok then Function.update s'.disk (s.output ++ ".edit.mkv") (s.disk s.artefact)
          else s'.disk
        recorder := .remuxForget { ui with outputFileBytes := ((s.disk s.output).map File.bytes).getD 0 } }
  | .remuxForget ui =>
      some { s.removeEntry s.currentManifestId with currentManifestId := none, recorder := .post ui }
  | .deriveFinal ui =>
      match s.segments.getLast? with
      | some segment =>
          if segment.succeeded then
            some { s with
              recorder := .queueFinal ui segment (s.derive answer s.output segment.index) }
          else some { s with currentManifestId := none, recorder := .drain ui }
      | none => some { s with currentManifestId := none, recorder := .drain ui }
  | .queueFinal ui segment target => some { s.queueFinal segment target with recorder := .drain ui }
  | .drain ui =>
      if s.jobs.all (·.stage.isCompleted) then
        some { s with
          recorder :=
            if !s.reapedSegmentRemuxFailed &&
                s.segmentRemuxJobs.all (·.stage == .completed true) then
              .rewrite ui [] ui.segments 0
            else .post (fail ui) }
      else none
  | .rewrite ui done todo totalBytes =>
      some { s with recorder := s.rewriteStep answer ui done totalBytes todo }
  | .publish ui done todo => some (s.publishStep answer ui done todo)
  | .publishWhole ui =>
      match s.publishFile answer 0 s.artefact s.output with
      | some s' => some { s' with recorder := .forget ui }
      | none => some { s with recorder := .forget (fail ui) }
  | .forget ui =>
      if ui.succeeded then
        some { s.removeEntry s.currentManifestId with currentManifestId := none, recorder := .post ui }
      else some { s with currentManifestId := none, recorder := .post ui }
  | .post ui => some { s with recorder := .posted ui }

end Session

/-! ## Runs -/

inductive Action where
  /-- The container is changed in the settings. -/
  | setContainer (container : Container)
  | requestSplit
  | splitAnswered (answer : Answer)
  /-- The engine ends a segment on its own, or where it was asked to. -/
  | boundary (answer : Answer)
  | stop (answer : Answer)
  | mux (answer : Answer)
  | returns (answer : Answer)
  | pool (answer : Answer)
  | recorder (answer : Answer)

namespace Session

def step (s : Session) : Action → Option Session
  | .setContainer container => some { s with liveContainer := container }
  | .requestSplit => some s.requestSplit
  | .splitAnswered answer => some (s.splitAnswered answer)
  | .boundary answer => s.finalize answer false
  | .stop answer => s.finalize answer true
  | .mux answer => s.muxStep answer
  | .returns answer => s.returns answer
  | .pool answer => s.poolStep answer
  | .recorder answer => s.recorderStep answer

def exec (s : Session) (as : List Action) : Option Session := StepRun.exec step s as

/-- The engine is started: the file it writes to and its entry have been made, over whatever files
    and entries there were. -/
def start (container : Container) (name : RecordingName) (disk : Disk)
    (manifest : List RecoveryManifestEntry) (id : Nat) : Session where
  container := container
  name := name
  liveContainer := container
  disk := Function.update disk (name.artefact container) (some ⟨.mkv 0, 0⟩)
  manifest := ⟨id, name.artefact container, name.output container⟩ :: manifest
  nextId := id + 1
  currentManifestId := some id
  mux := .writing 0 (name.artefact container)

/-- Neither the output nor the file the engine writes to was there, and the id is new. -/
def Starts (disk : Disk) (s : Session) : Prop :=
  ∃ container name manifest id, disk (name.output container) = none ∧
    disk (name.artefact container) = none ∧ (∀ entry ∈ manifest, entry.id < id) ∧
    s = start container name disk manifest id

end Session

end Exosnap.Split
