/-
  The disk monitor of an MP4 recording (`StartDiskMonitor`, `PendingRemuxReserveBytes`): a poll that
  reads one file's size and then, under the lock of the remux jobs, the sizes of theirs.

  The engine writes to the segment that is open between any two steps. A poll's step that sums up is
  one step, and keeps the session it was made in as a history. The free space it is compared with is
  an answer; the warning about a volume that cannot be queried is left out.
-/
import Exosnap.Split.SegmentsExported
import Mathlib.Data.List.Dedup
import Mathlib.Algebra.GroupWithZero.Nat

namespace Exosnap.Split

open Capability (Container)

def kHardStopFreeBytes : Nat := 500 * 1024 * 1024

def ComputeHardStopThreshold (remuxReserveBytes : Nat) : Nat := kHardStopFreeBytes + remuxReserveBytes

/-- `file_size`, and nothing for a file that is not there. -/
def fileBytes (disk : Disk) (path : String) : Nat := ((disk path).map File.bytes).getD 0

namespace Session

def PendingRemuxReserveBytes (s : Session) : Nat :=
  ((s.segmentRemuxJobs.filter fun job => !job.stage.isCompleted).map fun job =>
    fileBytes s.disk job.transientMkv).sum

/-- The engine has written to the segment that is open. -/
def grow (s : Session) (bytes : Nat) : Option Session :=
  match s.mux with
  | .writing index path =>
      some { s with disk := Function.update s.disk path (some ⟨.mkv index, bytes⟩) }
  | _ => none

end Session

/-- Where the monitor is in its loop. -/
inductive MonitorStage where
  | waiting
  | summing (liveBytes : Nat)
  | stopped
  deriving DecidableEq

/-- A poll: what it read first, what came out, and the session it was made in. -/
structure Poll where
  liveBytes : Nat
  reserve : Nat
  session : Session

structure Monitored where
  session : Session
  /-- The artefact's path when the recording was started. -/
  transientMkv : String
  stage : MonitorStage := .waiting
  polls : List Poll := []

inductive MonitorAction where
  | session (action : Action)
  | grow (bytes : Nat)
  | pollLive
  | pollJobs (freeBytes : Nat)

namespace Monitored

def remuxReserve (s : Session) (liveBytes : Nat) : Nat :=
  if s.container = .mp4 then liveBytes + s.PendingRemuxReserveBytes else 0

def step (m : Monitored) : MonitorAction → Option Monitored
  | .session action => (m.session.step action).map fun s => { m with session := s }
  | .grow bytes => (m.session.grow bytes).map fun s => { m with session := s }
  | .pollLive =>
      if m.stage = .waiting ∧ m.session.recorder = .record then
        some { m with stage := .summing (fileBytes m.session.disk m.transientMkv) }
      else none
  | .pollJobs freeBytes =>
      match m.stage with
      | .summing liveBytes =>
          let reserve := remuxReserve m.session liveBytes
          some { m with
            polls := ⟨liveBytes, reserve, m.session⟩ :: m.polls
            stage :=
              if freeBytes ≤ ComputeHardStopThreshold reserve then .stopped else .waiting }
      | _ => none

def exec (m : Monitored) (as : List MonitorAction) : Option Monitored := StepRun.exec step m as

def start (s : Session) : Monitored where
  session := s
  transientMkv := s.artefact

end Monitored

/-! ## What is owed -/

/-- A segment was closed and no job is queued for it. -/
def unqueued (jobs : List SegmentRemuxJob) (g : CompletedSegment) : Bool :=
  g.succeeded && jobs.all (·.transientMkv != g.path)

namespace Session

/-- The artefact that the engine writes, or has closed and not handed to a job yet. -/
def inHand (s : Session) : Option String :=
  match s.mux with
  | .writing _ path => some path
  | .push g | .exchange g | .deriveTarget g | .readId g _ | .deriveNextMkv g _ _
  | .deriveNextFinal g _ _ _ | .addNext g _ _ _ _ | .schedule g _ _ _ => some g.path
  | .reap _ | .openNext _ => none
  | .closed => (s.segments.getLast?.filter (unqueued s.jobs)).map CompletedSegment.path

/-- The jobs that are queued or run. -/
def openJobs (s : Session) : List SegmentRemuxJob := s.jobs.filter fun job => !job.stage.isCompleted

/-- The sizes of the artefacts that will still be copied, each once. -/
def owedBytes (s : Session) : Nat :=
  ((s.inHand.toList ++ s.openJobs.map SegmentRemuxJob.transientMkv).dedup.map
    (fileBytes s.disk)).sum

def inHandBytes (s : Session) : Nat := (s.inHand.map (fileBytes s.disk)).getD 0

/-! ## The jobs of a run -/

/-- What holds of the jobs in every state a run reaches. -/
structure Queued (s : Session) : Prop where
  reaped : ∀ job ∈ s.jobs, job.reaped = true → job.stage.isCompleted = true
  own : ∀ job ∈ s.jobs, ∃ g ∈ s.segments, job.transientMkv = g.path ∧
    (s.recorder.final = false → g.continues = true)
  distinct : (s.jobs.map SegmentRemuxJob.transientMkv).Nodup
  unscheduled : ∀ g ∈ s.mux.unscheduled, ∀ job ∈ s.jobs, job.transientMkv ≠ g.path
  last : ∀ ui g target, s.recorder = .queueFinal ui g target → s.segments.getLast? = some g

theorem queued_start {disk : Disk} {s : Session} (h : Starts disk s) : s.Queued := by
  obtain ⟨container, name, manifest, id, -, -, -, rfl⟩ := h
  exact ⟨nofun, nofun, List.nodup_nil, nofun, nofun⟩

section
variable {s s' : Session} {answer : Answer}

/-- A job is of a segment that was closed before the one in the engine's hands. -/
theorem Queued.ne_of_index (h : s.Queued) (hseg : s.Segments) {path : String}
    (hname : SegmentName s.artefact s.segments.length path) {job : SegmentRemuxJob}
    (hjob : job ∈ s.jobs) : job.transientMkv ≠ path := by
  intro hpath
  obtain ⟨g, hg, hjobPath, -⟩ := h.own job hjob
  have hindex := hseg.index_of_path hg ((hjobPath.symm.trans hpath) ▸ hname)
  exact absurd (hindex ▸ hseg.index_lt hg) (Nat.lt_irrefl _)

/-- A step that leaves the jobs and the segments alone. -/
theorem Queued.frame (h : s.Queued) (hjobs : s'.jobs = s.jobs) (hsegments : s'.segments = s.segments)
    (hmux : ∀ g ∈ s'.mux.unscheduled, g ∈ s.mux.unscheduled)
    (hfinal : s'.recorder.final = false → s.recorder.final = false)
    (hlast : ∀ ui g target, s'.recorder = .queueFinal ui g target →
      s.segments.getLast? = some g) : s'.Queued where
  reaped := by rw [hjobs]; exact h.reaped
  own := by
    rw [hjobs, hsegments]
    intro job hjob
    obtain ⟨g, hg, hpath, hgoes⟩ := h.own job hjob
    exact ⟨g, hg, hpath, fun hno => hgoes (hfinal hno)⟩
  distinct := by rw [hjobs]; exact h.distinct
  unscheduled := by rw [hjobs]; exact fun g hg => h.unscheduled g (hmux g hg)
  last := by rw [hsegments]; exact hlast

theorem Queued.frameMux (h : s.Queued) (hjobs : s'.jobs = s.jobs)
    (hsegments : s'.segments = s.segments) (hrecorder : s'.recorder = s.recorder)
    (hmux : ∀ g ∈ s'.mux.unscheduled, g ∈ s.mux.unscheduled) : s'.Queued :=
  h.frame hjobs hsegments hmux (fun hno => hrecorder ▸ hno) (by rw [hrecorder]; exact h.last)

theorem queued_mux (h : s.Queued) (hseg : s.Segments) (hs : s.muxStep answer = some s') :
    s'.Queued := by
  unfold muxStep at hs
  cases hmux : s.mux with rw [hmux] at hs
  | writing | closed => cases hs
  | push g =>
    obtain rfl := Option.some.inj hs
    obtain ⟨hindex, hname⟩ := hseg.opened (g.index, g.path) (by rw [hmux]; rfl)
    refine ⟨h.reaped, fun job hjob => ?_, h.distinct, ?_, fun ui g' target hrec => ?_⟩
    · obtain ⟨g', hg', heq⟩ := h.own job hjob
      exact ⟨g', List.mem_append_left _ hg', heq⟩
    · rintro _ ⟨⟩ job hjob
      exact h.ne_of_index hseg (hindex ▸ hname) hjob
    · -- the last callback is over when the recording thread comes there
      have hclosed := (hseg.ended (show s.recorder.engineSucceeded = true by rw [hrec]; rfl)).1
      rw [hmux] at hclosed
      cases hclosed
  | exchange g =>
    obtain rfl := Option.some.inj hs
    refine h.frameMux rfl rfl rfl fun g' hg' => ?_
    rw [hmux]
    dsimp only at hg'
    split at hg'
    · exact hg'
    · rw [afterCallback] at hg'
      split at hg' <;> cases hg'
  | deriveTarget | readId | deriveNextMkv | deriveNextFinal =>
    obtain rfl := Option.some.inj hs
    exact h.frameMux rfl rfl rfl fun g' hg' => by rw [hmux]; exact hg'
  | addNext =>
    dsimp only at hs
    split at hs <;> obtain rfl := Option.some.inj hs <;>
      exact h.frameMux rfl rfl rfl fun g' hg' => by rw [hmux]; exact hg'
  | schedule g target thisId nextId =>
    obtain rfl := Option.some.inj hs
    have hnew := h.unscheduled g (by rw [hmux]; rfl)
    have hlast := hseg.last g (by rw [hmux]; rfl)
    have hcontinues := hseg.scheduling (by rw [hmux]; rfl) g (by rw [hmux]; rfl)
    cases target with
    | none =>
      rw [Option.map_none, Option.toList_none, List.append_nil]
      exact h.frameMux rfl rfl rfl (by intros; contradiction)
    | some outputMp4 =>
      refine ⟨fun job hjob hreaped => ?_, fun job hjob => ?_, ?_, (by intros; contradiction), h.last⟩
      · rcases List.mem_append.mp hjob with hjob | hjob
        · exact h.reaped job hjob hreaped
        · rw [List.mem_singleton.mp hjob] at hreaped
          cases hreaped
      · rcases List.mem_append.mp hjob with hjob | hjob
        · exact h.own job hjob
        · rw [List.mem_singleton.mp hjob]
          exact ⟨g, List.mem_of_getLast? hlast, rfl, fun _ => hcontinues⟩
      · rw [List.map_append]
        refine List.Nodup.append h.distinct (List.nodup_singleton _) fun path hpath hg => ?_
        obtain ⟨job, hjob, rfl⟩ := List.mem_map.mp hpath
        exact hnew job hjob (List.mem_singleton.mp hg)
  | reap g =>
    obtain rfl := Option.some.inj hs
    have hmap : (s.jobs.map fun job =>
        { job with reaped := job.reaped || job.stage.isCompleted }).map
          SegmentRemuxJob.transientMkv = s.jobs.map SegmentRemuxJob.transientMkv := by
      rw [List.map_map]
      rfl
    refine ⟨fun job hjob hreaped => ?_, fun job hjob => ?_, hmap ▸ h.distinct, ?_, h.last⟩
    · obtain ⟨old, hold, rfl⟩ := List.mem_map.mp hjob
      rcases Bool.or_eq_true_iff.mp hreaped with hold' | hdone
      · exact h.reaped old hold hold'
      · exact hdone
    · obtain ⟨old, hold, rfl⟩ := List.mem_map.mp hjob
      exact h.own old hold
    · intro g' hg'
      dsimp only at hg'
      rw [afterCallback] at hg'
      split at hg' <;> cases hg'
  | openNext =>
    dsimp only at hs
    split at hs
    · split_ifs at hs <;> obtain rfl := Option.some.inj hs <;> exact h.frameMux rfl rfl rfl (by intros; contradiction)
    · obtain rfl := Option.some.inj hs
      exact h.frameMux rfl rfl rfl (by intros; contradiction)

theorem runJob_segments {job : SegmentRemuxJob} :
    (s.runJob job answer).1.segments = s.segments ∧ (s.runJob job answer).1.mux = s.mux := by
  have hfixed : (s.runJob job answer).1.fixed = s.fixed := runJob_fixed.1
  simp only [fixed, Prod.mk.injEq] at hfixed
  exact ⟨hfixed.2.2.2.1, hfixed.2.2.1⟩

theorem queued_pool (h : s.Queued) (hs : s.poolStep answer = some s') : s'.Queued := by
  obtain ⟨⟨done, job, waiting⟩, hnext, rfl⟩ := Option.map_eq_some_iff.mp hs
  obtain ⟨hjobs, hopen, -⟩ := mem_nextJob hnext
  obtain ⟨hsegments, hmux⟩ : (s.runJob job answer).1.segments = s.segments ∧
      (s.runJob job answer).1.mux = s.mux := runJob_segments
  have hrecorder : (s.runJob job answer).1.recorder = s.recorder := runJob_fixed.2
  have hmem : job ∈ s.jobs := hjobs ▸ List.mem_append_right _ List.mem_cons_self
  have hunreaped : job.reaped = false := by
    cases hr : job.reaped with
    | false => rfl
    | true => exact absurd (h.reaped job hmem hr) (by rw [hopen]; decide)
  -- the job at work is replaced, with its artefact as it was
  have hsame : (done ++ { job with stage := (s.runJob job answer).2 } :: waiting).map
      SegmentRemuxJob.transientMkv = s.jobs.map SegmentRemuxJob.transientMkv := by
    rw [hjobs]
    simp
  have hold : ∀ j ∈ done ++ { job with stage := (s.runJob job answer).2 } :: waiting,
      ∃ o ∈ s.jobs, o.transientMkv = j.transientMkv := by
    intro j hj
    have hpath := List.mem_map_of_mem (f := SegmentRemuxJob.transientMkv) hj
    rw [hsame] at hpath
    exact List.mem_map.mp hpath
  refine ⟨fun j hj hreaped => ?_, fun j hj => ?_, ?_, fun g hg j hj => ?_, fun ui g target hrec => ?_⟩
  · rcases List.mem_append.mp hj with hj | hj
    · exact h.reaped j (hjobs ▸ List.mem_append_left _ hj) hreaped
    · rcases List.mem_cons.mp hj with rfl | hj
      · exact absurd hreaped (by rw [hunreaped]; decide)
      · exact h.reaped j (hjobs ▸ List.mem_append_right _ (List.mem_cons_of_mem _ hj)) hreaped
  · obtain ⟨o, ho, hpath⟩ := hold j hj
    obtain ⟨g, hg, hgpath, hgoes⟩ := h.own o ho
    exact ⟨g, hsegments ▸ hg, hpath ▸ hgpath, fun hno => hgoes (hrecorder ▸ hno)⟩
  · exact hsame ▸ h.distinct
  · obtain ⟨o, ho, hpath⟩ := hold j hj
    exact hpath ▸ h.unscheduled g (hmux ▸ hg) o ho
  · exact hsegments ▸ h.last ui g target (hrecorder ▸ hrec)

theorem queued_recorder (h : s.Queued) (hseg : s.Segments) (hs : s.recorderStep answer = some s') :
    s'.Queued := by
  unfold recorderStep at hs
  cases hrecorder : s.recorder with rw [hrecorder] at hs
  | record | posted => cases hs
  | returned =>
    obtain rfl := Option.some.inj hs
    exact h.frame rfl rfl (fun _ => id) (fun _ => by rw [hrecorder]; rfl) (by intros; contradiction)
  | built =>
    obtain rfl := Option.some.inj hs
    refine h.frame rfl rfl (fun _ => id) (fun _ => by rw [hrecorder]; rfl) ?_
    intro ui g target hrec
    dsimp only at hrec
    split_ifs at hrec
  | remux =>
    dsimp only at hs
    cases hplace : (s.reads s.artefact).place answer s.artefact s.output with rw [hplace] at hs
    | none =>
      obtain rfl := Option.some.inj hs
      exact h.frame rfl rfl (fun _ => id) (by intros; contradiction) (by intros; contradiction)
    | some placed =>
      obtain rfl := Option.some.inj hs
      obtain ⟨_, _, -, rfl⟩ := place_cases hplace
      exact h.frame rfl rfl (fun _ => id) (fun _ => by rw [hrecorder]; rfl) (by intros; contradiction)
  | editMaster | remuxForget | post =>
    obtain rfl := Option.some.inj hs
    exact h.frame rfl rfl (fun _ => id) (by intros; contradiction) (by intros; contradiction)
  | rewrite ui done todo =>
    obtain rfl := Option.some.inj hs
    refine h.frame rfl rfl (fun _ => id) ?_ ?_
    · intro hno
      dsimp only [rewriteStep] at hno
      split at hno
      · cases hno
      · split at hno <;> cases hno
    · intro ui g target hrec
      dsimp only [rewriteStep] at hrec
      split at hrec
      · cases hrec
      · split at hrec <;> cases hrec
  | deriveFinal =>
    dsimp only at hs
    split at hs
    · next g hlast =>
      split_ifs at hs
      · obtain rfl := Option.some.inj hs
        refine h.frame rfl rfl (fun _ => id) (fun _ => by rw [hrecorder]; rfl) ?_
        rintro ui g' target ⟨⟩
        exact hlast
      · obtain rfl := Option.some.inj hs
        exact h.frame rfl rfl (fun _ => id) (by intros; contradiction) (by intros; contradiction)
    · obtain rfl := Option.some.inj hs
      exact h.frame rfl rfl (fun _ => id) (by intros; contradiction) (by intros; contradiction)
  | queueFinal ui g target =>
    obtain rfl := Option.some.inj hs
    have hlast := h.last ui g target hrecorder
    obtain ⟨hclosed, hok⟩ := hseg.ended (by rw [hrecorder]; rfl)
    -- the last segment ended the session, so no callback has queued it
    have hnew : ∀ job ∈ s.jobs, job.transientMkv ≠ g.path := by
      intro job hjob hpath
      obtain ⟨g', hg', hjobPath, hgoes⟩ := h.own job hjob
      have heq := hseg.eq_of_path hg' (List.mem_of_getLast? hlast) (hjobPath.symm.trans hpath)
      have hcontinues := hgoes (by rw [hrecorder]; rfl)
      obtain ⟨g'', hlast', hend⟩ := hseg.closed hclosed hok
      obtain rfl := Option.some.inj (hlast.symm.trans hlast')
      rw [heq, CompletedSegment.continues, hend] at hcontinues
      exact absurd hcontinues (by simp)
    cases target with
    | none =>
      refine h.frame ?_ rfl (fun _ => id) (by intros; contradiction) (by intros; contradiction)
      simp [queueFinal]
    | some outputMp4 =>
      refine ⟨fun job hjob hreaped => ?_, fun job hjob => ?_, ?_, fun g' hg' => ?_, (by intros; contradiction)⟩
      · rcases List.mem_append.mp hjob with hjob | hjob
        · exact h.reaped job hjob hreaped
        · rw [List.mem_singleton.mp hjob] at hreaped
          cases hreaped
      · rcases List.mem_append.mp hjob with hjob | hjob
        · obtain ⟨g', hg', hpath, -⟩ := h.own job hjob
          exact ⟨g', hg', hpath, (by intros; contradiction)⟩
        · rw [List.mem_singleton.mp hjob]
          exact ⟨g, List.mem_of_getLast? hlast, rfl, (by intros; contradiction)⟩
      · change ((s.jobs ++ [_]).map SegmentRemuxJob.transientMkv).Nodup
        rw [List.map_append]
        refine List.Nodup.append h.distinct (List.nodup_singleton _) fun path hpath hg => ?_
        obtain ⟨job, hjob, rfl⟩ := List.mem_map.mp hpath
        exact hnew job hjob (List.mem_singleton.mp hg)
      · change g' ∈ s.mux.unscheduled at hg'
        rw [hclosed] at hg'
        cases hg'
  | drain =>
    dsimp only at hs
    split at hs
    · obtain rfl := Option.some.inj hs
      refine h.frame rfl rfl (fun _ => id) ?_ ?_
      · intro hno
        dsimp only at hno
        split at hno <;> cases hno
      · intro ui g target hrec
        dsimp only at hrec
        split at hrec <;> cases hrec
    · cases hs
  | publish ui done todo =>
    obtain rfl := Option.some.inj hs
    unfold publishStep
    split
    · exact h.frame rfl rfl (fun _ => id) (by intros; contradiction) (by intros; contradiction)
    · split
      · exact h.frame rfl rfl (fun _ => id) (by intros; contradiction) (by intros; contradiction)
      · split
        · next published hpublish =>
          obtain ⟨_, -, rfl⟩ := publishFile_cases hpublish
          exact h.frame rfl rfl (fun _ => id) (by intros; contradiction) (by intros; contradiction)
        · exact h.frame rfl rfl (fun _ => id) (by intros; contradiction) (by intros; contradiction)
  | publishWhole =>
    dsimp only at hs
    cases hpublish : s.publishFile answer 0 s.artefact s.output with rw [hpublish] at hs
    | none =>
      obtain rfl := Option.some.inj hs
      exact h.frame rfl rfl (fun _ => id) (by intros; contradiction) (by intros; contradiction)
    | some published =>
      obtain rfl := Option.some.inj hs
      obtain ⟨_, -, rfl⟩ := publishFile_cases hpublish
      exact h.frame rfl rfl (fun _ => id) (by intros; contradiction) (by intros; contradiction)
  | forget =>
    dsimp only at hs
    split_ifs at hs <;> obtain rfl := Option.some.inj hs <;>
      exact h.frame rfl rfl (fun _ => id) (by intros; contradiction) (by intros; contradiction)

theorem queued_step {a : Action} (h : s.Queued) (hseg : s.Segments) (hs : s.step a = some s') :
    s'.Queued := by
  cases a with
  | setContainer container =>
    obtain rfl := Option.some.inj hs
    exact h.frameMux rfl rfl rfl fun _ => id
  | requestSplit =>
    obtain rfl := Option.some.inj hs
    unfold requestSplit
    split_ifs <;> exact h.frameMux rfl rfl rfl fun _ => id
  | splitAnswered answer =>
    obtain rfl := Option.some.inj hs
    unfold splitAnswered
    split_ifs <;> exact h.frameMux rfl rfl rfl fun _ => id
  | boundary answer | stop answer =>
    simp only [step, finalize] at hs
    split at hs
    · obtain rfl := Option.some.inj hs
      exact h.frameMux rfl rfl rfl (by intros; contradiction)
    · cases hs
  | mux answer => exact queued_mux h hseg hs
  | returns answer =>
    simp only [step, returns] at hs
    split at hs
    · next hrecorder =>
      split_ifs at hs
      obtain rfl := Option.some.inj hs
      exact h.frame rfl rfl (fun _ => id) (fun _ => by rw [hrecorder]; rfl) (by intros; contradiction)
    · cases hs
  | pool answer => exact queued_pool h hs
  | recorder answer => exact queued_recorder h hseg hs

/-! ## Reserves -/

theorem Queued.pending_eq (h : s.Queued) :
    s.PendingRemuxReserveBytes =
      ((s.openJobs.map SegmentRemuxJob.transientMkv).map (fileBytes s.disk)).sum := by
  have hjobs : (s.segmentRemuxJobs.filter fun job => !job.stage.isCompleted) = s.openJobs := by
    rw [segmentRemuxJobs, List.filter_filter, openJobs]
    refine List.filter_congr fun job hjob => ?_
    cases hr : job.reaped with
    | false => simp
    | true => simp [h.reaped job hjob hr]
  rw [PendingRemuxReserveBytes, hjobs, List.map_map]
  rfl

/-- The artefact in the engine's hands is no job's. -/
theorem Queued.inHand_ne (h : s.Queued) (hseg : s.Segments) {path : String}
    (hpath : s.inHand = some path) {job : SegmentRemuxJob} (hjob : job ∈ s.jobs) :
    job.transientMkv ≠ path := by
  unfold inHand at hpath
  cases hmux : s.mux with rw [hmux] at hpath
  | writing index path' =>
    obtain rfl := Option.some.inj hpath
    obtain ⟨hindex, hname⟩ := hseg.opened (index, path') (by rw [hmux]; rfl)
    exact h.ne_of_index hseg (hindex ▸ hname) hjob
  | push g =>
    obtain rfl := Option.some.inj hpath
    obtain ⟨hindex, hname⟩ := hseg.opened (g.index, g.path) (by rw [hmux]; rfl)
    exact h.ne_of_index hseg (hindex ▸ hname) hjob
  | reap | openNext => exact nomatch hpath
  | closed =>
    obtain ⟨g, hg, rfl⟩ := Option.map_eq_some_iff.mp hpath
    have hunqueued := (Option.filter_eq_some_iff.mp hg).2
    simp only [unqueued, Bool.and_eq_true, List.all_eq_true, bne_iff_ne] at hunqueued
    exact hunqueued.2 job hjob
  | exchange g | deriveTarget g | readId g | deriveNextMkv g | deriveNextFinal g | addNext g
  | schedule g =>
    obtain rfl := Option.some.inj hpath
    exact h.unscheduled g (by rw [hmux]; rfl) job hjob

/-- What is owed is the file in hand and the open jobs' artefacts. -/
theorem Queued.owedBytes_eq (h : s.Queued) (hseg : s.Segments) :
    s.owedBytes = s.inHandBytes + s.PendingRemuxReserveBytes := by
  have hopen : (s.openJobs.map SegmentRemuxJob.transientMkv).Nodup :=
    h.distinct.sublist ((List.filter_sublist).map _)
  have hnodup : (s.inHand.toList ++ s.openJobs.map SegmentRemuxJob.transientMkv).Nodup := by
    refine List.Nodup.append ?_ hopen fun path hpath hjobs => ?_
    · cases s.inHand <;> simp
    · obtain ⟨job, hjob, rfl⟩ := List.mem_map.mp hjobs
      exact h.inHand_ne hseg (Option.mem_toList.mp hpath) (List.mem_filter.mp hjob).1 rfl
  rw [owedBytes, List.dedup_eq_self.mpr hnodup, List.map_append, List.sum_append, h.pending_eq, inHandBytes]
  cases s.inHand <;> simp

end

end Session

/-! ## Runs -/

namespace Monitored

open Session (Queued Segments Starts clipStart clip_starts)

/-- What holds of a monitored recording in every state a run reaches. -/
structure Holds (m : Monitored) : Prop where
  segments : m.session.Segments
  queued : m.session.Queued
  mp4 : m.session.container = .mp4
  polls : ∀ p ∈ m.polls, p.reserve = p.liveBytes + p.session.PendingRemuxReserveBytes ∧
    p.session.owedBytes = p.session.inHandBytes + p.session.PendingRemuxReserveBytes

theorem holds_step {m m' : Monitored} {a : MonitorAction} (h : m.Holds) (hs : m.step a = some m') :
    m'.Holds := by
  cases a with
  | session action =>
    obtain ⟨s, hsession, rfl⟩ := Option.map_eq_some_iff.mp hs
    exact ⟨Session.segments_step h.segments hsession,
      Session.queued_step h.queued h.segments hsession,
      (Session.container_step hsession).trans h.mp4, h.polls⟩
  | grow bytes =>
    obtain ⟨s, hsession, rfl⟩ := Option.map_eq_some_iff.mp hs
    unfold Session.grow at hsession
    split at hsession
    · obtain rfl := Option.some.inj hsession
      exact ⟨h.segments.frame rfl rfl rfl rfl id, h.queued.frameMux rfl rfl rfl fun _ => id, h.mp4,
        h.polls⟩
    · cases hsession
  | pollLive =>
    rw [step] at hs
    split at hs
    · obtain rfl := Option.some.inj hs
      exact ⟨h.segments, h.queued, h.mp4, h.polls⟩
    · cases hs
  | pollJobs freeBytes =>
    rw [step] at hs
    split at hs
    · next liveBytes hstage =>
      obtain rfl := Option.some.inj hs
      refine ⟨h.segments, h.queued, h.mp4, fun p hp => ?_⟩
      rcases List.mem_cons.mp hp with rfl | hp
      · exact ⟨if_pos h.mp4, h.queued.owedBytes_eq h.segments⟩
      · exact h.polls p hp
    · cases hs

/-- A poll of an MP4 recording reserves what is owed exactly when the size it read first is the size
    of the artefact in the engine's hands. -/
theorem reserve_is_owed_iff {disk : Disk} {s : Session} (hstart : Starts disk s)
    (hmp4 : s.container = .mp4) {as : List MonitorAction} {m : Monitored}
    (he : (Monitored.start s).exec as = some m) :
    ∀ p ∈ m.polls, p.reserve = p.session.owedBytes ↔ p.liveBytes = p.session.inHandBytes := by
  have hfirst : (Monitored.start s).Holds :=
    ⟨Session.segments_start hstart, Session.queued_start hstart, hmp4, fun p hp => nomatch hp⟩
  have h : m.Holds := StepRun.exec_invariant_all (fun _ _ _ => holds_step) hfirst he
  intro p hp
  obtain ⟨hreserve, howed⟩ := h.polls p hp
  rw [hreserve, howed]
  omega

theorem reserve_is_owed_iff_first :
    ∃ m, (Monitored.start (clipStart .mp4)).exec [.grow 7, .pollLive, .pollJobs 0] = some m ∧
      ∀ p ∈ m.polls, p.reserve = p.session.owedBytes ↔ p.liveBytes = p.session.inHandBytes := by
  obtain ⟨m, hm⟩ := Option.isSome_iff_exists.mp (show ((Monitored.start (clipStart .mp4)).exec
    [.grow 7, .pollLive, .pollJobs 0]).isSome = true by decide)
  exact ⟨m, hm, reserve_is_owed_iff (clip_starts .mp4) rfl hm⟩

/-- The engine has written 900 bytes of the second segment when the first, of 7 bytes, still waits
    for its remux. -/
def secondSegmentActions : List MonitorAction :=
  (Session.splitActions.take 3).map .session ++
    (.session (.boundary { bytes := 7 }) :: (Session.splitActions.drop 4).map .session) ++
    [.grow 900, .pollLive, .pollJobs 0]

/-- A poll in the second segment counts the first one twice, and the second not at all. -/
theorem second_segment_unreserved :
    ∃ m, (Monitored.start (clipStart .mp4)).exec secondSegmentActions = some m ∧
      ∃ p ∈ m.polls, p.reserve = 14 ∧ p.session.owedBytes = 907 := by
  obtain ⟨m, hm, hpolls⟩ := (Option.any_eq_true _ _).mp
    (show ((Monitored.start (clipStart .mp4)).exec secondSegmentActions).any
      (fun m => m.polls.any fun p => p.reserve == 14 && p.session.owedBytes == 907) = true by
        decide)
  obtain ⟨p, hp, hboth⟩ := List.any_eq_true.mp hpolls
  simp only [Bool.and_eq_true, beq_iff_eq] at hboth
  exact ⟨m, hm, p, hp, hboth⟩

end Monitored

end Exosnap.Split
