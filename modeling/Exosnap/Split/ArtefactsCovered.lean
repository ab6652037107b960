/-
  The recovery manifest over a recording: the file the engine writes to, and each closed segment
  that is not published, is named by an entry, and an entry goes only when its file is published.

  An MP4 recording enters its next segment when it finds that a split was asked for. A boundary of
  any other kind opens a segment that no entry names.
-/
import Exosnap.Split.SessionRuns

namespace Exosnap.Split

open Capability (Container)

/-! ## Entries -/

def Named (manifest : List RecoveryManifestEntry) (path : String) : Prop :=
  ∃ entry ∈ manifest, entry.artefactPath = path

def Published (written : List Written) (path : String) : Prop :=
  ∃ w ∈ written, w.artefact = path

/-- The entry with this id, while there is one, names a path that meets `P`. -/
def Owns (manifest : List RecoveryManifestEntry) (nextId : Nat) (id : Option Nat)
    (P : String → Prop) : Prop :=
  ∀ k ∈ id, k < nextId ∧ ∀ entry ∈ manifest, entry.id = k → P entry.artefactPath

section
variable {manifest manifest' : List RecoveryManifestEntry} {nextId : Nat} {id : Option Nat}
  {P Q : String → Prop}

theorem owns_none : Owns manifest nextId none P := nofun

theorem Owns.mono (h : Owns manifest nextId id P) (hsub : ∀ entry ∈ manifest', entry ∈ manifest)
    (hP : ∀ path, P path → Q path) : Owns manifest' nextId id Q := fun k hk =>
  ⟨(h k hk).1, fun entry hentry heq => hP _ ((h k hk).2 entry (hsub entry hentry) heq)⟩

/-- An entry is added under a new id. -/
theorem Owns.add (h : Owns manifest nextId id P) (artefactPath finalOutputPath : String) :
    Owns (⟨nextId, artefactPath, finalOutputPath⟩ :: manifest) (nextId + 1) id P := by
  intro k hk
  obtain ⟨hlt, hentries⟩ := h k hk
  refine ⟨Nat.lt_succ_of_lt hlt, fun entry hentry heq => ?_⟩
  rcases List.mem_cons.mp hentry with rfl | hentry
  · exact absurd heq (Nat.ne_of_gt hlt)
  · exact hentries entry hentry heq

theorem owns_new (hids : ∀ entry ∈ manifest, entry.id < nextId)
    {artefactPath finalOutputPath : String} (hP : P artefactPath) :
    Owns (⟨nextId, artefactPath, finalOutputPath⟩ :: manifest) (nextId + 1) (some nextId) P := by
  rintro k ⟨⟩
  refine ⟨Nat.lt_succ_self _, fun entry hentry heq => ?_⟩
  rcases List.mem_cons.mp hentry with rfl | hentry
  · exact hP
  · exact absurd heq (Nat.ne_of_lt (hids entry hentry))

end

namespace Session

/-- The file that the next segment will be written to. -/
def Next (s : Session) (path : String) : Prop :=
  SegmentName s.artefact s.segments.length path ∧
    ∀ answer name, s.derive answer s.artefact s.segments.length = some name → name = path

/-- What the current entry names while the engine's thread is at `mux`. -/
def CurrentPath (s : Session) (mux : Mux) (path : String) : Prop :=
  match mux with
  | .writing _ p => path = p
  | .push g | .exchange g | .deriveTarget g | .readId g _ | .deriveNextMkv g _ _
  | .deriveNextFinal g _ _ _ | .addNext g _ _ _ _ | .schedule g _ _ _ => path = g.path
  | .reap _ | .openNext _ => s.Next path
  | .closed => s.failed = false → ∃ g, s.segments.getLast? = some g ∧ path = g.path

/-- What the callback has taken down of its segment. -/
def Noted (s : Session) (g : CompletedSegment) (target : Option String) : Prop :=
  ∀ file ∈ target, SegmentName s.output g.index file

def Engine (s : Session) (mux : Mux) : Prop :=
  let owned (g : CompletedSegment) (id : Option Nat) := Owns s.manifest s.nextId id (· = g.path)
  match mux with
  | .writing _ _ | .push _ | .exchange _ | .deriveTarget _ | .closed => True
  | .readId g target => s.Noted g target
  | .deriveNextMkv g target thisId => s.Noted g target ∧ owned g thisId
  | .deriveNextFinal g target thisId nextMkv =>
      s.Noted g target ∧ owned g thisId ∧ ∃ path, nextMkv = some path ∧ s.Next path
  | .addNext g target thisId nextMkv nextFinal =>
      s.Noted g target ∧ owned g thisId ∧ (∃ path, nextMkv = some path ∧ s.Next path) ∧
        nextFinal.isSome = true
  | .schedule g target thisId nextId =>
      s.Noted g target ∧ owned g thisId ∧ Owns s.manifest s.nextId nextId s.Next ∧
        ∃ path, s.Next path ∧ Named s.manifest path
  | .reap _ | .openNext _ => ∃ path, s.Next path ∧ Named s.manifest path

structure JobOk (s : Session) (job : SegmentRemuxJob) : Prop where
  segment : ∃ g ∈ s.segments, job.transientMkv = g.path ∧ SegmentName s.output g.index job.outputMp4
  entry : Owns s.manifest s.nextId job.manifestId (· = job.transientMkv)
  placed : job.stage ≠ .queued → job.stage ≠ .completed false → Published s.written job.transientMkv

/-- Where the recording thread is. -/
def Recording (s : Session) (recorder : Recorder) : Prop :=
  match recorder with
  | .built succeeded ui => (ui.succeeded = true → succeeded = true) ∧
      (succeeded = true → ui.segments = s.segments.map fun g => (g.index, g.path))
  | .remux _ => s.container = .mp4 ∧ s.segments.length = 1
  | .editMaster _ | .remuxForget _ => s.container = .mp4 ∧ s.segments.length = 1 ∧
      Published s.written s.artefact
  | .queueFinal _ g target => s.segments.getLast? = some g ∧ s.Noted g target
  | .publish _ _ todo => ∃ g, s.segments = [g] ∧
      (todo = [(g.index, g.path)] ∨ todo = [] ∧ Published s.written g.path)
  | .publishWhole _ => False
  | .forget ui => ui.succeeded = true → s.mux = .closed ∧ s.failed = false ∧
      ∀ g, s.segments.getLast? = some g → Published s.written g.path
  | .record | .returned _ | .deriveFinal _ | .drain _ | .rewrite _ _ _ _ | .post _
  | .posted _ => True

/-- A recording that is not made in MP4 has one segment. -/
structure OneSegment (segments : List CompletedSegment) (mux : Mux) : Prop where
  length : segments.length ≤ 1
  first : mux.opened.isSome = true → segments = []
  next : mux.next = none
  scheduling : mux.scheduling = false

structure Covered (s : Session) : Prop where
  ids : ∀ entry ∈ s.manifest, entry.id < s.nextId
  current : Owns s.manifest s.nextId s.currentManifestId (s.CurrentPath s.mux)
  engine : s.Engine s.mux
  jobs : ∀ job ∈ s.jobs, s.JobOk job
  own : ∀ w ∈ s.written, ∃ g ∈ s.segments, w.artefact = g.path
  named : ∀ g ∈ s.segments, Published s.written g.path ∨ Named s.manifest g.path
  opened : ∀ p ∈ s.mux.opened, Named s.manifest p.2
  dropped : ∀ entry ∈ s.dropped, Published s.written entry.artefactPath
  one : s.container ≠ .mp4 → OneSegment s.segments s.mux
  recording : s.Recording s.recorder

theorem covered_start {disk : Disk} {s : Session} (h : Starts disk s) : s.Covered := by
  obtain ⟨container, name, manifest, id, -, -, hids, rfl⟩ := h
  exact {
    ids := by
      intro entry hentry
      rcases List.mem_cons.mp hentry with rfl | hentry
      · exact Nat.lt_succ_self _
      · exact Nat.lt_succ_of_lt (hids entry hentry)
    current := owns_new hids rfl
    engine := trivial
    jobs := nofun
    own := nofun
    named := nofun
    opened := by
      rintro p ⟨⟩
      exact ⟨_, List.mem_cons_self, rfl⟩
    dropped := nofun
    one := fun _ => ⟨Nat.zero_le _, fun _ => rfl, rfl, rfl⟩
    recording := trivial }

/-! ## What a step of the pool or of the recording thread does -/

section
variable {s s' : Session} {mux : Mux}

theorem Engine.mono (h : s.Engine mux) (houtput : s'.output = s.output) (hid : s'.nextId = s.nextId)
    (hsub : ∀ entry ∈ s'.manifest, entry ∈ s.manifest)
    (hnext : mux ≠ .closed → ∀ path, s.Next path → s'.Next path)
    (hkeep : ∀ path, s.Next path → Named s.manifest path → Named s'.manifest path) :
    s'.Engine mux := by
  have howned : ∀ (id : Option Nat) {P Q : String → Prop}, (∀ path, P path → Q path) →
      Owns s.manifest s.nextId id P → Owns s'.manifest s'.nextId id Q := by
    intro id P Q hP hid'
    rw [hid]
    exact hid'.mono hsub hP
  unfold Engine Noted at h ⊢
  rw [houtput]
  cases mux with
  | writing | push | exchange | deriveTarget | closed => trivial
  | readId => exact h
  | deriveNextMkv => exact ⟨h.1, howned _ (fun _ => id) h.2⟩
  | deriveNextFinal =>
    obtain ⟨htarget, hthis, path, heq, hpath⟩ := h
    exact ⟨htarget, howned _ (fun _ => id) hthis, path, heq, hnext nofun path hpath⟩
  | addNext =>
    obtain ⟨htarget, hthis, ⟨path, heq, hpath⟩, hfinal⟩ := h
    exact ⟨htarget, howned _ (fun _ => id) hthis, ⟨path, heq, hnext nofun path hpath⟩, hfinal⟩
  | schedule =>
    obtain ⟨htarget, hthis, hid', path, hpath, hnamed⟩ := h
    exact ⟨htarget, howned _ (fun _ => id) hthis, howned _ (hnext nofun) hid', path,
      hnext nofun path hpath, hkeep path hpath hnamed⟩
  | reap | openNext =>
    obtain ⟨path, hpath, hnamed⟩ := h
    exact ⟨path, hnext nofun path hpath, hkeep path hpath hnamed⟩

theorem CurrentPath.mono {path : String} (h : s.CurrentPath mux path)
    (hsegments : s'.segments = s.segments) (hfailed : s'.failed = s.failed)
    (hnext : mux ≠ .closed → ∀ path, s.Next path → s'.Next path) : s'.CurrentPath mux path := by
  unfold CurrentPath at h ⊢
  rw [hsegments, hfailed]
  cases mux with
  | reap | openNext => exact hnext nofun path h
  | _ => exact h

/-- A published file is not the one that is open, and not the next. -/
theorem Covered.published_index (h : s.Covered) (hseg : s.Segments) {path : String}
    (hpublished : Published s.written path) {i : Nat} (hname : SegmentName s.artefact i path) :
    i < s.segments.length := by
  obtain ⟨w, hw, rfl⟩ := hpublished
  obtain ⟨g, hg, heq⟩ := h.own w hw
  rw [heq] at hname
  exact hseg.index_of_path hg hname ▸ hseg.index_lt hg

theorem Next.touch {file : String} {file? : Option File} {path : String} (h : s.Next path)
    (hfar : ¬SegmentName s.artefact s.segments.length file) :
    Next { s with disk := Function.update s.disk file file? } path := by
  refine ⟨h.1, fun answer name hname => h.2 answer name ?_⟩
  rw [← hname]
  refine derive_congr fun f hf => ?_
  have hne : f ≠ file := by
    rintro rfl
    exact hfar hf
  simp only [Disk.probe, Function.update_of_ne hne]

theorem Recording.mono {recorder : Recorder} (h : s.Recording recorder)
    (hfixed : s'.fixed = s.fixed)
    (hmore : ∀ path, Published s.written path → Published s'.written path) :
    s'.Recording recorder := by
  simp only [fixed, Prod.mk.injEq] at hfixed
  obtain ⟨hcontainer, hname, hmux, hsegments, hfailed, -⟩ := hfixed
  unfold Recording Noted output artefact at *
  rw [hcontainer, hname, hmux, hsegments, hfailed]
  cases recorder with
  | editMaster | remuxForget => exact ⟨h.1, h.2.1, hmore _ h.2.2⟩
  | publish =>
    obtain ⟨g, hsegments, htodo⟩ := h
    exact ⟨g, hsegments, htodo.imp_right fun hdone => ⟨hdone.1, hmore _ hdone.2⟩⟩
  | forget =>
    intro hok
    obtain ⟨hmux, hfailed, hlast⟩ := h hok
    exact ⟨hmux, hfailed, fun g hg => hmore _ (hlast g hg)⟩
  | _ => exact h

theorem JobOk.mono {job : SegmentRemuxJob} (h : s.JobOk job) (hfixed : s'.fixed = s.fixed)
    (hsub : ∀ entry ∈ s'.manifest, entry ∈ s.manifest)
    (hmore : ∀ path, Published s.written path → Published s'.written path) : s'.JobOk job := by
  simp only [fixed, Prod.mk.injEq] at hfixed
  obtain ⟨hcontainer, hname, -, hsegments, -, hid⟩ := hfixed
  refine ⟨?_, ?_, fun hqueued hfailed => hmore _ (h.placed hqueued hfailed)⟩
  · rw [hsegments, output, hcontainer, hname]
    exact h.segment
  · rw [hid]
    exact h.entry.mono hsub fun _ => id

/-- A file is written or removed that the next segment's name does not look at. -/
theorem Covered.touch (h : s.Covered) (file : String) (file? : Option File)
    (hfar : s.mux = .closed ∨ ¬SegmentName s.artefact s.segments.length file) :
    Covered { s with disk := Function.update s.disk file file? } := by
  have hnext : s.mux ≠ .closed → ∀ path, s.Next path →
      Next { s with disk := Function.update s.disk file file? } path :=
    fun hopen path hpath => hpath.touch (hfar.resolve_left hopen)
  exact { h with
    current := h.current.mono (fun _ => id) fun _ hpath => hpath.mono rfl rfl hnext
    engine := h.engine.mono rfl rfl (fun _ => id) hnext fun _ _ => id
    jobs := fun job hjob => (h.jobs job hjob).mono rfl (fun _ => id) fun _ => id
    recording := h.recording.mono rfl fun _ => id }

/-- A file is made of a closed segment. -/
theorem Covered.publish (h : s.Covered) {g : CompletedSegment} (hg : g ∈ s.segments) (segment : Nat)
    (file : String) : Covered { s with written := ⟨segment, g.path, file⟩ :: s.written } := by
  have hmore : ∀ path, Published s.written path →
      Published (⟨segment, g.path, file⟩ :: s.written) path :=
    fun path ⟨w, hw, heq⟩ => ⟨w, List.mem_cons_of_mem _ hw, heq⟩
  exact { h with
    own := by
      intro w hw
      rcases List.mem_cons.mp hw with rfl | hw
      · exact ⟨g, hg, rfl⟩
      · exact h.own w hw
    jobs := fun job hjob => (h.jobs job hjob).mono rfl (fun _ => id) hmore
    named := fun g' hg' => (h.named g' hg').imp_left (hmore _)
    dropped := fun entry hentry => hmore _ (h.dropped entry hentry)
    recording := h.recording.mono rfl hmore }

/-- The entry of a published file is removed. -/
theorem Covered.remove (h : s.Covered) (hseg : s.Segments) (entryId : Option Nat)
    (hspent : ∀ entry ∈ s.manifest, some entry.id = entryId →
      Published s.written entry.artefactPath) :
    (s.removeEntry entryId).Covered := by
  have hsub : ∀ entry ∈ (s.removeEntry entryId).manifest, entry ∈ s.manifest :=
    fun entry hentry => (List.mem_filter.mp hentry).1
  have hkeep : ∀ path, Named s.manifest path → Published s.written path ∨
      Named (s.removeEntry entryId).manifest path := by
    rintro path ⟨entry, hentry, rfl⟩
    by_cases hid : some entry.id = entryId
    · exact .inl (hspent entry hentry hid)
    · exact .inr ⟨entry, List.mem_filter.mpr ⟨hentry, by simpa using hid⟩, rfl⟩
  have hopen : ∀ path, SegmentName s.artefact s.segments.length path → Named s.manifest path →
      Named (s.removeEntry entryId).manifest path := by
    intro path hname hnamed
    refine (hkeep path hnamed).resolve_left fun hpublished => ?_
    exact absurd (h.published_index hseg hpublished hname) (Nat.lt_irrefl _)
  exact { h with
    ids := fun entry hentry => h.ids entry (hsub entry hentry)
    current := h.current.mono hsub fun _ hpath => hpath.mono rfl rfl fun _ _ => id
    engine := h.engine.mono rfl rfl hsub (fun _ _ => id) fun path hpath => hopen path hpath.1
    jobs := fun job hjob => (h.jobs job hjob).mono rfl hsub fun _ => id
    named := fun g hg => (h.named g hg).elim .inl (hkeep _)
    opened := by
      intro p hp
      obtain ⟨hindex, hname⟩ := hseg.opened p hp
      exact hopen p.2 (hindex ▸ hname) (h.opened p hp)
    dropped := by
      intro entry hentry
      rcases List.mem_append.mp hentry with hentry | hentry
      · obtain ⟨hentry, hid⟩ := List.mem_filter.mp hentry
        exact hspent entry hentry (by simpa using hid)
      · exact h.dropped entry hentry
    recording := h.recording.mono rfl fun _ => id }

/-- The jobs change. -/
theorem Covered.setJobs (h : s.Covered) {jobs : List SegmentRemuxJob}
    (hjobs : ∀ job ∈ jobs, s.JobOk job) : Covered { s with jobs := jobs } :=
  { h with
    jobs := fun job hjob => (hjobs job hjob).mono rfl (fun _ => id) fun _ => id
    recording := h.recording.mono rfl fun _ => id }

/-- The recording thread goes on. -/
theorem Covered.setRecorder (h : s.Covered) {recorder : Recorder}
    (hrecording : s.Recording recorder) : Covered { s with recorder := recorder } :=
  { h with
    jobs := fun job hjob => (h.jobs job hjob).mono rfl (fun _ => id) fun _ => id
    recording := hrecording.mono rfl fun _ => id }

/-- The recording thread takes the current entry. -/
theorem Covered.takeId (h : s.Covered) : Covered { s with currentManifestId := none } :=
  { h with
    current := owns_none
    jobs := fun job hjob => (h.jobs job hjob).mono rfl (fun _ => id) fun _ => id
    recording := h.recording.mono rfl fun _ => id }

theorem Covered.flags (h : s.Covered) (liveContainer : Container) (splitPending splitAsked : Bool) :
    Covered { s with
      liveContainer := liveContainer, splitPending := splitPending, splitAsked := splitAsked } :=
  { h with
    jobs := fun job hjob => (h.jobs job hjob).mono rfl (fun _ => id) fun _ => id
    recording := h.recording.mono rfl fun _ => id }

theorem Covered.history (h : s.Covered) (consumed reread : List String) :
    Covered { s with consumed := consumed, reread := reread } :=
  { h with
    jobs := fun job hjob => (h.jobs job hjob).mono rfl (fun _ => id) fun _ => id
    recording := h.recording.mono rfl fun _ => id }

/-- A remux makes the file of a closed segment. -/
theorem Covered.place (h : s.Covered) {answer : Answer} {g : CompletedSegment} {outputMp4 : String}
    (hg : g ∈ s.segments) (houtput : SegmentName s.output g.index outputMp4)
    (hs : s.place answer g.path outputMp4 = some s') : s'.Covered ∧ Published s'.written g.path := by
  obtain ⟨segment, size, -, rfl⟩ := place_cases hs
  have hfar : ¬SegmentName s.artefact s.segments.length outputMp4 :=
    fun hname => artefact_ne_output hname houtput rfl
  exact ⟨(h.touch _ _ (.inr hfar)).publish hg _ _, _, List.mem_cons_self, rfl⟩

/-- The artefact of a closed segment goes away. -/
theorem Covered.consume (h : s.Covered) (hseg : s.Segments) {g : CompletedSegment}
    (hg : g ∈ s.segments) : (s.consume g.path).Covered := by
  have hfar : ¬SegmentName s.artefact s.segments.length g.path := fun hname =>
    Nat.lt_irrefl _ (hseg.index_of_path hg hname ▸ hseg.index_lt hg)
  exact (h.touch _ none (.inr hfar)).history _ _

/-! ## The pool -/

theorem covered_runJob (h : s.Covered) (hseg : s.Segments) {job : SegmentRemuxJob} (answer : Answer)
    (hjob : s.JobOk job) :
    (s.runJob job answer).1.Covered ∧
      (s.runJob job answer).1.JobOk { job with stage := (s.runJob job answer).2 } := by
  obtain ⟨g, hg, hpath, houtput⟩ := hjob.segment
  unfold runJob
  cases hstage : job.stage with
  | queued =>
    dsimp only
    have hreads : (s.reads job.transientMkv).Covered := h.history _ _
    cases hplace : (s.reads job.transientMkv).place answer job.transientMkv job.outputMp4 with
    | none => exact ⟨hreads, hjob.segment, hjob.entry, fun _ hno => absurd rfl hno⟩
    | some placed =>
      rw [hpath] at hplace hreads
      obtain ⟨hcovered, hpublished⟩ := hreads.place hg houtput hplace
      obtain ⟨_, _, -, rfl⟩ := place_cases hplace
      exact ⟨hcovered, hjob.segment, hjob.entry, fun _ _ => hpath ▸ hpublished⟩
  | placed =>
    have hpublished := hjob.placed (by rw [hstage]; exact nofun) (by rw [hstage]; exact nofun)
    dsimp only
    split_ifs
    · refine ⟨?_, hjob.segment, hjob.entry, fun _ _ => hpublished⟩
      rw [hpath]
      exact h.consume hseg hg
    · exact ⟨h, hjob.segment, hjob.entry, fun _ _ => hpublished⟩
  | cleaned =>
    have hpublished := hjob.placed (by rw [hstage]; exact nofun) (by rw [hstage]; exact nofun)
    have hspent : ∀ entry ∈ s.manifest, some entry.id = job.manifestId →
        Published s.written entry.artefactPath := by
      intro entry hentry hid
      rw [(hjob.entry entry.id hid.symm).2 entry hentry rfl]
      exact hpublished
    exact ⟨h.remove hseg _ hspent, hjob.segment,
      hjob.entry.mono (fun entry hentry => (List.mem_filter.mp hentry).1) fun _ => id,
      fun _ _ => hpublished⟩
  | forgotten =>
    exact ⟨h, hjob.segment, hjob.entry,
      fun _ _ => hjob.placed (by rw [hstage]; exact nofun) (by rw [hstage]; exact nofun)⟩
  | completed succeeded =>
    refine ⟨h, hjob.segment, hjob.entry, fun hqueued hfailed => hjob.placed ?_ ?_⟩
    · rw [hstage]; exact hqueued
    · rw [hstage]; exact hfailed

theorem runJob_jobs {job : SegmentRemuxJob} {answer : Answer} :
    (s.runJob job answer).1.jobs = s.jobs := by
  unfold runJob
  cases job.stage with
  | queued =>
    dsimp only
    cases hplace : (s.reads job.transientMkv).place answer job.transientMkv job.outputMp4 with
    | none => rfl
    | some placed =>
      obtain ⟨_, _, -, rfl⟩ := place_cases hplace
      rfl
  | placed =>
    dsimp only
    split_ifs <;> rfl
  | _ => rfl

theorem covered_pool {answer : Answer} (h : s.Covered) (hseg : s.Segments)
    (hs : s.poolStep answer = some s') : s'.Covered := by
  obtain ⟨⟨done, job, waiting⟩, hnext, rfl⟩ := Option.map_eq_some_iff.mp hs
  obtain ⟨hjobs, -, -⟩ := mem_nextJob hnext
  have hmem : ∀ j, j ∈ done ∨ j ∈ waiting → j ∈ (s.runJob job answer).1.jobs := by
    intro j hj
    rw [runJob_jobs, hjobs, List.mem_append, List.mem_cons]
    exact hj.imp_right .inr
  obtain ⟨hcovered, hjob⟩ := covered_runJob h hseg answer
    (h.jobs job (by rw [hjobs]; exact List.mem_append_right _ List.mem_cons_self))
  refine hcovered.setJobs fun j hj => ?_
  rw [List.mem_append, List.mem_cons] at hj
  rcases hj with hj | rfl | hj
  · exact hcovered.jobs j (hmem j (.inl hj))
  · exact hjob
  · exact hcovered.jobs j (hmem j (.inr hj))

/-! ## The recording thread -/

/-- Each boundary inside an MP4 recording finds that a split was asked for, and no recording of
    another kind has one; the names of the next segment can be derived; and the stop of an MP4
    recording in several segments finds a job that was not reaped. -/
def Scheduled (s : Session) : Action → Prop
  | .mux answer =>
      match s.mux with
      | .exchange g => g.continues = true → s.container = .mp4 ∧ s.splitPending = true
      | .deriveNextMkv g _ _ => (s.derive answer s.artefact (g.index + 1)).isSome = true
      | .deriveNextFinal g _ _ _ => (s.derive answer s.output (g.index + 1)).isSome = true
      | _ => True
  | .recorder _ =>
      match s.recorder with
      | .built true _ => s.container = .mp4 → 1 < s.segments.length → s.segmentRemuxJobs ≠ []
      | _ => True
  | _ => True

instance (s : Session) (a : Action) : Decidable (s.Scheduled a) := by
  unfold Scheduled
  split <;> try split
  all_goals infer_instance

theorem Segments.single (hseg : s.Segments) (hlength : s.segments.length = 1) :
    ∃ g, s.segments = [g] ∧ g.index = 0 ∧ g.path = s.artefact := by
  obtain ⟨g, hg⟩ := List.length_eq_one_iff.mp hlength
  have hindex : g.index = 0 := by simpa [hg] using hseg.indexed
  have hname := hseg.named g (by rw [hg]; exact List.mem_singleton_self g)
  rw [hindex] at hname
  exact ⟨g, hg, hindex, hname⟩

/-- The current entry of a recording that has ended is its last segment's. -/
theorem Covered.current_last (h : s.Covered) (hclosed : s.mux = .closed) (hok : s.failed = false)
    {g : CompletedSegment} (hlast : s.segments.getLast? = some g) :
    Owns s.manifest s.nextId s.currentManifestId (· = g.path) := by
  have hcurrent := h.current
  rw [hclosed] at hcurrent
  refine hcurrent.mono (fun _ => id) fun path hpath => ?_
  obtain ⟨g', hlast', rfl⟩ := hpath hok
  rw [Option.some.inj (hlast.symm.trans hlast')]

/-- The last segment is published, and its entry goes. -/
theorem Covered.forget (h : s.Covered) (hseg : s.Segments) (hclosed : s.mux = .closed)
    (hok : s.failed = false) {g : CompletedSegment} (hlast : s.segments.getLast? = some g)
    (hpublished : Published s.written g.path) {recorder : Recorder}
    (hrecording : s.Recording recorder) :
    Covered { s.removeEntry s.currentManifestId with
      currentManifestId := none, recorder := recorder } := by
  have hcurrent := h.current_last hclosed hok hlast
  have hremoved := h.remove hseg s.currentManifestId fun entry hentry hid =>
    (hcurrent entry.id hid.symm).2 entry hentry rfl ▸ hpublished
  exact hremoved.takeId.setRecorder (hrecording.mono rfl fun _ => id)

theorem covered_built {succeeded : Bool} {ui : UiRecordingResult} {answer : Answer} (h : s.Covered)
    (hseg : s.Segments) (hrecorder : s.recorder = .built succeeded ui)
    (hG : s.Scheduled (.recorder answer))
    (hs : s.recorderStep answer = some s') : s'.Covered := by
  have hrecording := h.recording
  have hended := hseg.ended
  rw [hrecorder] at hrecording hended
  unfold Scheduled at hG
  unfold recorderStep at hs
  rw [hrecorder] at hs hG
  obtain rfl := Option.some.inj hs
  refine h.setRecorder ?_
  cases succeeded with
  | false => exact fun hok => absurd (hrecording.1 hok) (by decide)
  | true =>
    obtain ⟨hclosed, hok⟩ := hended rfl
    obtain ⟨g, hlast, -⟩ := hseg.closed hclosed hok
    have hpos : 0 < s.segments.length := List.length_pos_of_mem (List.mem_of_getLast? hlast)
    have hui := hrecording.2 rfl
    rw [if_neg (by decide)]
    split_ifs with hmp4 hjobs hempty
    · refine ⟨hmp4, ?_⟩
      have hfew := mt (hG hmp4) (not_not.mpr (List.isEmpty_iff.mp hjobs))
      omega
    · trivial
    · rw [hui, List.isEmpty_iff, List.map_eq_nil_iff] at hempty
      rw [hempty] at hpos
      exact absurd hpos (Nat.lt_irrefl 0)
    · have hone := (h.one hmp4).length
      obtain ⟨g, hg, -⟩ := hseg.single (by omega)
      exact ⟨g, hg, .inl (by rw [hui, hg]; rfl)⟩

theorem covered_publish {ui : UiRecordingResult} {done todo : List (Nat × String)} {answer : Answer}
    (h : s.Covered) (hseg : s.Segments) (hrecorder : s.recorder = .publish ui done todo) :
    (s.publishStep answer ui done todo).Covered := by
  have hrecording := h.recording
  rw [hrecorder] at hrecording
  obtain ⟨hclosed, hok⟩ := hseg.ended (by rw [hrecorder]; rfl)
  obtain ⟨g, hsegments, htodo⟩ := hrecording
  obtain ⟨g', hg', hindex, -⟩ := hseg.single (by rw [hsegments]; rfl)
  obtain rfl : g = g' := by simpa [hsegments] using hg'
  rcases htodo with rfl | ⟨rfl, hpublished⟩
  · unfold publishStep
    dsimp only
    rw [hindex]
    have hderive : s.derive answer s.output 0 = some s.output := rfl
    rw [hderive]
    dsimp only
    cases hpublish : s.publishFile answer 0 g.path s.output with
    | none => exact h.setRecorder fun hno => nomatch hno
    | some published =>
      obtain ⟨content, -, rfl⟩ := publishFile_cases hpublish
      have hmoved := ((h.touch g.path none (.inl hclosed)).touch s.output (some content)
        (.inl hclosed)).publish (g := g) (by rw [hsegments]; exact List.mem_singleton_self g) 0
          s.output
      refine hmoved.setRecorder ⟨g, hsegments, .inr ⟨rfl, ?_⟩⟩
      exact ⟨_, List.mem_cons_self, rfl⟩
  · refine h.setRecorder fun _ => ⟨hclosed, hok, fun g' hlast => ?_⟩
    rw [hsegments] at hlast
    obtain rfl := Option.some.inj hlast
    exact hpublished

theorem covered_recorder {answer : Answer} (h : s.Covered) (hseg : s.Segments)
    (hG : s.Scheduled (.recorder answer)) (hs : s.recorderStep answer = some s') : s'.Covered := by
  have hrecording := h.recording
  have hended := hseg.ended
  cases hrecorder : s.recorder with rw [hrecorder] at hrecording hended
  | built succeeded ui => exact covered_built h hseg hrecorder hG hs
  | record | posted =>
    unfold recorderStep at hs
    rw [hrecorder] at hs
    cases hs
  | returned succeeded =>
    unfold recorderStep at hs
    rw [hrecorder] at hs
    obtain rfl := Option.some.inj hs
    refine (h.flags s.liveContainer false s.splitAsked).setRecorder ?_
    exact ⟨fun hok => (Bool.and_eq_true_iff.mp hok).1, fun _ => rfl⟩
  | remux ui =>
    obtain ⟨hmp4, hlength⟩ := hrecording
    obtain ⟨g, hg, hindex, hpath⟩ := hseg.single hlength
    have hmem : g ∈ s.segments := by rw [hg]; exact List.mem_singleton_self g
    have hreads : ∀ path, (s.reads path).Covered := fun _ => h.history _ _
    unfold recorderStep at hs
    rw [hrecorder] at hs
    dsimp only at hs
    cases hplace : (s.reads s.artefact).place answer s.artefact s.output with rw [hplace] at hs
    | none =>
      obtain rfl := Option.some.inj hs
      exact (hreads s.artefact).takeId.setRecorder trivial
    | some placed =>
      obtain rfl := Option.some.inj hs
      rw [← hpath] at hplace
      obtain ⟨hcovered, hpublished⟩ := (hreads g.path).place hmem (by rw [hindex]; rfl) hplace
      have hpublished : Published placed.written s.artefact := hpath ▸ hpublished
      obtain ⟨_, _, -, rfl⟩ := place_cases hplace
      exact hcovered.setRecorder ⟨hmp4, hlength, hpublished⟩
  | editMaster ui =>
    obtain ⟨hmp4, hlength, hpublished⟩ := hrecording
    obtain ⟨g, hg, -, hpath⟩ := hseg.single hlength
    have hmem : g ∈ s.segments := by rw [hg]; exact List.mem_singleton_self g
    have hclosed := (hended rfl).1
    have hconsumed := h.consume hseg hmem
    rw [hpath] at hconsumed
    unfold recorderStep at hs
    rw [hrecorder] at hs
    obtain rfl := Option.some.inj hs
    split_ifs
    · exact (hconsumed.touch _ _ (.inl hclosed)).setRecorder ⟨hmp4, hlength, hpublished⟩
    · exact hconsumed.setRecorder ⟨hmp4, hlength, hpublished⟩
  | remuxForget ui =>
    obtain ⟨hmp4, hlength, hpublished⟩ := hrecording
    obtain ⟨g, hg, -, hpath⟩ := hseg.single hlength
    obtain ⟨hclosed, hok⟩ := hended rfl
    unfold recorderStep at hs
    rw [hrecorder] at hs
    obtain rfl := Option.some.inj hs
    exact h.forget hseg hclosed hok (g := g) (by rw [hg]; rfl) (hpath ▸ hpublished) trivial
  | deriveFinal ui =>
    unfold recorderStep at hs
    rw [hrecorder] at hs
    dsimp only at hs
    split at hs
    · next g hlast =>
      split_ifs at hs
      · obtain rfl := Option.some.inj hs
        exact h.setRecorder ⟨hlast, fun file hfile => segmentName_of_derive hfile⟩
      · obtain rfl := Option.some.inj hs
        exact h.takeId.setRecorder trivial
    · obtain rfl := Option.some.inj hs
      exact h.takeId.setRecorder trivial
  | queueFinal ui g target =>
    obtain ⟨hlast, hnoted⟩ := hrecording
    obtain ⟨hclosed, hok⟩ := hended rfl
    unfold recorderStep at hs
    rw [hrecorder] at hs
    obtain rfl := Option.some.inj hs
    have hjobs : ∀ job ∈ (s.queueFinal g target).jobs, s.JobOk job := by
      intro job hjob
      rcases List.mem_append.mp hjob with hjob | hjob
      · exact h.jobs job hjob
      · obtain ⟨outputMp4, htarget, rfl⟩ := Option.map_eq_some_iff.mp (Option.mem_toList.mp hjob)
        exact ⟨⟨g, List.mem_of_getLast? hlast, rfl, hnoted _ htarget⟩,
          h.current_last hclosed hok hlast, fun hno => absurd rfl hno⟩
    exact (h.setJobs hjobs).takeId.setRecorder trivial
  | drain ui =>
    unfold recorderStep at hs
    rw [hrecorder] at hs
    dsimp only at hs
    split at hs
    · obtain rfl := Option.some.inj hs
      refine h.setRecorder ?_
      split_ifs <;> trivial
    · cases hs
  | rewrite ui done todo totalBytes =>
    unfold recorderStep at hs
    rw [hrecorder] at hs
    obtain rfl := Option.some.inj hs
    refine h.setRecorder ?_
    unfold rewriteStep
    cases todo with
    | nil => trivial
    | cons p todo => cases hderive : s.derive answer s.output p.1 <;> simp only [hderive] <;> trivial
  | publish ui done todo =>
    unfold recorderStep at hs
    rw [hrecorder] at hs
    obtain rfl := Option.some.inj hs
    exact covered_publish h hseg hrecorder
  | publishWhole ui => exact hrecording.elim
  | forget ui =>
    unfold recorderStep at hs
    rw [hrecorder] at hs
    dsimp only at hs
    split_ifs at hs with hsucceeded
    · obtain rfl := Option.some.inj hs
      obtain ⟨hclosed, hok, hpublished⟩ := hrecording hsucceeded
      obtain ⟨g, hlast, -⟩ := hseg.closed hclosed hok
      exact h.forget hseg hclosed hok hlast (hpublished g hlast) trivial
    · obtain rfl := Option.some.inj hs
      exact h.takeId.setRecorder trivial
  | post ui =>
    unfold recorderStep at hs
    rw [hrecorder] at hs
    obtain rfl := Option.some.inj hs
    exact h.setRecorder trivial

/-! ## The engine's thread -/

theorem next_of_derive {answer : Answer} {path : String}
    (h : s.derive answer s.artefact s.segments.length = some path) : s.Next path := by
  refine ⟨segmentName_of_derive h, fun answer' name hname => ?_⟩
  have hfound : ∀ (denied : List String) d b,
      s.disk.probe denied (compose s.artefact s.segments.length d) = some b →
        (s.disk (compose s.artefact s.segments.length d)).isSome = b := by
    intro denied d b hb
    unfold Disk.probe at hb
    split_ifs at hb
    exact Option.some.inj hb
  exact derive_unique (hfound _) (hfound _) hname h

/-- While the engine's thread runs, the recording thread has seen no success. -/
theorem Recording.running (h : s.Recording s.recorder) (hseg : s.Segments) (hmux : s.mux ≠ .closed)
    (s' : Session) : s'.Recording s.recorder := by
  have hended : s.recorder.engineSucceeded = false := by
    by_contra hno
    exact hmux (hseg.ended (by simpa using hno)).1
  cases hrecorder : s.recorder with rw [hrecorder] at h hended
  | built succeeded ui =>
    obtain rfl : succeeded = false := hended
    exact ⟨h.1, fun hno => absurd hno (by decide)⟩
  | forget ui => exact fun hok => absurd (h hok).1 hmux
  | record | returned | post | posted => trivial
  | _ => exact nomatch hended

/-- A step of the callback that only goes on. -/
theorem Covered.goOn (h : s.Covered) (hseg : s.Segments) (hmux : s.mux ≠ .closed)
    (splitPending : Bool)
    (hcurrent : Owns s.manifest s.nextId s.currentManifestId (s.CurrentPath mux))
    (hengine : s.Engine mux) (hopened : mux.opened = none)
    (hone : s.container ≠ .mp4 → OneSegment s.segments mux) :
    Covered { s with splitPending := splitPending, mux := mux } :=
  { h with
    current := hcurrent.mono (fun _ => id) fun _ hpath => by cases mux <;> exact hpath
    engine := by cases mux <;> exact hengine
    jobs := fun job hjob =>
      ⟨(h.jobs job hjob).segment, (h.jobs job hjob).entry, (h.jobs job hjob).placed⟩
    opened := by rw [hopened]; exact nofun
    one := hone
    recording := h.recording.running hseg hmux _ }

theorem covered_push {g : CompletedSegment} (h : s.Covered) (hseg : s.Segments)
    (hmux : s.mux = .push g) :
    Covered { s with segments := s.segments ++ [g], mux := .exchange g } := by
  have hcurrent := h.current
  have hnamed := h.opened (g.index, g.path) (by rw [hmux]; rfl)
  have hopen : s.mux ≠ .closed := by rw [hmux]; exact nofun
  rw [hmux] at hcurrent
  exact { h with
    current := hcurrent
    engine := trivial
    jobs := by
      intro job hjob
      obtain ⟨g', hg', hjob'⟩ := (h.jobs job hjob).segment
      exact ⟨⟨g', List.mem_append_left _ hg', hjob'⟩, (h.jobs job hjob).entry,
        (h.jobs job hjob).placed⟩
    own := by
      intro w hw
      obtain ⟨g', hg', hpath⟩ := h.own w hw
      exact ⟨g', List.mem_append_left _ hg', hpath⟩
    named := by
      intro g' hg'
      rcases List.mem_append.mp hg' with hg' | hg'
      · exact h.named g' hg'
      · rw [List.mem_singleton.mp hg']
        exact .inr hnamed
    opened := nofun
    one := by
      intro hcontainer
      have hnil := (h.one hcontainer).first (by rw [hmux]; rfl)
      exact ⟨by rw [hnil]; exact Nat.le_refl 1, nofun, rfl, rfl⟩
    recording := h.recording.running hseg hopen _ }

theorem covered_addNext {g : CompletedSegment} {target : Option String} {thisId : Option Nat}
    {artefactPath finalOutputPath : String} (h : s.Covered) (hseg : s.Segments)
    (hmux : s.mux = .addNext g target thisId (some artefactPath) (some finalOutputPath)) :
    Covered { s with
      manifest := ⟨s.nextId, artefactPath, finalOutputPath⟩ :: s.manifest
      nextId := s.nextId + 1
      mux := .schedule g target thisId (some s.nextId) } := by
  have hcurrent := h.current
  have hengine := h.engine
  have hone := h.one
  have hopen : s.mux ≠ .closed := by rw [hmux]; exact nofun
  rw [hmux] at hcurrent hengine hone
  obtain ⟨hnoted, hthis, ⟨path, heq, hnext⟩, -⟩ := hengine
  obtain rfl := Option.some.inj heq
  have hmore : ∀ {path : String}, Named s.manifest path →
      Named (⟨s.nextId, artefactPath, finalOutputPath⟩ :: s.manifest) path :=
    fun ⟨entry, hentry, hpath⟩ => ⟨entry, List.mem_cons_of_mem _ hentry, hpath⟩
  exact { h with
    ids := by
      intro entry hentry
      rcases List.mem_cons.mp hentry with rfl | hentry
      · exact Nat.lt_succ_self _
      · exact Nat.lt_succ_of_lt (h.ids entry hentry)
    current := hcurrent.add _ _
    engine := ⟨hnoted, hthis.add _ _, owns_new h.ids hnext, artefactPath, hnext, _, List.mem_cons_self,
      rfl⟩
    jobs := fun job hjob => ⟨(h.jobs job hjob).segment, (h.jobs job hjob).entry.add _ _,
      (h.jobs job hjob).placed⟩
    named := fun g' hg' => (h.named g' hg').imp_right hmore
    opened := nofun
    one := fun hcontainer => absurd (hone hcontainer).scheduling (by exact nofun)
    recording := h.recording.running hseg hopen _ }

theorem covered_schedule {g : CompletedSegment} {target : Option String} {thisId nextId : Option Nat}
    (h : s.Covered) (hseg : s.Segments) (hmux : s.mux = .schedule g target thisId nextId) :
    Covered { s with
      currentManifestId := nextId
      jobs := s.jobs ++ (target.map fun outputMp4 =>
        { transientMkv := g.path, outputMp4 := outputMp4, manifestId := thisId }).toList
      mux := .reap g } := by
  have hengine := h.engine
  have hone := h.one
  have hopen : s.mux ≠ .closed := by rw [hmux]; exact nofun
  have hlast := hseg.last g (by rw [hmux]; rfl)
  rw [hmux] at hengine hone
  obtain ⟨hnoted, hthis, hid, hnext⟩ := hengine
  exact { h with
    current := hid
    engine := hnext
    jobs := by
      intro job hjob
      rcases List.mem_append.mp hjob with hjob | hjob
      · exact ⟨(h.jobs job hjob).segment, (h.jobs job hjob).entry, (h.jobs job hjob).placed⟩
      · obtain ⟨outputMp4, htarget, rfl⟩ := Option.map_eq_some_iff.mp (Option.mem_toList.mp hjob)
        exact ⟨⟨g, List.mem_of_getLast? hlast, rfl, hnoted _ htarget⟩, hthis,
          fun hno => absurd rfl hno⟩
    opened := nofun
    one := fun hcontainer => absurd (hone hcontainer).scheduling (by exact nofun)
    recording := h.recording.running hseg hopen _ }

theorem covered_reap {g : CompletedSegment} {reapedSegmentRemuxFailed : Bool} (h : s.Covered)
    (hseg : s.Segments) (hmux : s.mux = .reap g) :
    Covered { s with
      reapedSegmentRemuxFailed := reapedSegmentRemuxFailed
      jobs := s.jobs.map fun job => { job with reaped := job.reaped || job.stage.isCompleted }
      mux := afterCallback g } := by
  have hcurrent := h.current
  have hengine := h.engine
  have hone := h.one
  have hopen : s.mux ≠ .closed := by rw [hmux]; exact nofun
  have hcontinues := hseg.scheduling (by rw [hmux]; rfl) g (by rw [hmux]; rfl)
  rw [hmux] at hcurrent hengine hone
  rw [afterCallback_of_continues hcontinues]
  exact { h with
    current := hcurrent
    engine := hengine
    jobs := by
      intro job hjob
      obtain ⟨old, hold, rfl⟩ := List.mem_map.mp hjob
      exact ⟨(h.jobs old hold).segment, (h.jobs old hold).entry, (h.jobs old hold).placed⟩
    opened := nofun
    one := fun hcontainer => absurd (hone hcontainer).scheduling (by exact nofun)
    recording := h.recording.running hseg hopen _ }

theorem covered_openNext {answer : Answer} {index : Nat} (h : s.Covered) (hseg : s.Segments)
    (hmux : s.mux = .openNext index) (hs : s.muxStep answer = some s') : s'.Covered := by
  have hcurrent := h.current
  have hengine := h.engine
  have hone := h.one
  have hopen : s.mux ≠ .closed := by rw [hmux]; exact nofun
  obtain ⟨hindex, -⟩ := hseg.next index (by rw [hmux]; rfl)
  rw [hmux] at hcurrent hengine hone
  have hfail : Covered { s with failed := true, mux := .closed } :=
    { h with
      current := hcurrent.mono (fun _ => id) fun _ _ hno => nomatch hno
      engine := trivial
      jobs := fun job hjob =>
        ⟨(h.jobs job hjob).segment, (h.jobs job hjob).entry, (h.jobs job hjob).placed⟩
      opened := nofun
      one := fun hcontainer => ⟨(hone hcontainer).length, nofun, rfl, rfl⟩
      recording := h.recording.running hseg hopen _ }
  unfold muxStep at hs
  rw [hmux] at hs
  dsimp only at hs
  split at hs
  · next path hrecorder hderive =>
    rw [hindex] at hderive
    split_ifs at hs
    · obtain rfl := Option.some.inj hs
      obtain ⟨path', hnext, hnamed⟩ := hengine
      obtain rfl := hnext.2 answer path hderive
      exact { h with
        current := hcurrent.mono (fun _ => id) fun path' hpath' => (hpath'.2 answer path hderive).symm
        engine := trivial
        jobs := fun job hjob =>
          ⟨(h.jobs job hjob).segment, (h.jobs job hjob).entry, (h.jobs job hjob).placed⟩
        opened := by rintro p ⟨⟩; exact hnamed
        one := fun hcontainer => absurd (hone hcontainer).next (by exact nofun)
        recording := h.recording.running hseg hopen _ }
    · obtain rfl := Option.some.inj hs
      exact hfail
  · obtain rfl := Option.some.inj hs
    exact hfail

theorem covered_exchange {answer : Answer} {g : CompletedSegment} (h : s.Covered) (hseg : s.Segments)
    (hmux : s.mux = .exchange g) (hG : s.Scheduled (.mux answer))
    (hs : s.muxStep answer = some s') : s'.Covered := by
  have hcurrent := h.current
  have hone := h.one
  have hopen : s.mux ≠ .closed := by rw [hmux]; intro hclosed; cases hclosed
  have hlast := hseg.last g (by rw [hmux]; rfl)
  unfold Scheduled at hG
  rw [hmux] at hcurrent hone hG
  rw [muxStep, hmux] at hs
  obtain rfl := Option.some.inj hs
  cases hcontinues : g.continues with
  | true =>
    obtain ⟨hmp4, hpending⟩ := hG hcontinues
    simp only [CompletedSegment.continues, Bool.and_eq_true, Bool.not_eq_true'] at hcontinues
    rw [if_pos (by simp [hmp4, hpending, hcontinues])]
    exact h.goOn hseg hopen false hcurrent trivial rfl fun hcontainer => absurd hmp4 hcontainer
  | false =>
    have hno : (!g.sessionEnd && s.splitPending && g.succeeded && s.container == .mp4) = false := by
      simp only [CompletedSegment.continues, Bool.and_eq_false_iff, Bool.not_eq_false'] at hcontinues
      rcases hcontinues with hfailed | hend
      · simp [hfailed]
      · simp [hend]
    rw [if_neg (by rw [hno]; decide), afterCallback_of_not_continues hcontinues]
    refine h.goOn hseg hopen false ?_ trivial rfl
      fun hcontainer => ⟨(hone hcontainer).length, (by intros; contradiction), rfl, rfl⟩
    exact hcurrent.mono (fun _ => id) fun path hpath _ => ⟨g, hlast, hpath⟩

theorem covered_mux {answer : Answer} (h : s.Covered) (hseg : s.Segments)
    (hG : s.Scheduled (.mux answer)) (hs : s.muxStep answer = some s') : s'.Covered := by
  have hcurrent := h.current
  have hengine := h.engine
  have hone := h.one
  have hlast := hseg.last
  have hopen : s.mux ≠ .closed := by
    intro hmux
    rw [muxStep, hmux] at hs
    exact nomatch hs
  cases hmux : s.mux with
  | openNext index => exact covered_openNext h hseg hmux hs
  | writing | closed =>
    rw [muxStep, hmux] at hs
    cases hs
  | push g =>
    rw [muxStep, hmux] at hs
    obtain rfl := Option.some.inj hs
    exact covered_push h hseg hmux
  | exchange g => exact covered_exchange h hseg hmux hG hs
  | deriveTarget g =>
    rw [hmux] at hcurrent hone
    rw [muxStep, hmux] at hs
    obtain rfl := Option.some.inj hs
    exact h.goOn hseg hopen s.splitPending hcurrent
      (fun file hfile => segmentName_of_derive hfile) rfl
      fun hcontainer => absurd (hone hcontainer).scheduling (by exact nofun)
  | readId g target =>
    rw [hmux] at hcurrent hengine hone
    rw [muxStep, hmux] at hs
    obtain rfl := Option.some.inj hs
    exact h.goOn hseg hopen s.splitPending hcurrent ⟨hengine, hcurrent⟩ rfl
      fun hcontainer => absurd (hone hcontainer).scheduling (by exact nofun)
  | deriveNextMkv g target thisId =>
    rw [hmux] at hcurrent hengine hone hlast
    unfold Scheduled at hG
    rw [hmux] at hG
    rw [muxStep, hmux] at hs
    obtain rfl := Option.some.inj hs
    obtain ⟨path, hpath⟩ := Option.isSome_iff_exists.mp hG
    have hnext := hpath
    rw [hseg.index_of_getLast (hlast g rfl)] at hnext
    exact h.goOn hseg hopen s.splitPending hcurrent
      ⟨hengine.1, hengine.2, path, hpath, next_of_derive hnext⟩ rfl
      fun hcontainer => absurd (hone hcontainer).scheduling (by exact nofun)
  | deriveNextFinal g target thisId nextMkv =>
    rw [hmux] at hcurrent hengine hone
    unfold Scheduled at hG
    rw [hmux] at hG
    rw [muxStep, hmux] at hs
    obtain rfl := Option.some.inj hs
    exact h.goOn hseg hopen s.splitPending hcurrent ⟨hengine.1, hengine.2.1, hengine.2.2, hG⟩ rfl
      fun hcontainer => absurd (hone hcontainer).scheduling (by exact nofun)
  | addNext g target thisId nextMkv nextFinal =>
    rw [hmux] at hengine
    obtain ⟨-, -, ⟨artefactPath, rfl, -⟩, hfinal⟩ := hengine
    obtain ⟨finalOutputPath, rfl⟩ := Option.isSome_iff_exists.mp hfinal
    rw [muxStep, hmux] at hs
    obtain rfl := Option.some.inj hs
    exact covered_addNext h hseg hmux
  | schedule g target thisId nextId =>
    rw [muxStep, hmux] at hs
    obtain rfl := Option.some.inj hs
    exact covered_schedule h hseg hmux
  | reap g =>
    rw [muxStep, hmux] at hs
    obtain rfl := Option.some.inj hs
    exact covered_reap h hseg hmux

theorem covered_finalize {answer : Answer} {sessionEnd : Bool} (h : s.Covered) (hseg : s.Segments)
    (hs : s.finalize answer sessionEnd = some s') : s'.Covered := by
  have hcurrent := h.current
  have hone := h.one
  have hnamed := h.opened
  unfold finalize at hs
  split at hs
  · next index path hrecorder hmux =>
    have hopen : s.mux ≠ .closed := by rw [hmux]; exact nofun
    rw [hmux] at hcurrent hone hnamed
    obtain rfl := Option.some.inj hs
    exact { h with
      current := hcurrent
      engine := trivial
      jobs := fun job hjob =>
        ⟨(h.jobs job hjob).segment, (h.jobs job hjob).entry, (h.jobs job hjob).placed⟩
      opened := hnamed
      one := fun hcontainer =>
        ⟨(hone hcontainer).length, fun _ => (hone hcontainer).first rfl, rfl, rfl⟩
      recording := h.recording.running hseg hopen _ }
  · cases hs

theorem covered_returns {answer : Answer} (h : s.Covered) (hs : s.returns answer = some s') :
    s'.Covered := by
  unfold returns at hs
  split at hs
  · split_ifs at hs
    obtain rfl := Option.some.inj hs
    exact h.setRecorder trivial
  · cases hs

end

theorem covered_step {s s' : Session} {a : Action} (h : s.Covered) (hseg : s.Segments)
    (hG : s.Scheduled a) (hs : s.step a = some s') : s'.Covered := by
  cases a with
  | setContainer container =>
    obtain rfl := Option.some.inj hs
    exact h.flags container s.splitPending s.splitAsked
  | requestSplit =>
    obtain rfl := Option.some.inj hs
    unfold requestSplit
    split_ifs
    · exact h.flags s.liveContainer true true
    · exact h
  | splitAnswered answer =>
    obtain rfl := Option.some.inj hs
    unfold splitAnswered
    split_ifs
    · exact h.flags s.liveContainer _ false
    · exact h
  | boundary answer => exact covered_finalize h hseg hs
  | stop answer => exact covered_finalize h hseg hs
  | mux answer => exact covered_mux h hseg hG hs
  | returns answer => exact covered_returns h hs
  | pool answer => exact covered_pool h hseg hs
  | recorder answer => exact covered_recorder h hseg hG hs

theorem covered_exec {s s' : Session} {as : List Action} (hseg : s.Segments) (h : s.Covered)
    (hG : StepRun.Meets step Scheduled s as) (hs : s.exec as = some s') : s'.Covered :=
  (StepRun.exec_invariant (I := fun s => s.Segments ∧ s.Covered) (fun _ _ _ hI hg hstep =>
    ⟨segments_step hI.1 hstep, covered_step hI.2 hI.1 hg hstep⟩) ⟨hseg, h⟩ hG hs).2

/-! ## What the manifest covers -/

structure ArtefactsCovered (s : Session) : Prop where
  writing : ∀ index path, s.mux = .writing index path → Named s.manifest path
  closed : ∀ g, s.mux = .push g → Named s.manifest g.path
  finalized : ∀ g ∈ s.segments, Published s.written g.path ∨ Named s.manifest g.path
  dropped : ∀ entry ∈ s.dropped, Published s.written entry.artefactPath

/-- In every run whose steps are all as `Scheduled` says. -/
theorem artefacts_covered {disk : Disk} {s s' : Session} {as : List Action} (h : Starts disk s)
    (hG : StepRun.Meets step Scheduled s as) (hs : s.exec as = some s') : s'.ArtefactsCovered := by
  have hcovered := covered_exec (segments_start h) (covered_start h) hG hs
  exact {
    writing := fun index path hmux => hcovered.opened (index, path) (by rw [hmux]; rfl)
    closed := fun g hmux => hcovered.opened (g.index, g.path) (by rw [hmux]; rfl)
    finalized := hcovered.named
    dropped := hcovered.dropped }

/-- An MP4 recording that is split once, while its second segment is written. -/
theorem artefacts_covered_split :
    ∃ s, (clipStart .mp4).exec splitActions = some s ∧ s.ArtefactsCovered := by
  obtain ⟨s, hs⟩ := Option.isSome_iff_exists.mp
    (show ((clipStart .mp4).exec splitActions).isSome = true by decide)
  exact ⟨s, hs, artefacts_covered (clip_starts .mp4) (by decide) hs⟩

/-- The second segment of a Matroska recording is written to a file that no entry names. -/
theorem second_segment_unnamed :
    ¬ ∀ (disk : Disk) (s s' : Session) (as : List Action), Starts disk s → s.exec as = some s' →
      s'.ArtefactsCovered := by
  intro h
  obtain ⟨s, hs, hview⟩ := (Option.any_eq_true _ _).mp (show ((clipStart .matroska).exec
    boundaryActions).any (fun s => s.mux == .writing 1 "Clip.mkv_part-002.partial" &&
      s.manifest.all (·.artefactPath != "Clip.mkv_part-002.partial")) = true by decide)
  simp only [Bool.and_eq_true, beq_iff_eq, List.all_eq_true, bne_iff_ne] at hview
  obtain ⟨entry, hentry, hpath⟩ := (h _ _ s _ (clip_starts .matroska) hs).writing _ _ hview.1
  exact hview.2 entry hentry hpath

end Session

end Exosnap.Split
