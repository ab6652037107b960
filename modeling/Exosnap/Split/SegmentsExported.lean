/-
  The segments of an MP4 recording: each is remuxed, or lies in its artefact with an entry that names
  it, and the recording succeeds only if every segment was remuxed.

  This takes boundaries that were asked for. A segment the engine ends on its own gets no job and no
  entry, and a recording that has no job left is finished like one with a single segment.
-/
import Exosnap.Split.ArtefactsCovered

namespace Exosnap.Split

open Capability (Container)

def Holds (disk : Disk) (path : String) (content : Content) : Prop :=
  ∃ bytes, disk path = some ⟨content, bytes⟩

theorem Holds.update {disk : Disk} {path file : String} {file? : Option File} {content : Content}
    (h : Holds disk path content) (hne : path ≠ file) :
    Holds (Function.update disk file file?) path content := by
  obtain ⟨bytes, hbytes⟩ := h
  exact ⟨bytes, (Function.update_of_ne hne _ _).trans hbytes⟩

theorem holds_update {disk : Disk} {path : String} {content : Content} {bytes : Nat} :
    Holds (Function.update disk path (some ⟨content, bytes⟩)) path content :=
  ⟨bytes, Function.update_self _ _ _⟩

/-- The segment whose callback has not queued its remux yet. -/
def Mux.unscheduled : Mux → Option CompletedSegment
  | .exchange g | .deriveTarget g | .readId g _ | .deriveNextMkv g _ _ | .deriveNextFinal g _ _ _
  | .addNext g _ _ _ _ | .schedule g _ _ _ => some g
  | _ => none

/-- The name the callback has derived for the remux. -/
def Mux.target : Mux → Option (Option String)
  | .readId _ target | .deriveNextMkv _ target _ | .deriveNextFinal _ target _ _
  | .addNext _ target _ _ _ | .schedule _ target _ _ => some target
  | _ => none

/-- The last remux is queued or done, or none will be. -/
def Recorder.final : Recorder → Bool
  | .record | .returned _ | .built _ _ | .remux _ | .editMaster _ | .deriveFinal _
  | .queueFinal _ _ _ => false
  | _ => true

/-- Where the recording thread is. -/
def Exporting (segments : List CompletedSegment) (jobs : List SegmentRemuxJob)
    (written : List Written) (mux : Mux) : Recorder → Prop
  | .queueFinal _ _ target => target.isSome = true
  | .drain _ => ∀ g, segments.getLast? = some g → ∃ job ∈ jobs, job.transientMkv = g.path
  | .rewrite _ _ _ _ => ∀ g ∈ segments, Published written g.path
  | .publish _ _ _ | .publishWhole _ => False
  | .forget ui => ui.succeeded = false
  | .post ui | .posted ui =>
      ui.succeeded = true → mux = .closed ∧ ∀ g ∈ segments, Published written g.path
  | .record | .returned _ | .built _ _ | .remux _ | .editMaster _ | .remuxForget _ | .deriveFinal _ =>
      True

namespace Session

structure Exported (s : Session) : Prop where
  held : ∀ g ∈ s.segments, g.path ∈ s.consumed ∨ Holds s.disk g.path (.mkv g.index)
  closed : ∀ g, s.mux = .push g → Holds s.disk g.path (.mkv g.index)
  written : ∀ w ∈ s.written, SegmentName s.output w.segment w.file ∧
    Holds s.disk w.file (.mp4 w.segment)
  own : ∀ w ∈ s.written, ∃ g ∈ s.segments, w.artefact = g.path ∧ w.segment = g.index
  consumed : ∀ path ∈ s.consumed, Published s.written path ∧
    ((∃ job ∈ s.jobs, job.transientMkv = path) ∨ s.mux = .closed ∧ s.recorder.final = true)
  distinct : (s.jobs.map SegmentRemuxJob.transientMkv).Nodup
  unread : ∀ job ∈ s.jobs, job.stage = .queued → job.transientMkv ∉ s.consumed
  /-- Every segment but the last goes on. -/
  earlier : ∀ g ∈ s.segments, g.continues = true ∨ s.segments.getLast? = some g
  onward : (s.mux.opened.isSome = true ∨ s.mux.next.isSome = true) →
    ∀ g ∈ s.segments, g.continues = true
  unscheduled : ∀ g ∈ s.mux.unscheduled, ∀ job ∈ s.jobs, job.transientMkv ≠ g.path
  scheduled : ∀ g ∈ s.segments, g.continues = true →
    s.mux.unscheduled = some g ∨ ∃ job ∈ s.jobs, job.transientMkv = g.path
  target : ∀ target ∈ s.mux.target, target.isSome = true
  ongoing : s.recorder.final = false → ∀ job ∈ s.jobs, ∃ g ∈ s.segments,
    job.transientMkv = g.path ∧ g.continues = true
  reaped : ∀ job ∈ s.jobs, job.reaped = true →
    job.stage = .completed true ∨ s.reapedSegmentRemuxFailed = true
  reread : s.reread = []
  recording : Exporting s.segments s.jobs s.written s.mux s.recorder

theorem exported_start {disk : Disk} {s : Session} (h : Starts disk s) : s.Exported := by
  obtain ⟨container, name, manifest, id, -, -, -, rfl⟩ := h
  exact {
    held := nofun
    closed := nofun
    written := nofun
    own := nofun
    consumed := nofun
    distinct := List.nodup_nil
    unread := nofun
    earlier := nofun
    onward := nofun
    unscheduled := nofun
    scheduled := nofun
    target := nofun
    ongoing := nofun
    reaped := nofun
    reread := rfl
    recording := trivial }

/-- The remuxes have names as well. -/
def Exports (s : Session) (a : Action) : Prop :=
  s.Scheduled a ∧
    match a with
    | .mux answer =>
        match s.mux with
        | .deriveTarget g => (s.derive answer s.output g.index).isSome = true
        | _ => True
    | .recorder answer =>
        match s.recorder with
        | .deriveFinal _ =>
            ∀ g ∈ s.segments.getLast?, (s.derive answer s.output g.index).isSome = true
        | _ => True
    | _ => True

/-- `Exports`, as a test. -/
def exports (s : Session) (a : Action) : Bool :=
  decide (s.Scheduled a) &&
    match a with
    | .mux answer =>
        match s.mux with
        | .deriveTarget g => (s.derive answer s.output g.index).isSome
        | _ => true
    | .recorder answer =>
        match s.recorder with
        | .deriveFinal _ =>
            s.segments.getLast?.all fun g => (s.derive answer s.output g.index).isSome
        | _ => true
    | _ => true

theorem exports_iff (s : Session) (a : Action) : s.exports a = true ↔ s.Exports a := by
  unfold exports Exports
  rw [Bool.and_eq_true, decide_eq_true_iff]
  refine and_congr_right fun _ => ?_
  cases a with
  | mux answer => cases hmux : s.mux <;> simp
  | recorder answer => cases hrecorder : s.recorder <;> simp [Option.all_eq_true]
  | _ => simp

instance (s : Session) (a : Action) : Decidable (s.Exports a) :=
  decidable_of_iff _ (s.exports_iff a)

section
variable {s s' : Session} {answer : Answer}

/-! ## The engine's thread -/

theorem Exported.running (h : s.Exported) (hseg : s.Segments) (hmux : s.mux ≠ .closed)
    (segments : List CompletedSegment) (jobs : List SegmentRemuxJob) (mux : Mux) :
    Exporting segments jobs s.written mux s.recorder := by
  have hrecording := h.recording
  have hended : s.recorder.engineSucceeded = false := by
    by_contra hno
    exact hmux (hseg.ended (by simpa using hno)).1
  cases hrecorder : s.recorder with rw [hrecorder] at hrecording hended
  | forget => exact hrecording
  | post | posted => exact fun hok => absurd (hrecording hok).1 hmux
  | record | returned | built => trivial
  | _ => exact nomatch hended

/-- The consumed artefacts, while the engine's thread runs. -/
theorem Exported.consumed_running (h : s.Exported) (hmux : s.mux ≠ .closed) {path : String}
    (hpath : path ∈ s.consumed) :
    Published s.written path ∧ ∃ job ∈ s.jobs, job.transientMkv = path :=
  ⟨(h.consumed path hpath).1, (h.consumed path hpath).2.resolve_right fun hclosed => hmux hclosed.1⟩

theorem exported_finalize {sessionEnd : Bool} (h : s.Exported) (hseg : s.Segments)
    (hs : s.finalize answer sessionEnd = some s') : s'.Exported := by
  have honward := h.onward
  have hopened := hseg.opened
  have hscheduled := h.scheduled
  unfold finalize at hs
  split at hs
  · next index path hrecorder hmux =>
    have hopen : s.mux ≠ .closed := by rw [hmux]; exact nofun
    rw [hmux] at honward hopened hscheduled
    obtain ⟨hindex, hname⟩ := hopened (index, path) rfl
    obtain rfl := Option.some.inj hs
    exact { h with
      held := by
        intro g hg
        refine (h.held g hg).imp_right fun hholds => hholds.update ?_
        rintro rfl
        have := hseg.index_of_path hg hname
        exact absurd (this ▸ hseg.index_lt hg) (by rw [← hindex]; exact Nat.lt_irrefl _)
      closed := by
        rintro g ⟨⟩
        exact holds_update
      written := by
        intro w hw
        obtain ⟨hfile, hholds⟩ := h.written w hw
        exact ⟨hfile, hholds.update (artefact_ne_output hname hfile).symm⟩
      consumed := fun path hpath =>
        ⟨(h.consumed_running hopen hpath).1, .inl (h.consumed_running hopen hpath).2⟩
      onward := fun _ => honward (.inl rfl)
      unscheduled := nofun
      scheduled := hscheduled
      target := nofun
      recording := h.running hseg hopen _ _ _ }
  · cases hs

theorem exported_returns (h : s.Exported) (hs : s.returns answer = some s') : s'.Exported := by
  unfold returns at hs
  split at hs
  · next hrecorder =>
    split_ifs at hs
    obtain rfl := Option.some.inj hs
    exact { h with
      consumed := by
        intro path hpath
        have hconsumed := h.consumed path hpath
        rw [hrecorder] at hconsumed
        exact ⟨hconsumed.1, hconsumed.2.imp_right fun hno => absurd hno.2 (by decide)⟩
      ongoing := fun _ => h.ongoing (by rw [hrecorder]; rfl)
      recording := trivial }
  · cases hs

/-- A step of the callback that goes on with the same segment. -/
theorem Exported.goOn (h : s.Exported) (hseg : s.Segments) (hopen : s.mux ≠ .closed)
    (manifest : List RecoveryManifestEntry) (nextId : Nat) (splitPending : Bool) {mux : Mux}
    (hunscheduled : mux.unscheduled = s.mux.unscheduled)
    (htarget : ∀ target ∈ mux.target, target.isSome = true) (hopened : mux.opened = none)
    (hnext : mux.next = none) :
    Exported { s with
      manifest := manifest, nextId := nextId, splitPending := splitPending, mux := mux } :=
  { h with
    closed := by
      rintro g rfl
      exact nomatch hopened
    consumed := fun path hpath =>
      ⟨(h.consumed_running hopen hpath).1, .inl (h.consumed_running hopen hpath).2⟩
    onward := by simp [hopened, hnext]
    unscheduled := by rw [hunscheduled]; exact h.unscheduled
    scheduled := by rw [hunscheduled]; exact h.scheduled
    target := htarget
    recording := h.running hseg hopen _ _ _ }

theorem exported_push {g : CompletedSegment} (h : s.Exported) (hseg : s.Segments)
    (hcovered : s.Covered) (hmux : s.mux = .push g) :
    Exported { s with segments := s.segments ++ [g], mux := .exchange g } := by
  have hopen : s.mux ≠ .closed := by rw [hmux]; exact nofun
  have hscheduled := h.scheduled
  obtain ⟨hindex, hname⟩ := hseg.opened (g.index, g.path) (by rw [hmux]; rfl)
  rw [hmux] at hscheduled
  exact { h with
    held := by
      intro g' hg'
      rcases List.mem_append.mp hg' with hg' | hg'
      · exact h.held g' hg'
      · rw [List.mem_singleton.mp hg']
        exact .inr (h.closed g hmux)
    closed := nofun
    own := by
      intro w hw
      obtain ⟨g', hg', heq⟩ := h.own w hw
      exact ⟨g', List.mem_append_left _ hg', heq⟩
    consumed := fun path hpath =>
      ⟨(h.consumed_running hopen hpath).1, .inl (h.consumed_running hopen hpath).2⟩
    earlier := by
      intro g' hg'
      rcases List.mem_append.mp hg' with hg' | hg'
      · exact .inl (h.onward (.inl (by rw [hmux]; rfl)) g' hg')
      · rw [List.mem_singleton.mp hg']
        exact .inr List.getLast?_concat
    onward := by rintro (hno | hno) <;> exact nomatch hno
    unscheduled := by
      rintro _ ⟨⟩ job hjob hpath
      obtain ⟨g', hg', hpath', -⟩ := (hcovered.jobs job hjob).segment
      have := hseg.index_of_path hg' ((hpath'.symm.trans hpath) ▸ hname)
      exact absurd (this ▸ hseg.index_lt hg') (by rw [← hindex]; exact Nat.lt_irrefl _)
    scheduled := by
      intro g' hg' hcontinues
      rcases List.mem_append.mp hg' with hg' | hg'
      · exact .inr ((hscheduled g' hg' hcontinues).resolve_left nofun)
      · rw [List.mem_singleton.mp hg']
        exact .inl rfl
    target := nofun
    ongoing := by
      intro hfinal job hjob
      obtain ⟨g', hg', heq⟩ := h.ongoing hfinal job hjob
      exact ⟨g', List.mem_append_left _ hg', heq⟩
    recording := h.running hseg hopen _ _ _ }

theorem exported_exchange {g : CompletedSegment} (h : s.Exported) (hseg : s.Segments)
    (hmux : s.mux = .exchange g) (hG : s.Scheduled (.mux answer))
    (hs : s.muxStep answer = some s') : s'.Exported := by
  have hopen : s.mux ≠ .closed := by rw [hmux]; intro hclosed; cases hclosed
  have hscheduled := h.scheduled
  unfold Scheduled at hG
  rw [hmux] at hG hscheduled
  rw [muxStep, hmux] at hs
  obtain rfl := Option.some.inj hs
  cases hcontinues : g.continues with
  | true =>
    obtain ⟨hmp4, hpending⟩ := hG hcontinues
    simp only [CompletedSegment.continues, Bool.and_eq_true, Bool.not_eq_true'] at hcontinues
    rw [if_pos (by simp [hmp4, hpending, hcontinues])]
    exact h.goOn hseg hopen _ _ _ (by rw [hmux]; rfl) (by intros; contradiction) rfl rfl
  | false =>
    have hno : (!g.sessionEnd && s.splitPending && g.succeeded && s.container == .mp4) = false := by
      simp only [CompletedSegment.continues, Bool.and_eq_false_iff, Bool.not_eq_false'] at hcontinues
      rcases hcontinues with hfailed | hend
      · simp [hfailed]
      · simp [hend]
    rw [if_neg (by rw [hno]; decide), afterCallback_of_not_continues hcontinues]
    exact { h with
      closed := by intros; contradiction
      consumed := fun path hpath =>
        ⟨(h.consumed_running hopen hpath).1, .inl (h.consumed_running hopen hpath).2⟩
      onward := by rintro (hno | hno) <;> cases hno
      unscheduled := by intros; contradiction
      scheduled := by
        intro g' hg' hcontinues'
        refine .inr ((hscheduled g' hg' hcontinues').resolve_left ?_)
        rintro ⟨⟩
        exact absurd (hcontinues.symm.trans hcontinues') (by decide)
      target := by intros; contradiction
      recording := h.running hseg hopen _ _ _ }

theorem exported_schedule {g : CompletedSegment} {outputMp4 : String} {thisId nextId : Option Nat}
    (h : s.Exported) (hseg : s.Segments) (hmux : s.mux = .schedule g (some outputMp4) thisId nextId) :
    Exported { s with
      currentManifestId := nextId
      jobs := s.jobs ++ [{ transientMkv := g.path, outputMp4 := outputMp4, manifestId := thisId }]
      mux := .reap g } := by
  have hopen : s.mux ≠ .closed := by rw [hmux]; exact nofun
  have hscheduled := h.scheduled
  have hnew := h.unscheduled g (by rw [hmux]; rfl)
  have hlast := hseg.last g (by rw [hmux]; rfl)
  have hcontinues := hseg.scheduling (by rw [hmux]; rfl) g (by rw [hmux]; rfl)
  rw [hmux] at hscheduled
  exact { h with
    closed := nofun
    consumed := by
      intro path hpath
      obtain ⟨hpublished, job, hjob, heq⟩ := h.consumed_running hopen hpath
      exact ⟨hpublished, .inl ⟨job, List.mem_append_left _ hjob, heq⟩⟩
    distinct := by
      rw [List.map_append]
      refine List.Nodup.append h.distinct (List.nodup_singleton _) fun path hpath hg => ?_
      obtain ⟨job, hjob, rfl⟩ := List.mem_map.mp hpath
      exact hnew job hjob (List.mem_singleton.mp hg)
    unread := by
      intro job hjob hqueued
      rcases List.mem_append.mp hjob with hjob | hjob
      · exact h.unread job hjob hqueued
      · rw [List.mem_singleton.mp hjob]
        intro hconsumed
        obtain ⟨-, job', hjob', heq⟩ := h.consumed_running hopen hconsumed
        exact hnew job' hjob' heq
    onward := by rintro (hno | hno) <;> exact nomatch hno
    unscheduled := nofun
    scheduled := by
      intro g' hg' hcontinues'
      rcases hscheduled g' hg' hcontinues' with heq | ⟨job, hjob, heq⟩
      · rw [← Option.some.inj heq]
        exact .inr ⟨_, List.mem_append_right _ (List.mem_singleton_self _), rfl⟩
      · exact .inr ⟨job, List.mem_append_left _ hjob, heq⟩
    target := nofun
    ongoing := by
      intro hfinal job hjob
      rcases List.mem_append.mp hjob with hjob | hjob
      · exact h.ongoing hfinal job hjob
      · rw [List.mem_singleton.mp hjob]
        exact ⟨g, List.mem_of_getLast? hlast, rfl, hcontinues⟩
    reaped := by
      intro job hjob hreaped
      rcases List.mem_append.mp hjob with hjob | hjob
      · exact h.reaped job hjob hreaped
      · rw [List.mem_singleton.mp hjob] at hreaped
        exact nomatch hreaped
    recording := h.running hseg hopen _ _ _ }

theorem exported_reap {g : CompletedSegment} (h : s.Exported) (hseg : s.Segments)
    (hmux : s.mux = .reap g) :
    Exported { s with
      reapedSegmentRemuxFailed := s.reapedSegmentRemuxFailed ||
        s.segmentRemuxJobs.any (·.stage == .completed false)
      jobs := s.jobs.map fun job => { job with reaped := job.reaped || job.stage.isCompleted }
      mux := afterCallback g } := by
  have hopen : s.mux ≠ .closed := by rw [hmux]; exact nofun
  have hscheduled := h.scheduled
  have hlast := hseg.last g (by rw [hmux]; rfl)
  have hcontinues := hseg.scheduling (by rw [hmux]; rfl) g (by rw [hmux]; rfl)
  rw [hmux] at hscheduled
  rw [afterCallback_of_continues hcontinues]
  exact { h with
    closed := nofun
    consumed := by
      intro path hpath
      obtain ⟨hpublished, job, hjob, heq⟩ := h.consumed_running hopen hpath
      exact ⟨hpublished, .inl ⟨_, List.mem_map_of_mem hjob, heq⟩⟩
    distinct := by
      rw [List.map_map]
      exact h.distinct
    unread := by
      intro job hjob hqueued
      obtain ⟨old, hold, rfl⟩ := List.mem_map.mp hjob
      exact h.unread old hold hqueued
    onward := by
      intro _ g' hg'
      rcases h.earlier g' hg' with hgoes | hlast'
      · exact hgoes
      · rwa [← Option.some.inj (hlast.symm.trans hlast')]
    unscheduled := nofun
    scheduled := by
      intro g' hg' hcontinues'
      obtain ⟨job, hjob, heq⟩ := (hscheduled g' hg' hcontinues').resolve_left nofun
      exact .inr ⟨_, List.mem_map_of_mem hjob, heq⟩
    target := nofun
    ongoing := by
      intro hfinal job hjob
      obtain ⟨old, hold, rfl⟩ := List.mem_map.mp hjob
      exact h.ongoing hfinal old hold
    reaped := by
      intro job hjob hreaped
      obtain ⟨old, hold, rfl⟩ := List.mem_map.mp hjob
      dsimp only at hreaped ⊢
      cases hold' : old.reaped with
      | true =>
        refine (h.reaped old hold hold').imp_right fun hfailed => ?_
        rw [hfailed, Bool.true_or]
      | false =>
        rw [hold', Bool.false_or] at hreaped
        cases hstage : old.stage with rw [hstage] at hreaped
        | completed succeeded =>
          cases succeeded with
          | true => exact .inl rfl
          | false =>
            refine .inr (Bool.or_eq_true_iff.mpr (.inr ?_))
            refine List.any_eq_true.mpr ⟨old, List.mem_filter.mpr ⟨hold, by rw [hold']; rfl⟩, ?_⟩
            rw [hstage]
            rfl
        | _ => exact nomatch hreaped
    recording := h.running hseg hopen _ _ _ }

theorem exported_openNext {index : Nat} (h : s.Exported) (hseg : s.Segments)
    (hmux : s.mux = .openNext index) (hs : s.muxStep answer = some s') : s'.Exported := by
  have hopen : s.mux ≠ .closed := by rw [hmux]; exact nofun
  have hscheduled := h.scheduled
  have honward := h.onward (.inr (by rw [hmux]; rfl))
  obtain ⟨hindex, -⟩ := hseg.next index (by rw [hmux]; rfl)
  rw [hmux] at hscheduled
  have hfail : Exported { s with failed := true, mux := .closed } :=
    { h with
      closed := nofun
      consumed := fun path hpath =>
        ⟨(h.consumed_running hopen hpath).1, .inl (h.consumed_running hopen hpath).2⟩
      onward := fun _ => honward
      unscheduled := nofun
      scheduled := hscheduled
      target := nofun
      recording := h.running hseg hopen _ _ _ }
  unfold muxStep at hs
  rw [hmux] at hs
  dsimp only at hs
  split at hs
  · next path hrecorder hderive =>
    split_ifs at hs
    · obtain rfl := Option.some.inj hs
      have hname := segmentName_of_derive hderive
      exact { h with
        held := by
          intro g hg
          refine (h.held g hg).imp_right fun hholds => hholds.update ?_
          rintro rfl
          have := hseg.index_of_path hg hname
          exact absurd (this ▸ hseg.index_lt hg) (by rw [← hindex]; exact Nat.lt_irrefl _)
        closed := nofun
        written := by
          intro w hw
          obtain ⟨hfile, hholds⟩ := h.written w hw
          exact ⟨hfile, hholds.update (artefact_ne_output hname hfile).symm⟩
        consumed := fun path hpath =>
          ⟨(h.consumed_running hopen hpath).1, .inl (h.consumed_running hopen hpath).2⟩
        onward := fun _ => honward
        unscheduled := nofun
        scheduled := hscheduled
        target := nofun
        recording := h.running hseg hopen _ _ _ }
    · obtain rfl := Option.some.inj hs
      exact hfail
  · obtain rfl := Option.some.inj hs
    exact hfail

theorem exported_mux (h : s.Exported) (hseg : s.Segments) (hcovered : s.Covered)
    (hG : s.Exports (.mux answer)) (hs : s.muxStep answer = some s') : s'.Exported := by
  have htarget := h.target
  have hopen : s.mux ≠ .closed := by
    intro hmux
    rw [muxStep, hmux] at hs
    cases hs
  cases hmux : s.mux with
  | openNext index => exact exported_openNext h hseg hmux hs
  | writing | closed =>
    rw [muxStep, hmux] at hs
    cases hs
  | push g =>
    rw [muxStep, hmux] at hs
    obtain rfl := Option.some.inj hs
    exact exported_push h hseg hcovered hmux
  | exchange g => exact exported_exchange h hseg hmux hG.1 hs
  | deriveTarget g =>
    obtain ⟨-, hG⟩ := hG
    rw [hmux] at hG
    rw [muxStep, hmux] at hs
    obtain rfl := Option.some.inj hs
    exact h.goOn hseg hopen _ _ _ (by rw [hmux]; rfl) (by rintro _ ⟨⟩; exact hG) rfl rfl
  | schedule g target thisId nextId =>
    rw [hmux] at htarget
    obtain ⟨outputMp4, rfl⟩ := Option.isSome_iff_exists.mp (htarget target rfl)
    rw [muxStep, hmux] at hs
    obtain rfl := Option.some.inj hs
    exact exported_schedule h hseg hmux
  | reap g =>
    rw [muxStep, hmux] at hs
    obtain rfl := Option.some.inj hs
    exact exported_reap h hseg hmux
  | addNext g target thisId nextMkv nextFinal =>
    rw [hmux] at htarget
    rw [muxStep, hmux] at hs
    dsimp only at hs
    split at hs <;> obtain rfl := Option.some.inj hs <;>
      exact h.goOn hseg hopen _ _ _ (by rw [hmux]; rfl) htarget rfl rfl
  | _ =>
    rw [hmux] at htarget
    rw [muxStep, hmux] at hs
    obtain rfl := Option.some.inj hs
    exact h.goOn hseg hopen _ _ _ (by rw [hmux]; rfl) htarget rfl rfl

/-! ## The pool -/

/-- The jobs change, but not what they remux. -/
theorem Exported.setJobs (h : s.Exported) {jobs : List SegmentRemuxJob}
    (hsame : jobs.map SegmentRemuxJob.transientMkv = s.jobs.map SegmentRemuxJob.transientMkv)
    (hunread : ∀ job ∈ jobs, job.stage = .queued → job.transientMkv ∉ s.consumed)
    (hreaped : ∀ job ∈ jobs, job.reaped = true →
      job.stage = .completed true ∨ s.reapedSegmentRemuxFailed = true) :
    Exported { s with jobs := jobs } := by
  have hto : ∀ path, (∃ job ∈ s.jobs, job.transientMkv = path) →
      ∃ job ∈ jobs, job.transientMkv = path := by
    intro path hpath
    rw [← List.mem_map] at hpath ⊢
    rwa [hsame]
  have hfrom : ∀ job ∈ jobs, ∃ old ∈ s.jobs, old.transientMkv = job.transientMkv := by
    intro job hjob
    have hmem := List.mem_map_of_mem (f := SegmentRemuxJob.transientMkv) hjob
    rw [hsame] at hmem
    exact List.mem_map.mp hmem
  exact { h with
    consumed := fun path hpath =>
      ⟨(h.consumed path hpath).1, (h.consumed path hpath).2.imp_left (hto path)⟩
    distinct := hsame ▸ h.distinct
    unread := hunread
    unscheduled := by
      intro g hg job hjob
      obtain ⟨old, hold, heq⟩ := hfrom job hjob
      rw [← heq]
      exact h.unscheduled g hg old hold
    scheduled := fun g hg hcontinues => (h.scheduled g hg hcontinues).imp_right (hto g.path)
    ongoing := by
      intro hfinal job hjob
      obtain ⟨old, hold, heq⟩ := hfrom job hjob
      rw [← heq]
      exact h.ongoing hfinal old hold
    reaped := hreaped
    recording := by
      have hrecording := h.recording
      cases hrecorder : s.recorder with rw [hrecorder] at hrecording
      | drain => exact fun g hlast => hto g.path (hrecording g hlast)
      | _ => exact hrecording }

/-- A remux makes the file of a closed segment. -/
theorem Exported.place (h : s.Exported) (hseg : s.Segments) {g : CompletedSegment}
    {outputMp4 : String} (hg : g ∈ s.segments) (hname : SegmentName s.output g.index outputMp4)
    (hunread : g.path ∉ s.consumed) (hs : s.place answer g.path outputMp4 = some s') :
    s'.Exported ∧ Published s'.written g.path := by
  obtain ⟨segment, size, hdisk, rfl⟩ := place_cases hs
  obtain ⟨bytes, hbytes⟩ := (h.held g hg).resolve_left hunread
  obtain rfl : segment = g.index := by
    rw [hdisk] at hbytes
    exact Content.mkv.inj (congrArg File.content (Option.some.inj hbytes))
  have hmore : ∀ path, Published s.written path →
      Published (⟨g.index, g.path, outputMp4⟩ :: s.written) path :=
    fun path ⟨w, hw, heq⟩ => ⟨w, List.mem_cons_of_mem _ hw, heq⟩
  refine ⟨{ h with
    held := ?_, closed := ?_, written := ?_, own := ?_, consumed := ?_, recording := ?_ },
    _, List.mem_cons_self, rfl⟩
  · exact fun g' hg' => (h.held g' hg').imp_right fun hholds =>
      hholds.update (artefact_ne_output (hseg.named g' hg') hname)
  · intro g' hmux
    have hopened := (hseg.opened (g'.index, g'.path) (by rw [hmux]; rfl)).2
    exact (h.closed g' hmux).update (artefact_ne_output hopened hname)
  · intro w hw
    rcases List.mem_cons.mp hw with rfl | hw
    · exact ⟨hname, holds_update⟩
    · obtain ⟨hfile, hholds⟩ := h.written w hw
      refine ⟨hfile, ?_⟩
      by_cases hsame : w.file = outputMp4
      · rw [hsame] at hfile ⊢
        rw [segmentName_index hfile hname]
        exact holds_update
      · exact hholds.update hsame
  · intro w hw
    rcases List.mem_cons.mp hw with rfl | hw
    · exact ⟨g, hg, rfl, rfl⟩
    · exact h.own w hw
  · exact fun path hpath => ⟨hmore path (h.consumed path hpath).1, (h.consumed path hpath).2⟩
  · have hrecording := h.recording
    cases hrecorder : s.recorder with rw [hrecorder] at hrecording
    | rewrite => exact fun g' hg' => hmore _ (hrecording g' hg')
    | post | posted =>
      exact fun hok => ⟨(hrecording hok).1, fun g' hg' => hmore _ ((hrecording hok).2 g' hg')⟩
    | _ => exact hrecording

/-- The artefact of a segment whose file was made goes away. -/
theorem Exported.consume (h : s.Exported) (hseg : s.Segments) {g : CompletedSegment}
    (hg : g ∈ s.segments) (hpublished : Published s.written g.path)
    (howner : (∃ job ∈ s.jobs, job.transientMkv = g.path) ∨
      s.mux = .closed ∧ s.recorder.final = true)
    (hunread : ∀ job ∈ s.jobs, job.stage = .queued → job.transientMkv ≠ g.path) :
    (s.consume g.path).Exported :=
  { h with
    held := by
      intro g' hg'
      by_cases hpath : g'.path = g.path
      · exact .inl (hpath ▸ List.mem_cons_self)
      · exact (h.held g' hg').imp (List.mem_cons_of_mem _) fun hholds => hholds.update hpath
    closed := by
      intro g' hmux
      have hmux : s.mux = .push g' := hmux
      obtain ⟨hindex, hname⟩ := hseg.opened (g'.index, g'.path) (by rw [hmux]; rfl)
      refine (h.closed g' hmux).update fun hpath => ?_
      have := hseg.index_of_path hg (hpath ▸ hname)
      exact absurd (this ▸ hseg.index_lt hg) (by rw [← hindex]; exact Nat.lt_irrefl _)
    written := by
      intro w hw
      obtain ⟨hfile, hholds⟩ := h.written w hw
      exact ⟨hfile, hholds.update (artefact_ne_output (hseg.named g hg) hfile).symm⟩
    consumed := by
      intro path hpath
      rcases List.mem_cons.mp hpath with rfl | hpath
      · exact ⟨hpublished, howner⟩
      · exact h.consumed path hpath
    unread := by
      intro job hjob hqueued hconsumed
      rcases List.mem_cons.mp hconsumed with heq | hconsumed
      · exact hunread job hjob hqueued heq
      · exact h.unread job hjob hqueued hconsumed
    recording := h.recording }

/-- What the manifest and the flags are does not matter. -/
theorem Exported.quiet (h : s.Exported) (liveContainer : Container) (splitPending splitAsked : Bool)
    (manifest dropped : List RecoveryManifestEntry) (currentManifestId : Option Nat) :
    Exported { s with
      liveContainer := liveContainer, splitPending := splitPending, splitAsked := splitAsked
      manifest := manifest, dropped := dropped, currentManifestId := currentManifestId } :=
  { h with recording := h.recording }

theorem Exported.reads (h : s.Exported) {path : String} (hpath : path ∉ s.consumed) :
    (s.reads path).Exported :=
  { h with
    reread := by
      rw [Session.reads, if_neg hpath]
      exact h.reread
    recording := h.recording }

theorem Exported.setRecorder (h : s.Exported) {recorder : Recorder}
    (hfinal : s.recorder.final = true → recorder.final = true)
    (hongoing : recorder.final = false → s.recorder.final = false)
    (hrecording : Exporting s.segments s.jobs s.written s.mux recorder) :
    Exported { s with recorder := recorder } :=
  { h with
    consumed := fun path hpath =>
      ⟨(h.consumed path hpath).1, (h.consumed path hpath).2.imp_right fun hc => ⟨hc.1, hfinal hc.2⟩⟩
    ongoing := fun hno => h.ongoing (hongoing hno)
    recording := hrecording }

theorem exported_runJob (h : s.Exported) (hseg : s.Segments) (hcovered : s.Covered)
    (answer : Answer) {job : SegmentRemuxJob} (hjob : job ∈ s.jobs) :
    (s.runJob job answer).1.Exported ∧ (s.runJob job answer).2 ≠ .queued := by
  have hok := hcovered.jobs job hjob
  obtain ⟨g, hg, hpath, houtput⟩ := hok.segment
  unfold runJob
  cases hstage : job.stage with
  | queued =>
    have hunread := h.unread job hjob hstage
    have hreads := h.reads hunread
    dsimp only
    cases hplace : (s.reads job.transientMkv).place answer job.transientMkv job.outputMp4 with
    | none => exact ⟨hreads, nofun⟩
    | some placed =>
      rw [hpath] at hplace hreads hunread
      have hexported := (hreads.place (hseg.of_fixed rfl id) hg houtput hunread hplace).1
      obtain ⟨_, _, -, rfl⟩ := place_cases hplace
      exact ⟨hexported, nofun⟩
  | placed =>
    have hpublished := hok.placed (by rw [hstage]; exact nofun) (by rw [hstage]; exact nofun)
    dsimp only
    split_ifs
    · refine ⟨?_, nofun⟩
      rw [hpath] at hpublished ⊢
      refine h.consume hseg hg hpublished (.inl ⟨job, hjob, hpath⟩) fun other hother hqueued heq => ?_
      have hsame := List.inj_on_of_nodup_map h.distinct hother hjob (heq.trans hpath.symm)
      rw [hsame, hstage] at hqueued
      exact nomatch hqueued
    · exact ⟨h, nofun⟩
  | cleaned => exact ⟨h.quiet _ _ _ _ _ _, nofun⟩
  | forgotten | completed => exact ⟨h, nofun⟩

theorem exported_pool (h : s.Exported) (hseg : s.Segments) (hcovered : s.Covered)
    (hs : s.poolStep answer = some s') : s'.Exported := by
  obtain ⟨⟨done, job, waiting⟩, hnext, rfl⟩ := Option.map_eq_some_iff.mp hs
  obtain ⟨hjobs, hopen, -⟩ := mem_nextJob hnext
  have hsame : (s.runJob job answer).1.jobs = done ++ job :: waiting := runJob_jobs.trans hjobs
  have hmem : job ∈ s.jobs := by
    rw [hjobs]
    exact List.mem_append_right _ List.mem_cons_self
  obtain ⟨hexported, hqueued⟩ := exported_runJob h hseg hcovered answer hmem
  have hother : ∀ j, j ∈ done ∨ j ∈ waiting → j ∈ (s.runJob job answer).1.jobs := by
    intro j hj
    rw [hsame, List.mem_append, List.mem_cons]
    exact hj.imp_right .inr
  refine hexported.setJobs (by simp [hsame]) (fun j hj hstage => ?_) fun j hj hreaped => ?_
  · rw [List.mem_append, List.mem_cons] at hj
    rcases hj with hj | rfl | hj
    · exact hexported.unread j (hother j (.inl hj)) hstage
    · exact absurd hstage hqueued
    · exact hexported.unread j (hother j (.inr hj)) hstage
  · rw [List.mem_append, List.mem_cons] at hj
    rcases hj with hj | rfl | hj
    · exact hexported.reaped j (hother j (.inl hj)) hreaped
    · refine (hexported.reaped job ?_ hreaped).imp_left fun hdone => ?_
      · rw [hsame]
        exact List.mem_append_right _ List.mem_cons_self
      · rw [hdone] at hopen
        exact nomatch hopen
    · exact hexported.reaped j (hother j (.inr hj)) hreaped

/-! ## The recording thread -/

/-- The last segment has no job before the recording thread queues it, and its artefact stands. -/
theorem Exported.last_open (h : s.Exported) (hseg : s.Segments) (hfinal : s.recorder.final = false)
    {g : CompletedSegment} (hlast : s.segments.getLast? = some g) (hend : g.sessionEnd = true) :
    (∀ job ∈ s.jobs, job.transientMkv ≠ g.path) ∧ g.path ∉ s.consumed := by
  have hjobs : ∀ job ∈ s.jobs, job.transientMkv ≠ g.path := by
    intro job hjob hpath
    obtain ⟨g', hg', hpath', hcontinues⟩ := h.ongoing hfinal job hjob
    obtain rfl := hseg.eq_of_path (List.mem_of_getLast? hlast) hg' (hpath.symm.trans hpath')
    rw [CompletedSegment.continues, hend, Bool.not_true, Bool.and_false] at hcontinues
    cases hcontinues
  refine ⟨hjobs, fun hconsumed => ?_⟩
  rcases (h.consumed g.path hconsumed).2 with ⟨job, hjob, hpath⟩ | ⟨-, hfinal'⟩
  · exact hjobs job hjob hpath
  · exact absurd (hfinal.symm.trans hfinal') (by decide)

theorem exported_queueFinal {g : CompletedSegment} {outputMp4 : String} {ui : UiRecordingResult}
    {target : Option String} (h : s.Exported) (hseg : s.Segments)
    (hrecorder : s.recorder = .queueFinal ui g target) (hlast : s.segments.getLast? = some g)
    (hend : g.sessionEnd = true) :
    Exported { s.queueFinal g (some outputMp4) with recorder := .drain ui } := by
  obtain ⟨hnew, hstands⟩ := h.last_open hseg (by rw [hrecorder]; rfl) hlast hend
  exact { h with
    consumed := by
      intro path hpath
      obtain ⟨hpublished, howner⟩ := h.consumed path hpath
      exact ⟨hpublished, howner.imp (fun ⟨job, hjob, heq⟩ => ⟨job, List.mem_append_left _ hjob, heq⟩)
        fun hclosed => ⟨hclosed.1, rfl⟩⟩
    distinct := by
      rw [queueFinal, List.map_append]
      refine List.Nodup.append h.distinct (List.nodup_singleton _) fun path hpath hg => ?_
      obtain ⟨job, hjob, rfl⟩ := List.mem_map.mp hpath
      exact hnew job hjob (List.mem_singleton.mp hg)
    unread := by
      intro job hjob hqueued
      rcases List.mem_append.mp hjob with hjob | hjob
      · exact h.unread job hjob hqueued
      · rw [List.mem_singleton.mp hjob]
        exact hstands
    unscheduled := by
      intro g' hg' job hjob
      have hclosed := (hseg.ended (by rw [hrecorder]; rfl)).1
      rw [queueFinal, hclosed] at hg'
      exact nomatch hg'
    scheduled := fun g' hg' hcontinues => (h.scheduled g' hg' hcontinues).imp_right
      fun ⟨job, hjob, heq⟩ => ⟨job, List.mem_append_left _ hjob, heq⟩
    ongoing := nofun
    reaped := by
      intro job hjob hreaped
      rcases List.mem_append.mp hjob with hjob | hjob
      · exact h.reaped job hjob hreaped
      · rw [List.mem_singleton.mp hjob] at hreaped
        exact nomatch hreaped
    recording := by
      intro g' hlast'
      obtain rfl := Option.some.inj (hlast.symm.trans hlast')
      exact ⟨_, List.mem_append_right _ (List.mem_singleton_self _), rfl⟩ }

/-- When every job is done and none has failed, every segment was remuxed. -/
theorem Exported.all_published (h : s.Exported) (hseg : s.Segments) (hcovered : s.Covered)
    {ui : UiRecordingResult} (hrecorder : s.recorder = .drain ui)
    (hfailed : s.reapedSegmentRemuxFailed = false)
    (hjobs : ∀ job ∈ s.segmentRemuxJobs, job.stage = .completed true) :
    ∀ g ∈ s.segments, Published s.written g.path := by
  have hrecording := h.recording
  have hclosed := (hseg.ended (by rw [hrecorder]; rfl)).1
  rw [hrecorder] at hrecording
  have hdone : ∀ job ∈ s.jobs, job.stage = .completed true := by
    intro job hjob
    cases hreaped : job.reaped with
    | true =>
      refine (h.reaped job hjob hreaped).resolve_right fun hno => ?_
      exact absurd (hfailed.symm.trans hno) (by decide)
    | false => exact hjobs job (List.mem_filter.mpr ⟨hjob, by rw [hreaped]; rfl⟩)
  have hpublished : ∀ job ∈ s.jobs, Published s.written job.transientMkv := by
    intro job hjob
    refine (hcovered.jobs job hjob).placed ?_ ?_ <;> rw [hdone job hjob] <;> exact nofun
  intro g hg
  obtain ⟨job, hjob, hpath⟩ : ∃ job ∈ s.jobs, job.transientMkv = g.path := by
    rcases h.earlier g hg with hcontinues | hlast
    · refine (h.scheduled g hg hcontinues).resolve_left ?_
      rw [hclosed]
      exact nofun
    · exact hrecording g hlast
  exact hpath ▸ hpublished job hjob

/-- The last segment of a recording that has succeeded was closed by the stop. -/
theorem Segments.ended_last (hseg : s.Segments) (hended : s.recorder.engineSucceeded = true)
    {g : CompletedSegment} (hlast : s.segments.getLast? = some g) : g.sessionEnd = true := by
  obtain ⟨hclosed, hok⟩ := hseg.ended hended
  obtain ⟨g', hlast', hend⟩ := hseg.closed hclosed hok
  obtain rfl := Option.some.inj (hlast.symm.trans hlast')
  exact hend

theorem exported_editMaster {ui : UiRecordingResult} (h : s.Exported) (hseg : s.Segments)
    (hcovered : s.Covered) (hrecorder : s.recorder = .editMaster ui)
    (hs : s.recorderStep answer = some s') : s'.Exported := by
  have hrecording := hcovered.recording
  rw [hrecorder] at hrecording
  obtain ⟨-, hlength, hpublished⟩ := hrecording
  obtain ⟨g, hg, hindex, hpath⟩ := hseg.single hlength
  have hlast : s.segments.getLast? = some g := by rw [hg]; rfl
  have hclosed := (hseg.ended (by rw [hrecorder]; rfl)).1
  have hend := hseg.ended_last (by rw [hrecorder]; rfl) hlast
  obtain ⟨hjobs, -⟩ := h.last_open hseg (by rw [hrecorder]; rfl) hlast hend
  unfold recorderStep at hs
  rw [hrecorder] at hs
  obtain rfl := Option.some.inj hs
  have hconsumed : ∀ ui, Exported { s.consume s.artefact with recorder := .remuxForget ui } := by
    intro ui
    have hset : Exported { s with recorder := .remuxForget ui } :=
      h.setRecorder (fun _ => rfl) nofun trivial
    have := hset.consume (hseg.of_fixed rfl fun _ => by rw [hrecorder]; rfl)
      (List.mem_of_getLast? hlast) (hpath ▸ hpublished) (.inr ⟨hclosed, rfl⟩)
      fun job hjob _ => hjobs job hjob
    rwa [hpath] at this
  split_ifs
  · have hset := hconsumed { ui with outputFileBytes := ((s.disk s.output).map File.bytes).getD 0 }
    exact { hset with
      held := by
        intro g' hg'
        have hg' : g' ∈ s.segments := hg'
        rw [hg, List.mem_singleton] at hg'
        rw [hg', hpath]
        exact .inl List.mem_cons_self
      closed := fun g' hmux => nomatch hclosed.symm.trans hmux
      written := by
        intro w hw
        obtain ⟨hfile, hholds⟩ := hset.written w hw
        refine ⟨hfile, hholds.update ?_⟩
        obtain ⟨g', hg', -, hsegment⟩ := h.own w hw
        rw [hg, List.mem_singleton] at hg'
        rw [hsegment, hg', hindex] at hfile
        have hname : w.file = s.output := hfile
        rw [hname]
        intro heq
        have := congrArg String.length heq
        simp at this
      recording := hset.recording }
  · exact hconsumed _

theorem exported_recorder (h : s.Exported) (hseg : s.Segments) (hcovered : s.Covered)
    (hmp4 : s.container = .mp4) (hG : s.Exports (.recorder answer))
    (hs : s.recorderStep answer = some s') : s'.Exported := by
  have hrecording := h.recording
  have hrec := hcovered.recording
  have hended := hseg.ended
  cases hrecorder : s.recorder with rw [hrecorder] at hrecording hrec hended
  | record | posted =>
    unfold recorderStep at hs
    rw [hrecorder] at hs
    cases hs
  | editMaster ui => exact exported_editMaster h hseg hcovered hrecorder hs
  | returned succeeded =>
    unfold recorderStep at hs
    rw [hrecorder] at hs
    obtain rfl := Option.some.inj hs
    exact (h.quiet s.liveContainer false s.splitAsked _ _ _).setRecorder
      (by rw [hrecorder]; exact nofun) (fun _ => by rw [hrecorder]; rfl) trivial
  | built succeeded ui =>
    unfold recorderStep at hs
    rw [hrecorder] at hs
    obtain rfl := Option.some.inj hs
    refine h.setRecorder (by rw [hrecorder]; exact nofun) (fun _ => by rw [hrecorder]; rfl) ?_
    cases succeeded with
    | false => exact Bool.eq_false_iff.mpr fun hok => absurd (hrec.1 hok) (by decide)
    | true =>
      rw [if_neg (by decide), if_pos hmp4]
      split_ifs <;> trivial
  | remux ui =>
    obtain ⟨g, hg, hindex, hpath⟩ := hseg.single hrec.2
    have hlast : s.segments.getLast? = some g := by rw [hg]; rfl
    have hend := hseg.ended_last (by rw [hrecorder]; rfl) hlast
    obtain ⟨-, hstands⟩ := h.last_open hseg (by rw [hrecorder]; rfl) hlast hend
    have hreads : (s.reads g.path).Exported := h.reads hstands
    unfold recorderStep at hs
    rw [hrecorder, ← hpath] at hs
    dsimp only at hs
    cases hplace : (s.reads g.path).place answer g.path s.output with rw [hplace] at hs
    | none =>
      obtain rfl := Option.some.inj hs
      exact (hreads.quiet s.liveContainer s.splitPending s.splitAsked _ _ none).setRecorder
        (fun _ => rfl) nofun nofun
    | some placed =>
      obtain rfl := Option.some.inj hs
      have hplaced := (hreads.place (hseg.of_fixed rfl id) (List.mem_of_getLast? hlast)
        (by rw [hindex]; rfl) hstands hplace).1
      obtain ⟨_, _, -, rfl⟩ := place_cases hplace
      refine hplaced.setRecorder (fun hfinal => ?_) (fun _ => ?_) trivial
      · have hfinal : s.recorder.final = true := hfinal
        rw [hrecorder] at hfinal
        exact nomatch hfinal
      · have hremux : s.recorder.final = false := by rw [hrecorder]; rfl
        exact hremux
  | remuxForget ui =>
    obtain ⟨-, hlength, hpublished⟩ := hrec
    obtain ⟨g, hg, -, hpath⟩ := hseg.single hlength
    unfold recorderStep at hs
    rw [hrecorder] at hs
    obtain rfl := Option.some.inj hs
    refine (h.quiet s.liveContainer s.splitPending s.splitAsked _ _ none).setRecorder (fun _ => rfl)
      nofun fun _ => ⟨(hended rfl).1, fun g' hg' => ?_⟩
    have hg' : g' ∈ s.segments := hg'
    rw [hg, List.mem_singleton] at hg'
    rw [hg', hpath]
    exact hpublished
  | deriveFinal ui =>
    obtain ⟨hclosed, hok⟩ := hended rfl
    obtain ⟨g, hlast, -⟩ := hseg.closed hclosed hok
    obtain ⟨-, hG⟩ := hG
    rw [hrecorder] at hG
    unfold recorderStep at hs
    rw [hrecorder] at hs
    dsimp only at hs
    rw [hlast] at hs
    dsimp only at hs
    rw [if_pos (hseg.succeeded hok g (List.mem_of_getLast? hlast))] at hs
    obtain rfl := Option.some.inj hs
    exact h.setRecorder (by rw [hrecorder]; exact nofun) (fun _ => by rw [hrecorder]; rfl)
      (hG g hlast)
  | queueFinal ui g target =>
    obtain ⟨outputMp4, rfl⟩ := Option.isSome_iff_exists.mp hrecording
    unfold recorderStep at hs
    rw [hrecorder] at hs
    obtain rfl := Option.some.inj hs
    exact exported_queueFinal h hseg hrecorder hrec.1
      (hseg.ended_last (by rw [hrecorder]; rfl) hrec.1)
  | drain ui =>
    unfold recorderStep at hs
    rw [hrecorder] at hs
    dsimp only at hs
    split at hs
    · obtain rfl := Option.some.inj hs
      refine h.setRecorder (fun _ => ?_) (fun hno => ?_) ?_
      · split_ifs <;> rfl
      · split_ifs at hno <;> exact nomatch hno
      · split_ifs with hall
        · simp only [Bool.and_eq_true, Bool.not_eq_true', List.all_eq_true, beq_iff_eq] at hall
          exact h.all_published hseg hcovered hrecorder hall.1 hall.2
        · exact nofun
    · cases hs
  | rewrite ui done todo totalBytes =>
    unfold recorderStep at hs
    rw [hrecorder] at hs
    obtain rfl := Option.some.inj hs
    have hclosed := (hended rfl).1
    unfold rewriteStep
    cases todo with
    | nil => exact h.setRecorder (fun _ => rfl) nofun fun _ => ⟨hclosed, hrecording⟩
    | cons p todo =>
      dsimp only
      cases s.derive answer s.output p.1 with
      | none => exact h.setRecorder (fun _ => rfl) nofun hrecording
      | some file => exact h.setRecorder (fun _ => rfl) nofun hrecording
  | publish | publishWhole => exact hrecording.elim
  | forget ui =>
    unfold recorderStep at hs
    rw [hrecorder] at hs
    dsimp only at hs
    rw [if_neg (by rw [hrecording]; decide)] at hs
    obtain rfl := Option.some.inj hs
    exact (h.quiet s.liveContainer s.splitPending s.splitAsked _ _ none).setRecorder (fun _ => rfl)
      nofun fun hok => absurd (hrecording.symm.trans hok) (by decide)
  | post ui =>
    unfold recorderStep at hs
    rw [hrecorder] at hs
    obtain rfl := Option.some.inj hs
    exact h.setRecorder (fun _ => rfl) nofun hrecording

end

theorem exported_step {s s' : Session} {a : Action} (h : s.Exported) (hseg : s.Segments)
    (hcovered : s.Covered) (hmp4 : s.container = .mp4) (hG : s.Exports a)
    (hs : s.step a = some s') : s'.Exported := by
  cases a with
  | setContainer container =>
    obtain rfl := Option.some.inj hs
    exact h.quiet container s.splitPending s.splitAsked _ _ _
  | requestSplit =>
    obtain rfl := Option.some.inj hs
    unfold requestSplit
    split_ifs
    · exact h.quiet s.liveContainer true true _ _ _
    · exact h
  | splitAnswered answer =>
    obtain rfl := Option.some.inj hs
    unfold splitAnswered
    split_ifs
    · exact h.quiet s.liveContainer _ false _ _ _
    · exact h
  | boundary answer => exact exported_finalize h hseg hs
  | stop answer => exact exported_finalize h hseg hs
  | mux answer => exact exported_mux h hseg hcovered hG hs
  | returns answer => exact exported_returns h hs
  | pool answer => exact exported_pool h hseg hcovered hs
  | recorder answer => exact exported_recorder h hseg hcovered hmp4 hG hs

/-! ## What becomes of the segments -/

def InPlace (s : Session) (g : CompletedSegment) : Prop :=
  ∃ w ∈ s.written, w.artefact = g.path ∧ w.segment = g.index ∧ Holds s.disk w.file (.mp4 g.index)

structure SegmentsExported (s : Session) : Prop where
  reread : s.reread = []
  kept : ∀ ui, s.recorder = .posted ui → ∀ g ∈ s.segments, g.succeeded = true →
    s.InPlace g ∨ Holds s.disk g.path (.mkv g.index) ∧ Named s.manifest g.path
  reported : ∀ ui, s.recorder = .posted ui → ui.succeeded = true → ∀ g ∈ s.segments, s.InPlace g

theorem Exported.inPlace {s : Session} (h : s.Exported) (hseg : s.Segments) {g : CompletedSegment}
    (hg : g ∈ s.segments) (hpublished : Published s.written g.path) : s.InPlace g := by
  obtain ⟨w, hw, hpath⟩ := hpublished
  obtain ⟨g', hg', hpath', hsegment⟩ := h.own w hw
  obtain rfl := hseg.eq_of_path hg hg' (hpath.symm.trans hpath')
  exact ⟨w, hw, hpath, hsegment, hsegment ▸ (h.written w hw).2⟩

/-- In every run of an MP4 recording whose steps are all as `Exports` says. -/
theorem segments_exported {disk : Disk} {s s' : Session} {as : List Action} (h : Starts disk s)
    (hmp4 : s.container = .mp4) (hG : StepRun.Meets step Exports s as) (hs : s.exec as = some s') :
    s'.SegmentsExported := by
  have hinv : s'.Segments ∧ s'.Covered ∧ s'.container = .mp4 ∧ s'.Exported :=
    StepRun.exec_invariant (I := fun s => s.Segments ∧ s.Covered ∧ s.container = .mp4 ∧ s.Exported)
      (fun _ _ _ ⟨hseg, hcovered, hmp4, hexported⟩ hg hstep => ⟨segments_step hseg hstep,
        covered_step hcovered hseg hg.1 hstep, (container_step hstep).trans hmp4,
        exported_step hexported hseg hcovered hmp4 hg hstep⟩)
      ⟨segments_start h, covered_start h, hmp4, exported_start h⟩ hG hs
  obtain ⟨hseg, hcovered, -, hexported⟩ := hinv
  refine ⟨hexported.reread, fun ui hposted g hg _ => ?_, fun ui hposted hok g hg => ?_⟩
  · by_cases hpublished : Published s'.written g.path
    · exact .inl (hexported.inPlace hseg hg hpublished)
    · refine .inr ⟨(hexported.held g hg).resolve_left fun hconsumed => ?_,
        (hcovered.named g hg).resolve_left hpublished⟩
      exact hpublished (hexported.consumed _ hconsumed).1
  · have hrecording := hexported.recording
    rw [hposted] at hrecording
    exact hexported.inPlace hseg hg ((hrecording hok).2 g hg)

/-- An MP4 recording that is split once. -/
theorem segments_exported_split :
    ∃ s, (clipStart .mp4).exec (splitActions ++ stopActions ++ List.replicate 4 (.recorder {}) ++
      List.replicate 8 (.pool {}) ++ List.replicate 5 (.recorder {})) = some s ∧
      s.SegmentsExported := by
  obtain ⟨s, hs⟩ := Option.isSome_iff_exists.mp (show ((clipStart .mp4).exec (splitActions ++
    stopActions ++ List.replicate 4 (.recorder {}) ++ List.replicate 8 (.pool {}) ++
    List.replicate 5 (.recorder {}))).isSome = true by decide +kernel)
  exact ⟨s, hs, segments_exported (clip_starts .mp4) rfl (by decide +kernel) hs⟩

/-- The engine ends the first segment on its own: the recording succeeds, and the second segment has
    neither an MP4 nor an entry. -/
theorem second_segment_stranded :
    ¬ ∀ (disk : Disk) (s s' : Session) (as : List Action), Starts disk s → s.container = .mp4 →
      s.exec as = some s' → s'.SegmentsExported := by
  intro h
  obtain ⟨s, hs, hview⟩ := (Option.any_eq_true _ _).mp (show ((clipStart .mp4).exec
    (boundaryActions ++ stopActions ++ List.replicate 6 (.recorder {}))).any (fun s =>
      s.recorder == .posted ⟨true, [(0, "Clip.mp4.partial"), (1, "Clip.mp4_part-002.partial")], 0⟩ &&
      s.segments.any (·.index == 1) && s.written.all (·.segment != 1)) = true by decide +kernel)
  simp only [Bool.and_eq_true, beq_iff_eq, List.any_eq_true, List.all_eq_true, bne_iff_ne] at hview
  obtain ⟨⟨hposted, g, hg, hindex⟩, hnone⟩ := hview
  obtain ⟨w, hw, -, hsegment, -⟩ := (h _ _ s _ (clip_starts .mp4) rfl hs).reported _ hposted rfl g hg
  exact hnone w hw (hsegment.trans hindex)

end Session

end Exosnap.Split
