/-
  What holds of a recording's segments in every state a run reaches: they are numbered from 0 in the
  order they were closed, each lies under a name of its own number, and a recording that succeeded
  has closed its last one.
-/
import Exosnap.Split.Session
import Mathlib.Algebra.GroupWithZero.Nat

namespace Exosnap.Split

open Capability (Container)

/-- The segment that is written, or was closed and is not in the list yet. -/
def Mux.opened : Mux → Option (Nat × String)
  | .writing index path => some (index, path)
  | .push segment => some (segment.index, segment.path)
  | _ => none

/-- The segment whose callback runs. -/
def Mux.last : Mux → Option CompletedSegment
  | .exchange segment | .deriveTarget segment | .readId segment _ | .deriveNextMkv segment _ _
  | .deriveNextFinal segment _ _ _ | .addNext segment _ _ _ _ | .schedule segment _ _ _
  | .reap segment => some segment
  | _ => none

/-- The callback has found a split. -/
def Mux.scheduling : Mux → Bool
  | .deriveTarget _ | .readId _ _ | .deriveNextMkv _ _ _ | .deriveNextFinal _ _ _ _
  | .addNext _ _ _ _ _ | .schedule _ _ _ _ | .reap _ => true
  | _ => false

def Mux.next : Mux → Option Nat
  | .openNext index => some index
  | _ => none

/-- The segment was closed at a boundary, with success. -/
def CompletedSegment.continues (segment : CompletedSegment) : Bool :=
  segment.succeeded && !segment.sessionEnd

theorem afterCallback_of_continues {g : CompletedSegment} (h : g.continues = true) :
    Session.afterCallback g = .openNext (g.index + 1) := by
  simp only [CompletedSegment.continues, Bool.and_eq_true, Bool.not_eq_true'] at h
  simp [Session.afterCallback, h]

theorem afterCallback_of_not_continues {g : CompletedSegment} (h : g.continues = false) :
    Session.afterCallback g = .closed := by
  simp only [CompletedSegment.continues, Bool.and_eq_false_iff, Bool.not_eq_false'] at h
  rcases h with h | h <;> simp [Session.afterCallback, h]

/-- `Record()` has returned with success, and its result decides what comes. -/
def Recorder.engineSucceeded : Recorder → Bool
  | .returned succeeded | .built succeeded _ => succeeded
  | .remux _ | .editMaster _ | .remuxForget _ | .deriveFinal _ | .queueFinal _ _ _ | .drain _
  | .rewrite _ _ _ _ | .publish _ _ _ | .publishWhole _ => true
  | .record | .forget _ | .post _ | .posted _ => false

namespace Session

structure Segments (s : Session) : Prop where
  indexed : s.segments.map CompletedSegment.index = List.range s.segments.length
  named : ∀ g ∈ s.segments, SegmentName s.artefact g.index g.path
  opened : ∀ p ∈ s.mux.opened, p.1 = s.segments.length ∧ SegmentName s.artefact p.1 p.2
  last : ∀ g ∈ s.mux.last, s.segments.getLast? = some g
  next : ∀ i ∈ s.mux.next, i = s.segments.length ∧ i ≠ 0
  scheduling : s.mux.scheduling = true → ∀ g ∈ s.mux.last, g.continues = true
  pushed : ∀ g, s.mux = .push g → g.succeeded = false → s.failed = true
  succeeded : s.failed = false → ∀ g ∈ s.segments, g.succeeded = true
  closed : s.mux = .closed → s.failed = false →
    ∃ g, s.segments.getLast? = some g ∧ g.sessionEnd = true
  ended : s.recorder.engineSucceeded = true → s.mux = .closed ∧ s.failed = false

theorem segments_start {disk : Disk} {s : Session} (h : Starts disk s) : s.Segments := by
  obtain ⟨container, name, manifest, id, -, -, -, rfl⟩ := h
  constructor <;> simp [start, Mux.opened, Mux.last, Mux.next, Mux.scheduling,
    Recorder.engineSucceeded, artefact, segmentName_zero]

/-! ## Members -/

section
variable {s : Session} {g g' : CompletedSegment}

theorem Segments.index_lt (h : s.Segments) (hg : g ∈ s.segments) : g.index < s.segments.length := by
  have := List.mem_map_of_mem (f := CompletedSegment.index) hg
  rwa [h.indexed, List.mem_range] at this

theorem Segments.eq_of_index (h : s.Segments) (hg : g ∈ s.segments) (hg' : g' ∈ s.segments)
    (hindex : g.index = g'.index) : g = g' := by
  have hnodup : (s.segments.map CompletedSegment.index).Nodup := by
    rw [h.indexed]
    exact List.nodup_range
  exact List.inj_on_of_nodup_map hnodup hg hg' hindex

theorem Segments.index_of_getLast (h : s.Segments) (hlast : s.segments.getLast? = some g) :
    g.index + 1 = s.segments.length := by
  have hpos : 0 < s.segments.length := List.length_pos_of_mem (List.mem_of_getLast? hlast)
  rw [List.getLast?_eq_getElem?] at hlast
  have hat := congrArg (Option.map CompletedSegment.index) hlast
  rw [← List.getElem?_map, h.indexed, List.getElem?_range (by omega)] at hat
  have := Option.some.inj hat
  omega

theorem Segments.index_of_path (h : s.Segments) (hg : g ∈ s.segments) {i : Nat}
    (hname : SegmentName s.artefact i g.path) : g.index = i :=
  segmentName_index (h.named g hg) hname

theorem Segments.eq_of_path (h : s.Segments) (hg : g ∈ s.segments) (hg' : g' ∈ s.segments)
    (hpath : g.path = g'.path) : g = g' :=
  h.eq_of_index hg hg' (h.index_of_path hg (hpath ▸ h.named g' hg'))

end

/-! ## Steps -/

/-- A step that leaves the segments, the engine's thread and the success of `Record()` alone. -/
theorem Segments.frame {s s' : Session} (h : s.Segments) (hname : s'.artefact = s.artefact)
    (hsegments : s'.segments = s.segments) (hmux : s'.mux = s.mux) (hfailed : s'.failed = s.failed)
    (hrecorder : s'.recorder.engineSucceeded = true → s.recorder.engineSucceeded = true) :
    s'.Segments where
  indexed := by rw [hsegments]; exact h.indexed
  named := by rw [hsegments, hname]; exact h.named
  opened := by rw [hmux, hsegments, hname]; exact h.opened
  last := by rw [hmux, hsegments]; exact h.last
  next := by rw [hmux, hsegments]; exact h.next
  scheduling := by rw [hmux]; exact h.scheduling
  pushed := by rw [hmux, hfailed]; exact h.pushed
  succeeded := by rw [hfailed, hsegments]; exact h.succeeded
  closed := by rw [hmux, hfailed, hsegments]; exact h.closed
  ended := by rw [hmux, hfailed]; exact fun hs => h.ended (hrecorder hs)

theorem segments_finalize {s s' : Session} {answer : Answer} {sessionEnd : Bool} (h : s.Segments)
    (hs : s.finalize answer sessionEnd = some s') : s'.Segments := by
  unfold finalize at hs
  split at hs
  · next index path hrecorder hmux =>
    obtain rfl := Option.some.inj hs
    have hopened := h.opened (index, path) (by rw [hmux]; rfl)
    exact {
      indexed := h.indexed
      named := h.named
      opened := by rintro p ⟨⟩; exact hopened
      last := nofun
      next := nofun
      scheduling := nofun
      pushed := by
        rintro g ⟨⟩ hfail
        have hfail : answer.ok = false := hfail
        simp [hfail]
      succeeded := fun hfailed => h.succeeded (by simp_all)
      closed := nofun
      ended := fun hended => by simp [hrecorder, Recorder.engineSucceeded] at hended }
  · cases hs

theorem segments_returns {s s' : Session} {answer : Answer} (h : s.Segments)
    (hs : s.returns answer = some s') : s'.Segments := by
  unfold returns at hs
  split at hs
  · split_ifs at hs with hcond
    obtain rfl := Option.some.inj hs
    obtain ⟨h1, h2, h3, h4, h5, h6, h7, h8, h9, -⟩ := h
    refine ⟨h1, h2, h3, h4, h5, h6, h7, h8, h9, fun hok => ?_⟩
    have hok : answer.ok = true := hok
    simp only [hok, true_and, not_or, Bool.not_eq_true, ne_eq, not_not] at hcond
    exact ⟨hcond.2, hcond.1⟩
  · cases hs

/-- A step of the callback that goes on with the same segment. -/
theorem Segments.callback {s s' : Session} {g : CompletedSegment} (h : s.Segments)
    (hlast : s.mux.last = some g) (hname : s'.artefact = s.artefact)
    (hsegments : s'.segments = s.segments) (hlast' : s'.mux.last = some g)
    (hopened' : s'.mux.opened = none) (hnext' : s'.mux.next = none) (hpush' : ∀ g, s'.mux ≠ .push g)
    (hclosed' : s'.mux ≠ .closed) (hgoes : s'.mux.scheduling = true → g.continues = true)
    (hfailed : s'.failed = s.failed) (hrecorder : s'.recorder = s.recorder) : s'.Segments where
  indexed := by rw [hsegments]; exact h.indexed
  named := by rw [hsegments, hname]; exact h.named
  opened := by rw [hopened']; exact nofun
  last := by
    rw [hlast', hsegments]
    rintro _ ⟨⟩
    exact h.last g hlast
  next := by rw [hnext']; exact nofun
  scheduling := by
    rw [hlast']
    rintro hs _ ⟨⟩
    exact hgoes hs
  pushed := fun g hg => absurd hg (hpush' g)
  succeeded := by rw [hfailed, hsegments]; exact h.succeeded
  closed := fun hc => absurd hc hclosed'
  ended := by
    rw [hrecorder]
    intro hended
    have := (h.ended hended).1
    rw [this] at hlast
    exact nomatch hlast

/-- The callback returns. -/
theorem Segments.after {s s' : Session} {g : CompletedSegment} (h : s.Segments)
    (hlast : s.mux.last = some g) (hname : s'.artefact = s.artefact)
    (hsegments : s'.segments = s.segments) (hmux : s'.mux = afterCallback g)
    (hfailed : s'.failed = s.failed) (hrecorder : s'.recorder = s.recorder) : s'.Segments := by
  have hmem : g ∈ s.segments := List.mem_of_getLast? (h.last g hlast)
  have hindex := h.index_of_getLast (h.last g hlast)
  have hended : s.recorder.engineSucceeded = false := by
    by_contra he
    have := (h.ended (by simpa using he)).1
    rw [this] at hlast
    exact nomatch hlast
  unfold afterCallback at hmux
  constructor
  · rw [hsegments]; exact h.indexed
  · rw [hsegments, hname]; exact h.named
  · rw [hmux]; split_ifs <;> exact nofun
  · rw [hmux]; split_ifs <;> exact nofun
  · rw [hmux, hsegments]
    split_ifs
    · exact nofun
    · rintro _ ⟨⟩
      exact ⟨hindex, Nat.succ_ne_zero _⟩
  · rw [hmux]; split_ifs <;> exact nofun
  · rw [hmux]; split_ifs <;> exact nofun
  · rw [hfailed, hsegments]; exact h.succeeded
  · rw [hmux, hfailed, hsegments]
    split_ifs with hend
    · intro _ hok
      refine ⟨g, h.last g hlast, ?_⟩
      simpa [h.succeeded hok g hmem] using hend
    · exact nofun
  · rw [hrecorder, hended]
    exact nofun

/-- The segment that was closed joins the list. -/
theorem segments_push {s : Session} {g : CompletedSegment} (h : s.Segments) (hmux : s.mux = .push g) :
    Segments { s with segments := s.segments ++ [g], mux := .exchange g } := by
  obtain ⟨hindex, hname⟩ := h.opened (g.index, g.path) (by rw [hmux]; rfl)
  constructor
  · rw [List.map_append, h.indexed, List.length_append, List.map_singleton, List.length_singleton,
      List.range_succ]
    exact congrArg _ (congrArg (fun i => [i]) hindex)
  · intro g' hg'
    rcases List.mem_append.mp hg' with hg' | hg'
    · exact h.named g' hg'
    · rw [List.mem_singleton.mp hg']
      exact hname
  · exact nofun
  · rintro _ ⟨⟩
    exact List.getLast?_concat
  · exact nofun
  · exact nofun
  · exact nofun
  · intro hfailed g' hg'
    rcases List.mem_append.mp hg' with hg' | hg'
    · exact h.succeeded hfailed g' hg'
    · rw [List.mem_singleton.mp hg']
      by_contra hno
      have := h.pushed g hmux (by simpa using hno)
      exact absurd (hfailed.symm.trans this) (by decide)
  · exact nofun
  · intro hended
    have := (h.ended hended).1
    rw [hmux] at this
    exact nomatch this

/-- The engine's thread stops with a failure. -/
theorem Segments.fail {s : Session} (h : s.Segments) (hmux : s.mux ≠ .closed) :
    Segments { s with failed := true, mux := .closed } where
  indexed := h.indexed
  named := h.named
  opened := nofun
  last := nofun
  next := nofun
  scheduling := nofun
  pushed := nofun
  succeeded := nofun
  closed := nofun
  ended := fun hended => absurd (h.ended hended).1 hmux

theorem segments_openNext {s s' : Session} {answer : Answer} {index : Nat} (h : s.Segments)
    (hmux : s.mux = .openNext index) (hs : s.muxStep answer = some s') : s'.Segments := by
  obtain ⟨hindex, -⟩ := h.next index (by rw [hmux]; rfl)
  have hopen : s.mux ≠ .closed := by rw [hmux]; exact nofun
  unfold muxStep at hs
  rw [hmux] at hs
  dsimp only at hs
  split at hs
  · next path hrecorder hderive =>
    split_ifs at hs
    · obtain rfl := Option.some.inj hs
      exact {
        indexed := h.indexed
        named := h.named
        opened := by rintro p ⟨⟩; exact ⟨hindex, segmentName_of_derive hderive⟩
        last := nofun
        next := nofun
        scheduling := nofun
        pushed := nofun
        succeeded := h.succeeded
        closed := nofun
        ended := fun hended => by simp [hrecorder, Recorder.engineSucceeded] at hended }
    · obtain rfl := Option.some.inj hs
      exact h.fail hopen
  · obtain rfl := Option.some.inj hs
    exact h.fail hopen

theorem segments_mux {s s' : Session} {answer : Answer} (h : s.Segments)
    (hs : s.muxStep answer = some s') : s'.Segments := by
  have hscheduling := h.scheduling
  cases hmux : s.mux with
  | openNext index => exact segments_openNext h hmux hs
  | writing | closed =>
    unfold muxStep at hs
    rw [hmux] at hs
    cases hs
  | push g =>
    unfold muxStep at hs
    rw [hmux] at hs
    obtain rfl := Option.some.inj hs
    exact segments_push h hmux
  | exchange g =>
    unfold muxStep at hs
    rw [hmux] at hs
    dsimp only at hs
    split_ifs at hs with hsplit
    · obtain rfl := Option.some.inj hs
      simp only [Bool.and_eq_true, Bool.not_eq_true'] at hsplit
      refine h.callback (by rw [hmux]; rfl) rfl rfl rfl rfl rfl nofun nofun (fun _ => ?_) rfl rfl
      simp [CompletedSegment.continues, hsplit]
    · obtain rfl := Option.some.inj hs
      exact h.after (by rw [hmux]; rfl) rfl rfl rfl rfl rfl
  | reap g =>
    unfold muxStep at hs
    rw [hmux] at hs
    obtain rfl := Option.some.inj hs
    exact h.after (by rw [hmux]; rfl) rfl rfl rfl rfl rfl
  | addNext g target thisId nextMkv nextFinal =>
    rw [hmux] at hscheduling
    unfold muxStep at hs
    rw [hmux] at hs
    dsimp only at hs
    split at hs <;> obtain rfl := Option.some.inj hs <;>
      exact h.callback (by rw [hmux]; rfl) rfl rfl rfl rfl rfl nofun nofun
        (fun _ => hscheduling rfl g rfl) rfl rfl
  | _ g =>
    rw [hmux] at hscheduling
    unfold muxStep at hs
    rw [hmux] at hs
    obtain rfl := Option.some.inj hs
    exact h.callback (by rw [hmux]; rfl) rfl rfl rfl rfl rfl nofun nofun
      (fun _ => hscheduling rfl g rfl) rfl rfl

/-! ## What the pool and the recording thread leave alone -/

section
variable {s s' : Session} {answer : Answer}

theorem mem_nextJob {l done waiting : List SegmentRemuxJob} {job : SegmentRemuxJob}
    (h : nextJob l = some (done, job, waiting)) :
    l = done ++ job :: waiting ∧ job.stage.isCompleted = false ∧
      ∀ j ∈ done, j.stage.isCompleted = true := by
  induction l generalizing done with
  | nil => exact nomatch h
  | cons first rest ih =>
    unfold nextJob at h
    split_ifs at h with hdone
    · obtain ⟨⟨done', job', waiting'⟩, hrest, heq⟩ := Option.map_eq_some_iff.mp h
      obtain ⟨rfl, rfl, rfl⟩ : first :: done' = done ∧ job' = job ∧ waiting' = waiting := by
        simpa using heq
      obtain ⟨rfl, hjob, hall⟩ := ih hrest
      refine ⟨rfl, hjob, fun j hj => ?_⟩
      rcases List.mem_cons.mp hj with rfl | hj
      · exact hdone
      · exact hall j hj
    · obtain ⟨rfl, rfl, rfl⟩ : [] = done ∧ first = job ∧ rest = waiting := by simpa using h
      exact ⟨rfl, by simpa using hdone, nofun⟩

/-- The fields that neither the pool nor the remux of a single file writes. -/
def fixed (s : Session) :=
  (s.container, s.name, s.mux, s.segments, s.failed, s.nextId)

theorem place_cases {transientMkv outputMp4 : String}
    (h : s.place answer transientMkv outputMp4 = some s') :
    ∃ segment size, s.disk transientMkv = some ⟨.mkv segment, size⟩ ∧ s' = { s with
      disk := Function.update s.disk outputMp4 (some ⟨.mp4 segment, answer.bytes⟩)
      written := ⟨segment, transientMkv, outputMp4⟩ :: s.written } := by
  unfold place at h
  split at h
  · next segment size hdisk =>
    split_ifs at h
    exact ⟨segment, size, hdisk, (Option.some.inj h).symm⟩
  · cases h

theorem publishFile_cases {index : Nat} {path file : String}
    (h : s.publishFile answer index path file = some s') :
    ∃ content, s.disk path = some content ∧ s' = { s with
      disk := Function.update (Function.update s.disk path none) file (some content)
      written := ⟨index, path, file⟩ :: s.written } := by
  unfold publishFile at h
  split at h
  · next content hdisk =>
    split_ifs at h
    exact ⟨content, hdisk, (Option.some.inj h).symm⟩
  · cases h

theorem runJob_fixed {job : SegmentRemuxJob} :
    (s.runJob job answer).1.fixed = s.fixed ∧ (s.runJob job answer).1.recorder = s.recorder := by
  unfold runJob
  cases job.stage with
  | queued =>
    dsimp only
    cases hplace : (s.reads job.transientMkv).place answer job.transientMkv job.outputMp4 with
    | none => exact ⟨rfl, rfl⟩
    | some placed =>
      obtain ⟨_, _, -, rfl⟩ := place_cases hplace
      exact ⟨rfl, rfl⟩
  | placed =>
    dsimp only
    split_ifs <;> exact ⟨rfl, rfl⟩
  | cleaned | forgotten | completed => exact ⟨rfl, rfl⟩

theorem poolStep_fixed (h : s.poolStep answer = some s') :
    s'.fixed = s.fixed ∧ s'.recorder = s.recorder := by
  unfold poolStep at h
  obtain ⟨⟨done, job, waiting⟩, -, rfl⟩ := Option.map_eq_some_iff.mp h
  exact runJob_fixed

theorem publishStep_fixed {ui : UiRecordingResult} {done todo : List (Nat × String)} :
    (s.publishStep answer ui done todo).fixed = s.fixed := by
  unfold publishStep
  cases todo with
  | nil => rfl
  | cons p todo =>
    dsimp only
    cases hderive : s.derive answer s.output p.1 with
    | none => rfl
    | some file =>
      dsimp only
      cases hpublish : s.publishFile answer p.1 p.2 file with
      | none => rfl
      | some published =>
        obtain ⟨_, -, rfl⟩ := publishFile_cases hpublish
        rfl

theorem recorderStep_fixed (h : s.recorderStep answer = some s') : s'.fixed = s.fixed := by
  unfold recorderStep at h
  cases hrecorder : s.recorder with rw [hrecorder] at h
  | record | posted => cases h
  | returned | built | editMaster | remuxForget | queueFinal | rewrite | post =>
    obtain rfl := Option.some.inj h
    rfl
  | remux =>
    dsimp only at h
    cases hplace : (s.reads s.artefact).place answer s.artefact s.output with rw [hplace] at h
    | none =>
      obtain rfl := Option.some.inj h
      rfl
    | some placed =>
      obtain rfl := Option.some.inj h
      obtain ⟨_, _, -, rfl⟩ := place_cases hplace
      rfl
  | deriveFinal =>
    dsimp only at h
    split at h
    · split_ifs at h <;> obtain rfl := Option.some.inj h <;> rfl
    · obtain rfl := Option.some.inj h
      rfl
  | drain =>
    dsimp only at h
    split at h
    · obtain rfl := Option.some.inj h
      rfl
    · cases h
  | publish =>
    obtain rfl := Option.some.inj h
    exact publishStep_fixed
  | publishWhole =>
    dsimp only at h
    cases hpublish : s.publishFile answer 0 s.artefact s.output with rw [hpublish] at h
    | none =>
      obtain rfl := Option.some.inj h
      rfl
    | some published =>
      obtain rfl := Option.some.inj h
      obtain ⟨_, -, rfl⟩ := publishFile_cases hpublish
      rfl
  | forget =>
    dsimp only at h
    split_ifs at h <;> obtain rfl := Option.some.inj h <;> rfl

/-- Success comes from `Record()` only. -/
theorem recorderStep_succeeded (h : s.recorderStep answer = some s')
    (hs' : s'.recorder.engineSucceeded = true) : s.recorder.engineSucceeded = true := by
  unfold recorderStep at h
  cases hrecorder : s.recorder with rw [hrecorder] at h
  | record | posted => cases h
  | post =>
    obtain rfl := Option.some.inj h
    exact nomatch hs'
  | forget =>
    dsimp only at h
    split_ifs at h <;> obtain rfl := Option.some.inj h <;> exact nomatch hs'
  | returned succeeded =>
    obtain rfl := Option.some.inj h
    exact hs'
  | built succeeded ui =>
    cases succeeded with
    | true => rfl
    | false =>
      obtain rfl := Option.some.inj h
      exact nomatch hs'
  | _ => rfl

end

/-! ## Runs -/

theorem Segments.of_fixed {s s' : Session} (h : s.Segments) (hfixed : s'.fixed = s.fixed)
    (hrecorder : s'.recorder.engineSucceeded = true → s.recorder.engineSucceeded = true) :
    s'.Segments := by
  simp only [fixed, Prod.mk.injEq] at hfixed
  obtain ⟨hcontainer, hname, hmux, hsegments, hfailed, -⟩ := hfixed
  exact h.frame (by rw [artefact, artefact, hcontainer, hname]) hsegments hmux hfailed hrecorder

theorem segments_step {s s' : Session} {a : Action} (h : s.Segments) (hs : s.step a = some s') :
    s'.Segments := by
  cases a with
  | setContainer container =>
    obtain rfl := Option.some.inj hs
    exact h.of_fixed rfl id
  | requestSplit =>
    obtain rfl := Option.some.inj hs
    refine h.of_fixed ?_ ?_ <;> unfold requestSplit <;> split_ifs <;> first | rfl | exact id
  | splitAnswered answer =>
    obtain rfl := Option.some.inj hs
    refine h.of_fixed ?_ ?_ <;> unfold splitAnswered <;> split_ifs <;> first | rfl | exact id
  | boundary answer => exact segments_finalize h hs
  | stop answer => exact segments_finalize h hs
  | mux answer => exact segments_mux h hs
  | returns answer => exact segments_returns h hs
  | pool answer =>
    obtain ⟨hfixed, hrecorder⟩ := poolStep_fixed hs
    exact h.of_fixed hfixed fun hs' => hrecorder ▸ hs'
  | recorder answer => exact h.of_fixed (recorderStep_fixed hs) (recorderStep_succeeded hs)

theorem segments_exec {s s' : Session} {as : List Action} (h : s.Segments)
    (hs : s.exec as = some s') : s'.Segments :=
  StepRun.exec_invariant_all (fun _ _ _ => segments_step) h hs

theorem muxStep_container {s s' : Session} {answer : Answer} (h : s.muxStep answer = some s') :
    s'.container = s.container := by
  unfold muxStep at h
  cases hmux : s.mux with rw [hmux] at h
  | writing | closed => cases h
  | addNext =>
    dsimp only at h
    split at h <;> obtain rfl := Option.some.inj h <;> rfl
  | openNext =>
    dsimp only at h
    split at h
    · split_ifs at h <;> obtain rfl := Option.some.inj h <;> rfl
    · obtain rfl := Option.some.inj h
      rfl
  | _ =>
    obtain rfl := Option.some.inj h
    rfl

/-- The container of a recording is the one it was started with. -/
theorem container_step {s s' : Session} {a : Action} (hs : s.step a = some s') :
    s'.container = s.container := by
  cases a with
  | setContainer container =>
    obtain rfl := Option.some.inj hs
    rfl
  | requestSplit =>
    obtain rfl := Option.some.inj hs
    unfold requestSplit
    split_ifs <;> rfl
  | splitAnswered answer =>
    obtain rfl := Option.some.inj hs
    unfold splitAnswered
    split_ifs <;> rfl
  | boundary answer | stop answer =>
    simp only [step, finalize] at hs
    split at hs
    · obtain rfl := Option.some.inj hs
      rfl
    · cases hs
  | mux answer => exact muxStep_container hs
  | returns answer =>
    simp only [step, returns] at hs
    split at hs
    · split_ifs at hs
      obtain rfl := Option.some.inj hs
      rfl
    · cases hs
  | pool answer => exact congrArg Prod.fst (poolStep_fixed hs).1
  | recorder answer => exact congrArg Prod.fst (recorderStep_fixed hs)

/-! ## Recordings over an empty folder -/

theorem clip_nonempty : "Clip" ≠ "" := by decide

theorem clip_plain : ':' ∉ "Clip".toList := by decide

def clip : RecordingName := ⟨"Clip", clip_nonempty, clip_plain⟩

def clipStart (container : Container) : Session := start container clip (fun _ => none) [] 0

theorem clip_starts (container : Container) : Starts (fun _ => none) (clipStart container) :=
  ⟨container, clip, [], 0, rfl, rfl, nofun, rfl⟩

/-- The engine ends a segment on its own, and opens the next. -/
def boundaryActions : List Action := .boundary {} :: List.replicate 3 (.mux {})

/-- A split of an MP4 recording, from the request to the opening of the next segment. -/
def splitActions : List Action :=
  [.setContainer .matroska, .requestSplit, .splitAnswered {}, .boundary {}] ++
    List.replicate 10 (.mux {})

def stopActions : List Action := [.stop {}, .mux {}, .mux {}, .returns {}]

end Session

end Exosnap.Split
