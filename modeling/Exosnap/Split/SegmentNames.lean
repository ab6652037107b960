/-
  The names a split recording reports for its segments.

  A Matroska or WebM segment is moved to the name that is reported. The name of an MP4 segment is
  derived once for its remux and once more for the result, when the segment's own file stands under
  the first name.
-/
import Exosnap.Split.SessionRuns

namespace Exosnap.Split

open Capability (Container)

namespace Session

/-! ## A recording whose segments are moved -/

/-- The segments in their order, each with the file that was written of it, if one was. -/
structure Listed (segments : List CompletedSegment) (output : String) (written : List Written)
    (l : List (Nat × String)) : Prop where
  indices : l.map Prod.fst = segments.map CompletedSegment.index
  files : ∀ p ∈ l, ∀ w ∈ written, w.segment = p.1 → w.file = p.2 ∧ SegmentName output p.1 p.2

/-- Where the recording thread is. The remux of an MP4 file is none of its stages. -/
def Phase (disk : Disk) (s : Session) : Prop :=
  match s.recorder with
  | .record | .returned _ => s.written = []
  | .built succeeded ui => s.written = [] ∧
      (succeeded = true → ui.segments = s.segments.map fun g => (g.index, g.path))
  | .publish _ done todo => s.mux = .closed ∧ Listed s.segments s.output s.written (done ++ todo) ∧
      ∀ p ∈ todo, disk p.2 = none ∧ ∀ w ∈ s.written, w.segment ≠ p.1
  | .forget ui | .post ui | .posted ui => s.written = [] ∨
      s.mux = .closed ∧ Listed s.segments s.output s.written ui.segments
  | _ => False

/-- Of a recording that was started over `disk`. -/
structure Moves (disk : Disk) (s : Session) : Prop where
  container : s.container ≠ .mp4
  jobs : s.jobs = []
  scheduling : s.mux.scheduling = false
  output : disk s.output = none
  artefact : disk s.artefact = none
  kept : ∀ name file, disk name = some file → s.disk name = some file
  opened : ∀ p ∈ s.mux.opened, disk p.2 = none
  fresh : ∀ g ∈ s.segments, disk g.path = none
  phase : s.Phase disk

theorem moves_start {disk : Disk} {s : Session} (h : Starts disk s)
    (hcontainer : s.container ≠ .mp4) : s.Moves disk := by
  obtain ⟨container, name, manifest, id, houtput, hartefact, -, rfl⟩ := h
  refine ⟨hcontainer, rfl, rfl, houtput, hartefact, fun f file hf => ?_, ?_, nofun, rfl⟩
  · have hne : f ≠ name.artefact container := by
      rintro rfl
      exact absurd (hartefact.symm.trans hf) nofun
    exact (Function.update_of_ne hne _ _).trans hf
  · rintro p ⟨⟩
    exact hartefact

section
variable {disk : Disk} {s s' : Session} {answer : Answer}

/-- Writing to a name that was free, or removing it, keeps the files that were there. -/
theorem kept_update {f : String} {file? : Option File}
    (h : ∀ name file, disk name = some file → s.disk name = some file) (hfree : disk f = none) :
    ∀ name file, disk name = some file → Function.update s.disk f file? name = some file := by
  intro name file hname
  have hne : name ≠ f := by
    rintro rfl
    exact absurd (hfree.symm.trans hname) nofun
  exact (Function.update_of_ne hne _ _).trans (h name file hname)

/-- A derived name was free when the recording was started. -/
theorem Moves.derive_free (h : s.Moves disk) {base f : String} {index : Nat}
    (hbase : disk base = none) (hderive : s.derive answer base index = some f) : disk f = none := by
  by_cases hindex : index = 0
  · subst hindex
    obtain rfl : base = f := Option.some.inj hderive
    exact hbase
  · have hprobe := free_of_derive hindex hderive
    unfold Disk.probe at hprobe
    split_ifs at hprobe
    by_contra hsome
    obtain ⟨file, hfile⟩ := Option.ne_none_iff_exists'.mp hsome
    rw [h.kept f file hfile] at hprobe
    exact nomatch hprobe

/-- While the engine's thread runs, nothing is published. -/
theorem Moves.phase_running (h : s.Moves disk) (hseg : s.Segments) (hmux : s.mux ≠ .closed)
    (hrecorder : s'.recorder = s.recorder) (hwritten : s'.written = s.written) : s'.Phase disk := by
  have hphase := h.phase
  have hended := hseg.ended
  unfold Phase at hphase ⊢
  rw [hrecorder, hwritten]
  cases hstage : s.recorder with rw [hstage] at hphase hended
  | record | returned => exact hphase
  | built succeeded ui =>
    exact ⟨hphase.1, fun hok => absurd (hended hok).1 hmux⟩
  | publish => exact absurd hphase.1 hmux
  | forget | post | posted => exact .inl (hphase.resolve_right fun hclosed => hmux hclosed.1)
  | _ => exact hphase

/-- A step of the engine's thread that makes no file. -/
theorem Moves.mux_frame (h : s.Moves disk) (hseg : s.Segments) (hmux : s.mux ≠ .closed)
    (hname : (s'.container, s'.name, s'.jobs, s'.disk) = (s.container, s.name, s.jobs, s.disk))
    (hscheduling : s'.mux.scheduling = false) (hopened : s'.mux.opened = none)
    (hfresh : ∀ g ∈ s'.segments, disk g.path = none) (hrecorder : s'.recorder = s.recorder)
    (hwritten : s'.written = s.written) : s'.Moves disk := by
  simp only [Prod.mk.injEq] at hname
  obtain ⟨hcontainer, hname, hjobs, hdisk⟩ := hname
  exact {
    container := hcontainer ▸ h.container
    jobs := hjobs.trans h.jobs
    scheduling := hscheduling
    output := by rw [Session.output, hname, hcontainer]; exact h.output
    artefact := by rw [Session.artefact, hname, hcontainer]; exact h.artefact
    kept := hdisk ▸ h.kept
    opened := by rw [hopened]; intros; contradiction
    fresh := hfresh
    phase := h.phase_running hseg hmux hrecorder hwritten }

theorem moves_mux (h : s.Moves disk) (hseg : s.Segments)
    (hs : s.muxStep answer = some s') : s'.Moves disk := by
  have hscheduling := h.scheduling
  have hopen : s.mux ≠ .closed := by
    intro hmux
    rw [muxStep, hmux] at hs
    exact nomatch hs
  have hafter : ∀ g, (afterCallback g).scheduling = false ∧ (afterCallback g).opened = none := by
    intro g
    unfold afterCallback
    split_ifs <;> exact ⟨rfl, rfl⟩
  unfold muxStep at hs
  cases hmux : s.mux with rw [hmux] at hs hscheduling
  | writing | closed => cases hs
  | push g =>
    obtain rfl := Option.some.inj hs
    refine h.mux_frame hseg hopen rfl rfl rfl (fun g' hg' => ?_) rfl rfl
    rcases List.mem_append.mp hg' with hg' | hg'
    · exact h.fresh g' hg'
    · rw [List.mem_singleton.mp hg']
      exact h.opened (g.index, g.path) (by rw [hmux]; rfl)
  | exchange g =>
    simp only [beq_false_of_ne h.container, Bool.and_false, Bool.false_eq_true, if_false] at hs
    obtain rfl := Option.some.inj hs
    exact h.mux_frame hseg hopen rfl (hafter g).1 (hafter g).2 h.fresh rfl rfl
  | openNext index =>
    dsimp only at hs
    split at hs
    · next path hrecorder hderive =>
      split_ifs at hs
      · obtain rfl := Option.some.inj hs
        have hfree := h.derive_free h.artefact hderive
        exact {
          container := h.container
          jobs := h.jobs
          scheduling := rfl
          output := h.output
          artefact := h.artefact
          kept := kept_update h.kept hfree
          opened := by rintro p ⟨⟩; exact hfree
          fresh := h.fresh
          phase := h.phase_running hseg hopen rfl rfl }
      · obtain rfl := Option.some.inj hs
        exact h.mux_frame hseg hopen rfl rfl rfl h.fresh rfl rfl
    · obtain rfl := Option.some.inj hs
      exact h.mux_frame hseg hopen rfl rfl rfl h.fresh rfl rfl
  | _ => exact nomatch hscheduling

theorem moves_finalize {sessionEnd : Bool} (h : s.Moves disk)
    (hs : s.finalize answer sessionEnd = some s') : s'.Moves disk := by
  unfold finalize at hs
  split at hs
  · next index path hrecorder hmux =>
    obtain rfl := Option.some.inj hs
    have hfree := h.opened (index, path) (by rw [hmux]; rfl)
    have hphase := h.phase
    unfold Phase at hphase
    rw [hrecorder] at hphase
    exact {
      container := h.container
      jobs := h.jobs
      scheduling := rfl
      output := h.output
      artefact := h.artefact
      kept := kept_update h.kept hfree
      opened := by rintro p ⟨⟩; exact hfree
      fresh := h.fresh
      phase := by
        unfold Phase
        dsimp only
        rw [hrecorder]
        exact hphase }
  · cases hs

theorem moves_returns (h : s.Moves disk) (hs : s.returns answer = some s') : s'.Moves disk := by
  have hphase := h.phase
  unfold returns at hs
  unfold Phase at hphase
  split at hs
  · next hrecorder =>
    rw [hrecorder] at hphase
    split_ifs at hs
    obtain rfl := Option.some.inj hs
    exact { h with phase := hphase }
  · cases hs

/-- A step of the recording thread that makes no file. -/
theorem Moves.recorder_frame {recorder : Recorder} {splitPending : Bool}
    {manifest dropped : List RecoveryManifestEntry} {currentManifestId : Option Nat}
    (h : s.Moves disk) (hphase : Phase disk { s with recorder := recorder }) :
    Moves disk { s with
      recorder := recorder, splitPending := splitPending, manifest := manifest, dropped := dropped
      currentManifestId := currentManifestId } :=
  { h with phase := hphase }

/-- A segment that is published. -/
theorem Listed.publish {segments : List CompletedSegment} {written : List Written} {base : String}
    {done todo : List (Nat × String)} {index : Nat} {path file : String}
    (h : Listed segments base written (done ++ (index, path) :: todo))
    (hsegments : (segments.map CompletedSegment.index).Nodup) (hname : SegmentName base index file)
    (hnew : ∀ w ∈ written, w.segment ≠ index) :
    Listed segments base (⟨index, path, file⟩ :: written) (done ++ (index, file) :: todo) := by
  have hnodup : ((done ++ (index, path) :: todo).map Prod.fst).Nodup := h.indices ▸ hsegments
  rw [List.map_append, List.map_cons, List.nodup_middle, List.nodup_cons, ← List.map_append] at hnodup
  refine ⟨by simpa using h.indices, fun p hp w hw heq => ?_⟩
  by_cases hindex : p.1 = index
  · have hp : p = (index, file) := by
      rw [List.mem_append, List.mem_cons, or_left_comm, ← List.mem_append] at hp
      refine hp.resolve_right fun hother => hnodup.1 ?_
      have hmem := List.mem_map_of_mem (f := Prod.fst) hother
      rwa [hindex] at hmem
    subst hp
    rcases List.mem_cons.mp hw with rfl | hw
    · exact ⟨rfl, hname⟩
    · exact absurd heq (hnew w hw)
  · have hp : p ∈ done ++ (index, path) :: todo := by
      rw [List.mem_append, List.mem_cons] at hp ⊢
      refine hp.imp_right (Or.resolve_left · ?_ |> .inr)
      rintro rfl
      exact hindex rfl
    rcases List.mem_cons.mp hw with rfl | hw
    · exact absurd heq.symm hindex
    · exact h.files p hp w hw heq

theorem moves_publish {ui : UiRecordingResult} {done todo : List (Nat × String)} (h : s.Moves disk)
    (hseg : s.Segments) (hrecorder : s.recorder = .publish ui done todo) :
    (s.publishStep answer ui done todo).Moves disk := by
  have hphase := h.phase
  unfold Phase at hphase
  rw [hrecorder] at hphase
  obtain ⟨hclosed, hlisted, htodo⟩ := hphase
  have hnodup : (s.segments.map CompletedSegment.index).Nodup := by
    rw [hseg.indexed]
    exact List.nodup_range
  unfold publishStep
  cases todo with
  | nil =>
    rw [List.append_nil] at hlisted
    exact h.recorder_frame (.inr ⟨hclosed, hlisted⟩)
  | cons p todo =>
    obtain ⟨index, path⟩ := p
    dsimp only
    cases hderive : s.derive answer s.output index with
    | none => exact h.recorder_frame (.inr ⟨hclosed, hlisted⟩)
    | some file =>
      dsimp only
      obtain ⟨hpath, hnew⟩ := htodo (index, path) List.mem_cons_self
      cases hpublish : s.publishFile answer index path file with
      | none => exact h.recorder_frame (.inr ⟨hclosed, hlisted⟩)
      | some published =>
        obtain ⟨content, -, rfl⟩ := publishFile_cases hpublish
        have hfile := h.derive_free h.output hderive
        have hdistinct : index ∉ todo.map Prod.fst := by
          rw [← hlisted.indices, List.map_append, List.map_cons, List.nodup_middle, List.nodup_cons]
            at hnodup
          exact fun hmem => hnodup.1 (List.mem_append_right _ hmem)
        exact { h with
          kept := kept_update (s := { s with disk := Function.update s.disk path none })
            (kept_update h.kept hpath) hfile
          phase := by
            refine ⟨hclosed, ?_, fun p hp => ?_⟩
            · rw [List.append_assoc]
              exact hlisted.publish hnodup (segmentName_of_derive hderive) hnew
            · obtain ⟨hfree, hold⟩ := htodo p (List.mem_cons_of_mem _ hp)
              refine ⟨hfree, fun w hw => ?_⟩
              rcases List.mem_cons.mp hw with rfl | hw
              · rintro rfl
                exact hdistinct (List.mem_map_of_mem hp)
              · exact hold w hw }

theorem moves_recorder (h : s.Moves disk) (hseg : s.Segments)
    (hs : s.recorderStep answer = some s') : s'.Moves disk := by
  have hphase := h.phase
  have hended := hseg.ended
  unfold recorderStep at hs
  unfold Phase at hphase
  cases hrecorder : s.recorder with rw [hrecorder] at hs hphase hended
  | record | posted => cases hs
  | returned succeeded =>
    obtain rfl := Option.some.inj hs
    exact h.recorder_frame ⟨hphase, fun _ => rfl⟩
  | built succeeded ui =>
    obtain rfl := Option.some.inj hs
    refine h.recorder_frame ?_
    cases succeeded with
    | false => exact .inl hphase.1
    | true =>
      obtain ⟨hclosed, hok⟩ := hended rfl
      obtain ⟨g, hlast, -⟩ := hseg.closed hclosed hok
      have hsegments := hphase.2 rfl
      have hsome : ui.segments ≠ [] := by
        rw [hsegments, ne_eq, List.map_eq_nil_iff]
        rintro hnil
        rw [hnil] at hlast
        exact nomatch hlast
      rw [if_neg (by decide), if_neg h.container, if_neg (by simpa using hsome)]
      refine ⟨hclosed, ⟨?_, ?_⟩, fun p hp => ⟨?_, ?_⟩⟩
      · rw [List.nil_append, hsegments, List.map_map]
        rfl
      · rw [hphase.1]
        exact nofun
      · rw [hsegments] at hp
        obtain ⟨g, hg, rfl⟩ := List.mem_map.mp hp
        exact h.fresh g hg
      · dsimp only
        rw [hphase.1]
        exact nofun
  | publish ui done todo =>
    obtain rfl := Option.some.inj hs
    exact moves_publish h hseg hrecorder
  | forget ui =>
    dsimp only at hs
    split_ifs at hs <;> obtain rfl := Option.some.inj hs <;> exact h.recorder_frame hphase
  | post ui =>
    obtain rfl := Option.some.inj hs
    exact h.recorder_frame hphase
  | _ => exact hphase.elim

end

theorem moves_step {disk : Disk} {s s' : Session} {a : Action} (h : s.Moves disk) (hseg : s.Segments)
    (hs : s.step a = some s') : s'.Moves disk := by
  cases a with
  | setContainer container =>
    obtain rfl := Option.some.inj hs
    exact { h with phase := h.phase }
  | requestSplit =>
    obtain rfl := Option.some.inj hs
    unfold requestSplit
    split_ifs
    · exact { h with phase := h.phase }
    · exact h
  | splitAnswered answer =>
    obtain rfl := Option.some.inj hs
    unfold splitAnswered
    split_ifs
    · exact { h with phase := h.phase }
    · exact h
  | boundary answer => exact moves_finalize h hs
  | stop answer => exact moves_finalize h hs
  | mux answer => exact moves_mux h hseg hs
  | returns answer => exact moves_returns h hs
  | pool answer =>
    have hs : s.poolStep answer = some s' := hs
    rw [poolStep, h.jobs] at hs
    cases hs
  | recorder answer => exact moves_recorder h hseg hs

theorem moves_exec {disk : Disk} {s s' : Session} {as : List Action} (h : s.Moves disk)
    (hseg : s.Segments) (hs : s.exec as = some s') : s'.Moves disk :=
  (StepRun.exec_invariant_all (I := fun s => s.Segments ∧ s.Moves disk)
    (fun _ _ _ hI hstep => ⟨segments_step hI.1 hstep, moves_step hI.2 hI.1 hstep⟩) ⟨hseg, h⟩ hs).2

/-! ## The reported paths -/

/-- Every segment was published or remuxed. -/
def AllWritten (s : Session) : Prop :=
  ∀ g ∈ s.segments, ∃ w ∈ s.written, w.segment = g.index

/-- What a recording started over `disk` reports of its segments is what was written of them. -/
structure PathsAreWritten (disk : Disk) (s : Session) (ui : UiRecordingResult) : Prop where
  indices : ui.segments.map Prod.fst = s.segments.map CompletedSegment.index
  written : ∀ p ∈ ui.segments, ∃ w ∈ s.written, w.segment = p.1 ∧ w.file = p.2
  only : ∀ p ∈ ui.segments, ∀ w ∈ s.written, w.segment = p.1 → w.file = p.2
  distinct : (ui.segments.map Prod.snd).Nodup
  kept : ∀ name file, disk name = some file → s.disk name = some file
  size : s.container = .mp4 →
    ui.outputFileBytes = (ui.segments.map fun p => ((s.disk p.2).map File.bytes).getD 0).sum

theorem Listed.distinct {segments : List CompletedSegment} {written : List Written} {base : String}
    {l : List (Nat × String)} (h : Listed segments base written l)
    (hsegments : (segments.map CompletedSegment.index).Nodup)
    (hall : ∀ p ∈ l, ∃ w ∈ written, w.segment = p.1) : (l.map Prod.snd).Nodup := by
  have hnodup : (l.map Prod.fst).Nodup := h.indices ▸ hsegments
  have hname : ∀ p ∈ l, SegmentName base p.1 p.2 := by
    intro p hp
    obtain ⟨w, hw, heq⟩ := hall p hp
    exact (h.files p hp w hw heq).2
  refine List.Nodup.map_on (fun p hp q hq hpath => ?_) hnodup.of_map
  exact List.inj_on_of_nodup_map hnodup hp hq
    (segmentName_index (hname p hp) (hpath ▸ hname q hq))

/-- In every run of a recording that is not made in MP4. -/
theorem paths_are_written {disk : Disk} {s s' : Session} {as : List Action} {ui : UiRecordingResult}
    (h : Starts disk s) (hcontainer : s.container ≠ .mp4) (hs : s.exec as = some s')
    (hposted : s'.recorder = .posted ui) (hsplit : 1 < s'.segments.length) (hall : s'.AllWritten) :
    PathsAreWritten disk s' ui := by
  have hseg := segments_exec (segments_start h) hs
  have hmoves := moves_exec (moves_start h hcontainer) (segments_start h) hs
  have hphase := hmoves.phase
  unfold Phase at hphase
  rw [hposted] at hphase
  obtain hnone | ⟨-, hlisted⟩ := hphase
  · obtain ⟨g, hg⟩ := List.exists_mem_of_length_pos (Nat.lt_of_succ_lt hsplit)
    obtain ⟨w, hw, -⟩ := hall g hg
    rw [hnone] at hw
    exact nomatch hw
  have hwritten : ∀ p ∈ ui.segments, ∃ w ∈ s'.written, w.segment = p.1 := by
    intro p hp
    have hindex := List.mem_map_of_mem (f := Prod.fst) hp
    rw [hlisted.indices] at hindex
    obtain ⟨g, hg, heq⟩ := List.mem_map.mp hindex
    rw [← heq]
    exact hall g hg
  exact {
    indices := hlisted.indices
    written := fun p hp => by
      obtain ⟨w, hw, heq⟩ := hwritten p hp
      exact ⟨w, hw, heq, (hlisted.files p hp w hw heq).1⟩
    only := fun p hp w hw heq => (hlisted.files p hp w hw heq).1
    distinct := hlisted.distinct (by rw [hseg.indexed]; exact List.nodup_range) hwritten
    kept := hmoves.kept
    size := fun hmp4 => absurd hmp4 hmoves.container }

/-- A Matroska recording in two segments. -/
theorem paths_are_written_two :
    ∃ s ui, (clipStart .matroska).exec (boundaryActions ++ stopActions ++
      List.replicate 7 (.recorder {})) = some s ∧ PathsAreWritten (fun _ => none) s ui := by
  obtain ⟨s, hs, hview⟩ := (Option.any_eq_true _ _).mp (show ((clipStart .matroska).exec
    (boundaryActions ++ stopActions ++ List.replicate 7 (.recorder {}))).any (fun s =>
      s.recorder == .posted ⟨true, [(0, "Clip.mkv"), (1, "Clip_part-002.mkv")], 0⟩ &&
      decide (1 < s.segments.length) && s.segments.all fun g =>
        s.written.any (·.segment == g.index)) = true by decide +kernel)
  simp only [Bool.and_eq_true, beq_iff_eq, decide_eq_true_eq, List.all_eq_true, List.any_eq_true]
    at hview
  exact ⟨s, _, hs, paths_are_written (clip_starts .matroska) (by decide) hs hview.1.1 hview.1.2
    hview.2⟩

/-- The second segment of an MP4 recording is remuxed to `Clip_part-002.mp4`, and reported under the
    next free name. -/
theorem mp4_path_derived_twice :
    ¬ ∀ (disk : Disk) (s s' : Session) (as : List Action) (ui : UiRecordingResult), Starts disk s →
      s.exec as = some s' → s'.recorder = .posted ui → 1 < s'.segments.length → s'.AllWritten →
      PathsAreWritten disk s' ui := by
  intro h
  obtain ⟨s, hs, hview⟩ := (Option.any_eq_true _ _).mp (show ((clipStart .mp4).exec
    (splitActions ++ stopActions ++ List.replicate 4 (.recorder {}) ++ List.replicate 8 (.pool {}) ++
      List.replicate 5 (.recorder {}))).any (fun s =>
      s.recorder == .posted ⟨true, [(0, "Clip.mp4"), (1, "Clip_part-002_1.mp4")], 0⟩ &&
      decide (1 < s.segments.length) &&
      (s.segments.all fun g => s.written.any (·.segment == g.index)) &&
      s.written.all (·.file != "Clip_part-002_1.mp4")) = true by decide +kernel)
  simp only [Bool.and_eq_true, beq_iff_eq, decide_eq_true_eq, List.all_eq_true, List.any_eq_true,
    bne_iff_ne] at hview
  obtain ⟨⟨⟨hposted, hsplit⟩, hall⟩, hnone⟩ := hview
  have hpaths := h _ _ s _ _ (clip_starts .mp4) hs hposted hsplit hall
  obtain ⟨w, hw, -, hfile⟩ := hpaths.written (1, "Clip_part-002_1.mp4") (by decide)
  exact hnone w hw hfile

end Session

end Exosnap.Split
