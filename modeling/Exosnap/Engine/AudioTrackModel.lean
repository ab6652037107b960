/-
  The audio rows and the tracks they become (`audio_track_model.cpp`, `audio_ui_state.cpp`).

  A display has no process for App and Sys to be scoped to, so its rows are normalised before they are
  resolved, and that goes by the kind of a row alone. The tracks have all that is enabled exactly if
  the system row that stays is one of the enabled (`planned_audio_iff`).

  The power behind the gain is a parameter, and the indices of the tracks do not wrap.
-/
import Exosnap.Models.PresetConfig
import Mathlib.Data.List.ModifyLast

namespace Exosnap.Engine

/-! ## The rows -/

/-- `std::erase_if` of the elements that come after another with the property. -/
def eraseRepeats {α : Type} (p : α → Bool) (seen : Bool) : List α → List α
  | [] => []
  | a :: rest =>
      if p a then
        if seen then eraseRepeats p true rest else a :: eraseRepeats p true rest
      else a :: eraseRepeats p seen rest

def sysToSystemOutput (row : AudioSourceRow) : AudioSourceRow :=
  if row.kind = .sys then { row with kind := .systemOutput } else row

def NormalizeSourceRowsForTarget (rows : List AudioSourceRow) (windowTarget : Bool) :
    List AudioSourceRow :=
  if windowTarget then rows
  else
    eraseRepeats (·.kind = .systemOutput) false
      ((rows.filter (·.kind ≠ .app)).map sysToSystemOutput)

/-! ## The tracks -/

structure ResolvedAudioTrack where
  sources : List AudioSourceKind
  sourceGainLinear : List Float32
  trackIndex : Nat

structure AudioTrackPlan where
  tracks : List ResolvedAudioTrack

variable (pow10 : Float32 → Float32)

def GainDbToLinear (gainDb : Float32) (muted : Bool) : Float32 :=
  if muted then 0.0 else pow10 (gainDb / 20.0)

def rowGain (row : AudioSourceRow) : Float32 := GainDbToLinear pow10 row.gainDb row.muted

def ResolvedAudioTrack.push (track : ResolvedAudioTrack) (kind : AudioSourceKind) (gain : Float32) :
    ResolvedAudioTrack :=
  { track with
    sources := track.sources ++ [kind], sourceGainLinear := track.sourceGainLinear ++ [gain] }

/-- One row of `ResolveAudioTracks`. -/
def resolveRow (plan : AudioTrackPlan) (row : AudioSourceRow) : AudioTrackPlan :=
  if ¬ row.enabled then plan
  else
    let gain := rowGain pow10 row
    if plan.tracks = [] ∨ ¬ row.mergeWithAbove then
      { tracks := plan.tracks ++ [⟨[row.kind], [gain], plan.tracks.length⟩] }
    else { tracks := plan.tracks.modifyLast (·.push row.kind gain) }

def ResolveAudioTracks (rows : List AudioSourceRow) : AudioTrackPlan :=
  rows.foldl (resolveRow pow10) ⟨[]⟩

/-- What a plan captures, in order, with the gain of each. -/
def AudioTrackPlan.contents (plan : AudioTrackPlan) : List (AudioSourceKind × Float32) :=
  plan.tracks.flatMap fun track => track.sources.zip track.sourceGainLinear

/-- Every source of a track has a gain, no track is empty, and each has its position for an index. -/
structure AudioTrackPlan.WellFormed (plan : AudioTrackPlan) : Prop where
  gains : ∀ track ∈ plan.tracks, track.sourceGainLinear.length = track.sources.length
  nonempty : ∀ track ∈ plan.tracks, track.sources ≠ []
  indices : plan.tracks.map ResolvedAudioTrack.trackIndex = List.range plan.tracks.length

/-- Sys and SystemOutput: the rows that capture the system on a display. -/
def IsSystemRow (row : AudioSourceRow) : Bool := row.kind = .sys ∨ row.kind = .systemOutput

/-- The rows' enabled sources are in the plan, as far as a display has them. -/
structure KeepsEnabled (rows : List AudioSourceRow) (plan : AudioTrackPlan) : Prop where
  wellFormed : plan.WellFormed
  sources : plan.tracks.flatMap ResolvedAudioTrack.sources = plan.contents.map Prod.fst
  mics : plan.contents.filter (·.1 = .mic) =
    (rows.filter fun row => row.enabled ∧ row.kind = .mic).map
      fun row => (row.kind, rowGain pow10 row)
  noApp : ∀ source ∈ plan.contents, source.1 ≠ .app
  noSys : ∀ source ∈ plan.contents, source.1 ≠ .sys
  system : (∃ row ∈ rows, IsSystemRow row ∧ row.enabled) →
    ∃ row ∈ rows, IsSystemRow row ∧ row.enabled ∧
      plan.contents.filter (·.1 = .systemOutput) = [(.systemOutput, rowGain pow10 row)]
  noSystem : (¬ ∃ row ∈ rows, IsSystemRow row ∧ row.enabled) →
    plan.contents.filter (·.1 = .systemOutput) = []

/-- The first of the system rows is enabled if any of them is. -/
def FirstSystemEnabled (rows : List AudioSourceRow) : Prop :=
  ∀ row ∈ rows.find? IsSystemRow, (∃ row ∈ rows, IsSystemRow row ∧ row.enabled) → row.enabled

variable {pow10 : Float32 → Float32}

/-! ## Resolving -/

theorem contents_append (tracks : List ResolvedAudioTrack) (track : ResolvedAudioTrack) :
    (AudioTrackPlan.mk (tracks ++ [track])).contents =
      (AudioTrackPlan.mk tracks).contents ++ track.sources.zip track.sourceGainLinear := by
  rw [AudioTrackPlan.contents, AudioTrackPlan.contents, List.flatMap_append, List.flatMap_singleton]

theorem AudioTrackPlan.WellFormed.append {tracks : List ResolvedAudioTrack}
    (h : (AudioTrackPlan.mk tracks).WellFormed) {track : ResolvedAudioTrack} (hgains : track.sourceGainLinear.length = track.sources.length)
    (hne : track.sources ≠ []) (hindex : track.trackIndex = tracks.length) :
    (AudioTrackPlan.mk (tracks ++ [track])).WellFormed where
  gains t ht := by
    rcases List.mem_append.mp ht with ht | ht
    · exact h.gains t ht
    · rwa [List.mem_singleton.mp ht]
  nonempty t ht := by
    rcases List.mem_append.mp ht with ht | ht
    · exact h.nonempty t ht
    · rwa [List.mem_singleton.mp ht]
  indices := by
    rw [List.map_append, h.indices, List.map_singleton, hindex, List.length_append,
      List.length_singleton, List.range_succ]

/-- Without the last track a plan is as well formed, and the last has the index after it. -/
theorem AudioTrackPlan.WellFormed.init {tracks : List ResolvedAudioTrack}
    {track : ResolvedAudioTrack} (h : (AudioTrackPlan.mk (tracks ++ [track])).WellFormed) :
    (AudioTrackPlan.mk tracks).WellFormed ∧ track.trackIndex = tracks.length := by
  have hindices := h.indices
  rw [List.map_append, List.map_singleton, List.length_append, List.length_singleton,
    List.range_succ] at hindices
  obtain ⟨hinit, hlast⟩ := List.append_inj' hindices rfl
  exact ⟨⟨fun t ht => h.gains t (List.mem_append_left _ ht),
    fun t ht => h.nonempty t (List.mem_append_left _ ht), hinit⟩, List.singleton_inj.mp hlast⟩

/-- What a row adds: nothing, or its source at the end. -/
def rowContents (pow10 : Float32 → Float32) (row : AudioSourceRow) :
    List (AudioSourceKind × Float32) :=
  if row.enabled then [(row.kind, rowGain pow10 row)] else []

theorem resolveRow_spec (pow10 : Float32 → Float32) {plan : AudioTrackPlan} (h : plan.WellFormed)
    (row : AudioSourceRow) :
    (resolveRow pow10 plan row).WellFormed ∧
      (resolveRow pow10 plan row).contents = plan.contents ++ rowContents pow10 row := by
  cases henabled : row.enabled with
  | false => simp [resolveRow, rowContents, henabled, h]
  | true =>
    rw [resolveRow, if_neg (by simp [henabled]), rowContents, if_pos henabled]
    split_ifs with hnew
    · exact ⟨h.append rfl (List.cons_ne_nil _ _) rfl, contents_append _ _⟩
    · rw [not_or] at hnew
      obtain ⟨tracks, track, htracks⟩ := (List.eq_nil_or_concat' plan.tracks).resolve_left hnew.1
      obtain rfl : plan = ⟨tracks ++ [track]⟩ := congrArg AudioTrackPlan.mk htracks
      obtain ⟨hinit, hindex⟩ := h.init
      have hgains := h.gains track (List.mem_append_right _ (List.mem_singleton_self _))
      simp only [List.modifyLast_concat]
      refine ⟨hinit.append ?_ ?_ hindex, ?_⟩
      · simp [ResolvedAudioTrack.push, hgains]
      · exact List.append_ne_nil_of_right_ne_nil _ (List.cons_ne_nil _ _)
      · rw [contents_append, contents_append, ResolvedAudioTrack.push, List.zip_append hgains.symm,
          List.append_assoc]
        rfl

theorem foldl_resolveRow {plan : AudioTrackPlan} (h : plan.WellFormed) (rows : List AudioSourceRow) :
    (rows.foldl (resolveRow pow10) plan).WellFormed ∧
      (rows.foldl (resolveRow pow10) plan).contents =
        plan.contents ++ rows.flatMap (rowContents pow10) := by
  induction rows generalizing plan with
  | nil => exact ⟨h, (List.append_nil _).symm⟩
  | cons row rows ih =>
      obtain ⟨hrow, hcontents⟩ := resolveRow_spec pow10 h row
      rw [List.foldl_cons, List.flatMap_cons, ← List.append_assoc, ← hcontents]
      exact ih hrow

theorem wellFormed_nil : (AudioTrackPlan.mk []).WellFormed where
  gains _ h := absurd h List.not_mem_nil
  nonempty _ h := absurd h List.not_mem_nil
  indices := rfl

theorem resolveAudioTracks_wellFormed (rows : List AudioSourceRow) :
    (ResolveAudioTracks pow10 rows).WellFormed :=
  (foldl_resolveRow wellFormed_nil rows).1

/-- The plan has the enabled rows, in order. -/
theorem resolveAudioTracks_contents (rows : List AudioSourceRow) :
    (ResolveAudioTracks pow10 rows).contents =
      (rows.filter (·.enabled)).map fun row => (row.kind, rowGain pow10 row) := by
  rw [ResolveAudioTracks, (foldl_resolveRow wellFormed_nil rows).2, AudioTrackPlan.contents,
    List.flatMap_nil, List.nil_append]
  induction rows with
  | nil => rfl
  | cons row rows ih =>
      rw [List.flatMap_cons, ih, rowContents, List.filter_cons]
      cases row.enabled <;> rfl

theorem AudioTrackPlan.WellFormed.sources {plan : AudioTrackPlan} (h : plan.WellFormed) :
    plan.tracks.flatMap ResolvedAudioTrack.sources = plan.contents.map Prod.fst := by
  rw [AudioTrackPlan.contents, List.map_flatMap]
  refine List.flatMap_congr fun track ht => ?_
  rw [List.map_fst_zip (Nat.le_of_eq (h.gains track ht).symm)]

/-! ## Normalising -/

section EraseRepeats

variable {α : Type} (p : α → Bool)

theorem filter_eraseRepeats (seen : Bool) (l : List α) :
    (eraseRepeats p seen l).filter p = if seen then [] else (l.find? p).toList := by
  induction l generalizing seen with
  | nil => cases seen <;> rfl
  | cons a rest ih => cases h : p a <;> cases seen <;> simp [eraseRepeats, h, ih]

theorem filter_eraseRepeats_of_not {q : α → Bool} (h : ∀ a, p a → q a = false) (seen : Bool)
    (l : List α) : (eraseRepeats p seen l).filter q = l.filter q := by
  induction l generalizing seen with
  | nil => rfl
  | cons a rest ih =>
      cases hp : p a with
      | false => simp [eraseRepeats, hp, List.filter_cons, ih]
      | true => cases seen <;> simp [eraseRepeats, hp, h a hp, ih]

end EraseRepeats

theorem eraseRepeats_subset {α : Type} (p : α → Bool) (seen : Bool) (l : List α) :
    eraseRepeats p seen l ⊆ l := by
  induction l generalizing seen with
  | nil => exact List.Subset.refl _
  | cons a rest ih =>
      rw [eraseRepeats]
      split_ifs
      · exact List.subset_cons_of_subset a (ih true)
      · exact List.cons_subset_cons a (ih true)
      · exact List.cons_subset_cons a (ih seen)

theorem sysToSystemOutput_kind (row : AudioSourceRow) :
    (sysToSystemOutput row).kind = if row.kind = .sys then .systemOutput else row.kind := by
  rw [sysToSystemOutput]
  split_ifs <;> rfl

theorem sysToSystemOutput_enabled (row : AudioSourceRow) :
    (sysToSystemOutput row).enabled = row.enabled := by
  rw [sysToSystemOutput]
  split_ifs <;> rfl

theorem sysToSystemOutput_gain (row : AudioSourceRow) :
    rowGain pow10 (sysToSystemOutput row) = rowGain pow10 row := by
  rw [sysToSystemOutput]
  split_ifs <;> rfl

theorem kind_of_mem_normalize {rows : List AudioSourceRow} {row : AudioSourceRow}
    (h : row ∈ NormalizeSourceRowsForTarget rows false) : row.kind ≠ .app ∧ row.kind ≠ .sys := by
  obtain ⟨source, hsource, rfl⟩ := List.mem_map.mp (eraseRepeats_subset _ _ _ h)
  have happ : source.kind ≠ .app := of_decide_eq_true (List.mem_filter.mp hsource).2
  rw [sysToSystemOutput_kind]
  split_ifs with hsys
  · exact ⟨nofun, nofun⟩
  · exact ⟨happ, hsys⟩

/-- The microphone rows are as they were. -/
theorem filter_mic_normalize (rows : List AudioSourceRow) :
    (NormalizeSourceRowsForTarget rows false).filter (·.kind = .mic) =
      rows.filter (·.kind = .mic) := by
  have hother : ∀ row : AudioSourceRow, decide (row.kind = .systemOutput) = true →
      decide (row.kind = .mic) = false := by
    intro row h
    rw [of_decide_eq_true h]
    rfl
  rw [NormalizeSourceRowsForTarget, if_neg Bool.false_ne_true,
    filter_eraseRepeats_of_not _ hother, List.filter_map, List.filter_filter]
  have hmic : ∀ row : AudioSourceRow, row ∈ rows → (((fun row => decide (row.kind = .mic)) ∘
      sysToSystemOutput) row && decide (row.kind ≠ .app)) = decide (row.kind = .mic) := by
    intro row _
    rw [Function.comp_apply, sysToSystemOutput_kind]
    cases row.kind <;> rfl
  rw [List.filter_congr hmic]
  refine (List.map_congr_left fun row h => ?_).trans (List.map_id _)
  have hkind : row.kind = .mic := of_decide_eq_true (List.mem_filter.mp h).2
  rw [sysToSystemOutput, if_neg (by rw [hkind]; exact nofun)]
  rfl

/-- The system row that stays is the first. -/
theorem filter_system_normalize (rows : List AudioSourceRow) :
    (NormalizeSourceRowsForTarget rows false).filter (·.kind = .systemOutput) =
      ((rows.find? IsSystemRow).map sysToSystemOutput).toList := by
  rw [NormalizeSourceRowsForTarget, if_neg Bool.false_ne_true, filter_eraseRepeats,
    if_neg Bool.false_ne_true, List.find?_map, List.find?_filter]
  refine congrArg (fun p => ((rows.find? p).map sysToSystemOutput).toList) (funext fun row => ?_)
  rw [Function.comp_apply, sysToSystemOutput_kind, IsSystemRow]
  cases row.kind <;> rfl

/-! ## The plan of a display -/

theorem contents_filter (rows : List AudioSourceRow) (kind : AudioSourceKind) :
    (ResolveAudioTracks pow10 rows).contents.filter (·.1 = kind) =
      ((rows.filter (·.kind = kind)).filter (·.enabled)).map
        fun row => (row.kind, rowGain pow10 row) := by
  rw [resolveAudioTracks_contents, List.filter_map, List.filter_filter, List.filter_filter]
  congr 1
  exact List.filter_congr fun row _ => Bool.and_comm _ _

/-- The plan of a display. -/
def displayPlan (pow10 : Float32 → Float32) (rows : List AudioSourceRow) : AudioTrackPlan :=
  ResolveAudioTracks pow10 (NormalizeSourceRowsForTarget rows false)

theorem displayPlan_mics (rows : List AudioSourceRow) :
    (displayPlan pow10 rows).contents.filter (·.1 = .mic) =
      (rows.filter fun row => row.enabled ∧ row.kind = .mic).map
        fun row => (row.kind, rowGain pow10 row) := by
  rw [displayPlan, contents_filter, filter_mic_normalize, List.filter_filter]
  simp only [Bool.decide_and, Bool.decide_eq_true]

theorem displayPlan_kinds {rows : List AudioSourceRow} {source : AudioSourceKind × Float32}
    (h : source ∈ (displayPlan pow10 rows).contents) : source.1 ≠ .app ∧ source.1 ≠ .sys := by
  rw [displayPlan, resolveAudioTracks_contents] at h
  obtain ⟨row, hrow, rfl⟩ := List.mem_map.mp h
  exact kind_of_mem_normalize (List.mem_of_mem_filter hrow)

/-- What is captured of the system is the first of its rows, if that is enabled. -/
theorem displayPlan_system (pow10 : Float32 → Float32) (rows : List AudioSourceRow) :
    (displayPlan pow10 rows).contents.filter (·.1 = .systemOutput) =
      (((rows.find? IsSystemRow).filter (·.enabled)).map
        fun row => (AudioSourceKind.systemOutput, rowGain pow10 row)).toList := by
  rw [displayPlan, contents_filter, filter_system_normalize]
  cases hfind : rows.find? IsSystemRow with
  | none => rfl
  | some row =>
      have hkind : (sysToSystemOutput row).kind = .systemOutput := by
        have hsystem := List.find?_some hfind
        rw [IsSystemRow, decide_eq_true_eq] at hsystem
        rw [sysToSystemOutput_kind]
        split_ifs with hsys
        · rfl
        · exact hsystem.resolve_left hsys
      rw [Option.map_some, Option.toList_some, List.filter_singleton, sysToSystemOutput_enabled,
        Option.filter_some]
      cases row.enabled with
      | false => rfl
      | true => rw [cond_true, List.map_singleton, hkind, sysToSystemOutput_gain]; rfl

/-- All that is enabled is in the plan of a display exactly if the first system row is enabled
    whenever any of them is. -/
theorem planned_audio_iff (pow10 : Float32 → Float32) (rows : List AudioSourceRow) :
    KeepsEnabled pow10 rows (ResolveAudioTracks pow10 (NormalizeSourceRowsForTarget rows false)) ↔
      FirstSystemEnabled rows := by
  change KeepsEnabled pow10 rows (displayPlan pow10 rows) ↔ _
  have hsystem := displayPlan_system pow10 rows
  constructor
  · intro h first hfirst hany
    obtain ⟨row, -, -, -, hrow⟩ := h.system hany
    rw [Option.mem_def.mp hfirst, Option.filter_some] at hsystem
    by_contra hdisabled
    rw [hrow, if_neg hdisabled] at hsystem
    exact absurd hsystem (List.cons_ne_nil _ _)
  · intro h
    have hformed : (displayPlan pow10 rows).WellFormed := resolveAudioTracks_wellFormed _
    refine ⟨hformed, hformed.sources, displayPlan_mics rows,
      fun source hs => (displayPlan_kinds hs).1, fun source hs => (displayPlan_kinds hs).2, ?_, ?_⟩
    · rintro hany
      have hsome : (rows.find? IsSystemRow).isSome := by
        obtain ⟨row, hrow, hkind, -⟩ := hany
        exact List.find?_isSome.mpr ⟨row, hrow, hkind⟩
      obtain ⟨first, hfirst⟩ := Option.isSome_iff_exists.mp hsome
      have henabled := h first (Option.mem_def.mpr hfirst) hany
      refine ⟨first, List.mem_of_find?_eq_some hfirst, List.find?_some hfirst, henabled, ?_⟩
      rw [hsystem, hfirst, Option.filter_some, if_pos henabled]
      rfl
    · intro hnone
      rw [hsystem]
      cases hfirst : rows.find? IsSystemRow with
      | none => rfl
      | some first =>
          have hdisabled : ¬ first.enabled := fun henabled =>
            hnone ⟨first, List.mem_of_find?_eq_some hfirst, List.find?_some hfirst, henabled⟩
          rw [Option.filter_some, if_neg hdisabled]
          rfl

/-- A SystemOutput row that is switched off, before a Sys row that is on: the display has no sound of
    the system. -/
theorem disabled_row_hides_system :
    ¬ ∀ pow10 rows, KeepsEnabled pow10 rows
      (ResolveAudioTracks pow10 (NormalizeSourceRowsForTarget rows false)) := by
  intro h
  let rows : List AudioSourceRow :=
    [{ kind := .systemOutput, enabled := false }, { kind := .sys, enabled := true }]
  obtain ⟨row, -, -, -, hrow⟩ := (h id rows).system
    ⟨_, List.mem_cons_of_mem _ (List.mem_singleton_self _), rfl, rfl⟩
  have hnone := displayPlan_system id rows
  rw [show (rows.find? IsSystemRow).filter (·.enabled) = none from rfl] at hnone
  exact absurd (hnone.symm.trans hrow) nofun

end Exosnap.Engine

namespace Exosnap.Capability

open Engine (AudioTrackPlan ResolveAudioTracks NormalizeSourceRowsForTarget displayPlan_kinds
  resolveAudioTracks_wellFormed)

/-- What `BuildAudioPlan` makes of the rows; the settings that it passes on are left out. -/
structure AudioPlanResult where
  plan : AudioTrackPlan
  audioTargetProcessId : Option UInt32
  recordAudio : Bool

def planNeedsPid (plan : AudioTrackPlan) : Bool :=
  plan.tracks.any fun track => track.sources.any fun kind => kind = .app ∨ kind = .sys

def BuildAudioPlan (pow10 : Float32 → Float32) (state : AudioUiState) : AudioPlanResult :=
  let windowTarget : Bool := state.targetKind = .window
  let plan := ResolveAudioTracks pow10 (NormalizeSourceRowsForTarget state.sourceRows windowTarget)
  { plan
    audioTargetProcessId :=
      if windowTarget ∧ planNeedsPid plan then state.selectedWindowPid else none
    recordAudio := ¬ plan.tracks = [] }

/-- The plan of a display asks for no process. -/
theorem buildAudioPlan_display (pow10 : Float32 → Float32) {state : AudioUiState}
    (h : state.targetKind = .display) : planNeedsPid (BuildAudioPlan pow10 state).plan = false := by
  have hwindow : decide (state.targetKind = .window) = false := by rw [h]; rfl
  simp only [BuildAudioPlan, hwindow, planNeedsPid, List.any_eq_false]
  intro track htrack hany
  obtain ⟨kind, hkind, hprocess⟩ := List.any_eq_true.mp hany
  have hsource : kind ∈ (Engine.displayPlan pow10 state.sourceRows).contents.map Prod.fst := by
    rw [Engine.displayPlan, ← (resolveAudioTracks_wellFormed _).sources]
    exact List.mem_flatMap.mpr ⟨track, htrack, hkind⟩
  obtain ⟨source, hmem, rfl⟩ := List.mem_map.mp hsource
  obtain ⟨happ, hsys⟩ := displayPlan_kinds hmem
  exact (of_decide_eq_true hprocess).elim happ hsys

end Exosnap.Capability
