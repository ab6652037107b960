/-
  What `Finish` does to files, at every point at which the process may be killed.

  `Safe` is what has to hold of the world at such a point, against the world at the beginning.
  `Unthreatened` is a condition on the places the chosen names lead to, before anything is done: that
  the artefact is at none of the others, and that nothing of someone else's is in the way.
-/
import Exosnap.Services.RecoveryService
import Exosnap.Settings.ManifestEntries

namespace Exosnap.Services

open Journaled
open Exosnap.Settings (RecoveryManifestEntry JsonText)

/-- The places of one call. -/
structure Spots (Loc : Type) where
  artefact : Loc
  target : Loc
  staging : Option Loc
  own : Option Loc

section
variable {Loc C τ : Type}

def spotsOf (naming : Naming Loc) (entry : RecoveryManifestEntry) (plan : Recovery.Plan) :
    Spots Loc where
  artefact := naming.locate (Path.ofString entry.artefactPath)
  target := naming.locate plan.target
  staging := plan.staging.map naming.locate
  own :=
    if entry.finalOutputPath.isEmpty then none
    else some (naming.locate (Path.ofString entry.finalOutputPath))

/-- What the target is to hold in the end, from what the artefact is. -/
def goalOf (result : Recovery.RemuxKind → C → C) (plan : Recovery.Plan)
    (artefact : Option (Node C)) : Option (Node C) :=
  match plan, artefact with
  | .rename _, node => node
  | .remux kind _ _, some (.file contents) => some (.file (result kind contents))
  | .remux _ _ _, _ => none

/-- The result is at the target. -/
def Complete (spots : Spots Loc) (goal : Option (Node C)) (w : World Loc C τ) : Prop :=
  goal ≠ none ∧ w.files spots.target = goal

/-- Files at other places than those of the call are as they were. -/
def OthersKept (spots : Spots Loc) (w₀ w : World Loc C τ) : Prop :=
  ∀ loc, loc ≠ spots.artefact → some loc ≠ spots.own → some loc ≠ spots.staging →
    w₀.files loc ≠ none → w.files loc = w₀.files loc

structure Safe (spots : Spots Loc) (goal : Option (Node C)) (w₀ w : World Loc C τ) : Prop where
  media : w.files spots.artefact = w₀.files spots.artefact ∨ Complete spots goal w
  others : OthersKept spots w₀ w
  entry : w.manifest ≠ w₀.manifest → Complete spots goal w

/-- What a reported failure leaves. -/
def Untouched (spots : Spots Loc) (w₀ w : World Loc C τ) : Prop :=
  w.files spots.artefact = w₀.files spots.artefact ∧
    (w₀.files spots.target ≠ none → w.files spots.target = w₀.files spots.target)

/-- Where the artefact is renamed: nothing but the artefact is at the target. Where it is remuxed: it
    is not where the staging file goes, nor is the target; and if there is a recording to remux, it
    is not at the target, where there is nothing but the entry's own output or the result itself. -/
def Unthreatened (result : Recovery.RemuxKind → C → C) (spots : Spots Loc)
    (plan : Recovery.Plan) (files : Loc → Option (Node C)) : Prop :=
  match plan with
  | .rename _ =>
      files spots.artefact ≠ none → files spots.target ≠ none → spots.target = spots.artefact
  | .remux kind _ _ =>
      (files spots.artefact ≠ none → some spots.artefact ≠ spots.staging) ∧
        (files spots.target ≠ none → some spots.target ≠ spots.staging) ∧
        ∀ contents, files spots.artefact = some (.file contents) →
          spots.target ≠ spots.artefact ∧
            (files spots.target = none ∨ some spots.target = spots.own ∨
              files spots.target = some (.file (result kind contents)))

/-! ## Changes of the world -/

theorem runs_change {P : World Loc C τ → Prop} {w : World Loc C τ}
    {f : World Loc C τ → World Loc C τ} {post : Unit → World Loc C τ → Prop}
    (hP : P (f w)) (hpost : post () (f w)) : Runs (fun _ => True) P (change f) w post :=
  Runs.update_bind (Runs.record hP fun _ => hpost)

theorem runs_change_bind {P : World Loc C τ → Prop} {w : World Loc C τ}
    {f : World Loc C τ → World Loc C τ} {α : Type} {next : Unit → Recovering Loc C τ α}
    {last : α → World Loc C τ → Prop} (hP : P (f w))
    (hnext : Runs (fun _ => True) P (next ()) (f w) last) :
    Runs (fun _ => True) P (change f >>= next) w last := by
  have hchange : Runs (fun _ => True) P (change f) w fun _ w' => w' = f w := runs_change hP rfl
  exact hchange.bind fun _ _ hw' => hw' ▸ hnext

section
variable [DecidableEq Loc] {w : World Loc C τ} {loc other : Loc} {node node' : Option (Node C)}

@[simp] theorem World.files_put : (w.put loc node).files loc = node := Function.update_self _ _ _

theorem World.files_put_of_ne (h : other ≠ loc) : (w.put loc node).files other = w.files other :=
  Function.update_of_ne h _ _

@[simp] theorem World.manifest_put : (w.put loc node).manifest = w.manifest := rfl

@[simp] theorem World.put_put : (w.put loc node).put loc node' = w.put loc node' := by
  simp [World.put]

theorem World.put_self : w.put loc (w.files loc) = w := by
  simp [World.put]

variable {P : World Loc C τ → Prop}

/-- Whatever a place holds one after another, it holds something in the end. -/
theorem runs_holds (hP : ∀ node, P (w.put loc node)) (nodes : List (Option (Node C))) :
    Runs (fun _ => True) P (holds loc nodes) w fun _ w' => ∃ node, w' = w.put loc node := by
  have hmain : ∀ node, Runs (fun _ => True) P (holds loc nodes) (w.put loc node)
      fun _ w' => ∃ node, w' = w.put loc node := by
    induction nodes with
    | nil => exact fun node => Runs.pure ⟨node, rfl⟩
    | cons next nodes ih =>
      intro node
      refine runs_change_bind ?_ ?_
      · rw [World.put_put]
        exact hP next
      · rw [World.put_put]
        exact ih next
  simpa only [World.put_self] using hmain (w.files loc)

end

/-! ## One call -/

section
variable {spots : Spots Loc} {goal : Option (Node C)} {w₀ w : World Loc C τ}

theorem safe_of_intact (hartefact : w.files spots.artefact = w₀.files spots.artefact)
    (hothers : OthersKept spots w₀ w) (hmanifest : w.manifest = w₀.manifest) :
    Safe spots goal w₀ w :=
  ⟨.inl hartefact, hothers, fun h => absurd hmanifest h⟩

theorem safe_of_complete (hcomplete : Complete spots goal w) (hothers : OthersKept spots w₀ w) :
    Safe spots goal w₀ w :=
  ⟨.inr hcomplete, hothers, fun _ => hcomplete⟩

/-- What a step that ends well, or not, leaves. -/
def Ended (spots : Spots Loc) (goal : Option (Node C)) (w₀ : World Loc C τ) (ok : Bool)
    (w : World Loc C τ) : Prop :=
  if ok then Complete spots goal w ∧ OthersKept spots w₀ w else Untouched spots w₀ w

theorem ended_unchanged_false : Ended spots goal w₀ false w₀ := ⟨rfl, fun _ => rfl⟩

variable {conditions : Conditions C} {text : JsonText τ} {manifestPath : String}

theorem runs_removeEntry {id : String} (hcomplete : Complete spots goal w)
    (hothers : OthersKept spots w₀ w) :
    Runs (fun _ => True) (Safe spots goal w₀)
      (removeEntry conditions text manifestPath id) w fun _ _ => True :=
  runs_change (safe_of_complete hcomplete hothers) trivial

/-- What is reported as failed has left the artefact and the target. -/
def Honest (spots : Spots Loc) (w₀ : World Loc C τ) (report : RecoveryActionResult)
    (w : World Loc C τ) : Prop :=
  report.success = false → Untouched spots w₀ w

/-- A program is safe from `w₀` at every point, and honest about a failure. -/
def Fine (spots : Spots Loc) (goal : Option (Node C)) (w₀ : World Loc C τ)
    (m : Recovering Loc C τ RecoveryActionResult) : Prop :=
  (∀ w ∈ (m w₀).entries, Safe spots goal w₀ w) ∧ Honest spots w₀ (m w₀).value (m w₀).state

theorem fine_of_runs {m : Recovering Loc C τ RecoveryActionResult}
    (h : Runs (fun _ => True) (Safe spots goal w₀) m w₀ (Honest spots w₀)) :
    Fine spots goal w₀ m :=
  ⟨h.1.forall fun _ _ => trivial, h.2 fun _ _ => trivial⟩

variable [DecidableEq Loc] {node : Option (Node C)}

/-- A file that is put where none was, and not where the artefact is, is in nobody's way. -/
theorem othersKept_put_target (hfree : w₀.files spots.target = none) :
    OthersKept spots w₀ (w₀.put spots.target node) := by
  intro loc _ _ _ hthere
  refine World.files_put_of_ne ?_
  rintro rfl
  exact hthere hfree

theorem runs_rename (hrename : w₀.files spots.artefact ≠ none → w₀.files spots.target ≠ none →
    spots.target = spots.artefact) :
    Runs (fun _ => True) (Safe spots (w₀.files spots.artefact) w₀)
      (rename conditions spots.artefact spots.target) w₀
      (Ended spots (w₀.files spots.artefact) w₀) := by
  refine Runs.read_bind ?_
  cases hartefact : w₀.files spots.artefact with
  | none => exact Runs.pure ended_unchanged_false
  | some node =>
    have hthere : w₀.files spots.artefact ≠ none := by simp [hartefact]
    refine Runs.ite (fun hsame => Runs.pure ?_) fun hne => ?_
    · cases conditions.renamed with
      | false => exact ended_unchanged_false
      | true => exact ⟨⟨by simp, by rw [← hsame, hartefact]⟩, fun _ _ _ _ _ => rfl⟩
    have hfree : w₀.files spots.target = none := by
      by_contra h
      exact hne (hrename hthere h).symm
    have hput : ∀ node', Safe spots (some node) w₀ (w₀.put spots.target node') := fun node' =>
      safe_of_intact (World.files_put_of_ne hne) (othersKept_put_target hfree) rfl
    have hplaced : Complete spots (some node) (w₀.put spots.target (some node)) :=
      ⟨by simp, World.files_put⟩
    have hmoved : Complete spots (some node)
        ((w₀.put spots.target (some node)).put spots.artefact none) :=
      ⟨by simp, by rw [World.files_put_of_ne (Ne.symm hne), World.files_put]⟩
    have hmovedOthers : OthersKept spots w₀
        ((w₀.put spots.target (some node)).put spots.artefact none) := by
      intro loc hloc hown hstaging hthere
      rw [World.files_put_of_ne hloc]
      exact othersKept_put_target hfree loc hloc hown hstaging hthere
    cases conditions.copying with
    | none =>
      refine Runs.ite (fun _ => ?_) fun _ => Runs.pure ended_unchanged_false
      exact runs_change_bind (safe_of_complete hmoved hmovedOthers)
        (Runs.pure ⟨hmoved, hmovedOthers⟩)
    | some nodes =>
      refine (runs_holds hput nodes).bind fun _ w hw => ?_
      obtain ⟨node', rfl⟩ := hw
      refine Runs.ite (fun _ => ?_) fun _ => ?_
      · refine runs_change_bind (by rw [World.put_put]; exact hput _) ?_
        rw [World.put_put]
        refine Runs.ite (fun _ => ?_) fun _ => ?_
        · exact runs_change_bind (safe_of_complete hmoved hmovedOthers)
            (Runs.pure ⟨hmoved, hmovedOthers⟩)
        · exact Runs.pure ⟨hplaced, othersKept_put_target hfree⟩
      · refine runs_change_bind (by rw [World.put_put]; exact hput _) ?_
        rw [World.put_put]
        exact Runs.pure ⟨World.files_put_of_ne hne, fun h => absurd hfree h⟩

/-! ## By a remux -/

variable {result : Recovery.RemuxKind → C → C} {kind : Recovery.RemuxKind} {staging : Loc}

theorem othersKept_put_staging (hstaging : spots.staging = some staging) :
    OthersKept spots w₀ (w₀.put staging node) := by
  intro loc _ _ hloc _
  refine World.files_put_of_ne ?_
  rintro rfl
  exact hloc hstaging.symm

/-- A place that is not the staging file's, if anything is there, does not see it cleared. -/
theorem files_put_staging_none {loc : Loc} (hstaging : spots.staging = some staging)
    (h : w₀.files loc ≠ none → some loc ≠ spots.staging) :
    (w₀.put staging none).files loc = w₀.files loc := by
  by_cases hloc : loc = staging
  · subst hloc
    rw [World.files_put]
    by_contra hne
    exact h (Ne.symm hne) hstaging.symm
  · exact World.files_put_of_ne hloc

/-- What the staging file holds after a remux, and that nothing else has changed. -/
def Staged (spots : Spots Loc) (staging : Loc) (result : Recovery.RemuxKind → C → C)
    (kind : Recovery.RemuxKind) (w₀ : World Loc C τ) (ok : Bool) (w : World Loc C τ) : Prop :=
  Untouched spots w₀ w ∧ ∃ node, w = w₀.put staging node ∧
    (ok = true → ∃ contents, w₀.files spots.artefact = some (.file contents) ∧
      node = some (.file (result kind contents)))

theorem runs_remux (hstaging : spots.staging = some staging)
    (hartefact : w₀.files spots.artefact ≠ none → some spots.artefact ≠ spots.staging)
    (htarget : w₀.files spots.target ≠ none → some spots.target ≠ spots.staging) :
    Runs (fun _ => True) (Safe spots goal w₀)
      (remux conditions result kind spots.artefact staging) w₀
      (Staged spots staging result kind w₀) := by
  have hidle : Staged spots staging result kind w₀ false w₀ :=
    ⟨⟨rfl, fun _ => rfl⟩, w₀.files staging, World.put_self.symm, fun h => nomatch h⟩
  refine Runs.read_bind ?_
  cases hthere : w₀.files spots.artefact with
  | none => exact Runs.pure hidle
  | some artefact =>
    cases artefact with
    | folder => exact Runs.pure hidle
    | file contents =>
      have hapart : spots.artefact ≠ staging := by
        rintro h
        exact hartefact (by simp [hthere]) (by rw [hstaging, h])
      have hput : ∀ node, Safe spots goal w₀ (w₀.put staging node) := fun node =>
        safe_of_intact (World.files_put_of_ne hapart) (othersKept_put_staging hstaging) rfl
      have huntouched : ∀ node, Untouched spots w₀ (w₀.put staging node) := by
        refine fun node => ⟨World.files_put_of_ne hapart, fun h => World.files_put_of_ne ?_⟩
        rintro hsame
        exact htarget h (by rw [hstaging, hsame])
      refine (runs_holds hput conditions.staged).bind fun _ w hw => ?_
      obtain ⟨node, rfl⟩ := hw
      refine Runs.ite (fun _ => ?_) fun _ => ?_
      · refine runs_change_bind (by rw [World.put_put]; exact hput _) ?_
        rw [World.put_put]
        exact Runs.pure ⟨huntouched _, _, rfl, fun _ => ⟨contents, hthere, rfl⟩⟩
      · exact Runs.pure ⟨huntouched node, node, rfl, fun h => nomatch h⟩

theorem runs_removeStaging (hstaging : spots.staging = some staging)
    (hartefact : w₀.files spots.artefact ≠ none → some spots.artefact ≠ spots.staging)
    (htarget : w₀.files spots.target ≠ none → some spots.target ≠ spots.staging)
    (huntouched : Untouched spots w₀ (w₀.put staging node)) :
    Runs (fun _ => True) (Safe spots goal w₀) (removeStaging conditions staging)
      (w₀.put staging node) fun _ w => Untouched spots w₀ w := by
  have hgone : Untouched spots w₀ (w₀.put staging none) :=
    ⟨files_put_staging_none hstaging hartefact, fun _ => files_put_staging_none hstaging htarget⟩
  refine Runs.ite (fun _ => runs_change ?_ ?_) fun _ => Runs.pure huntouched
  · rw [World.put_put]
    exact safe_of_intact hgone.1 (othersKept_put_staging hstaging) rfl
  · rw [World.put_put]
    exact hgone

/-- The target once the staging file has been moved there. -/
theorem runs_atomicReplaceInPlace {contents : C} (hstaging : spots.staging = some staging)
    (hours : w₀.files spots.target = none ∨ some spots.target = spots.own ∨
      w₀.files spots.target = some (.file (result kind contents))) :
    Runs (fun _ => True) (Safe spots (some (.file (result kind contents))) w₀)
      (atomicReplaceInPlace conditions staging spots.target)
      (w₀.put staging (some (.file (result kind contents)))) fun ok w =>
        if ok then Complete spots (some (.file (result kind contents))) w ∧ OthersKept spots w₀ w
        else w = w₀.put staging (some (.file (result kind contents))) := by
  refine Runs.ite (fun _ => ?_) fun _ => Runs.pure rfl
  have hcomplete : Complete spots (some (.file (result kind contents)))
      (if staging = spots.target then w₀.put staging (some (.file (result kind contents)))
        else ((w₀.put staging (some (.file (result kind contents)))).put spots.target
          (some (.file (result kind contents)))).put staging none) := by
    refine ⟨by simp, ?_⟩
    split_ifs with hsame
    · rw [← hsame, World.files_put]
    · rw [World.files_put_of_ne (Ne.symm hsame), World.files_put]
  have hothers : OthersKept spots w₀
      (if staging = spots.target then w₀.put staging (some (.file (result kind contents)))
        else ((w₀.put staging (some (.file (result kind contents)))).put spots.target
          (some (.file (result kind contents)))).put staging none) := by
    split_ifs with hsame
    · exact othersKept_put_staging hstaging
    · intro loc hloc hown hstagingLoc hthereLoc
      have hne : loc ≠ staging := by
        rintro rfl
        exact hstagingLoc hstaging.symm
      rw [World.files_put_of_ne hne]
      by_cases htarget : loc = spots.target
      · subst htarget
        rw [World.files_put]
        rcases hours with h | h | h
        · exact absurd h hthereLoc
        · exact absurd h hown
        · exact h.symm
      · rw [World.files_put_of_ne htarget, World.files_put_of_ne hne]
  refine runs_change_bind ?_ (Runs.pure ?_)
  · simp only [World.files_put]
    exact safe_of_complete hcomplete hothers
  · simp only [World.files_put]
    exact ⟨hcomplete, hothers⟩

theorem runs_removeArtefact (hapart : spots.target ≠ spots.artefact)
    (hcomplete : Complete spots goal w) (hothers : OthersKept spots w₀ w) :
    Runs (fun _ => True) (Safe spots goal w₀) (removeArtefact conditions spots.artefact) w
      fun _ w => Complete spots goal w ∧ OthersKept spots w₀ w := by
  have hgone : Complete spots goal (w.put spots.artefact none) :=
    ⟨hcomplete.1, by rw [World.files_put_of_ne hapart, hcomplete.2]⟩
  have hkept : OthersKept spots w₀ (w.put spots.artefact none) := by
    intro loc hloc hown hstaging hthere
    rw [World.files_put_of_ne hloc]
    exact hothers loc hloc hown hstaging hthere
  exact Runs.ite (fun _ => runs_change (safe_of_complete hgone hkept) ⟨hgone, hkept⟩)
    fun _ => Runs.pure ⟨hcomplete, hothers⟩

variable {entry : RecoveryManifestEntry}

theorem runs_finishByRename (hrename : w₀.files spots.artefact ≠ none →
    w₀.files spots.target ≠ none → spots.target = spots.artefact) :
    Runs (fun _ => True) (Safe spots (w₀.files spots.artefact) w₀)
      (finishByRename conditions text manifestPath entry spots.artefact spots.target) w₀
      (Honest spots w₀) := by
  refine (runs_rename hrename).bind fun ok w hended => ?_
  cases ok with
  | false => exact Runs.pure fun _ => hended
  | true =>
    exact (runs_removeEntry hended.1 hended.2).bind fun _ _ _ => Runs.pure fun h => nomatch h

theorem runs_finishByRemux (hstaging : spots.staging = some staging)
    (hartefact : w₀.files spots.artefact ≠ none → some spots.artefact ≠ spots.staging)
    (htarget : w₀.files spots.target ≠ none → some spots.target ≠ spots.staging)
    (hours : ∀ contents, w₀.files spots.artefact = some (.file contents) →
      spots.target ≠ spots.artefact ∧
        (w₀.files spots.target = none ∨ some spots.target = spots.own ∨
          w₀.files spots.target = some (.file (result kind contents)))) (target path : Path) :
    Runs (fun _ => True)
      (Safe spots (goalOf result (.remux kind target path) (w₀.files spots.artefact)) w₀)
      (finishByRemux conditions result text manifestPath kind entry spots.artefact spots.target
        staging) w₀ (Honest spots w₀) := by
  refine (runs_remux hstaging hartefact htarget).bind fun ok w hstaged => ?_
  obtain ⟨huntouched, node, rfl, hok⟩ := hstaged
  cases ok with
  | false =>
    refine (runs_removeStaging hstaging hartefact htarget huntouched).bind fun _ w hw => ?_
    exact Runs.pure fun _ => hw
  | true =>
    obtain ⟨contents, hthere, rfl⟩ := hok rfl
    obtain ⟨hapart, hfree⟩ := hours contents hthere
    rw [hthere]
    refine (runs_atomicReplaceInPlace hstaging hfree).bind fun ok w hmoved => ?_
    cases ok with
    | false =>
      obtain rfl : w = _ := hmoved
      refine (runs_removeStaging hstaging hartefact htarget huntouched).bind fun _ w hw => ?_
      exact Runs.pure fun _ => hw
    | true =>
      refine (runs_removeArtefact hapart hmoved.1 hmoved.2).bind fun _ w hw => ?_
      exact (runs_removeEntry hw.1 hw.2).bind fun _ _ _ => Runs.pure fun h => nomatch h

/-! ## Where it goes wrong -/

/-- A rename across volumes that fails at once has cleared what was at the target. -/
theorem finishByRename_crossing (text : JsonText τ) (manifestPath : String)
    (entry : RecoveryManifestEntry) {artefact : Node C} {A T : Loc}
    (hthere : w₀.files A = some artefact) (hne : A ≠ T) :
    (finishByRename { copying := some [], renamed := false } text manifestPath entry A T w₀).value =
        { success := false, message := "Rename failed: " } ∧
      (finishByRename { copying := some [], renamed := false } text manifestPath entry A T
        w₀).state = w₀.put T none := by
  simp [finishByRename, rename, Journaled.read, bind, pure, hthere, hne, holds, change,
    Journaled.update, Journaled.record]

/-- A remux that fails at once clears the staging file. -/
theorem finishByRemux_failing (result : Recovery.RemuxKind → C → C) (text : JsonText τ)
    (manifestPath : String) (kind : Recovery.RemuxKind) (entry : RecoveryManifestEntry)
    (A T S : Loc) (w₀ : World Loc C τ) :
    (finishByRemux { remuxed := false } result text manifestPath kind entry A T S w₀).value.success =
        false ∧
      (finishByRemux { remuxed := false } result text manifestPath kind entry A T S w₀).state =
        w₀.put S none := by
  have hremux : (remux { remuxed := false } result kind A S w₀).value = false ∧
      (remux { remuxed := false } result kind A S w₀).state = w₀ := by
    unfold remux
    simp only [Journaled.read, bind, pure, holds]
    cases w₀.files A with
    | none => exact ⟨rfl, rfl⟩
    | some artefact => cases artefact <;> exact ⟨rfl, rfl⟩
  simp [finishByRemux, bind, pure, hremux.1, hremux.2, removeStaging, change, Journaled.update,
    Journaled.record]

/-- The world once the result of `contents` has been moved to the target. -/
def published (result : Recovery.RemuxKind → C → C) (kind : Recovery.RemuxKind) (contents : C)
    (T S : Loc) (w₀ : World Loc C τ) : World Loc C τ :=
  if S = T then w₀.put S (some (.file (result kind contents)))
  else
    ((w₀.put S (some (.file (result kind contents)))).put T
      (some (.file (result kind contents)))).put S none

/-- A remux in which nothing fails publishes the result and then deletes the artefact. -/
theorem mem_finishByRemux_succeeding (result : Recovery.RemuxKind → C → C) (text : JsonText τ)
    (manifestPath : String) (kind : Recovery.RemuxKind) (entry : RecoveryManifestEntry)
    {contents : C} {A : Loc} (T S : Loc) (hthere : w₀.files A = some (.file contents)) :
    published result kind contents T S w₀ ∈
        (finishByRemux {} result text manifestPath kind entry A T S w₀).entries ∧
      (published result kind contents T S w₀).put A none ∈
        (finishByRemux {} result text manifestPath kind entry A T S w₀).entries := by
  simp [finishByRemux, remux, Journaled.read, bind, pure, hthere, holds, change,
    Journaled.update, Journaled.record, atomicReplaceInPlace, removeArtefact, published]

/-! ## The whole call -/

/-- However the steps turn out, every point is safe, and a reported failure has left the artefact
    and the target; where asking for names throws, nothing is done at all. -/
def Protects (result : Recovery.RemuxKind → C → C) (text : JsonText τ) (manifestPath : String)
    (naming : Naming Loc) (fallbackOutputFolder : String) (entry : RecoveryManifestEntry)
    (w₀ : World Loc C τ) : Prop :=
  ∀ conditions : Conditions C,
    let ended := finish conditions result text manifestPath naming fallbackOutputFolder entry w₀
    match Recovery.plan (naming.exists_ w₀.files) fallbackOutputFolder entry with
    | none => ended.entries = [] ∧ ended.state = w₀
    | some plan =>
        let spots := spotsOf naming entry plan
        (∀ w ∈ ended.entries, Safe spots (goalOf result plan (w₀.files spots.artefact)) w₀ w) ∧
          ∀ report ∈ ended.value, Honest spots w₀ report ended.state

theorem fine_finishByRename_iff (text : JsonText τ) (manifestPath : String)
    (entry : RecoveryManifestEntry) (spots : Spots Loc) :
    (∀ conditions, Fine spots (w₀.files spots.artefact) w₀
        (finishByRename conditions text manifestPath entry spots.artefact spots.target)) ↔
      (w₀.files spots.artefact ≠ none → w₀.files spots.target ≠ none →
        spots.target = spots.artefact) := by
  refine ⟨fun h hartefact htarget => ?_, fun h conditions => fine_of_runs (runs_finishByRename h)⟩
  by_contra hne
  obtain ⟨artefact, hthere⟩ := Option.ne_none_iff_exists'.mp hartefact
  obtain ⟨hvalue, hstate⟩ := finishByRename_crossing text manifestPath entry hthere (Ne.symm hne)
  have hhonest := (h { copying := some [], renamed := false }).2
  rw [Honest, hvalue, hstate] at hhonest
  exact htarget (((hhonest rfl).2 htarget).symm.trans World.files_put)

theorem fine_finishByRemux_iff (text : JsonText τ) (manifestPath : String)
    (entry : RecoveryManifestEntry) (spots : Spots Loc) (hstaging : spots.staging = some staging)
    (target path : Path) :
    (∀ conditions,
        Fine spots (goalOf result (.remux kind target path) (w₀.files spots.artefact)) w₀
          (finishByRemux conditions result text manifestPath kind entry spots.artefact spots.target
            staging)) ↔
      Unthreatened result spots (.remux kind target path) w₀.files := by
  constructor
  · intro h
    have hcleared : Untouched spots w₀ (w₀.put staging none) := by
      obtain ⟨hvalue, hstate⟩ := finishByRemux_failing result text manifestPath kind entry
        spots.artefact spots.target staging w₀
      have hhonest := (h { remuxed := false }).2
      rw [Honest, hstate] at hhonest
      exact hhonest hvalue
    have hartefact : w₀.files spots.artefact ≠ none → some spots.artefact ≠ spots.staging := by
      intro hthere hsame
      obtain rfl : spots.artefact = staging := Option.some.inj (hsame.trans hstaging)
      exact hthere (hcleared.1.symm.trans World.files_put)
    have htarget : w₀.files spots.target ≠ none → some spots.target ≠ spots.staging := by
      intro hthere hsame
      obtain rfl : spots.target = staging := Option.some.inj (hsame.trans hstaging)
      exact hthere ((hcleared.2 hthere).symm.trans World.files_put)
    refine ⟨hartefact, htarget, fun contents hthere => ?_⟩
    obtain ⟨hpublished, hdeleted⟩ := mem_finishByRemux_succeeding result text manifestPath kind entry
      spots.target staging hthere
    have hapart : spots.target ≠ spots.artefact := by
      intro hsame
      have hsafe := (h {}).1 _ hdeleted
      rcases hsafe.media with hmedia | hmedia
      · rw [World.files_put, hthere] at hmedia
        exact nomatch hmedia
      · rw [Complete, hsame, World.files_put] at hmedia
        exact hmedia.1 hmedia.2.symm
    refine ⟨hapart, ?_⟩
    by_contra hforeign
    obtain ⟨hfull, hown, hother⟩ := not_or.mp hforeign |>.imp_right not_or.mp
    have hkept := ((h {}).1 _ hpublished).others spots.target hapart hown (htarget hfull) hfull
    have hne : spots.target ≠ staging := fun hsame => htarget hfull (by rw [hsame, hstaging])
    rw [published, if_neg (Ne.symm hne), World.files_put_of_ne hne, World.files_put] at hkept
    exact hother hkept.symm
  · rintro ⟨hartefact, htarget, hours⟩ conditions
    exact fine_of_runs (runs_finishByRemux hstaging hartefact htarget hours target path)

variable {naming : Naming Loc} {fallbackOutputFolder : String}

theorem protects_rename_iff {target : Path}
    (hplan : Recovery.plan (naming.exists_ w₀.files) fallbackOutputFolder entry =
      some (.rename target)) :
    Protects result text manifestPath naming fallbackOutputFolder entry w₀ ↔
      Unthreatened result (spotsOf naming entry (.rename target)) (.rename target) w₀.files := by
  unfold Protects finish
  simp only [Journaled.read, bind, pure, hplan, Option.mem_some_iff, List.append_nil,
    List.nil_append, forall_eq']
  exact fine_finishByRename_iff text manifestPath entry (spotsOf naming entry (.rename target))

theorem protects_remux_iff {target path : Path}
    (hplan : Recovery.plan (naming.exists_ w₀.files) fallbackOutputFolder entry =
      some (.remux kind target path)) :
    Protects result text manifestPath naming fallbackOutputFolder entry w₀ ↔
      Unthreatened result (spotsOf naming entry (.remux kind target path)) (.remux kind target path)
        w₀.files := by
  unfold Protects finish
  simp only [Journaled.read, bind, pure, hplan, Option.mem_some_iff, List.append_nil,
    List.nil_append, forall_eq']
  exact fine_finishByRemux_iff text manifestPath entry
    (spotsOf naming entry (.remux kind target path)) rfl target path

/-- `Finish` protects the recording, whatever fails and wherever the process is killed, exactly when
    none of the places it chose threatens another. -/
theorem finish_protects_iff (result : Recovery.RemuxKind → C → C) (text : JsonText τ)
    (manifestPath : String) (naming : Naming Loc) (fallbackOutputFolder : String)
    (entry : RecoveryManifestEntry) (w₀ : World Loc C τ) :
    Protects result text manifestPath naming fallbackOutputFolder entry w₀ ↔
      ∀ plan ∈ Recovery.plan (naming.exists_ w₀.files) fallbackOutputFolder entry,
        Unthreatened result (spotsOf naming entry plan) plan w₀.files := by
  cases hplan : Recovery.plan (naming.exists_ w₀.files) fallbackOutputFolder entry with
  | none => simp [Protects, finish, Journaled.read, bind, pure, hplan]
  | some plan =>
    simp only [Option.mem_some_iff, forall_eq']
    cases plan with
    | rename target => exact protects_rename_iff hplan
    | remux kind target staging => exact protects_remux_iff hplan

/-! ## An entry whose artefact is at its output path -/

/-- Places told apart as `PathsEqual` tells paths apart. -/
def lexicalNaming : Naming Path where
  locate := Path.norm
  unanswered := fun _ => false
  locate_eq := fun h => by simpa [Path.pathsEqual] using h

def inPlaceEntry : RecoveryManifestEntry :=
  { id := "7d1c0b6e"
    artefactPath := "C:/Videos/match.mkv"
    intendedContainer := "mkv"
    finalOutputPath := "C:/Videos/match.mkv"
    startedAt := "2025-01-01T12:00:00Z" }

def inPlaceWorld : World Path String Settings.Json where
  files := fun loc =>
    if loc = (Path.ofString "C:/Videos/match.mkv").norm then some (.file "recording")
    else if loc = (Path.ofString "C:/Videos").norm then some .folder
    else none
  manifest := none

def inPlacePlan : Recovery.Plan :=
  .remux .mkv (Path.ofString "C:/Videos/match.mkv") (Path.ofString "C:/Videos/match.mkv.tmp")

/-- The repaired recording replaces the artefact, and is then deleted in its stead. -/
theorem inPlace_lost :
    ¬ Protects (fun _ contents => contents) Settings.ManifestRun.wholeDocuments
      "recovery-manifest.json" lexicalNaming "" inPlaceEntry inPlaceWorld := by
  intro h
  have hplan : Recovery.plan (lexicalNaming.exists_ inPlaceWorld.files) "" inPlaceEntry =
      some inPlacePlan := by decide +kernel
  have hfiles : inPlaceWorld.files (spotsOf lexicalNaming inPlaceEntry inPlacePlan).artefact =
      some (.file "recording") := by decide +kernel
  have hsame : (spotsOf lexicalNaming inPlaceEntry inPlacePlan).target =
      (spotsOf lexicalNaming inPlaceEntry inPlacePlan).artefact := by decide +kernel
  have hfine := (protects_remux_iff hplan).mp h
  exact (hfine.2.2 _ hfiles).1 hsame

end

end

/-! ## The names -/

section
variable {exists_ : Recovery.Exists} {preferred target staging : Path}

open Recovery

theorem firstUnique_free {count n : Nat}
    (hfree : ∃ k, n ≤ k ∧ k < n + count ∧ exists_ (numberedName preferred k) = some false)
    (h : firstUnique exists_ preferred count n = some target) : exists_ target = some false := by
  induction count generalizing n with
  | zero => omega
  | succ count ih =>
    unfold firstUnique at h
    cases hn : exists_ (numberedName preferred n) with
    | none => simp [hn] at h
    | some found =>
      cases found with
      | false =>
        obtain rfl : numberedName preferred n = target := by simpa [hn] using h
        exact hn
      | true =>
        obtain ⟨k, hle, hlt, hk⟩ := hfree
        have hne : k ≠ n := by
          rintro rfl
          simp [hn] at hk
        exact ih (n := n + 1) ⟨k, by omega, by omega, hk⟩ (by simpa [hn] using h)

/-- While one of the numbered names is free, so is the one that is chosen. -/
theorem resolveUniqueOutputPath_free
    (hfree : ∃ k, 2 ≤ k ∧ k < 1000 ∧ exists_ (numberedName preferred k) = some false)
    (h : resolveUniqueOutputPath exists_ preferred = some target) :
    exists_ target = some false := by
  unfold resolveUniqueOutputPath at h
  cases hpreferred : exists_ preferred with
  | none => simp [hpreferred] at h
  | some found =>
    cases found with
    | false =>
      obtain rfl : preferred = target := by simpa [hpreferred] using h
      exact hpreferred
    | true => exact firstUnique_free hfree (by simpa [hpreferred] using h)

theorem firstStaging_free {count n : Nat}
    (hfree : ∃ k, n ≤ k ∧ k < n + count ∧ exists_ (stagingName target k) = some false) :
    exists_ (firstStaging exists_ target count n) = some false := by
  induction count generalizing n with
  | zero => omega
  | succ count ih =>
    unfold firstStaging
    split_ifs with hn
    · exact hn
    · obtain ⟨k, hle, hlt, hk⟩ := hfree
      have hne : k ≠ n := by
        rintro rfl
        exact hn hk
      exact ih (n := n + 1) ⟨k, by omega, by omega, hk⟩

/-- Where a remux goes: to the entry's own path, or to a name that is free. -/
theorem resolveRemuxTarget_cases {entry : RecoveryManifestEntry}
    (hfree : ∃ k, 2 ≤ k ∧ k < 1000 ∧ exists_ (numberedName preferred k) = some false)
    (h : resolveRemuxTarget exists_ entry preferred = some target) :
    ownsTarget entry target = true ∨ exists_ target = some false := by
  unfold resolveRemuxTarget at h
  split_ifs at h with howns
  · exact .inl (Option.some.inj h ▸ howns)
  · exact .inr (resolveUniqueOutputPath_free hfree h)

theorem plan_cases {fallbackOutputFolder : String} {entry : RecoveryManifestEntry} {p : Plan}
    (h : Recovery.plan exists_ fallbackOutputFolder entry = some p) :
    (∃ preferred target, p = .rename target ∧
        resolveUniqueOutputPath exists_ preferred = some target) ∨
      ∃ kind preferred target,
        p = .remux kind target (makeDisposableSiblingStagingPath exists_ target) ∧
          resolveRemuxTarget exists_ entry preferred = some target := by
  unfold Recovery.plan at h
  obtain ⟨folder, -, h⟩ := Option.bind_eq_some_iff.mp h
  dsimp only at h
  split_ifs at h with hmp4 hfinalized
  · obtain ⟨target, htarget, hp⟩ := Option.bind_eq_some_iff.mp h
    exact .inl ⟨_, target, (Option.some.inj hp).symm, htarget⟩
  · obtain ⟨target, htarget, hp⟩ := Option.bind_eq_some_iff.mp h
    exact .inr ⟨_, _, target, (Option.some.inj hp).symm, htarget⟩
  · obtain ⟨target, htarget, hp⟩ := Option.bind_eq_some_iff.mp h
    exact .inr ⟨_, _, target, (Option.some.inj hp).symm, htarget⟩

theorem files_of_exists_false {Loc C : Type} {files : Loc → Option (Node C)} {naming : Naming Loc}
    {path : Path} (h : naming.exists_ files path = some false) : files (naming.locate path) = none := by
  unfold Naming.exists_ at h
  split_ifs at h
  simpa using h

/-- Unless the names run out, no place threatens another, except that the entry's own output path may
    be where the artefact is. -/
theorem unthreatened_of_free_names {Loc C : Type} {files : Loc → Option (Node C)}
    (result : RemuxKind → C → C) (naming : Naming Loc) (fallbackOutputFolder : String)
    (entry : RecoveryManifestEntry)
    (hnumbers : ∀ preferred, ∃ k, 2 ≤ k ∧ k < 1000 ∧
      naming.exists_ files (numberedName preferred k) = some false)
    (hstaging : ∀ target, ∃ k < 100000, naming.exists_ files (stagingName target k) = some false)
    (hown : naming.locate (Path.ofString entry.finalOutputPath) ≠
      naming.locate (Path.ofString entry.artefactPath)) :
    ∀ p ∈ Recovery.plan (naming.exists_ files) fallbackOutputFolder entry,
      Unthreatened result (spotsOf naming entry p) p files := by
  intro p hp
  rcases plan_cases hp with ⟨preferred, target, rfl, htarget⟩ | ⟨kind, preferred, target, rfl, htarget⟩
  · intro _ hthere
    exact absurd (files_of_exists_false (resolveUniqueOutputPath_free (hnumbers preferred) htarget))
      hthere
  · have hfree : files (naming.locate
        (makeDisposableSiblingStagingPath (naming.exists_ files) target)) = none := by
      obtain ⟨k, hk, hfree⟩ := hstaging target
      exact files_of_exists_false (firstStaging_free ⟨k, by omega, by omega, hfree⟩)
    have hapart : ∀ loc, files loc ≠ none → some loc ≠ (spotsOf naming entry (.remux kind target
        (makeDisposableSiblingStagingPath (naming.exists_ files) target))).staging := by
      rintro loc hthere hsame
      obtain rfl := Option.some.inj hsame
      exact hthere hfree
    refine ⟨hapart _, hapart _, fun contents hthere => ?_⟩
    rcases resolveRemuxTarget_cases (hnumbers preferred) htarget with howns | hnone
    · unfold ownsTarget at howns
      rw [Bool.and_eq_true, Bool.not_eq_true'] at howns
      have hplace := naming.locate_eq howns.2
      refine ⟨fun hsame => hown (hplace.symm.trans hsame), .inr (.inl ?_)⟩
      simp [spotsOf, Plan.target, howns.1, hplace]
    · have hplace := files_of_exists_false hnone
      refine ⟨fun hsame => ?_, .inl hplace⟩
      rw [← hsame] at hthere
      exact nomatch hplace.symm.trans hthere

end

end Exosnap.Services
