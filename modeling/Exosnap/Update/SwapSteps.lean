/-
  What one step of the swap does to the disk: a deletion shrinks one tree, a rename moves one, and
  the operations of the engine leave the directories that they do not name.

  The statements are about runs (`Journaled.Runs`): `Q` is what has to hold of the disk behind
  every file-system step. For each operation, one relation says what the disk is behind one of its
  steps and one what it is at the end, by the result.
-/
import Exosnap.Update.SwapEngine

namespace Exosnap.Update

open Journaled

variable {β : Type}

/-- What a deletion can make of a tree: nothing, or a tree that is not complete, with the same
    executable or without one. -/
def Tree.Shrinks (t t' : Tree β) : Prop :=
  t' = t ∨ ¬ t'.IsComplete ∧ (t'.exe = none ∨ t'.exe = t.exe)

theorem Tree.removed_shrinks (t : Tree β) (r : Tree.Removal) : t.Shrinks (t.removed r) := by
  cases r with
  | nothing => exact .inl rfl
  | whole => exact .inr ⟨not_isComplete_absent, .inl rfl⟩
  | leaves keepsExe =>
    unfold Shrinks removed
    dsimp only
    split
    · cases keepsExe with
      | true => exact .inr ⟨not_isComplete_remnant _, .inr rfl⟩
      | false => exact .inr ⟨not_isComplete_remnant _, .inl rfl⟩
    · exact .inr ⟨not_isComplete_absent, .inl rfl⟩

theorem Tree.Shrinks.exe_none {t t' : Tree β} (h : t.Shrinks t') (ht : t.exe = none) :
    t'.exe = none := by
  rcases h with rfl | ⟨_, hnone | hsame⟩
  · exact ht
  · exact hnone
  · exact hsame.trans ht

theorem Tree.eq_absent {t : Tree β} (h : t.present = false) : t = .absent := by
  cases t with
  | absent => rfl
  | complete build => exact nomatch h
  | remnant exe => exact nomatch h

@[simp] theorem Disk.tree_put_self (d : Disk β) (dir : Dir) (t : Tree β) :
    (d.put dir t).tree dir = t := by
  cases dir <;> rfl

@[simp] theorem Disk.put_tree_self (d : Disk β) (dir : Dir) : d.put dir (d.tree dir) = d := by
  cases dir <;> rfl

section
variable {fs : FileSystem} {G : Session β → Prop} {Q : Disk β → Prop} {s : Session β}

theorem answer_bind {α γ : Type} {P : Session β → Prop} {answers : Nat → α} {f : α → Swap β γ}
    {post : γ → Session β → Prop}
    (h : Runs G P (f (answers s.asked)) { s with asked := s.asked + 1 } post) :
    Runs G P (answer answers >>= f) s post := h

theorem write_bind {γ : Type} {P : Session β → Prop} {g : Disk β → Disk β} {f : Unit → Swap β γ}
    {post : γ → Session β → Prop} (hP : P { s with disk := g s.disk })
    (h : Runs G P (f ()) { s with disk := g s.disk } post) : Runs G P (write g >>= f) s post := by
  have hwrite : Runs G P (write g) s fun _ s' => s' = { s with disk := g s.disk } :=
    Runs.update_bind (Runs.record hP fun _ => rfl)
  exact hwrite.bind fun _ _ hs' => hs' ▸ h

/-- A deletion shrinks the tree of its directory, which is gone if it says so. -/
theorem removeTree_runs (dir : Dir)
    (hQ : ∀ t, (s.disk.tree dir).Shrinks t → Q (s.disk.put dir t)) :
    Runs G (fun s' => Q s'.disk) (removeTree fs dir) s fun gone s' =>
      ∃ t, (s.disk.tree dir).Shrinks t ∧ s'.disk = s.disk.put dir t ∧
        (gone = true ↔ t = .absent) := by
  unfold removeTree
  refine Runs.read_bind (Runs.ite (fun hgone => ?_) fun _ => ?_)
  · have habsent := Tree.eq_absent (by simpa using hgone)
    exact Runs.pure ⟨_, .inl rfl, (s.disk.put_tree_self dir).symm, fun _ => habsent, fun _ => rfl⟩
  · refine answer_bind ?_
    have hshrinks := (s.disk.tree dir).removed_shrinks (fs.removes s.asked)
    have hafter : ∀ t, (!Tree.present t) = true ↔ t = (Tree.absent : Tree β) := fun t =>
      ⟨fun h => Tree.eq_absent (by simpa using h), fun h => by rw [h]; rfl⟩
    refine write_bind (hQ _ hshrinks) (Runs.read_bind (Runs.pure ?_))
    exact ⟨_, hshrinks, rfl, by rw [Disk.tree_put_self]; exact hafter _⟩

/-- A rename moves a tree to where there is none, or does nothing. -/
theorem renameDirectory_runs (src dst : Dir) {d d' : Disk β} (hd : s.disk = d)
    (hmove : (d.put dst (d.tree src)).put src .absent = d') (hQ : Q d') :
    Runs G (fun s' => Q s'.disk) (renameDirectory fs src dst) s fun ok s' =>
      (ok = true → d.tree dst = .absent ∧ s'.disk = d') ∧ (ok = false → s'.disk = d) := by
  subst hd hmove
  unfold renameDirectory
  refine answer_bind (Runs.read_bind (Runs.ite (fun hmoves => ?_) fun _ => Runs.pure ?_))
  · have habsent : s.disk.tree dst = .absent := Tree.eq_absent (by
      simp only [Bool.and_eq_true, Bool.not_eq_true'] at hmoves
      exact hmoves.2)
    exact write_bind hQ (Runs.pure ⟨fun _ => ⟨habsent, rfl⟩, fun h => nomatch h⟩)
  · exact ⟨fun h => (nomatch h), fun _ => rfl⟩

/-- A directory that cannot be cleared holds what a deletion has left; one that can be is gone. -/
theorem cannotClear_runs (dir : Dir)
    (hQ : ∀ t, (s.disk.tree dir).Shrinks t → Q (s.disk.put dir t)) :
    Runs G (fun s' => Q s'.disk) (cannotClear fs dir) s fun cannot s' =>
      (cannot = true → ∃ t, (s.disk.tree dir).Shrinks t ∧ s'.disk = s.disk.put dir t) ∧
        (cannot = false → s'.disk = s.disk.put dir .absent) := by
  unfold cannotClear
  refine Runs.read_bind (Runs.ite (fun _ => ?_) fun hgone => Runs.pure ?_)
  · refine (removeTree_runs dir hQ).bind fun gone s' h => Runs.pure ?_
    obtain ⟨t, hshrinks, hdisk, hgone⟩ := h
    refine ⟨fun _ => ⟨t, hshrinks, hdisk⟩, fun h => ?_⟩
    rw [hdisk, hgone.mp (by simpa using h)]
  · have habsent := Tree.eq_absent (by simpa using hgone)
    refine ⟨fun h => (nomatch h), fun _ => ?_⟩
    rw [← habsent, Disk.put_tree_self]

/-! ## The operations of the engine -/

/-- The disk behind a step of `StageRename` from `d`. -/
inductive StageStep (d : Disk β) : Disk β → Prop
  | cleared {t : Tree β} (h : d.backup.Shrinks t) : StageStep d { d with backup := t }
  | stashed : StageStep d { d with install := .absent, backup := d.install }
  | promoted (h : d.staging.exe.isSome) :
      StageStep d { d with install := d.staging, staging := .absent, backup := d.install }

/-- The disk after `StageRename` from `d`. -/
def StageEnd (d : Disk β) (error : SwapError) (d' : Disk β) : Prop :=
  match error with
  | .stagingMissing => d.staging.exe = none ∧ d' = d
  | .backupCollision => ∃ t, d.backup.Shrinks t ∧ d' = { d with backup := t }
  | .renameOldFailed | .renameNewFailed => d' = { d with backup := .absent }
  | .restoreFailed => d' = { d with install := .absent, backup := d.install }
  | .none => d' = { d with install := d.staging, staging := .absent, backup := d.install }

theorem StageEnd.staging {d d' : Disk β} {error : SwapError} (h : StageEnd d error d') :
    d'.staging = d.staging ∨ d'.staging = .absent := by
  cases error with
  | stagingMissing =>
    obtain ⟨_, rfl⟩ := h
    exact .inl rfl
  | backupCollision =>
    obtain ⟨_, _, rfl⟩ := h
    exact .inl rfl
  | renameOldFailed | renameNewFailed | restoreFailed =>
    obtain rfl : d' = _ := h
    exact .inl rfl
  | none =>
    obtain rfl : d' = _ := h
    exact .inr rfl

theorem Tree.shrinks_absent (t : Tree β) : t.Shrinks .absent :=
  .inr ⟨not_isComplete_absent, .inl rfl⟩

theorem stageRename_runs
    (hQ : s.disk.staging.exe.isSome → ∀ d, StageStep s.disk d → Q d) :
    Runs G (fun s' => Q s'.disk) (stageRename fs) s fun error s' =>
      StageEnd s.disk error s'.disk ∧ (error ≠ .stagingMissing → s.disk.staging.exe.isSome) := by
  obtain ⟨d, asked⟩ := s
  unfold stageRename
  refine Runs.read_bind (Runs.ite (fun hmissing => Runs.pure ⟨⟨?_, rfl⟩, fun h => absurd rfl h⟩)
    fun hexe => ?_)
  · cases hstaging : d.staging with
    | absent => rfl
    | complete build => simp [hstaging, Tree.present, Tree.exe] at hmissing
    | remnant exe => simpa [hstaging, Tree.present, Tree.exe] using hmissing
  have hexe : d.staging.exe.isSome := by
    cases hnone : d.staging.exe with
    | none => simp [hnone] at hexe
    | some _ => rfl
  replace hQ := hQ hexe
  refine (cannotClear_runs .backup fun t ht => hQ _ (.cleared ht)).bind fun cannot s hcleared =>
    Runs.ite (fun hcannot => Runs.pure ⟨hcleared.1 hcannot, fun _ => hexe⟩) fun hclear => ?_
  replace hcleared := hcleared.2 (by simpa using hclear)
  refine (renameDirectory_runs .install .backup hcleared rfl (hQ _ .stashed)).bind fun ok s hok =>
    Runs.ite (fun hfailed => Runs.pure ⟨hok.2 (by simpa using hfailed), fun _ => hexe⟩) fun hmoved => ?_
  have hstashed := (hok.1 (by simpa using hmoved)).2
  refine (renameDirectory_runs .staging .install hstashed rfl (hQ _ (.promoted hexe))).bind
    fun ok s hok => Runs.ite (fun hfailed => ?_) fun hmoved =>
      Runs.pure ⟨(hok.1 (by simpa using hmoved)).2, fun _ => hexe⟩
  have hback := hok.2 (by simpa using hfailed)
  refine (renameDirectory_runs .backup .install hback rfl (hQ _ (.cleared d.backup.shrinks_absent))).bind
    fun ok s hok => Runs.ite (fun hfailed => ?_) fun hmoved => ?_
  · exact Runs.pure ⟨hok.2 (by simpa using hfailed), fun _ => hexe⟩
  · exact Runs.pure ⟨(hok.1 (by simpa using hmoved)).2, fun _ => hexe⟩

/-- The disk behind a step of `RestoreBackup` from `d`. -/
inductive RestoreStep (d : Disk β) : Disk β → Prop
  | cleared {t : Tree β} (h : d.install.Shrinks t) : RestoreStep d { d with install := t }
  | restored : RestoreStep d { d with install := d.backup, backup := .absent }

/-- The disk after `RestoreBackup` from `d`. -/
def RestoreEnd (d : Disk β) (error : SwapError) (d' : Disk β) : Prop :=
  (error = .none ∧ d' = { d with install := d.backup, backup := .absent }) ∨
    (error = .restoreFailed ∧ ∃ t, d.install.Shrinks t ∧ d' = { d with install := t })

theorem RestoreEnd.staging {d d' : Disk β} {error : SwapError} (h : RestoreEnd d error d') :
    d'.staging = d.staging := by
  rcases h with ⟨_, rfl⟩ | ⟨_, _, _, rfl⟩
  · rfl
  · rfl

theorem restoreBackup_runs (hQ : s.disk.backup.present → ∀ d, RestoreStep s.disk d → Q d) :
    Runs G (fun s' => Q s'.disk) (restoreBackup fs) s fun error s' =>
      RestoreEnd s.disk error s'.disk := by
  obtain ⟨d, asked⟩ := s
  unfold restoreBackup
  refine Runs.read_bind (Runs.ite (fun _ => Runs.pure (.inr ⟨rfl, _, .inl rfl, rfl⟩)) fun hthere => ?_)
  replace hQ := hQ (by simpa using hthere)
  refine (cannotClear_runs .install fun t ht => hQ _ (.cleared ht)).bind fun cannot s hcleared =>
    Runs.ite (fun hcannot => Runs.pure (.inr ⟨rfl, hcleared.1 hcannot⟩)) fun hclear => ?_
  replace hcleared := hcleared.2 (by simpa using hclear)
  refine (renameDirectory_runs .backup .install hcleared rfl (hQ _ .restored)).bind fun ok s hok =>
    Runs.ite (fun hfailed => Runs.pure (.inr ⟨rfl, _, Tree.shrinks_absent _, ?_⟩)) fun hmoved =>
      Runs.pure (.inl ⟨rfl, (hok.1 (by simpa using hmoved)).2⟩)
  exact hok.2 (by simpa using hfailed)

theorem cleanupBackup_runs (hQ : ∀ t, s.disk.backup.Shrinks t → Q { s.disk with backup := t }) :
    Runs G (fun s' => Q s'.disk) (cleanupBackup fs) s fun _ s' =>
      ∃ t, s.disk.backup.Shrinks t ∧ s'.disk = { s.disk with backup := t } :=
  (removeTree_runs .backup hQ).mono fun _ _ ⟨t, hshrinks, hdisk, _⟩ => ⟨t, hshrinks, hdisk⟩

/-- A repair restores the backup where the installation has no `exosnap.exe`. -/
theorem repairOrphanedSwap_runs
    (hQ : s.disk.install.exe = none → s.disk.backup.present → ∀ d, RestoreStep s.disk d → Q d) :
    Runs G (fun s' => Q s'.disk) (repairOrphanedSwap fs) s fun _ s' =>
      s'.disk = s.disk ∨ s.disk.install.exe = none ∧ ∃ error, RestoreEnd s.disk error s'.disk := by
  unfold repairOrphanedSwap
  refine Runs.read_bind (Runs.ite (fun _ => Runs.pure (.inl rfl)) fun hnone =>
    Runs.ite (fun _ => Runs.pure (.inl rfl)) fun _ => ?_)
  replace hnone : s.disk.install.exe = none := by simpa using hnone
  exact (restoreBackup_runs (hQ hnone)).bind fun error _ h => Runs.pure (.inr ⟨hnone, error, h⟩)

end

end Exosnap.Update
