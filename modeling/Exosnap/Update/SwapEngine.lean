/-
  The staged directory swap (`swap_engine.cpp`) on the directories of one installation.

  Every plan of an updater names the same directories: the installation, its siblings `.new`
  (staging) and `.old` (backup), and `.new.hoist`, through which a staged tree is lifted out of the
  top-level folder of its package. A tree is absent, the complete tree of one build, or what a
  deletion or an extraction left of one, with or without its `exosnap.exe`. The journal has the
  disk behind every file-system step; which renames fail and how much a deletion deletes are
  answers from outside, one for each step.
-/
import Exosnap.Lib.Journaled
import Exosnap.Update.UpdateTypes

namespace Exosnap.Update

/-! ## The disk -/

inductive Tree (β : Type) where
  | absent
  | complete (build : β)
  /-- Part of a tree, with the `exosnap.exe` of a build or without one. -/
  | remnant (exe : Option β)
  deriving DecidableEq, Repr

namespace Tree
variable {β : Type}

/-- `FileExists(dir)` -/
def present : Tree β → Bool
  | absent => false
  | _ => true

/-- The `exosnap.exe` at the root. -/
def exe : Tree β → Option β
  | absent => none
  | complete build => some build
  | remnant exe => exe

def IsComplete (t : Tree β) : Prop := ∃ build, t = complete build

instance (t : Tree β) : Decidable t.IsComplete :=
  match t with
  | complete build => isTrue ⟨build, rfl⟩
  | absent => isFalse (by rintro ⟨_, h⟩; exact nomatch h)
  | remnant _ => isFalse (by rintro ⟨_, h⟩; exact nomatch h)

@[simp] theorem isComplete_complete (build : β) : (complete build).IsComplete := ⟨build, rfl⟩

@[simp] theorem not_isComplete_absent : ¬ (absent : Tree β).IsComplete := by
  rintro ⟨_, h⟩
  exact nomatch h

@[simp] theorem not_isComplete_remnant (exe : Option β) : ¬ (remnant exe).IsComplete := by
  rintro ⟨_, h⟩
  exact nomatch h

/-- What a deletion leaves. -/
inductive Removal where
  | whole
  | leaves (exe : Bool)
  | nothing
  deriving DecidableEq, Repr

def removed (t : Tree β) : Removal → Tree β
  | .whole => absent
  | .nothing => t
  | .leaves keepsExe => if t.present then remnant (if keepsExe then t.exe else none) else absent

end Tree

inductive Dir where
  | install
  | staging
  | backup
  | hoist
  deriving DecidableEq, Repr

structure Disk (β : Type) where
  install : Tree β
  staging : Tree β := .absent
  backup : Tree β := .absent
  hoist : Tree β := .absent
  deriving DecidableEq, Repr

namespace Disk
variable {β : Type}

def tree (d : Disk β) : Dir → Tree β
  | .install => d.install
  | .staging => d.staging
  | .backup => d.backup
  | .hoist => d.hoist

def put (d : Disk β) : Dir → Tree β → Disk β
  | .install, t => { d with install := t }
  | .staging, t => { d with staging := t }
  | .backup, t => { d with backup := t }
  | .hoist, t => { d with hoist := t }

end Disk

/-! ## File-system steps -/

/-- The answers of the file system: whether a rename succeeds, with all its retries, and what a
    deletion leaves. -/
structure FileSystem where
  renames : Nat → Bool
  removes : Nat → Tree.Removal

/-- The disk, and how many answers have been asked for. -/
structure Session (β : Type) where
  disk : Disk β
  asked : Nat := 0
  deriving DecidableEq, Repr

/-- File-system steps, with the session behind each in the journal. -/
abbrev Swap (β : Type) := Journaled (Session β) (Session β)

section
variable {β : Type} (fs : FileSystem)

def answer {α : Type} (answers : Nat → α) : Swap β α := do
  let s ← Journaled.read
  Journaled.update fun s => { s with asked := s.asked + 1 }
  return answers s.asked

def write (f : Disk β → Disk β) : Swap β Unit := do
  Journaled.update fun s => { s with disk := f s.disk }
  Journaled.record id

/-- `RenameDirectory`: a directory is not renamed onto another. -/
def renameDirectory (src dst : Dir) : Swap β Bool := do
  let succeeds ← answer fs.renames
  let s ← Journaled.read
  if succeeds && (s.disk.tree src).present && !(s.disk.tree dst).present then
    write fun d => (d.put dst (d.tree src)).put src .absent
    return true
  else return false

/-- `RemoveTree`: whether the directory is gone afterwards. -/
def removeTree (dir : Dir) : Swap β Bool := do
  let s ← Journaled.read
  if !(s.disk.tree dir).present then return true
  else
    let removal ← answer fs.removes
    write fun d => d.put dir ((d.tree dir).removed removal)
    let s ← Journaled.read
    return !(s.disk.tree dir).present

/-! ## The swap -/

inductive SwapError where
  | none
  | stagingMissing
  | backupCollision
  | renameOldFailed
  | renameNewFailed
  | restoreFailed
  deriving DecidableEq, Repr

/-- `FileExists(dir) && !RemoveTree(dir)` -/
def cannotClear (dir : Dir) : Swap β Bool := do
  let s ← Journaled.read
  if (s.disk.tree dir).present then
    let gone ← removeTree fs dir
    return !gone
  else return false

def stageRename : Swap β SwapError := do
  let s ← Journaled.read
  if !s.disk.staging.present || s.disk.staging.exe.isNone then return .stagingMissing
  else if ← cannotClear fs .backup then return .backupCollision
  else if !(← renameDirectory fs .install .backup) then return .renameOldFailed
  else if !(← renameDirectory fs .staging .install) then
    if !(← renameDirectory fs .backup .install) then return .restoreFailed
    else return .renameNewFailed
  else return .none

def restoreBackup : Swap β SwapError := do
  let s ← Journaled.read
  if !s.disk.backup.present then return .restoreFailed
  else if ← cannotClear fs .install then return .restoreFailed
  else if !(← renameDirectory fs .backup .install) then return .restoreFailed
  else return .none

def cleanupBackup : Swap β Bool := removeTree fs .backup

def repairOrphanedSwap : Swap β Bool := do
  let s ← Journaled.read
  if s.disk.install.exe.isSome then return true
  else if !s.disk.backup.present then return true
  else
    let error ← restoreBackup fs
    return error == .none

end

/-! ## Version verification -/

def installedVersionMatches (fileVersion productVersion : Option SemVer) (target : SemVer) : Bool :=
  match productVersion with
  | some product => product == target
  | none =>
      if target.isPrerelease then false
      else match fileVersion with
        | some file =>
            file.major == target.major && file.minor == target.minor && file.patch == target.patch
        | none => false

/-- The version resources of an executable. -/
structure VersionInfo where
  fileVersion : Option SemVer
  productVersion : Option String
  deriving DecidableEq, Repr

/-- `VerifyInstalledVersion` of the executable at the root of a tree, if it has one. -/
def verifyInstalledVersion (exe : Option VersionInfo) (target : SemVer) : Bool :=
  match exe with
  | none => false
  | some info =>
      installedVersionMatches info.fileVersion (info.productVersion.bind parseSemVer) target

end Exosnap.Update
