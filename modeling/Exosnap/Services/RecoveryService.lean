/-
  Finishing an interrupted recording (`RecoveryService.cpp`, `AtomicFileOps.cpp`): the names that are
  chosen, and what is done with the files under them.

  `Finish` first chooses its names by asking which paths exist, and then works on three of them: the
  artefact, the staging file and the target. The journal keeps the world after each change, so a
  process that is killed leaves the world as one of the entries, or as it was at the beginning. How a
  step turns out comes with the call (`Conditions`): the operating system's answers, and what a
  staging file holds while libavformat writes it. A rename across volumes is a copy and a delete.
  The answers to the question whether a path exists are those of the beginning; a query that fails
  is an exception where the source does not take the error. The log lines and the progress callback
  are left out.
-/
import Mathlib.Logic.Function.Basic
import Exosnap.Lib.Journaled
import Exosnap.Settings.RecoveryManifestStore
import Exosnap.Services.FilesystemPath

namespace Exosnap.Services

open Exosnap.Settings (RecoveryManifestEntry JsonText FileAccess)

/-! ## Choosing the names -/

namespace Recovery

/-- Whether something is at a path, or `none` where the query fails. -/
abbrev Exists := Path → Option Bool

def deriveStemFromEntry (entry : RecoveryManifestEntry) : String :=
  let path := Path.ofString
    (if entry.finalOutputPath.isEmpty then entry.artefactPath else entry.finalOutputPath)
  if path.extension = ".tmp" ∨ path.extension = ".partial" then path.removeExtension.stem
  else path.stem

/-- `folder`, if it is a path and something is there. -/
def existingFolder (exists_ : Exists) (folder : Path) : Option (Option Path) :=
  if folder.isEmpty then some none
  else (exists_ folder).map fun found => if found then some folder else none

def resolveDestinationFolder (exists_ : Exists) (fallbackOutputFolder : String)
    (entry : RecoveryManifestEntry) : Option Path := do
  let stored ←
    if entry.finalOutputPath.isEmpty then some none
    else existingFolder exists_ (Path.ofString entry.finalOutputPath).parentPath
  match stored with
  | some folder => return folder
  | none =>
      let fallback ←
        if fallbackOutputFolder.isEmpty then some none
        else existingFolder exists_ (Path.ofString fallbackOutputFolder)
      match fallback with
      | some folder => return folder
      | none => return (Path.ofString entry.artefactPath).parentPath

def numberedName (preferred : Path) (n : Nat) : Path :=
  preferred.parentPath.append s!"{preferred.stem} ({n}){preferred.extension}"

/-- The first free one of `count` numbered names from `n` on, else the name that was preferred. -/
def firstUnique (exists_ : Exists) (preferred : Path) : (count n : Nat) → Option Path
  | 0, _ => some preferred
  | count + 1, n => do
      if ← exists_ (numberedName preferred n) then firstUnique exists_ preferred count (n + 1)
      else return numberedName preferred n

def resolveUniqueOutputPath (exists_ : Exists) (preferred : Path) : Option Path := do
  if ← exists_ preferred then firstUnique exists_ preferred 998 2
  else return preferred

def stagingName (target : Path) (n : Nat) : Path :=
  target.parentPath.append (target.filename ++ if n = 0 then ".tmp" else s!".{n}.tmp")

/-- The first of `count` staging names from `n` on that is known to be free, else the first of all. -/
def firstStaging (exists_ : Exists) (target : Path) : (count n : Nat) → Path
  | 0, _ => stagingName target 0
  | count + 1, n =>
      if exists_ (stagingName target n) = some false then stagingName target n
      else firstStaging exists_ target count (n + 1)

def makeDisposableSiblingStagingPath (exists_ : Exists) (target : Path) : Path :=
  firstStaging exists_ target 100000 0

def ownsTarget (entry : RecoveryManifestEntry) (preferred : Path) : Bool :=
  !entry.finalOutputPath.isEmpty &&
    Path.pathsEqual preferred (Path.ofString entry.finalOutputPath)

/-- A file at the entry's own output path is replaced in place, any other is side-stepped. -/
def resolveRemuxTarget (exists_ : Exists) (entry : RecoveryManifestEntry) (preferred : Path) :
    Option Path :=
  if ownsTarget entry preferred then some preferred
  else resolveUniqueOutputPath exists_ preferred

inductive RemuxKind where
  | mkv
  | mp4
  deriving DecidableEq, Repr

/-- What `Finish` is going to do, and under which names. -/
inductive Plan where
  | rename (target : Path)
  | remux (kind : RemuxKind) (target staging : Path)
  deriving DecidableEq, Repr

namespace Plan

def target : Plan → Path
  | .rename target => target
  | .remux _ target _ => target

def staging : Plan → Option Path
  | .rename _ => none
  | .remux _ _ staging => some staging

end Plan

/-- `none` where asking whether a path exists throws. -/
def plan (exists_ : Exists) (fallbackOutputFolder : String) (entry : RecoveryManifestEntry) :
    Option Plan := do
  let destFolder ← resolveDestinationFolder exists_ fallbackOutputFolder entry
  let stem := deriveStemFromEntry entry
  if Settings.toLower entry.intendedContainer ≠ "mp4" then
    let preferred := destFolder.append (stem ++ ".mkv")
    if entry.finalized then
      return .rename (← resolveUniqueOutputPath exists_ preferred)
    else
      let repairTarget ← resolveRemuxTarget exists_ entry preferred
      return .remux .mkv repairTarget (makeDisposableSiblingStagingPath exists_ repairTarget)
  else
    let preferred := destFolder.append (stem ++ ".mp4")
    let target ← resolveRemuxTarget exists_ entry preferred
    return .remux .mp4 target (makeDisposableSiblingStagingPath exists_ target)

end Recovery

/-! ## The world -/

inductive Node (C : Type) where
  | file (contents : C)
  | folder
  deriving DecidableEq, Repr

/-- What is at each place of the file system, and what the manifest file holds. -/
structure World (Loc C τ : Type) where
  files : Loc → Option (Node C)
  manifest : Option τ

/-- What a name means: the place it leads to, under which two paths that are equal are one, and the
    names about which the operating system cannot say whether anything is there. -/
structure Naming (Loc : Type) where
  locate : Path → Loc
  unanswered : Path → Bool
  locate_eq {a b : Path} : Path.pathsEqual a b = true → locate a = locate b

def Naming.exists_ {Loc C : Type} (naming : Naming Loc) (files : Loc → Option (Node C)) :
    Recovery.Exists :=
  fun path => if naming.unanswered path then none else some (files (naming.locate path)).isSome

/-- How the steps of one call turn out. -/
structure Conditions (C : Type) where
  /-- What the target holds while it is copied to, where the rename crosses volumes. -/
  copying : Option (List (Option (Node C))) := none
  renamed : Bool := true
  /-- What a copy that failed leaves at the target. -/
  leftover : Option (Node C) := none
  sourceDeleted : Bool := true
  renameError : String := ""
  /-- What the staging file holds while the remux runs. -/
  staged : List (Option (Node C)) := []
  remuxed : Bool := true
  remuxMessage : String := ""
  /-- The error of the move to the target, 0 where it succeeds. -/
  moveError : Nat := 0
  stagingDeleted : Bool := true
  artefactDeleted : Bool := true
  manifest : FileAccess := {}

structure RecoveryActionResult where
  success : Bool
  message : String := ""
  deriving DecidableEq, Repr

/-! ## The steps -/

abbrev Recovering (Loc C τ : Type) := Journaled (World Loc C τ) (World Loc C τ)

section
variable {Loc C τ : Type} [DecidableEq Loc]

def World.put (loc : Loc) (node : Option (Node C)) (w : World Loc C τ) : World Loc C τ :=
  { w with files := Function.update w.files loc node }

/-- One change of the world, entered in the journal. -/
def change (f : World Loc C τ → World Loc C τ) : Recovering Loc C τ Unit := do
  Journaled.update f
  Journaled.record id

/-- What a place holds, one after another. -/
def holds (loc : Loc) : List (Option (Node C)) → Recovering Loc C τ Unit
  | [] => pure ()
  | node :: nodes => do
      change (World.put loc node)
      holds loc nodes

variable (conditions : Conditions C) (result : Recovery.RemuxKind → C → C)

/-- `std::filesystem::rename`, which fails where there is nothing to rename. -/
def rename (source target : Loc) : Recovering Loc C τ Bool := do
  let w ← Journaled.read
  match w.files source with
  | none => return false
  | some node =>
      if source = target then return conditions.renamed
      else
        match conditions.copying with
        | none =>
            if conditions.renamed then
              change fun w => (w.put target (some node)).put source none
              return true
            else return false
        | some nodes =>
            holds target nodes
            if conditions.renamed then
              change (World.put target (some node))
              if conditions.sourceDeleted then
                change (World.put source none)
              return true
            else
              change (World.put target conditions.leftover)
              return false

/-- `RemuxToMkv` and `RemuxToProgressiveMp4`. The input is opened first; where that fails, the output
    is not touched. A remux that succeeds has written the output to completion. -/
def remux (kind : Recovery.RemuxKind) (input output : Loc) : Recovering Loc C τ Bool := do
  let w ← Journaled.read
  match w.files input with
  | some (.file contents) =>
      holds output conditions.staged
      if conditions.remuxed then
        change (World.put output (some (.file (result kind contents))))
        return true
      else return false
  | _ => return false

/-- `AtomicReplaceInPlace`: whether it succeeded. -/
def atomicReplaceInPlace (source target : Loc) : Recovering Loc C τ Bool := do
  if conditions.moveError = 0 then
    change fun w =>
      if source = target then w else (w.put target (w.files source)).put source none
    return true
  else return false

/-- `DescribeFailedStagingRemoval`, for what it does. -/
def removeStaging (staging : Loc) : Recovering Loc C τ Unit :=
  if conditions.stagingDeleted then change (World.put staging none) else pure ()

def removeArtefact (artefact : Loc) : Recovering Loc C τ Unit :=
  if conditions.artefactDeleted then change (World.put artefact none) else pure ()

variable (text : JsonText τ) (manifestPath : String)

/-- `store_.Remove`, whose result is not looked at. -/
def removeEntry (id : String) : Recovering Loc C τ Unit :=
  change fun w =>
    { w with manifest := (Settings.remove text manifestPath w.manifest conditions.manifest id).2 }

def finishByRename (entry : RecoveryManifestEntry) (artefact target : Loc) :
    Recovering Loc C τ RecoveryActionResult := do
  if !(← rename conditions artefact target) then
    return { success := false, message := "Rename failed: " ++ conditions.renameError }
  else
    removeEntry conditions text manifestPath entry.id
    return { success := true }

def finishByRemux (kind : Recovery.RemuxKind) (entry : RecoveryManifestEntry)
    (artefact target staging : Loc) : Recovering Loc C τ RecoveryActionResult := do
  if !(← remux conditions result kind artefact staging) then
    removeStaging conditions staging
    return { success := false, message := conditions.remuxMessage }
  else if !(← atomicReplaceInPlace conditions staging target) then
    removeStaging conditions staging
    let message := s!"Atomic move to final output failed (Win32 error {conditions.moveError})"
    return { success := false, message }
  else
    removeArtefact conditions artefact
    removeEntry conditions text manifestPath entry.id
    return { success := true }

variable (naming : Naming Loc) (fallbackOutputFolder : String)

/-- `Finish`, or `none` where it throws before it has changed anything. -/
def finish (entry : RecoveryManifestEntry) :
    Recovering Loc C τ (Option RecoveryActionResult) := do
  let w ← Journaled.read
  let artefact := naming.locate (Path.ofString entry.artefactPath)
  match Recovery.plan (naming.exists_ w.files) fallbackOutputFolder entry with
  | none => return none
  | some (.rename target) =>
      return some (← finishByRename conditions text manifestPath entry artefact
        (naming.locate target))
  | some (.remux kind target staging) =>
      return some (← finishByRemux conditions result text manifestPath kind entry artefact
        (naming.locate target) (naming.locate staging))

end

end Exosnap.Services
