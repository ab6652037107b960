/-
  The update pipeline (`UpdaterWorker.cpp`): check, download, apply and run, with both installs.

  A worker's functions are programs on its members and the disk of its installation; they write a
  journal of their file-system steps, of the signals they emit and of the points that they pass.
  What the world answers comes from `Env`, a new answer for each question: fetches and reads, the
  file at a path that no lock pins, renames and deletions, processes and cancellations. Hash,
  signature, the JSON library and what a package unpacks to are parameters (`Platform`), for
  packages of any type.
-/
import Exosnap.Update.SwapEngine

namespace Exosnap.Updater

open Exosnap.Update

/-! ## Plans and arguments -/

structure UpdaterArgs where
  mode : UpdaterMode := .manual
  channel : UpdateChannel := .stable
  installMode : InstallMode := .portable
  installDir : String := ""
  appPid : UInt32 := 0
  currentVersion : String := ""
  targetVersion : String := ""
  manifestPath : String := ""
  manifestSignaturePath : String := ""
  baseUrl : String := ""
  verifyReinstall : Bool := false
  deriving DecidableEq, Repr

/-- The names of a plan's directories; what is in them is on the `Disk`. -/
structure SwapPlan where
  installDir : String := ""
  stagingDir : String := ""
  backupDir : String := ""
  targetVersion : SemVer := {}
  deriving DecidableEq, Repr

def makeSwapPlan (installDir : String) (target : SemVer) : SwapPlan :=
  let normalized := String.ofList
    ((installDir.toList.reverse.dropWhile fun c => c == '\\' || c == '/').reverse)
  { installDir := normalized
    stagingDir := normalized ++ ".new"
    backupDir := normalized ++ ".old"
    targetVersion := target }

def restoreFailedDetail (plan : SwapPlan) : String :=
  "Restore failed - your previous version is at \"" ++ plan.backupDir ++
    "\"; the install path \"" ++ plan.installDir ++ "\" could not be put back."

/-- `SanitizePathComponent`, in UTF-16 code units. -/
def sanitizePathComponent (value : String) : String :=
  let out := value.toList.flatMap fun c =>
    if c.isAlphanum || c == '-' || c == '_' then [c]
    else if c.toNat < 0x10000 then ['.'] else ['.', '.']
  if out.all (· == '.') then "handoff" else String.ofList out

/-- Without the whitespace around it. -/
def trimmed (s : String) : String :=
  let blank := fun c : Char => c == ' ' || c == '\t' || c == '\r' || c == '\n'
  String.ofList ((s.toList.dropWhile blank).reverse.dropWhile blank).reverse

def versionsMatchExactly (a b : String) : Bool := !a.isEmpty && !b.isEmpty && a == b

def verificationReinstallAccepts (verifyReinstall : Bool) (manifestVersion currentVersion : String) :
    Bool :=
  if !verifyReinstall then true else versionsMatchExactly manifestVersion currentVersion

def targetVersionAccepts (targetVersion manifestVersion : String) : Bool :=
  if targetVersion.isEmpty then true else versionsMatchExactly manifestVersion targetVersion

def hexEqualNoCase (a b : String) : Bool :=
  a.toList.map Char.toLower == b.toList.map Char.toLower

inductive MsiExitClass where
  | success
  | rebootRequired
  | failed
  deriving DecidableEq, Repr

def classifyMsiExit (exitCode : UInt32) : MsiExitClass :=
  if exitCode = 0 then .success
  else if exitCode = 3010 then .rebootRequired
  else .failed

/-! ## The world outside -/

/-- What a package has at its top level: `exosnap.exe`, one folder with it, or neither. -/
inductive Layout where
  | flat
  | wrapped
  | unusable
  deriving DecidableEq, Repr

structure Platform (π : Type) where
  /-- The lowercase hex digest of a package. -/
  sha256 : π → String
  layout : π → Layout
  versionInfo : π → VersionInfo
  /-- `VerifyManifestSignature` of manifest bytes. -/
  verifySignature : String → String → Bool
  readJson : String → Except String RawManifest
  /-- `LocateRelease`, or its parse error. -/
  locateRelease : String → UpdateChannel → Except String (Option ReleaseAssets)
  /-- `IsUpdateCheckEnabled` -/
  officialBuild : Bool

/-- `ExtractZip`: refused with nothing written, broken off, or done. In the two last cases the
    executable may be among the files that are written first. -/
inductive Extraction where
  | refused (error : String)
  | broken (exe : Bool) (error : String)
  | done (exe : Bool)
  deriving DecidableEq, Repr

/-- `ShellExecuteExW` of msiexec. -/
inductive Elevation where
  | declined
  | error (code : UInt32)
  | noProcess
  | started
  deriving DecidableEq, Repr

/-- The answers from outside. -/
structure Env (π : Type) extends FileSystem where
  extracts : Nat → Extraction
  tempDirectory : Nat → Bool
  createsDirectory : Nat → Bool
  readsFile : Nat → Option String
  /-- `DownloadToFile`: the error, if it fails. -/
  downloads : Nat → Option String
  /-- The progress that the throttle lets through. -/
  progress : Nat → List (UInt64 × UInt64)
  /-- The file at a path that is not locked; anyone may have put it there. -/
  packageFile : Nat → String → Option π
  opensLock : Nat → Bool
  readsLocked : Nat → Bool
  /-- `cancel_`, which another thread sets at any time. -/
  cancelled : Nat → Bool
  fetchesReleases : Nat → Except String String
  processExits : Nat → Bool
  mutexPresent : Nat → Bool
  mutexAppears : Nat → Bool
  launches : Nat → Bool
  uacDeclinedInjected : Nat → Bool
  elevates : Nat → Elevation
  msiFinishes : Nat → Bool
  exitCode : Nat → UInt32
  registryInstallPath : Nat → Option String
  /-- The executable that an installer's installation has. -/
  installedExe : Nat → Option VersionInfo

/-! ## Members -/

/-- The deny-write, deny-delete lock on a package, and the bytes that it pins. -/
structure PackageLock (π : Type) where
  path : String
  bytes : π
  deriving DecidableEq, Repr

/-- A package that was extracted into staging, and the lock that was held then. -/
structure Staged (π : Type) where
  package : π
  lock : Option (PackageLock π)
  deriving DecidableEq, Repr

structure World (π : Type) extends Session π where
  release : ReleaseAssets := {}
  haveRelease : Bool := false
  releasesJson : String := ""
  manifest : UpdateManifest := {}
  plan : SwapPlan := {}
  packagePath : String := ""
  packageSha256 : String := ""
  launchDir : String := ""
  downloadDir : String := ""
  havePackage : Bool := false
  lockedPackage : Option (PackageLock π) := none
  /-- History: the package that the latest extraction into staging was of. -/
  staged : Option (Staged π) := none
  /-- History: the build that was live when the latest install step started. -/
  before : Option π := none
  deriving DecidableEq, Repr

inductive Signal where
  | stepStarted (step : UpStep)
  | downloadProgress (received total : UInt64)
  | stepDone (step : UpStep)
  | releaseResolved (toVersion : String)
  | allDone
  | failed (c : FailureCase) (detail : String)
  | cancelled
  | checkStarted
  | upToDate
  | updateAvailable (version : String)
  | readyToApply
  | checkBlocked (reason : String)
  deriving DecidableEq, Repr

/-- A file-system step, a signal, or a point that the worker passes. -/
inductive Event where
  | fsStep
  | signal (s : Signal)
  /-- A call starts to work at a step of the pipeline. -/
  | entering (step : UpStep)
  /-- Behind the repair of an orphaned swap. -/
  | repaired
  /-- Behind the deletion that clears staging for a package. -/
  | wiped
  | extracting
  /-- The package is locked and verified once more, before msiexec. -/
  | relocking
  | stageRename
  | msiexec
  deriving DecidableEq, Repr

/-- An event, and the world at that moment. -/
structure Entry (π : Type) where
  event : Event
  world : World π
  deriving DecidableEq, Repr

abbrev Worker (π : Type) := Journaled (World π) (Entry π)

structure Context (π : Type) where
  args : UpdaterArgs
  platform : Platform π
  env : Env π

section
variable {π : Type}

def note (event : Event) : Worker π Unit := Journaled.record fun w => ⟨event, w⟩

def emit (s : Signal) : Worker π Unit := note (.signal s)

def assign (f : World π → World π) : Worker π Unit := Journaled.update f

def ask {α : Type} (answers : Nat → α) : Worker π α := do
  let w ← Journaled.read
  assign fun w => { w with asked := w.asked + 1 }
  return answers w.asked

def onDisk {α : Type} (m : Swap π α) : Worker π α :=
  Journaled.within World.toSession (fun s w => { w with toSession := s })
    (fun w s => ⟨.fsStep, { w with toSession := s }⟩) m

/-- `emit failed(...); return false;` -/
def fail (c : FailureCase) (detail : String) : Worker π Bool := do
  emit (.failed c detail)
  return false

end

namespace Context

variable {π : Type} (c : Context π)

def portable : Bool := c.args.installMode == .portable

def abortedByCancel : Worker π Bool := do
  if !(← ask c.env.cancelled) then return false
  else
    emit .cancelled
    return true

/-! ## Release resolution -/

def kDefaultReleasesUrl : String := "https://api.github.com/repos/Exoridus/exosnap/releases"

/-- The result and `no_release`. -/
def resolveRelease : Worker π (Bool × Bool) := do
  match ← ask c.env.fetchesReleases with
  | .error fetchError =>
      emit (.failed .downloadFailed fetchError)
      return (false, false)
  | .ok releasesJson =>
      assign fun w => { w with releasesJson := releasesJson }
      match c.platform.locateRelease releasesJson c.args.channel with
      | .error parseError =>
          emit (.failed .downloadFailed parseError)
          return (false, false)
      | .ok none => return (false, true)
      | .ok (some release) =>
          assign fun w => { w with release := release, haveRelease := true }
          return (true, false)

/-! ## Packages -/

/-- The file at `package_path_`: what the lock pins, or what anyone has put there. -/
def readPackage : Worker π (Option π) := do
  let file ← ask c.env.packageFile
  let w ← Journaled.read
  match w.lockedPackage with
  | some lock => return if lock.path = w.packagePath then some lock.bytes else file w.packagePath
  | none => return file w.packagePath

/-- `OpenPackageWriteLock` -/
def openPackageWriteLock : Worker π (Option π) := do
  let opens ← ask c.env.opensLock
  let file ← ask c.env.packageFile
  let w ← Journaled.read
  return if opens then file w.packagePath else none

/-- The error, if it fails. -/
def lockAndVerifyPackage (expectedSha256 : String) : Worker π (Option String) := do
  assign fun w => { w with lockedPackage := none }
  match ← c.openPackageWriteLock with
  | none => return some "Can't open the downloaded package for verification."
  | some bytes =>
      assign fun w => { w with lockedPackage := some ⟨w.packagePath, bytes⟩ }
      let readable ← ask c.env.readsLocked
      if readable && hexEqualNoCase (c.platform.sha256 bytes) expectedSha256 then return none
      else
        assign fun w => { w with lockedPackage := none }
        return some "SHA-256 mismatch - the file was deleted."

/-- What is in staging while a package is extracted, or where that broke off. -/
def partly (package : π) (exe : Bool) : Update.Tree π :=
  .remnant (if exe && c.platform.layout package == .flat then some package else none)

/-- `ExtractZip` into staging: the package, or the error. -/
def extractZip : Worker π (Except String π) := do
  note .extracting
  match ← c.readPackage with
  | none => return .error "ExtractZip: failed to open zip archive"
  | some package =>
      assign fun w => { w with staged := some ⟨package, w.lockedPackage⟩ }
      match ← ask c.env.extracts with
      | .refused error => return .error error
      | .broken exe error =>
          stagingBecomes (c.partly package exe)
          return .error error
      | .done exe =>
          stagingBecomes (c.partly package exe)
          stagingBecomes (if c.platform.layout package = .flat then .complete package
            else .remnant none)
          return .ok package
where
  stagingBecomes (t : Update.Tree π) : Worker π Unit := onDisk (write fun d => { d with staging := t })

/-- The single top-level folder becomes the staging tree, through the hoist. -/
def hoistStagedRoot (package : π) : Worker π Bool := do
  let _ ← onDisk (removeTree c.env.toFileSystem .hoist)
  let moves ← ask c.env.renames
  let w ← Journaled.read
  if !moves || w.disk.hoist.present then return false
  else
    onDisk (write fun d => { d with hoist := .complete package })
    if !(← onDisk (removeTree c.env.toFileSystem .staging)) then return false
    else onDisk (renameDirectory c.env.toFileSystem .hoist .staging)

/-- The error and `*unusable_package`, if it fails. -/
def stagePortablePackage : Worker π (Option (String × Bool)) := do
  let gone ← onDisk (removeTree c.env.toFileSystem .staging)
  note .wiped
  if !gone then return some ("Can't clear the staging directory.", false)
  else
    match ← c.extractZip with
    | .error error =>
        let _ ← onDisk (removeTree c.env.toFileSystem .staging)
        return some (error, false)
    | .ok package =>
        match c.platform.layout package with
        | .flat => return none
        | .wrapped =>
            if ← c.hoistStagedRoot package then return none
            else
              let _ ← onDisk (removeTree c.env.toFileSystem .hoist)
              let _ ← onDisk (removeTree c.env.toFileSystem .staging)
              return some
                ("Can't arrange the staged files next to the install directory.", false)
        | .unusable =>
            let _ ← onDisk (removeTree c.env.toFileSystem .staging)
            return some ("The downloaded package has an unexpected layout.", true)

/-! ## Step 1: Download -/

/-- The download directory of the run, below `%TEMP%\ExoSnapUpdate`. -/
def downloadDirName (w : World π) : String :=
  if c.args.mode = .appHandoff then sanitizePathComponent c.args.targetVersion
  else w.release.version.toString

/-- Manifest and signature: handed over, or downloaded and read back. -/
def readManifestFiles : Worker π (Option (String × String)) := do
  if c.args.mode = .appHandoff then
    match ← ask c.env.readsFile with
    | none =>
        rejected .handoffRejected
          ("The handoff names a manifest that cannot be read: " ++ c.args.manifestPath)
    | some manifestJson =>
        match ← ask c.env.readsFile with
        | none =>
            rejected .handoffRejected
              ("The handoff names a manifest signature that cannot be read: " ++
                c.args.manifestSignaturePath)
        | some signatureHex => return some (manifestJson, signatureHex)
  else
    let w ← Journaled.read
    if w.release.manifestUrl.isEmpty || w.release.signatureUrl.isEmpty then
      rejected .downloadFailed "The release carries no update manifest."
    else
      match ← downloadAndRead "Can't read the downloaded manifest." with
      | none => return none
      | some manifestJson =>
          match ← downloadAndRead "Can't read the manifest signature." with
          | none => return none
          | some signatureHex => return some (manifestJson, signatureHex)
where
  rejected {α : Type} (f : FailureCase) (detail : String) : Worker π (Option α) := do
    emit (.failed f detail)
    return none
  downloadAndRead (unreadable : String) : Worker π (Option String) := do
    match ← ask c.env.downloads with
    | some error =>
        if ← c.abortedByCancel then return none
        else rejected .downloadFailed error
    | none =>
        match ← ask c.env.readsFile with
        | none => rejected .downloadFailed unreadable
        | some text => return some text

/-- Why manifest bytes are refused: signature, parse and the version gates, in their order. -/
def acceptManifest (manifestJson signatureHex : String) :
    Except (FailureCase × String) UpdateManifest :=
  if !c.platform.verifySignature manifestJson signatureHex then
    .error (.verifyDownloadFailed, "Manifest signature invalid.")
  else match parseManifest (c.platform.readJson manifestJson) with
  | .error error => .error (.verifyDownloadFailed, error)
  | .ok manifest =>
      if !targetVersionAccepts c.args.targetVersion manifest.versionRaw then
        .error (.targetVersionMismatch, manifest.versionRaw)
      else if isDowngrade manifest ((parseSemVer c.args.currentVersion).getD {}) then
        .error (.verifyDownloadFailed, "The offered version " ++ manifest.version.toString ++
          " is below the installed version - downgrade blocked.")
      else if !verificationReinstallAccepts c.args.verifyReinstall manifest.versionRaw
          c.args.currentVersion then
        .error (.verifyReinstallMismatch, manifest.versionRaw)
      else .ok manifest

/-- The package of an accepted manifest: downloaded, locked, verified and, if portable, staged. -/
def fetchPackage (manifest : UpdateManifest) (package : PackageEntry) : Worker π Bool := do
  assign fun w => { w with lockedPackage := none }
  reportProgress (← ask c.env.progress)
  match ← ask c.env.downloads with
  | some error =>
      if ← c.abortedByCancel then return false
      else fail .downloadFailed error
  | none =>
      assign fun w => { w with
        packagePath := w.downloadDir ++ (if c.portable then "\\package.zip" else "\\package.msi")
        packageSha256 := package.sha256Hex }
      match ← c.lockAndVerifyPackage package.sha256Hex with
      | some verifyError => fail .verifyDownloadFailed verifyError
      | none =>
          assign fun w => { w with manifest := manifest, havePackage := true }
          if c.portable then
            assign fun w => { w with
              plan := makeSwapPlan c.args.installDir manifest.version }
            match ← c.stagePortablePackage with
            | some (stageError, true) =>
                assign fun w => { w with havePackage := false }
                fail .downloadFailed stageError
            | some (stageError, false) => fail .installFailed stageError
            | none => done
          else done
where
  reportProgress : List (UInt64 × UInt64) → Worker π Unit
    | [] => return ()
    | (received, total) :: more => do
        emit (.downloadProgress received total)
        reportProgress more
  done : Worker π Bool := do
    emit (.stepDone .download)
    return true

def fetchAndStage : Worker π Bool := do
  let w ← Journaled.read
  if c.args.mode ≠ .appHandoff && !w.haveRelease then
    fail .downloadFailed "No release has been resolved yet."
  else if !(← ask c.env.tempDirectory) then fail .downloadFailed "No usable temp directory."
  else if !(← ask c.env.createsDirectory) then
    fail .downloadFailed "Can't create the download directory."
  else
    assign fun w => { w with downloadDir := c.downloadDirName w }
    match ← c.readManifestFiles with
    | none => return false
    | some (manifestJson, signatureHex) =>
        match c.acceptManifest manifestJson (trimmed signatureHex) with
        | .error (f, detail) => fail f detail
        | .ok manifest =>
            match selectPackage manifest c.args.installMode with
            | none =>
                fail .downloadFailed ("The update manifest has no " ++
                  (if c.portable then "portable" else "installer") ++ " package.")
            | some package => c.fetchPackage manifest package

def runDownload : Worker π Bool := do
  emit (.stepStarted .download)
  if c.args.mode = .appHandoff then c.fetchAndStage
  else
    let (resolved, noRelease) ← c.resolveRelease
    if !resolved then
      if noRelease then
        fail .downloadFailed "No release with an update manifest found for this channel."
      else return false
    else
      let w ← Journaled.read
      emit (.releaseResolved w.release.version.toString)
      c.fetchAndStage

/-! ## Step 2: CloseApp -/

def runCloseApp : Worker π Bool := do
  emit (.stepStarted .closeApp)
  if c.args.appPid ≠ 0 then
    if !(← ask c.env.processExits) then fail .appWontClose "" else done
  else if ← ask c.env.mutexPresent then fail .appWontClose "" else done
where
  done : Worker π Bool := do
    emit (.stepDone .closeApp)
    return true

/-! ## Step 3: Install -/

/-- The staged tree is gone or incomplete: staged once more from the kept package. -/
def restage : Worker π Bool := do
  let w ← Journaled.read
  let kept ← c.readPackage
  if w.packagePath.isEmpty || kept.isNone then
    assign fun w => { w with havePackage := false }
    fail .downloadFailed "The downloaded update is no longer available."
  else
    match ← c.stagePortablePackage with
    | some (stageError, true) =>
        assign fun w => { w with havePackage := false }
        fail .downloadFailed stageError
    | some (stageError, false) => fail .installFailed stageError
    | none => return true

/-- The swap, and what its errors are reported as. -/
def swapInstall : Worker π Bool := do
  note .stageRename
  let swapError ← onDisk (stageRename c.env.toFileSystem)
  let w ← Journaled.read
  match swapError with
  | .stagingMissing => fail .installFailed "The staged files are missing."
  | .backupCollision => fail .installFailed "A leftover backup directory could not be cleared."
  | .renameOldFailed =>
      fail .installFailed "The current installation is in use and could not be moved."
  | .renameNewFailed => fail .verifyInstallFailed ""
  | .restoreFailed => fail .restoreFailed (restoreFailedDetail w.plan)
  | .none =>
      assign fun w => { w with launchDir := w.plan.installDir }
      emit (.stepDone .install)
      return true

/-- The build of the installation, or of its backup where the installation is not complete. -/
def liveBuild (d : Disk π) : Option π :=
  match d.install, d.backup with
  | .complete build, _ => some build
  | _, .complete build => some build
  | _, _ => none

def runInstallPortable : Worker π Bool := do
  emit (.stepStarted .install)
  assign fun w => { w with before := liveBuild w.disk }
  let _ ← onDisk (repairOrphanedSwap c.env.toFileSystem)
  note .repaired
  let w ← Journaled.read
  if w.disk.staging.exe.isSome then c.swapInstall
  else if !(← c.restage) then return false
  else c.swapInstall

/-- The elevated msiexec, from the start of its process to its exit code. -/
def elevateMsi : Worker π Bool := do
  note .msiexec
  match ← ask c.env.elevates with
  | .declined => fail .uacDeclined ""
  | .error code => fail .msiFailed s!"{code}"
  | .noProcess => fail .msiFailed "no process"
  | .started =>
      if !(← ask c.env.msiFinishes) then
        if ← c.abortedByCancel then return false
        else fail .msiFailed "The installer did not finish in time."
      else
        let exitCode ← ask c.env.exitCode
        match classifyMsiExit exitCode with
        | .rebootRequired => fail .msiRebootRequired ""
        | .failed => fail .msiFailed s!"{exitCode}"
        | .success =>
            emit (.stepDone .install)
            return true

def runInstallMsi : Worker π Bool := do
  emit (.stepStarted .install)
  let w ← Journaled.read
  if w.lockedPackage.isSome then elevate
  else
    note .relocking
    match ← c.lockAndVerifyPackage w.packageSha256 with
    | some relockError => fail .msiFailed relockError
    | none => elevate
where
  elevate : Worker π Bool := do
    if ← ask c.env.uacDeclinedInjected then fail .uacDeclined ""
    else c.elevateMsi

/-! ## Steps 4 and 5: Verify and Launch -/

/-- Back to the old version, and the failure that says whether it is. -/
def undoSwap : Worker π Bool := do
  let restore ← onDisk (restoreBackup c.env.toFileSystem)
  let w ← Journaled.read
  if restore = .restoreFailed then fail .restoreFailed (restoreFailedDetail w.plan)
  else fail .verifyInstallFailed ""

def runVerify : Worker π Bool := do
  emit (.stepStarted .verify)
  if c.portable then
    let w ← Journaled.read
    if !verifyInstalledVersion (w.disk.install.exe.map c.platform.versionInfo)
        w.plan.targetVersion then c.undoSwap
    else done w.plan.installDir
  else
    let installDir := (← ask c.env.registryInstallPath).getD c.args.installDir
    if installDir.isEmpty then
      fail .verifyInstallFailedMsi "The installer did not record an install location."
    else
      let exe ← ask c.env.installedExe
      let w ← Journaled.read
      let msiPlan := makeSwapPlan installDir w.manifest.version
      if !verifyInstalledVersion exe msiPlan.targetVersion then fail .verifyInstallFailedMsi ""
      else done msiPlan.installDir
where
  done (launchDir : String) : Worker π Bool := do
    assign fun w => { w with launchDir := launchDir }
    emit (.stepDone .verify)
    return true

/-- `LaunchExoSnapFrom`, which needs an executable to launch. -/
def launchExoSnap : Worker π Bool := do
  let launches ← ask c.env.launches
  let w ← Journaled.read
  return launches &&
    (w.launchDir ≠ w.plan.installDir || w.disk.install.exe.isSome)

def runLaunch : Worker π Bool := do
  emit (.stepStarted .launch)
  if !(← c.launchExoSnap) then fail .launchFailed ""
  else if !(← ask c.env.mutexAppears) then
    if c.portable then c.undoSwap else fail .launchFailed ""
  else if c.portable then
    let _ ← onDisk (cleanupBackup c.env.toFileSystem)
    done
  else done
where
  done : Worker π Bool := do
    assign fun w => { w with lockedPackage := none }
    emit (.stepDone .launch)
    emit .allDone
    return true

/-! ## The slots -/

/-- `int(entry) <= int(step)`: the step is run, else passed over. -/
def fromStep (entry step : UpStep) (m : Worker π Bool) : Worker π Bool :=
  if entry.toNat ≤ step.toNat then m else return true

/-- From `CloseApp` on. -/
def runApply (entry : UpStep) : Worker π Unit := do
  if !(← fromStep entry .closeApp c.runCloseApp) then return ()
  else if !(← fromStep entry .install
      (if c.portable then c.runInstallPortable else c.runInstallMsi)) then return ()
  else if !(← fromStep entry .verify c.runVerify) then return ()
  else
    let _ ← c.runLaunch
    return ()

def runFrom (entry : UpStep) : Worker π Unit := do
  note (.entering entry)
  if entry.toNat ≤ UpStep.download.toNat then
    if !(← c.runDownload) then return ()
    else if c.args.mode = .manual then emit .readyToApply
    else c.runApply entry
  else c.runApply entry

def run (entry : UpStep) : Worker π Unit := do
  let w ← Journaled.read
  if entry ≠ .download && !w.havePackage then
    if c.args.mode = .manual then
      note (.entering .download)
      emit (.failed .downloadFailed "The verified update is no longer available.")
    else c.runFrom .download
  else c.runFrom entry

/-- `UpdateChecksEnabled` -/
def updateChecksEnabled : Bool := c.platform.officialBuild || !c.args.baseUrl.isEmpty

def check : Worker π Unit := do
  note (.entering .download)
  emit .checkStarted
  if !c.updateChecksEnabled then
    emit (.checkBlocked
      "This build does not check for updates. Pass --base-url to check against a specific feed.")
  else
    let (resolved, noRelease) ← c.resolveRelease
    if !resolved && !noRelease then return ()
    else
      let w ← Journaled.read
      let params : CheckParams :=
        { currentVersion := (parseSemVer c.args.currentVersion).getD {}
          currentVersionRaw := c.args.currentVersion
          allowSameVersionReinstall := c.args.verifyReinstall }
      match offeredVersion (if noRelease then none else some w.release) params with
      | none =>
          assign fun w => { w with haveRelease := false }
          emit .upToDate
      | some version => emit (.updateAvailable version)

def download : Worker π Unit := do
  note (.entering .download)
  emit (.stepStarted .download)
  if !(← c.fetchAndStage) then return ()
  else emit .readyToApply

def apply : Worker π Unit := c.run .closeApp

end Context

/-- A call of one of the worker's slots. -/
inductive Call where
  | check
  | download
  | apply
  | run (entry : UpStep)
  deriving DecidableEq, Repr

def Context.perform {π : Type} (c : Context π) : Call → Worker π Unit
  | .check => c.check
  | .download => c.download
  | .apply => c.apply
  | .run entry => c.run entry

/-- Calls on one worker, in their order. -/
def Context.performAll {π : Type} (c : Context π) : List Call → Worker π Unit
  | [] => return ()
  | call :: calls => do
      c.perform call
      c.performAll calls

end Exosnap.Updater
