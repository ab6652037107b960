/-
  Versions, manifests and packages (`update_types.h`, `semver.cpp`, `manifest_io.cpp`,
  `release_locator.cpp`, `update_checker.cpp`), and the vocabulary of the update flow with its
  tables (`update_flow_state.h`, `update_flow_state.cpp`).
-/
import Mathlib.Tactic.Common
import Mathlib.Algebra.Order.Ring.Int

namespace Exosnap.Update

/-! ## Versions -/

structure SemVer where
  major : UInt32 := 0
  minor : UInt32 := 0
  patch : UInt32 := 0
  isPrerelease : Bool := false
  prereleaseNumber : UInt32 := 0
  deriving DecidableEq, Repr

/-- `SemVer::operator<` -/
def SemVer.lt (v o : SemVer) : Bool :=
  if v.major ≠ o.major then v.major < o.major
  else if v.minor ≠ o.minor then v.minor < o.minor
  else if v.patch ≠ o.patch then v.patch < o.patch
  else if v.isPrerelease ≠ o.isPrerelease then v.isPrerelease
  else if !v.isPrerelease then false
  else v.prereleaseNumber < o.prereleaseNumber

def SemVer.toString (v : SemVer) : String :=
  s!"{v.major}.{v.minor}.{v.patch}" ++ (if v.isPrerelease then s!"-rc{v.prereleaseNumber}" else "")

/-- `std::from_chars` into 32 bits: the digits in front, unless there are none or they overflow. -/
def fromChars (s : List Char) : Option (UInt32 × List Char) :=
  let digits := s.takeWhile Char.isDigit
  let value := digits.foldl (fun n c => 10 * n + (c.toNat - '0'.toNat)) 0
  if digits.isEmpty || decide (2 ^ 32 ≤ value) then none
  else some (UInt32.ofNat value, s.dropWhile Char.isDigit)

/-- The prerelease that a `-` introduces: the ordinal of an `rcN`, and 0 for any other label. -/
def parsePrerelease (v : SemVer) (label : List Char) : SemVer :=
  let v := { v with isPrerelease := true }
  match label with
  | 'r' :: 'c' :: rest =>
      match fromChars rest with
      | some (number, _) => { v with prereleaseNumber := number }
      | none => v
  | _ => v

def parseSemVer (s : String) : Option SemVer := do
  let (major, rest) ← fromChars s.toList
  let rest ← afterDot rest
  let (minor, rest) ← fromChars rest
  let rest ← afterDot rest
  let (patch, rest) ← fromChars rest
  let v : SemVer := { major := major, minor := minor, patch := patch }
  match rest with
  | '-' :: label => some (parsePrerelease v label)
  | _ => some v
where
  afterDot : List Char → Option (List Char)
    | '.' :: rest => some rest
    | _ => none

/-! ## Manifests -/

inductive UpdateChannel where
  | stable
  | preview
  deriving DecidableEq, Repr

inductive PackageKind where
  | installer
  | portable
  deriving DecidableEq, Repr

inductive InstallMode where
  | installed
  | portable
  deriving DecidableEq, Repr

structure PackageEntry where
  kind : PackageKind := .installer
  url : String
  sha256Hex : String
  deriving DecidableEq, Repr

structure UpdateManifest where
  version : SemVer := {}
  versionRaw : String := ""
  minimumAcceptedVersion : SemVer := {}
  packages : List PackageEntry := []
  deriving DecidableEq, Repr

/-- A package of the JSON document: what reading each field gives, or the text of the exception. -/
structure RawPackage where
  kind : Except String String
  url : Except String String
  sha256 : Except String String

structure RawManifest where
  version : Except String String
  minimumAcceptedVersion : Except String String
  packages : Except String (List RawPackage)

/-- A `nlohmann::json::exception`, as `ParseManifest` reports it. -/
def jsonRead {α : Type} (field : Except String α) : Except String α :=
  field.mapError ("json parse error: " ++ ·)

def parsePackage (pkg : RawPackage) : Except String PackageEntry := do
  let kind ← match ← jsonRead pkg.kind with
    | "installer" => pure PackageKind.installer
    | "portable" => pure PackageKind.portable
    | kind => throw ("unknown package kind: " ++ kind)
  let url ← jsonRead pkg.url
  let sha256 ← jsonRead pkg.sha256
  if sha256.utf8ByteSize ≠ 64 then throw "sha256 must be 64 hex chars"
  return { kind := kind, url := url, sha256Hex := sha256 }

/-- `ParseManifest`, over the document that the JSON library reads. -/
def parseManifest (document : Except String RawManifest) : Except String UpdateManifest := do
  let j ← jsonRead document
  let versionRaw ← jsonRead j.version
  let some version := parseSemVer versionRaw | throw ("invalid version: " ++ versionRaw)
  let minimumRaw ← jsonRead j.minimumAcceptedVersion
  let some minimum := parseSemVer minimumRaw
    | throw ("invalid minimum_accepted_version: " ++ minimumRaw)
  let packages ← (← jsonRead j.packages).mapM parsePackage
  return {
    version := version
    versionRaw := versionRaw
    minimumAcceptedVersion := minimum
    packages := packages }

def isDowngrade (manifest : UpdateManifest) (currentVersion : SemVer) : Bool :=
  manifest.version.lt currentVersion || manifest.version.lt manifest.minimumAcceptedVersion

def selectPackage (m : UpdateManifest) (mode : InstallMode) : Option PackageEntry :=
  let want := if mode = .installed then PackageKind.installer else PackageKind.portable
  m.packages.find? (·.kind = want)

/-! ## Releases -/

structure ReleaseAssets where
  version : SemVer := {}
  versionTag : String := ""
  manifestUrl : String := ""
  signatureUrl : String := ""
  deriving DecidableEq, Repr

structure CheckParams where
  currentVersion : SemVer
  currentVersionRaw : String
  allowSameVersionReinstall : Bool
  deriving DecidableEq, Repr

inductive UpdateOffer where
  | none
  | update
  | verificationReinstall
  deriving DecidableEq, Repr

def decideOffer (releaseVersion : SemVer) (releaseVersionRaw : String) (params : CheckParams) :
    UpdateOffer :=
  if params.currentVersion.lt releaseVersion then .update
  else if params.allowSameVersionReinstall && !params.currentVersionRaw.isEmpty &&
      !releaseVersionRaw.isEmpty && releaseVersionRaw == params.currentVersionRaw then
    .verificationReinstall
  else .none

structure ReleaseNote where
  version : SemVer
  bodyMarkdown : String
  htmlUrl : String
  deriving DecidableEq

structure UpdateCheckResult where
  updateAvailable : Bool
  availableVersion : Option SemVer := none
  availableVersionRaw : String := ""
  errorMessage : Option String := none
  manifestUrl : String := ""
  manifestSignatureUrl : String := ""
  gapNotes : List ReleaseNote := []
  allChannelNotes : List ReleaseNote := []
  deriving DecidableEq

/-- The version that `BuildCheckResult` offers, `none` where no update is available. -/
def offeredVersion (release : Option ReleaseAssets) (params : CheckParams) : Option String :=
  match release with
  | some release =>
      if decideOffer release.version release.versionTag params = .none then none
      else some release.versionTag
  | none => none

/-! ## The update flow -/

inductive UpdaterMode where
  | manual
  | appHandoff
  deriving DecidableEq, Repr

inductive UpStep where
  | download
  | closeApp
  | install
  | verify
  | launch
  | count
  deriving DecidableEq, Repr

/-- The number behind a step. -/
def UpStep.toNat : UpStep → Nat
  | .download => 0
  | .closeApp => 1
  | .install => 2
  | .verify => 3
  | .launch => 4
  | .count => 5

inductive FailureCase where
  | downloadFailed
  | verifyDownloadFailed
  | verifyReinstallMismatch
  | targetVersionMismatch
  | handoffRejected
  | appWontClose
  | installFailed
  | verifyInstallFailed
  | restoreFailed
  | verifyInstallFailedMsi
  | launchFailed
  | uacDeclined
  | msiFailed
  | msiRebootRequired
  deriving DecidableEq, Repr

inductive InstallState where
  | intact
  | restored
  | strandedInBackup
  | unknown
  deriving DecidableEq, Repr

def installStateForFailure : FailureCase → InstallState
  | .downloadFailed | .verifyDownloadFailed | .verifyReinstallMismatch | .targetVersionMismatch
  | .appWontClose => .intact
  | .handoffRejected => .intact
  | .installFailed => .intact
  | .uacDeclined => .intact
  | .msiFailed => .intact
  | .msiRebootRequired => .intact
  | .launchFailed => .intact
  | .verifyInstallFailed => .restored
  | .restoreFailed => .strandedInBackup
  | .verifyInstallFailedMsi => .unknown

def retryEntryStep : FailureCase → UpStep
  | .downloadFailed | .verifyDownloadFailed | .verifyReinstallMismatch | .targetVersionMismatch
  | .handoffRejected => .download
  | .appWontClose => .closeApp
  | .installFailed | .verifyInstallFailed | .restoreFailed | .verifyInstallFailedMsi
  | .uacDeclined | .msiFailed | .msiRebootRequired => .install
  | .launchFailed => .launch

end Exosnap.Update
