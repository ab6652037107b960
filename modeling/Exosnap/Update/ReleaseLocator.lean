/-
  The choice of a release and the notes that are shown for it (`release_locator.cpp`,
  `UpdateChecker::BuildCheckResult`), over the releases that the JSON library reads.

  A field is what `value` finds under its key: nothing, a value, or the text of the exception where
  the type is another. An `assets` that is absent or null is the empty list. `std::sort` orders by
  any strict weak order and may exchange equal elements.
-/
import Exosnap.Lib.FirstMaximum
import Exosnap.Update.VersionOrder

namespace Exosnap.Update

/-! ## The feed -/

abbrev Field (α : Type) := Except String (Option α)

/-- `json::value`. -/
def Field.value {α : Type} (field : Field α) (default : α) : Except String α :=
  field.map (·.getD default)

structure Asset where
  name : Field String
  browserDownloadUrl : Field String

structure Release where
  prerelease : Field Bool
  draft : Field Bool
  tagName : Field String
  assets : Except String (List Asset)
  body : Field String
  htmlUrl : Field String

/-- Without the `v` in front. -/
def stripV (tag : String) : String :=
  match tag.toList with
  | 'v' :: rest => String.ofList rest
  | _ => tag

def tagToSemVer (tag : String) : Option SemVer := parseSemVer (stripV tag)

def endsWith (s suffix : String) : Bool := suffix.toList.isSuffixOf s.toList

/-! ## The release -/

structure AssetUrls where
  manifestUrl : String := ""
  signatureUrl : String := ""
  portableUrl : String := ""
  installerUrl : String := ""

def AssetUrls.read (urls : AssetUrls) (asset : Asset) : Except String AssetUrls := do
  let name ← asset.name.value ""
  let url ← asset.browserDownloadUrl.value ""
  if name = "update-manifest.json.sig" then return { urls with signatureUrl := url }
  else if name = "update-manifest.json" then return { urls with manifestUrl := url }
  else if endsWith name "-portable.zip" then return { urls with portableUrl := url }
  else if endsWith name ".msi" then return { urls with installerUrl := url }
  else return urls

/-- The answer of `LocateRelease`, with what `ReleaseAssets` leaves out. -/
structure LocatedRelease extends ReleaseAssets where
  portableUrl : String := ""
  installerUrl : String := ""
  releasesPageUrl : String := ""

/-- The body of the loop up to the comparison: the release as far as it qualifies. -/
def qualifying (channel : UpdateChannel) (rel : Release) :
    Except String (Option LocatedRelease) := do
  let isPrerelease ← rel.prerelease.value false
  let isDraft ← rel.draft.value false
  if isDraft then return none
  let channelMatch := if channel = .preview then isPrerelease else !isPrerelease
  if !channelMatch then return none
  let tag ← rel.tagName.value ""
  match tagToSemVer tag with
  | none => return none
  | some version =>
      let urls ← (← rel.assets).foldlM AssetUrls.read {}
      if urls.manifestUrl.isEmpty || urls.signatureUrl.isEmpty then return none
      return some {
        version := version
        versionTag := stripV tag
        manifestUrl := urls.manifestUrl
        signatureUrl := urls.signatureUrl
        portableUrl := urls.portableUrl
        installerUrl := urls.installerUrl }

def locateStep (channel : UpdateChannel) (best : Option LocatedRelease) (rel : Release) :
    Except String (Option LocatedRelease) := do
  match ← qualifying channel rel with
  | none => return best
  | some found =>
      if best.all (·.version.lt found.version) then
        let page ← rel.htmlUrl.value ""
        return some { found with releasesPageUrl := page }
      else return best

/-- `LocateRelease`, and the text that it leaves in `parse_error`. -/
def locateRelease (document : Except String (List Release)) (channel : UpdateChannel) :
    Option LocatedRelease × Option String :=
  match document.bind (List.foldlM (locateStep channel) none) with
  | .ok best => (best, none)
  | .error what => (none, some ("JSON parse error: " ++ what))

/-! ## The notes -/

structure StrictWeak {α : Type} (less : α → α → Bool) : Prop where
  irrefl : ∀ a, less a a = false
  trans : ∀ a b c, less a b = true → less b c = true → less a c = true
  notLess : ∀ a b c, less a b = false → less b c = false → less a c = false

/-- `std::sort`. -/
structure StdSort where
  sort : {α : Type} → (α → α → Bool) → List α → List α
  perm : ∀ {α : Type} {less : α → α → Bool} (l : List α), StrictWeak less → (sort less l).Perm l
  ordered : ∀ {α : Type} {less : α → α → Bool} (l : List α), StrictWeak less →
    (sort less l).Pairwise fun a b => less b a = false

/-- The body of the loop: the note of a release that is in range. -/
def noteOf (channel : UpdateChannel) (inRange : SemVer → Bool) (rel : Release) :
    Except String (Option ReleaseNote) := do
  if ← rel.draft.value false then return none
  let isPrerelease ← rel.prerelease.value false
  if channel ≠ .preview && isPrerelease then return none
  match tagToSemVer (← rel.tagName.value "") with
  | none => return none
  | some version =>
      if !inRange version then return none
      let body ← rel.body.value ""
      let page ← rel.htmlUrl.value ""
      return some { version := version, bodyMarkdown := body, htmlUrl := page }

def newerFirst (a b : ReleaseNote) : Bool := b.version.lt a.version

def collectNotesMatching (std : StdSort) (document : Except String (List Release))
    (channel : UpdateChannel) (inRange : SemVer → Bool) : List ReleaseNote :=
  match document.bind (List.mapM (noteOf channel inRange)) with
  | .ok notes => std.sort newerFirst notes.reduceOption
  | .error _ => []

def collectReleaseNotes (std : StdSort) (document : Except String (List Release))
    (above upTo : SemVer) (channel : UpdateChannel) : List ReleaseNote :=
  collectNotesMatching std document channel fun v => above.lt v && !upTo.lt v

def collectAllReleaseNotesForChannel (std : StdSort) (document : Except String (List Release))
    (channel : UpdateChannel) : List ReleaseNote :=
  collectNotesMatching std document channel fun _ => true

/-! ## The result of a check -/

/-- The result of a check, with what `UpdateCheckResult` leaves out. -/
structure ReleaseCheck extends UpdateCheckResult where
  verificationReinstall : Bool := false
  releasesPageUrl : Option String := none

def buildCheckResult (std : StdSort) (document : Except String (List Release))
    (release : Option LocatedRelease) (channel : UpdateChannel) (params : CheckParams) :
    ReleaseCheck :=
  let allChannelNotes := collectAllReleaseNotesForChannel std document channel
  match release with
  | none => { updateAvailable := false, allChannelNotes := allChannelNotes }
  | some release =>
      let located : ReleaseCheck := {
        updateAvailable := false
        manifestUrl := release.manifestUrl
        manifestSignatureUrl := release.signatureUrl
        allChannelNotes := allChannelNotes }
      let offer := decideOffer release.version release.versionTag params
      if offer = .none then located
      else { located with
        updateAvailable := true
        verificationReinstall := offer = .verificationReinstall
        availableVersion := some release.version
        availableVersionRaw := release.versionTag
        releasesPageUrl := some release.releasesPageUrl
        gapNotes :=
          if offer = .update then
            collectReleaseNotes std document params.currentVersion release.version channel
          else [] }

end Exosnap.Update
