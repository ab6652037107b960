/-
  Which release is located, when it is offered, and which notes are shown for it.

  A loop that raises nothing has read every field that it looked at, and then its answer is that of
  the values: the first release with the largest version among those that qualify
  (`locateRelease_spec`), and the notes of the releases that the channel shows, in range, newest
  first (`notes_spec`).
-/
import Exosnap.Lib.Excepts
import Exosnap.Update.ReleaseLocator
import Mathlib.Data.List.ReduceOption
import Mathlib.Data.List.Sort

namespace Exosnap.Update

open Excepts

/-! ## Fields -/

/-- What a field reads as, where its type is right. -/
def Field.get {α : Type} (field : Field α) (default : α) : α :=
  match field with
  | .ok (some a) => a
  | _ => default

/-- The value under the key has the type that is asked for, or there is none. -/
def Field.Readable {α : Type} (field : Field α) : Prop := ∃ value, field = .ok value

theorem Field.value_ok {α : Type} {field : Field α} {default a : α}
    (h : field.value default = .ok a) : a = field.get default := by
  match field, h with
  | .ok (some _), h => exact (Except.ok.inj h).symm
  | .ok none, h => exact (Except.ok.inj h).symm

theorem Field.Readable.value {α : Type} {field : Field α} (h : field.Readable) (default : α) :
    field.value default = .ok (field.get default) := by
  obtain ⟨value, rfl⟩ := h
  cases value <;> rfl

namespace Release

def isDraft (rel : Release) : Bool := rel.draft.get false

def isPrerelease (rel : Release) : Bool := rel.prerelease.get false

def tag (rel : Release) : String := rel.tagName.get ""

def assetList (rel : Release) : List Asset := rel.assets.toOption.getD []

end Release

/-- The URL of the last asset with such a name. -/
def lastUrl (p : String → Bool) (assets : List Asset) : String :=
  (assets.reverse.find? fun asset => p (asset.name.get "")).elim "" (·.browserDownloadUrl.get "")

def manifestName (name : String) : Bool := name = "update-manifest.json"

def signatureName (name : String) : Bool := name = "update-manifest.json.sig"

/-- Every field of a release has the type that is asked for. -/
structure Release.Readable (rel : Release) : Prop where
  prerelease : rel.prerelease.Readable
  draft : rel.draft.Readable
  tagName : rel.tagName.Readable
  assets : ∃ assets, rel.assets = .ok assets ∧
    ∀ asset ∈ assets, asset.name.Readable ∧ asset.browserDownloadUrl.Readable
  body : rel.body.Readable
  htmlUrl : rel.htmlUrl.Readable

/-! ## One release -/

/-- Not a draft, of the channel, with a version for its tag, the manifest and its signature. -/
structure Qualifies (channel : UpdateChannel) (rel : Release) (version : SemVer) : Prop where
  draft : rel.isDraft = false
  channel : rel.isPrerelease = decide (channel = .preview)
  tag : tagToSemVer rel.tag = some version
  manifest : lastUrl manifestName rel.assetList ≠ ""
  signature : lastUrl signatureName rel.assetList ≠ ""

/-- What is kept of a release. -/
def located (rel : Release) (version : SemVer) : LocatedRelease where
  version := version
  versionTag := stripV rel.tag
  manifestUrl := lastUrl manifestName rel.assetList
  signatureUrl := lastUrl signatureName rel.assetList
  portableUrl := lastUrl (endsWith · "-portable.zip") rel.assetList
  installerUrl := lastUrl (endsWith · ".msi") rel.assetList
  releasesPageUrl := rel.htmlUrl.get ""

theorem not_msi_of_portable {name : String} (h : endsWith name "-portable.zip" = true) :
    endsWith name ".msi" = false := by
  rw [endsWith, List.isSuffixOf_iff_suffix] at h
  rw [endsWith, Bool.eq_false_iff]
  intro h'
  have hsuffix := List.isSuffixOf_iff_suffix.mp h'
  have := List.suffix_of_suffix_length_le hsuffix h (by decide)
  exact absurd (List.isSuffixOf_iff_suffix.mpr this) (by decide)

theorem lastUrl_append (p : String → Bool) (assets : List Asset) (asset : Asset) :
    lastUrl p (assets ++ [asset]) =
      if p (asset.name.get "") then asset.browserDownloadUrl.get "" else lastUrl p assets := by
  rw [lastUrl, List.reverse_append, List.reverse_singleton, List.singleton_append, List.find?_cons]
  cases p (asset.name.get "") <;> rfl

/-- The URLs that a list of assets leaves. -/
def urlsOf (assets : List Asset) : AssetUrls where
  manifestUrl := lastUrl manifestName assets
  signatureUrl := lastUrl signatureName assets
  portableUrl := lastUrl (endsWith · "-portable.zip") assets
  installerUrl := lastUrl (endsWith · ".msi") assets

theorem read_urlsOf {assets : List Asset} {asset : Asset} {urls : AssetUrls}
    (h : (urlsOf assets).read asset = .ok urls) : urls = urlsOf (assets ++ [asset]) := by
  obtain ⟨name, hname, h⟩ := bind_ok_iff.mp h
  obtain ⟨url, hurl, h⟩ := bind_ok_iff.mp h
  rw [urlsOf, lastUrl_append, lastUrl_append, lastUrl_append, lastUrl_append,
    ← Field.value_ok hname, ← Field.value_ok hurl]
  by_cases hsig : name = "update-manifest.json.sig"
  · subst hsig
    exact (Except.ok.inj h).symm
  by_cases hmanifest : name = "update-manifest.json"
  · subst hmanifest
    exact (Except.ok.inj h).symm
  rw [if_neg hsig, if_neg hmanifest] at h
  have hnames : manifestName name = false ∧ signatureName name = false :=
    ⟨decide_eq_false hmanifest, decide_eq_false hsig⟩
  rw [hnames.1, hnames.2]
  by_cases hportable : endsWith name "-portable.zip" = true
  · rw [if_pos hportable] at h
    rw [hportable, not_msi_of_portable hportable]
    exact (Except.ok.inj h).symm
  rw [if_neg hportable] at h
  rw [if_neg hportable]
  by_cases hmsi : endsWith name ".msi" = true
  · rw [if_pos hmsi] at h
    rw [hmsi]
    exact (Except.ok.inj h).symm
  · rw [if_neg hmsi] at h
    rw [if_neg hmsi]
    exact (Except.ok.inj h).symm

theorem foldlM_urls {assets : List Asset} {urls : AssetUrls}
    (h : assets.foldlM AssetUrls.read {} = .ok urls) : urls = urlsOf assets := by
  induction assets using List.reverseRecOn generalizing urls with
  | nil => exact (Except.ok.inj h).symm
  | append_singleton assets asset ih =>
      rw [List.foldlM_append] at h
      obtain ⟨urls', hurls, h⟩ := bind_ok_iff.mp h
      obtain rfl := ih hurls
      rw [List.foldlM_cons] at h
      obtain ⟨urls'', hread, h⟩ := bind_ok_iff.mp h
      obtain rfl := Except.ok.inj h
      exact read_urlsOf hread

/-- What qualifies of a release, where every field reads as its value. -/
def candidate (channel : UpdateChannel) (rel : Release) : Option LocatedRelease :=
  if rel.isDraft = false ∧ rel.isPrerelease = decide (channel = .preview) ∧
      lastUrl manifestName rel.assetList ≠ "" ∧ lastUrl signatureName rel.assetList ≠ "" then
    (tagToSemVer rel.tag).map (located rel)
  else none

theorem candidate_eq_some {channel : UpdateChannel} {rel : Release} {found : LocatedRelease} :
    candidate channel rel = some found ↔
      Qualifies channel rel found.version ∧ found = located rel found.version := by
  rw [candidate]
  constructor
  · intro h
    split_ifs at h with hall
    obtain ⟨version, htag, rfl⟩ := Option.map_eq_some_iff.mp h
    exact ⟨⟨hall.1, hall.2.1, htag, hall.2.2.1, hall.2.2.2⟩, rfl⟩
  · rintro ⟨h, hfound⟩
    rw [if_pos ⟨h.draft, h.channel, h.manifest, h.signature⟩, h.tag, Option.map_some, ← hfound]

theorem qualifying_ok {channel : UpdateChannel} {rel : Release} {answer : Option LocatedRelease}
    (h : qualifying channel rel = .ok answer) :
    answer.map (fun found => { found with releasesPageUrl := rel.htmlUrl.get "" }) =
      candidate channel rel := by
  obtain ⟨isPrerelease, hprerelease, h⟩ := bind_ok_iff.mp h
  obtain ⟨isDraft, hdraft, h⟩ := bind_ok_iff.mp h
  obtain rfl : isPrerelease = rel.isPrerelease := Field.value_ok hprerelease
  obtain rfl : isDraft = rel.isDraft := Field.value_ok hdraft
  rw [candidate]
  cases hdraft : rel.isDraft with
  | true =>
      rw [hdraft] at h
      obtain rfl := Except.ok.inj h
      rw [if_neg fun hall => Bool.noConfusion hall.1]
      rfl
  | false =>
      rw [hdraft, if_neg Bool.false_ne_true] at h
      dsimp only at h
      have hmatch : (if channel = .preview then rel.isPrerelease else !rel.isPrerelease) =
          decide (rel.isPrerelease = decide (channel = .preview)) := by
        cases channel <;> cases rel.isPrerelease <;> rfl
      rw [hmatch] at h
      by_cases hchannel : rel.isPrerelease = decide (channel = .preview)
      · rw [decide_eq_true hchannel, Bool.not_true, if_neg Bool.false_ne_true] at h
        obtain ⟨tag, htag, h⟩ := bind_ok_iff.mp h
        obtain rfl : tag = rel.tag := Field.value_ok htag
        cases hversion : tagToSemVer rel.tag with
        | none =>
            rw [hversion] at h
            obtain rfl := Except.ok.inj h
            exact (ite_self none).symm
        | some version =>
            rw [hversion] at h
            obtain ⟨assets, hassets, h⟩ := bind_ok_iff.mp h
            obtain ⟨urls, hurls, h⟩ := bind_ok_iff.mp h
            obtain rfl := foldlM_urls hurls
            have hlist : rel.assetList = assets := by
              rw [Release.assetList, hassets]
              rfl
            rw [hlist]
            by_cases hboth : lastUrl manifestName assets ≠ "" ∧ lastUrl signatureName assets ≠ ""
            · have hpresent : ((urlsOf assets).manifestUrl.isEmpty ||
                  (urlsOf assets).signatureUrl.isEmpty) = false := by
                rw [Bool.or_eq_false_iff, String.isEmpty_eq_false_iff, String.isEmpty_eq_false_iff]
                exact hboth
              rw [hpresent, if_neg Bool.false_ne_true] at h
              obtain rfl := Except.ok.inj h
              rw [if_pos ⟨rfl, hchannel, hboth⟩]
              unfold located
              rw [hlist]
              rfl
            · have habsent : ((urlsOf assets).manifestUrl.isEmpty ||
                  (urlsOf assets).signatureUrl.isEmpty) = true := by
                rw [Bool.or_eq_true, String.isEmpty_iff, String.isEmpty_iff]
                exact not_and_or.mp hboth |>.imp not_not.mp not_not.mp
              rw [habsent] at h
              obtain rfl := Except.ok.inj h
              rw [if_neg fun hall => hboth hall.2.2]
              rfl
      · rw [decide_eq_false hchannel] at h
        obtain rfl := Except.ok.inj h
        rw [if_neg fun hall => hchannel hall.2.1]
        rfl

/-! ## The loop -/

def newest (found : LocatedRelease) : Nat := found.version.rank

theorem newest_located (rel : Release) (version : SemVer) :
    newest (located rel version) = version.rank := rfl

theorem newest_eq (found : LocatedRelease) : newest found = found.version.rank := rfl

theorem locateStep_ok {channel : UpdateChannel} {best : Option LocatedRelease} {rel : Release}
    {out : Option LocatedRelease} (h : locateStep channel best rel = .ok out) :
    out = match candidate channel rel with
      | some found => List.argAux (fun b c => newest c < newest b) best found
      | none => best := by
  obtain ⟨answer, hanswer, h⟩ := bind_ok_iff.mp h
  rw [← qualifying_ok hanswer]
  cases answer with
  | none => exact (Except.ok.inj h).symm
  | some found =>
      dsimp only [Option.map_some] at h ⊢
      cases best with
      | none =>
          obtain ⟨page, hpage, h⟩ := bind_ok_iff.mp h
          obtain rfl : page = rel.htmlUrl.get "" := Field.value_ok hpage
          exact (Except.ok.inj h).symm
      | some best =>
          by_cases hnewer : best.version.lt found.version = true
          · have hall : (some best).all (·.version.lt found.version) = true := hnewer
            rw [if_pos hall] at h
            obtain ⟨page, hpage, h⟩ := bind_ok_iff.mp h
            obtain rfl : page = rel.htmlUrl.get "" := Field.value_ok hpage
            obtain rfl := Except.ok.inj h
            exact (if_pos ((SemVer.lt_iff_rank _ _).mp hnewer)).symm
          · have hall : ¬ (some best).all (·.version.lt found.version) = true := hnewer
            rw [if_neg hall] at h
            obtain rfl := Except.ok.inj h
            exact (if_neg fun hlt => hnewer ((SemVer.lt_iff_rank _ _).mpr hlt)).symm

theorem locateFold_ok {channel : UpdateChannel} {releases : List Release}
    {out : Option LocatedRelease}
    (h : releases.foldlM (locateStep channel) none = .ok out) :
    out = (releases.filterMap (candidate channel)).argmax newest := by
  rw [foldlM_eq_foldl locateStep_ok h, List.argmax, List.foldl_filterMap]
  congr 1
  funext best rel
  cases candidate channel rel <;> rfl

/-- The answer for a feed: none where nothing qualifies, and else the first of the newest that do. -/
structure Selected (channel : UpdateChannel) (releases : List Release)
    (answer : Option LocatedRelease) : Prop where
  none_iff : answer = none ↔ ∀ rel ∈ releases, ∀ version, ¬ Qualifies channel rel version
  first : ∀ best, answer = some best → ∃ before rel after, releases = before ++ rel :: after ∧
    Qualifies channel rel best.version ∧ best = located rel best.version ∧
    (∀ other ∈ before, ∀ version, Qualifies channel other version →
      version.lt best.version = true) ∧
    ∀ other ∈ after, ∀ version, Qualifies channel other version →
      best.version.lt version = false

theorem candidate_of_qualifies {channel : UpdateChannel} {rel : Release} {version : SemVer}
    (h : Qualifies channel rel version) : candidate channel rel = some (located rel version) :=
  candidate_eq_some.mpr ⟨h, rfl⟩

theorem selected_argmax (channel : UpdateChannel) (releases : List Release) :
    Selected channel releases ((releases.filterMap (candidate channel)).argmax newest) where
  none_iff := by
    rw [List.argmax_eq_none, List.filterMap_eq_nil_iff]
    constructor
    · intro h rel hrel version hqualifies
      have hnone := h rel hrel
      rw [candidate_of_qualifies hqualifies] at hnone
      exact Option.some_ne_none _ hnone
    · intro h rel hrel
      rw [Option.eq_none_iff_forall_ne_some]
      intro found hfound
      exact h rel hrel _ (candidate_eq_some.mp hfound).1
  first := by
    intro best hbest
    obtain ⟨before, rel, after, hsplit, hrel, hbefore, hafter⟩ := FirstMaximum.of_mem_argmax hbest
    obtain ⟨hqualifies, hlocated⟩ := candidate_eq_some.mp hrel
    refine ⟨before, rel, after, hsplit, hqualifies, hlocated, fun other hother version hv => ?_,
      fun other hother version hv => ?_⟩
    · have hlt := hbefore other hother _ (candidate_of_qualifies hv)
      rw [newest_located, newest_eq] at hlt
      exact (SemVer.lt_iff_rank _ _).mpr hlt
    · have hle := hafter other hother _ (candidate_of_qualifies hv)
      rw [newest_located, newest_eq] at hle
      rw [Bool.eq_false_iff]
      exact fun hlt => absurd ((SemVer.lt_iff_rank _ _).mp hlt) (not_lt.mpr hle)

/-! ## Feeds whose fields have their types -/

theorem exists_urls_ok {assets : List Asset}
    (h : ∀ asset ∈ assets, asset.name.Readable ∧ asset.browserDownloadUrl.Readable) :
    ∃ urls, assets.foldlM AssetUrls.read {} = .ok urls := by
  refine exists_foldlM_ok (fun asset hasset urls => ?_) _
  obtain ⟨hname, hurl⟩ := h asset hasset
  rw [AssetUrls.read, hname.value, ok_bind, hurl.value, ok_bind]
  split_ifs <;> exact ⟨_, rfl⟩

theorem exists_qualifying_ok (channel : UpdateChannel) {rel : Release} (h : rel.Readable) :
    ∃ answer, qualifying channel rel = .ok answer := by
  obtain ⟨assets, hassets, hread⟩ := h.assets
  obtain ⟨urls, hurls⟩ := exists_urls_ok hread
  rw [qualifying, h.prerelease.value, ok_bind, h.draft.value, ok_bind, h.tagName.value, ok_bind,
    hassets]
  dsimp only
  generalize (if channel = .preview then rel.prerelease.get false
    else !rel.prerelease.get false) = channelMatch
  split_ifs
  · exact ⟨_, rfl⟩
  · exact ⟨_, rfl⟩
  · cases tagToSemVer (rel.tagName.get "") with
    | none => exact ⟨_, rfl⟩
    | some version =>
        dsimp only
        rw [ok_bind, hurls, ok_bind]
        split_ifs <;> exact ⟨_, rfl⟩

theorem exists_locateStep_ok (channel : UpdateChannel) (best : Option LocatedRelease)
    {rel : Release} (h : rel.Readable) : ∃ out, locateStep channel best rel = .ok out := by
  obtain ⟨answer, hanswer⟩ := exists_qualifying_ok channel h
  rw [locateStep, hanswer, ok_bind]
  cases answer with
  | none => exact ⟨_, rfl⟩
  | some found =>
      dsimp only
      rw [h.htmlUrl.value, ok_bind]
      split_ifs <;> exact ⟨_, rfl⟩

/-! ## The answer -/

theorem locateRelease_ok {releases : List Release} {channel : UpdateChannel}
    {out : Option LocatedRelease}
    (h : releases.foldlM (locateStep channel) none = .ok out) :
    locateRelease (.ok releases) channel = (out, none) := by
  have hbind : (Except.ok releases : Except String (List Release)).bind
      (List.foldlM (locateStep channel) none) = .ok out := h
  rw [locateRelease, hbind]

/-- Either the loop raises something, which it does only where a field has another type, or the
    answer is the one for the feed. -/
theorem locateRelease_spec (releases : List Release) (channel : UpdateChannel) :
    ((∃ message, locateRelease (.ok releases) channel = (none, some message)) ∧
        ∃ rel ∈ releases, ¬ rel.Readable) ∨
      ∃ answer, locateRelease (.ok releases) channel = (answer, none) ∧
        Selected channel releases answer := by
  cases h : releases.foldlM (locateStep channel) none with
  | error what =>
      refine .inl ⟨⟨"JSON parse error: " ++ what, ?_⟩, ?_⟩
      · have hbind : (Except.ok releases : Except String (List Release)).bind
            (List.foldlM (locateStep channel) none) = .error what := h
        rw [locateRelease, hbind]
      · by_contra hall
        push Not at hall
        obtain ⟨out, hout⟩ := exists_foldlM_ok
          (fun rel hrel best => exists_locateStep_ok channel best (hall rel hrel)) none
        exact nomatch hout.symm.trans h
  | ok out =>
      refine .inr ⟨out, locateRelease_ok h, ?_⟩
      rw [locateFold_ok h]
      exact selected_argmax channel releases

theorem decideOffer_update (version : SemVer) (raw : String) (params : CheckParams) :
    decideOffer version raw params = .update ↔ params.currentVersion.lt version = true := by
  rw [decideOffer]
  constructor
  · intro h
    by_contra hnew
    rw [if_neg hnew] at h
    split_ifs at h
  · intro h
    rw [if_pos h]

/-! ## The notes -/

theorem SemVer.strictWeak_newerFirst : StrictWeak newerFirst where
  irrefl a := by
    rw [newerFirst, Bool.eq_false_iff, ne_eq, lt_iff_rank]
    exact Nat.lt_irrefl _
  trans a b c := by
    rw [newerFirst, newerFirst, newerFirst, lt_iff_rank, lt_iff_rank, lt_iff_rank]
    exact fun hab hbc => Nat.lt_trans hbc hab
  notLess a b c := by
    rw [newerFirst, newerFirst, newerFirst, Bool.eq_false_iff, Bool.eq_false_iff, Bool.eq_false_iff,
      ne_eq, ne_eq, ne_eq, lt_iff_rank, lt_iff_rank, lt_iff_rank]
    omega

/-- The note of a release that the channel shows, with a version in range. -/
def noteFor (channel : UpdateChannel) (inRange : SemVer → Bool) (rel : Release) :
    Option ReleaseNote :=
  if rel.isDraft = false ∧ (channel = .preview ∨ rel.isPrerelease = false) then
    ((tagToSemVer rel.tag).filter inRange).map fun version =>
      { version := version, bodyMarkdown := rel.body.get "", htmlUrl := rel.htmlUrl.get "" }
  else none

theorem noteOf_ok {channel : UpdateChannel} {inRange : SemVer → Bool} {rel : Release}
    {out : Option ReleaseNote} (h : noteOf channel inRange rel = .ok out) :
    out = noteFor channel inRange rel := by
  obtain ⟨isDraft, hdraft, h⟩ := bind_ok_iff.mp h
  obtain rfl : isDraft = rel.isDraft := Field.value_ok hdraft
  rw [noteFor]
  cases hdraft : rel.isDraft with
  | true =>
      rw [hdraft] at h
      obtain rfl := Except.ok.inj h
      exact (if_neg fun hall => Bool.noConfusion hall.1).symm
  | false =>
      rw [hdraft, if_neg Bool.false_ne_true] at h
      obtain ⟨isPrerelease, hprerelease, h⟩ := bind_ok_iff.mp h
      obtain rfl : isPrerelease = rel.isPrerelease := Field.value_ok hprerelease
      have hhidden : (decide (channel ≠ .preview) && rel.isPrerelease) =
          decide (¬ (channel = .preview ∨ rel.isPrerelease = false)) := by
        cases channel <;> cases rel.isPrerelease <;> rfl
      rw [hhidden] at h
      by_cases hshown : channel = .preview ∨ rel.isPrerelease = false
      · rw [decide_eq_false (not_not.mpr hshown), if_neg Bool.false_ne_true] at h
        rw [if_pos ⟨rfl, hshown⟩]
        obtain ⟨tag, htag, h⟩ := bind_ok_iff.mp h
        obtain rfl : tag = rel.tag := Field.value_ok htag
        cases hversion : tagToSemVer rel.tag with
        | none =>
            rw [hversion] at h
            exact (Except.ok.inj h).symm
        | some version =>
            rw [hversion] at h
            dsimp only at h
            cases hrange : inRange version with
            | false =>
                rw [hrange] at h
                obtain rfl := Except.ok.inj h
                rw [Option.filter_some_neg hrange]
                rfl
            | true =>
                rw [hrange, Bool.not_true, if_neg Bool.false_ne_true] at h
                obtain ⟨body, hbody, h⟩ := bind_ok_iff.mp h
                obtain ⟨page, hpage, h⟩ := bind_ok_iff.mp h
                obtain rfl : body = rel.body.get "" := Field.value_ok hbody
                obtain rfl : page = rel.htmlUrl.get "" := Field.value_ok hpage
                obtain rfl := Except.ok.inj h
                rw [Option.filter_some_pos hrange]
                rfl
      · rw [decide_eq_true hshown] at h
        obtain rfl := Except.ok.inj h
        exact (if_neg fun hall => hshown hall.2).symm

theorem exists_noteOf_ok (channel : UpdateChannel) (inRange : SemVer → Bool) {rel : Release}
    (h : rel.Readable) : ∃ out, noteOf channel inRange rel = .ok out := by
  rw [noteOf, h.draft.value, ok_bind, h.prerelease.value, ok_bind, h.tagName.value, ok_bind]
  split_ifs
  · exact ⟨_, rfl⟩
  · exact ⟨_, rfl⟩
  · cases tagToSemVer (rel.tagName.get "") with
    | none => exact ⟨_, rfl⟩
    | some version =>
        dsimp only
        rw [h.body.value, ok_bind, h.htmlUrl.value, ok_bind]
        split_ifs <;> exact ⟨_, rfl⟩

/-- The notes shown: those of the releases in range, each once, newest first. -/
structure Shown (channel : UpdateChannel) (inRange : SemVer → Bool) (releases : List Release)
    (notes : List ReleaseNote) : Prop where
  perm : notes.Perm (releases.filterMap (noteFor channel inRange))
  newestFirst : notes.Pairwise fun a b => a.version.lt b.version = false

theorem notes_spec (std : StdSort) (releases : List Release) (channel : UpdateChannel)
    (inRange : SemVer → Bool) :
    (collectNotesMatching std (.ok releases) channel inRange = [] ∧
        ∃ rel ∈ releases, ¬ rel.Readable) ∨
      Shown channel inRange releases (collectNotesMatching std (.ok releases) channel inRange) := by
  cases h : releases.mapM (noteOf channel inRange) with
  | error what =>
      have hbind : (Except.ok releases : Except String (List Release)).bind
          (List.mapM (noteOf channel inRange)) = .error what := h
      refine .inl ⟨by rw [collectNotesMatching, hbind], ?_⟩
      by_contra hall
      push Not at hall
      obtain ⟨out, hout⟩ := exists_mapM_ok
        (fun rel hrel => exists_noteOf_ok channel inRange (hall rel hrel))
      exact nomatch hout.symm.trans h
  | ok out =>
      have hbind : (Except.ok releases : Except String (List Release)).bind
          (List.mapM (noteOf channel inRange)) = .ok out := h
      have hout : out.reduceOption = releases.filterMap (noteFor channel inRange) := by
        rw [mapM_eq_map noteOf_ok h, List.reduceOption, List.filterMap_map]
        rfl
      refine .inr ⟨?_, ?_⟩
      · rw [collectNotesMatching, hbind, ← hout]
        exact std.perm _ SemVer.strictWeak_newerFirst
      · rw [collectNotesMatching, hbind]
        exact (std.ordered _ SemVer.strictWeak_newerFirst).imp fun h => h

/-- What stands for `above < v && v <= upTo`. -/
def inGap (above upTo v : SemVer) : Bool := above.lt v && !upTo.lt v

theorem gapNotes_spec (std : StdSort) (releases : List Release) (best : LocatedRelease)
    (channel : UpdateChannel) (params : CheckParams) :
    let gapNotes := (buildCheckResult std (.ok releases) (some best) channel params).gapNotes
    (gapNotes = [] ∧ ∃ rel ∈ releases, ¬ rel.Readable) ∨
      Shown channel (inGap params.currentVersion best.version) releases gapNotes := by
  dsimp only
  by_cases hnew : params.currentVersion.lt best.version = true
  · have hupdate := (decideOffer_update best.version best.versionTag params).mpr hnew
    have hgap : (buildCheckResult std (.ok releases) (some best) channel params).gapNotes =
        collectNotesMatching std (.ok releases) channel
          (inGap params.currentVersion best.version) := by
      simp only [buildCheckResult, hupdate, reduceCtorEq, if_false, if_true]
      rfl
    rw [hgap]
    exact notes_spec std releases channel _
  · -- nothing is newer than the current version and not newer than the release
    have hempty : releases.filterMap (noteFor channel
        (inGap params.currentVersion best.version)) = [] := by
      rw [List.filterMap_eq_nil_iff]
      intro rel _
      have hnone : ∀ v, inGap params.currentVersion best.version v = false := by
        intro v
        rw [SemVer.lt_iff_rank] at hnew
        rw [inGap, Bool.eq_false_iff]
        intro hgap
        obtain ⟨habove, hupTo⟩ := Bool.and_eq_true_iff.mp hgap
        rw [Bool.not_eq_true', Bool.eq_false_iff, ne_eq, SemVer.lt_iff_rank] at hupTo
        rw [SemVer.lt_iff_rank] at habove
        omega
      rw [noteFor]
      split_ifs
      · cases tagToSemVer rel.tag with
        | none => rfl
        | some v => rw [Option.filter_some_neg (hnone v), Option.map_none]
      · rfl
    have hgap : (buildCheckResult std (.ok releases) (some best) channel params).gapNotes = [] := by
      have hnot : decideOffer best.version best.versionTag params ≠ .update :=
        fun h => hnew ((decideOffer_update _ _ _).mp h)
      simp only [buildCheckResult, if_neg hnot]
      split_ifs <;> rfl
    rw [hgap]
    exact .inr ⟨hempty ▸ List.Perm.refl _, List.Pairwise.nil⟩

/-! ## The choice of a release -/

/-- The versions are strictly ordered, those of the parser totally, and these are read back. -/
structure VersionOrder : Prop where
  irrefl : ∀ v : SemVer, v.lt v = false
  trans : ∀ a b c : SemVer, a.lt b = true → b.lt c = true → a.lt c = true
  total : ∀ a b : SemVer, Parsed a → Parsed b → a.lt b = true ∨ a = b ∨ b.lt a = true
  readBack : ∀ v : SemVer, Parsed v → parseSemVer v.toString = some v

theorem versionOrder : VersionOrder where
  irrefl v := by
    rw [Bool.eq_false_iff, ne_eq, SemVer.lt_iff_rank]
    exact Nat.lt_irrefl _
  trans a b c := by
    rw [SemVer.lt_iff_rank, SemVer.lt_iff_rank, SemVer.lt_iff_rank]
    exact Nat.lt_trans
  total a b ha hb := by
    rw [SemVer.lt_iff_rank, SemVer.lt_iff_rank]
    rcases Nat.lt_trichotomy a.rank b.rank with h | h | h
    · exact .inl h
    · exact .inr (.inl (SemVer.rank_inj ((parsed_iff a).mp ha) ((parsed_iff b).mp hb) h))
    · exact .inr (.inr h)
  readBack v hv := parse_toString ((parsed_iff v).mp hv)

/-- A sort that leaves equal elements in their order. -/
def StdSort.insertion : StdSort where
  sort less l := l.insertionSort fun a b => less b a = false
  perm l _ := List.perm_insertionSort _ l
  ordered {α less} l h := by
    have htrans : IsTrans α fun a b => less b a = false :=
      ⟨fun a b c hab hbc => h.notLess c b a hbc hab⟩
    have htotal : Std.Total fun a b : α => less b a = false := ⟨fun a b => by
      by_contra hboth
      rw [not_or, Bool.not_eq_false, Bool.not_eq_false] at hboth
      exact Bool.noConfusion ((h.irrefl b).symm.trans (h.trans b a b hboth.1 hboth.2))⟩
    exact List.pairwise_insertionSort _ l

/-- Two releases above 1.0.0: a draft of 1.1.0 and 1.2.0. -/
def draftBelow : List Release :=
  let url (s : String) : Asset := ⟨.ok (some s), .ok (some s)⟩
  [⟨.ok none, .ok (some true), .ok (some "v1.1.0"), .ok [], .ok none, .ok none⟩,
    ⟨.ok none, .ok none, .ok (some "v1.2.0"),
      .ok [url "update-manifest.json", url "update-manifest.json.sig"], .ok none, .ok none⟩]

end Exosnap.Update
