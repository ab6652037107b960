/-
  What is installed is verified: over every sequence of calls on one worker, what a swap or an
  elevated msiexec consumes, and what it was checked against.

  The worker keeps the manifest, the package and its lock in members of their own, and a second
  download that fails half-way can leave them of different attempts. `Trusted` is what they promise
  between two calls. It carries as long as a deletion of the staging directory leaves no
  `exosnap.exe` that was not verified, no package is extracted without its lock, and no package is
  locked once more for a manifest that it is not of (`Clear`).
-/
import Exosnap.Update.SwapSteps
import Exosnap.Updater.WorkerRuns

namespace Exosnap.Updater

open Exosnap.Update Journaled Guarded

variable {π : Type} (c : Context π)

/-! ## What is promised -/

/-- A manifest that was parsed from signed bytes and passed the version gates. -/
structure Accepted (m : UpdateManifest) : Prop where
  signed : ∃ manifestJson signatureHex,
    c.platform.verifySignature manifestJson signatureHex = true ∧
      parseManifest (c.platform.readJson manifestJson) = .ok m
  target : c.args.targetVersion ≠ "" → m.versionRaw = c.args.targetVersion
  noDowngrade : isDowngrade m ((parseSemVer c.args.currentVersion).getD {}) = false
  reinstall : verificationReinstallAccepts c.args.verifyReinstall m.versionRaw
    c.args.currentVersion = true

/-- A digest is the one that the manifest has for the package of this install mode. -/
def Selected (m : UpdateManifest) (sha256 : String) : Prop :=
  ∃ package ∈ selectPackage m c.args.installMode, hexEqualNoCase sha256 package.sha256Hex = true

/-- The latest extraction was of this package, under the lock through which it had been hashed. -/
def Extracted (w : World π) (package : π) : Prop :=
  ∃ staged ∈ w.staged, staged.package = package ∧ ∃ lock ∈ staged.lock, lock.bytes = package ∧
    Selected c w.manifest (c.platform.sha256 package)

/-- The executable in staging, if there is one, is of a package extracted so. -/
def StagedVerified (w : World π) : Prop :=
  ∀ exe ∈ w.disk.staging.exe, Extracted c w exe

/-- What an entry promises: at a swap, of the package in staging, and at msiexec, of the package
    at the path that it is given. -/
def Justified (e : Entry π) : Prop :=
  match e.event with
  | .stageRename =>
      Accepted c e.world.manifest ∧ e.world.disk.staging.exe.isSome ∧ StagedVerified c e.world
  | .msiexec =>
      Accepted c e.world.manifest ∧ ∃ lock ∈ e.world.lockedPackage,
        lock.path = e.world.packagePath ∧ Selected c e.world.manifest (c.platform.sha256 lock.bytes)
  | _ => True

/-- What is assumed of the entries before. -/
def Clear (e : Entry π) : Prop :=
  match e.event with
  | .wiped => StagedVerified c e.world
  | .extracting => e.world.lockedPackage.isSome
  | .relocking => Selected c e.world.manifest e.world.packageSha256
  | _ => True

section
variable [DecidableEq π]

instance (m : UpdateManifest) (sha256 : String) : Decidable (Selected c m sha256) :=
  inferInstanceAs (Decidable (∃ package ∈ selectPackage m c.args.installMode,
    hexEqualNoCase sha256 package.sha256Hex = true))

instance (w : World π) (package : π) : Decidable (Extracted c w package) :=
  inferInstanceAs (Decidable (∃ staged ∈ w.staged, staged.package = package ∧
    ∃ lock ∈ staged.lock, lock.bytes = package ∧
      Selected c w.manifest (c.platform.sha256 package)))

instance (w : World π) : Decidable (StagedVerified c w) :=
  inferInstanceAs (Decidable (∀ exe ∈ w.disk.staging.exe, Extracted c w exe))

instance (e : Entry π) : Decidable (Clear c e) :=
  match e with
  | ⟨.wiped, w⟩ => inferInstanceAs (Decidable (StagedVerified c w))
  | ⟨.extracting, w⟩ => inferInstanceAs (Decidable (w.lockedPackage.isSome = true))
  | ⟨.relocking, w⟩ => inferInstanceAs (Decidable (Selected c w.manifest w.packageSha256))
  | ⟨.fsStep, _⟩ | ⟨.signal _, _⟩ | ⟨.entering _, _⟩ | ⟨.repaired, _⟩ | ⟨.stageRename, _⟩
  | ⟨.msiexec, _⟩ => isTrue trivial

end

/-! ## Between two steps -/

/-- The lock is on the package, which is verified. -/
def Locked (w : World π) : Prop :=
  ∀ lock ∈ w.lockedPackage,
    lock.path = w.packagePath ∧ Selected c w.manifest (c.platform.sha256 lock.bytes)

/-- A package is there, whatever is in staging. -/
structure Fetched (w : World π) : Prop where
  havePackage : w.havePackage = true
  accepted : Accepted c w.manifest
  locked : Locked c w

structure Trusted (w : World π) : Prop where
  accepted : w.havePackage = true → Accepted c w.manifest
  locked : Locked c w
  staged : c.portable = true → w.havePackage = true → StagedVerified c w

/-- Between two steps of a pipeline that has a package. -/
structure Ready (w : World π) : Prop extends Fetched c w where
  staged : c.portable = true → StagedVerified c w

variable {c} {w : World π}

theorem Ready.trusted (h : Ready c w) : Trusted c w :=
  ⟨fun _ => h.accepted, h.locked, fun hportable _ => h.staged hportable⟩

theorem Trusted.ready (h : Trusted c w) (hpackage : w.havePackage = true) : Ready c w :=
  ⟨⟨hpackage, h.accepted hpackage, h.locked⟩, fun hportable => h.staged hportable hpackage⟩

/-- Without a lock and without a package nothing is promised. -/
theorem Trusted.without (h : w.havePackage = false) (hlock : Locked c w) : Trusted c w :=
  ⟨fun ht => absurd (ht.symm.trans h) Bool.noConfusion, hlock,
    fun _ ht => absurd (ht.symm.trans h) Bool.noConfusion⟩

theorem Locked.unlocked (h : w.lockedPackage = none) : Locked c w :=
  fun _ hlock => absurd (h.symm.trans hlock) nofun

theorem StagedVerified.of_none (h : w.disk.staging.exe = none) : StagedVerified c w :=
  fun _ hexe => absurd (h.symm.trans hexe) nofun

/-- What the session does to staging: it leaves it, or shrinks it. -/
theorem StagedVerified.shrinks {s : Session π} (h : StagedVerified c w)
    (hs : w.disk.staging.Shrinks s.disk.staging) :
    StagedVerified c { w with toSession := s } := by
  intro exe hexe
  rcases hs with hsame | ⟨_, hnone | hsame⟩
  · exact h exe (hsame ▸ hexe)
  · exact absurd (hnone.symm.trans hexe) nofun
  · exact h exe (hsame.symm.trans hexe)

theorem Fetched.session (h : Fetched c w) (s : Session π) : Fetched c { w with toSession := s } :=
  ⟨h.havePackage, h.accepted, h.locked⟩

theorem Ready.shrinks {s : Session π} (h : Ready c w)
    (hs : w.disk.staging.Shrinks s.disk.staging) : Ready c { w with toSession := s } :=
  ⟨h.toFetched.session s, fun hportable => (h.staged hportable).shrinks hs⟩

theorem Trusted.shrinks {s : Session π} (h : Trusted c w)
    (hs : w.disk.staging.Shrinks s.disk.staging) : Trusted c { w with toSession := s } :=
  ⟨h.accepted, h.locked, fun hportable hpackage => (h.staged hportable hpackage).shrinks hs⟩

theorem justified_signal (s : Signal) : Justified c ⟨.signal s, w⟩ := trivial

theorem Trusted.ambient : Ambient (Justified c) (Trusted c) where
  asked _ _ h := h.shrinks (.inl rfl)
  releases _ _ h := ⟨h.accepted, h.locked, h.staged⟩
  release _ _ h := ⟨h.accepted, h.locked, h.staged⟩
  signal _ _ _ _ := trivial

theorem Ready.ambient : Ambient (Justified c) (Ready c) where
  asked _ _ h := h.shrinks (.inl rfl)
  releases _ _ h := ⟨⟨h.havePackage, h.accepted, h.locked⟩, h.staged⟩
  release _ _ h := ⟨⟨h.havePackage, h.accepted, h.locked⟩, h.staged⟩
  signal _ _ _ _ := trivial

/-! ## Lock, extraction and staging -/

theorem hexEqualNoCase_trans {a b d : String} (hab : hexEqualNoCase a b = true)
    (hbd : hexEqualNoCase b d = true) : hexEqualNoCase a d = true := by
  simp only [hexEqualNoCase, beq_iff_eq] at hab hbd ⊢
  exact hab.trans hbd

section
variable {α β : Type} {post : β → World π → Prop}

/-- Either the lock is gone, or it is on the package that it was asked to verify. -/
theorem lockAndVerifyPackage_runs (expected : String) :
    Runs (Clear c) (Justified c) (c.lockAndVerifyPackage expected) w fun error w' =>
      (error ≠ none ∧ ∃ n, w' = { w with lockedPackage := none, asked := n }) ∨
        (error = none ∧ ∃ n bytes,
          w' = { w with lockedPackage := some ⟨w.packagePath, bytes⟩, asked := n } ∧
            hexEqualNoCase (c.platform.sha256 bytes) expected = true) := by
  refine assign_bind ?_
  have hopen : Runs (Clear c) (Justified c) c.openPackageWriteLock { w with lockedPackage := none }
      fun _ w' => ∃ n, w' = { w with lockedPackage := none, asked := n } :=
    ask_bind (ask_bind (Runs.read_bind (Runs.pure ⟨_, rfl⟩)))
  refine hopen.bind fun opened w' hw' => ?_
  obtain ⟨n, rfl⟩ := hw'
  cases opened with
  | none => exact Runs.pure (.inl ⟨nofun, n, rfl⟩)
  | some bytes =>
    refine assign_bind (ask_bind (Runs.ite (fun hverified => ?_) fun _ => ?_))
    · exact Runs.pure (.inr ⟨rfl, _, bytes, rfl, (Bool.and_eq_true _ _ ▸ hverified).2⟩)
    · exact assign_bind (Runs.pure (.inl ⟨nofun, _, rfl⟩))

theorem removeTree_bind (dir : Dir) {f : Bool → Worker π β}
    (hf : ∀ gone t n, (w.disk.tree dir).Shrinks t → (gone = true → t = .absent) →
      Runs (Clear c) (Justified c) (f gone) { w with disk := w.disk.put dir t, asked := n } post) :
    Runs (Clear c) (Justified c) (onDisk (removeTree c.env.toFileSystem dir) >>= f) w post := by
  refine onDisk_bind (Q := fun _ => True) (fun _ _ => trivial)
    (removeTree_runs (Q := fun _ => True) dir fun _ _ => trivial) fun gone s h => ?_
  obtain ⟨d, n⟩ := s
  obtain ⟨t, hshrinks, rfl, hgone⟩ := h
  exact hf gone t n hshrinks hgone.mp

theorem Extracted.stagedVerified {package : π} (h : Extracted c w package)
    (hexe : w.disk.staging.exe = none ∨ w.disk.staging.exe = some package) :
    StagedVerified c w := by
  intro exe hsome
  rcases hexe with hnone | hpackage
  · exact absurd (hnone.symm.trans hsome) nofun
  · exact Option.some.inj (hpackage.symm.trans hsome) ▸ h

/-- What is extracted, whole or in part, is the package under the lock. -/
theorem extractZip_runs (h : Fetched c w) (hnone : w.disk.staging.exe = none) :
    Runs (Clear c) (Justified c) c.extractZip w fun result w' =>
      Fetched c w' ∧ StagedVerified c w' ∧ ∀ package, result = .ok package →
        Extracted c w' package ∧ w'.disk.staging.exe =
          if c.platform.layout package = .flat then some package else none := by
  refine note_bind trivial fun hlocked => ?_
  obtain ⟨lock, hlock⟩ := Option.isSome_iff_exists.mp hlocked
  replace hlock : w.lockedPackage = some lock := hlock
  obtain ⟨hpath, hselected⟩ := h.locked lock hlock
  have hread : Runs (Clear c) (Justified c) c.readPackage w fun package w' =>
      package = some lock.bytes ∧ ∃ n, w' = { w with asked := n } := by
    refine ask_bind (Runs.read_bind ?_)
    simp only [hlock, hpath, if_true]
    exact Runs.pure ⟨rfl, _, rfl⟩
  refine hread.bind fun package w' hw' => ?_
  obtain ⟨rfl, n, rfl⟩ := hw'
  refine assign_bind (ask_bind ?_)
  have hpartly : ∀ exe, (c.partly lock.bytes exe).exe = none ∨
      (c.partly lock.bytes exe).exe = some lock.bytes := by
    intro exe
    by_cases hfirst : (exe && c.platform.layout lock.bytes == .flat) = true
    · exact .inr (if_pos hfirst)
    · exact .inl (if_neg hfirst)
  have hextracted : ∀ w' : World π, w'.staged = some ⟨lock.bytes, w.lockedPackage⟩ →
      w'.manifest = w.manifest → Extracted c w' lock.bytes :=
    fun w' hstaged hmanifest => ⟨_, hlock ▸ hstaged, rfl, lock, rfl, rfl, hmanifest ▸ hselected⟩
  have hwhole : (if c.platform.layout lock.bytes = .flat then Tree.complete lock.bytes
      else .remnant none).exe =
        if c.platform.layout lock.bytes = .flat then some lock.bytes else none := by
    split
    · rfl
    · rfl
  split
  · exact Runs.pure ⟨⟨h.havePackage, h.accepted, h.locked⟩, .of_none hnone, nofun⟩
  · refine write_bind trivial (Runs.pure ⟨⟨h.havePackage, h.accepted, h.locked⟩, ?_, nofun⟩)
    refine Extracted.stagedVerified (hextracted _ ?_ ?_) (hpartly _)
    · rfl
    · rfl
  · refine write_bind trivial (write_bind trivial (Runs.pure ?_))
    refine ⟨⟨h.havePackage, h.accepted, h.locked⟩, ?_, ?_⟩
    · refine Extracted.stagedVerified (hextracted _ ?_ ?_) ?_
      · rfl
      · rfl
      by_cases hflat : c.platform.layout lock.bytes = .flat
      · exact .inr (hwhole.trans (if_pos hflat))
      · exact .inl (hwhole.trans (if_neg hflat))
    · rintro package hok
      obtain rfl : lock.bytes = package := Except.ok.inj hok
      exact ⟨hextracted _ rfl rfl, hwhole⟩

/-- A hoist either puts the whole package into staging, or leaves nothing that could run there. -/
theorem hoistStagedRoot_runs {package : π} (h : Fetched c w) (hextracted : Extracted c w package)
    (hnone : w.disk.staging.exe = none) :
    Runs (Clear c) (Justified c) (c.hoistStagedRoot package) w fun ok w' =>
      Fetched c w' ∧ Extracted c w' package ∧
        w'.disk.staging.exe = if ok then some package else none := by
  refine removeTree_bind .hoist fun _ _ _ _ _ => ask_bind (Runs.read_bind ?_)
  refine Runs.ite (fun _ => Runs.pure ⟨⟨h.havePackage, h.accepted, h.locked⟩, hextracted, hnone⟩)
    fun _ => ?_
  refine write_bind trivial (removeTree_bind .staging fun gone t _ hshrinks hgone => ?_)
  refine Runs.ite (fun _ => Runs.pure ⟨⟨h.havePackage, h.accepted, h.locked⟩, hextracted, ?_⟩)
    fun hcleared => ?_
  · exact hshrinks.exe_none hnone
  obtain rfl : t = .absent := hgone (by simpa using hcleared)
  refine (onDisk_runs (Q := fun _ => True) (fun _ _ => trivial)
    (renameDirectory_runs (Q := fun _ => True) .hoist .staging rfl rfl trivial)).mono
    fun ok w' hw' => ?_
  obtain ⟨s, ⟨hmoved, hkept⟩, rfl⟩ := hw'
  refine ⟨⟨h.havePackage, h.accepted, h.locked⟩, hextracted, ?_⟩
  show s.disk.staging.exe = _
  cases ok with
  | true => rw [(hmoved rfl).2]; rfl
  | false => rw [hkept rfl]; rfl

theorem Fetched.session_ready {s : Session π} (h : Fetched c w) (hverified : StagedVerified c w)
    (hs : w.disk.staging.Shrinks s.disk.staging) :
    Fetched c { w with toSession := s } ∧ StagedVerified c { w with toSession := s } :=
  ⟨h.session s, hverified.shrinks hs⟩

/-- Where a package is staged, it is verified, and where staging fails, nothing else is there. -/
theorem stagePortablePackage_runs (h : Fetched c w) :
    Runs (Clear c) (Justified c) c.stagePortablePackage w fun error w' =>
      (Fetched c w' ∧ StagedVerified c w') ∧ (error = none → w'.disk.staging.exe.isSome) := by
  refine removeTree_bind .staging fun gone t n _ hgone => ?_
  refine note_bind trivial fun hwiped => Runs.ite (fun _ => ?_) fun hcleared => ?_
  · exact Runs.pure ⟨⟨⟨h.havePackage, h.accepted, h.locked⟩, hwiped⟩, nofun⟩
  obtain rfl : t = .absent := hgone (by simpa using hcleared)
  have hempty : Fetched c { w with disk := w.disk.put .staging .absent, asked := n } :=
    ⟨h.havePackage, h.accepted, h.locked⟩
  refine (extractZip_runs hempty rfl).bind fun result w' hw' => ?_
  obtain ⟨hfetched, hverified, hok⟩ := hw'
  cases result with
  | error e =>
    exact removeTree_bind .staging fun _ _ _ hshrinks _ =>
      Runs.pure ⟨hfetched.session_ready hverified hshrinks, nofun⟩
  | ok package =>
    obtain ⟨hextracted, hexe⟩ := hok package rfl
    dsimp only
    cases hlayout : c.platform.layout package with
    | flat =>
      rw [hlayout, if_pos rfl] at hexe
      exact Runs.pure ⟨⟨hfetched, hverified⟩, fun _ => hexe ▸ rfl⟩
    | wrapped =>
      have hnone : w'.disk.staging.exe = none := by rw [hexe, hlayout]; rfl
      refine (hoistStagedRoot_runs hfetched hextracted hnone).bind fun ok w' hw' => ?_
      obtain ⟨hfetched, hextracted, hexe⟩ := hw'
      refine Runs.ite (fun hmoved => Runs.pure ⟨⟨hfetched, ?_⟩, fun _ => ?_⟩) fun hkept => ?_
      · exact hextracted.stagedVerified (.inr (by rw [hexe, if_pos hmoved]))
      · rw [hexe, if_pos hmoved]
        rfl
      rw [if_neg hkept] at hexe
      refine removeTree_bind .hoist fun _ _ _ _ _ => removeTree_bind .staging fun _ _ _ hshrinks _ =>
        Runs.pure ⟨⟨⟨hfetched.havePackage, hfetched.accepted, hfetched.locked⟩, ?_⟩, nofun⟩
      exact .of_none (hshrinks.exe_none hexe)
    | unusable =>
      exact removeTree_bind .staging fun _ _ _ hshrinks _ =>
        Runs.pure ⟨hfetched.session_ready hverified hshrinks, nofun⟩

/-! ## Download -/

theorem targetVersion_eq {targetVersion manifestVersion : String}
    (h : targetVersionAccepts targetVersion manifestVersion = true) (hpinned : targetVersion ≠ "") :
    manifestVersion = targetVersion := by
  unfold targetVersionAccepts versionsMatchExactly at h
  rw [if_neg (by simpa using hpinned)] at h
  simp only [Bool.and_eq_true, beq_iff_eq] at h
  exact h.2

theorem acceptManifest_accepted {manifestJson signatureHex : String} {m : UpdateManifest}
    (h : c.acceptManifest manifestJson signatureHex = .ok m) : Accepted c m := by
  unfold Context.acceptManifest at h
  split at h
  · exact absurd h nofun
  case isFalse hsigned =>
  split at h
  · exact absurd h nofun
  case h_2 manifest hparsed =>
  split at h
  · exact absurd h nofun
  case isFalse htarget =>
  split at h
  · exact absurd h nofun
  case isFalse hdowngrade =>
  split at h
  · exact absurd h nofun
  case isFalse hreinstall =>
  obtain rfl : manifest = m := Except.ok.inj h
  exact ⟨⟨_, _, by simpa using hsigned, hparsed⟩, targetVersion_eq (by simpa using htarget), by simpa using hdowngrade,
    by simpa using hreinstall⟩

/-- A download has a package if it says so; if not, the promises of the one before it stay. -/
theorem fetchPackage_runs {manifest : UpdateManifest} {package : PackageEntry}
    (haccepted : Accepted c manifest)
    (hpackage : selectPackage manifest c.args.installMode = some package) (h : Trusted c w) :
    Runs (Clear c) (Justified c) (c.fetchPackage manifest package) w fun ok w' =>
      Trusted c w' ∧ (ok = true → w'.havePackage = true) := by
  have hambient : Ambient (Justified c) fun w => Trusted c w ∧ w.lockedPackage = none := {
    asked := fun _ _ h => ⟨h.1.shrinks (.inl rfl), h.2⟩
    releases := fun _ _ h => ⟨⟨h.1.accepted, h.1.locked, h.1.staged⟩, h.2⟩
    release := fun _ _ h => ⟨⟨h.1.accepted, h.1.locked, h.1.staged⟩, h.2⟩
    signal := fun _ _ _ _ => trivial }
  refine assign_bind (ask_bind ?_)
  refine (Context.reportProgress_keeps hambient _ _ ?_).bind fun _ w₁ hw₁ => ask_bind ?_
  · exact ⟨⟨h.accepted, .unlocked rfl, h.staged⟩, rfl⟩
  obtain ⟨h₁, hlock₁⟩ := hw₁
  split
  · refine (Context.abortedByCancel_keeps Trusted.ambient _ ?_).bind fun cancelled w₂ h₂ =>
      Runs.ite (fun _ => Runs.pure ⟨h₂, nofun⟩) fun _ => fail_runs trivial ⟨h₂, nofun⟩
    exact h₁.shrinks (.inl rfl)
  refine assign_bind ((lockAndVerifyPackage_runs package.sha256Hex).bind fun error w₂ hw₂ => ?_)
  rcases hw₂ with ⟨herror, n, rfl⟩ | ⟨rfl, n, bytes, rfl, hhash⟩
  · cases error with
    | none => exact absurd rfl herror
    | some error => exact fail_runs trivial ⟨⟨h₁.accepted, .unlocked rfl, h₁.staged⟩, nofun⟩
  have hfetched : ∀ w₃ : World π, w₃.havePackage = true → w₃.manifest = manifest →
      w₃.lockedPackage = some ⟨w₃.packagePath, bytes⟩ → Fetched c w₃ := by
    intro w₃ hhave hmanifest hlocked
    refine ⟨hhave, hmanifest ▸ haccepted, fun lock hlock => ?_⟩
    obtain rfl := Option.some.inj (hlocked.symm.trans hlock)
    exact ⟨rfl, package, hmanifest ▸ hpackage, hhash⟩
  have hdone : ∀ w : World π, Ready c w →
      Runs (Clear c) (Justified c) Context.fetchPackage.done w fun ok w' =>
        Trusted c w' ∧ (ok = true → w'.havePackage = true) :=
    fun w h => note_bind trivial fun _ => Runs.pure ⟨h.trusted, fun _ => h.havePackage⟩
  refine assign_bind (Runs.ite (fun hportable => ?_) fun hinstalled => ?_)
  · refine assign_bind ((stagePortablePackage_runs (hfetched _ rfl rfl rfl)).bind
      fun error w₃ hw₃ => ?_)
    obtain ⟨⟨h₃, hverified⟩, _⟩ := hw₃
    have hready : Ready c w₃ := ⟨h₃, fun _ => hverified⟩
    split
    · exact assign_bind (fail_runs trivial ⟨.without rfl h₃.locked, nofun⟩)
    · exact fail_runs trivial ⟨hready.trusted, nofun⟩
    · exact hdone w₃ hready
  · exact hdone _ ⟨hfetched _ rfl rfl rfl, fun hportable => absurd hportable hinstalled⟩

theorem fetchAndStage_runs (h : Trusted c w) :
    Runs (Clear c) (Justified c) c.fetchAndStage w fun ok w' =>
      Trusted c w' ∧ (ok = true → w'.havePackage = true) := by
  have hsame : ∀ w : World π, Trusted c w → ∀ n, Trusted c { w with asked := n } :=
    fun w h n => h.shrinks (.inl rfl)
  have hfail : ∀ (w : World π) f detail, Trusted c w →
      Runs (Clear c) (Justified c) (fail f detail) w fun ok w' =>
        Trusted c w' ∧ (ok = true → w'.havePackage = true) :=
    fun w f detail h => fail_runs trivial ⟨h, nofun⟩
  refine Runs.read_bind (Runs.ite (fun _ => hfail _ _ _ h) fun _ => ask_bind ?_)
  refine Runs.ite (fun _ => hfail _ _ _ (hsame w h _)) fun _ => ask_bind ?_
  refine Runs.ite (fun _ => hfail _ _ _ (hsame _ (hsame w h _) _)) fun _ => assign_bind ?_
  refine (Context.readManifestFiles_keeps Trusted.ambient _ ?_).bind fun files w₁ h₁ => ?_
  · exact ⟨h.accepted, h.locked, h.staged⟩
  cases files with
  | none => exact Runs.pure ⟨h₁, nofun⟩
  | some files =>
    dsimp only
    split
    · exact hfail _ _ _ h₁
    case h_2 manifest haccepted =>
    split
    · exact hfail _ _ _ h₁
    · exact fetchPackage_runs (acceptManifest_accepted haccepted) (by assumption) h₁

theorem runDownload_runs (h : Trusted c w) :
    Runs (Clear c) (Justified c) c.runDownload w fun ok w' =>
      Trusted c w' ∧ (ok = true → w'.havePackage = true) := by
  refine note_bind trivial fun _ => Runs.ite (fun _ => fetchAndStage_runs h) fun _ => ?_
  refine (Context.resolveRelease_keeps Trusted.ambient w h).bind fun resolved w₁ h₁ => ?_
  refine Runs.ite (fun _ => Runs.ite (fun _ => fail_runs trivial ⟨h₁, nofun⟩) fun _ =>
    Runs.pure ⟨h₁, nofun⟩) fun _ => ?_
  exact Runs.read_bind (note_bind trivial fun _ => fetchAndStage_runs h₁)

/-! ## Install -/

/-- Ready, and an executable is in staging. -/
def Promotable (c : Context π) (w : World π) : Prop :=
  Ready c w ∧ StagedVerified c w ∧ w.disk.staging.exe.isSome

theorem restage_runs (h : Ready c w) :
    Runs (Clear c) (Justified c) c.restage w fun ok w' =>
      Trusted c w' ∧ (ok = true → Promotable c w') := by
  refine Runs.read_bind ((Context.readPackage_keeps Ready.ambient w h).bind fun kept w₁ h₁ => ?_)
  refine Runs.ite (fun _ => ?_) fun _ => ?_
  · exact assign_bind (fail_runs trivial ⟨.without rfl h₁.locked, nofun⟩)
  refine (stagePortablePackage_runs h₁.toFetched).bind fun error w₂ hw₂ => ?_
  obtain ⟨⟨h₂, hverified⟩, hexe⟩ := hw₂
  have hready : Ready c w₂ := ⟨h₂, fun _ => hverified⟩
  split
  · exact assign_bind (fail_runs trivial ⟨.without rfl h₂.locked, nofun⟩)
  · exact fail_runs trivial ⟨hready.trusted, nofun⟩
  · exact Runs.pure ⟨hready.trusted, fun _ => ⟨hready, hverified, hexe rfl⟩⟩

/-- The swap keeps staging or moves it. -/
theorem swapInstall_runs (h : Promotable c w) :
    Runs (Clear c) (Justified c) c.swapInstall w fun _ w' => Trusted c w' := by
  obtain ⟨hready, hverified, hexe⟩ := h
  refine note_bind ⟨hready.accepted, hexe, hverified⟩ fun _ => ?_
  refine onDisk_bind (Q := fun _ => True) (fun _ _ => trivial)
    (stageRename_runs (Q := fun _ => True) fun _ _ _ => trivial) fun error s hs =>
      Runs.read_bind ?_
  have hshrinks : w.disk.staging.Shrinks s.disk.staging := by
    rcases hs.1.staging with hsame | habsent
    · exact .inl hsame
    · exact habsent ▸ Tree.shrinks_absent _
  have h₁ : Trusted c { w with toSession := s } := (hready.shrinks hshrinks).trusted
  cases error with
  | none => exact assign_bind (note_bind trivial fun _ => Runs.pure ⟨h₁.accepted, h₁.locked, h₁.staged⟩)
  | stagingMissing | backupCollision | renameOldFailed | renameNewFailed | restoreFailed =>
    exact fail_runs trivial h₁

theorem runInstallPortable_runs (hportable : c.portable = true) (h : Ready c w) :
    Runs (Clear c) (Justified c) c.runInstallPortable w fun _ w' => Trusted c w' := by
  refine note_bind trivial fun _ => assign_bind ?_
  refine onDisk_bind (Q := fun _ => True) (fun _ _ => trivial)
    (repairOrphanedSwap_runs (Q := fun _ => True) fun _ _ _ _ => trivial) fun _ s hs =>
      note_bind trivial fun _ => Runs.read_bind ?_
  have hstaging : s.disk.staging = w.disk.staging := by
    rcases hs with hsame | ⟨_, _, hend⟩
    · exact congrArg Disk.staging hsame
    · exact hend.staging
  have h₀ : Ready c { w with before := Context.liveBuild w.disk } :=
    ⟨⟨h.havePackage, h.accepted, h.locked⟩, h.staged⟩
  have h₁ := h₀.shrinks (.inl hstaging)
  refine Runs.ite (fun hexe => swapInstall_runs ⟨h₁, h₁.staged hportable, hexe⟩) fun _ => ?_
  refine (restage_runs h₁).bind fun ok w₂ hw₂ => ?_
  refine Runs.ite (fun _ => Runs.pure hw₂.1) fun hok => swapInstall_runs (hw₂.2 (by simpa using hok))

/-- The lock is held, on the package that msiexec is given. -/
theorem elevate_runs {lock : PackageLock π} (h : Ready c w) (hlock : w.lockedPackage = some lock) :
    Runs (Clear c) (Justified c) (Context.runInstallMsi.elevate c) w fun _ w' => Trusted c w' := by
  have hfail : ∀ (w : World π) f detail, Trusted c w →
      Runs (Clear c) (Justified c) (fail f detail) w fun _ w' => Trusted c w' :=
    fun w f detail h => fail_runs trivial h
  have h₁ : Ready c { w with asked := w.asked + 1 } := h.shrinks (.inl rfl)
  refine ask_bind (Runs.ite (fun _ => hfail _ _ _ h₁.trusted) fun _ => ?_)
  refine note_bind ⟨h₁.accepted, lock, hlock, h₁.locked lock hlock⟩ fun _ => ask_bind ?_
  have h₂ := h₁.trusted.shrinks (s := { w.toSession with asked := w.asked + 2 }) (.inl rfl)
  split
  · exact hfail _ _ _ h₂
  · exact hfail _ _ _ h₂
  · exact hfail _ _ _ h₂
  have h₃ := h₂.shrinks (s := { w.toSession with asked := w.asked + 3 }) (.inl rfl)
  refine ask_bind (Runs.ite (fun _ => ?_) fun _ => ask_bind ?_)
  · exact (Context.abortedByCancel_keeps Trusted.ambient _ h₃).bind fun _ w₄ h₄ =>
      Runs.ite (fun _ => Runs.pure h₄) fun _ => hfail _ _ _ h₄
  have h₄ := h₃.shrinks (s := { w.toSession with asked := w.asked + 4 }) (.inl rfl)
  split
  · exact hfail _ _ _ h₄
  · exact hfail _ _ _ h₄
  · exact note_bind trivial fun _ => Runs.pure h₄

theorem runInstallMsi_runs (h : Ready c w) :
    Runs (Clear c) (Justified c) c.runInstallMsi w fun _ w' => Trusted c w' := by
  refine note_bind trivial fun _ => Runs.read_bind (Runs.ite (fun hlocked => ?_) fun _ => ?_)
  · obtain ⟨lock, hlock⟩ := Option.isSome_iff_exists.mp hlocked
    exact elevate_runs h hlock
  refine note_bind trivial fun hselected =>
    (lockAndVerifyPackage_runs w.packageSha256).bind fun error w₁ hw₁ => ?_
  obtain ⟨package, hpackage, hsha256⟩ := hselected
  rcases hw₁ with ⟨herror, n, rfl⟩ | ⟨rfl, n, bytes, rfl, hhash⟩
  · cases error with
    | none => exact absurd rfl herror
    | some error =>
      exact fail_runs trivial ⟨fun _ => h.accepted, .unlocked rfl, fun hp _ => h.staged hp⟩
  · refine elevate_runs ⟨⟨h.havePackage, h.accepted, fun lock hlock => ?_⟩, h.staged⟩ rfl
    obtain rfl := Option.some.inj hlock
    exact ⟨rfl, package, hpackage, hexEqualNoCase_trans hhash hsha256⟩

/-! ## Verify and Launch -/

theorem undoSwap_runs (h : Trusted c w) :
    Runs (Clear c) (Justified c) c.undoSwap w fun _ w' => Trusted c w' := by
  refine onDisk_bind (Q := fun _ => True) (fun _ _ => trivial)
    (restoreBackup_runs (Q := fun _ => True) fun _ _ _ => trivial) fun error s hs =>
      Runs.read_bind ?_
  have h₁ := h.shrinks (.inl hs.staging)
  exact Runs.ite (fun _ => fail_runs trivial h₁) fun _ => fail_runs trivial h₁

theorem runVerify_runs (h : Trusted c w) :
    Runs (Clear c) (Justified c) c.runVerify w fun _ w' => Trusted c w' := by
  have hdone : ∀ dir (w : World π), Trusted c w →
      Runs (Clear c) (Justified c) (Context.runVerify.done dir) w fun _ w' => Trusted c w' :=
    fun dir w h => assign_bind (note_bind trivial fun _ =>
      Runs.pure ⟨h.accepted, h.locked, h.staged⟩)
  refine note_bind trivial fun _ => Runs.ite (fun _ => Runs.read_bind ?_) fun _ => ask_bind ?_
  · exact Runs.ite (fun _ => undoSwap_runs h) fun _ => hdone _ _ h
  have h₁ := h.shrinks (s := { w.toSession with asked := w.asked + 1 }) (.inl rfl)
  refine Runs.ite (fun _ => fail_runs trivial h₁) fun _ => ask_bind (Runs.read_bind ?_)
  have h₂ := h₁.shrinks (s := { w.toSession with asked := w.asked + 2 }) (.inl rfl)
  exact Runs.ite (fun _ => fail_runs trivial h₂) fun _ => hdone _ _ h₂

theorem runLaunch_runs (h : Trusted c w) :
    Runs (Clear c) (Justified c) c.runLaunch w fun _ w' => Trusted c w' := by
  have hdone : ∀ w : World π, Trusted c w →
      Runs (Clear c) (Justified c) Context.runLaunch.done w fun _ w' => Trusted c w' :=
    fun w h => assign_bind (note_bind trivial fun _ => note_bind trivial fun _ =>
      Runs.pure ⟨h.accepted, .unlocked rfl, h.staged⟩)
  have hlaunch : Runs (Clear c) (Justified c) c.launchExoSnap w fun _ w' => Trusted c w' :=
    ask_bind (Runs.read_bind (Runs.pure (h.shrinks (.inl rfl))))
  refine note_bind trivial fun _ => hlaunch.bind fun _ w₁ h₁ => ?_
  refine Runs.ite (fun _ => fail_runs trivial h₁) fun _ => ask_bind ?_
  have h₂ := h₁.shrinks (s := { w₁.toSession with asked := w₁.asked + 1 }) (.inl rfl)
  refine Runs.ite (fun _ => ?_) fun _ => Runs.ite (fun _ => ?_) fun _ => hdone _ h₂
  · exact Runs.ite (fun _ => undoSwap_runs h₂) fun _ => fail_runs trivial h₂
  refine onDisk_bind (Q := fun _ => True) (fun _ _ => trivial)
    (cleanupBackup_runs (Q := fun _ => True) fun _ _ => trivial) fun _ s hs => hdone _ ?_
  obtain ⟨t, _, hdisk⟩ := hs
  have hstaging : s.disk.staging = w₁.disk.staging := by rw [hdisk]
  exact h₂.shrinks (.inl hstaging)

/-! ## Calls -/

theorem runApply_runs (entry : UpStep) (h : Ready c w) :
    Runs (Clear c) (Justified c) (c.runApply entry) w fun _ w' => Trusted c w' := by
  have hclose : Keeps (Clear c) (Justified c) (Ready c)
      (Context.fromStep entry .closeApp c.runCloseApp) :=
    Keeps.ite (Context.runCloseApp_keeps Ready.ambient) (Keeps.pure _)
  have hinstall : ∀ w, Ready c w → Runs (Clear c) (Justified c)
      (Context.fromStep entry .install
        (if c.portable then c.runInstallPortable else c.runInstallMsi)) w fun _ w' => Trusted c w' :=
    fun w h => Runs.ite (fun _ => Runs.ite (fun hportable => runInstallPortable_runs hportable h)
      fun _ => runInstallMsi_runs h) fun _ => Runs.pure h.trusted
  refine (hclose w h).bind fun _ w₁ h₁ => Runs.ite (fun _ => Runs.pure h₁.trusted) fun _ => ?_
  refine (hinstall w₁ h₁).bind fun _ w₂ h₂ => Runs.ite (fun _ => Runs.pure h₂) fun _ => ?_
  have hverify : Runs (Clear c) (Justified c) (Context.fromStep entry .verify c.runVerify) w₂
      fun _ w' => Trusted c w' :=
    Runs.ite (fun _ => runVerify_runs h₂) fun _ => Runs.pure h₂
  refine hverify.bind fun _ w₃ h₃ => Runs.ite (fun _ => Runs.pure h₃) fun _ => ?_
  exact (runLaunch_runs h₃).bind fun _ _ h₄ => Runs.pure h₄

theorem runFrom_runs (entry : UpStep) (h : Trusted c w)
    (hpackage : entry ≠ .download → w.havePackage = true) :
    Runs (Clear c) (Justified c) (c.runFrom entry) w fun _ w' => Trusted c w' := by
  refine note_bind trivial fun _ => Runs.ite (fun _ => ?_) fun hentry => ?_
  · refine (runDownload_runs h).bind fun ok w₁ hw₁ => Runs.ite (fun _ => Runs.pure hw₁.1) fun hok => ?_
    have hhave := hw₁.2 (by simpa using hok)
    exact Runs.ite (fun _ => Runs.record trivial fun _ => hw₁.1) fun _ =>
      runApply_runs entry (hw₁.1.ready hhave)
  · have hlater : entry ≠ .download := by
      rintro rfl
      exact hentry (Nat.le_refl _)
    exact runApply_runs entry (h.ready (hpackage hlater))

theorem run_keeps (entry : UpStep) : Keeps (Clear c) (Justified c) (Trusted c) (c.run entry) := by
  refine fun w h => Runs.read_bind (Runs.ite (fun _ => Runs.ite (fun _ => ?_) fun _ => ?_) fun hrun => ?_)
  · exact note_bind trivial fun _ => Runs.record trivial fun _ => h
  · exact runFrom_runs .download h fun hne => absurd rfl hne
  · refine runFrom_runs entry h fun hne => ?_
    simpa [hne] using hrun

theorem check_keeps : Keeps (Clear c) (Justified c) (Trusted c) c.check := by
  have hemit : ∀ s, Keeps (Clear c) (Justified c) (Trusted c) (emit s : Worker π Unit) :=
    fun s => Keeps.record fun _ _ => trivial
  have hnote : Keeps (Clear c) (Justified c) (Trusted c) (note (.entering .download) : Worker π Unit) :=
    Keeps.record fun _ _ => trivial
  refine hnote.bind fun _ => (hemit _).bind fun _ => Keeps.ite (hemit _) ?_
  refine (Context.resolveRelease_keeps Trusted.ambient).bind fun resolved => ?_
  refine Keeps.ite (Keeps.pure _) (Keeps.read_bind fun _ => ?_)
  dsimp only
  split
  · exact (Keeps.update fun _ h => ⟨h.accepted, h.locked, h.staged⟩).bind fun _ => hemit _
  · exact hemit _

theorem download_keeps : Keeps (Clear c) (Justified c) (Trusted c) c.download :=
  fun _ h => note_bind trivial fun _ => note_bind trivial fun _ =>
    (fetchAndStage_runs h).bind fun _ _ hw => Runs.ite (fun _ => Runs.pure hw.1) fun _ =>
      Runs.record trivial fun _ => hw.1

theorem performAll_keeps (calls : List Call) :
    Keeps (Clear c) (Justified c) (Trusted c) (c.performAll calls) := by
  induction calls with
  | nil => exact Keeps.pure _
  | cons call calls ih =>
    have hcall : Keeps (Clear c) (Justified c) (Trusted c) (c.perform call) := by
      cases call with
      | check => exact check_keeps
      | download => exact download_keeps
      | apply => exact run_keeps _
      | run entry => exact run_keeps entry
    exact hcall.bind fun _ => ih

end

/-- A worker that has just started. -/
def World.fresh (d : Disk π) : World π := { disk := d }

theorem trusted_fresh (d : Disk π) : Trusted c (.fresh d) :=
  .without rfl (.unlocked rfl)

/-- What a run of calls on a worker that has just started writes. -/
def Context.journal (c : Context π) (calls : List Call) (d : Disk π) : List (Entry π) :=
  (c.performAll calls (.fresh d)).entries

/-- In every run of calls on one worker, from any disk: what is installed behind entries that are
    all clear is the verified package of an accepted manifest. -/
theorem nothing_unverified (c : Context π) (calls : List Call) (d : Disk π) {i : Nat}
    (hi : i < (c.journal calls d).length) (hclear : ∀ e ∈ (c.journal calls d).take i, Clear c e) :
    Justified c (c.journal calls d)[i] :=
  Upheld.getElem (performAll_keeps calls _ (trusted_fresh d)).1 hi hclear

/-- A handoff in which every step succeeds reaches its swap so. -/
theorem nothing_unverified_handoff :
    ∃ e ∈ Context.journal ⟨handoff, numbered, obliging⟩ [.run .download] { install := .complete 0 },
      e.event = .stageRename ∧ Justified ⟨handoff, numbered, obliging⟩ e := by
  have hreached : ∃ hi : 11 < (Context.journal ⟨handoff, numbered, obliging⟩ [.run .download]
      { install := .complete 0 }).length,
      (Context.journal ⟨handoff, numbered, obliging⟩ [.run .download]
        { install := .complete 0 })[11].event = .stageRename := by decide
  obtain ⟨hi, hevent⟩ := hreached
  exact ⟨_, List.getElem_mem hi, hevent, nothing_unverified _ _ _ hi (by decide)⟩

/-- The deletion that is to clear staging fails and leaves the `exosnap.exe` of an earlier package. -/
def stuckStaging : Env Nat :=
  { obliging with removes := fun n => if n = 9 then .leaves true else .whole }

/-- Package 7, which was left in staging and never verified, is promoted by the retry. -/
theorem leftover_promoted :
    ¬ ∀ e ∈ Context.journal ⟨handoff, numbered, stuckStaging⟩ [.run .download, .run .install]
      { install := .complete 0, staging := .complete 7 },
        Justified ⟨handoff, numbered, stuckStaging⟩ e := by
  have hreached : ∃ e ∈ Context.journal ⟨handoff, numbered, stuckStaging⟩
      [.run .download, .run .install] { install := .complete 0, staging := .complete 7 },
        e.event = .stageRename ∧ e.world.disk.staging.exe = some 7 ∧ e.world.staged = none := by
    decide
  intro h
  obtain ⟨⟨event, w⟩, hmem, rfl, hexe, hnone⟩ := hreached
  obtain ⟨_, _, hverified⟩ := h _ hmem
  obtain ⟨staged, hstaged, _⟩ := hverified 7 hexe
  exact absurd (hnone.symm.trans hstaged) nofun

end Exosnap.Updater
