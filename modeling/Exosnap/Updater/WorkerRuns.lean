/-
  Rules for runs of the worker, and what it does before it has a package: the steps that fetch,
  read, report and wait keep every invariant that says nothing of what they fetch (`Ambient`).
-/
import Exosnap.Updater.UpdaterWorker

namespace Exosnap.Updater

open Exosnap.Update Journaled

variable {π : Type}

section
variable {α β : Type} {G P : Entry π → Prop} {w : World π} {post : β → World π → Prop}
  {I : World π → Prop}

theorem ask_bind {answers : Nat → α} {f : α → Worker π β}
    (h : Runs G P (f (answers w.asked)) { w with asked := w.asked + 1 } post) :
    Runs G P (ask answers >>= f) w post := h

theorem assign_bind {g : World π → World π} {f : Unit → Worker π β}
    (h : Runs G P (f ()) (g w) post) : Runs G P (assign g >>= f) w post := h

theorem note_bind {event : Event} {f : Unit → Worker π β} (hP : P ⟨event, w⟩)
    (h : G ⟨event, w⟩ → Runs G P (f ()) w post) : Runs G P (note event >>= f) w post :=
  Runs.record_bind hP h

theorem fail_runs {f : FailureCase} {detail : String} {post : Bool → World π → Prop}
    (hP : P ⟨.signal (.failed f detail), w⟩) (h : post false w) :
    Runs G P (fail f detail) w post :=
  Runs.record_bind hP fun _ => Runs.pure h

/-- A program on the disk changes the session, and nothing else. -/
theorem onDisk_runs {m : Swap π α} {Q : Disk π → Prop} {mid : α → Session π → Prop}
    (hQ : ∀ s : Session π, Q s.disk → P ⟨.fsStep, { w with toSession := s }⟩)
    (hm : Runs (fun s => G ⟨.fsStep, { w with toSession := s }⟩) (fun s => Q s.disk) m w.toSession
      mid) :
    Runs G P (onDisk m) w fun a w' => ∃ s, mid a s ∧ w' = { w with toSession := s } :=
  Runs.within ((hm.mono fun _ s hs => ⟨s, hs, rfl⟩).imp hQ)

theorem onDisk_bind {m : Swap π α} {f : α → Worker π β} {Q : Disk π → Prop}
    {mid : α → Session π → Prop}
    (hQ : ∀ s : Session π, Q s.disk → P ⟨.fsStep, { w with toSession := s }⟩)
    (hm : Runs (fun s => G ⟨.fsStep, { w with toSession := s }⟩) (fun s => Q s.disk) m w.toSession
      mid)
    (hf : ∀ a s, mid a s → Runs G P (f a) { w with toSession := s } post) :
    Runs G P (onDisk m >>= f) w post := by
  refine (onDisk_runs hQ hm).bind fun a w' h => ?_
  obtain ⟨s, hs, rfl⟩ := h
  exact hf a s hs

theorem write_bind {g : Disk π → Disk π} {f : Unit → Worker π β}
    (hP : P ⟨.fsStep, { w with disk := g w.disk }⟩)
    (h : Runs G P (f ()) { w with disk := g w.disk } post) :
    Runs G P (onDisk (write g) >>= f) w post :=
  ⟨⟨hP, fun _ => h.1⟩, fun hG => h.2 fun e he => hG e (List.mem_cons_of_mem _ he)⟩

/-- The failure that a signal reports, if it does, leaves the installation as it is. -/
def Signal.Harmless : Signal → Prop
  | .failed f _ => installStateForFailure f = .intact
  | _ => True

/-- An invariant that does not depend on what is fetched and read, under which such signals may
    be sent. -/
structure Ambient (P : Entry π → Prop) (I : World π → Prop) : Prop where
  asked : ∀ w n, I w → I { w with asked := n }
  releases : ∀ w json, I w → I { w with releasesJson := json }
  release : ∀ w release, I w → I { w with release := release, haveRelease := true }
  signal : ∀ w s, I w → s.Harmless → P ⟨.signal s, w⟩

theorem ask_runs {answers : Nat → α} {post : α → World π → Prop}
    (h : post (answers w.asked) { w with asked := w.asked + 1 }) : Runs G P (ask answers) w post :=
  ⟨trivial, fun _ => h⟩

theorem Ambient.keeps_ask (hI : Ambient P I) (answers : Nat → α) : Keeps G P I (ask answers) :=
  fun w h => ask_runs (hI.asked w _ h)

theorem Ambient.keeps_emit (hI : Ambient P I) (s : Signal) (hs : s.Harmless) :
    Keeps G P I (emit s : Worker π Unit) :=
  Keeps.record fun w h => hI.signal w s h hs

theorem Ambient.keeps_fail (hI : Ambient P I) {f : FailureCase} {detail : String}
    (hf : installStateForFailure f = .intact) : Keeps G P I (fail f detail : Worker π Bool) :=
  (hI.keeps_emit (.failed f detail) hf).bind fun _ => Keeps.pure _

end

namespace Context

variable {c : Context π} {G P : Entry π → Prop} {I : World π → Prop} (hI : Ambient P I)
include hI

theorem abortedByCancel_keeps : Keeps G P I c.abortedByCancel :=
  (hI.keeps_ask _).bind fun _ => Keeps.ite (Keeps.pure _)
    ((hI.keeps_emit .cancelled trivial).bind fun _ => Keeps.pure _)

theorem readPackage_keeps : Keeps G P I c.readPackage := by
  refine (hI.keeps_ask _).bind fun file => Keeps.read_bind fun w => ?_
  cases w.lockedPackage with
  | none => exact Keeps.pure _
  | some lock => exact Keeps.pure _

theorem resolveRelease_keeps : Keeps G P I c.resolveRelease := by
  refine (hI.keeps_ask _).bind fun fetched => ?_
  cases fetched with
  | error e => exact (hI.keeps_emit (.failed .downloadFailed e) rfl).bind fun _ => Keeps.pure _
  | ok json =>
    refine (Keeps.update (hI.releases · json)).bind fun _ => ?_
    cases c.platform.locateRelease json c.args.channel with
    | error e => exact (hI.keeps_emit (.failed .downloadFailed e) rfl).bind fun _ => Keeps.pure _
    | ok located =>
      cases located with
      | none => exact Keeps.pure _
      | some release => exact (Keeps.update (hI.release · release)).bind fun _ => Keeps.pure _

theorem rejected_keeps {α : Type} {f : FailureCase} {detail : String}
    (hf : installStateForFailure f = .intact) :
    Keeps G P I (readManifestFiles.rejected f detail : Worker π (Option α)) :=
  (hI.keeps_emit (.failed f detail) hf).bind fun _ => Keeps.pure _

theorem downloadAndRead_keeps (unreadable : String) :
    Keeps G P I (readManifestFiles.downloadAndRead c unreadable) := by
  refine (hI.keeps_ask _).bind fun error => ?_
  cases error with
  | some error =>
    exact (abortedByCancel_keeps hI).bind fun _ => Keeps.ite (Keeps.pure _) (rejected_keeps hI rfl)
  | none =>
    refine (hI.keeps_ask _).bind fun text => ?_
    cases text with
    | none => exact rejected_keeps hI rfl
    | some text => exact Keeps.pure _

theorem readManifestFiles_keeps : Keeps G P I c.readManifestFiles := by
  refine Keeps.ite ?_ (Keeps.read_bind fun w => Keeps.ite (rejected_keeps hI rfl) ?_)
  · refine (hI.keeps_ask _).bind fun manifest => ?_
    cases manifest with
    | none => exact rejected_keeps hI rfl
    | some manifest =>
      refine (hI.keeps_ask _).bind fun signature => ?_
      cases signature with
      | none => exact rejected_keeps hI rfl
      | some signature => exact Keeps.pure _
  · refine (downloadAndRead_keeps hI _).bind fun manifest => ?_
    cases manifest with
    | none => exact Keeps.pure _
    | some manifest =>
      refine (downloadAndRead_keeps hI _).bind fun signature => ?_
      cases signature with
      | none => exact Keeps.pure _
      | some signature => exact Keeps.pure _

theorem reportProgress_keeps (progress : List (UInt64 × UInt64)) :
    Keeps G P I (fetchPackage.reportProgress progress : Worker π Unit) := by
  induction progress with
  | nil => exact Keeps.pure _
  | cons p progress ih =>
    exact (hI.keeps_emit (.downloadProgress p.1 p.2) trivial).bind fun _ => ih

theorem runCloseApp_keeps : Keeps G P I c.runCloseApp := by
  have hdone : Keeps G P I (runCloseApp.done : Worker π Bool) :=
    (hI.keeps_emit (.stepDone .closeApp) trivial).bind fun _ => Keeps.pure _
  refine (hI.keeps_emit (.stepStarted .closeApp) trivial).bind fun _ => Keeps.ite ?_ ?_
  · exact (hI.keeps_ask _).bind fun _ => Keeps.ite (hI.keeps_fail rfl) hdone
  · exact (hI.keeps_ask _).bind fun _ => Keeps.ite (hI.keeps_fail rfl) hdone

end Context

/-! ## A world in which all goes well -/

def digest : Nat → String
  | 1 => "1111111111111111111111111111111111111111111111111111111111111111"
  | 2 => "2222222222222222222222222222222222222222222222222222222222222222"
  | _ => "0000000000000000000000000000000000000000000000000000000000000000"

/-- Packages by their number, with the version `1.n.0`; a manifest is its version, and offers
    package 1 up to `1.1.0` and package 2 from then on. -/
def numbered : Platform Nat where
  sha256 := digest
  layout _ := .flat
  versionInfo n := { fileVersion := none, productVersion := some s!"1.{n}.0" }
  verifySignature manifestJson signatureHex := signatureHex == "signed " ++ manifestJson
  readJson manifestJson :=
    let sha256 := digest (if manifestJson = "1.1.0" then 1 else 2)
    .ok {
      version := .ok manifestJson
      minimumAcceptedVersion := .ok "1.0.0"
      packages := .ok [⟨.ok "portable", .ok "zip", .ok sha256⟩, ⟨.ok "installer", .ok "msi", .ok sha256⟩] }
  locateRelease _ _ := .ok none
  officialBuild := true

/-- A handoff of `1.1.0` finds its manifest and its package, and every step succeeds. -/
def obliging : Env Nat where
  renames _ := true
  removes _ := .whole
  extracts _ := .done true
  tempDirectory _ := true
  createsDirectory _ := true
  readsFile n := if n = 2 then some "1.1.0" else some "signed 1.1.0"
  downloads _ := none
  progress _ := []
  packageFile _ _ := some 1
  opensLock _ := true
  readsLocked _ := true
  cancelled _ := false
  fetchesReleases _ := .ok ""
  processExits _ := true
  mutexPresent _ := false
  mutexAppears _ := true
  launches _ := true
  uacDeclinedInjected _ := false
  elevates _ := .started
  msiFinishes _ := true
  exitCode _ := 0
  registryInstallPath _ := none
  installedExe _ := none

def handoff : UpdaterArgs where
  mode := .appHandoff
  installDir := "C:\\ExoSnap"
  currentVersion := "1.0.0"
  targetVersion := "1.1.0"
  manifestPath := "update-manifest.json"
  manifestSignaturePath := "update-manifest.json.sig"

end Exosnap.Updater
