/-
  The transactions that updaters are handed. In any interleaving one belongs to a single check that
  was adopted and offered the version that is handed over (`launched_handed`). Where checks,
  clean-ups and launches keep apart, its files are there when the updater starts and stay until
  another one starts (`handed_survives`).

  A. A launch holds one snapshot (`Handed`), whatever the workers do between its reads.
  B. A prune keeps the ready transaction and the one that was handed over last (`Kept`). That takes
     the condition: a prune that is under way knows neither a transaction that is newer than its own
     nor a launch that has not been recorded.
-/
import Exosnap.Update.UpdateRuns
import Mathlib.Data.List.Pairwise

namespace Exosnap.Update.UpdateService

variable {s t s' : UpdateService} {w : Worker} {answer : Answer} {a : UpdateAction}
  {stage : Option WorkerStage} {l : Launch}

/-! ## A. One snapshot -/

/-- The launch has the transaction that this check prepared, for the version it offers, and notes of
    the check if none was adopted since. -/
structure Handed (adopted : List AdoptedCheck) (l : Launch) (a : AdoptedCheck) : Prop where
  mem : a ∈ adopted
  prepared : l.prepared = a.prepared
  number : a.number = l.preparedAt
  accepted : HandoffRefusalReason l.stateNow l.prepared = ""
  payload : ∀ p ∈ l.payload, p.targetVersion = l.stateNow.availableVersionRaw ∧
    (l.notesAt = l.preparedAt →
      p = whatsNewPayload l.stateNow.availableVersionRaw a.result.gapNotes)

def IsHandoffOf (l : Launch) (handoff : UpdateHandoff) : Prop :=
  ∃ installDir pid currentVersion verifyReinstall, handoff =
    BuildUpdateHandoff l.stateNow l.prepared installDir pid currentVersion verifyReinstall

/-- The last of these checks has this number. -/
def LastIs (adopted : List AdoptedCheck) (number : Nat) : Prop :=
  ∃ a, adopted.head? = some a ∧ a.number = number

/-- The UI thread's part of `LaunchUpdater` so far. -/
def UiSound (adopted : List AdoptedCheck) (offers : Nat) : UiStage → Prop
  | .readPrepared stateNow _ => stateNow.availableVersionRaw ≠ "" → LastIs adopted offers
  | .stage l | .readNotes l => (∃ a, Handed adopted l a) ∧ l.payload = none
  | .readVerify l | .writeHandoff l _ => ∃ a, Handed adopted l a
  | .writePayload l notes => ∃ a, Handed adopted l a ∧
      (l.notesAt = l.preparedAt → notes = [] ∨ notes = a.result.gapNotes)
  | .start l handoff | .record l handoff => (∃ a, Handed adopted l a) ∧ IsHandoffOf l handoff
  | _ => True

structure Launching (s : UpdateService) : Prop where
  ui : UiSound s.adopted s.offers s.ui
  launched : ∀ l ∈ s.launched, (∃ a, Handed s.adopted l.launch a) ∧ IsHandoffOf l.launch l.handoff

theorem Handed.mono {adopted adopted' : List AdoptedCheck} {b : AdoptedCheck}
    (h : Handed adopted l b) (hadopted : ∀ b ∈ adopted, b ∈ adopted') : Handed adopted' l b :=
  ⟨hadopted _ h.mem, h.prepared, h.number, h.accepted, h.payload⟩

/-- What the UI thread has read stays good while checks are adopted. -/
theorem UiSound.mono {adopted adopted' : List AdoptedCheck} {offers offers' : Nat} {ui : UiStage}
    (h : UiSound adopted offers ui) (hadopted : ∀ b ∈ adopted, b ∈ adopted')
    (hlast : LastIs adopted offers → LastIs adopted' offers') : UiSound adopted' offers' ui := by
  cases ui with
  | idle => trivial
  | emitResult => trivial
  | emitState => trivial
  | readState => trivial
  | readPrepared stateNow stateAt => exact fun hne => hlast (h hne)
  | stage l => exact ⟨h.1.imp fun _ hb => hb.mono hadopted, h.2⟩
  | readNotes l => exact ⟨h.1.imp fun _ hb => hb.mono hadopted, h.2⟩
  | writePayload l notes => exact h.imp fun _ hb => ⟨hb.1.mono hadopted, hb.2⟩
  | readVerify l => exact h.imp fun _ hb => hb.mono hadopted
  | writeHandoff l v => exact h.imp fun _ hb => hb.mono hadopted
  | start l handoff => exact ⟨h.1.imp fun _ hb => hb.mono hadopted, h.2⟩
  | record l handoff => exact ⟨h.1.imp fun _ hb => hb.mono hadopted, h.2⟩

theorem Launching.mono (h : Launching s) (hui : s'.ui = s.ui) (hlaunched : s'.launched = s.launched)
    (hadopted : ∀ b ∈ s.adopted, b ∈ s'.adopted)
    (hlast : LastIs s.adopted s.offers → LastIs s'.adopted s'.offers) : Launching s' := by
  refine ⟨hui ▸ h.ui.mono hadopted hlast, ?_⟩
  rw [hlaunched]
  exact fun l hl => ⟨(h.launched l hl).1.imp fun _ hb => hb.mono hadopted, (h.launched l hl).2⟩

/-- The latest check is the one whose number is the number of offers. -/
theorem Attributed.latest (h : Attributed s) {b : AdoptedCheck} (hb : b ∈ s.adopted)
    (hnumber : b.number = s.offers) : s.adopted.head? = some b := by
  have hnumbers := h.numbers
  have hnumbered := h.numbered
  cases hadopted : s.adopted with
  | nil => rw [hadopted] at hb; cases hb
  | cons c cs =>
      rw [hadopted] at hb hnumbers hnumbered
      rcases List.mem_cons.mp hb with rfl | hb
      · rfl
      · have hlt := List.rel_of_pairwise_cons hnumbers hb
        have hle := hnumbered c List.mem_cons_self
        omega

/-- What `LaunchUpdater` reads when it reads the transaction. -/
theorem Attributed.handed (h : Attributed s) {stateNow : UpdateState} {stateAt : Nat}
    (hread : UiSound s.adopted s.offers (.readPrepared stateNow stateAt))
    (haccepted : HandoffRefusalReason stateNow s.preparedUpdate = "") (spared : Bool) :
    ∃ b, Handed s.adopted { stateNow := stateNow, stateAt := stateAt, prepared := s.preparedUpdate
                            preparedAt := s.offers, sparedAt := spared } b := by
  have hraw : stateNow.availableVersionRaw ≠ "" := by
    intro hnone
    simp [HandoffRefusalReason, hnone] at haccepted
  obtain ⟨b, hhead, hnumber⟩ := hread hraw
  have hready := h.ready
  rw [hhead] at hready
  exact ⟨b, List.mem_of_mem_head? hhead, hready, hnumber, haccepted, by simp⟩

theorem Launching.ui_step (h : Launching s) (hattr : Attributed s)
    (hstep : s.uiStep answer = some s') : Launching s' := by
  have hui := h.ui
  have hlaunched := h.launched
  unfold uiStep at hstep
  cases hstage : s.ui with
  | idle => simp [hstage] at hstep
  | emitResult delivery =>
      simp only [hstage, Option.some.injEq] at hstep
      subst hstep
      exact ⟨trivial, hlaunched⟩
  | emitState =>
      simp only [hstage, Option.some.injEq] at hstep
      subst hstep
      exact ⟨trivial, hlaunched⟩
  | readState =>
      simp only [hstage] at hstep
      split at hstep <;> cases hstep
      · refine ⟨fun hraw => ?_, hlaunched⟩
        rcases hattr.shown with hclear | ⟨b, hhead, hshows⟩
        · exact absurd hclear.availableVersionRaw hraw
        · exact ⟨b, hhead, hshows.number⟩
      · exact ⟨trivial, hlaunched⟩
  | readPrepared stateNow stateAt =>
      simp only [hstage] at hstep
      rw [hstage] at hui
      split at hstep <;> cases hstep
      · exact ⟨trivial, hlaunched⟩
      · rename_i haccepted
        exact ⟨⟨hattr.handed hui (not_not.mp haccepted) _, rfl⟩, hlaunched⟩
  | stage l =>
      simp only [hstage] at hstep
      rw [hstage] at hui
      split at hstep
      · cases hstep
        exact ⟨trivial, hlaunched⟩
      · split at hstep <;> cases hstep
        · exact ⟨hui, hlaunched⟩
        · exact ⟨trivial, hlaunched⟩
  | readNotes l =>
      simp only [hstage, Option.some.injEq] at hstep
      subst hstep
      rw [hstage] at hui
      obtain ⟨⟨b, hb⟩, hnone⟩ := hui
      refine ⟨⟨b, ⟨hb.mem, hb.prepared, hb.number, hb.accepted, by simp [hnone]⟩, ?_⟩, hlaunched⟩
      -- no check was adopted since: the notes are those of the launch's own
      intro hsince
      have hlatest := hattr.latest hb.mem (hb.number.trans hsince.symm)
      refine hattr.notes.imp_right ?_
      rintro ⟨c, hhead, hnotes⟩
      rw [hnotes, Option.some.inj (hhead.symm.trans hlatest)]
  | writePayload l notes =>
      simp only [hstage, Option.some.injEq] at hstep
      subst hstep
      rw [hstage] at hui
      obtain ⟨b, hb, hnotes⟩ := hui
      refine ⟨⟨b, hb.mem, hb.prepared, hb.number, hb.accepted, ?_⟩, hlaunched⟩
      dsimp only
      split_ifs with hwritten
      · intro p hp
        cases hp
        refine ⟨rfl, fun hsince => ?_⟩
        rw [(hnotes hsince).resolve_left hwritten.2.1]
      · simp
  | readVerify l =>
      simp only [hstage, Option.some.injEq] at hstep
      subst hstep
      rw [hstage] at hui
      exact ⟨hui, hlaunched⟩
  | writeHandoff l v =>
      simp only [hstage] at hstep
      rw [hstage] at hui
      split at hstep <;> cases hstep
      · exact ⟨⟨hui, _, _, _, _, rfl⟩, hlaunched⟩
      · exact ⟨trivial, hlaunched⟩
  | start l handoff =>
      simp only [hstage] at hstep
      rw [hstage] at hui
      split at hstep <;> cases hstep
      · exact ⟨hui, List.forall_mem_cons.mpr ⟨hui, hlaunched⟩⟩
      · exact ⟨trivial, hlaunched⟩
  | record l handoff =>
      simp only [hstage, Option.some.injEq] at hstep
      subst hstep
      exact ⟨trivial, hlaunched⟩

/-- A critical section adopts one check more, with the next number, or none. -/
theorem complete_adopted {operation : UpdateCheckOperation} {r : UpdateCheckResult}
    {p : Option PreparedUpdate} (ht : t = (s.complete operation r p).1) :
    t.ui = s.ui ∧ t.launched = s.launched ∧ (∀ b ∈ s.adopted, b ∈ t.adopted) ∧
      (LastIs s.adopted s.offers → LastIs t.adopted t.offers) := by
  subst ht
  unfold complete
  dsimp only
  refine ⟨rfl, rfl, ?_, ?_⟩
  · split_ifs
    · exact fun b hb => List.mem_cons_of_mem _ hb
    · exact fun _ hb => hb
  · split_ifs
    · exact fun _ => ⟨_, rfl, rfl⟩
    · exact id

theorem Launching.worker_step (h : Launching s) (hflight : SingleFlight s) {operation : Nat}
    (hstep : s.workerStep answer operation = some s') : Launching s' := by
  obtain ⟨w, hw, t, stage, hrun, hs, -⟩ := workerStep_some hflight.nodup hstep
  have hmoves : t.ui = s.ui ∧ t.launched = s.launched ∧ (∀ b ∈ s.adopted, b ∈ t.adopted) ∧
      (LastIs s.adopted s.offers → LastIs t.adopted t.offers) := by
    by_cases hstage : ∀ r p, w.stage ≠ .complete r p
    · obtain ⟨hsame, hui, hlaunched, -⟩ := runWorker_apart hstage hrun
      rw [hsame.adopted, hsame.offers]
      exact ⟨hui, hlaunched, fun _ hb => hb, id⟩
    · simp only [not_forall, not_not] at hstage
      obtain ⟨r, p, hstage⟩ := hstage
      unfold runWorker at hrun
      rw [hstage] at hrun
      cases hrun
      exact complete_adopted rfl
  obtain ⟨hui, hlaunched, hadopted, hlast⟩ := hmoves
  rw [hs]
  exact h.mono hui hlaunched hadopted hlast

theorem Launching.step (h : Launching s) (hflight : SingleFlight s) (hattr : Attributed s)
    (hstep : s.step a = some s') : Launching s' := by
  cases a with
  | setChannel channel =>
      obtain ⟨hidle, hs⟩ := Option.ite_none_right_eq_some.mp hstep
      cases hs
      refine ⟨?_, h.launched⟩
      show UiSound _ _ s.ui
      rw [hidle]
      trivial
  | setVerifyReinstallMode on =>
      obtain ⟨-, hs⟩ := Option.ite_none_right_eq_some.mp hstep
      cases hs
      exact ⟨h.ui, h.launched⟩
  | requestUpdateCheck =>
      obtain ⟨-, hs⟩ := Option.ite_none_right_eq_some.mp hstep
      cases hs
      unfold RequestUpdateCheck
      split_ifs
      · exact h
      · exact ⟨h.ui, h.launched⟩
  | launchUpdater =>
      obtain ⟨-, hs⟩ := Option.ite_none_right_eq_some.mp hstep
      cases hs
      exact ⟨trivial, h.launched⟩
  | deliver =>
      have hdeliver : s.deliver = some s' := hstep
      unfold UpdateService.deliver at hdeliver
      split at hdeliver <;> cases hdeliver
      refine ⟨?_, h.launched⟩
      dsimp only
      split_ifs <;> trivial
  | ui answer => exact h.ui_step hattr hstep
  | worker answer operation => exact h.worker_step hflight hstep

/-- The three files of a transaction. -/
def transactionFiles (root : Path) (transactionId : String) : List Path :=
  [kHandoffFileName, kManifestFileName, kManifestSignatureFileName].map fun name =>
    root ++ [transactionId] ++ [name]

/-- What a launch accepts. -/
theorem handoffRefusalReason_none {stateNow : UpdateState} {prepared : PreparedUpdate}
    (h : HandoffRefusalReason stateNow prepared = "") :
    stateNow.availableVersionRaw ≠ "" ∧ prepared.error = "" ∧ prepared.updateTransactionId ≠ "" ∧
      prepared.targetVersion = stateNow.availableVersionRaw := by
  unfold HandoffRefusalReason at h
  split_ifs at h with hraw herror hprepared hversion
  · simp at h
  · exact absurd h herror
  · simp at h
  · simp at h
  · simp only [not_or] at hprepared
    exact ⟨hraw, not_not.mp herror, hprepared.1, not_not.mp hversion⟩

theorem Handed.files {root : Path} {b : AdoptedCheck} {handoff : UpdateHandoff}
    (h : Handed s.adopted l b) (hsound : AdoptedCheck.Sound root b) (hof : IsHandoffOf l handoff) :
    b.result.updateAvailable = true ∧ handoff.targetVersion = b.result.availableVersionRaw ∧
      handoff.updateTransactionId = b.prepared.updateTransactionId ∧
      handoff.updateTransactionId ≠ "" ∧
      l.prepared.directory = root ++ [handoff.updateTransactionId] ∧
      handedFiles l handoff = transactionFiles root handoff.updateTransactionId := by
  obtain ⟨-, herror, hid, hversion⟩ := handoffRefusalReason_none h.accepted
  obtain ⟨_, _, _, _, rfl⟩ := hof
  rw [h.prepared] at herror hid hversion
  rcases hsound.prepared with hnone | hfor
  · rw [hnone] at hid
    exact absurd rfl hid
  · obtain ⟨hdirectory, hpaths⟩ := hfor.placed hid
    obtain ⟨hmanifest, hsignature⟩ := hpaths herror
    refine ⟨hfor.available, hversion.symm.trans hfor.version, ?_, ?_, ?_, ?_⟩
    · exact congrArg PreparedUpdate.updateTransactionId h.prepared
    · exact h.prepared ▸ hid
    · simp only [h.prepared, hdirectory, BuildUpdateHandoff]
    · simp only [handedFiles, handoffPath, BuildUpdateHandoff, transactionFiles, h.prepared,
        hmanifest, hsignature, hdirectory, List.map_cons, List.map_nil]

section Runs

variable {transactionsRoot : Path} {appDir : String} {pid : Nat} {version : String}
  {channel : UpdateChannel} {installMode : InstallMode} {directories : List (Path × List String)}
  {as : List UpdateAction}

theorem exec_launching
    (h : exec (.start transactionsRoot appDir pid version channel installMode directories) as =
      some s) : Launching s :=
  (StepRun.exec_invariant_all (I := fun s => (SingleFlight s ∧ Attributed s) ∧ Launching s)
    (fun _ _ _ hs hstep => ⟨⟨hs.1.1.step hstep, hs.1.2.step hs.1.1 hstep⟩,
      hs.2.step hs.1.1 hs.1.2 hstep⟩)
    ⟨⟨.start .., .start ..⟩, trivial, by simp [UpdateService.start]⟩ h).2

/-- Every updater that is started is handed the version that one adopted check offered, with that
    check's own transaction and its three files, which no other check has. Release notes that were
    written for it are for that version, and the check's own unless one was adopted meanwhile. -/
theorem launched_handed
    (h : exec (.start transactionsRoot appDir pid version channel installMode directories) as =
      some s) :
    ∀ l ∈ s.launched, ∃ b ∈ s.adopted, b.result.updateAvailable = true ∧
      l.handoff.targetVersion = b.result.availableVersionRaw ∧
      l.handoff.updateTransactionId = b.prepared.updateTransactionId ∧
      handedFiles l.launch l.handoff =
        transactionFiles s.transactionsRoot l.handoff.updateTransactionId ∧
      (∀ c ∈ s.adopted, c.prepared.updateTransactionId = l.handoff.updateTransactionId → c = b) ∧
      ∀ p ∈ l.launch.payload, p.targetVersion = l.handoff.targetVersion ∧
        (l.launch.notesAt = b.number →
          p = whatsNewPayload b.result.availableVersionRaw b.result.gapNotes) := by
  intro l hl
  have hattr := exec_attributed h
  obtain ⟨⟨b, hb⟩, hof⟩ := (exec_launching h).launched l hl
  obtain ⟨havailable, hversion, hid, hne, -, hfiles⟩ := hb.files (hattr.adopted b hb.mem) hof
  refine ⟨b, hb.mem, havailable, hversion, hid, hfiles, ?_, ?_⟩
  · intro c hc hsame
    have hsymm : Std.Symm fun a b : AdoptedCheck => a.prepared.updateTransactionId ≠ "" →
        a.prepared.updateTransactionId ≠ b.prepared.updateTransactionId :=
      ⟨fun a b hab hb he => hab (he ▸ hb) he.symm⟩
    by_contra hcb
    exact hattr.distinct.forall hc hb.mem hcb (hsame ▸ hne) (hsame.trans hid)
  · intro p hp
    obtain ⟨htarget, hnotes⟩ := hb.payload p hp
    obtain ⟨_, _, _, _, hhandoff⟩ := hof
    have hoffered : l.handoff.targetVersion = l.launch.stateNow.availableVersionRaw := by
      rw [hhandoff]
      rfl
    rw [← hversion, hoffered]
    exact ⟨htarget, fun hsince => hnotes (hsince.trans hb.number)⟩

/-- An answer that offers a version with its two files. -/
def offering (version : String) : Answer where
  result := { updateAvailable := true, availableVersionRaw := version
              manifestUrl := "manifest", manifestSignatureUrl := "signature" }
  transactionId := version

/-- A check from its admission to its adoption. -/
def checked (answer : Answer) (operation : Nat) : List UpdateAction :=
  .requestUpdateCheck :: List.replicate 6 (.worker answer operation)

/-- A launch up to the start of the updater. -/
def launch : List UpdateAction := .launchUpdater :: List.replicate 8 (.ui {})

theorem launched_handed_once :
    ∃ s, exec (.start ["updates"] "" 1 "1.0.0" .stable .portable [])
        (checked (offering "1.1.0") 1 ++ launch) = some s ∧ s.launched.length = 1 ∧
      ∀ l ∈ s.launched, ∃ b ∈ s.adopted, b.result.updateAvailable = true ∧
        l.handoff.targetVersion = b.result.availableVersionRaw := by
  have hrun : (exec (.start ["updates"] "" 1 "1.0.0" .stable .portable [])
      (checked (offering "1.1.0") 1 ++ launch)).map (·.launched.length) = some 1 := by
    decide +kernel
  obtain ⟨s, h, hlength⟩ := Option.map_eq_some_iff.mp hrun
  refine ⟨s, h, hlength, fun l hl => ?_⟩
  obtain ⟨b, hb, havailable, hversion, -⟩ := launched_handed h l hl
  exact ⟨b, hb, havailable, hversion⟩

end Runs

/-! ## B. Files that stay -/

/-- The directory is there with this file. -/
def Holds (directories : List (Path × List String)) (directory : Path) (name : String) : Prop :=
  ∃ d ∈ directories, d.1 = directory ∧ name ∈ d.2

theorem isFile_iff {directory : Path} {name : String} :
    s.isFile (directory ++ [name]) = true ↔ Holds s.directories directory name := by
  simp only [isFile, List.any_eq_true, beq_iff_eq, Holds]
  constructor
  · rintro ⟨d, hd, n, hn, he⟩
    obtain ⟨rfl, hname⟩ := List.append_inj' he rfl
    exact ⟨d, hd, rfl, List.singleton_inj.mp hname ▸ hn⟩
  · rintro ⟨d, hd, rfl, hn⟩
    exact ⟨d, hd, name, hn, rfl⟩

theorem Holds.addFile {directory directory' : Path} {name name' : String}
    (h : Holds s.directories directory name) :
    Holds (s.addFile directory' name').directories directory name := by
  obtain ⟨d, hd, rfl, hn⟩ := h
  refine ⟨_, List.mem_map.mpr ⟨d, hd, rfl⟩, ?_⟩
  split_ifs
  · exact ⟨rfl, List.mem_cons_of_mem _ hn⟩
  · exact ⟨rfl, hn⟩

theorem holds_addFile {directory : Path} {name : String} (h : s.isDirectory directory = true) :
    Holds (s.addFile directory name).directories directory name := by
  obtain ⟨d, hd, he⟩ := List.any_eq_true.mp h
  obtain rfl := beq_iff_eq.mp he
  exact ⟨_, List.mem_map.mpr ⟨d, hd, if_pos rfl⟩, rfl, List.mem_cons_self⟩

theorem Holds.removeRecursively {directory path : Path} {name : String}
    (h : Holds s.directories directory name) (hne : directory ≠ path) :
    Holds (s.removeRecursively path).directories directory name := by
  obtain ⟨d, hd, rfl, hn⟩ := h
  exact ⟨d, List.mem_filter.mpr ⟨hd, by simpa using hne⟩, rfl, hn⟩

/-- The two files that a check fetches. -/
def fetchedFiles : List String := [kManifestFileName, kManifestSignatureFileName]

/-- The files that an updater is handed are there when the transaction has its three. -/
theorem Handed.handed_present {root : Path} {b : AdoptedCheck} {handoff : UpdateHandoff}
    (h : Handed s.adopted l b) (hsound : AdoptedCheck.Sound root b) (hof : IsHandoffOf l handoff)
    (hfiles : ∀ name ∈ kHandoffFileName :: fetchedFiles,
      Holds s.directories l.prepared.directory name) :
    (handedFiles l handoff).all s.isFile = true := by
  obtain ⟨-, -, -, -, hdirectory, hhanded⟩ := h.files hsound hof
  rw [hhanded, List.all_eq_true]
  intro f hf
  obtain ⟨name, hname, rfl⟩ := List.mem_map.mp hf
  rw [← hdirectory]
  exact isFile_iff.mpr (hfiles name hname)

def Prepared (directories : List (Path × List String)) (p : PreparedUpdate) : Prop :=
  p.updateTransactionId ≠ "" → p.error = "" →
    ∀ name ∈ fetchedFiles, Holds directories p.directory name

/-- What a check has fetched, and what its clean-up leaves alone. -/
def StageKept (directories : List (Path × List String)) (spared : List Path) : WorkerStage → Prop
  | .download _ p destinations =>
      ∃ n, destinations = (fetchedFiles.drop n).map (fun name => p.directory ++ [name]) ∧
        ∀ name ∈ fetchedFiles.take n, Holds directories p.directory name
  | .complete _ p => ∀ p' ∈ p, Prepared directories p'
  | .prune _ keepNew keepInFlight => ∀ d ∈ spared, d = keepNew ∨ d = keepInFlight
  | .remove _ _ _ _ todo => ∀ d ∈ spared, d ∉ todo
  | .discard _ _ directory => directory ≠ [] → directory ∉ spared
  | _ => True

/-- The directories of the ready transaction and of the one that was handed over last. -/
def spared (s : UpdateService) : List Path :=
  s.preparedUpdate.directory :: (s.launched.head?.map (·.launch.prepared.directory)).toList

/-- `LaunchUpdater` is under way. -/
def launching : UiStage → Bool
  | .idle | .emitResult _ | .emitState => false
  | _ => true

/-- What `LaunchUpdater` has put in place, and the launch that it has yet to record. -/
def UiKept (directories : List (Path × List String)) (ready : PreparedUpdate)
    (last : Option Launch) : UiStage → Prop
  | .stage l | .readNotes l | .writePayload l _ | .readVerify l | .writeHandoff l _ =>
      l.prepared = ready
  | .start l _ => l.prepared = ready ∧ Holds directories ready.directory kHandoffFileName
  | .record l _ => last = some l
  | _ => True

/-- The ready transaction and the one that was handed over last have their files. -/
structure Kept (s : UpdateService) : Prop where
  one : ∀ v ∈ s.workers, ∀ w ∈ s.workers, v.operation.id = w.operation.id
  quiet : launching s.ui = true → s.workers = []
  ready : Prepared s.directories s.preparedUpdate
  ui : UiKept s.directories s.preparedUpdate (s.launched.head?.map (·.launch)) s.ui
  workers : ∀ w ∈ s.workers, StageKept s.directories s.spared w.stage
  present : ∀ l ∈ s.launched, l.present = true
  last : ∀ l ∈ s.launched.head?, ∀ name ∈ kHandoffFileName :: fetchedFiles,
    Holds s.directories l.launch.prepared.directory name
  recorded : (∀ l handoff, s.ui ≠ .record l handoff) → s.lastUpdaterLaunch.handoffPath =
    (s.launched.head?.map fun l => handoffPath l.launch).getD []

/-- Checks and launches keep apart: neither begins before the clean-up of every check is over. -/
def Apart (s : UpdateService) : UpdateAction → Prop
  | .requestUpdateCheck | .launchUpdater => s.workers = []
  | _ => True

instance decApart (s : UpdateService) : (a : UpdateAction) → Decidable (Apart s a)
  | .requestUpdateCheck => inferInstanceAs (Decidable (s.workers = []))
  | .launchUpdater => inferInstanceAs (Decidable (s.workers = []))
  | .setChannel _ | .setVerifyReinstallMode _ | .deliver | .ui _ | .worker _ _ => isTrue trivial

/-- What the worker that is under way does to the directories. -/
theorem Kept.runWorker (h : Kept s) (hattr : Attributed s) (hw : w ∈ s.workers)
    (hstage : ∀ r p, w.stage ≠ .complete r p) (hrun : s.runWorker answer w = some (t, stage)) :
    (∀ d ∈ s.spared, ∀ name, Holds s.directories d name → Holds t.directories d name) ∧
      ∀ st ∈ stage, StageKept t.directories s.spared st := by
  have hkept := h.workers w hw
  have hsound := hattr.workers w hw
  unfold UpdateService.runWorker at hrun
  cases hst : w.stage with
  | feed =>
      simp only [hst, Option.some.injEq, Prod.mk.injEq] at hrun
      obtain ⟨rfl, rfl⟩ := hrun
      refine ⟨fun _ _ _ hn => hn, ?_⟩
      intro st hst'
      cases hst'
      unfold prepare
      dsimp only
      split_ifs <;> simp [StageKept, Prepared]
  | mkpath r p =>
      rw [hst] at hsound
      obtain ⟨-, rfl⟩ := hsound
      simp only [hst, Option.map_eq_some_iff, Prod.exists, Prod.mk.injEq] at hrun
      obtain ⟨u, st, hmk, rfl, rfl⟩ := hrun
      unfold mkpath at hmk
      dsimp only at hmk
      split_ifs at hmk <;> cases hmk
      · refine ⟨?_, ?_⟩
        · rintro d - name ⟨e, he, hd⟩
          exact ⟨e, List.mem_cons_of_mem _ he, hd⟩
        · intro st hst'
          cases hst'
          exact ⟨0, rfl, by simp⟩
      · exact ⟨fun _ _ _ hn => hn, by simp [StageKept, Prepared]⟩
  | download r p destinations =>
      rw [hst] at hkept
      obtain ⟨n, rfl, hfetched⟩ := hkept
      simp only [hst, Option.some.injEq, Prod.mk.injEq] at hrun
      obtain ⟨rfl, rfl⟩ := hrun
      cases hdrop : fetchedFiles.drop n with
      | nil =>
          -- both files are there
          refine ⟨fun _ _ _ hn => hn, ?_⟩
          have htake := List.take_append_drop n fetchedFiles
          rw [hdrop, List.append_nil] at htake
          rw [htake] at hfetched
          simpa [download, StageKept, Prepared] using fun _ _ => hfetched
      | cons name names =>
          unfold download
          simp only [List.map_cons]
          split_ifs with hok
          · simp only [List.dropLast_concat, List.getLast?_concat, Option.getD_some,
              Bool.and_eq_true] at hok ⊢
            refine ⟨fun _ _ _ hn => hn.addFile, ?_⟩
            intro st hst'
            cases hst'
            refine ⟨n + 1, ?_, ?_⟩
            · rw [← List.drop_drop, hdrop]
              rfl
            · intro name' hname'
              have hget : fetchedFiles.take (n + 1) = fetchedFiles.take n ++ [name] := by
                rw [List.take_add, hdrop]
                rfl
              rw [hget] at hname'
              rcases List.mem_append.mp hname' with hname' | hname'
              · exact (hfetched name' hname').addFile
              · obtain rfl := List.mem_singleton.mp hname'
                exact holds_addFile hok.2
          · exact ⟨fun _ _ _ hn => hn, by simp [StageKept, Prepared, String.append_eq_empty_iff]⟩
  | complete r p => exact absurd hst (hstage r p)
  | prune r keepNew keepInFlight =>
      rw [hst] at hkept
      simp only [hst, Option.some.injEq, Prod.mk.injEq] at hrun
      obtain ⟨rfl, rfl⟩ := hrun
      refine ⟨fun _ _ _ hn => hn, ?_⟩
      intro st hst'
      cases hst'
      intro d hd htodo
      have hkeeps := (List.mem_filter.mp htodo).2
      rcases hkept d hd with rfl | rfl <;> simp at hkeeps
  | remove r keepNew keepInFlight listed todo =>
      rw [hst] at hkept
      cases todo with
      | nil =>
          simp only [hst, Option.some.injEq, Prod.mk.injEq] at hrun
          obtain ⟨rfl, rfl⟩ := hrun
          exact ⟨fun _ _ _ hn => hn, by simp [StageKept]⟩
      | cons path todo =>
          simp only [hst, Option.some.injEq, Prod.mk.injEq] at hrun
          obtain ⟨rfl, rfl⟩ := hrun
          refine ⟨fun d hd name hn => hn.removeRecursively ?_, ?_⟩
          · rintro rfl
            exact hkept d hd List.mem_cons_self
          · intro st hst'
            cases hst'
            exact fun d hd htodo => hkept d hd (List.mem_cons_of_mem _ htodo)
  | discard verdict r directory =>
      rw [hst] at hkept
      simp only [hst, Option.some.injEq, Prod.mk.injEq] at hrun
      obtain ⟨rfl, rfl⟩ := hrun
      constructor
      · intro d hd name hn
        split_ifs with hnone
        · exact hn
        · refine hn.removeRecursively ?_
          rintro rfl
          exact hkept hnone hd
      · split_ifs <;> simp [StageKept]
  | post deliverResult r =>
      simp only [hst, Option.some.injEq, Prod.mk.injEq] at hrun
      obtain ⟨rfl, rfl⟩ := hrun
      exact ⟨fun _ _ _ hn => hn, by simp⟩

/-- The only worker has moved. -/
theorem Kept.moved (h : Kept s) (hw : w ∈ s.workers) {after : List Worker}
    (hmoved : Moved s.workers w stage after) {v : Worker} (hv : v ∈ after) :
    v.operation = w.operation ∧ stage = some v.stage := by
  rcases hmoved.origin v hv with ⟨hv, hne⟩ | hmove
  · exact absurd (h.one v hv w hw) hne
  · exact hmove

/-- While a worker is there the last launch has been recorded. -/
theorem Kept.keepInFlight (h : Kept s) (hw : w ∈ s.workers) :
    ∀ l ∈ s.launched.head?,
      s.lastUpdaterLaunch.handoffPath.dropLast = l.launch.prepared.directory := by
  intro l hl
  have hrecord : ∀ l handoff, s.ui ≠ .record l handoff := by
    intro l handoff hui
    have hnone := h.quiet (by rw [hui]; rfl)
    rw [hnone] at hw
    cases hw
  rw [h.recorded hrecord, Option.mem_def.mp hl]
  exact List.dropLast_concat

/-- The transaction that a check still holds is neither the ready one nor one that was handed
    over. -/
theorem Attributed.held_not_spared (h : Attributed s) (hlaunching : Launching s)
    (hw : w ∈ s.workers) {r : UpdateCheckResult} {p : PreparedUpdate}
    (hstage : w.stage = .complete r (some p)) (hdirectory : p.directory ≠ []) :
    p.directory ∉ s.spared := by
  have hsound := h.workers w hw
  have hheld := h.held w hw
  rw [hstage] at hsound hheld
  have hfor := hsound p rfl
  have hid : p.updateTransactionId ≠ "" := fun hnone => hdirectory (hfor.unplaced hnone)
  have hplace := (hfor.placed hid).1
  obtain ⟨-, hother⟩ := hheld hid
  -- it is the directory of no adopted check
  have hadopted : ∀ b ∈ s.adopted, p.directory ≠ b.prepared.directory := by
    intro b hb he
    rcases (h.adopted b hb).prepared with hnone | hb'
    · rw [hnone] at he
      exact hdirectory he
    · by_cases hbid : b.prepared.updateTransactionId = ""
      · exact hdirectory (he.trans (hb'.unplaced hbid))
      · rw [hplace, (hb'.placed hbid).1] at he
        exact hother b hb (List.singleton_inj.mp (List.append_cancel_left he)).symm
  intro hmem
  rcases List.mem_cons.mp hmem with he | hmem
  · rw [h.ready] at he
    cases hhead : s.adopted.head? with
    | none => rw [hhead] at he; exact hdirectory he
    | some b => rw [hhead] at he; exact hadopted b (List.mem_of_mem_head? hhead) he
  · obtain ⟨l, hl, he⟩ := Option.map_eq_some_iff.mp (Option.mem_toList.mp hmem)
    obtain ⟨⟨b, hb⟩, -⟩ := hlaunching.launched l (List.mem_of_mem_head? hl)
    exact hadopted b hb.mem (by rw [← hb.prepared, he])

theorem Kept.worker_step (h : Kept s) (hflight : SingleFlight s) (hattr : Attributed s)
    (hlaunching : Launching s) {operation : Nat}
    (hstep : s.workerStep answer operation = some s') : Kept s' := by
  obtain ⟨w, hw, t, stage, hrun, hs, hmoved⟩ := workerStep_some hflight.nodup hstep
  have hone : ∀ v ∈ s'.workers, ∀ v' ∈ s'.workers, v.operation.id = v'.operation.id := by
    intro v hv v' hv'
    rw [(h.moved hw hmoved hv).1, (h.moved hw hmoved hv').1]
  have hquiet : launching s.ui = false := by
    by_contra hui
    rw [h.quiet (by simpa using hui)] at hw
    cases hw
  have hui : ∀ (ds : List (Path × List String)) (p : PreparedUpdate) (last : Option Launch),
      UiKept ds p last s.ui := by
    intro ds p last
    revert hquiet
    cases s.ui <;> first | exact fun _ => trivial | (intro hquiet; cases hquiet)
  by_cases hstage : ∀ r p, w.stage ≠ .complete r p
  · obtain ⟨hsame, hui', hlaunched, hlast, -⟩ := runWorker_apart hstage hrun
    obtain ⟨hstays, hnext⟩ := h.runWorker hattr hw hstage hrun
    have hspared : t.spared = s.spared := by
      unfold spared
      rw [hsame.preparedUpdate, hlaunched]
    rw [hs]
    constructor
    · exact hone
    · intro hl
      rw [show launching t.ui = false from hui' ▸ hquiet] at hl
      cases hl
    · intro hid herror name hname
      show Holds t.directories t.preparedUpdate.directory name
      rw [hsame.preparedUpdate] at hid herror ⊢
      exact hstays _ List.mem_cons_self name (h.ready hid herror name hname)
    · exact hui' ▸ hui _ _ _
    · intro v hv
      show StageKept t.directories t.spared v.stage
      rw [hspared]
      exact hnext _ (h.moved hw hmoved hv).2
    · exact hlaunched ▸ h.present
    · intro l hl name hname
      have hl' : l ∈ s.launched.head? := hlaunched ▸ hl
      refine hstays _ ?_ name (h.last l hl' name hname)
      exact List.mem_cons_of_mem _ (Option.mem_toList.mpr (Option.map_eq_some_iff.mpr ⟨l, hl', rfl⟩))
    · show (∀ l handoff, t.ui ≠ _) → t.lastUpdaterLaunch.handoffPath = _
      rw [hui', hlaunched, hlast]
      exact h.recorded
  · simp only [not_forall, not_not] at hstage
    obtain ⟨r, p, hstage⟩ := hstage
    have hprepared := h.workers w hw
    unfold UpdateService.runWorker at hrun
    rw [hstage] at hrun hprepared
    cases hrun
    have hkeeps := h.keepInFlight hw
    rw [hs]
    refine ⟨hone, ?_, ?_, hui _ _ _, ?_, h.present, h.last, h.recorded⟩
    · intro hl
      rw [show launching _ = false from hquiet] at hl
      cases hl
    · -- the transaction of the check that is adopted has its files
      show Prepared s.directories (if _ then p.getD {} else s.preparedUpdate)
      split_ifs
      · cases p with
        | none => exact fun hid => absurd rfl hid
        | some p => exact hprepared p rfl
      · exact h.ready
    · intro v hv
      rw [← Option.some.inj (h.moved hw hmoved hv).2]
      unfold spared
      dsimp only
      split_ifs
      · intro d hd
        rcases List.mem_cons.mp hd with rfl | hd
        · exact .inl rfl
        · obtain ⟨l, hl, rfl⟩ := Option.map_eq_some_iff.mp (Option.mem_toList.mp hd)
          exact .inr (hkeeps l hl).symm
      · intro hne
        cases p with
        | none => exact absurd rfl hne
        | some p => exact hattr.held_not_spared hlaunching hw hstage hne

/-- A step of the UI thread that touches no file and is not the record of a launch. -/
theorem Kept.of_ui (h : Kept s) (hworkers : s'.workers = s.workers)
    (hdirectories : s'.directories = s.directories)
    (hready : s'.preparedUpdate = s.preparedUpdate) (hlaunched : s'.launched = s.launched)
    (hlast : s'.lastUpdaterLaunch = s.lastUpdaterLaunch) (hrecord : ∀ l handoff, s.ui ≠ .record l handoff)
    (hquiet : launching s'.ui = true → s.workers = [])
    (hui : UiKept s.directories s.preparedUpdate (s.launched.head?.map (·.launch)) s'.ui) :
    Kept s' := by
  constructor
  · rw [hworkers]; exact h.one
  · rw [hworkers]; exact hquiet
  · rw [hdirectories, hready]; exact h.ready
  · rw [hdirectories, hready, hlaunched]; exact hui
  · unfold spared
    rw [hworkers, hdirectories, hready, hlaunched]
    exact h.workers
  · rw [hlaunched]; exact h.present
  · rw [hlaunched, hdirectories]; exact h.last
  · rw [hlaunched, hlast]
    exact fun _ => h.recorded hrecord

theorem Kept.ui_step (h : Kept s) (hattr : Attributed s) (hlaunching : Launching s)
    (hstep : s.uiStep answer = some s') : Kept s' := by
  have hui := h.ui
  have hsound := hlaunching.ui
  have hquiet := h.quiet
  unfold uiStep at hstep
  cases hstage : s.ui with
  | idle => simp [hstage] at hstep
  | emitResult delivery =>
      simp only [hstage, Option.some.injEq] at hstep
      subst hstep
      exact h.of_ui rfl rfl rfl rfl rfl (by simp [hstage]) (by simp [launching]) trivial
  | emitState =>
      simp only [hstage, Option.some.injEq] at hstep
      subst hstep
      exact h.of_ui rfl rfl rfl rfl rfl (by simp [hstage]) (by simp [launching]) trivial
  | readState =>
      simp only [hstage] at hstep
      have hnone := hquiet (by rw [hstage]; rfl)
      split at hstep <;> cases hstep <;>
        exact h.of_ui rfl rfl rfl rfl rfl (by simp [hstage]) (fun _ => hnone) trivial
  | readPrepared stateNow stateAt =>
      simp only [hstage] at hstep
      have hnone := hquiet (by rw [hstage]; rfl)
      split at hstep <;> cases hstep
      · exact h.of_ui rfl rfl rfl rfl rfl (by simp [hstage]) (fun _ => hnone) trivial
      · exact h.of_ui rfl rfl rfl rfl rfl (by simp [hstage]) (fun _ => hnone) rfl
  | stage l =>
      simp only [hstage] at hstep
      rw [hstage] at hui
      have hnone := hquiet (by rw [hstage]; rfl)
      split at hstep
      · cases hstep
        exact h.of_ui rfl rfl rfl rfl rfl (by simp [hstage]) (fun _ => hnone) trivial
      · split at hstep <;> cases hstep
        · exact h.of_ui rfl rfl rfl rfl rfl (by simp [hstage]) (fun _ => hnone) hui
        · exact h.of_ui rfl rfl rfl rfl rfl (by simp [hstage]) (fun _ => hnone) trivial
  | readNotes l =>
      simp only [hstage, Option.some.injEq] at hstep
      subst hstep
      rw [hstage] at hui
      have hnone := hquiet (by rw [hstage]; rfl)
      exact h.of_ui rfl rfl rfl rfl rfl (by simp [hstage]) (fun _ => hnone) hui
  | writePayload l notes =>
      simp only [hstage, Option.some.injEq] at hstep
      subst hstep
      rw [hstage] at hui
      have hnone := hquiet (by rw [hstage]; rfl)
      exact h.of_ui rfl rfl rfl rfl rfl (by simp [hstage]) (fun _ => hnone) hui
  | readVerify l =>
      simp only [hstage, Option.some.injEq] at hstep
      subst hstep
      rw [hstage] at hui
      have hnone := hquiet (by rw [hstage]; rfl)
      exact h.of_ui rfl rfl rfl rfl rfl (by simp [hstage]) (fun _ => hnone) hui
  | writeHandoff l v =>
      simp only [hstage] at hstep
      rw [hstage] at hui
      have hnone := hquiet (by rw [hstage]; rfl)
      split at hstep <;> cases hstep
      · -- the document is in the directory of the ready transaction
        rename_i hok
        rw [Bool.and_eq_true] at hok
        refine ⟨h.one, fun _ => hnone, fun hid herror name hname => ?_, ⟨hui, ?_⟩, ?_, h.present,
          fun k hk name hname => (h.last k hk name hname).addFile, ?_⟩
        · exact (h.ready hid herror name hname).addFile
        · show Holds _ s.preparedUpdate.directory _
          rw [← show l.prepared = s.preparedUpdate from hui]
          exact holds_addFile hok.2
        · show ∀ w ∈ s.workers, _
          rw [hnone]
          intro w hw
          cases hw
        · exact fun _ => h.recorded (by simp [hstage])
      · exact h.of_ui rfl rfl rfl rfl rfl (by simp [hstage]) (fun _ => hnone) trivial
  | start l handoff =>
      simp only [hstage] at hstep
      rw [hstage] at hui hsound
      have hnone := hquiet (by rw [hstage]; rfl)
      split at hstep <;> cases hstep
      · obtain ⟨hready, hdocument⟩ := hui
        obtain ⟨⟨b, hb⟩, hof⟩ := hsound
        obtain ⟨-, herror, hid, -⟩ := handoffRefusalReason_none hb.accepted
        have hfiles : ∀ name ∈ kHandoffFileName :: fetchedFiles,
            Holds s.directories l.prepared.directory name := by
          rw [hready] at herror hid ⊢
          exact List.forall_mem_cons.mpr ⟨hdocument, h.ready hid herror⟩
        refine ⟨h.one, fun _ => hnone, h.ready, rfl, ?_, ?_, ?_, fun hrec => absurd rfl (hrec l handoff)⟩
        · show ∀ w ∈ s.workers, _
          rw [hnone]
          intro w hw
          cases hw
        · refine List.forall_mem_cons.mpr ⟨?_, h.present⟩
          exact hb.handed_present (hattr.adopted b hb.mem) hof hfiles
        · intro k hk
          cases hk
          exact hfiles
      · exact h.of_ui rfl rfl rfl rfl rfl (by simp [hstage]) (fun _ => hnone) trivial
  | record l handoff =>
      simp only [hstage, Option.some.injEq] at hstep
      subst hstep
      have hnone := hquiet (by rw [hstage]; rfl)
      rw [hstage] at hui
      obtain ⟨k, hk, rfl⟩ := Option.map_eq_some_iff.mp (show _ = some l from hui)
      refine ⟨h.one, fun _ => hnone, h.ready, trivial, h.workers, h.present, h.last, fun _ => ?_⟩
      show handoffPath k.launch = (s.launched.head?.map _).getD []
      rw [hk]
      rfl

theorem Kept.step (h : Kept s) (hflight : SingleFlight s) (hattr : Attributed s)
    (hlaunching : Launching s) (hapart : Apart s a) (hstep : s.step a = some s') : Kept s' := by
  cases a with
  | setChannel channel =>
      obtain ⟨hidle, hs⟩ := Option.ite_none_right_eq_some.mp hstep
      cases hs
      exact h.of_ui rfl rfl rfl rfl rfl (by simp [hidle]) h.quiet h.ui
  | setVerifyReinstallMode on =>
      obtain ⟨hidle, hs⟩ := Option.ite_none_right_eq_some.mp hstep
      cases hs
      exact h.of_ui rfl rfl rfl rfl rfl (by simp [hidle]) h.quiet h.ui
  | requestUpdateCheck =>
      obtain ⟨hidle, hs⟩ := Option.ite_none_right_eq_some.mp hstep
      cases hs
      have hnone : s.workers = [] := hapart
      unfold RequestUpdateCheck
      split_ifs
      · exact h
      refine ⟨?_, ?_, h.ready, h.ui, ?_, h.present, h.last, h.recorded⟩
      · rw [hnone]
        intro v hv w hw
        rw [List.mem_singleton.mp hv, List.mem_singleton.mp hw]
      · rw [hidle]
        intro hl
        cases hl
      · rw [hnone]
        intro w hw
        rw [List.mem_singleton.mp hw]
        trivial
  | launchUpdater =>
      obtain ⟨hidle, hs⟩ := Option.ite_none_right_eq_some.mp hstep
      cases hs
      exact h.of_ui rfl rfl rfl rfl rfl (by simp [hidle]) (fun _ => hapart) trivial
  | deliver =>
      have hdeliver : s.deliver = some s' := hstep
      unfold UpdateService.deliver at hdeliver
      split at hdeliver
      · rename_i hidle _
        cases hdeliver
        refine h.of_ui rfl rfl rfl rfl rfl (by simp [hidle]) ?_ ?_ <;> dsimp only <;> split_ifs
        · exact fun hl => absurd hl (by simp [launching])
        · exact fun hl => absurd hl (by simp [launching])
        · trivial
        · trivial
      · cases hdeliver
  | ui answer => exact h.ui_step hattr hlaunching hstep
  | worker answer operation => exact h.worker_step hflight hattr hlaunching hstep

section Runs

variable {transactionsRoot : Path} {appDir : String} {pid : Nat} {version : String}
  {channel : UpdateChannel} {installMode : InstallMode} {directories : List (Path × List String)}
  {as : List UpdateAction}

/-- Where checks, clean-ups and launches keep apart, every updater that is started finds the
    document, the manifest and the signature it is handed, and they stay until another updater has
    been started. -/
theorem handed_survives
    (h : exec (.start transactionsRoot appDir pid version channel installMode directories) as =
      some s)
    (hapart : StepRun.Meets step Apart
      (.start transactionsRoot appDir pid version channel installMode directories) as) :
    (∀ l ∈ s.launched, l.present = true) ∧
      ∀ l ∈ s.launched.head?, ∀ f ∈ handedFiles l.launch l.handoff, s.isFile f = true := by
  obtain ⟨⟨⟨hflight, hattr⟩, hlaunching⟩, hkept⟩ := StepRun.exec_invariant
    (I := fun s => ((SingleFlight s ∧ Attributed s) ∧ Launching s) ∧ Kept s)
    (fun _ _ _ hs hG hstep => ⟨⟨⟨hs.1.1.1.step hstep, hs.1.1.2.step hs.1.1.1 hstep⟩,
        hs.1.2.step hs.1.1.1 hs.1.1.2 hstep⟩, hs.2.step hs.1.1.1 hs.1.1.2 hs.1.2 hG hstep⟩)
    ⟨⟨⟨.start .., .start ..⟩, trivial, by simp [UpdateService.start]⟩, by
      constructor <;> simp [UpdateService.start, launching, Prepared, UiKept]⟩ hapart h
  refine ⟨hkept.present, fun l hl => ?_⟩
  obtain ⟨⟨b, hb⟩, hof⟩ := hlaunching.launched l (List.mem_of_mem_head? hl)
  exact List.all_eq_true.mp
    (hb.handed_present (hattr.adopted b hb.mem) hof (hkept.last l hl))

/-- The updater has been started, and a later check has cleaned up. -/
theorem handed_survives_pruned :
    ∃ s, exec (.start ["updates"] "" 1 "1.0.0" .stable .portable [])
        (checked (offering "1.1.0") 1 ++ List.replicate 3 (.worker {} 1) ++ launch ++ [.ui {}] ++
          checked (offering "1.2.0") 2 ++ List.replicate 3 (.worker {} 2)) = some s ∧
      s.pruned.length = 2 ∧ ∀ l ∈ s.launched.head?, ∀ f ∈ handedFiles l.launch l.handoff,
        s.isFile f = true := by
  have hrun : (exec (.start ["updates"] "" 1 "1.0.0" .stable .portable [])
      (checked (offering "1.1.0") 1 ++ List.replicate 3 (.worker {} 1) ++ launch ++ [.ui {}] ++
        checked (offering "1.2.0") 2 ++ List.replicate 3 (.worker {} 2))).map (·.pruned.length) =
      some 2 := by decide +kernel
  have hapart : StepRun.Meets step Apart (.start ["updates"] "" 1 "1.0.0" .stable .portable [])
      (checked (offering "1.1.0") 1 ++ List.replicate 3 (.worker {} 1) ++ launch ++ [.ui {}] ++
        checked (offering "1.2.0") 2 ++ List.replicate 3 (.worker {} 2)) := by decide +kernel
  obtain ⟨s, h, hpruned⟩ := Option.map_eq_some_iff.mp hrun
  exact ⟨s, h, hpruned, (handed_survives h hapart).2⟩

end Runs

end Exosnap.Update.UpdateService
