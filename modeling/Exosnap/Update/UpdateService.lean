/-
  Update checks and the launch of the updater (`UpdateService.cpp`, `UpdateCheckGate.cpp`,
  `UpdateLaunchPlan.cpp`): the UI thread, on which channels are selected, checks are requested,
  results are delivered and the updater is launched, and the workers that run the checks.

  Each lock of the mutex and each use of the file system is a step. A path is the list of its names, a
  directory is removed whole, and a transaction id that is drawn is new. A feed gives any answer. The
  feed override, the automation run, the watch on the updater's process and the log are left out. The
  fields from `offers` on, and those of a launch and a delivery that say `At`, are a history that no
  step reads.
-/
import Exosnap.Update.UpdateTypes
import Exosnap.Lib.StepRun

namespace Exosnap.Update

abbrev Path := List String

/-! ## Checks -/

structure UpdateState where
  channel : UpdateChannel
  installMode : InstallMode
  checking : Bool := false
  updateAvailable : Bool := false
  availableVersion : Option SemVer := none
  availableVersionRaw : String := ""
  lastError : String := ""
  deriving DecidableEq

structure UpdateCheckOperation where
  id : Nat
  channel : UpdateChannel
  verifyReinstall : Bool
  deriving DecidableEq

inductive UpdateCompletionVerdict where
  | adopt
  | supersededByNewerCheck
  | channelChanged
  deriving DecidableEq

structure UpdateCheckCompletion where
  state : UpdateState
  verdict : UpdateCompletionVerdict := .adopt
  publish : Bool := false
  adoptNotes : Bool := false

def ResolveUpdateCheckCompletion (prior : UpdateState) (completed : UpdateCheckOperation)
    (activeOperation : Nat) (currentChannel : UpdateChannel) (result : UpdateCheckResult) :
    UpdateCheckCompletion :=
  if completed.id ≠ activeOperation then
    { state := prior, verdict := .supersededByNewerCheck }
  else if completed.channel ≠ currentChannel then
    { state := { prior with
        checking := false, channel := currentChannel, updateAvailable := false
        availableVersion := none, availableVersionRaw := "", lastError := "" }
      publish := true
      verdict := .channelChanged }
  else
    { state := { prior with
        checking := false, channel := completed.channel, updateAvailable := result.updateAvailable
        availableVersion := result.availableVersion
        availableVersionRaw := result.availableVersionRaw
        lastError := result.errorMessage.getD "" }
      publish := true
      verdict := .adopt
      adoptNotes := true }

def ApplyUpdateChannelSelection (prior : UpdateState) (channel : UpdateChannel) : UpdateState :=
  if prior.channel = channel then prior
  else { prior with
    channel := channel, updateAvailable := false, availableVersion := none
    availableVersionRaw := "", lastError := "" }

/-! ## Handoffs -/

structure PreparedUpdate where
  updateTransactionId : String := ""
  targetVersion : String := ""
  directory : Path := []
  manifestPath : Path := []
  manifestSignaturePath : Path := []
  error : String := ""
  deriving DecidableEq

def kHandoffFileName : String := "update-handoff.json"
def kManifestFileName : String := "update-manifest.json"
def kManifestSignatureFileName : String := "update-manifest.json.sig"

structure UpdateHandoff where
  updateTransactionId : String
  targetVersion : String
  currentVersion : String
  manifestPath : Path
  manifestSignaturePath : Path
  installMode : InstallMode
  installDir : String
  appPid : Nat
  verifyReinstall : Bool
  deriving DecidableEq

def BuildUpdateHandoff (st : UpdateState) (prepared : PreparedUpdate) (installDir : String)
    (pid : Nat) (currentVersion : String) (verifyReinstall : Bool) : UpdateHandoff where
  updateTransactionId := prepared.updateTransactionId
  targetVersion := st.availableVersionRaw
  currentVersion := currentVersion
  manifestPath := prepared.manifestPath
  manifestSignaturePath := prepared.manifestSignaturePath
  installMode := st.installMode
  installDir := installDir
  appPid := pid
  verifyReinstall := verifyReinstall

def HandoffRefusalReason (st : UpdateState) (prepared : PreparedUpdate) : String :=
  if st.availableVersionRaw = "" then "There is no offered version to hand over."
  else if prepared.error ≠ "" then prepared.error
  else if prepared.updateTransactionId = "" ∨ prepared.manifestPath = [] ∨
      prepared.manifestSignaturePath = [] then
    "This update has not been prepared yet. Check for updates again."
  else if prepared.targetVersion ≠ st.availableVersionRaw then
    "The prepared update is for version " ++ prepared.targetVersion ++ ", but " ++
      st.availableVersionRaw ++ " is on offer. Check for updates again."
  else ""

structure WhatsNewNote where
  version : String
  body : String
  htmlUrl : String
  deriving DecidableEq

structure WhatsNewPendingPayload where
  targetVersion : String
  notes : List WhatsNewNote
  deriving DecidableEq

def whatsNewPayload (targetRaw : String) (notes : List ReleaseNote) : WhatsNewPendingPayload where
  targetVersion := targetRaw
  notes := notes.map fun n =>
    { version := n.version.toString, body := n.bodyMarkdown, htmlUrl := n.htmlUrl }

/-! ## Threads -/

/-- Where the worker of a check is. -/
inductive WorkerStage where
  | feed
  | mkpath (result : UpdateCheckResult) (prepared : PreparedUpdate)
  | download (result : UpdateCheckResult) (prepared : PreparedUpdate) (destinations : List Path)
  | complete (result : UpdateCheckResult) (prepared : Option PreparedUpdate)
  | prune (result : UpdateCheckResult) (keepNew keepInFlight : Path)
  | remove (result : UpdateCheckResult) (keepNew keepInFlight : Path) (listed todo : List Path)
  | discard (verdict : UpdateCompletionVerdict) (result : UpdateCheckResult) (directory : Path)
  | post (deliverResult : Bool) (result : UpdateCheckResult)
  deriving DecidableEq

structure Worker where
  operation : UpdateCheckOperation
  stage : WorkerStage := .feed
  /-- The number its adoption had. -/
  adoptedAt : Nat := 0
  deriving DecidableEq

/-- A call that is queued for the UI thread. -/
structure Delivery where
  result : UpdateCheckResult
  deliverResult : Bool
  operationChannel : UpdateChannel
  adoptedAt : Nat
  deriving DecidableEq

/-- What `LaunchUpdater` has read, and the number of offers there were when it read it. -/
structure Launch where
  stateNow : UpdateState
  stateAt : Nat
  prepared : PreparedUpdate
  preparedAt : Nat
  /-- Every prune that was under way when the transaction was read keeps its directory. -/
  sparedAt : Bool
  notesAt : Nat := 0
  payload : Option WhatsNewPendingPayload := none
  deriving DecidableEq

/-- Where the UI thread is: in a delivery, or in `LaunchUpdater`. -/
inductive UiStage where
  | idle
  | emitResult (delivery : Delivery)
  | emitState
  | readState
  | readPrepared (stateNow : UpdateState) (stateAt : Nat)
  | stage (launch : Launch)
  | readNotes (launch : Launch)
  | writePayload (launch : Launch) (notes : List ReleaseNote)
  | readVerify (launch : Launch)
  | writeHandoff (launch : Launch) (verifyReinstall : Bool)
  | start (launch : Launch) (handoff : UpdateHandoff)
  | record (launch : Launch) (handoff : UpdateHandoff)
  deriving DecidableEq

structure UpdaterLaunchInfo where
  targetVersion : String := ""
  updateTransactionId : String := ""
  handoffPath : Path := []
  deriving DecidableEq

/-! ## The service -/

structure AdoptedCheck where
  operation : UpdateCheckOperation
  result : UpdateCheckResult
  prepared : PreparedUpdate
  /-- The channel that was selected. -/
  selected : UpdateChannel
  number : Nat
  deriving DecidableEq

/-- The updater was started. -/
structure Started where
  launch : Launch
  handoff : UpdateHandoff
  /-- The files the updater is handed were there. -/
  present : Bool
  deriving DecidableEq

/-- A prune has ended. -/
structure Pruned where
  keepNew : Path
  keepInFlight : Path
  listed : List Path
  left : List Path
  deriving DecidableEq

structure UpdateService where
  /-- Where transactions live, or empty when there is no such place. -/
  transactionsRoot : Path
  appDir : String
  pid : Nat
  version : String
  channel : UpdateChannel
  state : UpdateState
  nextOperationId : Nat := 1
  activeOperation : Nat := 0
  verifyReinstall : Bool := false
  preparedUpdate : PreparedUpdate := {}
  lastUpdaterLaunch : UpdaterLaunchInfo := {}
  gapNotes : List ReleaseNote := []
  allChannelNotes : List ReleaseNote := []
  workers : List Worker := []
  /-- The calls that wait for the UI thread. -/
  queue : List Delivery := []
  ui : UiStage := .idle
  /-- The directories, each with its files. -/
  directories : List (Path × List String)
  transactionIds : List String := []
  pendingPayload : Option WhatsNewPendingPayload := none
  errors : List String := []
  /-- How often a result was adopted or another channel selected. -/
  offers : Nat := 0
  adopted : List AdoptedCheck := []
  /-- Of each operation that published, its id and the active one's. -/
  publishers : List (Nat × Nat) := []
  emitted : List (UpdateCheckResult × UpdateState) := []
  launched : List Started := []
  pruned : List Pruned := []

namespace UpdateService

def SetChannel (s : UpdateService) (ch : UpdateChannel) : UpdateService :=
  { s with
    channel := ch, state := ApplyUpdateChannelSelection s.state ch
    offers := if s.state.channel = ch then s.offers else s.offers + 1 }

def RequestUpdateCheck (s : UpdateService) : UpdateService :=
  if s.activeOperation ≠ 0 then s
  else { s with
    nextOperationId := s.nextOperationId + 1
    activeOperation := s.nextOperationId
    state := { s.state with checking := true, channel := s.channel }
    workers := s.workers ++ [{ operation :=
      { id := s.nextOperationId, channel := s.channel, verifyReinstall := s.verifyReinstall } }] }

/-! ## A check's worker -/

structure Answer where
  ok : Bool := true
  result : UpdateCheckResult := { updateAvailable := false }
  transactionId : String := ""
  error : String := ""

def isDirectory (s : UpdateService) (directory : Path) : Bool :=
  s.directories.any (·.1 == directory)

/-- The parent directory of a file has it. -/
def isFile (s : UpdateService) (file : Path) : Bool :=
  s.directories.any fun d => d.2.any fun name => d.1 ++ [name] == file

def addFile (s : UpdateService) (directory : Path) (name : String) : UpdateService :=
  { s with directories := s.directories.map fun d =>
      if d.1 = directory then (d.1, name :: d.2) else d }

def removeRecursively (s : UpdateService) (directory : Path) : UpdateService :=
  { s with directories := s.directories.filter (·.1 ≠ directory) }

/-- The part of `PrepareUpdateTransaction` before the first use of the file system. -/
def prepare (s : UpdateService) (result : UpdateCheckResult) : WorkerStage :=
  let prepared : PreparedUpdate := { targetVersion := result.availableVersionRaw }
  if !result.updateAvailable then .complete result none
  else if s.transactionsRoot = [] then
    .complete result (some { prepared with
      error := "Can't locate a directory to prepare the update in." })
  else if result.manifestUrl = "" ∨ result.manifestSignatureUrl = "" then
    .complete result (some { prepared with
      error := "The offered release carries no signed update manifest." })
  else .mkpath result prepared

def mkpath (s : UpdateService) (answer : Answer) (result : UpdateCheckResult)
    (prepared : PreparedUpdate) : Option (UpdateService × WorkerStage) :=
  let directory := s.transactionsRoot ++ [answer.transactionId]
  if answer.transactionId = "" ∨ answer.transactionId ∈ s.transactionIds ∨
      s.isDirectory directory = true then none
  else
    let s' := { s with transactionIds := answer.transactionId :: s.transactionIds }
    let prepared := { prepared with
      updateTransactionId := answer.transactionId, directory := directory }
    if answer.ok then
      let manifestPath := directory ++ [kManifestFileName]
      let manifestSignaturePath := directory ++ [kManifestSignatureFileName]
      some ({ s' with directories := (directory, []) :: s.directories },
        .download result
          { prepared with manifestPath := manifestPath, manifestSignaturePath := manifestSignaturePath }
          [manifestPath, manifestSignaturePath])
    else
      some (s', .complete result (some { prepared with
        error := "Can't create the update transaction directory." }))

def download (s : UpdateService) (answer : Answer) (result : UpdateCheckResult)
    (prepared : PreparedUpdate) : List Path → UpdateService × WorkerStage
  | [] => (s, .complete result (some prepared))
  | destination :: destinations =>
      if answer.ok && s.isDirectory destination.dropLast then
        (s.addFile destination.dropLast (destination.getLast?.getD ""),
          .download result prepared destinations)
      else
        (s, .complete result (some { prepared with
          error := "Can't fetch the signed update manifest: " ++ answer.error }))

/-- The critical section of a check that has its result. -/
def complete (s : UpdateService) (operation : UpdateCheckOperation) (result : UpdateCheckResult)
    (prepared : Option PreparedUpdate) : UpdateService × WorkerStage :=
  let completion :=
    ResolveUpdateCheckCompletion s.state operation s.activeOperation s.channel result
  let adopt := completion.verdict == .adopt
  let preparedUpdate := if adopt then prepared.getD {} else s.preparedUpdate
  let directory := (prepared.map PreparedUpdate.directory).getD []
  ({ s with
      activeOperation := if operation.id = s.activeOperation then 0 else s.activeOperation
      state := if completion.publish then completion.state else s.state
      preparedUpdate := preparedUpdate
      gapNotes :=
        if completion.adoptNotes then result.gapNotes
        else if completion.verdict = .channelChanged then [] else s.gapNotes
      allChannelNotes :=
        if completion.adoptNotes then result.allChannelNotes
        else if completion.verdict = .channelChanged then [] else s.allChannelNotes
      offers := if adopt then s.offers + 1 else s.offers
      adopted :=
        if adopt then
          { operation := operation, result := result, prepared := preparedUpdate
            selected := s.channel, number := s.offers + 1 } :: s.adopted
        else s.adopted
      publishers :=
        if completion.publish then (operation.id, s.activeOperation) :: s.publishers
        else s.publishers },
    if adopt then .prune result preparedUpdate.directory s.lastUpdaterLaunch.handoffPath.dropLast
    else .discard completion.verdict result directory)

/-- The listing of `PruneTransactions`. -/
def listed (s : UpdateService) : List Path :=
  if s.transactionsRoot = [] then []
  else (s.directories.map Prod.fst).filter (·.dropLast = s.transactionsRoot)

/-- `none` for the stage is the worker's end. -/
def runWorker (s : UpdateService) (answer : Answer) (w : Worker) :
    Option (UpdateService × Option WorkerStage) :=
  match w.stage with
  | .feed => some (s, some (s.prepare answer.result))
  | .mkpath result prepared => (s.mkpath answer result prepared).map fun (s', stage) => (s', some stage)
  | .download result prepared destinations =>
      let (s', stage) := s.download answer result prepared destinations
      some (s', some stage)
  | .complete result prepared =>
      let (s', stage) := s.complete w.operation result prepared
      some (s', some stage)
  | .prune result keepNew keepInFlight =>
      some (s, some (.remove result keepNew keepInFlight s.listed
        (s.listed.filter fun path => !(path == keepNew || path == keepInFlight))))
  | .remove result keepNew keepInFlight listed todo =>
      match todo with
      | [] =>
          some ({ s with pruned :=
            ⟨keepNew, keepInFlight, listed, s.directories.map Prod.fst⟩ :: s.pruned },
            some (.post true result))
      | path :: todo =>
          some (s.removeRecursively path, some (.remove result keepNew keepInFlight listed todo))
  | .discard verdict result directory =>
      some (if directory = [] then s else s.removeRecursively directory,
        if verdict = .supersededByNewerCheck then none else some (.post false result))
  | .post deliverResult result =>
      some ({ s with queue := s.queue ++ [{ result := result, deliverResult := deliverResult
                                            operationChannel := w.operation.channel
                                            adoptedAt := w.adoptedAt }] }, none)

/-- The step of the worker whose operation has this id. -/
def workerStep (s : UpdateService) (answer : Answer) (id : Nat) : Option UpdateService :=
  (s.workers.find? (·.operation.id == id)).bind fun w =>
    (s.runWorker answer w).map fun (s', stage) =>
      { s' with workers :=
          match stage with
          | some stage => s.workers.map fun w' =>
              if w'.operation.id = id then
                { w' with
                  stage := stage
                  adoptedAt := if s'.offers = s.offers then w'.adoptedAt else s'.offers }
              else w'
          | none => s.workers.filter (·.operation.id ≠ id) }

/-! ## The UI thread -/

/-- The next queued call begins. -/
def deliver (s : UpdateService) : Option UpdateService :=
  match s.ui, s.queue with
  | .idle, delivery :: queue =>
      some { s with
        queue := queue
        ui :=
          if delivery.deliverResult && s.channel == delivery.operationChannel then
            .emitResult delivery
          else .emitState }
  | _, _ => none

/-- A prune of this worker, if it is at one, keeps the directory. -/
def spares (directory : Path) (w : Worker) : Bool :=
  match w.stage with
  | .prune _ keepNew keepInFlight => directory == keepNew || directory == keepInFlight
  | .remove _ _ _ _ todo => !todo.contains directory
  | _ => true

def updateError (s : UpdateService) (text : String) : UpdateService :=
  { s with ui := .idle, errors := text :: s.errors }

def handoffPath (launch : Launch) : Path := launch.prepared.directory ++ [kHandoffFileName]

/-- The files that an updater is handed. -/
def handedFiles (launch : Launch) (handoff : UpdateHandoff) : List Path :=
  [handoffPath launch, handoff.manifestPath, handoff.manifestSignaturePath]

def uiStep (s : UpdateService) (answer : Answer) : Option UpdateService :=
  match s.ui with
  | .idle => none
  | .emitResult delivery =>
      some { s with ui := .emitState, emitted := (delivery.result, s.state) :: s.emitted }
  | .emitState => some { s with ui := .idle }
  | .readState =>
      if answer.ok then some { s with ui := .readPrepared s.state s.offers }
      else some (s.updateError "Can't update while recording or finalizing.")
  | .readPrepared stateNow stateAt =>
      let refusal := HandoffRefusalReason stateNow s.preparedUpdate
      if refusal ≠ "" then some (s.updateError refusal)
      else some { s with
        ui := .stage { stateNow := stateNow, stateAt := stateAt, prepared := s.preparedUpdate
                       preparedAt := s.offers
                       sparedAt := s.workers.all (spares s.preparedUpdate.directory) } }
  | .stage launch =>
      if s.transactionsRoot = [] then
        some (s.updateError "Can't locate a staging directory for the updater.")
      else if answer.ok then some { s with ui := .readNotes launch }
      else some (s.updateError answer.error)
  | .readNotes launch =>
      some { s with ui := .writePayload { launch with notesAt := s.offers } s.gapNotes }
  | .writePayload launch notes =>
      let payload :=
        if launch.stateNow.availableVersionRaw ≠ "" ∧ notes ≠ [] ∧ answer.ok = true then
          some (whatsNewPayload launch.stateNow.availableVersionRaw notes)
        else none
      some { s with pendingPayload := payload, ui := .readVerify { launch with payload := payload } }
  | .readVerify launch => some { s with ui := .writeHandoff launch s.verifyReinstall }
  | .writeHandoff launch verifyReinstall =>
      if answer.ok && s.isDirectory launch.prepared.directory then
        some { s.addFile launch.prepared.directory kHandoffFileName with
          ui := .start launch (BuildUpdateHandoff launch.stateNow launch.prepared s.appDir s.pid
            s.version verifyReinstall) }
      else some (s.updateError ("Can't write the update handoff: " ++ answer.error))
  | .start launch handoff =>
      if answer.ok then
        some { s with
          ui := .record launch handoff
          launched := ⟨launch, handoff, (handedFiles launch handoff).all s.isFile⟩ :: s.launched }
      else some (s.updateError "Failed to launch the updater.")
  | .record launch handoff =>
      some { s with
        ui := .idle
        lastUpdaterLaunch :=
          { targetVersion := handoff.targetVersion
            updateTransactionId := handoff.updateTransactionId
            handoffPath := handoffPath launch } }

end UpdateService

inductive UpdateAction where
  | setChannel (channel : UpdateChannel)
  | setVerifyReinstallMode (on : Bool)
  | requestUpdateCheck
  | launchUpdater
  | deliver
  | ui (answer : UpdateService.Answer)
  | worker (answer : UpdateService.Answer) (operation : Nat)

namespace UpdateService

def step (s : UpdateService) : UpdateAction → Option UpdateService
  | .setChannel channel => if s.ui = .idle then some (s.SetChannel channel) else none
  | .setVerifyReinstallMode on => if s.ui = .idle then some { s with verifyReinstall := on } else none
  | .requestUpdateCheck => if s.ui = .idle then some s.RequestUpdateCheck else none
  | .launchUpdater => if s.ui = .idle then some { s with ui := .readState } else none
  | .deliver => s.deliver
  | .ui answer => s.uiStep answer
  | .worker answer operation => s.workerStep answer operation

def exec (s : UpdateService) (as : List UpdateAction) : Option UpdateService :=
  StepRun.exec step s as

/-- The application has started, with whatever directories there were. -/
def start (transactionsRoot : Path) (appDir : String) (pid : Nat) (version : String)
    (channel : UpdateChannel) (installMode : InstallMode) (directories : List (Path × List String)) :
    UpdateService where
  transactionsRoot := transactionsRoot
  appDir := appDir
  pid := pid
  version := version
  channel := channel
  state := { channel := channel, installMode := installMode }
  directories := directories

end UpdateService

end Exosnap.Update
