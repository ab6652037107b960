/-
  The environment transaction: snapshot, journal, apply, verify, restore, with every question it
  asks of the host and of the disk.

  Modelled from src/tools/envctl/core/env_transaction.h and env_transaction.cpp. `Begin`, `Restore`
  and `RecoverIfDirty` are programs that ask, so that a process can end between any two questions.
  A journal is replaced as a whole or not at all, and its text reads back as the journal
  (`JsonText.fromJsonText_toJsonText`), so the disk holds the journal itself.

  Some fields stand for nothing in the code and nothing there depends on them: the number of a
  transaction, the object that holds a journal, what a setter or a read is asked for, and the
  properties that are owed.
-/
import Exosnap.Envctl.Journal
import Exosnap.Lib.Asking

namespace Exosnap.Envctl

open Asking (Prog query)

/-! ## The host and the disk -/

structure ReadResult where
  ok : Bool
  devicePresent : Bool
  value : String
  error : String

/-- What the evidence shows of a read: its value, if it succeeded. -/
def ReadResult.shown (result : ReadResult) : String := if result.ok then result.value else ""

structure ApplyResult where
  accepted : Bool
  error : String := ""

structure PropertyDescriptor where
  id : PropertyId
  capability : CapabilityClass
  mutateMechanism : String := ""

/-- What a setter is called for: for the transaction of that number, or to put a value back. -/
inductive ApplyPurpose where
  | mutate (transaction : Nat)
  | restore
deriving DecidableEq

/-- The journal on disk, with the transaction it is of and the object that has it in its hands. -/
structure JournalFile where
  journal : Journal
  transaction : Nat
  holder : Option Nat

inductive Request where
  | clock
  | readJournal (adopter : Option Nat)
  | writeJournal (file : JournalFile)
  | deleteJournal
  | describe
  /-- A read that finds the value expected back verifies it. -/
  | read (id : PropertyId) (expected : Option String)
  | apply (purpose : ApplyPurpose) (id : PropertyId) (value : String)
  | devicePresent (deviceAlias : String)

namespace Request

abbrev Reply : Request → Type
  | clock => String
  | readJournal _ => Except String (Option JournalFile)
  | writeJournal _ => Option String
  | deleteJournal => Option String
  | describe => List PropertyDescriptor
  | read _ _ => ReadResult
  | apply _ _ _ => ApplyResult
  | devicePresent _ => Bool

end Request

abbrev envctl : Asking.Interface := ⟨Request, Request.Reply⟩

structure World where
  value : String → String
  disk : Option JournalFile := none
  /-- The properties that an apply has changed and no read has verified back. -/
  owed : List String := []

namespace World

/-- The host after a setter: what it set, under each key the last. -/
def changed (value : String → String) (effect : List (String × String)) : String → String :=
  fun key => (effect.reverse.lookup key).getD (value key)

def applied (w : World) (effect : List (String × String)) : World :=
  { w with
    value := changed w.value effect
    owed := w.owed ++ (effect.map Prod.fst).filter fun key => changed w.value effect key ≠ w.value key }

def verified (w : World) (key : String) : World :=
  { w with owed := w.owed.filter (· ≠ key) }

/-- What the journal on disk lists as outstanding. -/
def obligations (w : World) : List AppliedEntry := w.disk.elim [] fun file => file.journal.applied

/-- Everything that the environment decides. A setter has any effect, whatever it answers. -/
abbrev Choice : Request → Type
  | .clock => String
  | .readJournal _ => Option String
  | .writeJournal _ => Option String
  | .deleteJournal => Option String
  | .describe => List PropertyDescriptor
  | .read _ _ => ReadResult
  | .apply _ _ _ => ApplyResult × List (String × String)
  | .devicePresent _ => Bool

/-- A read that succeeds gives the value that is there. -/
def reply (w : World) : (r : Request) → Choice r → r.Reply
  | .clock, now => now
  | .readJournal _, error => error.elim (.ok w.disk) .error
  | .writeJournal _, error => error
  | .deleteJournal, error => error
  | .describe, descriptors => descriptors
  | .read id _, result => if result.ok then { result with value := w.value id.Key } else result
  | .apply _ _ _, answer => answer.1
  | .devicePresent _, present => present

def next (w : World) : (r : Request) → Choice r → World
  | .readJournal (some adopter), none =>
    { w with disk := w.disk.map fun file => { file with holder := some adopter } }
  | .writeJournal file, none => { w with disk := some file }
  | .deleteJournal, none => { w with disk := none }
  | .read id expected, result =>
    if result.ok ∧ expected = some (w.value id.Key) then w.verified id.Key else w
  | .apply _ _ _, answer => w.applied answer.2
  | _, _ => w

end World

def environment : Asking.Environment envctl World := ⟨World.Choice, World.reply, World.next⟩

/-! ## The transaction -/

structure PropertyEvidence where
  property : String := ""
  before : String := ""
  requested : String := ""
  applied : String := ""
  afterRestore : String := ""
  skipped : Bool := false

structure DevicePendingRestore where
  deviceAlias : String
  stableId : String
  friendlyName : String
  property : String
  originalValue : String
  remainingAction : String

structure AliasBinding where
  stableId : String
  friendlyName : String

/-- The configuration, with its defaults filled in. -/
structure TransactionConfig where
  journalPath : String
  transactionId : String
  runId : String := ""
  scenario : String := ""
  ownerPid : Int64 := 0
  machine : String := ""
  aliasLookup : Option (String → Option AliasBinding) := none

structure TransactionResult where
  ok : Bool := false
  state : TransactionState := .clean
  errorCode : String := ""
  error : String := ""
  pending : List DevicePendingRestore := []
  warning : String := ""

structure EnvironmentTransaction where
  config : TransactionConfig
  journal : Journal
  evidence : SortedMap String PropertyEvidence := {}
  terminal : Option TransactionResult := none
  /-- The place among the objects that are alive, where this is one of them. -/
  self : Option Nat := none
  transaction : Nat := 0
  /-- An apply of the transaction has been entered. -/
  mutated : Bool := false

/-- A property and the value it is to have. -/
abbrev Wish := PropertyId × String

namespace EnvironmentTransaction

def construct (config : TransactionConfig) (self : Option Nat) : EnvironmentTransaction where
  config := config
  journal :=
    { transactionId := config.transactionId, ownerPid := config.ownerPid, runId := config.runId
      machine := config.machine, scenario := config.scenario }
  self := self

variable (t : EnvironmentTransaction)

def Fail (code message : String) : TransactionResult :=
  { state := t.journal.state, errorCode := code, error := message }

def withState (state : TransactionState) : EnvironmentTransaction :=
  { t with journal := { t.journal with state := state } }

def withApplied (applied : List AppliedEntry) : EnvironmentTransaction :=
  { t with journal := { t.journal with applied := applied } }

/-- `evidence_[key]`, changed. -/
def note (key : String) (f : PropertyEvidence → PropertyEvidence) : EnvironmentTransaction :=
  { t with evidence := t.evidence.set key (f ((t.evidence.find key).getD {})) }

/-- What was skipped is after the restore what it was before. -/
def noteSkipped (which : PropertyEvidence → Bool) : EnvironmentTransaction :=
  { t with
    evidence := .ofEntries (t.evidence.entries.map fun entry =>
      (entry.1, if which entry.2 then { entry.2 with afterRestore := entry.2.before } else entry.2)) }

def stamped (state : TransactionState) (now : String) : EnvironmentTransaction :=
  { t with
    journal := { t.journal with
      state := state
      updatedAt := now
      createdAt := if t.journal.createdAt = "" then now else t.journal.createdAt } }

/-- The text is the error, where the write failed. -/
def PersistJournal (state : TransactionState) :
    Prog envctl (EnvironmentTransaction × Option String) := do
  let now ← query (I := envctl) .clock
  let t := t.stamped state now
  let error ← query (I := envctl) (.writeJournal ⟨t.journal, t.transaction, t.self⟩)
  return (t, error)

/-- Takes over the journal on disk. -/
def AdoptJournal (file : JournalFile) : EnvironmentTransaction :=
  let journal := file.journal
  let evidence : SortedMap String PropertyEvidence :=
    .ofEntries (journal.original.entries.map fun entry =>
      (entry.1, { property := entry.1, before := entry.2, skipped := true
                  requested := (journal.desired.find entry.1).getD entry.2 }))
  let t :=
    { t with
      journal := journal
      config := { t.config with
        transactionId := journal.transactionId, runId := journal.runId
        scenario := journal.scenario, machine := journal.machine }
      terminal := none, evidence := evidence, transaction := file.transaction, mutated := true }
  journal.applied.foldl (fun t entry => t.note entry.property fun evidence =>
    { evidence with
      property := entry.property
      before := if evidence.before = "" then entry.«from» else evidence.before
      requested := if evidence.requested = "" then entry.«to» else evidence.requested
      applied := entry.«to»
      skipped := false }) t

/-! ## Restore -/

def pendingOf (missingAlias : String) (entry : AppliedEntry) : DevicePendingRestore :=
  let deviceAlias := (PropertyIdFromKey entry.property).elim entry.property PropertyId.deviceAlias
  let binding := (t.config.aliasLookup.bind fun lookup => lookup deviceAlias).getD ⟨"", ""⟩
  { deviceAlias := deviceAlias, property := entry.property, originalValue := entry.«from»
    stableId := binding.stableId, friendlyName := binding.friendlyName
    remainingAction :=
      if deviceAlias = missingAlias then
        "Reattach the device bound to alias '" ++ deviceAlias ++ "'" ++
          (if binding.stableId = "" then "" else " (stable id " ++ binding.stableId ++ ")") ++
          (if binding.friendlyName = "" then ""
            else ", last seen as '" ++ binding.friendlyName ++ "'") ++
          ", then run `exosnap-envctl recover --journal " ++ t.config.journalPath ++ "` to set " ++
          entry.property ++ " back to '" ++ entry.«from» ++ "'."
      else
        "Untouched on this attempt. Run `exosnap-envctl recover --journal " ++
          t.config.journalPath ++ "` once alias '" ++ missingAlias ++
          "' is attached again; it will set " ++ entry.property ++ " back to '" ++ entry.«from» ++
          "'." }

/-- Every outstanding entry is still owed, the last one first. -/
def BuildPending (missingAlias : String) : List DevicePendingRestore :=
  t.journal.applied.reverse.map (t.pendingOf missingAlias)

/-- The first alias that has no device. -/
def missingDevice : List String → Prog envctl (Option String)
  | [] => return none
  | deviceAlias :: rest => do
    if (← query (I := envctl) (.devicePresent deviceAlias)) then missingDevice rest
    else return some deviceAlias

/-- The aliases that are owed a value, in the order of a `std::set`. -/
def owedAliases : List String :=
  ((t.journal.applied.filterMap fun entry =>
    (PropertyIdFromKey entry.property).map PropertyId.deviceAlias).foldl
      (fun aliases deviceAlias => aliases.set deviceAlias ()) ({} : SortedMap String Unit)).entries.map
    Prod.fst

def noteAfter (key value : String) : EnvironmentTransaction :=
  t.note key fun evidence => { evidence with afterRestore := value }

/-- A value that could not be put back. -/
def restoreFailure (code message : String) :
    Prog envctl (EnvironmentTransaction × Option TransactionResult) := do
  let (t, _) ← t.PersistJournal .restoreFailed
  return (t, some (t.Fail code message))

/-- The setter's answer is no evidence; the read is. -/
def verifyBack (id : PropertyId) (entry : AppliedEntry) :
    Prog envctl (EnvironmentTransaction × Option TransactionResult) := do
  let verify ← query (I := envctl) (.read id (some entry.«from»))
  if verify.ok ∧ verify.value = entry.«from» then
    return (t.noteAfter entry.property verify.shown, none)
  else
    (t.noteAfter entry.property verify.shown).restoreFailure "restore_verify_mismatch"
      ("restore_verify_mismatch: '" ++ entry.property ++ "' was set back to '" ++ entry.«from» ++
        "' and the setter reported success, but it reads back '" ++ verify.shown ++ "'.")

def putBack (id : PropertyId) (entry : AppliedEntry) (current : ReadResult) :
    Prog envctl (EnvironmentTransaction × Option TransactionResult) := do
  let restored ← query (I := envctl) (.apply .restore id entry.«from»)
  if restored.accepted = false then
    (t.noteAfter entry.property current.shown).restoreFailure "restore_rejected"
      ("restore_rejected: '" ++ entry.property ++ "' -> '" ++ entry.«from» ++ "': " ++
        restored.error)
  else t.verifyBack id entry

def noteBefore (entry : AppliedEntry) : EnvironmentTransaction :=
  t.note entry.property fun evidence =>
    { evidence with
      property := entry.property
      before := if evidence.before = "" then entry.«from» else evidence.before }

/-- Puts one value back, if it is not there already, and verifies it. There is a result where that
failed. -/
def restoreEntry (id : PropertyId) (entry : AppliedEntry) :
    Prog envctl (EnvironmentTransaction × Option TransactionResult) := do
  let current ← query (I := envctl) (.read id (some entry.«from»))
  if current.ok ∧ current.value = entry.«from» then
    return ((t.noteBefore entry).noteAfter entry.property current.value, none)
  else (t.noteBefore entry).putBack id entry current

def deleteRestored : Prog envctl (EnvironmentTransaction × TransactionResult) := do
  let error ← query (I := envctl) .deleteJournal
  let t := t.withState .restored
  return (t, { ok := true, state := t.journal.state, warning := error.getD "" })

/-- The outstanding entries, the last one first. -/
def restoreEntries (t : EnvironmentTransaction) :
    List AppliedEntry → Prog envctl (EnvironmentTransaction × TransactionResult)
  | [] =>
    (t.noteSkipped fun evidence => evidence.skipped && evidence.afterRestore = "").deleteRestored
  | entry :: rest =>
    match PropertyIdFromKey entry.property with
    | none => do
      let (t, _) ← t.PersistJournal .restoreFailed
      return (t, t.Fail "bad_property_key" ("bad_property_key: '" ++ entry.property ++ "' in journal."))
    | some id => do
      match ← t.restoreEntry id entry with
      | (t, some result) => return (t, result)
      | (t, none) =>
        match ← (t.withApplied rest.reverse).PersistJournal .restoring with
        | (t, some error) => return (t, t.Fail "journal_write_failed" error)
        | (t, none) => restoreEntries t rest

def deviceGone (deviceAlias : String) : Prog envctl (EnvironmentTransaction × TransactionResult) := do
  let pending := t.BuildPending deviceAlias
  let (t, _) ← t.PersistJournal .restorePendingDeviceUnavailable
  return (t,
    { state := t.journal.state, errorCode := "device_not_present", pending := pending
      error := "device_not_present: alias '" ++ deviceAlias ++
        "' is gone; the restore was not started and no other device was touched." })

def RestoreInternal : Prog envctl (EnvironmentTransaction × TransactionResult) :=
  if t.journal.applied = [] then (t.noteSkipped PropertyEvidence.skipped).deleteRestored
  else do
    match ← t.PersistJournal .restoring with
    | (t, some error) => return (t, t.Fail "journal_write_failed" error)
    | (t, none) =>
      match ← missingDevice t.owedAliases with
      | some deviceAlias => t.deviceGone deviceAlias
      | none => t.restoreEntries t.journal.applied.reverse

/-- What a restore reports without touching anything, where it does. -/
def settled : Option TransactionResult :=
  match t.terminal with
  | some result => some result
  | none =>
    if t.journal.state = .clean ∨ t.journal.state = .restored then
      some { ok := true, state := t.journal.state }
    else none

def Restore : Prog envctl (EnvironmentTransaction × TransactionResult) :=
  match t.settled with
  | some result => return ({ t with terminal := some result }, result)
  | none => do
    let (t, result) ← t.RestoreInternal
    return ({ t with terminal := if result.state.IsTerminal then some result else t.terminal }, result)

/-! ## Begin -/

abbrev Failed := Option TransactionResult

def dirtyJournal : TransactionResult :=
  t.Fail "dirty_journal" ("dirty_journal: '" ++ t.config.journalPath ++
    "' already exists. The machine may still be off its original settings. Run " ++
    "`exosnap-envctl recover --journal " ++ t.config.journalPath ++
    "` first; no new transaction may mutate anything until that has restored and verified.")

def recorded (key before value : String) : EnvironmentTransaction :=
  { t with
    journal := { t.journal with
      original := t.journal.original.set key before, desired := t.journal.desired.set key value }
    evidence := t.evidence.set key
      { property := key, before := before, requested := value, skipped := true } }

/-- Reads what is there before anything is changed. -/
def snapshot (t : EnvironmentTransaction) :
    List (String × String) → Prog envctl (EnvironmentTransaction × Except TransactionResult (List Wish))
  | [] => return (t, .ok [])
  | (key, value) :: rest =>
    match PropertyIdFromKey key with
    | none => return (t, .error (t.Fail "bad_property_key" ("bad_property_key: '" ++ key ++
        "' is not '<device-alias>:<property>'.")))
    | some id => do
      let read ← query (I := envctl) (.read id none)
      if read.devicePresent = false then
        return (t, .error (t.Fail "device_not_present" ("device_not_present: alias '" ++
          id.deviceAlias ++ "' resolves to no device attached now.")))
      else if read.ok = false then
        return (t, .error (t.Fail "read_failed" ("read_failed: '" ++ key ++ "': " ++ read.error)))
      else
        match ← snapshot (t.recorded key read.value value) rest with
        | (t, .ok requests) => return (t, .ok ((id, value) :: requests))
        | (t, .error result) => return (t, .error result)

/-- Why a desired property may not be changed, if one may not. -/
def refusal (descriptors : List PropertyDescriptor) : List Wish → Option (String × String)
  | [] => none
  | (id, _) :: rest =>
    match descriptors.find? fun descriptor => descriptor.id.Key = id.Key with
    | none =>
      some ("unknown_property", "unknown_property: '" ++ id.Key ++
        "' is not offered by the provider on this machine.")
    | some descriptor =>
      if IsMutable descriptor.capability then refusal descriptors rest
      else some ("not_mutable", "not_mutable: '" ++ id.Key ++ "' is classified " ++
        descriptor.capability.ToKey ++ "; envctl reads it and never writes it. " ++
        descriptor.mutateMechanism)

def delta (requests : List Wish) : List Wish :=
  requests.filter fun wish => (t.journal.original.find wish.1.Key).getD "" ≠ wish.2

/-- The failure of a begin, after what was applied is rolled back. -/
def rollBack (code message : String) : Prog envctl (EnvironmentTransaction × TransactionResult) := do
  let (t, rollback) ← t.RestoreInternal
  return (t, { t.Fail code message with state := rollback.state, pending := rollback.pending })

def giveUp (code message : String) : Prog envctl (EnvironmentTransaction × Failed) := do
  let (t, result) ← t.rollBack code message
  return (t, some result)

/-- With the obligation to put `wish` back. -/
def obliged (wish : Wish) (now : String) : EnvironmentTransaction :=
  (t.withApplied (t.journal.applied ++
    [⟨wish.1.Key, (t.journal.original.find wish.1.Key).getD "", wish.2, now⟩])).note wish.1.Key
      fun evidence => { evidence with skipped := false }

/-- The obligation taken back: it is not on disk, and nothing has been changed. -/
def unobliged (wish : Wish) (applied : List AppliedEntry) : EnvironmentTransaction :=
  (t.withApplied applied).note wish.1.Key fun evidence => { evidence with skipped := true }

def noteApplied (key value : String) : EnvironmentTransaction :=
  t.note key fun evidence => { evidence with applied := value }

/-- The setter's answer is a claim; the read is the evidence. -/
def verifyWish (wish : Wish) : Prog envctl (EnvironmentTransaction × Failed) := do
  let verify ← query (I := envctl) (.read wish.1 none)
  if verify.ok = false then
    (t.noteApplied wish.1.Key verify.value).giveUp "read_failed"
      ("read_failed: '" ++ wish.1.Key ++ "' after apply: " ++ verify.error)
  else if verify.value ≠ wish.2 then
    (t.noteApplied wish.1.Key verify.value).giveUp "verify_mismatch"
      ("verify_mismatch: '" ++ wish.1.Key ++ "' reported success but reads back '" ++
        verify.value ++ "', not '" ++ wish.2 ++ "'.")
  else
    match ← (t.noteApplied wish.1.Key verify.value).PersistJournal .mutating with
    | (t, some error) => t.giveUp "journal_write_failed" error
    | (t, none) => return (t, none)

def setWish (wish : Wish) : Prog envctl (EnvironmentTransaction × Failed) := do
  let applied ← query (I := envctl) (.apply (.mutate t.transaction) wish.1 wish.2)
  if applied.accepted = false then
    t.giveUp "apply_rejected" ("apply_rejected: '" ++ wish.1.Key ++ "': " ++ applied.error)
  else t.verifyWish wish

/-- One change: the obligation is on disk before the setter runs. -/
def applyWish (wish : Wish) : Prog envctl (EnvironmentTransaction × Failed) := do
  let now ← query (I := envctl) .clock
  match ← (t.obliged wish now).PersistJournal .mutating with
  | (t', some error) => (t'.unobliged wish t.journal.applied).giveUp "journal_write_failed" error
  | (t', none) => ({ t' with mutated := true } : EnvironmentTransaction).setWish wish

def applyDelta (t : EnvironmentTransaction) :
    List Wish → Prog envctl (EnvironmentTransaction × TransactionResult)
  | [] => do
    match ← t.PersistJournal .active with
    | (t, some error) => t.rollBack "journal_write_failed" error
    | (t, none) => return (t, { ok := true, state := t.journal.state })
  | wish :: rest => do
    match ← t.applyWish wish with
    | (t, some result) => return (t, result)
    | (t, none) => applyDelta t rest

/-- Refuses what may not be changed; the journal goes, as nothing has been changed. -/
def refuse (code message : String) : Prog envctl (EnvironmentTransaction × TransactionResult) := do
  let _ ← query (I := envctl) .deleteJournal
  let t := t.withState .clean
  return (t, t.Fail code message)

/-- The changes of a begin whose snapshot is on disk. -/
def mutate (requests : List Wish) : Prog envctl (EnvironmentTransaction × TransactionResult) := do
  let descriptors ← query (I := envctl) .describe
  match refusal descriptors requests with
  | some (code, message) => t.refuse code message
  | none =>
    if t.delta requests = [] then
      match ← t.PersistJournal .active with
      | (t, some error) => return (t, t.Fail "journal_write_failed" error)
      | (t, none) => return (t, { ok := true, state := t.journal.state })
    else
      match ← t.PersistJournal .mutating with
      | (t, some error) => return (t, t.Fail "journal_write_failed" error)
      | (t, none) => t.applyDelta (t.delta requests)

def cleared (transaction : Nat) : EnvironmentTransaction :=
  { t with
    journal := { t.journal with original := {}, desired := {}, applied := [] }
    evidence := {}, transaction := transaction, mutated := false }

/-- `transaction` is the number that this begin goes by. -/
def Begin (desired : SortedMap String String) (transaction : Nat) :
    Prog envctl (EnvironmentTransaction × TransactionResult) := do
  match ← query (I := envctl) (.readJournal none) with
  | .error _ | .ok (some _) => return (t, t.dirtyJournal)
  | .ok none =>
    match ← (t.cleared transaction).snapshot desired.entries with
    | (t, .error result) => return (t, result)
    | (t, .ok requests) =>
      match ← t.PersistJournal .prepared with
      | (t, some error) => return (t, t.Fail "journal_write_failed" error)
      | (t, none) => t.mutate requests

end EnvironmentTransaction

/-! ## Recovery -/

structure RecoveryOutcome where
  journalPresent : Bool := false
  recovered : Bool := false
  mutationAllowed : Bool := false
  state : TransactionState := .clean
  errorCode : String := ""
  error : String := ""
  warning : String := ""
  pending : List DevicePendingRestore := []
  evidence : List PropertyEvidence := []
  /-- The journal that was there. -/
  journal : Option Journal := none

def RecoverIfDirty (config : TransactionConfig) : Prog envctl RecoveryOutcome := do
  match ← query (I := envctl) (.readJournal none) with
  | .error error =>
    return { journalPresent := true, errorCode := "journal_read_failed"
             error := error ++
               " Resolve it by hand; envctl will not mutate anything until it is gone." }
  | .ok none => return { mutationAllowed := true }
  | .ok (some file) =>
    if file.journal.state.IsDirty then
      let (t, result) ←
        ((EnvironmentTransaction.construct config none).AdoptJournal file).Restore
      let recovered := result.ok && result.state == .restored
      return { journalPresent := true, state := result.state, errorCode := result.errorCode
               error := result.error, warning := result.warning, pending := result.pending
               evidence := t.evidence.entries.map Prod.snd, recovered := recovered
               mutationAllowed := recovered, journal := some file.journal }
    else
      let error ← query (I := envctl) .deleteJournal
      return { journalPresent := true, recovered := true, mutationAllowed := true
               state := .restored, warning := error.getD "", journal := some file.journal }

end Exosnap.Envctl
