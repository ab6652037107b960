/-
  What any interleaving of the UI thread and the check workers keeps: a check is under way exactly
  while an operation is active, and it is that operation's; checks publish once each, in the order
  they were admitted (`SingleFlight`). What is on offer is the whole answer of the last check that
  was adopted, for the channel that is selected, with the transaction that this check prepared
  (`Attributed`).

  A step of a worker is the one critical section (`complete`), or it leaves the offer alone
  (`runWorker_apart`). The UI thread never touches the checks (`uiStep_same`).
-/
import Exosnap.Update.UpdateService
import Mathlib.Algebra.GroupWithZero.Nat
import Mathlib.Data.List.Nodup

namespace Exosnap.Update

/-- The check has not been through its critical section. -/
def WorkerStage.checking : WorkerStage → Bool
  | .feed | .mkpath _ _ | .download _ _ _ | .complete _ _ => true
  | _ => false

namespace UpdateService

variable {s t s' : UpdateService} {w : Worker} {answer : Answer} {id : Nat}
  {stage : Option WorkerStage}

/-! ## A. What one step moves -/

/-- Checks and offers are as they were. -/
structure SameChecks (s s' : UpdateService) : Prop where
  transactionsRoot : s'.transactionsRoot = s.transactionsRoot
  channel : s'.channel = s.channel
  state : s'.state = s.state
  nextOperationId : s'.nextOperationId = s.nextOperationId
  activeOperation : s'.activeOperation = s.activeOperation
  preparedUpdate : s'.preparedUpdate = s.preparedUpdate
  gapNotes : s'.gapNotes = s.gapNotes
  offers : s'.offers = s.offers
  adopted : s'.adopted = s.adopted
  publishers : s'.publishers = s.publishers

theorem SameChecks.refl (s : UpdateService) : SameChecks s s := by constructor <;> rfl

theorem SameChecks.workers (h : SameChecks s t) {workers : List Worker} :
    SameChecks s { t with workers := workers } :=
  ⟨h.1, h.2, h.3, h.4, h.5, h.6, h.7, h.8, h.9, h.10⟩

/-- A worker's critical section apart, its step concerns only directories and the queue, and a
    check that has not been through its critical section goes on. -/
theorem runWorker_apart (hstage : ∀ r p, w.stage ≠ .complete r p)
    (h : s.runWorker answer w = some (t, stage)) :
    SameChecks s t ∧ t.ui = s.ui ∧ t.launched = s.launched ∧
      t.lastUpdaterLaunch = s.lastUpdaterLaunch ∧
      (w.stage.checking = true → ∃ st, stage = some st ∧ st.checking = true) ∧
      (w.stage.checking = false → ∀ st ∈ stage, st.checking = false) ∧
      ∀ st ∈ stage, ∀ verdict r directory, st ≠ .discard verdict r directory := by
  unfold runWorker at h
  cases hw : w.stage with
  | feed =>
      simp only [hw, Option.some.injEq, Prod.mk.injEq] at h
      obtain ⟨rfl, rfl⟩ := h
      have hprepare : (s.prepare answer.result).checking = true ∧
          ∀ verdict r directory, s.prepare answer.result ≠ .discard verdict r directory := by
        unfold prepare
        dsimp only
        split_ifs <;> simp [WorkerStage.checking]
      exact ⟨.refl s, rfl, rfl, rfl, fun _ => ⟨_, rfl, hprepare.1⟩, by simp [WorkerStage.checking],
        by simpa using hprepare.2⟩
  | mkpath r p =>
      simp only [hw, Option.map_eq_some_iff, Prod.exists, Prod.mk.injEq] at h
      obtain ⟨u, st, hmk, rfl, rfl⟩ := h
      unfold mkpath at hmk
      dsimp only at hmk
      split_ifs at hmk <;> cases hmk <;>
        exact ⟨by constructor <;> rfl, rfl, rfl, rfl, fun _ => ⟨_, rfl, rfl⟩,
          by simp [WorkerStage.checking], by simp⟩
  | download r p destinations =>
      simp only [hw, Option.some.injEq, Prod.mk.injEq] at h
      obtain ⟨rfl, rfl⟩ := h
      cases destinations with
      | nil =>
          exact ⟨.refl s, rfl, rfl, rfl, fun _ => ⟨_, rfl, rfl⟩, by simp [WorkerStage.checking],
            by simp [download]⟩
      | cons destination destinations =>
          unfold download
          dsimp only
          split_ifs <;>
            exact ⟨by constructor <;> rfl, rfl, rfl, rfl, fun _ => ⟨_, rfl, rfl⟩,
              by simp [WorkerStage.checking], by simp⟩
  | complete r p => exact absurd hw (hstage r p)
  | prune r keepNew keepInFlight =>
      simp only [hw, Option.some.injEq, Prod.mk.injEq] at h
      obtain ⟨rfl, rfl⟩ := h
      exact ⟨.refl s, rfl, rfl, rfl, by simp [WorkerStage.checking], by simp [WorkerStage.checking],
        by simp⟩
  | remove r keepNew keepInFlight listed todo =>
      cases todo <;>
      · simp only [hw, Option.some.injEq, Prod.mk.injEq] at h
        obtain ⟨rfl, rfl⟩ := h
        exact ⟨by constructor <;> rfl, rfl, rfl, rfl, by simp [WorkerStage.checking],
          by simp [WorkerStage.checking], by simp⟩
  | discard verdict r directory =>
      simp only [hw, Option.some.injEq, Prod.mk.injEq] at h
      obtain ⟨rfl, rfl⟩ := h
      split_ifs <;>
        exact ⟨by constructor <;> rfl, rfl, rfl, rfl, by simp [WorkerStage.checking],
          by simp [WorkerStage.checking], by simp⟩
  | post deliverResult r =>
      simp only [hw, Option.some.injEq, Prod.mk.injEq] at h
      obtain ⟨rfl, rfl⟩ := h
      exact ⟨by constructor <;> rfl, rfl, rfl, rfl, by simp [WorkerStage.checking],
        by simp [WorkerStage.checking], by simp⟩

/-- The UI thread leaves the checks to the workers. -/
theorem uiStep_same (h : s.uiStep answer = some s') :
    SameChecks s s' ∧ s'.workers = s.workers ∧ s'.transactionIds = s.transactionIds := by
  unfold uiStep at h
  dsimp only at h
  split at h
  all_goals repeat' split at h
  all_goals
    cases h <;> exact ⟨by constructor <;> rfl, rfl, rfl⟩

theorem deliver_same (h : s.deliver = some s') :
    SameChecks s s' ∧ s'.workers = s.workers ∧ s'.transactionIds = s.transactionIds := by
  unfold deliver at h
  split at h
  · cases h
    exact ⟨by constructor <;> rfl, rfl, rfl⟩
  · cases h

/-- Of the operations, that of one worker is at another stage, or has no worker any more. -/
structure Moved (workers : List Worker) (w : Worker) (stage : Option WorkerStage)
    (after : List Worker) : Prop where
  nodup : (after.map (·.operation.id)).Nodup
  others : ∀ v ∈ workers, v.operation.id ≠ w.operation.id → v ∈ after
  origin : ∀ v ∈ after, v ∈ workers ∧ v.operation.id ≠ w.operation.id ∨
    v.operation = w.operation ∧ stage = some v.stage
  placed : ∀ st, stage = some st → ∃ v ∈ after, v.operation = w.operation ∧ v.stage = st

theorem workerStep_some (hnodup : (s.workers.map (·.operation.id)).Nodup)
    (h : s.workerStep answer id = some s') :
    ∃ w ∈ s.workers, ∃ t stage, s.runWorker answer w = some (t, stage) ∧
      s' = { t with workers := s'.workers } ∧ Moved s.workers w stage s'.workers := by
  unfold workerStep at h
  obtain ⟨w, hfind, h⟩ := Option.bind_eq_some_iff.mp h
  obtain ⟨⟨t, stage⟩, hrun, rfl⟩ := Option.map_eq_some_iff.mp h
  have hw := List.mem_of_find?_eq_some hfind
  obtain rfl : w.operation.id = id := by simpa using List.find?_some hfind
  have hsame : ∀ v ∈ s.workers, v.operation.id = w.operation.id → v = w :=
    fun v hv he => List.inj_on_of_nodup_map hnodup hv hw he
  refine ⟨w, hw, t, stage, hrun, rfl, ?_⟩
  cases stage with
  | none =>
      refine ⟨?_, ?_, ?_, by simp⟩
      · exact hnodup.sublist (List.filter_sublist.map _)
      · intro v hv hne
        simpa using ⟨hv, hne⟩
      · intro v hv
        exact .inl (by simpa using hv)
  | some st =>
      refine ⟨?_, ?_, ?_, ?_⟩
      · convert hnodup using 1
        rw [List.map_map]
        refine List.map_congr_left fun v _ => ?_
        dsimp only [Function.comp_apply]
        split_ifs <;> rfl
      · intro v hv hne
        exact List.mem_map.mpr ⟨v, hv, if_neg hne⟩
      · intro v hv
        obtain ⟨u, hu, rfl⟩ := List.mem_map.mp hv
        by_cases he : u.operation.id = w.operation.id
        · rw [if_pos he]
          exact .inr ⟨by rw [hsame u hu he], rfl⟩
        · rw [if_neg he]
          exact .inl ⟨hu, he⟩
      · intro st' hst
        cases hst
        exact ⟨_, List.mem_map.mpr ⟨w, hw, if_pos rfl⟩, rfl, rfl⟩

/-! ## B. One check at a time -/

/-- A check is in flight exactly while an operation is active, and then it is the last one
    admitted; the others have published, each once and in the order of their admission. -/
structure SingleFlight (s : UpdateService) : Prop where
  nodup : (s.workers.map (·.operation.id)).Nodup
  positive : 0 < s.nextOperationId
  bounded : ∀ w ∈ s.workers, w.operation.id ≠ 0 ∧ w.operation.id < s.nextOperationId
  running : ∀ w ∈ s.workers, w.stage.checking = true ↔ w.operation.id = s.activeOperation
  inFlight : s.activeOperation ≠ 0 → ∃ w ∈ s.workers, w.operation.id = s.activeOperation
  latest : s.activeOperation ≠ 0 → s.activeOperation + 1 = s.nextOperationId
  checking : s.state.checking = true ↔ s.activeOperation ≠ 0
  selected : s.state.channel = s.channel
  published : (s.publishers.map Prod.fst).reverse =
    List.range' 1 (if s.activeOperation = 0 then s.nextOperationId - 1 else s.nextOperationId - 2)
  kept : ∀ w ∈ s.workers, ∀ r directory, w.stage ≠ .discard .supersededByNewerCheck r directory

namespace SingleFlight

theorem start (transactionsRoot : Path) (appDir : String) (pid : Nat) (version : String)
    (channel : UpdateChannel) (installMode : InstallMode) (directories : List (Path × List String)) :
    SingleFlight (.start transactionsRoot appDir pid version channel installMode directories) := by
  constructor <;> simp [UpdateService.start]

theorem of_same (h : SingleFlight s) (hsame : SameChecks s s') (hworkers : s'.workers = s.workers) :
    SingleFlight s' := by
  obtain ⟨-, hchannel, hstate, hnext, hactive, -, -, -, -, hpublishers⟩ := hsame
  constructor
  · rw [hworkers]; exact h.nodup
  · rw [hnext]; exact h.positive
  · rw [hworkers, hnext]; exact h.bounded
  · rw [hworkers, hactive]; exact h.running
  · rw [hworkers, hactive]; exact h.inFlight
  · rw [hactive, hnext]; exact h.latest
  · rw [hstate, hactive]; exact h.checking
  · rw [hstate, hchannel]; exact h.selected
  · rw [hpublishers, hactive, hnext]; exact h.published
  · rw [hworkers]; exact h.kept

theorem setChannel (h : SingleFlight s) (channel : UpdateChannel) :
    SingleFlight (s.SetChannel channel) where
  nodup := h.nodup
  positive := h.positive
  bounded := h.bounded
  running := h.running
  inFlight := h.inFlight
  latest := h.latest
  checking := by
    refine Iff.trans ?_ h.checking
    unfold SetChannel ApplyUpdateChannelSelection
    dsimp only
    split_ifs <;> rfl
  selected := by
    unfold SetChannel ApplyUpdateChannelSelection
    dsimp only
    split_ifs with hc
    · exact hc
    · rfl
  published := h.published
  kept := h.kept

theorem requestUpdateCheck (h : SingleFlight s) : SingleFlight s.RequestUpdateCheck := by
  unfold RequestUpdateCheck
  split_ifs with hactive
  · exact h
  have hidle : s.activeOperation = 0 := not_not.mp hactive
  have hpos := h.positive
  refine ⟨?_, Nat.succ_pos _, ?_, ?_, ?_, fun _ => rfl, ?_, rfl, ?_, ?_⟩
  · rw [List.map_append, List.nodup_append]
    refine ⟨h.nodup, List.nodup_singleton _, ?_⟩
    intro i hi j hj
    obtain ⟨w, hw, rfl⟩ := List.mem_map.mp hi
    obtain rfl := List.mem_singleton.mp hj
    have := (h.bounded w hw).2
    show w.operation.id ≠ s.nextOperationId
    omega
  · intro w hw
    show w.operation.id ≠ 0 ∧ w.operation.id < s.nextOperationId + 1
    rcases List.mem_append.mp hw with hw | hw
    · have := h.bounded w hw
      omega
    · obtain rfl := List.mem_singleton.mp hw
      dsimp only
      omega
  · intro w hw
    show _ ↔ w.operation.id = s.nextOperationId
    rcases List.mem_append.mp hw with hw | hw
    · -- the checks before it are over
      have hb := h.bounded w hw
      have hr := h.running w hw
      rw [hidle] at hr
      rw [hr]
      omega
    · obtain rfl := List.mem_singleton.mp hw
      exact ⟨fun _ => rfl, fun _ => rfl⟩
  · exact fun _ => ⟨_, List.mem_append_right _ (List.mem_singleton_self _), rfl⟩
  · exact ⟨fun _ => by show s.nextOperationId ≠ 0; omega, fun _ => rfl⟩
  · have hp := h.published
    rw [if_pos hidle] at hp
    show _ = List.range' 1 (if s.nextOperationId = 0 then _ else _)
    rw [if_neg (by omega)]
    exact hp
  · intro w hw
    rcases List.mem_append.mp hw with hw | hw
    · exact h.kept w hw
    · obtain rfl := List.mem_singleton.mp hw
      intro r directory
      simp

/-- A worker that stays on its side of the critical section. -/
theorem worker_apart (h : SingleFlight s) (hw : w ∈ s.workers)
    (hstage : ∀ r p, w.stage ≠ .complete r p) (hrun : s.runWorker answer w = some (t, stage))
    (hs : s' = { t with workers := s'.workers }) (hmoved : Moved s.workers w stage s'.workers) :
    SingleFlight s' := by
  obtain ⟨hsame, -, -, -, hgoes, hstays, hdiscard⟩ := runWorker_apart hstage hrun
  have hsame' : SameChecks s s' := by
    rw [hs]
    exact hsame.workers
  obtain ⟨-, hchannel, hstate, hnext, hactive, -, -, -, -, hpublishers⟩ := hsame'
  -- what is asked of each worker, of those that stayed and of the one that moved
  have hmem : ∀ v ∈ s'.workers, ∃ u ∈ s.workers, v.operation = u.operation ∧
      v.stage.checking = u.stage.checking := by
    intro v hv
    rcases hmoved.origin v hv with ⟨hv, -⟩ | ⟨hop, hst⟩
    · exact ⟨v, hv, rfl, rfl⟩
    · refine ⟨w, hw, hop, ?_⟩
      cases hc : w.stage.checking with
      | true =>
          obtain ⟨st, hst', hcheck⟩ := hgoes hc
          cases hst'.symm.trans hst
          exact hcheck
      | false => exact hstays hc _ hst
  constructor
  · exact hmoved.nodup
  · rw [hnext]; exact h.positive
  · intro v hv
    obtain ⟨u, hu, hop, -⟩ := hmem v hv
    rw [hop, hnext]
    exact h.bounded u hu
  · intro v hv
    obtain ⟨u, hu, hop, hcheck⟩ := hmem v hv
    rw [hop, hcheck, hactive]
    exact h.running u hu
  · rw [hactive]
    intro hne
    obtain ⟨u, hu, hid⟩ := h.inFlight hne
    by_cases hwu : u.operation.id = w.operation.id
    · -- the check in flight is this one, and it goes on
      obtain ⟨st, hst, -⟩ := hgoes ((h.running w hw).mpr (hwu.symm.trans hid))
      obtain ⟨v, hv, hop, -⟩ := hmoved.placed st hst
      exact ⟨v, hv, by rw [hop, ← hwu, hid]⟩
    · exact ⟨u, hmoved.others u hu hwu, hid⟩
  · rw [hactive, hnext]; exact h.latest
  · rw [hstate, hactive]; exact h.checking
  · rw [hstate, hchannel]; exact h.selected
  · rw [hpublishers, hactive, hnext]; exact h.published
  · intro v hv r directory hst
    rcases hmoved.origin v hv with ⟨hv, -⟩ | ⟨-, hplaced⟩
    · exact h.kept v hv r directory hst
    · exact hdiscard _ hplaced _ _ _ hst

/-- The critical section of the check in flight, which is never superseded. -/
theorem worker_complete (h : SingleFlight s) (hw : w ∈ s.workers) {r : UpdateCheckResult}
    {p : Option PreparedUpdate} (hstage : w.stage = .complete r p)
    (hs : s' = { (s.complete w.operation r p).1 with workers := s'.workers })
    (hmoved : Moved s.workers w (some (s.complete w.operation r p).2) s'.workers) :
    SingleFlight s' := by
  have hid : w.operation.id = s.activeOperation := (h.running w hw).mp (by rw [hstage]; rfl)
  have hbound := h.bounded w hw
  have hlatest := h.latest (hid ▸ hbound.1)
  have hidle : s'.activeOperation = 0 := by
    rw [hs]
    exact if_pos hid
  have hnext : s'.nextOperationId = s.nextOperationId := by rw [hs]; rfl
  have hover : ∀ v ∈ s'.workers, v.stage.checking = false ∧ v.operation.id ≠ 0 ∧
      v.operation.id < s.nextOperationId := by
    intro v hv
    rcases hmoved.origin v hv with ⟨hv, hne⟩ | ⟨hop, hst⟩
    · refine ⟨?_, h.bounded v hv⟩
      have hrunning := h.running v hv
      rw [← hid] at hrunning
      simpa [hne] using hrunning
    · rw [hop]
      refine ⟨?_, hbound⟩
      rw [← Option.some.inj hst]
      unfold complete
      dsimp only
      split_ifs <;> rfl
  have hstate : s'.state.checking = false ∧ s'.state.channel = s'.channel := by
    rw [hs]
    unfold complete ResolveUpdateCheckCompletion
    rw [if_neg (not_not.mpr hid)]
    split_ifs with hc
    · exact ⟨rfl, rfl⟩
    · exact ⟨rfl, not_not.mp hc⟩
  have hpublishers : s'.publishers = (w.operation.id, s.activeOperation) :: s.publishers := by
    rw [hs]
    unfold complete ResolveUpdateCheckCompletion
    rw [if_neg (not_not.mpr hid)]
    split_ifs <;> rfl
  constructor
  · exact hmoved.nodup
  · rw [hnext]; exact h.positive
  · rw [hnext]
    exact fun v hv => (hover v hv).2
  · intro v hv
    rw [(hover v hv).1, hidle]
    simpa using (hover v hv).2.1
  · exact fun hne => absurd hidle hne
  · exact fun hne => absurd hidle hne
  · simp [hstate.1, hidle]
  · exact hstate.2
  · rw [hpublishers, hidle, hnext, if_pos rfl, List.map_cons, List.reverse_cons, h.published,
      if_neg (hid ▸ hbound.1)]
    have hcount : s.nextOperationId - 1 = s.nextOperationId - 2 + 1 := by omega
    rw [hcount, List.range'_concat, hid]
    congr 2
    omega
  · intro v hv r' directory hst
    rcases hmoved.origin v hv with ⟨hv, -⟩ | ⟨-, hplaced⟩
    · exact h.kept v hv r' directory hst
    · rw [hst] at hplaced
      revert hplaced
      unfold complete ResolveUpdateCheckCompletion
      rw [if_neg (not_not.mpr hid)]
      split_ifs <;> simp

theorem step (h : SingleFlight s) {a : UpdateAction} (hstep : s.step a = some s') :
    SingleFlight s' := by
  cases a with
  | setChannel channel =>
      obtain ⟨-, hs⟩ := Option.ite_none_right_eq_some.mp hstep
      cases hs
      exact h.setChannel channel
  | setVerifyReinstallMode on =>
      obtain ⟨-, hs⟩ := Option.ite_none_right_eq_some.mp hstep
      cases hs
      exact h.of_same (by constructor <;> rfl) rfl
  | requestUpdateCheck =>
      obtain ⟨-, hs⟩ := Option.ite_none_right_eq_some.mp hstep
      cases hs
      exact h.requestUpdateCheck
  | launchUpdater =>
      obtain ⟨-, hs⟩ := Option.ite_none_right_eq_some.mp hstep
      cases hs
      exact h.of_same (by constructor <;> rfl) rfl
  | deliver =>
      obtain ⟨hsame, hworkers, -⟩ := deliver_same hstep
      exact h.of_same hsame hworkers
  | ui answer =>
      obtain ⟨hsame, hworkers, -⟩ := uiStep_same hstep
      exact h.of_same hsame hworkers
  | worker answer operation =>
      obtain ⟨w, hw, t, stage, hrun, hs, hmoved⟩ := workerStep_some h.nodup hstep
      by_cases hstage : ∀ r p, w.stage ≠ .complete r p
      · exact h.worker_apart hw hstage hrun hs hmoved
      · simp only [not_forall, not_not] at hstage
        obtain ⟨r, p, hstage⟩ := hstage
        unfold runWorker at hrun
        rw [hstage] at hrun
        cases hrun
        exact h.worker_complete hw hstage hs hmoved

end SingleFlight

/-! ## C. What is on offer -/

/-- The transaction is one for this answer: without an error it names its own directory and the two
    files in it. -/
structure PreparedFor (root : Path) (r : UpdateCheckResult) (p : PreparedUpdate) : Prop where
  available : r.updateAvailable = true
  version : p.targetVersion = r.availableVersionRaw
  unplaced : p.updateTransactionId = "" → p.directory = []
  placed : p.updateTransactionId ≠ "" → p.directory = root ++ [p.updateTransactionId] ∧
    (p.error = "" → p.manifestPath = p.directory ++ [kManifestFileName] ∧
      p.manifestSignaturePath = p.directory ++ [kManifestSignatureFileName])

/-- What a check has prepared so far is for the answer it has. -/
def Sound (root : Path) : WorkerStage → Prop
  | .mkpath r p => r.updateAvailable = true ∧ p = { targetVersion := r.availableVersionRaw }
  | .download r p _ => PreparedFor root r p ∧ p.updateTransactionId ≠ "" ∧ p.error = ""
  | .complete r p => ∀ p' ∈ p, PreparedFor root r p'
  | _ => True

/-- The transaction of a check that has not published. -/
def heldId : WorkerStage → String
  | .download _ p _ => p.updateTransactionId
  | .complete _ p => (p.map PreparedUpdate.updateTransactionId).getD ""
  | _ => ""

theorem heldId_checking {st : WorkerStage} (h : heldId st ≠ "") : st.checking = true := by
  cases st <;> first | rfl | exact absurd rfl h

/-- A transaction without an id is for its answer as long as it has no directory. -/
theorem PreparedFor.blank {root : Path} {r : UpdateCheckResult} (h : r.updateAvailable = true)
    (error : String) :
    PreparedFor root r { targetVersion := r.availableVersionRaw, error := error } where
  available := h
  version := rfl
  unplaced := fun _ => rfl
  placed := fun hne => absurd rfl hne

theorem prepare_sound (r : UpdateCheckResult) :
    Sound s.transactionsRoot (s.prepare r) ∧ heldId (s.prepare r) = "" := by
  unfold prepare
  dsimp only
  split_ifs with havailable
  · simp [Sound, heldId]
  · simp only [Bool.not_eq_true', Bool.not_eq_false] at havailable
    exact ⟨by simpa [Sound] using PreparedFor.blank havailable _, rfl⟩
  · simp only [Bool.not_eq_true', Bool.not_eq_false] at havailable
    exact ⟨by simpa [Sound] using PreparedFor.blank havailable _, rfl⟩
  · exact ⟨⟨by simpa using havailable, rfl⟩, rfl⟩

/-- What a step does to the transaction a check holds: it is still for the check's answer, and one
    that it draws is new. -/
theorem runWorker_sound (hstage : ∀ r p, w.stage ≠ .complete r p)
    (h : Sound s.transactionsRoot w.stage) (hrun : s.runWorker answer w = some (t, stage)) :
    (∀ st ∈ stage, Sound s.transactionsRoot st ∧
      (heldId st = "" ∨ heldId st = heldId w.stage ∨
        heldId st ∉ s.transactionIds ∧ heldId st ∈ t.transactionIds)) ∧
      ∀ i ∈ s.transactionIds, i ∈ t.transactionIds := by
  unfold runWorker at hrun
  cases hw : w.stage with
  | feed =>
      simp only [hw, Option.some.injEq, Prod.mk.injEq] at hrun
      obtain ⟨rfl, rfl⟩ := hrun
      obtain ⟨hsound, hheld⟩ := prepare_sound (s := s) answer.result
      exact ⟨by simpa using ⟨hsound, .inl hheld⟩, fun _ hi => hi⟩
  | mkpath r p =>
      rw [hw] at h
      obtain ⟨havailable, rfl⟩ := h
      simp only [hw, Option.map_eq_some_iff, Prod.exists, Prod.mk.injEq] at hrun
      obtain ⟨u, st, hmk, rfl, rfl⟩ := hrun
      unfold mkpath at hmk
      dsimp only at hmk
      split_ifs at hmk with hdrawn hok
      all_goals
        simp only [not_or] at hdrawn
        cases hmk
        refine ⟨?_, fun i hi => List.mem_cons_of_mem _ hi⟩
        intro st hst
        cases hst
        refine ⟨?_, .inr (.inr ⟨hdrawn.2.1, List.mem_cons_self⟩)⟩
      · exact ⟨⟨havailable, rfl, fun hnone => absurd hnone hdrawn.1, fun _ => ⟨rfl, fun _ => ⟨rfl, rfl⟩⟩⟩,
          hdrawn.1, rfl⟩
      · intro p' hp'
        cases hp'
        exact ⟨havailable, rfl, fun hnone => absurd hnone hdrawn.1,
          fun _ => ⟨rfl, fun hnone => absurd hnone (by simp)⟩⟩
  | download r p destinations =>
      rw [hw] at h
      obtain ⟨hfor, hid, herror⟩ := h
      simp only [hw, Option.some.injEq, Prod.mk.injEq] at hrun
      obtain ⟨rfl, rfl⟩ := hrun
      cases destinations with
      | nil =>
          refine ⟨?_, fun _ hi => hi⟩
          intro st hst
          cases hst
          exact ⟨by simpa [download, Sound] using hfor, .inr (.inl rfl)⟩
      | cons destination destinations =>
          unfold download
          dsimp only
          split_ifs
          · refine ⟨?_, fun _ hi => hi⟩
            intro st hst
            cases hst
            exact ⟨⟨hfor, hid, herror⟩, .inr (.inl rfl)⟩
          · refine ⟨?_, fun _ hi => hi⟩
            intro st hst
            cases hst
            refine ⟨?_, .inr (.inl rfl)⟩
            intro p' hp'
            cases hp'
            refine ⟨hfor.available, hfor.version, fun hnone => absurd hnone hid, fun _ =>
              ⟨(hfor.placed hid).1, fun hnone => absurd hnone ?_⟩⟩
            simp [String.append_eq_empty_iff]
  | complete r p => exact absurd hw (hstage r p)
  | prune r keepNew keepInFlight =>
      simp only [hw, Option.some.injEq, Prod.mk.injEq] at hrun
      obtain ⟨rfl, rfl⟩ := hrun
      exact ⟨by simp [Sound, heldId], fun _ hi => hi⟩
  | remove r keepNew keepInFlight listed todo =>
      cases todo <;>
      · simp only [hw, Option.some.injEq, Prod.mk.injEq] at hrun
        obtain ⟨rfl, rfl⟩ := hrun
        exact ⟨by simp [Sound, heldId], fun _ hi => hi⟩
  | discard verdict r directory =>
      simp only [hw, Option.some.injEq, Prod.mk.injEq] at hrun
      obtain ⟨rfl, rfl⟩ := hrun
      split_ifs <;> exact ⟨by simp [Sound, heldId], fun _ hi => hi⟩
  | post deliverResult r =>
      simp only [hw, Option.some.injEq, Prod.mk.injEq] at hrun
      obtain ⟨rfl, rfl⟩ := hrun
      exact ⟨by simp, fun _ hi => hi⟩

/-- The offer is the answer of this check. -/
structure Shows (s : UpdateService) (a : AdoptedCheck) : Prop where
  number : a.number = s.offers
  selected : a.selected = s.channel
  updateAvailable : s.state.updateAvailable = a.result.updateAvailable
  availableVersion : s.state.availableVersion = a.result.availableVersion
  availableVersionRaw : s.state.availableVersionRaw = a.result.availableVersionRaw
  gapNotes : s.gapNotes = a.result.gapNotes

/-- Nothing is on offer. -/
structure Clear (s : UpdateService) : Prop where
  updateAvailable : s.state.updateAvailable = false
  availableVersion : s.state.availableVersion = none
  availableVersionRaw : s.state.availableVersionRaw = ""

/-- A check that was adopted ran on the channel that was selected, and its transaction is for its
    answer. -/
structure AdoptedCheck.Sound (root : Path) (a : AdoptedCheck) : Prop where
  selected : a.operation.channel = a.selected
  prepared : a.prepared = {} ∨ PreparedFor root a.result a.prepared

/-- What is on offer is the last adopted check's answer or nothing, and the transaction that is
    ready is that check's own. -/
structure Attributed (s : UpdateService) : Prop where
  shown : Clear s ∨ ∃ a, s.adopted.head? = some a ∧ Shows s a
  ready : s.preparedUpdate = (s.adopted.head?.map AdoptedCheck.prepared).getD {}
  notes : s.gapNotes = [] ∨ ∃ a, s.adopted.head? = some a ∧ s.gapNotes = a.result.gapNotes
  numbers : s.adopted.Pairwise fun a b => b.number < a.number
  numbered : ∀ a ∈ s.adopted, a.number ≤ s.offers
  adopted : ∀ a ∈ s.adopted, AdoptedCheck.Sound s.transactionsRoot a
  workers : ∀ w ∈ s.workers, Sound s.transactionsRoot w.stage
  minted : ∀ a ∈ s.adopted, a.prepared.updateTransactionId ≠ "" →
    a.prepared.updateTransactionId ∈ s.transactionIds
  distinct : s.adopted.Pairwise fun a b => a.prepared.updateTransactionId ≠ "" →
    a.prepared.updateTransactionId ≠ b.prepared.updateTransactionId
  held : ∀ w ∈ s.workers, heldId w.stage ≠ "" → heldId w.stage ∈ s.transactionIds ∧
    ∀ a ∈ s.adopted, a.prepared.updateTransactionId ≠ heldId w.stage

namespace Attributed

theorem start (transactionsRoot : Path) (appDir : String) (pid : Nat) (version : String)
    (channel : UpdateChannel) (installMode : InstallMode) (directories : List (Path × List String)) :
    Attributed (.start transactionsRoot appDir pid version channel installMode directories) := by
  refine ⟨.inl ⟨rfl, rfl, rfl⟩, rfl, .inl rfl, .nil, ?_, ?_, ?_, ?_, .nil, ?_⟩ <;>
    simp [UpdateService.start]

/-- The steps that leave the checks alone. -/
theorem of_same (h : Attributed s) (hsame : SameChecks s s')
    (hworkers : ∀ v ∈ s'.workers, v ∈ s.workers ∨ Sound s.transactionsRoot v.stage ∧
      (heldId v.stage ≠ "" → heldId v.stage ∈ s'.transactionIds ∧
        ∀ a ∈ s.adopted, a.prepared.updateTransactionId ≠ heldId v.stage))
    (hids : ∀ i ∈ s.transactionIds, i ∈ s'.transactionIds) : Attributed s' := by
  obtain ⟨hroot, hchannel, hstate, -, -, hprepared, hnotes, hoffers, hadopted, -⟩ := hsame
  constructor
  · refine h.shown.imp (fun hc => ⟨?_, ?_, ?_⟩) ?_
    · rw [hstate]; exact hc.updateAvailable
    · rw [hstate]; exact hc.availableVersion
    · rw [hstate]; exact hc.availableVersionRaw
    · rintro ⟨a, hhead, hshows⟩
      refine ⟨a, hadopted ▸ hhead, ?_⟩
      obtain ⟨h1, h2, h3, h4, h5, h6⟩ := hshows
      exact ⟨hoffers ▸ h1, hchannel ▸ h2, hstate ▸ h3, hstate ▸ h4, hstate ▸ h5, hnotes ▸ h6⟩
  · rw [hprepared, hadopted]; exact h.ready
  · rw [hnotes, hadopted]; exact h.notes
  · rw [hadopted]; exact h.numbers
  · rw [hadopted, hoffers]; exact h.numbered
  · rw [hadopted, hroot]; exact h.adopted
  · intro v hv
    rw [hroot]
    exact (hworkers v hv).elim (h.workers v) And.left
  · rw [hadopted]
    exact fun a ha hne => hids _ (h.minted a ha hne)
  · rw [hadopted]; exact h.distinct
  · rw [hadopted]
    intro v hv hne
    rcases hworkers v hv with hv | ⟨-, hnew⟩
    · exact ⟨hids _ (h.held v hv hne).1, (h.held v hv hne).2⟩
    · exact hnew hne

theorem setChannel (h : Attributed s) (hsel : s.state.channel = s.channel)
    (channel : UpdateChannel) : Attributed (s.SetChannel channel) := by
  by_cases hc : s.state.channel = channel
  · -- the channel that is selected already
    obtain rfl : channel = s.channel := hc.symm.trans hsel
    refine h.of_same ?_ (fun v hv => .inl hv) fun _ hi => hi
    unfold SetChannel ApplyUpdateChannelSelection
    rw [if_pos hc, if_pos hc]
    constructor <;> rfl
  · unfold SetChannel ApplyUpdateChannelSelection
    rw [if_neg hc, if_neg hc]
    exact ⟨.inl ⟨rfl, rfl, rfl⟩, h.ready, h.notes, h.numbers, fun a ha => Nat.le_succ_of_le (h.numbered a ha),
      h.adopted, h.workers, h.minted, h.distinct, h.held⟩

theorem requestUpdateCheck (h : Attributed s) : Attributed s.RequestUpdateCheck := by
  unfold RequestUpdateCheck
  split_ifs
  · exact h
  refine ⟨h.shown.imp (fun hc => ⟨hc.1, hc.2, hc.3⟩) ?_, h.ready, h.notes, h.numbers, h.numbered,
    h.adopted, ?_, h.minted, h.distinct, ?_⟩
  · rintro ⟨a, hhead, hshows⟩
    obtain ⟨h1, h2, h3, h4, h5, h6⟩ := hshows
    exact ⟨a, hhead, h1, h2, h3, h4, h5, h6⟩
  · intro w hw
    rcases List.mem_append.mp hw with hw | hw
    · exact h.workers w hw
    · obtain rfl := List.mem_singleton.mp hw
      trivial
  · intro w hw hne
    rcases List.mem_append.mp hw with hw | hw
    · exact h.held w hw hne
    · obtain rfl := List.mem_singleton.mp hw
      exact absurd rfl hne

theorem worker_apart (h : Attributed s) (hw : w ∈ s.workers)
    (hstage : ∀ r p, w.stage ≠ .complete r p) (hrun : s.runWorker answer w = some (t, stage))
    (hs : s' = { t with workers := s'.workers }) (hmoved : Moved s.workers w stage s'.workers) :
    Attributed s' := by
  obtain ⟨hsame, -⟩ := runWorker_apart hstage hrun
  obtain ⟨hstages, hids⟩ := runWorker_sound hstage (h.workers w hw) hrun
  have hids' : s'.transactionIds = t.transactionIds := by rw [hs]
  refine h.of_same (hs ▸ hsame.workers) ?_ fun i hi => hids' ▸ hids i hi
  intro v hv
  rcases hmoved.origin v hv with ⟨hv, -⟩ | ⟨-, hst⟩
  · exact .inl hv
  · obtain ⟨hsound, hheld⟩ := hstages _ hst
    refine .inr ⟨hsound, fun hne => ?_⟩
    rw [hids']
    rcases hheld with hnone | hold | ⟨hnew, hin⟩
    · exact absurd hnone hne
    · rw [hold] at hne ⊢
      exact ⟨hids _ (h.held w hw hne).1, (h.held w hw hne).2⟩
    · -- a transaction that is drawn is no check's yet
      refine ⟨hin, fun a ha he => hnew ?_⟩
      rw [← he]
      exact h.minted a ha (he ▸ hne)

/-- The critical section of the check in flight: on another channel it clears the offer, else its
    answer, its notes and its transaction become the offer together. -/
theorem worker_complete (h : Attributed s) (hflight : SingleFlight s) (hw : w ∈ s.workers)
    {r : UpdateCheckResult} {p : Option PreparedUpdate} (hstage : w.stage = .complete r p)
    (hs : s' = { (s.complete w.operation r p).1 with workers := s'.workers })
    (hmoved : Moved s.workers w (some (s.complete w.operation r p).2) s'.workers) :
    Attributed s' := by
  have hid : w.operation.id = s.activeOperation := (hflight.running w hw).mp (by rw [hstage]; rfl)
  have hsound := h.workers w hw
  have hheld := h.held w hw
  rw [hstage] at hsound hheld
  -- the other workers have no transaction to publish, and this one has none any more
  have hworkers : ∀ v ∈ s'.workers, Sound s.transactionsRoot v.stage ∧ heldId v.stage = "" := by
    intro v hv
    rcases hmoved.origin v hv with ⟨hv, hne⟩ | ⟨-, hst⟩
    · refine ⟨h.workers v hv, by_contra fun hv' => hne ?_⟩
      exact ((hflight.running v hv).mp (heldId_checking hv')).trans hid.symm
    · rw [← Option.some.inj hst]
      unfold complete
      dsimp only
      split_ifs <;> exact ⟨trivial, rfl⟩
  have hroot : s'.transactionsRoot = s.transactionsRoot := by rw [hs]; rfl
  have hids : s'.transactionIds = s.transactionIds := by rw [hs]; rfl
  by_cases hc : w.operation.channel = s.channel
  · -- the answer is adopted
    have hnew : s' = { s' with
        state := { s.state with
          checking := false, channel := w.operation.channel, updateAvailable := r.updateAvailable
          availableVersion := r.availableVersion
          availableVersionRaw := r.availableVersionRaw
          lastError := r.errorMessage.getD "" }
        channel := s.channel, preparedUpdate := p.getD {}, gapNotes := r.gapNotes
        offers := s.offers + 1
        adopted := ⟨w.operation, r, p.getD {}, s.channel, s.offers + 1⟩ :: s.adopted } := by
      rw [hs]
      unfold complete ResolveUpdateCheckCompletion
      rw [if_neg (not_not.mpr hid), if_neg (not_not.mpr hc)]
      rfl
    generalize hs'' : s'.workers = workers' at *
    rw [hnew]
    constructor
    · exact .inr ⟨_, rfl, rfl, rfl, rfl, rfl, rfl, rfl⟩
    · rfl
    · exact .inr ⟨_, rfl, rfl⟩
    · exact List.pairwise_cons.mpr ⟨fun a ha => Nat.lt_succ_of_le (h.numbered a ha), h.numbers⟩
    · exact List.forall_mem_cons.mpr ⟨Nat.le_refl _, fun a ha => Nat.le_succ_of_le (h.numbered a ha)⟩
    · rw [List.forall_mem_cons]
      refine ⟨⟨hc, ?_⟩, fun a ha => hroot ▸ h.adopted a ha⟩
      cases p with
      | none => exact .inl rfl
      | some p => exact .inr (hroot ▸ hsound p rfl)
    · intro v hv
      exact hroot ▸ (hworkers v (hs'' ▸ hv)).1
    · rw [List.forall_mem_cons]
      refine ⟨fun hne => ?_, fun a ha hne => hids ▸ h.minted a ha hne⟩
      cases p with
      | none => exact absurd rfl hne
      | some p => exact hids ▸ (hheld hne).1
    · refine List.pairwise_cons.mpr ⟨fun a ha hne => ?_, h.distinct⟩
      cases p with
      | none => exact absurd rfl hne
      | some p => exact ((hheld hne).2 a ha).symm
    · intro v hv hne
      exact absurd (hworkers v (hs'' ▸ hv)).2 hne
  · -- the selection has moved
    have hnew : s'.adopted = s.adopted ∧ s'.preparedUpdate = s.preparedUpdate ∧
        s'.offers = s.offers ∧ s'.gapNotes = [] ∧ Clear s' := by
      rw [hs]
      unfold complete ResolveUpdateCheckCompletion
      rw [if_neg (not_not.mpr hid), if_pos hc]
      exact ⟨rfl, rfl, rfl, rfl, rfl, rfl, rfl⟩
    obtain ⟨hadopted, hprepared, hoffers, hnotes, hclear⟩ := hnew
    constructor
    · exact .inl hclear
    · rw [hprepared, hadopted]; exact h.ready
    · exact .inl hnotes
    · rw [hadopted]; exact h.numbers
    · rw [hadopted, hoffers]; exact h.numbered
    · rw [hadopted, hroot]; exact h.adopted
    · rw [hroot]
      exact fun v hv => (hworkers v hv).1
    · rw [hadopted, hids]; exact h.minted
    · rw [hadopted]; exact h.distinct
    · exact fun v hv hne => absurd (hworkers v hv).2 hne

theorem step (h : Attributed s) (hflight : SingleFlight s) {a : UpdateAction}
    (hstep : s.step a = some s') : Attributed s' := by
  cases a with
  | setChannel channel =>
      obtain ⟨-, hs⟩ := Option.ite_none_right_eq_some.mp hstep
      cases hs
      exact h.setChannel hflight.selected channel
  | setVerifyReinstallMode on =>
      obtain ⟨-, hs⟩ := Option.ite_none_right_eq_some.mp hstep
      cases hs
      exact h.of_same (by constructor <;> rfl) (fun _ hv => .inl hv) fun _ hi => hi
  | requestUpdateCheck =>
      obtain ⟨-, hs⟩ := Option.ite_none_right_eq_some.mp hstep
      cases hs
      exact h.requestUpdateCheck
  | launchUpdater =>
      obtain ⟨-, hs⟩ := Option.ite_none_right_eq_some.mp hstep
      cases hs
      exact h.of_same (by constructor <;> rfl) (fun _ hv => .inl hv) fun _ hi => hi
  | deliver =>
      obtain ⟨hsame, hworkers, hids⟩ := deliver_same hstep
      exact h.of_same hsame (fun _ hv => .inl (hworkers ▸ hv)) fun _ hi => hids ▸ hi
  | ui answer =>
      obtain ⟨hsame, hworkers, hids⟩ := uiStep_same hstep
      exact h.of_same hsame (fun _ hv => .inl (hworkers ▸ hv)) fun _ hi => hids ▸ hi
  | worker answer operation =>
      obtain ⟨w, hw, t, stage, hrun, hs, hmoved⟩ := workerStep_some hflight.nodup hstep
      by_cases hstage : ∀ r p, w.stage ≠ .complete r p
      · exact h.worker_apart hw hstage hrun hs hmoved
      · simp only [not_forall, not_not] at hstage
        obtain ⟨r, p, hstage⟩ := hstage
        unfold runWorker at hrun
        rw [hstage] at hrun
        cases hrun
        exact h.worker_complete hflight hw hstage hs hmoved

end Attributed

/-! ## D. Runs -/

section Runs

variable {transactionsRoot : Path} {appDir : String} {pid : Nat} {version : String}
  {channel : UpdateChannel} {installMode : InstallMode} {directories : List (Path × List String)}
  {as : List UpdateAction}

theorem exec_singleFlight
    (h : exec (.start transactionsRoot appDir pid version channel installMode directories) as =
      some s) : SingleFlight s :=
  StepRun.exec_invariant_all (fun _ _ _ hs hstep => hs.step hstep) (.start ..) h

theorem exec_attributed
    (h : exec (.start transactionsRoot appDir pid version channel installMode directories) as =
      some s) : Attributed s :=
  (StepRun.exec_invariant_all (I := fun s => SingleFlight s ∧ Attributed s)
    (fun _ _ _ hs hstep => ⟨hs.1.step hstep, hs.2.step hs.1 hstep⟩) ⟨.start .., .start ..⟩ h).2

/-- The checks before their critical section are the one that is active. -/
theorem SingleFlight.checks (h : SingleFlight s) :
    (s.workers.filter (·.stage.checking)).map (·.operation.id) =
      if s.activeOperation = 0 then [] else [s.activeOperation] := by
  have hfilter : s.workers.filter (·.stage.checking) =
      s.workers.filter (·.operation.id = s.activeOperation) :=
    List.filter_congr fun w hw =>
      Bool.eq_iff_iff.mpr ((h.running w hw).trans (decide_eq_true_iff).symm)
  rw [hfilter]
  split_ifs with hidle
  · rw [List.map_eq_nil_iff, List.filter_eq_nil_iff]
    intro w hw hid
    exact (h.bounded w hw).1 ((of_decide_eq_true hid).trans hidle)
  · obtain ⟨w, hw, hid⟩ := h.inFlight hidle
    have hnodup := h.nodup.sublist (List.filter_sublist (p := (·.operation.id = s.activeOperation))
      |>.map fun w : Worker => w.operation.id)
    have hone := List.eq_replicate_of_mem (a := s.activeOperation)
      (l := (s.workers.filter (·.operation.id = s.activeOperation)).map (·.operation.id)) <| by
      intro i hi
      obtain ⟨v, hv, rfl⟩ := List.mem_map.mp hi
      simpa using (List.mem_filter.mp hv).2
    have hmem : s.activeOperation ∈
        (s.workers.filter (·.operation.id = s.activeOperation)).map (·.operation.id) :=
      List.mem_map.mpr ⟨w, List.mem_filter.mpr ⟨hw, by simpa using hid⟩, hid⟩
    have hpos := List.length_pos_of_mem hmem
    rw [hone] at hnodup ⊢
    have hle := List.nodup_replicate.mp hnodup
    rw [show List.length _ = 1 by omega, List.replicate_one]

/-- In every run a check is under way exactly while the state says so, and it is the active
    operation's alone. The operations that have published, followed by the active one, are those
    that were admitted, each once and in their order. None is ever superseded. -/
theorem checks_in_order
    (h : exec (.start transactionsRoot appDir pid version channel installMode directories) as =
      some s) :
    (s.state.checking = true ↔ s.activeOperation ≠ 0) ∧
      (s.workers.filter (·.stage.checking)).map (·.operation.id) =
        (if s.activeOperation = 0 then [] else [s.activeOperation]) ∧
      (s.publishers.map Prod.fst).reverse ++
          (if s.activeOperation = 0 then [] else [s.activeOperation]) =
        List.range' 1 (s.nextOperationId - 1) ∧
      ∀ w ∈ s.workers, ∀ r directory, w.stage ≠ .discard .supersededByNewerCheck r directory := by
  have hs := exec_singleFlight h
  refine ⟨hs.checking, hs.checks, ?_, hs.kept⟩
  rw [hs.published]
  split_ifs with hidle
  · exact List.append_nil _
  · have hlatest := hs.latest hidle
    have hcount : s.nextOperationId - 1 = s.nextOperationId - 2 + 1 := by omega
    rw [hcount, List.range'_concat]
    congr 2
    omega

theorem checks_in_order_twice :
    ∃ s, exec (.start ["updates"] "" 1 "1.0.0" .stable .portable [])
        [.requestUpdateCheck, .worker {} 1, .worker {} 1, .requestUpdateCheck] = some s ∧
      s.activeOperation = 2 ∧ s.nextOperationId = 3 ∧
      (s.publishers.map Prod.fst).reverse ++
          (if s.activeOperation = 0 then [] else [s.activeOperation]) =
        List.range' 1 (s.nextOperationId - 1) := by
  have h : exec (.start ["updates"] "" 1 "1.0.0" .stable .portable [])
      [.requestUpdateCheck, .worker {} 1, .worker {} 1, .requestUpdateCheck] = some _ := rfl
  exact ⟨_, h, rfl, rfl, (checks_in_order h).2.2.1⟩

/-- Whenever a version is on offer it is the whole answer of the last check that was adopted, which
    ran on the channel that is selected, with its notes and the transaction that it prepared. -/
theorem offer_is_last_adopted
    (h : exec (.start transactionsRoot appDir pid version channel installMode directories) as =
      some s)
    (hoffer : s.state.updateAvailable = true ∨ s.state.availableVersionRaw ≠ "") :
    ∃ a, s.adopted.head? = some a ∧ Shows s a ∧ a.operation.channel = s.channel ∧
      s.state.channel = s.channel ∧ s.preparedUpdate = a.prepared ∧
      (a.prepared = {} ∨ PreparedFor s.transactionsRoot a.result a.prepared) := by
  have hs := exec_attributed h
  rcases hs.shown with hclear | ⟨a, hhead, hshows⟩
  · exact absurd hoffer (by simp [hclear.updateAvailable, hclear.availableVersionRaw])
  · have ha := hs.adopted a (List.mem_of_mem_head? hhead)
    exact ⟨a, hhead, hshows, ha.selected.trans hshows.selected, (exec_singleFlight h).selected,
      by rw [hs.ready, hhead]; rfl, ha.prepared⟩

theorem offer_is_last_adopted_offered :
    ∃ s, exec (.start ["updates"] "" 1 "1.0.0" .stable .portable [])
        [.requestUpdateCheck,
          .worker { result := { updateAvailable := true, availableVersionRaw := "1.1.0" } } 1,
          .worker {} 1] = some s ∧
      ∃ a, s.adopted.head? = some a ∧ Shows s a ∧ a.operation.channel = s.channel ∧
        s.state.channel = s.channel ∧ s.preparedUpdate = a.prepared ∧
        (a.prepared = {} ∨ PreparedFor s.transactionsRoot a.result a.prepared) := by
  have h : exec (.start ["updates"] "" 1 "1.0.0" .stable .portable [])
      [.requestUpdateCheck,
        .worker { result := { updateAvailable := true, availableVersionRaw := "1.1.0" } } 1,
        .worker {} 1] = some _ := rfl
  exact ⟨_, h, offer_is_last_adopted h (.inl rfl)⟩

end Runs

end UpdateService

end Exosnap.Update
