/-
  The signals of one call of the worker: exactly one that is terminal, at the end, and the steps
  started and done in pairs, in strictly increasing order, the last perhaps without its end.

  `Emits m L` is the judgement: from every world, `L` holds of the value that `m` returns and of
  the signals it emits. A step that returns `true` has emitted its start and its end and nothing
  terminal; one that returns `false` its start and, last, one terminal signal (`StepShape`).
-/
import Exosnap.Updater.UpdaterWorker

namespace Exosnap.Updater

open Exosnap.Update

namespace Signal

/-- The signals that end a call. -/
def isTerminal : Signal → Bool
  | failed _ _ | cancelled | readyToApply | allDone | upToDate | updateAvailable _
  | checkBlocked _ => true
  | _ => false

/-- The signals about steps. -/
def isStep : Signal → Bool
  | stepStarted _ | stepDone _ => true
  | _ => false

/-- Progress and findings on the way. -/
def Passing (s : Signal) : Prop := s.isTerminal = false ∧ s.isStep = false

end Signal

def Event.signal? : Event → Option Signal
  | .signal s => some s
  | _ => none

variable {π : Type}

def signals (entries : List (Entry π)) : List Signal := entries.filterMap fun e => e.event.signal?

/-- Start and end of a step. -/
def startedAndDone (step : UpStep) : List Signal := [.stepStarted step, .stepDone step]

structure Disciplined (sigs : List Signal) : Prop where
  /-- One terminal signal, and nothing behind it. -/
  ends : ∃ body last, sigs = body ++ [last] ∧ last.isTerminal = true ∧
    ∀ s ∈ body, s.isTerminal = false
  /-- Each step is done before the next starts, the last perhaps not, and they increase. -/
  steps : ∃ (finished : List UpStep) (pending : Option UpStep),
    sigs.filter Signal.isStep =
      finished.flatMap startedAndDone ++ (pending.map Signal.stepStarted).toList ∧
    (finished ++ pending.toList).Pairwise (·.toNat < ·.toNat)

/-! ## Emitted signals -/

section
variable {α β : Type}

def Emits (m : Worker π α) (L : α → List Signal → Prop) : Prop :=
  ∀ w, L (m w).value (signals (m w).entries)

/-- Emits nothing. -/
def Mute (m : Worker π α) : Prop := Emits m fun _ sigs => sigs = []

variable {m : Worker π α} {f : α → Worker π β} {L : α → List Signal → Prop}
  {L' : β → List Signal → Prop}

theorem Emits.bind (hm : Emits m L)
    (hf : ∀ a, Emits (f a) fun b later => ∀ sigs, L a sigs → L' b (sigs ++ later)) :
    Emits (m >>= f) L' := by
  intro w
  have hlater := hf (m w).value (m w).state _ (hm w)
  show L' _ (signals ((m w).entries ++ _))
  unfold signals
  rw [List.filterMap_append]
  exact hlater

theorem Emits.mono {L' : α → List Signal → Prop} (hm : Emits m L)
    (h : ∀ a sigs, L a sigs → L' a sigs) : Emits m L' :=
  fun w => h _ _ (hm w)

theorem Emits.pure {a : α} (h : L a []) : Emits (Pure.pure a : Worker π α) L := fun _ => h

theorem Mute.bind (hm : Mute m) (hf : ∀ a, Emits (f a) L') : Emits (m >>= f) L' := by
  refine Emits.bind hm fun a w sigs hsigs => ?_
  rw [hsigs]
  exact hf a w

theorem Mute.read : Mute (Journaled.read : Worker π (World π)) := fun _ => rfl

theorem Mute.assign (g : World π → World π) : Mute (assign g) := fun _ => rfl

theorem Mute.ask (answers : Nat → α) : Mute (ask answers : Worker π α) := fun _ => rfl

theorem Mute.note {event : Event} (h : event.signal? = none) :
    Mute (note event : Worker π Unit) := by
  intro w
  show signals [⟨event, w⟩] = []
  simp [signals, h]

theorem Mute.onDisk (m : Swap π α) : Mute (onDisk m) := by
  intro w
  show signals ((m w.toSession).entries.map _) = []
  unfold signals
  rw [List.filterMap_map]
  exact List.filterMap_eq_nil_iff.mpr fun _ _ => rfl

theorem Mute.pure (a : α) : Mute (Pure.pure a : Worker π α) := fun _ => rfl

theorem Mute.then {f : α → Worker π β} (hm : Mute m) (hf : ∀ a, Mute (f a)) : Mute (m >>= f) :=
  Mute.bind hm hf

theorem Emits.ite {c : Prop} [Decidable c] {m' : Worker π α} (hthen : Emits m L)
    (helse : Emits m' L) : Emits (if c then m else m') L := by
  split
  · exact hthen
  · exact helse

theorem Emits.emit_bind {s : Signal} {f : Unit → Worker π β}
    (hf : Emits (f ()) fun b later => L' b (s :: later)) : Emits (emit s >>= f) L' :=
  fun w => hf w

theorem Emits.emit {s : Signal} {L : Unit → List Signal → Prop} (h : L () [s]) :
    Emits (emit s : Worker π Unit) L :=
  fun _ => h

end

/-! ## Shapes -/

/-- Passing signals, and at last the end of the step, if it succeeds, or a terminal signal. -/
def BodyShape (step : UpStep) (ok : Bool) (sigs : List Signal) : Prop :=
  ∃ passing last, sigs = passing ++ [last] ∧ (∀ s ∈ passing, s.Passing) ∧
    if ok then last = .stepDone step else last.isTerminal = true

/-- The start of the step before that. -/
def StepShape (step : UpStep) (ok : Bool) (sigs : List Signal) : Prop :=
  ∃ body, sigs = .stepStarted step :: body ∧ BodyShape step ok body

/-- Nothing, or one terminal signal. -/
def Verdict (ok : Bool) (sigs : List Signal) : Prop :=
  if ok then sigs = [] else ∃ t, t.isTerminal = true ∧ sigs = [t]

/-- The rest of a call: steps from the `n`-th on that are done, perhaps one that is not, and a
    terminal signal. -/
inductive Pipeline : Nat → List Signal → Prop
  | ends {n : Nat} {passing : List Signal} {last : Signal} (hpassing : ∀ s ∈ passing, s.Passing)
      (h : last.isTerminal = true) : Pipeline n (passing ++ [last])
  | pending {n : Nat} {step : UpStep} {sigs : List Signal} (hn : n ≤ step.toNat)
      (h : StepShape step false sigs) : Pipeline n sigs
  | done {n : Nat} {step : UpStep} {sigs rest : List Signal} (hn : n ≤ step.toNat)
      (h : StepShape step true sigs) (hrest : Pipeline (step.toNat + 1) rest) :
      Pipeline n (sigs ++ rest)

theorem BodyShape.last {step : UpStep} {ok : Bool} {last : Signal}
    (h : if ok then last = .stepDone step else last.isTerminal = true) :
    BodyShape step ok [last] :=
  ⟨[], last, rfl, fun _ hs => absurd hs List.not_mem_nil, h⟩

theorem BodyShape.cons {step : UpStep} {ok : Bool} {s : Signal} {sigs : List Signal}
    (hs : s.Passing) (h : BodyShape step ok sigs) : BodyShape step ok (s :: sigs) := by
  obtain ⟨passing, last, rfl, hpassing, hlast⟩ := h
  exact ⟨s :: passing, last, rfl, List.forall_mem_cons.mpr ⟨hs, hpassing⟩, hlast⟩

theorem BodyShape.of_passing {step : UpStep} {ok : Bool} {sigs later : List Signal}
    (hsigs : ∀ s ∈ sigs, s.Passing) (h : BodyShape step ok later) :
    BodyShape step ok (sigs ++ later) := by
  induction sigs with
  | nil => exact h
  | cons s sigs ih =>
    obtain ⟨hs, hsigs⟩ := List.forall_mem_cons.mp hsigs
    exact (ih hsigs).cons hs

theorem Verdict.refused {t : Signal} (h : t.isTerminal = true) : Verdict false [t] := ⟨t, h, rfl⟩

theorem Pipeline.last {n : Nat} {last : Signal} (h : last.isTerminal = true) : Pipeline n [last] := by
  have hnone : ∀ s ∈ ([] : List Signal), s.Passing := fun _ hs => absurd hs List.not_mem_nil
  exact .ends hnone h

theorem Pipeline.mono {n m : Nat} {sigs : List Signal} (h : Pipeline n sigs) (hm : m ≤ n) :
    Pipeline m sigs := by
  cases h with
  | ends hpassing h => exact .ends hpassing h
  | pending hn h => exact .pending (Nat.le_trans hm hn) h
  | done hn h hrest => exact .done (Nat.le_trans hm hn) h hrest

theorem isStep_of_isTerminal {s : Signal} (h : s.isTerminal = true) : s.isStep = false := by
  cases s <;> first | rfl | exact nomatch h

theorem filter_isStep_passing {sigs : List Signal} (h : ∀ s ∈ sigs, s.Passing) :
    sigs.filter Signal.isStep = [] :=
  List.filter_eq_nil_iff.mpr fun s hs => by simp [(h s hs).2]

/-- A call that runs through a pipeline is disciplined, with its steps from the `n`-th on. -/
theorem Pipeline.disciplined {n : Nat} {sigs : List Signal} (h : Pipeline n sigs) :
    (∃ body last, sigs = body ++ [last] ∧ last.isTerminal = true ∧
      ∀ s ∈ body, s.isTerminal = false) ∧
    ∃ (finished : List UpStep) (pending : Option UpStep),
      sigs.filter Signal.isStep =
        finished.flatMap startedAndDone ++ (pending.map Signal.stepStarted).toList ∧
      (finished ++ pending.toList).Pairwise (·.toNat < ·.toNat) ∧
      ∀ step ∈ finished ++ pending.toList, n ≤ step.toNat := by
  induction h with
  | @ends n passing last hpassing h =>
    refine ⟨⟨passing, last, rfl, h, fun s hs => (hpassing s hs).1⟩, [], none, ?_,
      List.Pairwise.nil, fun _ hs => absurd hs List.not_mem_nil⟩
    rw [List.filter_append, filter_isStep_passing hpassing, List.filter_cons_of_neg]
    · rfl
    · rw [isStep_of_isTerminal h]
      exact Bool.false_ne_true
  | @pending n step sigs hn h =>
    obtain ⟨_, rfl, passing, last, rfl, hpassing, hlast⟩ := h
    refine ⟨⟨.stepStarted step :: passing, last, rfl, hlast, ?_⟩, [], some step, ?_,
      List.pairwise_singleton _ _, ?_⟩
    · exact List.forall_mem_cons.mpr ⟨rfl, fun s hs => (hpassing s hs).1⟩
    · rw [List.filter_cons_of_pos rfl, List.filter_append, filter_isStep_passing hpassing,
        List.filter_cons_of_neg (by simp [isStep_of_isTerminal hlast])]
      rfl
    · intro s hs
      rw [List.nil_append, Option.toList_some, List.mem_singleton] at hs
      exact hs ▸ hn
  | @done n step sigs rest hn h _ ih =>
    obtain ⟨⟨body, last, rfl, hlast, hbody⟩, finished, pending, hsteps, hincreasing, hfrom⟩ := ih
    obtain ⟨_, rfl, passing, _, rfl, hpassing, rfl⟩ := h
    refine ⟨⟨.stepStarted step :: (passing ++ [.stepDone step]) ++ body, last, by simp, hlast, ?_⟩,
      step :: finished, pending, ?_, ?_, ?_⟩
    · intro s hs
      rcases List.mem_append.mp hs with hfirst | hrest
      · rcases List.mem_cons.mp hfirst with rfl | hfirst
        · rfl
        · rcases List.mem_append.mp hfirst with hpass | hdone
          · exact (hpassing s hpass).1
          · rw [List.mem_singleton.mp hdone]
            rfl
      · exact hbody s hrest
    · rw [List.filter_append, hsteps, List.filter_cons_of_pos rfl, List.filter_append,
        filter_isStep_passing hpassing]
      rfl
    · refine List.pairwise_cons.mpr ⟨fun s hs => ?_, hincreasing⟩
      exact hfrom s hs
    · intro s hs
      rcases List.mem_cons.mp hs with rfl | hs
      · exact hn
      · have := hfrom s hs
        omega

/-! ## The worker's functions -/

namespace Context

variable (c : Context π)

theorem fail_emits {f : FailureCase} {detail : String} {L : Bool → List Signal → Prop}
    (h : L false [.failed f detail]) : Emits (fail f detail : Worker π Bool) L :=
  Emits.emit_bind (Emits.pure h)

theorem abortedByCancel_emits :
    Emits c.abortedByCancel fun aborted sigs => Verdict (!aborted) sigs := by
  unfold abortedByCancel
  refine (Mute.ask _).bind fun pending => Emits.ite (Emits.pure rfl) ?_
  exact Emits.emit_bind (Emits.pure (Verdict.refused rfl))

/-- A failure, unless a cancellation is pending and reported in its place. -/
theorem aborted_or {α : Type} {a : α} {m : Worker π α} {L : α → List Signal → Prop}
    (haborted : ∀ t, t.isTerminal = true → L a [t]) (hm : Emits m L) :
    Emits (c.abortedByCancel >>= fun aborted => if aborted = true then pure a else m) L := by
  refine Emits.bind c.abortedByCancel_emits fun aborted => ?_
  cases aborted with
  | true =>
    refine Emits.pure fun sigs hsigs => ?_
    obtain ⟨t, ht, rfl⟩ := hsigs
    exact haborted t ht
  | false => exact hm.mono fun a later hlater sigs hsigs => by rwa [show sigs = [] from hsigs]

/-- Silent, or one terminal signal where nothing is resolved and it is not for want of a release. -/
theorem resolveRelease_emits :
    Emits c.resolveRelease fun r sigs => Verdict (r.1 || r.2) sigs := by
  unfold resolveRelease
  refine (Mute.ask _).bind fun answer => ?_
  cases answer with
  | error e => exact Emits.emit_bind (Emits.pure (Verdict.refused rfl))
  | ok json =>
    refine (Mute.assign _).bind fun _ => ?_
    split
    · exact Emits.emit_bind (Emits.pure (Verdict.refused rfl))
    · exact Emits.pure rfl
    · exact (Mute.assign _).bind fun _ => Emits.pure rfl

/-! ## Packages -/

theorem readPackage_mute : Mute c.readPackage := by
  unfold readPackage
  refine (Mute.ask _).then fun file => Mute.read.then fun w => ?_
  split
  · exact Mute.pure _
  · exact Mute.pure _

theorem lockAndVerifyPackage_mute (expected : String) : Mute (c.lockAndVerifyPackage expected) := by
  unfold lockAndVerifyPackage openPackageWriteLock
  refine (Mute.assign _).then fun _ => Mute.then ?_ fun opened => ?_
  · exact (Mute.ask _).then fun _ => (Mute.ask _).then fun _ => Mute.read.then fun _ => Mute.pure _
  · cases opened with
    | none => exact Mute.pure _
    | some bytes =>
      refine (Mute.assign _).then fun _ => (Mute.ask _).then fun readable => Emits.ite (Mute.pure _) ?_
      exact (Mute.assign _).then fun _ => Mute.pure _

theorem extractZip_mute : Mute c.extractZip := by
  unfold extractZip
  refine (Mute.note rfl).then fun _ => c.readPackage_mute.then fun read => ?_
  cases read with
  | none => exact Mute.pure _
  | some package =>
    refine (Mute.assign _).then fun _ => (Mute.ask _).then fun how => ?_
    cases how with
    | refused e => exact Mute.pure _
    | broken exe e => exact (Mute.onDisk _).then fun _ => Mute.pure _
    | done exe => exact (Mute.onDisk _).then fun _ => (Mute.onDisk _).then fun _ => Mute.pure _

theorem hoistStagedRoot_mute (package : π) : Mute (c.hoistStagedRoot package) := by
  unfold hoistStagedRoot
  refine (Mute.onDisk _).then fun _ => (Mute.ask _).then fun moves => Mute.read.then fun w => ?_
  refine Emits.ite (Mute.pure _) ((Mute.onDisk _).then fun _ => (Mute.onDisk _).then fun _ => ?_)
  exact Emits.ite (Mute.pure _) (Mute.onDisk _)

theorem stagePortablePackage_mute : Mute c.stagePortablePackage := by
  unfold stagePortablePackage
  refine (Mute.onDisk _).then fun gone => (Mute.note rfl).then fun _ => ?_
  refine Emits.ite (Mute.pure _) (c.extractZip_mute.then fun extracted => ?_)
  cases extracted with
  | error e => exact (Mute.onDisk _).then fun _ => Mute.pure _
  | ok package =>
    dsimp only
    split
    · exact Mute.pure _
    · refine (c.hoistStagedRoot_mute package).then fun _ => Emits.ite (Mute.pure _) ?_
      exact (Mute.onDisk _).then fun _ => (Mute.onDisk _).then fun _ => Mute.pure _
    · exact (Mute.onDisk _).then fun _ => Mute.pure _

/-! ## Download -/

theorem rejected_emits {α : Type} {f : FailureCase} {detail : String} :
    Emits (readManifestFiles.rejected f detail : Worker π (Option α)) fun r sigs =>
      Verdict r.isSome sigs :=
  Emits.emit_bind (Emits.pure (Verdict.refused rfl))

theorem downloadAndRead_emits (unreadable : String) :
    Emits (readManifestFiles.downloadAndRead c unreadable) fun r sigs => Verdict r.isSome sigs := by
  unfold readManifestFiles.downloadAndRead
  refine (Mute.ask _).bind fun error => ?_
  cases error with
  | some e => exact c.aborted_or (fun t ht => ⟨t, ht, rfl⟩) rejected_emits
  | none =>
    refine (Mute.ask _).bind fun text => ?_
    cases text with
    | none => exact rejected_emits
    | some text => exact Emits.pure rfl

theorem readManifestFiles_emits :
    Emits c.readManifestFiles fun r sigs => Verdict r.isSome sigs := by
  unfold readManifestFiles
  refine Emits.ite ?_ (Mute.read.bind fun w => Emits.ite rejected_emits ?_)
  · refine (Mute.ask _).bind fun manifestJson => ?_
    cases manifestJson with
    | none => exact rejected_emits
    | some manifestJson =>
      refine (Mute.ask _).bind fun signatureHex => ?_
      cases signatureHex with
      | none => exact rejected_emits
      | some signatureHex => exact Emits.pure rfl
  · refine Emits.bind (c.downloadAndRead_emits _) fun manifestJson => ?_
    cases manifestJson with
    | none => exact Emits.pure fun sigs hsigs => by rwa [List.append_nil]
    | some manifestJson =>
      refine Emits.bind (c.downloadAndRead_emits _) fun signatureHex => ?_
      cases signatureHex with
      | none =>
        refine Emits.pure fun sigs hsigs first hfirst => ?_
        rwa [show first = [] from hfirst, List.append_nil]
      | some signatureHex =>
        refine Emits.pure fun sigs hsigs first hfirst => ?_
        rw [show first = [] from hfirst, show sigs = [] from hsigs]
        rfl

theorem reportProgress_emits (progress : List (UInt64 × UInt64)) :
    Emits (fetchPackage.reportProgress progress : Worker π Unit) fun _ sigs =>
      ∀ s ∈ sigs, s.Passing := by
  induction progress with
  | nil => exact Emits.pure fun _ hs => absurd hs List.not_mem_nil
  | cons p progress ih =>
    refine Emits.emit_bind (ih.mono fun _ sigs hsigs => ?_)
    exact List.forall_mem_cons.mpr ⟨⟨rfl, rfl⟩, hsigs⟩

theorem fetchPackage_emits (manifest : UpdateManifest) (package : PackageEntry) :
    Emits (c.fetchPackage manifest package) (BodyShape .download) := by
  have hdone : Emits (fetchPackage.done : Worker π Bool) (BodyShape .download) :=
    Emits.emit_bind (Emits.pure (.last rfl))
  unfold fetchPackage
  refine (Mute.assign _).bind fun _ => (Mute.ask _).bind fun progress => ?_
  refine Emits.bind (reportProgress_emits progress) fun _ => ?_
  refine Emits.mono (L := BodyShape .download) ?_ fun ok later hlater sigs hsigs =>
    .of_passing hsigs hlater
  refine (Mute.ask _).bind fun error => ?_
  cases error with
  | some e => exact c.aborted_or (fun t ht => .last ht) (fail_emits (.last rfl))
  | none =>
    refine (Mute.assign _).bind fun _ => (c.lockAndVerifyPackage_mute _).bind fun refused => ?_
    cases refused with
    | some e => exact fail_emits (.last rfl)
    | none =>
      refine (Mute.assign _).bind fun _ => Emits.ite ?_ hdone
      refine (Mute.assign _).bind fun _ => c.stagePortablePackage_mute.bind fun staged => ?_
      split
      · exact (Mute.assign _).bind fun _ => fail_emits (.last rfl)
      · exact fail_emits (.last rfl)
      · exact hdone

theorem fetchAndStage_emits : Emits c.fetchAndStage (BodyShape .download) := by
  unfold fetchAndStage
  refine Mute.read.bind fun w => Emits.ite (fail_emits (.last rfl)) ?_
  refine (Mute.ask _).bind fun _ => Emits.ite (fail_emits (.last rfl)) ?_
  refine (Mute.ask _).bind fun _ => Emits.ite (fail_emits (.last rfl)) ?_
  refine (Mute.assign _).bind fun _ => Emits.bind c.readManifestFiles_emits fun files => ?_
  cases files with
  | none =>
    refine Emits.pure fun sigs hsigs => ?_
    obtain ⟨t, ht, rfl⟩ := hsigs
    exact .last ht
  | some files =>
    refine Emits.mono (L := BodyShape .download) ?_ fun ok later hlater sigs hsigs => by
      rwa [show sigs = [] from hsigs]
    dsimp only
    split
    · exact fail_emits (.last rfl)
    · split
      · exact fail_emits (.last rfl)
      · exact c.fetchPackage_emits _ _

theorem StepShape.start {step : UpStep} {m : Worker π Bool} (hm : Emits m (BodyShape step)) :
    Emits (emit (.stepStarted step) >>= fun _ => m) (StepShape step) :=
  Emits.emit_bind (hm.mono fun _ body hbody => ⟨body, rfl, hbody⟩)

theorem runDownload_emits : Emits c.runDownload (StepShape .download) := by
  unfold runDownload
  refine StepShape.start (Emits.ite c.fetchAndStage_emits ?_)
  refine Emits.bind c.resolveRelease_emits fun resolved => ?_
  obtain ⟨ok, noRelease⟩ := resolved
  cases ok with
  | true =>
    refine Mute.read.bind fun w => Emits.emit_bind (c.fetchAndStage_emits.mono ?_)
    intro ok later hlater sigs hsigs
    rw [show sigs = [] from hsigs]
    exact hlater.cons ⟨rfl, rfl⟩
  | false =>
    cases noRelease with
    | true =>
      refine fail_emits fun sigs hsigs => ?_
      rw [show sigs = [] from hsigs]
      exact .last rfl
    | false =>
      refine Emits.pure fun sigs hsigs => ?_
      obtain ⟨t, ht, rfl⟩ := hsigs
      exact .last ht

/-! ## The other steps -/

theorem runCloseApp_emits : Emits c.runCloseApp (StepShape .closeApp) := by
  have hdone : Emits (runCloseApp.done : Worker π Bool) (BodyShape .closeApp) :=
    Emits.emit_bind (Emits.pure (.last rfl))
  unfold runCloseApp
  refine StepShape.start (Emits.ite ?_ ?_)
  · exact (Mute.ask _).bind fun _ => Emits.ite (fail_emits (.last rfl)) hdone
  · exact (Mute.ask _).bind fun _ => Emits.ite (fail_emits (.last rfl)) hdone

theorem restage_emits : Emits c.restage fun ok sigs => Verdict ok sigs := by
  unfold restage
  refine Mute.read.bind fun w => c.readPackage_mute.bind fun kept => Emits.ite ?_ ?_
  · exact (Mute.assign _).bind fun _ => fail_emits (Verdict.refused rfl)
  · refine c.stagePortablePackage_mute.bind fun staged => ?_
    split
    · exact (Mute.assign _).bind fun _ => fail_emits (Verdict.refused rfl)
    · exact fail_emits (Verdict.refused rfl)
    · exact Emits.pure rfl

theorem swapInstall_emits : Emits c.swapInstall (BodyShape .install) := by
  unfold swapInstall
  refine (Mute.note rfl).bind fun _ => (Mute.onDisk _).bind fun error => Mute.read.bind fun w => ?_
  cases error
  case none => exact (Mute.assign _).bind fun _ => Emits.emit_bind (Emits.pure (.last rfl))
  all_goals exact fail_emits (.last rfl)

theorem runInstallPortable_emits : Emits c.runInstallPortable (StepShape .install) := by
  unfold runInstallPortable
  refine StepShape.start ((Mute.assign _).bind fun _ => (Mute.onDisk _).bind fun _ => ?_)
  refine (Mute.note rfl).bind fun _ => Mute.read.bind fun w => Emits.ite c.swapInstall_emits ?_
  refine Emits.bind c.restage_emits fun ok => ?_
  cases ok with
  | true =>
    exact c.swapInstall_emits.mono fun ok later hlater sigs hsigs => by
      rwa [show sigs = [] from hsigs]
  | false =>
    refine Emits.pure fun sigs hsigs => ?_
    obtain ⟨t, ht, rfl⟩ := hsigs
    exact .last ht

theorem elevateMsi_emits : Emits c.elevateMsi (BodyShape .install) := by
  unfold elevateMsi
  refine (Mute.note rfl).bind fun _ => (Mute.ask _).bind fun elevation => ?_
  cases elevation with
  | declined => exact fail_emits (.last rfl)
  | error code => exact fail_emits (.last rfl)
  | noProcess => exact fail_emits (.last rfl)
  | started =>
    refine (Mute.ask _).bind fun _ => Emits.ite ?_ ?_
    · exact c.aborted_or (fun t ht => .last ht) (fail_emits (.last rfl))
    · refine (Mute.ask _).bind fun exitCode => ?_
      split
      · exact fail_emits (.last rfl)
      · exact fail_emits (.last rfl)
      · exact Emits.emit_bind (Emits.pure (.last rfl))

theorem runInstallMsi_emits : Emits c.runInstallMsi (StepShape .install) := by
  have helevate : Emits (runInstallMsi.elevate c) (BodyShape .install) := by
    unfold runInstallMsi.elevate
    exact (Mute.ask _).bind fun _ => Emits.ite (fail_emits (.last rfl)) c.elevateMsi_emits
  unfold runInstallMsi
  refine StepShape.start (Mute.read.bind fun w => Emits.ite helevate ?_)
  refine (Mute.note rfl).bind fun _ => (c.lockAndVerifyPackage_mute _).bind fun refused => ?_
  cases refused with
  | some e => exact fail_emits (.last rfl)
  | none => exact helevate

theorem undoSwap_emits {L : Bool → List Signal → Prop}
    (h : ∀ f detail, L false [.failed f detail]) : Emits c.undoSwap L := by
  unfold undoSwap
  refine (Mute.onDisk _).bind fun restore => Mute.read.bind fun w => Emits.ite ?_ ?_
  · exact fail_emits (h _ _)
  · exact fail_emits (h _ _)

theorem runVerify_emits : Emits c.runVerify (StepShape .verify) := by
  have hdone (dir : String) : Emits (runVerify.done dir : Worker π Bool) (BodyShape .verify) :=
    (Mute.assign _).bind fun _ => Emits.emit_bind (Emits.pure (.last rfl))
  unfold runVerify
  refine StepShape.start (Emits.ite ?_ ?_)
  · exact Mute.read.bind fun w => 
      Emits.ite (c.undoSwap_emits fun _ _ => .last rfl) (hdone _)
  · refine (Mute.ask _).bind fun installDir => Emits.ite (fail_emits (.last rfl)) ?_
    refine (Mute.ask _).bind fun exe => Mute.read.bind fun w => ?_
    exact Emits.ite (fail_emits (.last rfl)) (hdone _)

theorem runLaunch_emits : Emits c.runLaunch fun _ sigs => Pipeline UpStep.launch.toNat sigs := by
  have hdone : Emits (runLaunch.done : Worker π Bool) fun _ sigs =>
      Pipeline UpStep.launch.toNat (.stepStarted .launch :: sigs) := by
    refine (Mute.assign _).bind fun _ => Emits.emit_bind (Emits.emit_bind (Emits.pure ?_))
    exact .done (Nat.le_refl _) ⟨_, rfl, .last rfl⟩ (.last rfl)
  have hfailed (f : FailureCase) (detail : String) :
      Pipeline UpStep.launch.toNat [.stepStarted .launch, .failed f detail] :=
    .pending (Nat.le_refl _) ⟨_, rfl, .last rfl⟩
  have hlaunch : Mute c.launchExoSnap := by
    unfold launchExoSnap
    exact (Mute.ask _).then fun _ => Mute.read.then fun _ => Mute.pure _
  unfold runLaunch
  refine Emits.emit_bind (hlaunch.bind fun launched => Emits.ite ?_ ?_)
  · exact fail_emits (hfailed _ _)
  · refine (Mute.ask _).bind fun _ => Emits.ite (Emits.ite ?_ ?_) (Emits.ite ?_ hdone)
    · exact c.undoSwap_emits hfailed
    · exact fail_emits (hfailed _ _)
    · exact (Mute.onDisk _).bind fun _ => hdone

/-! ## The slots -/

/-- A step that is run or passed over, and the rest of the pipeline where it does not fail. -/
theorem fromStep_emits {entry step : UpStep} {n : Nat} {m : Worker π Bool} {rest : Worker π Unit}
    (hn : n ≤ step.toNat) (hm : Emits m (StepShape step))
    (hrest : Emits rest fun _ => Pipeline (step.toNat + 1)) :
    Emits (fromStep entry step m >>= fun ok => if (!ok) = true then pure () else rest)
      fun _ => Pipeline n := by
  unfold fromStep
  by_cases h : entry.toNat ≤ step.toNat
  · rw [if_pos h]
    refine Emits.bind hm fun ok => ?_
    cases ok with
    | true => exact hrest.mono fun _ later hlater sigs hsigs => .done hn hsigs hlater
    | false => exact Emits.pure fun sigs hsigs => by rw [List.append_nil]; exact .pending hn hsigs
  · rw [if_neg h]
    exact hrest.mono fun _ sigs hsigs => hsigs.mono (by omega)

theorem runApply_emits (entry : UpStep) : Emits (c.runApply entry) fun _ => Pipeline 1 := by
  unfold runApply
  refine fromStep_emits (Nat.le_refl _) c.runCloseApp_emits ?_
  refine fromStep_emits (Nat.le_refl _) ?_ ?_
  · exact Emits.ite c.runInstallPortable_emits c.runInstallMsi_emits
  · refine fromStep_emits (Nat.le_refl _) c.runVerify_emits ?_
    refine Emits.bind c.runLaunch_emits fun _ => Emits.pure fun sigs hsigs => ?_
    rwa [List.append_nil]

theorem runFrom_emits (entry : UpStep) : Emits (c.runFrom entry) fun _ => Pipeline 0 := by
  have happly : Emits (c.runApply entry) fun _ => Pipeline 0 :=
    (c.runApply_emits entry).mono fun _ sigs hsigs => hsigs.mono (Nat.zero_le 1)
  unfold runFrom
  refine (Mute.note rfl).bind fun _ => Emits.ite ?_ happly
  refine Emits.bind c.runDownload_emits fun ok => ?_
  cases ok with
  | true =>
    show Emits (if c.args.mode = .manual then emit .readyToApply else c.runApply entry) _
    refine Emits.ite (Emits.emit fun sigs hsigs => ?_) ?_
    · exact .done (Nat.le_refl _) hsigs (.last rfl)
    · exact (c.runApply_emits entry).mono fun _ later hlater sigs hsigs =>
        .done (Nat.le_refl _) hsigs hlater
  | false =>
    refine Emits.pure fun sigs hsigs => ?_
    rw [List.append_nil]
    exact .pending (Nat.le_refl _) hsigs

theorem run_emits (entry : UpStep) : Emits (c.run entry) fun _ => Pipeline 0 := by
  unfold run
  refine Mute.read.bind fun w => Emits.ite (Emits.ite ?_ (c.runFrom_emits _)) (c.runFrom_emits _)
  exact (Mute.note rfl).bind fun _ => Emits.emit (.last rfl)

theorem check_emits : Emits c.check fun _ => Pipeline 0 := by
  have hends {t : Signal} (ht : t.isTerminal = true) : Pipeline 0 [.checkStarted, t] :=
    have hpassing : ∀ s ∈ [Signal.checkStarted], s.Passing :=
      List.forall_mem_singleton.mpr ⟨rfl, rfl⟩
    .ends hpassing ht
  unfold check
  refine (Mute.note rfl).bind fun _ => Emits.emit_bind (Emits.ite (Emits.emit (hends rfl)) ?_)
  refine Emits.bind c.resolveRelease_emits fun resolved => ?_
  obtain ⟨ok, noRelease⟩ := resolved
  by_cases hfeed : (!ok && !noRelease) = true
  · dsimp only
    rw [if_pos hfeed]
    refine Emits.pure fun sigs hsigs => ?_
    simp only [Bool.and_eq_true, Bool.not_eq_true'] at hfeed
    rw [hfeed.1, hfeed.2] at hsigs
    obtain ⟨t, ht, rfl⟩ := hsigs
    exact hends ht
  · dsimp only
    rw [if_neg hfeed]
    have hok : (ok || noRelease) = true := by
      cases ok <;> cases noRelease <;> simp_all
    refine Mute.read.bind fun w => ?_
    split
    · refine (Mute.assign _).bind fun _ => Emits.emit fun sigs hsigs => ?_
      rw [hok] at hsigs
      rw [show sigs = [] from hsigs]
      exact hends rfl
    · refine Emits.emit fun sigs hsigs => ?_
      rw [hok] at hsigs
      rw [show sigs = [] from hsigs]
      exact hends rfl

theorem download_emits : Emits c.download fun _ => Pipeline 0 := by
  unfold download
  refine (Mute.note rfl).bind fun _ => Emits.emit_bind ?_
  refine Emits.bind c.fetchAndStage_emits fun ok => ?_
  cases ok with
  | true =>
    exact Emits.emit fun sigs hsigs => .done (Nat.le_refl _) ⟨sigs, rfl, hsigs⟩ (.last rfl)
  | false =>
    refine Emits.pure fun sigs hsigs => ?_
    rw [List.append_nil]
    exact .pending (Nat.le_refl _) ⟨sigs, rfl, hsigs⟩

end Context

end Exosnap.Updater
