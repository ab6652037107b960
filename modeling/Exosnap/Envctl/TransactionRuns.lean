/-
  Runs of environment transactions: objects begin, restore and adopt, a recovery runs, the
  environment answers one question at a time, and the process may end before any answer.

  In every run in which each setter changes only what the journal on disk lists as outstanding, and
  each restore is that of the object with the journal in its hands (or one that reports no success,
  or one while nothing is outstanding), no obligation is lost. The setter that also changes a
  property restored before it is what loses one: the entry is gone when the property moves again,
  and nothing reads it once more before the transaction says Restored.
-/
import Exosnap.Envctl.TransactionSafety
import Exosnap.Lib.StepRun

namespace Exosnap.Envctl

open Asking (Prog query wp wp_seq wp_mono wp_query_bind)

/-- What a restore or a recovery has reported, with the host at that moment. -/
structure Report where
  state : TransactionState
  original : SortedMap String String
  /-- A recovery, or the restore of a transaction that has changed something. -/
  binding : Bool
  value : String → String

def Report.Honest (report : Report) : Prop :=
  report.state = .restored → report.binding = true →
    ∀ key value, report.original.find key = some value → report.value key = value

/-- The end of an operation: the object it was of, and what it reports. -/
structure Ending where
  object : Option (Nat × EnvironmentTransaction) := none
  report : Option (TransactionState × SortedMap String String × Bool) := none

structure System where
  world : World
  objects : List EnvironmentTransaction := []
  running : Option (Prog envctl Ending) := none
  begun : Nat := 0
  reports : List Report := []

inductive SystemEvent where
  | create (config : TransactionConfig)
  | adopt (n : Nat)
  | beginning (n : Nat) (desired : SortedMap String String)
  | restore (n : Nat)
  | recover (config : TransactionConfig)
  /-- The answer to the question that is open; a choice for every question there may be. -/
  | answer (choice : (r : Request) → World.Choice r)
  /-- The process ends. -/
  | kill

namespace System

def start (value : String → String) : System := ⟨⟨value, none, []⟩, [], none, 0, []⟩

def finish (s : System) (ending : Ending) (w : World) : System :=
  { s with
    world := w
    running := none
    objects := ending.object.elim s.objects fun object => s.objects.set object.1 object.2
    reports := s.reports ++ (ending.report.elim [] fun report =>
      [⟨report.1, report.2.1, report.2.2, w.value⟩]) }

/-- A program goes on until its next question. -/
def proceed (s : System) (w : World) : Prog envctl Ending → System
  | .done ending => s.finish ending w
  | program => { s with world := w, running := some program }

def adoptProgram (n : Nat) (t : EnvironmentTransaction) : Prog envctl Ending := do
  match ← query (I := envctl) (.readJournal (some n)) with
  | .ok (some file) => return { object := some (n, t.AdoptJournal file) }
  | _ => return {}

def beginProgram (n : Nat) (t : EnvironmentTransaction) (desired : SortedMap String String)
    (transaction : Nat) : Prog envctl Ending := do
  let (t, _) ← t.Begin desired transaction
  return { object := some (n, t) }

def restoreProgram (n : Nat) (t : EnvironmentTransaction) : Prog envctl Ending := do
  let (t', result) ← t.Restore
  return { object := some (n, t'), report := some (result.state, t'.journal.original, t.mutated) }

def recoverProgram (config : TransactionConfig) : Prog envctl Ending := do
  let outcome ← RecoverIfDirty config
  return { report := outcome.journal.map fun journal => (outcome.state, journal.original, true) }

def operation (s : System) : SystemEvent → Option (Prog envctl Ending)
  | .adopt n => s.objects[n]?.map (adoptProgram n)
  | .beginning n desired =>
    s.objects[n]?.map fun t => beginProgram n t desired (s.begun + 1)
  | .restore n => s.objects[n]?.map (restoreProgram n)
  | .recover config => some (recoverProgram config)
  | _ => none

/-- The process takes its objects with it; the journal stays, in nobody's hands. -/
def killed (s : System) : System :=
  { s with
    running := none
    objects := []
    world := { s.world with disk := s.world.disk.map fun file => { file with holder := none } } }

def step (s : System) : SystemEvent → Option System
  | .kill => some s.killed
  | .answer choice =>
    match s.running with
    | some (.ask r k) =>
      some (s.proceed (s.world.next r (choice r)) (k (s.world.reply r (choice r))))
    | _ => none
  | .create config =>
    if s.running.isSome then none
    else
      some { s with objects := s.objects ++ [.construct config (some s.objects.length)] }
  | event =>
    if s.running.isSome then none
    else
      (s.operation event).map fun program =>
        ({ s with begun := s.begun + 1 } : System).proceed s.world program

abbrev exec : System → List SystemEvent → Option System := StepRun.exec step

/-! ## No obligation is lost -/

/-- Every property that is owed is listed in the journal on disk with its original value, and none
that is not owed has another value. -/
def Owing (value₀ : String → String) (w : World) : Prop :=
  (∀ key ∈ w.owed, ∃ file ∈ w.disk, ∃ entry ∈ file.journal.applied,
      entry.property = key ∧ entry.«from» = value₀ key) ∧
    ∀ key, w.value key ≠ value₀ key → key ∈ w.owed

/-- The setter that is asked for, if it is not one of a restore, runs under no journal but its own
transaction's. -/
def Exclusive (s : System) : Prop :=
  ∀ transaction id value k, s.running = some (.ask (.apply (.mutate transaction) id value) k) →
    ∀ file ∈ s.world.disk, file.transaction = transaction

/-- What the transactions promise. -/
structure Kept (value₀ : String → String) (s : System) : Prop where
  owing : Owing value₀ s.world
  exclusive : s.Exclusive
  honest : ∀ report ∈ s.reports, report.Honest

/-- What an object would report at once, if it would. -/
def reported (t : EnvironmentTransaction) : Option TransactionState :=
  t.settled.map TransactionResult.state

/-- The restore of `t` is in place: nothing is outstanding, or it claims no success at once or its
transaction has changed nothing, or it acts and has the journal in its hands. -/
def InPlace (w : World) (n : Nat) (t : EnvironmentTransaction) : Prop :=
  w.obligations = [] ∨
    ((reported t).any fun state => state ≠ .restored ∨ t.mutated = false) = true ∨
    (reported t = none ∧ ∀ file ∈ w.disk, file.holder = some n)

instance (w : World) (n : Nat) (t : EnvironmentTransaction) : Decidable (InPlace w n t) :=
  inferInstanceAs (Decidable (_ ∨ _ = true ∨ (_ ∧ ∀ file ∈ w.disk, file.holder = some n)))

/-- The condition on a step. -/
def Sound (s : System) : SystemEvent → Prop
  | .restore n => ∀ t ∈ s.objects[n]?, InPlace s.world n t
  | .answer choice =>
    match s.running with
    | some (.ask (.apply purpose id value) _) =>
      Confined s.world (choice (.apply purpose id value)).2
    | _ => True
  | _ => True

/-! ## Between the operations -/

/-- No operation is running: the object with the journal in its hands lists all that is owed. -/
structure Idle (value₀ : String → String) (w : World) (objects : List EnvironmentTransaction) :
    Prop where
  world : WorldOk value₀ w
  journals : ∀ t ∈ objects, JournalOk value₀ t.journal
  selves : ∀ (n : Nat) t, objects[n]? = some t → t.self = some n
  listed : ∀ (n : Nat) t file, objects[n]? = some t → w.disk = some file → file.holder = some n →
    ∀ key ∈ w.owed, Lists t.journal.applied key
  holders : ∀ n file, w.disk = some file → file.holder = some n → n < objects.length

variable {value₀ : String → String} {w w' : World} {objects : List EnvironmentTransaction} {n : Nat}
  {t t' : EnvironmentTransaction}

namespace Idle

/-- An operation that did not touch the journal, or has it in its hands, or in nobody's. -/
theorem after (h : Idle value₀ w objects) {self : Option Nat} (hworld : WorldOk value₀ w')
    (houtcome : Untouched w w' ∨ HeldBy self w') (hself : ∀ m, self ≠ some m) :
    Idle value₀ w' objects := by
  refine ⟨hworld, h.journals, h.selves, fun m u file hm hfile hholder => ?_,
    fun m file hfile hholder => ?_⟩
  · rcases houtcome with huntouched | hheld
    · rw [huntouched.2]
      exact h.listed m u file hm (huntouched.1 ▸ hfile) hholder
    · exact absurd ((hheld file hfile).symm.trans hholder) (hself m)
  · rcases houtcome with huntouched | hheld
    · exact h.holders m file (huntouched.1 ▸ hfile) hholder
    · exact absurd ((hheld file hfile).symm.trans hholder) (hself m)

/-- The same for an operation of object `n`. -/
theorem set (h : Idle value₀ w objects) (hn : objects[n]? = some t) (hworld : WorldOk value₀ w')
    (hjournal : JournalOk value₀ t'.journal) (hself : t'.self = some n)
    (howes : ∀ file, w'.disk = some file → file.holder = some n →
      ∀ key ∈ w'.owed, Lists t'.journal.applied key)
    (houtcome : Untouched w w' ∨ HeldBy (some n) w') : Idle value₀ w' (objects.set n t') := by
  have hlt : n < objects.length := (List.getElem?_eq_some_iff.mp hn).1
  have hget : ∀ (m : Nat) u, (objects.set n t')[m]? = some u →
      (m = n ∧ u = t') ∨ (m ≠ n ∧ objects[m]? = some u) := by
    intro m u hm
    by_cases hmn : m = n
    · subst hmn
      rw [List.getElem?_set_self hlt] at hm
      exact .inl ⟨rfl, (Option.some.inj hm).symm⟩
    · rw [List.getElem?_set_ne (Ne.symm hmn)] at hm
      exact .inr ⟨hmn, hm⟩
  refine ⟨hworld, fun u hu => ?_, fun m u hm => ?_, fun m u file hm hfile hholder => ?_,
    fun m file hfile hholder => ?_⟩
  · rcases List.mem_or_eq_of_mem_set hu with hold | rfl
    · exact h.journals u hold
    · exact hjournal
  · rcases hget m u hm with ⟨rfl, rfl⟩ | ⟨-, hold⟩
    · exact hself
    · exact h.selves m u hold
  · rcases hget m u hm with ⟨rfl, rfl⟩ | ⟨hmn, hold⟩
    · exact howes file hfile hholder
    · rcases houtcome with huntouched | hheld
      · rw [huntouched.2]
        exact h.listed m u file hold (huntouched.1 ▸ hfile) hholder
      · exact absurd (Option.some.inj (hholder.symm.trans (hheld file hfile))) hmn
  · rw [List.length_set]
    rcases houtcome with huntouched | hheld
    · exact h.holders m file (huntouched.1 ▸ hfile) hholder
    · exact Option.some.inj (hholder.symm.trans (hheld file hfile)) ▸ hlt

theorem create (h : Idle value₀ w objects) (config : TransactionConfig) :
    Idle value₀ w (objects ++ [.construct config (some objects.length)]) := by
  have hget : ∀ (m : Nat) u,
      (objects ++ [EnvironmentTransaction.construct config (some objects.length)])[m]? = some u →
      objects[m]? = some u ∨
        (m = objects.length ∧ u = .construct config (some objects.length)) := by
    intro m u hm
    rcases Nat.lt_or_ge m objects.length with hlt | hge
    · exact .inl (List.getElem?_append_left hlt ▸ hm)
    · rw [List.getElem?_append_right hge, List.getElem?_singleton] at hm
      split at hm
      · exact .inr ⟨by omega, (Option.some.inj hm).symm⟩
      · cases hm
  refine ⟨h.world, fun u hu => ?_, fun m u hm => ?_, fun m u file hm hfile hholder => ?_,
    fun m file hfile hholder => ?_⟩
  · rcases List.mem_append.mp hu with hold | hnew
    · exact h.journals u hold
    · rw [List.mem_singleton.mp hnew]
      exact ⟨(fun _ _ hfound => nomatch hfound), fun _ hentry => nomatch hentry⟩
  · rcases hget m u hm with hold | ⟨rfl, rfl⟩
    · exact h.selves m u hold
    · rfl
  · rcases hget m u hm with hold | ⟨rfl, rfl⟩
    · exact h.listed m u file hold hfile hholder
    · exact absurd (h.holders _ file hfile hholder) (Nat.lt_irrefl _)
  · rw [List.length_append]
    exact Nat.lt_add_right _ (h.holders m file hfile hholder)

end Idle

/-! ## The operations -/

/-- The operation ends with the objects in order and an honest report. -/
def Ends (value₀ : String → String) (s : System) (ending : Ending) (w : World) : Prop :=
  Idle value₀ w (s.finish ending w).objects ∧ ∀ report ∈ (s.finish ending w).reports, report.Honest

variable {s : System}

theorem ends_report (hreports : ∀ report ∈ s.reports, report.Honest)
    {report : TransactionState × SortedMap String String × Bool}
    (hreport : (⟨report.1, report.2.1, report.2.2, w.value⟩ : Report).Honest) {object}
    (hidle : Idle value₀ w (s.finish ⟨object, some report⟩ w).objects) :
    Ends value₀ s ⟨object, some report⟩ w := by
  refine ⟨hidle, fun other hother => ?_⟩
  rcases List.mem_append.mp hother with hold | hnew
  · exact hreports other hold
  · rw [List.mem_singleton.mp hnew]
    exact hreport

theorem ends_quiet (hreports : ∀ report ∈ s.reports, report.Honest) {object}
    (hidle : Idle value₀ w (s.finish ⟨object, none⟩ w).objects) :
    Ends value₀ s ⟨object, none⟩ w := by
  refine ⟨hidle, fun other hother => ?_⟩
  rcases List.mem_append.mp hother with hold | hnew
  · exact hreports other hold
  · exact nomatch hnew

/-- Original values are what is there once nothing is owed. -/
theorem honest_of_nothing_owed (h : WorldOk value₀ w) {j : Journal} (hj : JournalOk value₀ j)
    {state : TransactionState} (howed : state = .restored → w.owed = []) (binding : Bool) :
    (⟨state, j.original, binding, w.value⟩ : Report).Honest := by
  intro hstate _ key value hfound
  rw [hj.original key value hfound]
  exact h.value_eq (by simp [howed hstate])

theorem beginProgram_ends (h : Idle value₀ s.world s.objects)
    (hreports : ∀ report ∈ s.reports, report.Honest) (hn : s.objects[n]? = some t)
    (desired : SortedMap String String) (transaction : Nat) :
    wp (duty value₀) (Ends value₀ s) (beginProgram n t desired transaction) s.world := by
  have hself := h.selves n t hn
  refine wp_seq (begin_spec h.world (h.journals t (List.mem_of_getElem? hn)) desired transaction)
    fun r w' hr => ends_quiet hreports (h.set hn hr.world hr.journal (hr.self.trans hself) ?_ ?_)
  · rcases hr.outcome with ⟨ht, rfl⟩ | ⟨-, howes⟩
    · intro file hfile hholder
      rw [ht]
      exact h.listed n t file hn hfile hholder
    · exact fun _ _ _ => howes
  · rcases hr.outcome with ⟨-, rfl⟩ | ⟨hheld, -⟩
    · exact .inl ⟨rfl, rfl⟩
    · exact .inr (hself ▸ hheld)

theorem rightful_of_inPlace (h : Idle value₀ s.world s.objects) (hn : s.objects[n]? = some t)
    (hplace : InPlace s.world n t) (hsettled : t.settled = none) : Rightful value₀ t s.world := by
  refine ⟨h.world, h.journals t (List.mem_of_getElem? hn), fun key hkey => ?_⟩
  rcases hplace with hnone | hclaim | ⟨-, hholder⟩
  · rw [h.world.nothing_owed hnone] at hkey
    exact nomatch hkey
  · simp [reported, hsettled] at hclaim
  · cases hfile : s.world.disk with
    | none =>
      rw [h.world.nothing_owed (by simp [World.obligations, hfile])] at hkey
      exact nomatch hkey
    | some file => exact h.listed n t file hn hfile (hholder file hfile) key hkey

theorem restoreProgram_ends (h : Idle value₀ s.world s.objects)
    (hreports : ∀ report ∈ s.reports, report.Honest) (hn : s.objects[n]? = some t)
    (hplace : InPlace s.world n t) :
    wp (duty value₀) (Ends value₀ s) (restoreProgram n t) s.world := by
  have hself := h.selves n t hn
  have hjournal := h.journals t (List.mem_of_getElem? hn)
  cases hsettled : t.settled with
  | none =>
    have hrightful := rightful_of_inPlace h hn hplace hsettled
    refine wp_seq (restore_spec hrightful hsettled) ?_
    rintro ⟨t', result⟩ w' ⟨hstands, houtcome⟩
    refine ends_report hreports (honest_of_nothing_owed hstands.rightful.world
      hstands.rightful.journal hstands.restored _) (h.set hn hstands.rightful.world
        hstands.rightful.journal (hstands.same.self.trans hself)
        (fun _ _ _ => hstands.rightful.owes) (hself ▸ houtcome))
  | some result =>
    -- Nothing is asked: the result is the one there was.
    have hrestore : t.Restore = .done ({ t with terminal := some result }, result) := by
      rw [EnvironmentTransaction.Restore, hsettled]
      rfl
    rw [restoreProgram, hrestore]
    refine ends_report hreports ?_ (h.set hn h.world hjournal hself
      (fun file hfile hholder => h.listed n t file hn hfile hholder) (.inl ⟨rfl, rfl⟩))
    intro hstate hbinding
    rcases hplace with hnone | hclaim | ⟨hreported, -⟩
    · exact honest_of_nothing_owed h.world hjournal (fun _ => h.world.nothing_owed hnone) t.mutated
        hstate hbinding
    · simp only [reported, hsettled, Option.map_some, Option.any_some, decide_eq_true_eq] at hclaim
      rcases hclaim with hclaim | hclaim
      · exact absurd hstate hclaim
      · exact absurd hbinding (by simp [hclaim])
    · simp [reported, hsettled] at hreported

theorem adoptJournal_kept (t : EnvironmentTransaction) (file : JournalFile) :
    (t.AdoptJournal file).journal = file.journal ∧ (t.AdoptJournal file).self = t.self ∧
      (t.AdoptJournal file).terminal = none := by
  have hfold : ∀ (applied : List AppliedEntry) (u : EnvironmentTransaction)
      (f : AppliedEntry → PropertyEvidence → PropertyEvidence),
      let v := applied.foldl (fun t entry => t.note entry.property (f entry)) u
      v.journal = u.journal ∧ v.self = u.self ∧ v.terminal = u.terminal := by
    intro applied u f
    induction applied generalizing u with
    | nil => exact ⟨rfl, rfl, rfl⟩
    | cons entry rest ih => exact ih (u.note entry.property (f entry))
  exact hfold _ _ _

theorem adoptProgram_ends (h : Idle value₀ s.world s.objects)
    (hreports : ∀ report ∈ s.reports, report.Honest) (hn : s.objects[n]? = some t) :
    wp (duty value₀) (Ends value₀ s) (adoptProgram n t) s.world := by
  refine wp_query_bind.mpr ⟨⟨h.world, trivial⟩, fun error _ => ?_⟩
  cases error with
  | some error => exact ends_quiet hreports h
  | none =>
    cases hdisk : s.world.disk with
    | none =>
      have hworld : environment.next s.world (.readJournal (some n)) none = s.world := by
        simp [environment, World.next, hdisk]
        rw [← hdisk]
      have hreply : environment.reply s.world (.readJournal (some n)) none = .ok none := by
        simp [environment, World.reply, hdisk]
      rw [hworld, hreply]
      exact ends_quiet hreports h
    | some file =>
      have hworld : environment.next s.world (.readJournal (some n)) none =
          { s.world with disk := some { file with holder := some n } } := by
        simp [environment, World.next, hdisk]
      have hreply : environment.reply s.world (.readJournal (some n)) none = .ok (some file) := by
        simp [environment, World.reply, hdisk]
      rw [hworld, hreply]
      obtain ⟨hjournal, hself, -⟩ := adoptJournal_kept t file
      have hfile := h.world.disk file hdisk
      have hlisted : ∀ key ∈ s.world.owed, Lists file.journal.applied key := by
        rw [← obligations_of_disk hdisk]
        exact h.world.listed
      refine ends_quiet hreports (h.set hn ⟨h.world.changes, hlisted, ?_⟩ (hjournal ▸ hfile.1)
        (hself.trans (h.selves n t hn)) ?_ (.inr ?_))
      · rintro other ⟨⟩
        exact hfile
      · rintro other ⟨⟩ _
        rw [hjournal]
        exact hlisted
      · rintro other ⟨⟩
        rfl

theorem recoverIfDirty_spec (h : WorldOk value₀ w) (config : TransactionConfig) :
    wp (duty value₀) (fun outcome w' => WorldOk value₀ w' ∧ (Untouched w w' ∨ HeldBy none w') ∧
        ∀ j, outcome.journal = some j → JournalOk value₀ j ∧
          (outcome.state = .restored → w'.owed = []))
      (RecoverIfDirty config) w := by
  refine ask_readJournal h fun reply hreply => ?_
  split
  · exact ⟨h, .inl ⟨rfl, rfl⟩, (fun _ hj => nomatch hj)⟩
  · exact ⟨h, .inl ⟨rfl, rfl⟩, (fun _ hj => nomatch hj)⟩
  rename_i file
  have hdisk : w.disk = some file := (hreply _ rfl).symm
  obtain ⟨hfile, hdirty⟩ := h.disk file hdisk
  rw [if_pos hdirty]
  obtain ⟨hjournal, hself, hterminal⟩ :=
    adoptJournal_kept (EnvironmentTransaction.construct config none) file
  have hrightful : Rightful value₀
      ((EnvironmentTransaction.construct config none).AdoptJournal file) w := by
    refine ⟨h, hjournal ▸ hfile, ?_⟩
    rw [hjournal, ← obligations_of_disk hdisk]
    exact h.listed
  have hsettled : ((EnvironmentTransaction.construct config none).AdoptJournal file).settled = none := by
    have hstate : ¬ (file.journal.state = .clean ∨ file.journal.state = .restored) := by
      rintro (hclean | hrestored)
      · simp [hclean, TransactionState.IsDirty] at hdirty
      · simp [hrestored, TransactionState.IsDirty] at hdirty
    rw [EnvironmentTransaction.settled, hterminal, hjournal]
    exact if_neg hstate
  refine wp_seq (restore_spec hrightful hsettled) ?_
  rintro ⟨t', result⟩ w' ⟨hstands, houtcome⟩
  rw [hself] at houtcome
  refine ⟨hstands.rightful.world, houtcome, ?_⟩
  rintro j ⟨⟩
  exact ⟨hfile, hstands.restored⟩

theorem recoverProgram_ends (h : Idle value₀ s.world s.objects)
    (hreports : ∀ report ∈ s.reports, report.Honest) (config : TransactionConfig) :
    wp (duty value₀) (Ends value₀ s) (recoverProgram config) s.world := by
  refine wp_seq (recoverIfDirty_spec h.world config) ?_
  rintro outcome w' ⟨hworld, houtcome, hoffer⟩
  have hidle : Idle value₀ w' s.objects :=
    h.after hworld houtcome fun m hm => nomatch hm
  cases hjournal : outcome.journal with
  | none =>
    simp only [Option.map_none]
    exact ends_quiet hreports hidle
  | some j =>
    obtain ⟨hj, howed⟩ := hoffer j hjournal
    simp only [Option.map_some]
    exact ends_report hreports (honest_of_nothing_owed hworld hj howed _) hidle

/-! ## Runs -/

/-- Between operations the objects are in order; within one, the program that is left keeps its
contract and ends with the objects in order. -/
structure Invariant (value₀ : String → String) (s : System) : Prop where
  honest : ∀ report ∈ s.reports, report.Honest
  idle : s.running = none → Idle value₀ s.world s.objects
  busy : ∀ program, s.running = some program →
    (∃ r k, program = .ask r k) ∧ wp (duty value₀) (Ends value₀ s) program s.world

theorem invariant_proceed (hreports : ∀ report ∈ s.reports, report.Honest)
    {program : Prog envctl Ending} (h : wp (duty value₀) (Ends value₀ s) program w) :
    Invariant value₀ (s.proceed w program) := by
  cases program with
  | done ending => exact ⟨h.2, fun _ => h.1, (fun _ hrunning => nomatch hrunning)⟩
  | ask r k =>
    refine ⟨hreports, (fun hrunning => nomatch hrunning), ?_⟩
    rintro program ⟨⟩
    exact ⟨⟨r, k, rfl⟩, h⟩

/-- An open question finds the world in order. -/
theorem Invariant.world (h : Invariant value₀ s) : WorldOk value₀ s.world := by
  cases hrunning : s.running with
  | none => exact (h.idle hrunning).world
  | some program =>
    obtain ⟨⟨r, k, rfl⟩, hprogram⟩ := h.busy program hrunning
    exact hprogram.1.1

theorem Invariant.kept (h : Invariant value₀ s) : Kept value₀ s := by
  refine ⟨⟨fun key hkey => ?_, h.world.changes⟩, ?_, h.honest⟩
  · cases hdisk : s.world.disk with
    | none =>
      rw [h.world.nothing_owed (by simp [World.obligations, hdisk])] at hkey
      cases hkey
    | some file =>
      obtain ⟨entry, hentry, hproperty⟩ := h.world.listed key hkey
      rw [obligations_of_disk hdisk] at hentry
      refine ⟨file, rfl, entry, hentry, hproperty, ?_⟩
      rw [(h.world.disk file hdisk).1.applied entry hentry, hproperty]
  · intro transaction id value k hrunning
    obtain ⟨-, hprogram⟩ := h.busy _ hrunning
    exact hprogram.1.2

theorem idle_killed (h : WorldOk value₀ s.world) : Idle value₀ s.killed.world s.killed.objects := by
  refine ⟨⟨h.changes, fun key hkey => ?_, fun file hfile => ?_⟩, (fun _ hmem => nomatch hmem),
    (fun _ _ hget => nomatch hget), (fun _ _ _ hget => nomatch hget), fun n file hfile hholder => ?_⟩
  · obtain ⟨entry, hentry, hproperty⟩ := h.listed key hkey
    refine ⟨entry, ?_, hproperty⟩
    cases hdisk : s.world.disk with
    | none => simp [World.obligations, hdisk] at hentry
    | some file => simpa [World.obligations, killed, hdisk] using hentry
  · obtain ⟨old, hold, rfl⟩ := Option.map_eq_some_iff.mp hfile
    exact h.disk old hold
  · obtain ⟨old, -, rfl⟩ := Option.map_eq_some_iff.mp hfile
    cases hholder

theorem invariant_answer (h : Invariant value₀ s) {choice : (r : Request) → World.Choice r}
    {s' : System} (hsound : Sound s (.answer choice)) (hstep : step s (.answer choice) = some s') :
    Invariant value₀ s' := by
  cases hrunning : s.running with
  | none => simp [step, hrunning] at hstep
  | some program =>
    obtain ⟨⟨r, k, rfl⟩, hprogram⟩ := h.busy program hrunning
    simp only [step, hrunning, Option.some.injEq] at hstep
    subst hstep
    have hallowed : Allowed s.world r (choice r) := by
      cases r with
      | apply purpose id value =>
        have hconfined : Confined s.world (choice (.apply purpose id value)).2 := by
          simpa [Sound, hrunning] using hsound
        exact hconfined
      | _ => trivial
    exact invariant_proceed h.honest (hprogram.2 (choice r) hallowed)

theorem invariant_operation (h : Invariant value₀ s) {event : SystemEvent}
    {program : Prog envctl Ending} (hsound : Sound s event) (hrunning : s.running = none)
    (hop : s.operation event = some program) :
    wp (duty value₀) (Ends value₀ s) program s.world := by
  have hidle := h.idle hrunning
  cases event with
  | adopt n =>
    obtain ⟨t, hn, rfl⟩ := Option.map_eq_some_iff.mp hop
    exact adoptProgram_ends hidle h.honest hn
  | beginning n desired =>
    obtain ⟨t, hn, rfl⟩ := Option.map_eq_some_iff.mp hop
    exact beginProgram_ends hidle h.honest hn desired _
  | restore n =>
    obtain ⟨t, hn, rfl⟩ := Option.map_eq_some_iff.mp hop
    exact restoreProgram_ends hidle h.honest hn (hsound t hn)
  | recover config =>
    obtain rfl := Option.some.inj hop
    exact recoverProgram_ends hidle h.honest config
  | create config => cases hop
  | answer choice => cases hop
  | kill => cases hop

theorem invariant_step {event : SystemEvent} {s' : System} (h : Invariant value₀ s)
    (hsound : Sound s event) (hstep : step s event = some s') : Invariant value₀ s' := by
  have hoperation : (if s.running.isSome then none else
      (s.operation event).map fun program =>
        ({ s with begun := s.begun + 1 } : System).proceed s.world program) = some s' →
      Invariant value₀ s' := fun hmap => by
    split at hmap
    · cases hmap
    · rename_i hrunning
      obtain ⟨program, hop, rfl⟩ := Option.map_eq_some_iff.mp hmap
      have hprogram := invariant_operation h hsound (by simpa using hrunning) hop
      exact invariant_proceed (s := { s with begun := s.begun + 1 }) h.honest
        (wp_mono hprogram fun _ _ hends => hends)
  cases event with
  | kill =>
    obtain rfl := Option.some.inj hstep
    exact ⟨h.honest, fun _ => idle_killed h.world, (fun _ hrunning => nomatch hrunning)⟩
  | answer choice => exact invariant_answer h hsound hstep
  | create config =>
    simp only [step] at hstep
    split at hstep
    · cases hstep
    · rename_i hrunning
      obtain rfl := Option.some.inj hstep
      have hnone : s.running = none := by simpa using hrunning
      exact ⟨h.honest, fun _ => (h.idle hnone).create config,
        fun program hprogram => nomatch hnone.symm.trans hprogram⟩
  | adopt n => exact hoperation hstep
  | beginning n desired => exact hoperation hstep
  | restore n => exact hoperation hstep
  | recover config => exact hoperation hstep

theorem invariant_start (value : String → String) : Invariant value (start value) where
  honest := fun _ hreport => nomatch hreport
  idle := fun _ =>
    { world := ⟨fun _ hne => absurd rfl hne, (fun _ hkey => nomatch hkey),
        fun _ hfile => nomatch hfile⟩
      journals := fun _ ht => nomatch ht
      selves := fun _ _ hget => nomatch hget
      listed := fun _ _ _ hget => nomatch hget
      holders := fun _ _ hfile => nomatch hfile }
  busy := fun _ hrunning => nomatch hrunning

/-- In every run whose steps meet the condition, an owed property is listed on disk with its
original value, no change runs under another transaction's journal, and Restored is reported only
with every property back at its original value. -/
theorem obligations_kept (value : String → String) (events : List SystemEvent) (s : System)
    (hsound : StepRun.Meets step Sound (start value) events)
    (hrun : exec (start value) events = some s) : Kept value s :=
  (StepRun.exec_invariant (fun _ _ _ hinv hG hstep => invariant_step hinv hG hstep)
    (invariant_start value) hsound hrun).kept

/-! ## Two properties of one display -/

/-- A host that does what it is asked; a setter also has the effect `also`. -/
def willing (also : List (String × String)) : (r : Request) → World.Choice r
  | .clock => "2026-01-01T00:00:00Z"
  | .readJournal _ | .writeJournal _ | .deleteJournal => none
  | .describe => [⟨⟨"display", "hz"⟩, .mutateSafe, ""⟩, ⟨⟨"display", "hdr"⟩, .mutateSafe, ""⟩]
  | .read _ _ => ⟨true, true, "", ""⟩
  | .apply _ id value => (⟨true, ""⟩, (id.Key, value) :: also)
  | .devicePresent _ => true

/-- Both properties are changed from "1" to "2", in 24 answers. -/
def displayBegin : List SystemEvent :=
  [.create ⟨"env.json", "tx", "", "", 0, "", none⟩,
    .beginning 0 (.ofEntries [("display:hdr", "2"), ("display:hz", "2")])] ++
    List.replicate 24 (.answer (willing []))

/-- Refresh rate first, HDR last; setting HDR back also has the effect `also`. -/
def displayRestore (also : List (String × String)) : List SystemEvent :=
  [.restore 0] ++ List.replicate 9 (.answer (willing [])) ++ [.answer (willing also)] ++
    List.replicate 4 (.answer (willing []))

def displayStart : System := start fun _ => "1"

/-- Setting HDR back moves the refresh rate, which had been restored and verified before it: the
transaction reports Restored and the journal is gone, with the refresh rate off its original. -/
theorem restored_too_early :
    ∃ s, exec displayStart (displayBegin ++ displayRestore [("display:hz", "2")]) = some s ∧
      s.world.value "display:hz" = "2" ∧ s.world.disk.isNone ∧ "display:hz" ∈ s.world.owed ∧
      ∃ report ∈ s.reports, report.state = .restored ∧ report.binding = true ∧
        report.original.find "display:hz" = some "1" ∧ report.value "display:hz" = "2" := by
  obtain ⟨s, hs, hfacts⟩ := (Option.any_eq_true _ _).mp
    (show ((exec displayStart (displayBegin ++ displayRestore [("display:hz", "2")])).any fun s =>
      decide (s.world.value "display:hz" = "2" ∧ s.world.disk.isNone ∧
        "display:hz" ∈ s.world.owed ∧ ∃ report ∈ s.reports, report.state = .restored ∧
          report.binding = true ∧ report.original.find "display:hz" = some "1" ∧
          report.value "display:hz" = "2")) = true by decide +kernel)
  exact ⟨s, hs, of_decide_eq_true hfacts⟩

instance (s : System) : (event : SystemEvent) → Decidable (Sound s event)
  | .restore n =>
    inferInstanceAs (Decidable (∀ t ∈ s.objects[n]?, InPlace s.world n t))
  | .answer choice =>
    match h : s.running with
    | some (.ask (.apply purpose id value) _) =>
      decidable_of_iff (Confined s.world (choice (.apply purpose id value)).2)
        (by simp only [Sound, h])
    | some (.ask .clock _) | some (.ask (.readJournal _) _) | some (.ask (.writeJournal _) _)
    | some (.ask .deleteJournal _) | some (.ask .describe _) | some (.ask (.read _ _) _)
    | some (.ask (.devicePresent _) _) | some (.done _) | none =>
      isTrue (by simp only [Sound, h])
  | .create _ | .adopt _ | .beginning _ _ | .recover _ | .kill => isTrue trivial

/-- Where setting HDR back changes nothing else, nothing is owed at the end. -/
theorem obligations_kept_display :
    ∃ s, exec displayStart (displayBegin ++ displayRestore []) = some s ∧
      Kept (fun _ => "1") s ∧ s.reports.length = 1 := by
  obtain ⟨s, hs, hfacts⟩ := (Option.any_eq_true _ _).mp
    (show ((exec displayStart (displayBegin ++ displayRestore [])).any fun s =>
      decide (s.reports.length = 1)) = true by decide +kernel)
  exact ⟨s, hs, obligations_kept _ _ s (by decide +kernel) hs, of_decide_eq_true hfacts⟩

end System

end Exosnap.Envctl
