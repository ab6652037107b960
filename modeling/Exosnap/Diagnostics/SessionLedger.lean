/-
  The ledger of a session's measured problems (`SessionLedger.cpp`).

  Times and measured values are exact rationals. Of a result and an entry the texts that are only
  copied are left out, and so is the second record, of compensated facts, which shares nothing with
  this one. `pending` is a map.
-/
import Mathlib.Data.Rat.Defs
import Mathlib.Algebra.Order.Ring.Rat
import Mathlib.Data.List.Nodup

namespace Exosnap.Diagnostics

inductive DiagnosticTier where
  | blocker
  | measuredProblem
  | optimisation
  | fact
  deriving DecidableEq

structure DiagnosticResult where
  id : String
  tier : DiagnosticTier
  currentValue : String := ""
  measuredValue : Option Rat := none
  deriving DecidableEq

def kLiveMeasuredIds : List String :=
  ["rec.output.loss", "rec.001", "rec.gpu.contention", "rec.disk.writestall", "rec.dpc.latency",
   "rec.present.discarded", "rec.present.modeflip", "rec.present.exclusive",
   "rec.capture.exclusive_window", "rec.audio.degraded", "rec.audio.endpoint_taken",
   "rec.audio.clock_saturated", "rec.pacing.duplication"]

def IsLiveMeasuredCheck (id : String) : Bool := kLiveMeasuredIds.contains id

structure LedgerOccurrence where
  startS : Rat
  endS : Rat
  worst : Rat
  deriving DecidableEq

structure LedgerEntry where
  id : String
  worst : Option Rat
  worstText : String
  count : Nat
  firstSeenS : Rat
  lastSeenS : Rat
  totalActiveS : Rat := 0
  active : Bool
  occurrences : List LedgerOccurrence
  deriving DecidableEq

structure LedgerPending where
  consecutive : Nat := 0
  firstSeenS : Rat := 0
  worst : Option Rat := none
  worstText : String := ""
  deriving DecidableEq

def kEntryEvaluations : Nat := 2

structure SessionLedger where
  entries : List LedgerEntry := []
  pending : String → Option LedgerPending := fun _ => none
  generation : Nat := 0

def RecordWorst (worst : Option Rat) (worstText : String) (r : DiagnosticResult) :
    Option Rat × String :=
  match r.measuredValue with
  | none => (worst, if worstText = "" then r.currentValue else worstText)
  | some v =>
      match worst with
      | none => (some v, r.currentValue)
      | some w => if w < v then (some v, r.currentValue) else (some w, worstText)

/-- The last occurrence of the list, changed. -/
def changeLast (f : LedgerOccurrence → LedgerOccurrence) :
    List LedgerOccurrence → List LedgerOccurrence
  | [] => []
  | [o] => [f o]
  | o :: os => o :: changeLast f os

/-- `count` is a `uint32_t`. -/
def LedgerEntry.fireAgain (e : LedgerEntry) (now : Rat) (r : DiagnosticResult) : LedgerEntry :=
  let e := if e.active then e
    else { e with
      active := true, count := (e.count + 1) % 2 ^ 32
      occurrences := e.occurrences ++ [⟨now, now, 0⟩] }
  let (worst, worstText) := RecordWorst e.worst e.worstText r
  { e with
    lastSeenS := now, worst := worst, worstText := worstText
    occurrences :=
      match r.measuredValue with
      | none => e.occurrences
      | some v => changeLast (fun o => { o with worst := max o.worst v }) e.occurrences }

def LedgerPending.fire (p : LedgerPending) (now : Rat) (r : DiagnosticResult) : LedgerPending :=
  let (worst, worstText) := RecordWorst p.worst p.worstText r
  { consecutive := p.consecutive + 1
    firstSeenS := if p.consecutive = 0 then now else p.firstSeenS
    worst := worst, worstText := worstText }

/-- The entry of a problem that has now fired often enough. -/
def LedgerPending.entry (p : LedgerPending) (id : String) (now : Rat) : LedgerEntry where
  id := id
  worst := p.worst
  worstText := p.worstText
  count := 1
  firstSeenS := p.firstSeenS
  lastSeenS := now
  active := true
  occurrences := [⟨p.firstSeenS, p.firstSeenS, p.worst.getD 0⟩]

def CloseOccurrence (e : LedgerEntry) (end_ : Rat) : LedgerEntry :=
  match e.occurrences.getLast? with
  | none => { e with active := false }
  | some o =>
      { e with
        active := false
        occurrences := changeLast (fun o => { o with endS := end_ }) e.occurrences
        totalActiveS := e.totalActiveS + max 0 (end_ - o.startS) }

/-- The result is one the ledger records. -/
def admitted (r : DiagnosticResult) : Bool :=
  r.tier == .measuredProblem && IsLiveMeasuredCheck r.id

namespace SessionLedger

def Reset (_ : SessionLedger) (generation : Nat) : SessionLedger where
  generation := generation

def Find (s : SessionLedger) (id : String) : Option LedgerEntry := s.entries.find? (·.id == id)

/-- The loop of `Observe` for one admitted result. -/
def fire (now : Rat) (s : SessionLedger) (r : DiagnosticResult) : SessionLedger :=
  match s.Find r.id with
  | some _ =>
      { s with entries := s.entries.map fun e => if e.id = r.id then e.fireAgain now r else e }
  | none =>
      let p := ((s.pending r.id).getD {}).fire now r
      if p.consecutive < kEntryEvaluations then
        { s with pending := fun id => if id = r.id then some p else s.pending id }
      else
        { s with
          entries := s.entries ++ [p.entry r.id now]
          pending := fun id => if id = r.id then none else s.pending id }

def Observe (s : SessionLedger) (results : List DiagnosticResult) (now : Rat) : SessionLedger :=
  let results := results.filter admitted
  let firing (id : String) : Bool := results.any (·.id == id)
  let s := results.foldl (fire now) s
  { s with
    entries := s.entries.map fun e =>
      if e.active && !firing e.id then CloseOccurrence e now else e
    pending := fun id => if firing id then s.pending id else none }

def Freeze (s : SessionLedger) (end_ : Rat) : SessionLedger :=
  { s with
    entries := s.entries.map fun e => if e.active then CloseOccurrence e end_ else e
    pending := fun _ => none }

end SessionLedger

/-! ## What was observed -/

/-- The results of an evaluation, and when it was. -/
structure Evaluation where
  results : List DiagnosticResult
  now : Rat

/-- The admitted results of a check. -/
def Evaluation.fired (o : Evaluation) (id : String) : List DiagnosticResult :=
  o.results.filter fun r => admitted r && r.id == id

def Evaluation.fires (o : Evaluation) (id : String) : Bool := !(o.fired id).isEmpty

def measured (rs : List DiagnosticResult) : List Rat := rs.filterMap (·.measuredValue)

/-- A stretch of consecutive evaluations in which a check fired. -/
structure FiringRun where
  start : Rat
  stop : Rat
  length : Nat
  values : List Rat

/-- The maximal runs of a check: each ends at the first evaluation without it, or at `end_`. -/
def firingRuns (id : String) (end_ : Rat) : List Evaluation → List FiringRun
  | [] => []
  | o :: os =>
      if o.fires id then
        let run := o :: os.takeWhile (·.fires id)
        let rest := os.dropWhile (·.fires id)
        { start := o.now
          stop := (rest.head?.map Evaluation.now).getD end_
          length := run.length
          values := run.flatMap fun o => measured (o.fired id) } :: firingRuns id end_ rest
      else firingRuns id end_ os
  termination_by os => os.length
  decreasing_by
    · have hle := (List.dropWhile_sublist (fun o : Evaluation => o.fires id) (l := os)).length_le
      simp only [List.length_cons]
      omega
    · simp

/-- The runs that count: from the first of two evaluations on. -/
def countedRuns (runs : List FiringRun) : List FiringRun :=
  runs.dropWhile fun r => r.length < kEntryEvaluations

/-! ## The entries' ids -/

theorem fireAgain_id (e : LedgerEntry) (now : Rat) (r : DiagnosticResult) :
    (e.fireAgain now r).id = e.id := by
  simp only [LedgerEntry.fireAgain]
  split <;> rfl

theorem closeOccurrence_id (e : LedgerEntry) (end_ : Rat) : (CloseOccurrence e end_).id = e.id := by
  rw [CloseOccurrence]
  split <;> rfl

theorem map_ids {f : LedgerEntry → LedgerEntry} (hf : ∀ e, (f e).id = e.id)
    (entries : List LedgerEntry) : (entries.map f).map (·.id) = entries.map (·.id) := by
  rw [List.map_map]
  exact List.map_congr_left fun e _ => hf e

theorem find_map {f : LedgerEntry → LedgerEntry} (hf : ∀ e, (f e).id = e.id)
    (entries : List LedgerEntry) (id : String) :
    (entries.map f).find? (·.id == id) = (entries.find? (·.id == id)).map f := by
  have hsame : ((fun e : LedgerEntry => e.id == id) ∘ f) = fun e => e.id == id :=
    funext fun e => by simp only [Function.comp_apply, hf]
  rw [List.find?_map, hsame]

/-- No two entries have one id. -/
def SessionLedger.Distinct (s : SessionLedger) : Prop := (s.entries.map (·.id)).Nodup

theorem distinct_fire {s : SessionLedger} (h : s.Distinct) (now : Rat) (r : DiagnosticResult) :
    (s.fire now r).Distinct := by
  rw [SessionLedger.fire]
  split
  · refine Eq.mpr (congrArg List.Nodup (map_ids (fun e => ?_) s.entries)) h
    split
    · exact fireAgain_id e now r
    · rfl
  · rename_i hnone
    dsimp only
    split
    · exact h
    · rw [SessionLedger.Distinct, List.map_append, List.nodup_append']
      refine ⟨h, by simp, ?_⟩
      have hnew : r.id ∉ s.entries.map (·.id) := by
        intro hmem
        obtain ⟨e, he, hid⟩ := List.mem_map.mp hmem
        have hno := List.find?_eq_none.mp hnone e he
        exact hno (by simpa using hid)
      simpa [LedgerPending.entry] using hnew

theorem distinct_foldl {s : SessionLedger} (h : s.Distinct) (now : Rat)
    (rs : List DiagnosticResult) : (rs.foldl (SessionLedger.fire now) s).Distinct := by
  induction rs generalizing s with
  | nil => exact h
  | cons r rs ih => exact ih (distinct_fire h now r)

theorem distinct_observe {s : SessionLedger} (h : s.Distinct) (results : List DiagnosticResult)
    (now : Rat) : (s.Observe results now).Distinct := by
  refine Eq.mpr (congrArg List.Nodup (map_ids (fun e => ?_) _)) (distinct_foldl h now _)
  split
  · exact closeOccurrence_id e now
  · rfl

theorem distinct_freeze {s : SessionLedger} (h : s.Distinct) (end_ : Rat) :
    (s.Freeze end_).Distinct := by
  refine Eq.mpr (congrArg List.Nodup (map_ids (fun e => ?_) _)) h
  split
  · exact closeOccurrence_id e end_
  · rfl

theorem SessionLedger.Distinct.find {s : SessionLedger} (h : s.Distinct) {e : LedgerEntry}
    (he : e ∈ s.entries) : s.Find e.id = some e := by
  rw [SessionLedger.Find]
  cases hfind : s.entries.find? (·.id == e.id) with
  | none => exact absurd (List.find?_eq_none.mp hfind e he) (by simp)
  | some e' =>
      have hid : e'.id = e.id := by simpa using List.find?_some hfind
      rw [List.inj_on_of_nodup_map h (List.mem_of_find?_eq_some hfind) he hid]

end Exosnap.Diagnostics
