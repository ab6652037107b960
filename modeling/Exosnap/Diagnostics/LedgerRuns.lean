/-
  The ledger records exactly the firing runs. One check's part of the ledger, its `Track`, moves by
  that check's results alone (`track_observe`); over a run of evaluations it is quiet or in a firing
  run (`Quiet`, `Running`), with the runs that counted so far behind it.
-/
import Exosnap.Diagnostics.SessionLedger
import Exosnap.Lib.StepRun
import Mathlib.Algebra.BigOperators.Group.List.Basic
import Mathlib.Data.List.TakeWhile
import Mathlib.Tactic.Linarith

namespace Exosnap.Diagnostics

/-! ## The track of one check -/

@[ext] structure Track where
  pending : Option LedgerPending
  entry : Option LedgerEntry

def SessionLedger.track (s : SessionLedger) (id : String) : Track := ⟨s.pending id, s.Find id⟩

namespace Track

def fire (id : String) (now : Rat) (t : Track) (r : DiagnosticResult) : Track :=
  match t.entry with
  | some e => { t with entry := some (e.fireAgain now r) }
  | none =>
      let p := (t.pending.getD {}).fire now r
      if p.consecutive < kEntryEvaluations then { t with pending := some p }
      else ⟨none, some (p.entry id now)⟩

def quieten (now : Rat) (t : Track) : Track :=
  ⟨none, t.entry.map fun e => if e.active then CloseOccurrence e now else e⟩

def observe (id : String) (t : Track) (o : Evaluation) : Track :=
  if o.fires id then (o.fired id).foldl (fire id o.now) t else t.quieten o.now

end Track

theorem find_append_new (entries : List LedgerEntry) (e : LedgerEntry) (id : String)
    (h : entries.find? (·.id == e.id) = none) :
    (entries ++ [e]).find? (·.id == id) =
      if id = e.id then some e else entries.find? (·.id == id) := by
  rw [List.find?_append]
  by_cases hid : id = e.id
  · subst hid
    simp [h]
  · have hne : (e.id == id) = false := by simpa using fun heq => hid heq.symm
    simp [hid, hne]

theorem track_fire (s : SessionLedger) (now : Rat) (r : DiagnosticResult) (id : String) :
    (s.fire now r).track id = if r.id = id then (s.track id).fire id now r else s.track id := by
  have hfireId : ∀ e : LedgerEntry,
      (if e.id = r.id then e.fireAgain now r else e).id = e.id := by
    intro e
    split
    · exact fireAgain_id e now r
    · rfl
  cases hfind : s.Find r.id with
  | some e =>
      have heq : s.fire now r = { s with
          entries := s.entries.map fun e => if e.id = r.id then e.fireAgain now r else e } := by
        rw [SessionLedger.fire, hfind]
      rw [heq]
      have htrack : SessionLedger.track { s with
          entries := s.entries.map fun e => if e.id = r.id then e.fireAgain now r else e } id =
          ⟨s.pending id, (s.Find id).map fun e =>
            if e.id = r.id then e.fireAgain now r else e⟩ :=
        congrArg (Track.mk (s.pending id)) (find_map hfireId s.entries id)
      rw [htrack]
      by_cases hid : r.id = id
      · subst hid
        have heid : e.id = r.id := by simpa using List.find?_some hfind
        simp [SessionLedger.track, Track.fire, hfind, heid]
      · rw [if_neg hid]
        refine congrArg (Track.mk (s.pending id)) ?_
        cases hother : s.Find id with
        | none => rfl
        | some e' =>
            have heid : e'.id = id := by simpa using List.find?_some hother
            rw [Option.map_some, if_neg fun h => hid (h.symm.trans heid)]
  | none =>
      by_cases hfew : (((s.pending r.id).getD {}).fire now r).consecutive < kEntryEvaluations
      · have heq : s.fire now r = { s with pending := fun id =>
            (if id = r.id then some (((s.pending r.id).getD {}).fire now r)
            else s.pending id) } := by
          rw [SessionLedger.fire, hfind]
          exact if_pos hfew
        rw [heq]
        by_cases hid : r.id = id
        · subst hid
          simp only [if_true, SessionLedger.track, Track.fire, hfind, if_pos hfew]
          exact congrArg (Track.mk _) hfind
        · rw [if_neg hid]
          exact congrArg (Track.mk · (s.Find id)) (if_neg fun h => hid h.symm)
      · have heq : s.fire now r = { s with
            entries := s.entries ++ [(((s.pending r.id).getD {}).fire now r).entry r.id now]
            pending := fun id => if id = r.id then none else s.pending id } := by
          rw [SessionLedger.fire, hfind]
          exact if_neg hfew
        have hnew := find_append_new s.entries
          ((((s.pending r.id).getD {}).fire now r).entry r.id now) id hfind
        rw [heq]
        by_cases hid : r.id = id
        · subst hid
          rw [if_pos rfl]
          have hentry : (some ((((s.pending r.id).getD {}).fire now r).entry r.id now)) =
              (s.entries ++ [(((s.pending r.id).getD {}).fire now r).entry r.id now]).find?
                (·.id == r.id) := (hnew.trans (if_pos rfl)).symm
          simp only [SessionLedger.track, Track.fire, hfind, if_neg hfew]
          exact Track.ext (by simp) hentry.symm
        · rw [if_neg hid]
          exact Track.ext (if_neg fun h => hid h.symm) (hnew.trans (if_neg fun h => hid h.symm))

theorem track_foldl (now : Rat) (id : String) (rs : List DiagnosticResult) (s : SessionLedger) :
    (rs.foldl (SessionLedger.fire now) s).track id =
      (rs.filter (·.id == id)).foldl (Track.fire id now) (s.track id) := by
  induction rs generalizing s with
  | nil => rfl
  | cons r rs ih =>
      rw [List.foldl_cons, ih, track_fire, List.filter_cons]
      by_cases hid : r.id = id
      · simp [hid]
      · simp [hid]

theorem fired_eq (o : Evaluation) (id : String) :
    o.fired id = (o.results.filter admitted).filter (·.id == id) := by
  rw [List.filter_filter, Evaluation.fired]
  exact List.filter_congr fun r _ => Bool.and_comm _ _

/-- An evaluation moves a check's track by that check's results alone. -/
theorem track_observe (s : SessionLedger) (o : Evaluation) (id : String) :
    (s.Observe o.results o.now).track id = (s.track id).observe id o := by
  have hfold := track_foldl o.now id (o.results.filter admitted) s
  rw [← fired_eq] at hfold
  have hfiring : (o.results.filter admitted).any (·.id == id) = o.fires id := by
    rw [Evaluation.fires, fired_eq, Bool.eq_iff_iff]
    simp [List.filter_eq_nil_iff, and_comm]
  have hfind : (s.Observe o.results o.now).Find id =
      (((o.results.filter admitted).foldl (SessionLedger.fire o.now) s).Find id).map fun e =>
        if e.active && !(o.results.filter admitted).any (·.id == e.id) then
          CloseOccurrence e o.now else e := by
    refine find_map (fun e => ?_) _ id
    split
    · exact closeOccurrence_id e o.now
    · rfl
  rw [Track.observe]
  by_cases hfires : o.fires id = true
  · rw [if_pos hfires, ← hfold]
    refine Track.ext ?_ ?_
    · exact if_pos (hfiring.trans hfires)
    · change (s.Observe o.results o.now).Find id = SessionLedger.Find _ id
      rw [hfind]
      cases hx : ((o.results.filter admitted).foldl (SessionLedger.fire o.now) s).Find id with
      | none => rfl
      | some e =>
          have heid : e.id = id := by simpa using List.find?_some hx
          rw [Option.map_some, heid, hfiring, hfires]
          simp
  · have hnone : o.fired id = [] := by simpa [Evaluation.fires] using hfires
    rw [if_neg hfires]
    rw [hnone] at hfold
    refine Track.ext ?_ ?_
    · refine if_neg fun h => hfires ?_
      rwa [← hfiring]
    · change (s.Observe o.results o.now).Find id = _
      rw [hfind]
      have hentry := congrArg Track.entry hfold
      change SessionLedger.Find _ id = s.Find id at hentry
      rw [hentry]
      change _ = (s.Find id).map _
      cases hx : s.Find id with
      | none => rfl
      | some e =>
          have heid : e.id = id := by simpa using List.find?_some hx
          have hquiet : o.fires id = false := by simpa using hfires
          rw [Option.map_some, Option.map_some, heid, hfiring, hquiet]
          simp

theorem track_freeze (s : SessionLedger) (end_ : Rat) (id : String) :
    (s.Freeze end_).track id = (s.track id).quieten end_ := by
  refine congrArg (Track.mk none) (find_map (fun e => ?_) s.entries id)
  split
  · exact closeOccurrence_id e end_
  · rfl

/-! ## Worst values -/

theorem max?_concat (vs : List Rat) (v : Rat) :
    (vs ++ [v]).max? = some (vs.max?.elim v (max · v)) := by
  cases vs with
  | nil => rfl
  | cons w vs =>
      rw [List.cons_append, List.max?_cons', List.max?_cons', List.foldl_append]
      rfl

theorem recordWorst_max (vs : List Rat) (text : String) (r : DiagnosticResult) :
    (RecordWorst vs.max? text r).1 = (vs ++ measured [r]).max? := by
  rw [RecordWorst, measured]
  cases hv : r.measuredValue with
  | none => simp [hv]
  | some v =>
      rw [show List.filterMap (·.measuredValue) [r] = [v] by simp [hv], max?_concat]
      cases vs.max? with
      | none => rfl
      | some w =>
          dsimp only [Option.elim_some]
          split
          · rename_i hlt
            rw [max_eq_right (le_of_lt hlt)]
          · rename_i hge
            rw [max_eq_left (not_lt.mp hge)]

/-! ## Occurrences -/

/-- Where an occurrence begins and ends. -/
def times (o : LedgerOccurrence) : Rat × Rat := (o.startS, o.endS)

theorem changeLast_concat (f : LedgerOccurrence → LedgerOccurrence) (os : List LedgerOccurrence)
    (o : LedgerOccurrence) : changeLast f (os ++ [o]) = os ++ [f o] := by
  induction os with
  | nil => rfl
  | cons a os ih =>
      cases os with
      | nil => rfl
      | cons b os =>
          rw [List.cons_append, List.cons_append, changeLast]
          · rw [← List.cons_append, ih]
            rfl
          · simp

theorem changeLast_times {f : LedgerOccurrence → LedgerOccurrence} (hf : ∀ o, times (f o) = times o)
    (os : List LedgerOccurrence) : (changeLast f os).map times = os.map times := by
  rcases List.eq_nil_or_concat os with rfl | ⟨init, o, rfl⟩
  · rfl
  · rw [List.concat_eq_append, changeLast_concat, List.map_append, List.map_append]
    simp [hf]

/-! ## The invariant -/

/-- The lengths of the runs together. -/
def activeTime (runs : List FiringRun) : Rat := (runs.map fun r => r.stop - r.start).sum

def runTimes (r : FiringRun) : Rat × Rat := (r.start, r.stop)

/-- The entry of a check that is in no run now. -/
structure Closed (e : LedgerEntry) (id : String) (runs : List FiringRun) : Prop where
  id : e.id = id
  inactive : e.active = false
  count : e.count = runs.length
  occurrences : e.occurrences.map times = runs.map runTimes
  worst : e.worst = (runs.flatMap FiringRun.values).max?
  total : e.totalActiveS = activeTime runs

/-- The entry of a check that is in a run now, since `start` and with the values `vs` so far. -/
structure Open (e : LedgerEntry) (id : String) (runs : List FiringRun) (start : Rat)
    (vs : List Rat) : Prop where
  id : e.id = id
  active : e.active = true
  count : e.count = runs.length + 1
  occurrences : e.occurrences.map times = runs.map runTimes ++ [(start, start)]
  worst : e.worst = (runs.flatMap FiringRun.values ++ vs).max?
  total : e.totalActiveS = activeTime runs

def Quiet (t : Track) (id : String) (runs : List FiringRun) : Prop :=
  t.pending = none ∧
    match t.entry with
    | none => runs = []
    | some e => runs ≠ [] ∧ Closed e id runs

def Running (t : Track) (id : String) (runs : List FiringRun) (start : Rat) (length : Nat)
    (vs : List Rat) : Prop :=
  match t.entry with
  | none => runs = [] ∧ length = 1 ∧
      ∃ text, t.pending = some ⟨1, start, vs.max?, text⟩
  | some e => (runs ≠ [] ∨ kEntryEvaluations ≤ length) ∧ Open e id runs start vs

section
variable {id : String} {runs : List FiringRun} {start : Rat} {vs : List Rat}

theorem Open.fireAgain {e : LedgerEntry} (h : Open e id runs start vs) (now : Rat)
    (r : DiagnosticResult) : Open (e.fireAgain now r) id runs start (vs ++ measured [r]) := by
  have hactive := h.active
  refine ⟨(fireAgain_id e now r).trans h.id, ?_, ?_, ?_, ?_, ?_⟩
  · simp only [LedgerEntry.fireAgain, hactive, if_true]
  · simp only [LedgerEntry.fireAgain, hactive, if_true, h.count]
  · simp only [LedgerEntry.fireAgain, hactive, if_true]
    cases r.measuredValue with
    | none => exact h.occurrences
    | some v =>
        have hf : ∀ o : LedgerOccurrence, times { o with worst := max o.worst v } = times o :=
          fun _ => rfl
        exact (changeLast_times hf _).trans h.occurrences
  · simp only [LedgerEntry.fireAgain, hactive, if_true]
    rw [h.worst, ← List.append_assoc]
    exact recordWorst_max _ _ r
  · simp only [LedgerEntry.fireAgain, hactive, if_true, h.total]

/-- The first result of a run of a check that has an entry. -/
theorem Closed.fireAgain {e : LedgerEntry} (h : Closed e id runs) (now : Rat)
    (r : DiagnosticResult) (hcount : e.count + 1 < 2 ^ 32) :
    Open (e.fireAgain now r) id runs now (measured [r]) := by
  have hinactive := h.inactive
  refine ⟨(fireAgain_id e now r).trans h.id, ?_, ?_, ?_, ?_, ?_⟩
  · simp only [LedgerEntry.fireAgain, hinactive, Bool.false_eq_true, if_false]
  · simp only [LedgerEntry.fireAgain, hinactive, Bool.false_eq_true, if_false]
    rw [Nat.mod_eq_of_lt hcount, h.count]
  · simp only [LedgerEntry.fireAgain, hinactive, Bool.false_eq_true, if_false]
    have hnew : (e.occurrences ++ [(⟨now, now, 0⟩ : LedgerOccurrence)]).map times =
        runs.map runTimes ++ [(now, now)] := by
      rw [List.map_append, h.occurrences]
      rfl
    cases r.measuredValue with
    | none => exact hnew
    | some v =>
        have hf : ∀ o : LedgerOccurrence, times { o with worst := max o.worst v } = times o :=
          fun _ => rfl
        exact (changeLast_times hf _).trans hnew
  · simp only [LedgerEntry.fireAgain, hinactive, Bool.false_eq_true, if_false]
    rw [h.worst]
    exact recordWorst_max _ _ r
  · simp only [LedgerEntry.fireAgain, hinactive, Bool.false_eq_true, if_false, h.total]

theorem Open.foldl {t : Track} {e : LedgerEntry} (he : t.entry = some e)
    (h : Open e id runs start vs) (now : Rat) (rs : List DiagnosticResult) :
    ∃ e', (rs.foldl (Track.fire id now) t).entry = some e' ∧
      Open e' id runs start (vs ++ measured rs) := by
  induction rs generalizing t e vs with
  | nil => exact ⟨e, he, by simpa [measured] using h⟩
  | cons r rs ih =>
      have hfire : (t.fire id now r).entry = some (e.fireAgain now r) := by
        rw [Track.fire, he]
      obtain ⟨e', he', hopen⟩ := ih hfire (h.fireAgain now r)
      refine ⟨e', he', ?_⟩
      have hvs : vs ++ measured [r] ++ measured rs = vs ++ measured (r :: rs) := by
        rw [List.append_assoc, measured, measured, measured, ← List.filterMap_append]
        rfl
      rwa [hvs] at hopen

/-- What the runs that count are after one more. -/
def addRun (runs : List FiringRun) (r : FiringRun) : List FiringRun :=
  if runs = [] ∧ r.length < kEntryEvaluations then [] else runs ++ [r]

theorem Open.close {e : LedgerEntry} (h : Open e id runs start vs) {now : Rat}
    (hnow : start ≤ now) (length : Nat) :
    Closed (CloseOccurrence e now) id (runs ++ [⟨start, now, length, vs⟩]) := by
  rcases List.eq_nil_or_concat e.occurrences with hnil | ⟨init, o, hocc⟩
  · have hno := h.occurrences
    rw [hnil] at hno
    exact absurd hno (by simp)
  · rw [List.concat_eq_append] at hocc
    have htimes := h.occurrences
    rw [hocc, List.map_append] at htimes
    obtain ⟨hinit, hlast⟩ := List.append_inj' htimes rfl
    have hstart : o.startS = start := by
      have hpair : times o = (start, start) := by simpa using hlast
      exact congrArg Prod.fst hpair
    have heq : CloseOccurrence e now = { e with
        active := false
        occurrences := init ++ [{ o with endS := now }]
        totalActiveS := e.totalActiveS + max 0 (now - o.startS) } := by
      rw [CloseOccurrence, hocc, List.getLast?_concat]
      simp only [changeLast_concat]
    rw [heq]
    refine ⟨h.id, rfl, ?_, ?_, ?_, ?_⟩
    · simpa using h.count
    · rw [List.map_append, List.map_append, hinit]
      simp [times, runTimes, hstart]
    · rw [List.flatMap_append]
      simpa using h.worst
    · rw [activeTime, List.map_append, List.sum_append, hstart]
      simp only [List.map_cons, List.map_nil, List.sum_cons, List.sum_nil, add_zero]
      rw [max_eq_right (by linarith), h.total, activeTime]

/-! ## One evaluation -/

variable {t : Track}

/-- What is quiet stays as it is. -/
theorem Quiet.quieten (h : Quiet t id runs) (now : Rat) : t.quieten now = t := by
  obtain ⟨hpending, hentry⟩ := h
  refine Track.ext hpending.symm ?_
  rw [Track.quieten]
  cases he : t.entry with
  | none => rfl
  | some e =>
      rw [he] at hentry
      simp [hentry.2.inactive]

theorem Running.silent {length : Nat} (h : Running t id runs start length vs) {now : Rat}
    (hnow : start ≤ now) :
    Quiet (t.quieten now) id (addRun runs ⟨start, now, length, vs⟩) := by
  refine ⟨rfl, ?_⟩
  rw [Track.quieten]
  rw [Running] at h
  cases he : t.entry with
  | none =>
      rw [he] at h
      obtain ⟨hruns, hlength, -⟩ := h
      exact if_pos ⟨hruns, hlength ▸ (by decide : 1 < kEntryEvaluations)⟩
  | some e =>
      rw [he] at h
      obtain ⟨hcounts, hopen⟩ := h
      have hadd : addRun runs ⟨start, now, length, vs⟩ = runs ++ [⟨start, now, length, vs⟩] := by
        refine if_neg fun hno => ?_
        rcases hcounts with hne | hlen
        · exact hne hno.1
        · exact absurd hno.2 (Nat.not_lt.mpr hlen)
      rw [hadd]
      simp only [Option.map_some, hopen.active, if_true]
      exact ⟨by simp, hopen.close hnow length⟩

/-- What an evaluation may bring to a check: no repeat of a first firing, and no occurrence past
    the count. -/
def Track.Single (t : Track) (rs : List DiagnosticResult) : Prop :=
  (t.entry = none → t.pending = none → rs.length ≤ 1) ∧
    ∀ e ∈ t.entry, e.active = false → e.count + 1 < 2 ^ 32

theorem Quiet.fires (h : Quiet t id runs) {rs : List DiagnosticResult} (hne : rs ≠ [])
    (hs : t.Single rs) (now : Rat) :
    Running (rs.foldl (Track.fire id now) t) id runs now 1 (measured rs) := by
  obtain ⟨hpending, hentry⟩ := h
  obtain ⟨r, rs, rfl⟩ := List.exists_cons_of_ne_nil hne
  cases he : t.entry with
  | none =>
      rw [he] at hentry
      have hsingle := hs.1 he hpending
      obtain rfl : rs = [] := List.length_eq_zero_iff.mp (by simpa using hsingle)
      have hfire : t.fire id now r =
          { t with pending := some (({} : LedgerPending).fire now r) } := by
        rw [Track.fire, he, hpending]
        exact if_pos (by decide : 1 < kEntryEvaluations)
      rw [List.foldl_cons, List.foldl_nil, hfire, Running, he]
      refine ⟨hentry, rfl, (RecordWorst none "" r).2, ?_⟩
      have hworst := recordWorst_max [] "" r
      rw [List.nil_append] at hworst
      rw [← hworst]
      rfl
  | some e =>
      rw [he] at hentry
      have hfire : (t.fire id now r).entry = some (e.fireAgain now r) := by
        rw [Track.fire, he]
      obtain ⟨e', he', hopen⟩ := (hentry.2.fireAgain now r (hs.2 e he hentry.2.inactive)).foldl hfire now rs
      rw [List.foldl_cons, Running, he']
      refine ⟨.inl hentry.1, ?_⟩
      have hvs : measured [r] ++ measured rs = measured (r :: rs) := by
        rw [measured, measured, measured, ← List.filterMap_append]
        rfl
      rwa [hvs] at hopen

theorem Running.fires {length : Nat} (h : Running t id runs start length vs)
    {rs : List DiagnosticResult} (hne : rs ≠ []) (hlength : 0 < length) (now : Rat) :
    Running (rs.foldl (Track.fire id now) t) id runs start (length + 1) (vs ++ measured rs) := by
  rw [Running] at h
  cases he : t.entry with
  | none =>
      rw [he] at h
      obtain ⟨rfl, -, text, hpending⟩ := h
      obtain ⟨r, rs, rfl⟩ := List.exists_cons_of_ne_nil hne
      -- the second evaluation makes the entry
      have hfire : (t.fire id now r).entry =
          some ((LedgerPending.fire ⟨1, start, vs.max?, text⟩ now r).entry id now) := by
        rw [Track.fire, he, hpending]
        exact congrArg Track.entry (if_neg (by decide : ¬ 2 < kEntryEvaluations))
      have hfirst : Open ((LedgerPending.fire ⟨1, start, vs.max?, text⟩ now r).entry id now) id []
          start (vs ++ measured [r]) := by
        refine ⟨rfl, rfl, rfl, rfl, ?_, rfl⟩
        exact recordWorst_max vs text r
      obtain ⟨e', he', hopen⟩ := hfirst.foldl hfire now rs
      rw [List.foldl_cons, Running, he']
      refine ⟨.inr (by rw [kEntryEvaluations]; omega), ?_⟩
      have hvs : vs ++ measured [r] ++ measured rs = vs ++ measured (r :: rs) := by
        rw [List.append_assoc, measured, measured, measured, ← List.filterMap_append]
        rfl
      rwa [hvs] at hopen
  | some e =>
      rw [he] at h
      obtain ⟨e', he', hopen⟩ := h.2.foldl he now rs
      rw [Running, he']
      exact ⟨h.1.imp_right fun hlen => by omega, hopen⟩

end

/-! ## A run of evaluations -/

def observeTrack (id : String) (t : Track) (o : Evaluation) : Option Track := some (t.observe id o)

/-- Every evaluation in which the check fires meets the condition. -/
def TrackMeets (id : String) (t : Track) (os : List Evaluation) : Prop :=
  StepRun.Meets (observeTrack id) (fun t o => o.fires id = true → t.Single (o.fired id)) t os

theorem TrackMeets.tail {id : String} {t : Track} {o : Evaluation} {os : List Evaluation}
    (h : TrackMeets id t (o :: os)) : TrackMeets id (t.observe id o) os :=
  StepRun.Meets.tail h rfl

theorem TrackMeets.drop {id : String} {os : List Evaluation} (bs : List Evaluation) {t : Track}
    (h : TrackMeets id t (bs ++ os)) : TrackMeets id (bs.foldl (Track.observe id) t) os := by
  induction bs generalizing t with
  | nil => exact h
  | cons b bs ih => exact ih h.tail

theorem fired_ne_nil {o : Evaluation} {id : String} (h : o.fires id = true) : o.fired id ≠ [] := by
  simpa [Evaluation.fires] using h

/-- The evaluations of one firing run. -/
theorem Running.block {id : String} {runs : List FiringRun} {start : Rat} (bs : List Evaluation) :
    ∀ {t : Track} {length : Nat} {vs : List Rat}, Running t id runs start length vs → 0 < length →
      (∀ o ∈ bs, o.fires id = true) →
      Running (bs.foldl (Track.observe id) t) id runs start (length + bs.length)
        (vs ++ bs.flatMap fun o => measured (o.fired id)) := by
  induction bs with
  | nil =>
      intro t length vs h _ _
      simpa using h
  | cons b bs ih =>
      intro t length vs h hlength hall
      have hb : b.fires id = true := hall b (by simp)
      have hnext := h.fires (fired_ne_nil hb) hlength b.now
      have hrest := ih hnext (Nat.succ_pos _) fun o ho => hall o (List.mem_cons_of_mem b ho)
      rw [List.foldl_cons, Track.observe, if_pos hb]
      rw [List.flatMap_cons, ← List.append_assoc, List.length_cons]
      rwa [show length + 1 + bs.length = length + (bs.length + 1) by omega] at hrest

theorem quiet_run {id : String} {end_ : Rat} (os : List Evaluation) :
    ∀ {t : Track} {runs : List FiringRun}, Quiet t id runs → TrackMeets id t os →
      (os.map Evaluation.now ++ [end_]).Pairwise (· ≤ ·) →
      Quiet ((os.foldl (Track.observe id) t).quieten end_) id
        ((firingRuns id end_ os).foldl addRun runs) := by
  refine firingRuns.induct id (motive := fun os => ∀ {t : Track} {runs : List FiringRun},
    Quiet t id runs → TrackMeets id t os →
      (os.map Evaluation.now ++ [end_]).Pairwise (· ≤ ·) →
      Quiet ((os.foldl (Track.observe id) t).quieten end_) id
        ((firingRuns id end_ os).foldl addRun runs)) ?nil ?fires ?quiet os
  case nil =>
      intro t runs h _ _
      rw [firingRuns, List.foldl_nil, h.quieten]
      exact h
  case fires =>
      intro o os hfires
      dsimp only
      intro ih t runs h hmeets htimes
      set rest := os.dropWhile (·.fires id) with hrestDef
      have hsplit : os.takeWhile (·.fires id) ++ rest = os := List.takeWhile_append_dropWhile
      have hfirst : Running (t.observe id o) id runs o.now 1 (measured (o.fired id)) := by
        rw [Track.observe, if_pos hfires]
        exact h.fires (fired_ne_nil hfires) (hmeets.head hfires) o.now
      have hblock := hfirst.block (os.takeWhile (·.fires id)) Nat.one_pos
        fun b hb => by simpa using List.mem_takeWhile_imp hb
      have hmeets' : TrackMeets id ((os.takeWhile (·.fires id)).foldl (Track.observe id)
          (t.observe id o)) rest := TrackMeets.drop _ (hsplit.symm ▸ hmeets.tail)
      have hrestTimes : (rest.map Evaluation.now ++ [end_]).Pairwise (· ≤ ·) := by
        refine (List.pairwise_cons.mp htimes).2.sublist ?_
        exact ((List.dropWhile_sublist _).map _).append (List.Sublist.refl _)
      have hlater : ∀ x ∈ os.map Evaluation.now ++ [end_], o.now ≤ x :=
        (List.pairwise_cons.mp htimes).1
      rw [firingRuns, if_pos hfires, List.foldl_cons, List.foldl_cons]
      rw [show os.foldl (Track.observe id) (t.observe id o) =
        rest.foldl (Track.observe id) ((os.takeWhile (·.fires id)).foldl (Track.observe id)
          (t.observe id o)) by rw [← List.foldl_append, hsplit]]
      have hlength : 1 + (os.takeWhile (·.fires id)).length =
          (o :: os.takeWhile (·.fires id)).length := by
        rw [List.length_cons]
        omega
      rw [hlength] at hblock
      change Quiet _ id ((firingRuns id end_ rest).foldl addRun (addRun runs
        ⟨o.now, (rest.head?.map Evaluation.now).getD end_, (o :: os.takeWhile (·.fires id)).length,
          measured (o.fired id) ++
            (os.takeWhile (·.fires id)).flatMap fun o => measured (o.fired id)⟩))
      generalize (os.takeWhile (·.fires id)).foldl (Track.observe id) (t.observe id o) = u
        at hblock hmeets'
      cases hrest : rest with
      | nil =>
          -- the freeze ends the run
          rw [firingRuns]
          exact hblock.silent (hlater end_ (by simp))
      | cons q rest' =>
          -- the first evaluation without the check ends it, and the next run is told from there
          have hq : q.fires id = false := by
            have hhead := List.head?_dropWhile_not (fun b : Evaluation => b.fires id) os
            rw [← hrestDef, hrest] at hhead
            simpa using hhead
          have hqmem : q ∈ os := hsplit ▸ List.mem_append_right _ (hrest ▸ List.mem_cons_self)
          have hquiet := hblock.silent
            (hlater q.now (List.mem_append_left _ (List.mem_map_of_mem hqmem)))
          have hsilent : ∀ v : Track, v.observe id q = v.quieten q.now := fun v => by
            rw [Track.observe, if_neg (by simp [hq])]
          have hagain : (u.quieten q.now).observe id q = u.observe id q := by
            rw [hsilent, hsilent, hquiet.quieten]
          have hmeetsQuiet : TrackMeets id (u.quieten q.now) (q :: rest') := by
            refine ⟨fun hfires => absurd hfires (by simp [hq]), fun v hv => ?_⟩
            obtain rfl := Option.some.inj hv
            exact hagain ▸ (hrest ▸ hmeets').tail
          have hlast := ih hquiet (hrest ▸ hmeetsQuiet) hrestTimes
          rw [hrest, List.foldl_cons, hagain] at hlast
          exact hlast
  case quiet =>
      intro o os hquiet ih t runs h hmeets htimes
      rw [firingRuns, if_neg hquiet, List.foldl_cons]
      refine ih ?_ hmeets.tail (List.pairwise_cons.mp htimes).2
      rw [Track.observe, if_neg hquiet]
      rwa [h.quieten]

theorem foldl_addRun {runs : List FiringRun} (hne : runs ≠ []) (rs : List FiringRun) :
    rs.foldl addRun runs = runs ++ rs := by
  induction rs generalizing runs with
  | nil => simp
  | cons r rs ih =>
      rw [List.foldl_cons, addRun, if_neg fun h => hne h.1, ih (by simp), List.append_assoc]
      rfl

theorem foldl_addRun_nil (rs : List FiringRun) : rs.foldl addRun [] = countedRuns rs := by
  induction rs with
  | nil => rfl
  | cons r rs ih =>
      rw [List.foldl_cons, countedRuns, List.dropWhile_cons]
      by_cases hshort : r.length < kEntryEvaluations
      · rw [addRun, if_pos ⟨rfl, hshort⟩, if_pos (by simpa using hshort), ih]
        rfl
      · rw [addRun, if_neg fun h => hshort h.2, if_neg (by simpa using hshort),
          foldl_addRun (by simp)]
        rfl

/-- The check fires in two consecutive evaluations. -/
def FiresTwice (id : String) (os : List Evaluation) : Prop :=
  ∃ before o p after, os = before ++ o :: p :: after ∧ o.fires id = true ∧ p.fires id = true

theorem firesTwice_cons {id : String} (o : Evaluation) (os : List Evaluation) :
    FiresTwice id (o :: os) ↔
      (o.fires id = true ∧ ∃ p ∈ os.head?, p.fires id = true) ∨ FiresTwice id os := by
  constructor
  · rintro ⟨before, q, p, after, hsplit, hq, hp⟩
    cases before with
    | nil =>
        obtain ⟨rfl, rfl⟩ := List.cons.inj hsplit
        exact .inl ⟨hq, p, rfl, hp⟩
    | cons b before => exact .inr ⟨before, q, p, after, (List.cons.inj hsplit).2, hq, hp⟩
  · rintro (⟨ho, p, hp, hfires⟩ | ⟨before, q, p, after, rfl, hq, hp⟩)
    · cases os with
      | nil => exact nomatch hp
      | cons q os =>
          obtain rfl := Option.some.inj hp
          exact ⟨[], o, q, os, rfl, ho, hfires⟩
    · exact ⟨o :: before, q, p, after, rfl, hq, hp⟩

theorem long_run_iff {id : String} (end_ : Rat) (os : List Evaluation) :
    (∃ r ∈ firingRuns id end_ os, kEntryEvaluations ≤ r.length) ↔ FiresTwice id os := by
  refine firingRuns.induct id (motive := fun os =>
    (∃ r ∈ firingRuns id end_ os, kEntryEvaluations ≤ r.length) ↔ FiresTwice id os)
    ?nil ?fires ?quiet os
  case nil =>
      rw [firingRuns]
      exact iff_of_false (by simp) (by rintro ⟨before, o, p, after, h, -⟩; simp at h)
  case fires =>
      intro o os hfires
      dsimp only
      intro ih
      rw [firingRuns, if_pos hfires, firesTwice_cons]
      cases os with
      | nil =>
          rw [List.dropWhile_nil] at ih ⊢
          simp only [List.mem_cons, exists_eq_or_imp, ih]
          exact or_congr (iff_of_false (by simp [kEntryEvaluations]) (by simp)) Iff.rfl
      | cons p os =>
          by_cases hp : p.fires id = true
          · refine iff_of_true ⟨_, List.mem_cons_self, ?_⟩ (.inl ⟨hfires, p, rfl, hp⟩)
            simp [hp, kEntryEvaluations]
          · rw [List.dropWhile_cons, if_neg hp] at ih ⊢
            simp only [List.mem_cons, exists_eq_or_imp, ih]
            exact or_congr (iff_of_false (by simp [hp, kEntryEvaluations]) (by simp [hp])) Iff.rfl
  case quiet =>
      intro o os hquiet ih
      rw [firingRuns, if_neg hquiet, firesTwice_cons, ih]
      exact ⟨.inr, fun h => h.resolve_left fun hno => hquiet hno.1⟩

theorem countedRuns_nil_iff {id : String} (end_ : Rat) (os : List Evaluation) :
    countedRuns (firingRuns id end_ os) = [] ↔ ¬ FiresTwice id os := by
  rw [← long_run_iff end_, countedRuns, List.dropWhile_eq_nil_iff]
  simp

/-! ## The ledger -/

def observeLedger (s : SessionLedger) (o : Evaluation) : Option SessionLedger :=
  some (s.Observe o.results o.now)

/-- No check that the ledger does not know yet is repeated in the evaluation, and no count is at its
    end. -/
def Unrepeated (s : SessionLedger) (o : Evaluation) : Prop :=
  ∀ r ∈ o.results, admitted r = true → (s.track r.id).Single (o.fired r.id)

theorem trackMeets_of_meets (id : String) (os : List Evaluation) :
    ∀ {s : SessionLedger}, StepRun.Meets observeLedger Unrepeated s os →
      TrackMeets id (s.track id) os := by
  induction os with
  | nil => exact fun _ => trivial
  | cons o os ih =>
      intro s h
      refine ⟨fun hfires => ?_, fun t ht => ?_⟩
      · obtain ⟨r, hr⟩ := List.exists_mem_of_ne_nil _ (fired_ne_nil hfires)
        obtain ⟨hmem, hprop⟩ := List.mem_filter.mp hr
        obtain ⟨hadmitted, hid⟩ : admitted r = true ∧ r.id = id := by simpa using hprop
        exact hid ▸ h.head r hmem hadmitted
      · obtain rfl := Option.some.inj ht
        rw [← track_observe]
        exact ih (h.tail rfl)

theorem track_foldl_observe (id : String) (os : List Evaluation) (s : SessionLedger) :
    (os.foldl (fun s o => s.Observe o.results o.now) s).track id =
      os.foldl (Track.observe id) (s.track id) := by
  induction os generalizing s with
  | nil => rfl
  | cons o os ih => rw [List.foldl_cons, ih, track_observe, List.foldl_cons]

/-- A session: reset, evaluated, and frozen. -/
def session (s : SessionLedger) (generation : Nat) (os : List Evaluation) (end_ : Rat) :
    SessionLedger :=
  (os.foldl (fun s o => s.Observe o.results o.now) (s.Reset generation)).Freeze end_

/-- The ledger holds of a check what was observed of it. -/
structure RecordsRuns (s : SessionLedger) (id : String) (os : List Evaluation) (end_ : Rat) :
    Prop where
  entered : (∃ e ∈ s.entries, e.id = id) ↔ FiresTwice id os
  count : ∀ e ∈ s.entries, e.id = id → e.count = e.occurrences.length
  occurrences : ∀ e ∈ s.entries, e.id = id →
    e.occurrences.map times = (countedRuns (firingRuns id end_ os)).map runTimes
  worst : ∀ e ∈ s.entries, e.id = id →
    e.worst = ((countedRuns (firingRuns id end_ os)).flatMap FiringRun.values).max?
  total : ∀ e ∈ s.entries, e.id = id →
    e.totalActiveS = (e.occurrences.map fun o => o.endS - o.startS).sum

theorem distinct_session (s : SessionLedger) (generation : Nat) (os : List Evaluation)
    (end_ : Rat) : (session s generation os end_).Distinct := by
  refine distinct_freeze ?_ end_
  have key : ∀ (os : List Evaluation) (s : SessionLedger), s.Distinct →
      (os.foldl (fun s o => s.Observe o.results o.now) s).Distinct := by
    intro os
    induction os with
    | nil => exact fun s h => h
    | cons o os ih => exact fun s h => ih _ (distinct_observe h o.results o.now)
  exact key os _ List.nodup_nil

theorem ledger_records_runs (s : SessionLedger) (generation : Nat) (os : List Evaluation)
    (end_ : Rat) (htimes : (os.map Evaluation.now ++ [end_]).Pairwise (· ≤ ·))
    (hmeets : StepRun.Meets observeLedger Unrepeated (s.Reset generation) os) (id : String) :
    RecordsRuns (session s generation os end_) id os end_ := by
  have hstart : Quiet ((s.Reset generation).track id) id [] := ⟨rfl, rfl⟩
  have hquiet := quiet_run os hstart (trackMeets_of_meets id os hmeets) htimes
  rw [foldl_addRun_nil, ← track_foldl_observe, ← track_freeze] at hquiet
  obtain ⟨-, hentry⟩ := hquiet
  change match (session s generation os end_).Find id with | none => _ | some e => _ at hentry
  have hfind : ∀ e ∈ (session s generation os end_).entries, e.id = id →
      Closed e id (countedRuns (firingRuns id end_ os)) := by
    intro e he hid
    have hsome := (distinct_session s generation os end_).find he
    rw [hid] at hsome
    rw [hsome] at hentry
    exact hentry.2
  refine ⟨?_, fun e he hid => ?_, fun e he hid => (hfind e he hid).occurrences,
    fun e he hid => (hfind e he hid).worst, fun e he hid => ?_⟩
  · rw [← not_iff_not, ← countedRuns_nil_iff end_]
    cases hx : (session s generation os end_).Find id with
    | none =>
        rw [hx] at hentry
        refine iff_of_true ?_ hentry
        rintro ⟨e, he, hid⟩
        exact List.find?_eq_none.mp hx e he (by simpa using hid)
    | some e =>
        rw [hx] at hentry
        refine iff_of_false (not_not.mpr ⟨e, List.mem_of_find?_eq_some hx, ?_⟩) hentry.1
        simpa using List.find?_some hx
  · have hlength := congrArg List.length (hfind e he hid).occurrences
    rw [List.length_map, List.length_map] at hlength
    rw [(hfind e he hid).count, hlength]
  · have hdiff : (e.occurrences.map fun o => o.endS - o.startS) =
        (countedRuns (firingRuns id end_ os)).map fun r => r.stop - r.start := by
      have hocc := congrArg (List.map fun p : Rat × Rat => p.2 - p.1) (hfind e he hid).occurrences
      rw [List.map_map, List.map_map] at hocc
      exact hocc
    rw [(hfind e he hid).total, activeTime, hdiff]

/-- A problem that fires twice, then once more. -/
theorem ledger_records_runs_thrice :
    let r : DiagnosticResult :=
      { id := "rec.001", tier := .measuredProblem, measuredValue := some 9 }
    RecordsRuns (session {} 1 [⟨[r], 1⟩, ⟨[r], 2⟩, ⟨[], 3⟩, ⟨[r], 4⟩] 5) "rec.001"
      [⟨[r], 1⟩, ⟨[r], 2⟩, ⟨[], 3⟩, ⟨[r], 4⟩] 5 := by
  intro r
  refine ledger_records_runs {} 1 _ 5 (by decide) ?_ "rec.001"
  have hone : ∀ t : Track, (∀ e ∈ t.entry, e.active = false → e.count + 1 < 2 ^ 32) →
      t.Single [r] :=
    fun t h => ⟨fun _ _ => Nat.le_refl _, h⟩
  refine ⟨fun q hq _ => ?_, fun s hs => ⟨fun q hq _ => ?_, fun s' hs' =>
    ⟨(fun q hq _ => nomatch hq), fun s'' hs'' => ⟨fun q hq _ => ?_, fun _ _ => trivial⟩⟩⟩⟩
  · obtain rfl := List.mem_singleton.mp hq
    exact hone _ (by decide)
  · obtain rfl := Option.some.inj hs
    obtain rfl := List.mem_singleton.mp hq
    exact hone _ (by decide)
  · obtain rfl := Option.some.inj hs
    obtain rfl := Option.some.inj hs'
    obtain rfl := Option.some.inj hs''
    obtain rfl := List.mem_singleton.mp hq
    exact hone _ (by decide)

/-- One evaluation that names a problem twice enters it. -/
theorem entered_by_repeat :
    let r : DiagnosticResult :=
      { id := "rec.001", tier := .measuredProblem, measuredValue := some 9 }
    ¬ RecordsRuns (session {} 1 [⟨[r, r], 1⟩] 2) "rec.001" [⟨[r, r], 1⟩] 2 := by
  intro r h
  obtain ⟨before, o, p, after, hsplit, -⟩ := h.entered.mp
    ⟨(session {} 1 [⟨[r, r], 1⟩] 2).entries.head (by decide), List.head_mem _,
      by decide⟩
  have hlength := congrArg List.length hsplit
  simp at hlength
  omega

end Exosnap.Diagnostics
