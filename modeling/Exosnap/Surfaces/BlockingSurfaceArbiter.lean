/-
  The three blocking surfaces and who may have the screen (`BlockingSurfaceArbiter.cpp`), with the
  adapters it raises (`RecoveryAdapter.cpp`, `CrashReportAdapter.cpp`, `RecordingErrorAdapter.cpp`)
  and what the composition root holds for them (`QuickApplication.cpp`).

  A signal runs its slots at once, so a surface that goes up or comes down runs the arbiter's slot
  before its action ends. Recovery candidates are a number, a report and a release note are of any
  type. What the surfaces show besides, the arming of a discard and an arbiter that has not all
  three adapters are left out. `reported` and `presented` are a history that no step reads.
-/
import Exosnap.Lib.StepRun
import Mathlib.Algebra.GroupWithZero.Nat
import Mathlib.Data.List.Nodup

namespace Exosnap.Surfaces

inductive Surface where
  | recovery
  | crash
  | recordingError
  deriving DecidableEq, Repr

structure BlockingSurfaces (ρ ν : Type) where
  queue : List Surface := []
  /-- `any_up_` -/
  anyUpBefore : Bool := false
  candidates : Nat
  busy : Bool := false
  surfaceOpen : Bool := false
  pendingCrash : Bool
  crashActive : Bool := false
  pendingRecordingFailure : Option ρ := none
  errorActive : Bool := false
  report : Option ρ := none
  deferredWhatsNewNotes : List ν := []
  reported : List ρ := []
  presented : List (List ν) := []
  deriving DecidableEq

namespace BlockingSurfaces

variable {ρ ν : Type}

/-! ## The arbiter -/

def isUp (s : BlockingSurfaces ρ ν) : Surface → Bool
  | .recovery => s.surfaceOpen
  | .crash => s.crashActive
  | .recordingError => s.errorActive

def anyUp (s : BlockingSurfaces ρ ν) : Bool :=
  s.isUp .recovery || s.isUp .crash || s.isUp .recordingError

/-- A raise, with the slot that a surface that comes up or is shown again runs. -/
def raise (slot : BlockingSurfaces ρ ν → BlockingSurfaces ρ ν) (s : BlockingSurfaces ρ ν) :
    Surface → BlockingSurfaces ρ ν
  | .recovery =>
      if s.candidates = 0 ∨ s.surfaceOpen = true then s else slot { s with surfaceOpen := true }
  | .crash => if s.pendingCrash then slot { s with crashActive := true } else s
  | .recordingError =>
      match s.pendingRecordingFailure with
      | some report =>
          slot { s with pendingRecordingFailure := none, report := some report, errorActive := true }
      | none => s

/-- What waits for the screen without competing for it takes it. -/
def surfacesCleared (s : BlockingSurfaces ρ ν) : BlockingSurfaces ρ ν :=
  match s.deferredWhatsNewNotes with
  | [] => s
  | notes => { s with deferredWhatsNewNotes := [], presented := notes :: s.presented }

/-- `dispatching_` is set while the next in line is raised, so the slot that this raise runs returns
    at once. -/
def onSurfaceStateChanged (s : BlockingSurfaces ρ ν) : BlockingSurfaces ρ ν :=
  let upNow := s.anyUp
  let cameDown := s.anyUpBefore && !upNow
  let s := { s with anyUpBefore := upNow }
  if upNow then s
  else match s.queue with
    | [] => if cameDown then s.surfacesCleared else s
    | next :: queue =>
        let s := raise id { s with queue := queue } next
        { s with anyUpBefore := s.anyUp }

/-- Some other surface owns the screen. -/
def blocked (s : BlockingSurfaces ρ ν) (surface : Surface) : Bool :=
  (surface != .recovery && s.isUp .recovery) || (surface != .crash && s.isUp .crash) ||
    (surface != .recordingError && s.isUp .recordingError)

def request (s : BlockingSurfaces ρ ν) (surface : Surface) : BlockingSurfaces ρ ν :=
  if s.blocked surface then
    if surface ∈ s.queue then s else { s with queue := s.queue ++ [surface] }
  else raise onSurfaceStateChanged { s with queue := s.queue.filter (· ≠ surface) } surface

/-! ## The surfaces -/

def setSurfaceOpen (s : BlockingSurfaces ρ ν) (isOpen : Bool) : BlockingSurfaces ρ ν :=
  if s.surfaceOpen = isOpen then s else onSurfaceStateChanged { s with surfaceOpen := isOpen }

/-- A candidate is resolved, and the surface closes behind the last one. -/
def removeCandidate (s : BlockingSurfaces ρ ν) : BlockingSurfaces ρ ν :=
  let s := { s with candidates := s.candidates - 1 }
  if s.candidates = 0 then s.setSurfaceOpen false else s

def finish (s : BlockingSurfaces ρ ν) : BlockingSurfaces ρ ν :=
  if s.busy = true ∨ s.candidates = 0 then s else { s with busy := true }

def presentRecordingFailure (s : BlockingSurfaces ρ ν) (report : ρ) : BlockingSurfaces ρ ν :=
  request { s with pendingRecordingFailure := some report, reported := report :: s.reported }
    .recordingError

def presentPostUpdateWhatsNew (s : BlockingSurfaces ρ ν) (notes : List ν) : BlockingSurfaces ρ ν :=
  if s.anyUp = true ∨ .recovery ∈ s.queue ∨ .crash ∈ s.queue ∨ .recordingError ∈ s.queue then
    { s with deferredWhatsNewNotes := notes }
  else { s with presented := notes :: s.presented }

end BlockingSurfaces

inductive SurfaceEvent (ρ ν : Type) where
  /-- The startup scan, or the standing notification. -/
  | requestRecovery
  | requestCrash
  | presentRecordingFailure (report : ρ)
  | dismissRecovery
  | finish
  | finishComplete (success : Bool)
  | discard (success : Bool)
  | continueSession (armed : Bool)
  /-- Each of the crash prompt's answers. -/
  | commitCrash
  | dismissRecordingError
  | presentPostUpdateWhatsNew (notes : List ν)

namespace BlockingSurfaces

variable {ρ ν : Type}

def step (s : BlockingSurfaces ρ ν) : SurfaceEvent ρ ν → Option (BlockingSurfaces ρ ν)
  | .requestRecovery => some (s.request .recovery)
  | .requestCrash => if s.pendingCrash then some (s.request .crash) else none
  | .presentRecordingFailure report => some (s.presentRecordingFailure report)
  | .dismissRecovery => some (if s.busy then s else s.setSurfaceOpen false)
  | .finish => some s.finish
  | .finishComplete success =>
      if s.busy then
        let s := { s with busy := false }
        some (if success then s.removeCandidate else s)
      else none
  | .discard success =>
      some (if s.busy = true ∨ s.candidates = 0 ∨ success = false then s else s.removeCandidate)
  | .continueSession armed =>
      if s.busy = true ∨ s.candidates = 0 then some s
      else
        let s := s.setSurfaceOpen false
        some (if armed then s.finish else s)
  | .commitCrash =>
      some (if s.crashActive then onSurfaceStateChanged { s with crashActive := false } else s)
  | .dismissRecordingError =>
      some (if s.errorActive then onSurfaceStateChanged { s with errorActive := false } else s)
  | .presentPostUpdateWhatsNew notes => some (s.presentPostUpdateWhatsNew notes)

def exec (s : BlockingSurfaces ρ ν) (es : List (SurfaceEvent ρ ν)) : Option (BlockingSurfaces ρ ν) :=
  StepRun.exec step s es

/-! ## A. One screen -/

/-- Everything but the latch: one surface at most is up, what is queued is queued once and not up,
    and a failure that is held back is queued. -/
structure Arbitrated (s : BlockingSurfaces ρ ν) : Prop where
  exclusive : ∀ x y, s.isUp x = true → s.isUp y = true → x = y
  nodup : s.queue.Nodup
  waiting : ∀ x ∈ s.queue, s.isUp x = false
  held : s.pendingRecordingFailure.isSome = true ↔ .recordingError ∈ s.queue
  newest : s.reported.head? = s.pendingRecordingFailure.or s.report
  crashed : .crash ∈ s.queue → s.pendingCrash = true

variable {s s' : BlockingSurfaces ρ ν} {x : Surface} {e : SurfaceEvent ρ ν}

theorem anyUp_eq_false : s.anyUp = false ↔ ∀ x, s.isUp x = false := by
  constructor
  · intro h x
    unfold anyUp at h
    simp only [Bool.or_eq_false_iff] at h
    cases x with
    | recovery => exact h.1.1
    | crash => exact h.1.2
    | recordingError => exact h.2
  · intro h
    simp [anyUp, h]

theorem anyUp_of_isUp (h : s.isUp x = true) : s.anyUp = true := by
  cases ha : s.anyUp with
  | true => rfl
  | false => rw [anyUp_eq_false.mp ha x] at h; cases h

/-- The surface that is raised, or none. -/
theorem raise_id (h : ∀ y, y ≠ x → s.isUp y = false) :
    (raise id s x).queue = s.queue ∧ (raise id s x).reported = s.reported ∧
      (raise id s x).pendingCrash = s.pendingCrash ∧
      (∀ y, y ≠ x → (raise id s x).isUp y = false) ∧
      (x ≠ .recordingError →
        (raise id s x).pendingRecordingFailure = s.pendingRecordingFailure ∧
          (raise id s x).report = s.report) ∧
      (x = .recordingError → (raise id s x).pendingRecordingFailure = none ∧
        (raise id s x).report = s.pendingRecordingFailure.or s.report) := by
  cases x with
  | recovery =>
      unfold raise
      dsimp only [id]
      split_ifs
      · exact ⟨rfl, rfl, rfl, h, fun _ => ⟨rfl, rfl⟩, by simp⟩
      · refine ⟨rfl, rfl, rfl, ?_, fun _ => ⟨rfl, rfl⟩, by simp⟩
        intro y hy
        cases y with
        | recovery => exact absurd rfl hy
        | crash => exact h _ hy
        | recordingError => exact h _ hy
  | crash =>
      unfold raise
      dsimp only [id]
      split_ifs
      · refine ⟨rfl, rfl, rfl, ?_, fun _ => ⟨rfl, rfl⟩, by simp⟩
        intro y hy
        cases y with
        | recovery => exact h _ hy
        | crash => exact absurd rfl hy
        | recordingError => exact h _ hy
      · exact ⟨rfl, rfl, rfl, h, fun _ => ⟨rfl, rfl⟩, by simp⟩
  | recordingError =>
      unfold raise
      dsimp only [id]
      cases hp : s.pendingRecordingFailure with
      | none => exact ⟨rfl, rfl, rfl, h, by simp, fun _ => ⟨hp, rfl⟩⟩
      | some r =>
          refine ⟨rfl, rfl, rfl, ?_, by simp, fun _ => ⟨rfl, rfl⟩⟩
          intro y hy
          cases y with
          | recovery => exact h _ hy
          | crash => exact h _ hy
          | recordingError => exact absurd rfl hy

/-- A raise of a surface that has left the queue, while no other is up. -/
theorem Arbitrated.raise (h : ∀ y, y ≠ x → s.isUp y = false) (hx : x ∉ s.queue)
    (hnodup : s.queue.Nodup) (hheld : s.pendingRecordingFailure.isSome = true ↔
      x = .recordingError ∨ .recordingError ∈ s.queue)
    (hnewest : s.reported.head? = s.pendingRecordingFailure.or s.report)
    (hcrashed : .crash ∈ s.queue → s.pendingCrash = true) :
    Arbitrated (BlockingSurfaces.raise id s x) := by
  obtain ⟨hqueue, hreported, hpending, hothers, hsame, hshown⟩ := raise_id h
  constructor
  · intro y z hy hz
    have hyx : y = x := by_contra fun hne => by rw [hothers y hne] at hy; cases hy
    have hzx : z = x := by_contra fun hne => by rw [hothers z hne] at hz; cases hz
    exact hyx.trans hzx.symm
  · rw [hqueue]; exact hnodup
  · rw [hqueue]
    intro y hy
    exact hothers y fun he => hx (he ▸ hy)
  · rw [hqueue]
    by_cases he : x = .recordingError
    · rw [(hshown he).1]
      simpa using he ▸ hx
    · rw [(hsame he).1, hheld]
      exact or_iff_right he
  · rw [hreported, hnewest]
    by_cases he : x = .recordingError
    · rw [(hshown he).1, (hshown he).2]
      rfl
    · rw [(hsame he).1, (hsame he).2]
  · rw [hqueue, hpending]
    exact hcrashed

/-- A raise runs the slot on what it raised, or changes nothing. -/
theorem raise_slot (slot : BlockingSurfaces ρ ν → BlockingSurfaces ρ ν) (s : BlockingSurfaces ρ ν)
    (x : Surface) :
    raise slot s x = slot (raise id s x) ∨ raise slot s x = s ∧ raise id s x = s := by
  cases x with
  | recovery =>
      unfold raise
      dsimp only [id]
      split_ifs
      · exact .inr ⟨rfl, rfl⟩
      · exact .inl rfl
  | crash =>
      unfold raise
      dsimp only [id]
      split_ifs
      · exact .inl rfl
      · exact .inr ⟨rfl, rfl⟩
  | recordingError =>
      unfold raise
      dsimp only [id]
      cases s.pendingRecordingFailure with
      | none => exact .inr ⟨rfl, rfl⟩
      | some r => exact .inl rfl

theorem Arbitrated.latch (h : Arbitrated s) (latch : Bool) :
    Arbitrated { s with anyUpBefore := latch } :=
  ⟨h.exclusive, h.nodup, h.waiting, h.held, h.newest, h.crashed⟩

theorem Arbitrated.surfacesCleared (h : Arbitrated s) : Arbitrated s.surfacesCleared := by
  unfold BlockingSurfaces.surfacesCleared
  split
  · exact h
  · exact ⟨h.exclusive, h.nodup, h.waiting, h.held, h.newest, h.crashed⟩

theorem surfacesCleared_anyUp : s.surfacesCleared.anyUp = s.anyUp ∧
    s.surfacesCleared.anyUpBefore = s.anyUpBefore := by
  unfold BlockingSurfaces.surfacesCleared
  split <;> exact ⟨rfl, rfl⟩

/-- What the slot does: nothing with a surface up, and otherwise the first in line is raised. -/
theorem onSurfaceStateChanged_cases (s : BlockingSurfaces ρ ν) :
    s.anyUp = true ∧ s.onSurfaceStateChanged = { s with anyUpBefore := true } ∨
      s.anyUp = false ∧ s.queue = [] ∧ (s.onSurfaceStateChanged = { s with anyUpBefore := false } ∧
          s.anyUpBefore = false ∨
        s.onSurfaceStateChanged = { s with anyUpBefore := false }.surfacesCleared ∧
          s.anyUpBefore = true) ∨
      s.anyUp = false ∧ ∃ next queue, s.queue = next :: queue ∧
        s.onSurfaceStateChanged =
          { raise id { s with anyUpBefore := false, queue := queue } next with
            anyUpBefore := (raise id { s with anyUpBefore := false, queue := queue } next).anyUp } := by
  unfold onSurfaceStateChanged
  dsimp only
  cases hup : s.anyUp with
  | true => exact .inl ⟨rfl, rfl⟩
  | false =>
      right
      cases hq : s.queue with
      | nil =>
          left
          cases hb : s.anyUpBefore with
          | false => exact ⟨rfl, rfl, .inl ⟨rfl, rfl⟩⟩
          | true => exact ⟨rfl, rfl, .inr ⟨rfl, rfl⟩⟩
      | cons next queue => exact .inr ⟨rfl, next, queue, rfl, rfl⟩

theorem Arbitrated.slot (h : Arbitrated s) :
    Arbitrated s.onSurfaceStateChanged ∧
      s.onSurfaceStateChanged.anyUpBefore = s.onSurfaceStateChanged.anyUp := by
  rcases onSurfaceStateChanged_cases s with
    ⟨hup, he⟩ | ⟨hup, -, ⟨he, -⟩ | ⟨he, -⟩⟩ | ⟨hup, next, queue, hq, he⟩
  · rw [he]
    exact ⟨h.latch _, hup.symm⟩
  · rw [he]
    exact ⟨h.latch _, hup.symm⟩
  · rw [he]
    refine ⟨(h.latch _).surfacesCleared, ?_⟩
    rw [surfacesCleared_anyUp.1, surfacesCleared_anyUp.2]
    exact hup.symm
  · rw [he]
    have hnodup := h.nodup
    have hheld := h.held
    have hcrashed := h.crashed
    rw [hq] at hnodup hheld hcrashed
    refine ⟨Arbitrated.latch ?_ _, rfl⟩
    refine Arbitrated.raise (fun y _ => anyUp_eq_false.mp hup y) (List.nodup_cons.mp hnodup).1
      (List.nodup_cons.mp hnodup).2 ?_ h.newest fun hin => hcrashed (List.mem_cons_of_mem _ hin)
    rw [hheld, List.mem_cons]
    exact or_congr_left eq_comm

theorem blocked_eq_false : s.blocked x = false ↔ ∀ y, y ≠ x → s.isUp y = false := by
  constructor
  · intro h y hy
    simp only [blocked, Bool.or_eq_false_iff, Bool.and_eq_false_iff, bne_eq_false_iff_eq] at h
    cases y with
    | recovery => exact h.1.1.resolve_left hy.symm
    | crash => exact h.1.2.resolve_left hy.symm
    | recordingError => exact h.2.resolve_left hy.symm
  · intro h
    simp only [blocked, Bool.or_eq_false_iff, Bool.and_eq_false_iff, bne_eq_false_iff_eq]
    refine ⟨⟨?_, ?_⟩, ?_⟩ <;> exact or_iff_not_imp_left.mpr fun hne => h _ (Ne.symm hne)

/-- The invariant between events: the latch says whether a surface is up. -/
structure Settled (s : BlockingSurfaces ρ ν) : Prop extends Arbitrated s where
  latched : s.anyUpBefore = s.anyUp

theorem Arbitrated.settled (h : Arbitrated s) : Settled s.onSurfaceStateChanged :=
  ⟨h.slot.1, h.slot.2⟩

/-- A request that may be for the failure that is held back now. -/
theorem Settled.request (hexclusive : ∀ y z, s.isUp y = true → s.isUp z = true → y = z)
    (hnodup : s.queue.Nodup) (hwaiting : ∀ y ∈ s.queue, s.isUp y = false)
    (hheld : s.pendingRecordingFailure.isSome = true ↔
      x = .recordingError ∨ .recordingError ∈ s.queue)
    (hnewest : s.reported.head? = s.pendingRecordingFailure.or s.report)
    (hcrashed : x = .crash ∨ .crash ∈ s.queue → s.pendingCrash = true)
    (hlatched : s.anyUpBefore = s.anyUp) : Settled (s.request x) := by
  unfold BlockingSurfaces.request
  cases hblocked : s.blocked x with
  | true =>
      rw [if_pos rfl]
      split_ifs with hin
      · refine ⟨⟨hexclusive, hnodup, hwaiting, ?_, hnewest, fun hc => hcrashed (.inr hc)⟩, hlatched⟩
        rw [hheld]
        exact or_iff_right_of_imp fun he => he ▸ hin
      · -- the surface that is up is another one
        have hdown : s.isUp x = false := by
          by_contra hup
          have hx : s.isUp x = true := by simpa using hup
          have hnone : s.blocked x = false := blocked_eq_false.mpr fun y hy => by
            by_contra hy'
            exact hy (hexclusive y x (by simpa using hy') hx)
          rw [hnone] at hblocked
          cases hblocked
        refine ⟨⟨hexclusive, ?_, ?_, ?_, hnewest, ?_⟩, hlatched⟩
        · exact hnodup.append (List.nodup_singleton x) (by simpa using hin)
        · intro y hy
          rcases List.mem_append.mp hy with hy | hy
          · exact hwaiting y hy
          · rw [List.mem_singleton.mp hy]
            exact hdown
        · rw [List.mem_append, List.mem_singleton, hheld, or_comm]
          exact or_congr_right eq_comm
        · intro hc
          rw [List.mem_append, List.mem_singleton] at hc
          exact hcrashed (hc.symm.imp_left Eq.symm)
  | false =>
      rw [if_neg (by simp)]
      have hothers := blocked_eq_false.mp hblocked
      have hraised : Arbitrated
          (raise id { s with queue := s.queue.filter (· ≠ x) } x) := by
        refine Arbitrated.raise hothers (by simp) (hnodup.filter _) ?_ hnewest ?_
        · rw [List.mem_filter, hheld]
          by_cases he : x = .recordingError
          · simp [he]
          · simp [he, Ne.symm he]
        · exact fun hc => hcrashed (.inr (List.mem_of_mem_filter hc))
      rcases raise_slot onSurfaceStateChanged { s with queue := s.queue.filter (· ≠ x) } x with
        he | ⟨he, hid⟩
      · rw [he]
        exact hraised.settled
      · rw [he]
        rw [hid] at hraised
        exact ⟨hraised, hlatched⟩

/-- A surface comes down. -/
theorem Settled.close (h : Settled s) (hdown : ∀ y, s'.isUp y = true → s.isUp y = true)
    (hqueue : s'.queue = s.queue)
    (hpending : s'.pendingRecordingFailure = s.pendingRecordingFailure)
    (hreport : s'.report = s.report) (hreported : s'.reported = s.reported)
    (hcrash : s'.pendingCrash = s.pendingCrash) : Arbitrated s' := by
  constructor
  · exact fun y z hy hz => h.exclusive y z (hdown y hy) (hdown z hz)
  · rw [hqueue]; exact h.nodup
  · rw [hqueue]
    intro y hy
    by_contra hup
    have := hdown y (by simpa using hup)
    rw [h.waiting y hy] at this
    cases this
  · rw [hqueue, hpending]; exact h.held
  · rw [hreported, hpending, hreport]; exact h.newest
  · rw [hqueue, hcrash]; exact h.crashed

/-- Candidates, the deferred notes and whether a repair runs are no business of the arbiter. -/
theorem Settled.of_same (h : Settled s) (hup : ∀ y, s'.isUp y = s.isUp y)
    (hlatch : s'.anyUpBefore = s.anyUpBefore) (hqueue : s'.queue = s.queue)
    (hpending : s'.pendingRecordingFailure = s.pendingRecordingFailure)
    (hreport : s'.report = s.report) (hreported : s'.reported = s.reported)
    (hcrash : s'.pendingCrash = s.pendingCrash) : Settled s' := by
  refine ⟨h.close (fun y hy => hup y ▸ hy) hqueue hpending hreport hreported hcrash, ?_⟩
  rw [hlatch, h.latched]
  simp only [anyUp, hup]

theorem Settled.setSurfaceOpen (h : Settled s) : Settled (s.setSurfaceOpen false) := by
  unfold BlockingSurfaces.setSurfaceOpen
  split_ifs
  · exact h
  · refine Arbitrated.settled (h.close ?_ rfl rfl rfl rfl rfl)
    intro y hy
    cases y with
    | recovery => cases hy
    | crash => exact hy
    | recordingError => exact hy

theorem Settled.removeCandidate (h : Settled s) : Settled s.removeCandidate := by
  have hfewer : Settled { s with candidates := s.candidates - 1 } :=
    h.of_same (fun y => by cases y <;> rfl) rfl rfl rfl rfl rfl rfl
  unfold BlockingSurfaces.removeCandidate
  dsimp only
  split_ifs
  · exact hfewer.setSurfaceOpen
  · exact hfewer

theorem Settled.finish (h : Settled s) : Settled s.finish := by
  unfold BlockingSurfaces.finish
  split_ifs
  · exact h
  · exact h.of_same (fun y => by cases y <;> rfl) rfl rfl rfl rfl rfl rfl

theorem Settled.step (h : Settled s) (hstep : s.step e = some s') : Settled s' := by
  unfold BlockingSurfaces.step at hstep
  cases e with
  | requestRecovery =>
      cases hstep
      exact .request h.exclusive h.nodup h.waiting (by simpa using h.held) h.newest
        (by simpa using h.crashed) h.latched
  | requestCrash =>
      dsimp only at hstep
      split_ifs at hstep with hpending
      cases hstep
      exact .request h.exclusive h.nodup h.waiting (by simpa using h.held) h.newest
        (fun _ => hpending) h.latched
  | presentRecordingFailure r =>
      cases hstep
      exact .request h.exclusive h.nodup h.waiting (by simp) rfl (by simpa using h.crashed)
        h.latched
  | dismissRecovery =>
      cases hstep
      split_ifs
      · exact h
      · exact h.setSurfaceOpen
  | finish =>
      cases hstep
      exact h.finish
  | finishComplete success =>
      dsimp only at hstep
      split_ifs at hstep <;> cases hstep
      · exact Settled.removeCandidate
          (h.of_same (fun y => by cases y <;> rfl) rfl rfl rfl rfl rfl rfl)
      · exact h.of_same (fun y => by cases y <;> rfl) rfl rfl rfl rfl rfl rfl
  | discard success =>
      cases hstep
      split_ifs
      · exact h
      · exact h.removeCandidate
  | continueSession armed =>
      dsimp only at hstep
      split_ifs at hstep <;> cases hstep
      · exact h
      · exact h.setSurfaceOpen.finish
      · exact h.setSurfaceOpen
  | commitCrash =>
      cases hstep
      split_ifs
      · refine Arbitrated.settled (h.close ?_ rfl rfl rfl rfl rfl)
        intro y hy
        cases y with
        | recovery => exact hy
        | crash => cases hy
        | recordingError => exact hy
      · exact h
  | dismissRecordingError =>
      cases hstep
      split_ifs
      · refine Arbitrated.settled (h.close ?_ rfl rfl rfl rfl rfl)
        intro y hy
        cases y with
        | recovery => exact hy
        | crash => exact hy
        | recordingError => cases hy
      · exact h
  | presentPostUpdateWhatsNew notes =>
      cases hstep
      unfold presentPostUpdateWhatsNew
      split_ifs <;> exact h.of_same (fun y => by cases y <;> rfl) rfl rfl rfl rfl rfl rfl

/-! ## B. Whose turn it is -/

/-- There is something that the surface can show. -/
def Raisable (s : BlockingSurfaces ρ ν) : Surface → Prop
  | .recovery => s.candidates ≠ 0
  | .crash => s.pendingCrash = true
  | .recordingError => s.pendingRecordingFailure.isSome = true

theorem Raisable.raise (h : Raisable s x) : (raise id s x).isUp x = true := by
  cases x with
  | recovery =>
      unfold BlockingSurfaces.raise
      dsimp only [id]
      split_ifs with hopen
      · exact hopen.resolve_left h
      · rfl
  | crash =>
      unfold BlockingSurfaces.raise
      rw [show s.pendingCrash = true from h]
      rfl
  | recordingError =>
      unfold BlockingSurfaces.raise
      obtain ⟨r, hr⟩ := Option.isSome_iff_exists.mp h
      rw [hr]
      rfl

/-- A surface that is up stays up while others ask for the screen. -/
theorem onSurfaceStateChanged_isUp (h : s.isUp x = true) : s.onSurfaceStateChanged.isUp x = true := by
  rcases onSurfaceStateChanged_cases s with ⟨-, he⟩ | ⟨hup, -⟩ | ⟨hup, -⟩
  · rw [he]
    cases x <;> exact h
  · rw [anyUp_eq_false.mp hup x] at h
    cases h
  · rw [anyUp_eq_false.mp hup x] at h
    cases h

theorem raise_id_isUp {y : Surface} (h : s.isUp y = true) : (raise id s x).isUp y = true := by
  cases x <;> unfold raise <;> dsimp only [id] <;> split <;> cases y <;> first | exact h | rfl

theorem request_isUp {y : Surface} (h : s.isUp y = true) : (s.request x).isUp y = true := by
  unfold request
  split_ifs
  · exact h
  · cases y <;> exact h
  · have hraised : (raise id { s with queue := s.queue.filter (· ≠ x) } x).isUp y = true :=
      raise_id_isUp (by cases y <;> exact h)
    rcases raise_slot onSurfaceStateChanged { s with queue := s.queue.filter (· ≠ x) } x with
      he | ⟨he, -⟩
    · rw [he]
      exact onSurfaceStateChanged_isUp hraised
    · rw [he]
      cases y <;> exact h

/-- The screen is free: the first in line takes it, if it has something to show, and behind the last
    one come the notes that waited. -/
theorem onSurfaceStateChanged_next (hnone : s.anyUp = false) (hbefore : s.anyUpBefore = true)
    (hnext : ∀ y ∈ s.queue.head?, Raisable s y) :
    s.onSurfaceStateChanged.queue = s.queue.tail ∧
      (∀ y, s.onSurfaceStateChanged.isUp y = true ↔ s.queue.head? = some y) ∧
      (s.queue = [] → s.onSurfaceStateChanged.deferredWhatsNewNotes = []) := by
  have hdown := anyUp_eq_false.mp hnone
  rcases onSurfaceStateChanged_cases s with
    ⟨hup, -⟩ | ⟨-, hq, hslot⟩ | ⟨-, next, queue, hq, he⟩
  · rw [hnone] at hup
    cases hup
  · obtain ⟨hb, -⟩ | he := hslot.imp_left And.symm
    · rw [hbefore] at hb
      cases hb
    · rw [he.1, hq]
      unfold surfacesCleared
      split
      · rename_i hnotes
        exact ⟨rfl, fun y => by have hy := hdown y; cases y <;> simp_all [isUp], fun _ => hnotes⟩
      · exact ⟨rfl, fun y => by have hy := hdown y; cases y <;> simp_all [isUp], fun _ => rfl⟩
  · have hothers : ∀ y, y ≠ next →
        ({ s with anyUpBefore := false, queue := queue } : BlockingSurfaces ρ ν).isUp y = false :=
      fun y _ => by
        have hy := hdown y
        cases y <;> exact hy
    obtain ⟨hqueue, -, -, hstill, -⟩ := raise_id hothers
    have hraised : (raise id { s with anyUpBefore := false, queue := queue } next).isUp next =
        true := by
      refine Raisable.raise ?_
      have hn := hnext next (by rw [hq]; rfl)
      cases next <;> exact hn
    rw [he, hq]
    refine ⟨hqueue, fun y => ?_, by simp⟩
    have hlatch : ∀ (t : BlockingSurfaces ρ ν) b, ({ t with anyUpBefore := b }).isUp y = t.isUp y :=
      fun t b => by cases y <;> rfl
    rw [hlatch]
    by_cases hy : y = next
    · subst hy
      simp [hraised]
    · simp [hstill y hy, Ne.symm hy]

end BlockingSurfaces

/-- The surface that the event can take down. -/
def SurfaceEvent.closes {ρ ν : Type} : SurfaceEvent ρ ν → Option Surface
  | .dismissRecovery | .finishComplete _ | .discard _ | .continueSession _ => some .recovery
  | .commitCrash => some .crash
  | .dismissRecordingError => some .recordingError
  | _ => none

namespace BlockingSurfaces

variable {ρ ν : Type} {s s' : BlockingSurfaces ρ ν} {x : Surface} {e : SurfaceEvent ρ ν}

/-- What follows when a surface has come down: the next in line is up, and where there is none,
    the notes that waited have been shown. -/
structure TakesOver (s s' : BlockingSurfaces ρ ν) : Prop where
  queue : s'.queue = s.queue.tail
  next : ∀ y, s'.isUp y = true ↔ s.queue.head? = some y
  cleared : s.queue = [] → s'.deferredWhatsNewNotes = []

/-- The surface that was up is taken down. -/
theorem Settled.takesOver (h : Settled s) (hup : s.isUp x = true)
    (hoffered : .recovery ∈ s.queue → s.candidates ≠ 0) {c : BlockingSurfaces ρ ν}
    (hdown : ∀ y, c.isUp y = true → s.isUp y = true ∧ y ≠ x) (hqueue : c.queue = s.queue)
    (hpending : c.pendingRecordingFailure = s.pendingRecordingFailure)
    (hcrash : c.pendingCrash = s.pendingCrash)
    (hcandidates : x = .recovery ∨ c.candidates = s.candidates)
    (hbefore : c.anyUpBefore = s.anyUpBefore) : TakesOver s c.onSurfaceStateChanged := by
  have hnone : c.anyUp = false := anyUp_eq_false.mpr fun y => by
    by_contra hy
    obtain ⟨hy, hne⟩ := hdown y (by simpa using hy)
    exact hne (h.exclusive y x hy hup)
  have hnext : ∀ y ∈ c.queue.head?, Raisable c y := by
    intro y hy
    have hin : y ∈ s.queue := hqueue ▸ List.mem_of_mem_head? hy
    cases y with
    | recovery =>
        rcases hcandidates with rfl | he
        · rw [h.waiting _ hin] at hup
          cases hup
        · show c.candidates ≠ 0
          rw [he]
          exact hoffered hin
    | crash => exact hcrash.trans (h.crashed hin)
    | recordingError =>
        show c.pendingRecordingFailure.isSome = true
        rw [hpending]
        exact h.held.mpr hin
  have hup' := anyUp_of_isUp hup
  obtain ⟨hrest, hfirst, hcleared⟩ :=
    onSurfaceStateChanged_next hnone (hbefore.trans (h.latched.trans hup')) hnext
  rw [hqueue] at hrest hfirst hcleared
  exact ⟨hrest, hfirst, hcleared⟩

theorem Settled.setSurfaceOpen_up (h : Settled s)
    (hoffered : .recovery ∈ s.queue → s.candidates ≠ 0) (hup : s.isUp x = true) :
    (s.setSurfaceOpen false).isUp x = true ∨ x = .recovery ∧ TakesOver s (s.setSurfaceOpen false) := by
  unfold BlockingSurfaces.setSurfaceOpen
  split_ifs with hclosed
  · exact .inl hup
  have hopen : s.isUp .recovery = true := (Bool.not_eq_false _).mp hclosed
  obtain rfl := h.exclusive x .recovery hup hopen
  refine .inr ⟨rfl, h.takesOver hup hoffered ?_ rfl rfl rfl (.inl rfl) rfl⟩
  intro y hy
  cases y with
  | recovery => cases hy
  | crash => exact ⟨hy, by simp⟩
  | recordingError => exact ⟨hy, by simp⟩

theorem Settled.removeCandidate_up (h : Settled s)
    (hoffered : .recovery ∈ s.queue → s.candidates ≠ 0) (hup : s.isUp x = true) :
    s.removeCandidate.isUp x = true ∨ x = .recovery ∧ TakesOver s s.removeCandidate := by
  unfold BlockingSurfaces.removeCandidate BlockingSurfaces.setSurfaceOpen
  dsimp only
  split_ifs with hlast hclosed
  · exact .inl (by cases x <;> exact hup)
  · have hopen : s.isUp .recovery = true := (Bool.not_eq_false _).mp hclosed
    obtain rfl := h.exclusive x .recovery hup hopen
    refine .inr ⟨rfl, h.takesOver hup hoffered ?_ rfl rfl rfl (.inl rfl) rfl⟩
    intro y hy
    cases y with
    | recovery => cases hy
    | crash => exact ⟨hy, by simp⟩
    | recordingError => exact ⟨hy, by simp⟩
  · exact .inl (by cases x <;> exact hup)

theorem finish_same : (∀ y, s.finish.isUp y = s.isUp y) ∧ s.finish.queue = s.queue ∧
    s.finish.deferredWhatsNewNotes = s.deferredWhatsNewNotes := by
  unfold finish
  split_ifs
  · exact ⟨fun _ => rfl, rfl, rfl⟩
  · exact ⟨fun y => by cases y <;> rfl, rfl, rfl⟩

/-- What a step does to a surface that is up: it stays, or it is taken down by an event of its own
    and the next in line is raised. -/
theorem Settled.step_up (h : Settled s) (hoffered : .recovery ∈ s.queue → s.candidates ≠ 0)
    (hstep : s.step e = some s') (hup : s.isUp x = true) :
    s'.isUp x = true ∨ e.closes = some x ∧ TakesOver s s' := by
  unfold BlockingSurfaces.step at hstep
  cases e with
  | requestRecovery => cases hstep; exact .inl (request_isUp hup)
  | requestCrash =>
      dsimp only at hstep
      split_ifs at hstep
      cases hstep
      exact .inl (request_isUp hup)
  | presentRecordingFailure r =>
      cases hstep
      exact .inl (request_isUp (by cases x <;> exact hup))
  | dismissRecovery =>
      cases hstep
      split_ifs
      · exact .inl hup
      · exact (h.setSurfaceOpen_up hoffered hup).imp_right fun ⟨hx, hover⟩ => ⟨hx ▸ rfl, hover⟩
  | finish => cases hstep; exact .inl ((finish_same.1 x).trans hup)
  | finishComplete success =>
      dsimp only at hstep
      split_ifs at hstep <;> cases hstep
      · have hidle : Settled { s with busy := false } :=
          h.of_same (fun y => by cases y <;> rfl) rfl rfl rfl rfl rfl rfl
        refine (hidle.removeCandidate_up hoffered (by cases x <;> exact hup)).imp_right ?_
        rintro ⟨rfl, hover⟩
        exact ⟨rfl, hover.queue, hover.next, hover.cleared⟩
      · exact .inl (by cases x <;> exact hup)
  | discard success =>
      cases hstep
      split_ifs
      · exact .inl hup
      · exact (h.removeCandidate_up hoffered hup).imp_right fun ⟨hx, hover⟩ => ⟨hx ▸ rfl, hover⟩
  | continueSession armed =>
      dsimp only at hstep
      have hclose := h.setSurfaceOpen_up hoffered hup
      split_ifs at hstep <;> cases hstep
      · exact .inl hup
      · obtain ⟨hsame, hqueue, hnotes⟩ := finish_same (s := s.setSurfaceOpen false)
        refine hclose.imp (fun hx => (hsame x).trans hx) ?_
        rintro ⟨rfl, hover⟩
        exact ⟨rfl, hqueue.trans hover.queue, fun y => by rw [hsame, hover.next],
          fun hq => hnotes.trans (hover.cleared hq)⟩
      · exact hclose.imp_right fun ⟨hx, hover⟩ => ⟨hx ▸ rfl, hover⟩
  | commitCrash =>
      cases hstep
      split_ifs with hcrash
      · obtain rfl := h.exclusive x .crash hup hcrash
        refine .inr ⟨rfl, h.takesOver hup hoffered ?_ rfl rfl rfl (.inr rfl) rfl⟩
        intro y hy
        cases y with
        | recovery => exact ⟨hy, by simp⟩
        | crash => cases hy
        | recordingError => exact ⟨hy, by simp⟩
      · exact .inl hup
  | dismissRecordingError =>
      cases hstep
      split_ifs with herror
      · obtain rfl := h.exclusive x .recordingError hup herror
        refine .inr ⟨rfl, h.takesOver hup hoffered ?_ rfl rfl rfl (.inr rfl) rfl⟩
        intro y hy
        cases y with
        | recovery => exact ⟨hy, by simp⟩
        | crash => exact ⟨hy, by simp⟩
        | recordingError => cases hy
      · exact .inl hup
  | presentPostUpdateWhatsNew notes =>
      cases hstep
      unfold presentPostUpdateWhatsNew
      split_ifs <;> exact .inl (by cases x <;> exact hup)

/-! ## C. Nothing is forgotten -/

/-- Nothing waits for the screen. -/
structure Idle (s : BlockingSurfaces ρ ν) : Prop where
  queue : s.queue = []
  notes : s.deferredWhatsNewNotes = []

theorem Idle.slot (h : Idle s) : Idle s.onSurfaceStateChanged := by
  rcases onSurfaceStateChanged_cases s with
    ⟨-, he⟩ | ⟨-, -, ⟨he, -⟩ | ⟨he, -⟩⟩ | ⟨-, next, queue, hq, -⟩
  · rw [he]
    exact ⟨h.queue, h.notes⟩
  · rw [he]
    exact ⟨h.queue, h.notes⟩
  · rw [he]
    unfold surfacesCleared
    split
    · exact ⟨h.queue, h.notes⟩
    · exact ⟨h.queue, rfl⟩
  · rw [h.queue] at hq
    cases hq

theorem Idle.request (h : Idle s) (hnone : s.anyUp = false) : Idle (s.request x) := by
  have hfree : s.blocked x = false := blocked_eq_false.mpr fun y _ => anyUp_eq_false.mp hnone y
  have hfiltered : Idle { s with queue := s.queue.filter (· ≠ x) } :=
    ⟨by simp [h.queue], h.notes⟩
  unfold BlockingSurfaces.request
  rw [if_neg (by simp [hfree])]
  unfold BlockingSurfaces.raise
  split
  · split_ifs
    · exact hfiltered
    · exact Idle.slot ⟨hfiltered.queue, hfiltered.notes⟩
  · split_ifs
    · exact Idle.slot ⟨hfiltered.queue, hfiltered.notes⟩
    · exact hfiltered
  · split
    · exact Idle.slot ⟨hfiltered.queue, hfiltered.notes⟩
    · exact hfiltered

theorem Idle.setSurfaceOpen (h : Idle s) : Idle (s.setSurfaceOpen false) := by
  unfold BlockingSurfaces.setSurfaceOpen
  split_ifs
  · exact h
  · exact Idle.slot ⟨h.queue, h.notes⟩

theorem Idle.removeCandidate (h : Idle s) : Idle s.removeCandidate := by
  have hfewer : Idle { s with candidates := s.candidates - 1 } := ⟨h.queue, h.notes⟩
  unfold BlockingSurfaces.removeCandidate
  dsimp only
  split_ifs
  · exact hfewer.setSurfaceOpen
  · exact hfewer

theorem Idle.finish (h : Idle s) : Idle s.finish :=
  ⟨finish_same.2.1.trans h.queue, finish_same.2.2.trans h.notes⟩

/-- Where nothing is up and nothing waits, nothing comes to wait. -/
theorem Idle.step (h : Idle s) (hnone : s.anyUp = false) (hstep : s.step e = some s') : Idle s' := by
  unfold BlockingSurfaces.step at hstep
  cases e with
  | requestRecovery => cases hstep; exact h.request hnone
  | requestCrash =>
      dsimp only at hstep
      split_ifs at hstep
      cases hstep
      exact h.request hnone
  | presentRecordingFailure r => cases hstep; exact Idle.request ⟨h.queue, h.notes⟩ hnone
  | dismissRecovery =>
      cases hstep
      split_ifs
      · exact h
      · exact h.setSurfaceOpen
  | finish => cases hstep; exact h.finish
  | finishComplete success =>
      dsimp only at hstep
      split_ifs at hstep <;> cases hstep
      · exact Idle.removeCandidate ⟨h.queue, h.notes⟩
      · exact ⟨h.queue, h.notes⟩
  | discard success =>
      cases hstep
      split_ifs
      · exact h
      · exact h.removeCandidate
  | continueSession armed =>
      dsimp only at hstep
      split_ifs at hstep <;> cases hstep
      · exact h
      · exact h.setSurfaceOpen.finish
      · exact h.setSurfaceOpen
  | commitCrash =>
      cases hstep
      split_ifs
      · exact Idle.slot ⟨h.queue, h.notes⟩
      · exact h
  | dismissRecordingError =>
      cases hstep
      split_ifs
      · exact Idle.slot ⟨h.queue, h.notes⟩
      · exact h
  | presentPostUpdateWhatsNew notes =>
      cases hstep
      unfold presentPostUpdateWhatsNew
      rw [if_neg (by simp [hnone, h.queue])]
      exact ⟨h.queue, h.notes⟩

/-- Recovery waits for the screen only while there is something to recover. -/
def Offered (s : BlockingSurfaces ρ ν) (_ : SurfaceEvent ρ ν) : Prop :=
  .recovery ∈ s.queue → s.candidates ≠ 0

instance decOffered (s : BlockingSurfaces ρ ν) (e : SurfaceEvent ρ ν) : Decidable (Offered s e) :=
  inferInstanceAs (Decidable (_ → _))

theorem Settled.served_step (h : Settled s) (hidle : s.anyUp = false → Idle s)
    (hoffered : Offered s e) (hstep : s.step e = some s') : s'.anyUp = false → Idle s' := by
  intro hnone
  cases hup : s.anyUp with
  | false => exact (hidle hup).step hup hstep
  | true =>
      -- the surface that was up came down, and nobody was in line
      obtain ⟨x, hx⟩ : ∃ x, s.isUp x = true := by
        by_contra hall
        simp only [not_exists, Bool.not_eq_true] at hall
        rw [anyUp_eq_false.mpr hall] at hup
        cases hup
      have hdown := anyUp_eq_false.mp hnone
      rcases h.step_up hoffered hstep hx with hx' | ⟨-, hover⟩
      · rw [hdown x] at hx'
        cases hx'
      · have hempty : s.queue = [] := by
          cases hq : s.queue with
          | nil => rfl
          | cons next queue =>
              have hnext := (hover.next next).mpr (by rw [hq]; rfl)
              rw [hdown next] at hnext
              cases hnext
        exact ⟨by rw [hover.queue, hempty]; rfl, hover.cleared hempty⟩

/-- The application has started, with what the last session has left. -/
def start (candidates : Nat) (pendingCrash : Bool) : BlockingSurfaces ρ ν where
  candidates := candidates
  pendingCrash := pendingCrash

theorem Settled.start (candidates : Nat) (pendingCrash : Bool) :
    Settled (.start candidates pendingCrash : BlockingSurfaces ρ ν) := by
  refine ⟨⟨?_, .nil, by simp [BlockingSurfaces.start], by simp [BlockingSurfaces.start], rfl,
    by simp [BlockingSurfaces.start]⟩, rfl⟩
  intro y z hy
  cases y <;> cases hy

variable {candidates : Nat} {pendingCrash : Bool} {es : List (SurfaceEvent ρ ν)}

theorem exec_settled (h : exec (.start candidates pendingCrash) es = some s) : Settled s :=
  StepRun.exec_invariant_all (fun _ _ _ hs hstep => hs.step hstep) (.start candidates pendingCrash) h

/-- In every run one surface at most is up, none that is up is also queued, no surface is queued
    twice, and the latch tells whether one is up. The newest failure is the one that was shown last,
    or it is held back, and it is held back exactly while its surface is queued. -/
theorem one_surface_up (h : exec (.start candidates pendingCrash) es = some s) :
    (∀ x y, s.isUp x = true → s.isUp y = true → x = y) ∧ s.queue.Nodup ∧
      (∀ x ∈ s.queue, s.isUp x = false) ∧ s.anyUpBefore = s.anyUp ∧
      s.reported.head? = s.pendingRecordingFailure.or s.report ∧
      (s.pendingRecordingFailure.isSome = true ↔ .recordingError ∈ s.queue) :=
  have hs := exec_settled h
  ⟨hs.exclusive, hs.nodup, hs.waiting, hs.latched, hs.newest, hs.held⟩

theorem one_surface_up_queued :
    ∃ s : BlockingSurfaces Nat Nat, exec (.start 1 true)
        [.requestCrash, .requestRecovery, .presentRecordingFailure 4, .presentRecordingFailure 7] =
      some s ∧ s.queue = [.recovery, .recordingError] ∧ s.queue.Nodup ∧
      s.reported.head? = s.pendingRecordingFailure.or s.report := by
  have h : exec (.start 1 true : BlockingSurfaces Nat Nat)
      [.requestCrash, .requestRecovery, .presentRecordingFailure 4, .presentRecordingFailure 7] =
    some _ := rfl
  exact ⟨_, h, rfl, (one_surface_up h).2.1, (one_surface_up h).2.2.2.2.1⟩

/-- In every run in which recovery waits only while there is something to recover, nothing waits
    for a free screen. A surface that is up comes down by an event of its own alone, and then the
    next in line is up, or, where there is none, the notes that waited have been shown. -/
theorem next_in_line (h : exec (.start candidates pendingCrash) es = some s)
    (hmeets : StepRun.Meets step Offered (.start candidates pendingCrash) es)
    (hoffered : Offered s e) (hstep : s.step e = some s') :
    (s'.anyUp = false → s'.queue = [] ∧ s'.deferredWhatsNewNotes = []) ∧
      ∀ x, s.isUp x = true → s'.isUp x = true ∨ e.closes = some x ∧ TakesOver s s' := by
  have hs : Settled s ∧ (s.anyUp = false → Idle s) :=
    StepRun.exec_invariant (I := fun s => Settled s ∧ (s.anyUp = false → Idle s))
      (fun _ _ _ hs hG hstep => ⟨hs.1.step hstep, hs.1.served_step hs.2 hG hstep⟩)
      ⟨.start candidates pendingCrash, fun _ => ⟨rfl, rfl⟩⟩ hmeets h
  have hidle := hs.1.served_step hs.2 hoffered hstep
  exact ⟨fun hnone => ⟨(hidle hnone).queue, (hidle hnone).notes⟩,
    fun x hx => hs.1.step_up hoffered hstep hx⟩

theorem next_in_line_recovery :
    ∃ s s' : BlockingSurfaces Nat Nat, exec (.start 1 true)
        [.requestCrash, .requestRecovery, .presentRecordingFailure 7] = some s ∧
      s.step .commitCrash = some s' ∧ (s'.isUp .crash = true ∨
        (SurfaceEvent.commitCrash : SurfaceEvent Nat Nat).closes = some .crash ∧ TakesOver s s') := by
  have h : exec (.start 1 true : BlockingSurfaces Nat Nat)
      [.requestCrash, .requestRecovery, .presentRecordingFailure 7] = some _ := rfl
  exact ⟨_, _, h, rfl, (next_in_line h (by decide) (by decide) rfl).2 .crash rfl⟩

-- Without the condition: the repair in the background resolves what recovery waits to offer, and the
-- failure behind it is left waiting for a free screen.
example : (exec (.start 1 true : BlockingSurfaces Nat Nat)
    [.requestRecovery, .continueSession true, .requestCrash, .requestRecovery,
      .presentRecordingFailure 7, .finishComplete true, .commitCrash]).map
    (fun s => (s.anyUp, s.queue)) = some (false, [.recordingError]) := by decide

end BlockingSurfaces

end Exosnap.Surfaces
