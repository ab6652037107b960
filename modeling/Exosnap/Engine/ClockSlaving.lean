/-
  The control law of A/V clock slaving (`ClockSlavingController`, `clock_slaving.h`), over the
  rationals.

  An update passes five stages, each a function here: the sample is taken in (`measured`), the rate
  reference is set (`referenced`), the rate is read off it (`ratePpm`), the latch is set (`latched`)
  and the command is moved (`evaluate`). Only the last one moves the command, by no more than the
  slew limit over the time since the evaluation before it; the first one has none before it and is
  given the nominal period. Time stamps are 64-bit numbers and their differences are unsigned.
-/
import Mathlib.Algebra.Order.Ring.Rat
import Mathlib.Algebra.Order.Ring.Abs
import Mathlib.Tactic.Linarith
import Mathlib.Tactic.Positivity

namespace Exosnap.Engine

structure ClockSlavingController where
  engaged : Bool := false
  measurementFaulted : Bool := false
  hasFirst : Bool := false
  firstQpcNs : UInt64 := 0
  hasRateReference : Bool := false
  rateReferenceMs : ℚ := 0
  rateReferenceS : ℚ := 0
  hasEval : Bool := false
  lastEvalNs : UInt64 := 0
  ppm : ℚ := 0
  residualMs : ℚ := 0

namespace ClockSlavingController

def kEngageThresholdMs : ℚ := 15
def kControlHorizonS : ℚ := 60
def kMaxPpm : ℚ := 500
def kMaxSlewPpmPerS : ℚ := 125
def kUpdatePeriodS : ℚ := 1
def kMinPpmStep : ℚ := 10
def kImplausibleRateFactor : ℚ := 10
def kImplausibleFloorMs : ℚ := 1000
def kRateEstimateMinS : ℚ := 60
def kRateReferenceAtS : ℚ := 5
def kProjectionHorizonS : ℚ := 600

/-- The unsigned difference of two time stamps, in seconds. -/
def secondsBetween (laterNs earlierNs : UInt64) : ℚ := (laterNs - earlierNs).toNat / 1000000000

def plausibleDriftBoundMs (elapsedS : ℚ) : ℚ :=
  let rateBound := kMaxPpm * kImplausibleRateFactor * elapsedS / 1000
  if rateBound > kImplausibleFloorMs then rateBound else kImplausibleFloorMs

/-- The arguments of an `Update`. -/
structure Observation where
  driftMs : ℚ
  appliedMs : ℚ
  qpcNowNs : UInt64

/-- The residual is taken from every sample; the first one starts the elapsed time. -/
def measured (c : ClockSlavingController) (o : Observation) : ClockSlavingController :=
  let c := { c with residualMs := o.driftMs - o.appliedMs }
  if c.hasFirst then c else { c with hasFirst := true, firstQpcNs := o.qpcNowNs }

def elapsedS (c : ClockSlavingController) (o : Observation) : ℚ :=
  secondsBetween o.qpcNowNs c.firstQpcNs

/-- Whether a sample behind `measured` is more than two clocks can have drifted apart. -/
def BeyondBound (c : ClockSlavingController) (o : Observation) : Prop :=
  |o.driftMs| > plausibleDriftBoundMs (c.elapsedS o)

instance (c : ClockSlavingController) (o : Observation) : Decidable (c.BeyondBound o) :=
  inferInstanceAs (Decidable (_ > _))

def referenced (c : ClockSlavingController) (o : Observation) : ClockSlavingController :=
  if !c.hasRateReference ∧ c.elapsedS o ≥ kRateReferenceAtS then
    { c with
      hasRateReference := true, rateReferenceMs := o.driftMs, rateReferenceS := c.elapsedS o }
  else c

def ratePpm (c : ClockSlavingController) (o : Observation) : ℚ :=
  if c.hasRateReference then
    let spanS := c.elapsedS o - c.rateReferenceS
    if spanS ≥ kRateEstimateMinS then (o.driftMs - c.rateReferenceMs) * 1000 / spanS else 0
  else 0

/-- Once engaged, always engaged. -/
def latched (c : ClockSlavingController) (o : Observation) : ClockSlavingController :=
  if !c.engaged ∧ (|o.driftMs| > kEngageThresholdMs ∨
      |c.ratePpm o| * kProjectionHorizonS / 1000 > kEngageThresholdMs) then
    { c with engaged := true }
  else c

/-- The step an evaluation is given, if one is due: the nominal period for the first. -/
def dueStep (c : ClockSlavingController) (nowNs : UInt64) : Option ℚ :=
  if !c.hasEval then some kUpdatePeriodS
  else if secondsBetween nowNs c.lastEvalNs < kUpdatePeriodS then none
  else some (secondsBetween nowNs c.lastEvalNs)

def clampTo (bound x : ℚ) : ℚ := if x > bound then bound else if x < -bound then -bound else x

def pTarget (c : ClockSlavingController) (ratePpm : ℚ) : ℚ :=
  clampTo kMaxPpm (ratePpm + c.residualMs / kControlHorizonS * 1000)

/-- The move to the target that the slew limit allows, unless it is too small to be made. -/
def nudge (c : ClockSlavingController) (target dtS : ℚ) : Bool × ClockSlavingController :=
  let delta := clampTo (kMaxSlewPpmPerS * dtS) (target - c.ppm)
  let pNext := c.ppm + delta
  if |pNext - c.ppm| < kMinPpmStep then (false, c) else (true, { c with ppm := pNext })

def evaluate (c : ClockSlavingController) (ratePpm : ℚ) (nowNs : UInt64) :
    Bool × ClockSlavingController :=
  match c.dueStep nowNs with
  | none => (false, c)
  | some dtS =>
      let c := { c with hasEval := true, lastEvalNs := nowNs }
      c.nudge (c.pTarget ratePpm) dtS

def update (c : ClockSlavingController) (o : Observation) : Bool × ClockSlavingController :=
  let c := c.measured o
  if c.BeyondBound o then (false, { c with measurementFaulted := true })
  else
    let c := c.referenced o
    let c' := c.latched o
    if !c'.engaged then (false, c') else c'.evaluate (c.ratePpm o) o.qpcNowNs

/-! ## One update -/

theorem clampTo_abs {bound : ℚ} (h : 0 ≤ bound) (x : ℚ) : |clampTo bound x| ≤ bound := by
  rw [clampTo, abs_le]
  split_ifs <;> constructor <;> linarith

/-- A clamped move ends between where it starts and where it is to end. -/
theorem clampTo_between {bound limit p target : ℚ} (h : 0 ≤ bound) (hp : |p| ≤ limit)
    (htarget : |target| ≤ limit) : |p + clampTo bound (target - p)| ≤ limit := by
  rw [abs_le] at hp htarget ⊢
  rw [clampTo]
  split_ifs <;> constructor <;> linarith

theorem secondsBetween_nonneg (laterNs earlierNs : UInt64) :
    0 ≤ secondsBetween laterNs earlierNs := by
  rw [secondsBetween]
  positivity

theorem dueStep_nonneg {c : ClockSlavingController} {nowNs : UInt64} {dtS : ℚ}
    (h : c.dueStep nowNs = some dtS) : 0 ≤ dtS := by
  rw [dueStep] at h
  split_ifs at h with hfirst hsoon
  · exact Option.some.inj h ▸ zero_le_one
  · exact Option.some.inj h ▸ secondsBetween_nonneg _ _

/-- The state that the latch leaves behind a plausible sample. -/
def prepared (c : ClockSlavingController) (o : Observation) : ClockSlavingController :=
  ((c.measured o).referenced o).latched o

/-- The update reaches an evaluation. -/
def Evaluates (c : ClockSlavingController) (o : Observation) : Prop :=
  ¬ (c.measured o).BeyondBound o ∧ (c.prepared o).engaged = true ∧
    ((c.prepared o).dueStep o.qpcNowNs).isSome = true

instance (c : ClockSlavingController) (o : Observation) : Decidable (c.Evaluates o) :=
  inferInstanceAs (Decidable (_ ∧ _))

/-- The stages in front of an evaluation leave the command and the stamp of the last one. -/
theorem prepared_frame (c : ClockSlavingController) (o : Observation) :
    (c.prepared o).ppm = c.ppm ∧ (c.prepared o).hasEval = c.hasEval ∧
      (c.prepared o).lastEvalNs = c.lastEvalNs ∧
      (c.engaged = true → (c.prepared o).engaged = true) := by
  rw [prepared, latched, referenced, measured]
  split_ifs <;> exact ⟨rfl, rfl, rfl, fun h => by first | exact h | rfl⟩

theorem measured_hasFirst (c : ClockSlavingController) (o : Observation) :
    (c.measured o).hasFirst = true := by
  rw [measured]
  split_ifs with h
  · exact h
  · rfl

theorem prepared_hasFirst (c : ClockSlavingController) (o : Observation) :
    (c.prepared o).hasFirst = true := by
  rw [prepared, latched, referenced]
  split_ifs <;> exact measured_hasFirst c o

theorem measured_frame (c : ClockSlavingController) (o : Observation) :
    (c.measured o).ppm = c.ppm ∧ (c.measured o).hasEval = c.hasEval ∧
      (c.measured o).lastEvalNs = c.lastEvalNs ∧ (c.measured o).engaged = c.engaged := by
  rw [measured]
  split_ifs <;> exact ⟨rfl, rfl, rfl, rfl⟩

theorem update_of_beyond {c : ClockSlavingController} {o : Observation}
    (h : (c.measured o).BeyondBound o) :
    c.update o = (false, { c.measured o with measurementFaulted := true }) := by
  rw [update]
  exact if_pos h

/-- The step of the evaluation that comes next. -/
def stepFrom (last : Option UInt64) (nowNs : UInt64) : ℚ :=
  match last with
  | none => kUpdatePeriodS
  | some lastNs => secondsBetween nowNs lastNs

def lastEvaluation (c : ClockSlavingController) : Option UInt64 :=
  if c.hasEval then some c.lastEvalNs else none

theorem stepFrom_nonneg (last : Option UInt64) (nowNs : UInt64) : 0 ≤ stepFrom last nowNs := by
  cases last with
  | none => exact zero_le_one
  | some lastNs => exact secondsBetween_nonneg nowNs lastNs

theorem dueStep_eq {c : ClockSlavingController} {nowNs : UInt64} {dtS : ℚ}
    (h : c.dueStep nowNs = some dtS) : dtS = stepFrom c.lastEvaluation nowNs := by
  rw [dueStep] at h
  rw [lastEvaluation]
  cases hfirst : c.hasEval with
  | false =>
    rw [hfirst, if_pos (by decide)] at h
    exact (Option.some.inj h).symm
  | true =>
    rw [hfirst, if_neg (by decide)] at h
    split_ifs at h
    exact (Option.some.inj h).symm

theorem update_of_not_evaluates {c : ClockSlavingController} {o : Observation}
    (h : ¬ c.Evaluates o) :
    (c.update o).2.ppm = c.ppm ∧ (c.update o).2.lastEvaluation = c.lastEvaluation ∧
      (c.engaged = true → (c.update o).2.engaged = true) ∧ (c.update o).2.hasFirst = true := by
  by_cases hbeyond : (c.measured o).BeyondBound o
  · obtain ⟨hppm, hhas, hlast, hengaged⟩ := measured_frame c o
    rw [update_of_beyond hbeyond]
    exact ⟨hppm, by rw [lastEvaluation, lastEvaluation, hhas, hlast], fun h => hengaged.trans h,
      measured_hasFirst c o⟩
  · obtain ⟨hppm, hhas, hlast, hengaged⟩ := prepared_frame c o
    have hsame : (c.update o).2 = c.prepared o := by
      rw [update]
      dsimp only
      rw [if_neg hbeyond]
      split_ifs with hlatched
      · rfl
      · have hnone : (c.prepared o).dueStep o.qpcNowNs = none := by
          rw [Option.eq_none_iff_forall_ne_some]
          intro dtS hdue
          refine h ⟨hbeyond, ?_, by rw [hdue]; rfl⟩
          simpa [prepared] using hlatched
        rw [prepared] at hnone
        rw [evaluate, hnone]
        rfl
    rw [hsame]
    exact ⟨hppm, by rw [lastEvaluation, lastEvaluation, hhas, hlast], hengaged,
      prepared_hasFirst c o⟩

theorem nudge_frame (c : ClockSlavingController) (target dtS : ℚ) :
    (c.nudge target dtS).2.lastEvaluation = c.lastEvaluation ∧
      (c.nudge target dtS).2.engaged = c.engaged ∧
      (c.nudge target dtS).2.hasFirst = c.hasFirst := by
  rw [nudge]
  split_ifs <;> exact ⟨rfl, rfl, rfl⟩

theorem nudge_bounds {c : ClockSlavingController} {target dtS : ℚ}
    (hslew : 0 ≤ kMaxSlewPpmPerS * dtS) (hcap : |c.ppm| ≤ kMaxPpm) (htarget : |target| ≤ kMaxPpm) :
    |(c.nudge target dtS).2.ppm| ≤ kMaxPpm ∧
      |(c.nudge target dtS).2.ppm - c.ppm| ≤ kMaxSlewPpmPerS * dtS := by
  rw [nudge]
  split_ifs
  · exact ⟨hcap, by rw [sub_self, abs_zero]; exact hslew⟩
  · refine ⟨clampTo_between hslew hcap htarget, ?_⟩
    rw [add_sub_cancel_left]
    exact clampTo_abs hslew _

theorem pTarget_abs (c : ClockSlavingController) (ratePpm : ℚ) : |c.pTarget ratePpm| ≤ kMaxPpm :=
  clampTo_abs (by rw [kMaxPpm]; norm_num) _

/-- The state that an evaluation moves. -/
def stamped (c : ClockSlavingController) (o : Observation) : ClockSlavingController :=
  { c.prepared o with hasEval := true, lastEvalNs := o.qpcNowNs }

/-- An evaluation is a move towards a target within the cap, over the step that is due. -/
theorem update_of_evaluates {c : ClockSlavingController} {o : Observation} (h : c.Evaluates o) :
    ∃ target, |target| ≤ kMaxPpm ∧ (c.stamped o).ppm = c.ppm ∧ (c.stamped o).engaged = true ∧
      c.update o = (c.stamped o).nudge target (stepFrom c.lastEvaluation o.qpcNowNs) := by
  obtain ⟨hwithin, hengaged, hdue⟩ := h
  obtain ⟨dtS, hdtS⟩ := Option.isSome_iff_exists.mp hdue
  obtain ⟨hppm, hhas, hlast, -⟩ := prepared_frame c o
  have hstep : stepFrom c.lastEvaluation o.qpcNowNs = dtS := by
    rw [dueStep_eq hdtS, lastEvaluation, lastEvaluation, hhas, hlast]
  refine ⟨_, pTarget_abs (c.stamped o) (((c.measured o).referenced o).ratePpm o), hppm, hengaged,
    ?_⟩
  rw [update, hstep]
  dsimp only
  rw [if_neg hwithin, if_neg (by simpa [prepared] using hengaged)]
  rw [prepared] at hdtS
  rw [evaluate, hdtS]
  rfl

theorem update_slew {c : ClockSlavingController} {o : Observation} (h : c.Evaluates o)
    (hcap : |c.ppm| ≤ kMaxPpm) :
    |(c.update o).2.ppm| ≤ kMaxPpm ∧
      |(c.update o).2.ppm - c.ppm| ≤
        kMaxSlewPpmPerS * stepFrom c.lastEvaluation o.qpcNowNs := by
  obtain ⟨target, htarget, hppm, -, hupdate⟩ := update_of_evaluates h
  have hslew : 0 ≤ kMaxSlewPpmPerS * stepFrom c.lastEvaluation o.qpcNowNs :=
    mul_nonneg (by rw [kMaxSlewPpmPerS]; norm_num) (stepFrom_nonneg _ _)
  rw [hupdate, ← hppm]
  exact nudge_bounds hslew (hppm.symm ▸ hcap) htarget

theorem update_cap {c : ClockSlavingController} (h : |c.ppm| ≤ kMaxPpm) (o : Observation) :
    |(c.update o).2.ppm| ≤ kMaxPpm := by
  by_cases heval : c.Evaluates o
  · exact (update_slew heval h).1
  · rw [(update_of_not_evaluates heval).1]
    exact h

theorem update_engaged {c : ClockSlavingController} (h : c.engaged = true) (o : Observation) :
    (c.update o).2.engaged = true := by
  by_cases heval : c.Evaluates o
  · obtain ⟨target, -, -, hengaged, hupdate⟩ := update_of_evaluates heval
    rw [hupdate, (nudge_frame ..).2.1]
    exact hengaged
  · exact (update_of_not_evaluates heval).2.2.1 h

theorem update_lastEvaluation (c : ClockSlavingController) (o : Observation) :
    (c.update o).2.lastEvaluation =
      if c.Evaluates o then some o.qpcNowNs else c.lastEvaluation := by
  by_cases heval : c.Evaluates o
  · obtain ⟨target, -, -, -, hupdate⟩ := update_of_evaluates heval
    rw [if_pos heval, hupdate, (nudge_frame ..).1]
    rfl
  · rw [if_neg heval]
    exact (update_of_not_evaluates heval).2.1

/-! ## What a command is computed from -/

def unfaulted (c : ClockSlavingController) : ClockSlavingController :=
  { c with measurementFaulted := false }

/-- The state without what no later command depends on. -/
def command (c : ClockSlavingController) : ClockSlavingController :=
  { c.unfaulted with residualMs := 0 }

theorem measured_command (c : ClockSlavingController) (o : Observation) :
    c.command.measured o = (c.measured o).unfaulted := by
  obtain ⟨_, _, hasFirst, _, _, _, _, _, _, _, _⟩ := c
  cases hasFirst <;> rfl

theorem referenced_unfaulted (c : ClockSlavingController) (o : Observation) :
    c.unfaulted.referenced o = (c.referenced o).unfaulted := by
  by_cases h : !c.hasRateReference ∧ c.elapsedS o ≥ kRateReferenceAtS
  · have h' : !c.unfaulted.hasRateReference ∧ c.unfaulted.elapsedS o ≥ kRateReferenceAtS := h
    rw [referenced, referenced, if_pos h, if_pos h']
    rfl
  · have h' : ¬ (!c.unfaulted.hasRateReference ∧ c.unfaulted.elapsedS o ≥ kRateReferenceAtS) := h
    rw [referenced, referenced, if_neg h, if_neg h']

theorem latched_unfaulted (c : ClockSlavingController) (o : Observation) :
    c.unfaulted.latched o = (c.latched o).unfaulted := by
  by_cases h : !c.engaged ∧ (|o.driftMs| > kEngageThresholdMs ∨
      |c.ratePpm o| * kProjectionHorizonS / 1000 > kEngageThresholdMs)
  · have h' : !c.unfaulted.engaged ∧ (|o.driftMs| > kEngageThresholdMs ∨
      |c.unfaulted.ratePpm o| * kProjectionHorizonS / 1000 > kEngageThresholdMs) := h
    rw [latched, latched, if_pos h, if_pos h']
    rfl
  · have h' : ¬ (!c.unfaulted.engaged ∧ (|o.driftMs| > kEngageThresholdMs ∨
      |c.unfaulted.ratePpm o| * kProjectionHorizonS / 1000 > kEngageThresholdMs)) := h
    rw [latched, latched, if_neg h, if_neg h']

theorem nudge_unfaulted (c : ClockSlavingController) (target dtS : ℚ) :
    c.unfaulted.nudge target dtS =
      ((c.nudge target dtS).1, (c.nudge target dtS).2.unfaulted) := by
  have hppm : c.unfaulted.ppm = c.ppm := rfl
  rw [nudge, nudge, hppm]
  split_ifs <;> rfl

theorem evaluate_unfaulted (c : ClockSlavingController) (ratePpm : ℚ) (nowNs : UInt64) :
    c.unfaulted.evaluate ratePpm nowNs =
      ((c.evaluate ratePpm nowNs).1, (c.evaluate ratePpm nowNs).2.unfaulted) := by
  rw [evaluate, evaluate, show c.unfaulted.dueStep nowNs = c.dueStep nowNs from rfl]
  cases c.dueStep nowNs with
  | none => rfl
  | some dtS => exact nudge_unfaulted { c with hasEval := true, lastEvalNs := nowNs } _ dtS

theorem update_command (c : ClockSlavingController) (o : Observation) :
    (c.command.update o).1 = (c.update o).1 ∧
      (c.command.update o).2.command = (c.update o).2.command := by
  rw [update, update, measured_command]
  dsimp only
  by_cases hbeyond : (c.measured o).BeyondBound o
  · have hbeyond' : (c.measured o).unfaulted.BeyondBound o := hbeyond
    rw [if_pos hbeyond, if_pos hbeyond']
    exact ⟨rfl, rfl⟩
  · have hwithin' : ¬ (c.measured o).unfaulted.BeyondBound o := hbeyond
    rw [if_neg hbeyond, if_neg hwithin', referenced_unfaulted, latched_unfaulted]
    generalize (c.measured o).referenced o = d
    by_cases hlatched : (d.latched o).engaged = true
    · rw [if_neg (by simp [unfaulted, hlatched]), if_neg (by simp [hlatched]), evaluate_unfaulted]
      exact ⟨rfl, rfl⟩
    · rw [if_pos (by simpa [unfaulted] using hlatched), if_pos (by simpa using hlatched)]
      exact ⟨rfl, rfl⟩

/-- States that give the same commands do so behind an update. -/
theorem update_congr {c d : ClockSlavingController} (h : c.command = d.command) (o : Observation) :
    (c.update o).1 = (d.update o).1 ∧ (c.update o).2.command = (d.update o).2.command := by
  obtain ⟨hreturn, hstate⟩ := update_command c o
  obtain ⟨hreturn', hstate'⟩ := update_command d o
  rw [h] at hreturn hstate
  exact ⟨hreturn.symm.trans hreturn', hstate.symm.trans hstate'⟩

/-- An implausible sample behind another one changes nothing that a command is computed from. -/
theorem update_beyond_command {c : ClockSlavingController} {o : Observation}
    (hfirst : c.hasFirst = true) (h : (c.measured o).BeyondBound o) :
    (c.update o).2.command = c.command := by
  rw [update_of_beyond h, measured]
  dsimp only
  rw [if_pos hfirst]
  rfl

/-! ## Runs -/

/-- A call on the controller of a track; `reset` puts a new one in its place. -/
inductive Call where
  | update (o : Observation)
  | reset

def call (c : ClockSlavingController) : Call → ClockSlavingController
  | .update o => (c.update o).2
  | .reset => {}

def runFrom (c : ClockSlavingController) (calls : List Call) : ClockSlavingController :=
  calls.foldl call c

def run (calls : List Call) : ClockSlavingController := runFrom {} calls

/-- The time stamp of the last evaluation behind the last reset. -/
def lastStamp (c : ClockSlavingController) (last : Option UInt64) : List Call → Option UInt64
  | [] => last
  | .reset :: calls => lastStamp {} none calls
  | .update o :: calls =>
      lastStamp (c.update o).2 (if c.Evaluates o then some o.qpcNowNs else last) calls

theorem runFrom_append (c : ClockSlavingController) (before after : List Call) :
    c.runFrom (before ++ after) = (c.runFrom before).runFrom after := List.foldl_append

theorem cap_start : |({} : ClockSlavingController).ppm| ≤ kMaxPpm := by
  rw [abs_zero, kMaxPpm]
  norm_num

theorem runFrom_cap {c : ClockSlavingController} (h : |c.ppm| ≤ kMaxPpm) (calls : List Call) :
    |(c.runFrom calls).ppm| ≤ kMaxPpm := by
  induction calls generalizing c with
  | nil => exact h
  | cons a calls ih =>
    cases a with
    | update o => exact ih (update_cap h o)
    | reset => exact ih cap_start

theorem runFrom_lastEvaluation (c : ClockSlavingController) (calls : List Call) :
    (c.runFrom calls).lastEvaluation = lastStamp c c.lastEvaluation calls := by
  induction calls generalizing c with
  | nil => rfl
  | cons a calls ih =>
    cases a with
    | update o =>
      rw [lastStamp, ← update_lastEvaluation]
      exact ih (c.update o).2
    | reset => exact ih {}

theorem runFrom_congr {c d : ClockSlavingController} (h : c.command = d.command)
    (calls : List Call) : (c.runFrom calls).command = (d.runFrom calls).command := by
  induction calls generalizing c d with
  | nil => exact h
  | cons a calls ih =>
    cases a with
    | update o => exact ih (update_congr h o).2
    | reset => exact ih rfl

theorem runFrom_engaged {c : ClockSlavingController} (h : c.engaged = true)
    (samples : List Observation) : (c.runFrom (samples.map .update)).engaged = true := by
  induction samples generalizing c with
  | nil => exact h
  | cons o samples ih => exact ih (update_engaged h o)

theorem update_hasFirst (c : ClockSlavingController) (o : Observation) :
    (c.update o).2.hasFirst = true := by
  by_cases heval : c.Evaluates o
  · obtain ⟨target, -, -, -, hupdate⟩ := update_of_evaluates heval
    rw [hupdate, (nudge_frame ..).2.2]
    exact prepared_hasFirst c o
  · exact (update_of_not_evaluates heval).2.2.2

theorem run_hasFirst {before : List Call} {last : Observation}
    (h : before.getLast? = some (.update last)) : (run before).hasFirst = true := by
  obtain ⟨front, rfl⟩ := List.getLast?_eq_some_iff.mp h
  rw [run, runFrom_append]
  exact update_hasFirst _ last

/-- A drift of 20 ms ten milliseconds behind a first sample without one. -/
def suddenDrift : Observation := { driftMs := 20, appliedMs := 0, qpcNowNs := 10000000 }

def quietSample : Observation := { driftMs := 0, appliedMs := 0, qpcNowNs := 0 }

end ClockSlavingController

end Exosnap.Engine
