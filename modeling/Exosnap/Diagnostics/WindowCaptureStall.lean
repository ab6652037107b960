/-
  The monitor of a capture that stopped producing frames (`WindowCaptureStall.cpp`): its four
  phases, and the contract its signals follow over every run of samples.

  Times are exact rationals. A run pairs each sample with the verdict the caller would give, which
  is applied when the sample starves. What the contract says is said about the history of a run
  alone, newest sample first; `Follows` ties the monitor to it.
-/
import Mathlib.Data.Rat.Defs
import Mathlib.Tactic.Linarith

namespace Exosnap.Diagnostics

def kStallStarveSeconds : Rat := 10

structure WindowStallSample where
  sessionGeneration : Nat := 0
  isWindowTarget : Bool := false
  isDisplayTarget : Bool := false
  captureExpected : Bool := false
  framesCaptured : Nat := 0
  elapsedSeconds : Rat := 0
  deriving DecidableEq

inductive WindowStallSignal where
  | none
  | starved
  | recovered
  deriving DecidableEq

inductive WindowStallVerdict where
  | legitimate
  | unknown
  | stalled
  deriving DecidableEq

inductive StallPhase where
  | healthy
  | awaitingVerdict
  | reported
  | suppressed
  deriving DecidableEq

structure WindowCaptureStallMonitor where
  phase : StallPhase := .healthy
  haveBaseline : Bool := false
  generation : Nat := 0
  baselineFrames : Nat := 0
  baselineElapsed : Rat := 0
  secondsWithoutProgress : Rat := 0
  reportedEpisodes : Nat := 0
  deriving DecidableEq

namespace WindowCaptureStallMonitor

def Reset (_ : WindowCaptureStallMonitor) : WindowCaptureStallMonitor := {}

def rebaseline (m : WindowCaptureStallMonitor) (sample : WindowStallSample) :
    WindowCaptureStallMonitor :=
  { m with
    baselineFrames := sample.framesCaptured, baselineElapsed := sample.elapsedSeconds
    secondsWithoutProgress := 0 }

def Observe (m : WindowCaptureStallMonitor) (sample : WindowStallSample) :
    WindowCaptureStallMonitor × WindowStallSignal :=
  if !m.haveBaseline || sample.sessionGeneration ≠ m.generation then
    ({ m.Reset with
        generation := sample.sessionGeneration, haveBaseline := true
        baselineFrames := sample.framesCaptured, baselineElapsed := sample.elapsedSeconds }, .none)
  else if (!sample.isWindowTarget && !sample.isDisplayTarget) || !sample.captureExpected then
    (m.rebaseline sample, .none)
  else if sample.framesCaptured ≠ m.baselineFrames ∨ sample.elapsedSeconds < m.baselineElapsed then
    ({ m.rebaseline sample with phase := .healthy },
      if m.phase = .reported then .recovered else .none)
  else
    let seconds := sample.elapsedSeconds - m.baselineElapsed
    if m.phase ≠ .healthy ∨ seconds < kStallStarveSeconds then
      ({ m with secondsWithoutProgress := seconds }, .none)
    else ({ m with secondsWithoutProgress := seconds, phase := .awaitingVerdict }, .starved)

/-- `reported_episodes_` is a `uint32_t`. -/
def ApplyVerdict (m : WindowCaptureStallMonitor) (verdict : WindowStallVerdict) :
    WindowCaptureStallMonitor :=
  if m.phase ≠ .awaitingVerdict then m
  else if verdict = .stalled then
    { m with phase := .reported, reportedEpisodes := (m.reportedEpisodes + 1) % 2 ^ 32 }
  else { m with phase := .suppressed }

end WindowCaptureStallMonitor

/-! ## Runs -/

/-- A sample, the signal it got, and the verdict the caller gives if it starved. -/
structure Fed where
  sample : WindowStallSample
  verdict : WindowStallVerdict
  signal : WindowStallSignal
  deriving DecidableEq

/-- The samples of a run, newest first. -/
abbrev History := List Fed

def feed (r : WindowCaptureStallMonitor × History) (o : WindowStallSample × WindowStallVerdict) :
    WindowCaptureStallMonitor × History :=
  let (m, signal) := r.1.Observe o.1
  (if signal = .starved then m.ApplyVerdict o.2 else m, ⟨o.1, o.2, signal⟩ :: r.2)

def feedAll (os : List (WindowStallSample × WindowStallVerdict)) :
    WindowCaptureStallMonitor × History :=
  os.foldl feed ({}, [])

/-! ## What a history says -/

/-- The sample belongs to the session of the one before it. -/
def Continues (sample : WindowStallSample) : History → Prop
  | [] => False
  | y :: _ => sample.sessionGeneration = y.sample.sessionGeneration

instance (sample : WindowStallSample) : (h : History) → Decidable (Continues sample h)
  | [] => inferInstanceAs (Decidable False)
  | _ :: _ => inferInstanceAs (Decidable (_ = _))

/-- Frames are expected of the target. -/
def Expected (sample : WindowStallSample) : Prop :=
  (sample.isWindowTarget = true ∨ sample.isDisplayTarget = true) ∧ sample.captureExpected = true

instance (sample : WindowStallSample) : Decidable (Expected sample) :=
  inferInstanceAs (Decidable (_ ∧ _))

def lastFrames : History → Nat
  | [] => 0
  | y :: _ => y.sample.framesCaptured

/-- When the starve time began: at the newest sample that began the session, was not expected to
    have frames, or showed progress. -/
def since : History → Rat
  | [] => 0
  | x :: h =>
      if Continues x.sample h ∧ Expected x.sample ∧ x.sample.framesCaptured = lastFrames h ∧
          since h ≤ x.sample.elapsedSeconds then since h
      else x.sample.elapsedSeconds

/-- The sample shows new frames, or a clock that went back before the starve time began. -/
def ProgressAfter (sample : WindowStallSample) (h : History) : Prop :=
  Continues sample h ∧ Expected sample ∧
    (sample.framesCaptured ≠ lastFrames h ∨ sample.elapsedSeconds < since h)

instance (sample : WindowStallSample) (h : History) : Decidable (ProgressAfter sample h) :=
  inferInstanceAs (Decidable (_ ∧ _))

/-- The verdict on the last starvation of the session, unless there was progress since. -/
def standing : History → Option WindowStallVerdict
  | [] => none
  | x :: h =>
      if x.signal = .starved then some x.verdict
      else if Continues x.sample h ∧ ¬ ProgressAfter x.sample h then standing h
      else none

/-- The stalls that were reported in the session. -/
def reported : History → Nat
  | [] => 0
  | x :: h =>
      (if Continues x.sample h then reported h else 0) +
        if x.signal = .starved ∧ x.verdict = .stalled then 1 else 0

/-! ## The monitor follows the history -/

def phaseOf : Option WindowStallVerdict → StallPhase
  | none => .healthy
  | some .stalled => .reported
  | some _ => .suppressed

/-- What the monitor holds after a run. -/
structure Follows (m : WindowCaptureStallMonitor) (x : Fed) (h : History) : Prop where
  haveBaseline : m.haveBaseline = true
  generation : m.generation = x.sample.sessionGeneration
  frames : m.baselineFrames = x.sample.framesCaptured
  elapsed : m.baselineElapsed = since (x :: h)
  phase : m.phase = phaseOf (standing (x :: h))
  episodes : m.reportedEpisodes = reported (x :: h) % 2 ^ 32

/-- The signal of a sample, as its history says. -/
def signalAfter (sample : WindowStallSample) (h : History) : WindowStallSignal :=
  if ProgressAfter sample h then
    if standing h = some .stalled then .recovered else .none
  else if Continues sample h ∧ Expected sample ∧ standing h = none ∧
      kStallStarveSeconds ≤ sample.elapsedSeconds - since h then .starved
  else .none

theorem phaseOf_reported (v : Option WindowStallVerdict) :
    phaseOf v = .reported ↔ v = some .stalled := by
  rcases v with _ | v
  · simp [phaseOf]
  · cases v <;> simp [phaseOf]

theorem phaseOf_healthy (v : Option WindowStallVerdict) : phaseOf v = .healthy ↔ v = none := by
  rcases v with _ | v
  · simp [phaseOf]
  · cases v <;> simp [phaseOf]

theorem not_progress_of_not_continues {sample : WindowStallSample} {h : History}
    (hc : ¬ Continues sample h) : ¬ ProgressAfter sample h :=
  fun hp => hc hp.1

theorem not_progress_of_not_expected {sample : WindowStallSample} {h : History}
    (he : ¬ Expected sample) : ¬ ProgressAfter sample h :=
  fun hp => he hp.2.1

/-- A sample that begins a session. -/
theorem follows_begin (m : WindowCaptureStallMonitor) (sample : WindowStallSample)
    (v : WindowStallVerdict) (h : History) (hc : ¬ Continues sample h)
    (hm : (!m.haveBaseline || decide (sample.sessionGeneration ≠ m.generation)) = true) :
    (m.Observe sample).2 = signalAfter sample h ∧
      Follows (m.Observe sample).1 ⟨sample, v, .none⟩ h := by
  have hobs : m.Observe sample = ({ m.Reset with
      generation := sample.sessionGeneration, haveBaseline := true
      baselineFrames := sample.framesCaptured
      baselineElapsed := sample.elapsedSeconds }, .none) := if_pos hm
  rw [hobs]
  have hsignal : signalAfter sample h = .none := by
    simp [signalAfter, not_progress_of_not_continues hc, hc]
  refine ⟨hsignal.symm, rfl, rfl, rfl, ?_, ?_, ?_⟩
  · simp [since, hc]
  · simp [standing, hc, phaseOf, WindowCaptureStallMonitor.Reset]
  · simp [reported, hc, WindowCaptureStallMonitor.Reset]

/-- A sample that finds its session under way. -/
theorem follows_continue {m : WindowCaptureStallMonitor} {y : Fed} {h : History}
    (hf : Follows m y h) (sample : WindowStallSample) (v : WindowStallVerdict)
    (hc : Continues sample (y :: h)) :
    (m.Observe sample).2 = signalAfter sample (y :: h) ∧
      Follows (feed (m, y :: h) (sample, v)).1
        ⟨sample, v, signalAfter sample (y :: h)⟩ (y :: h) := by
  have hgen : ¬ ((!m.haveBaseline ||
      decide (sample.sessionGeneration ≠ m.generation)) = true) := by
    rw [hf.haveBaseline, hf.generation, show sample.sessionGeneration = _ from hc]
    simp
  by_cases he : Expected sample
  · have htarget : ¬ (((!sample.isWindowTarget && !sample.isDisplayTarget) ||
        !sample.captureExpected) = true) := by
      obtain ⟨ht, hx⟩ := he
      rcases ht with ht | ht <;> simp [ht, hx]
    by_cases hp : ProgressAfter sample (y :: h)
    · -- the phase turns healthy, and what was reported is recovered
      have hmoved : sample.framesCaptured ≠ m.baselineFrames ∨
          sample.elapsedSeconds < m.baselineElapsed := by
        rw [hf.frames, hf.elapsed]
        exact hp.2.2
      have hobs : m.Observe sample = ({ m.rebaseline sample with phase := .healthy },
          if m.phase = .reported then .recovered else .none) := by
        rw [WindowCaptureStallMonitor.Observe, if_neg hgen, if_neg htarget, if_pos hmoved]
      have hsignal : (if m.phase = .reported then WindowStallSignal.recovered else .none) =
          signalAfter sample (y :: h) := by
        simp only [signalAfter, if_pos hp, hf.phase, phaseOf_reported]
      have hquiet : signalAfter sample (y :: h) ≠ .starved := by
        rw [← hsignal]
        split <;> simp
      have hsince : since (⟨sample, v, signalAfter sample (y :: h)⟩ :: y :: h) =
          sample.elapsedSeconds := by
        refine if_neg fun hall => ?_
        rcases hp.2.2 with hne | hlt
        · exact hne hall.2.2.1
        · exact absurd hall.2.2.2 (not_le.mpr hlt)
      refine ⟨by rw [hobs]; exact hsignal, ?_⟩
      simp only [feed, hobs, hsignal, if_neg hquiet]
      refine ⟨hf.haveBaseline, hf.generation.trans hc.symm, rfl, hsince.symm, ?_, ?_⟩
      · simp [standing, hquiet, hp, phaseOf]
      · simp [reported, hquiet, hc, hf.episodes,
          show (m.rebaseline sample).reportedEpisodes = m.reportedEpisodes from rfl]
    · have hmoved : ¬ (sample.framesCaptured ≠ m.baselineFrames ∨
          sample.elapsedSeconds < m.baselineElapsed) := by
        rw [hf.frames, hf.elapsed]
        exact fun hm => hp ⟨hc, he, hm⟩
      have hsince : ∀ sig, since (⟨sample, v, sig⟩ :: y :: h) = since (y :: h) := by
        intro sig
        refine if_pos ⟨hc, he, ?_, ?_⟩
        · exact not_not.mp fun hne => hp ⟨hc, he, .inl hne⟩
        · exact not_lt.mp fun hlt => hp ⟨hc, he, .inr hlt⟩
      have hframes : sample.framesCaptured = m.baselineFrames :=
        not_not.mp fun hne => hmoved (.inl hne)
      by_cases hs : standing (y :: h) = none ∧
          kStallStarveSeconds ≤ sample.elapsedSeconds - since (y :: h)
      · -- starved: the verdict decides the phase
        have hopen : ¬ (m.phase ≠ .healthy ∨
            sample.elapsedSeconds - m.baselineElapsed < kStallStarveSeconds) := by
          rw [hf.phase, hf.elapsed, ne_eq, phaseOf_healthy]
          exact fun hor => hor.elim (fun hne => hne hs.1) (not_lt.mpr hs.2)
        have hobs : m.Observe sample = ({ m with
            secondsWithoutProgress := sample.elapsedSeconds - m.baselineElapsed
            phase := .awaitingVerdict }, .starved) := by
          rw [WindowCaptureStallMonitor.Observe, if_neg hgen, if_neg htarget, if_neg hmoved]
          exact if_neg hopen
        have hsignal : signalAfter sample (y :: h) = .starved := by
          rw [signalAfter, if_neg hp, if_pos ⟨hc, he, hs⟩]
        refine ⟨by rw [hobs, hsignal], ?_⟩
        simp only [feed, hobs, hsignal, if_true]
        by_cases hv : v = .stalled
        · subst hv
          refine ⟨hf.haveBaseline, hf.generation.trans hc.symm, hframes.symm,
            hf.elapsed.trans (hsince _).symm, rfl, ?_⟩
          have hepisodes := hf.episodes
          simp only [WindowCaptureStallMonitor.ApplyVerdict, ne_eq, not_true_eq_false, if_false,
            if_true, reported, if_pos hc, and_self]
          rw [hepisodes, reported]
          omega
        · refine ⟨?_, ?_, ?_, ?_, ?_, ?_⟩ <;>
            simp only [WindowCaptureStallMonitor.ApplyVerdict, ne_eq, not_true_eq_false, if_false,
              if_neg hv]
          · exact hf.haveBaseline
          · exact hf.generation.trans hc.symm
          · exact hframes.symm
          · exact hf.elapsed.trans (hsince _).symm
          · cases v <;> simp_all [standing, phaseOf]
          · simp [reported, hc, hv, hf.episodes]
      · have hshut : m.phase ≠ .healthy ∨
            sample.elapsedSeconds - m.baselineElapsed < kStallStarveSeconds := by
          rw [hf.phase, hf.elapsed, ne_eq, phaseOf_healthy]
          by_cases hnone : standing (y :: h) = none
          · exact .inr (not_le.mp fun hle => hs ⟨hnone, hle⟩)
          · exact .inl hnone
        have hobs : m.Observe sample = ({ m with
            secondsWithoutProgress := sample.elapsedSeconds - m.baselineElapsed }, .none) := by
          rw [WindowCaptureStallMonitor.Observe, if_neg hgen, if_neg htarget, if_neg hmoved]
          exact if_pos hshut
        have hsignal : signalAfter sample (y :: h) = .none := by
          rw [signalAfter, if_neg hp, if_neg fun hall => hs hall.2.2]
        refine ⟨by rw [hobs, hsignal], ?_⟩
        simp only [feed, hobs, hsignal]
        refine ⟨hf.haveBaseline, hf.generation.trans hc.symm, hframes.symm,
          hf.elapsed.trans (hsince _).symm, ?_, ?_⟩
        · have hstand : standing (⟨sample, v, .none⟩ :: y :: h) = standing (y :: h) := by
            simp only [standing, reduceCtorEq, if_false]
            exact if_pos ⟨hc, hp⟩
          rw [hstand]
          exact hf.phase
        · simp [reported, hc, hf.episodes]
  · have htarget : ((!sample.isWindowTarget && !sample.isDisplayTarget) ||
        !sample.captureExpected) = true := by
      by_contra hno
      refine he ?_
      simp only [Bool.or_eq_true, Bool.and_eq_true, Bool.not_eq_true', not_or, not_and,
        Bool.not_eq_false] at hno
      refine ⟨?_, hno.2⟩
      by_cases hw : sample.isWindowTarget = true
      · exact .inl hw
      · exact .inr (hno.1 (by simpa using hw))
    have hp : ¬ ProgressAfter sample (y :: h) := not_progress_of_not_expected he
    have hobs : m.Observe sample = (m.rebaseline sample, .none) := by
      rw [WindowCaptureStallMonitor.Observe, if_neg hgen, if_pos htarget]
    have hsignal : signalAfter sample (y :: h) = .none := by
      rw [signalAfter, if_neg hp, if_neg fun hall => he hall.2.1]
    refine ⟨by rw [hobs, hsignal], ?_⟩
    simp only [feed, hobs, hsignal]
    refine ⟨hf.haveBaseline, hf.generation.trans hc.symm, rfl, ?_, ?_, ?_⟩
    · simp [since, he, WindowCaptureStallMonitor.rebaseline]
    · have hstand : standing (⟨sample, v, .none⟩ :: y :: h) = standing (y :: h) := by
        simp only [standing, reduceCtorEq, if_false]
        exact if_pos ⟨hc, hp⟩
      rw [hstand]
      exact hf.phase
    · simp [reported, hc, hf.episodes,
        show (m.rebaseline sample).reportedEpisodes = m.reportedEpisodes from rfl]

/-- Every sample of the history got the signal its history says. -/
def Signalled : History → Prop
  | [] => True
  | x :: h => x.signal = signalAfter x.sample h ∧ Signalled h

theorem Signalled.of_append {later : History} {x : Fed} {h : History}
    (hs : Signalled (later ++ x :: h)) : x.signal = signalAfter x.sample h := by
  induction later with
  | nil => exact hs.1
  | cons y later ih => exact ih hs.2

/-- What holds of the monitor and the history after any run. -/
def Run (r : WindowCaptureStallMonitor × History) : Prop :=
  Signalled r.2 ∧
    match r.2 with
    | [] => r.1 = {}
    | x :: h => Follows r.1 x h

theorem run_feed {r : WindowCaptureStallMonitor × History} (hr : Run r)
    (o : WindowStallSample × WindowStallVerdict) : Run (feed r o) := by
  obtain ⟨m, h⟩ := r
  obtain ⟨sample, v⟩ := o
  obtain ⟨hs, hm⟩ := hr
  by_cases hc : Continues sample h
  · cases h with
    | nil => exact hc.elim
    | cons y h =>
        obtain ⟨hsignal, hf⟩ := follows_continue hm sample v hc
        rw [← hsignal] at hf
        exact ⟨⟨hsignal, hs⟩, hf⟩
  · have hbegin : (!m.haveBaseline || decide (sample.sessionGeneration ≠ m.generation)) = true := by
      cases h with
      | nil =>
          obtain rfl : m = {} := hm
          rfl
      | cons y h =>
          have hf : Follows m y h := hm
          have hne : sample.sessionGeneration ≠ y.sample.sessionGeneration := hc
          simp [hf.generation, hne]
    obtain ⟨hsignal, hf⟩ := follows_begin m sample v h hc hbegin
    have hnone : (m.Observe sample).2 = .none := by
      rw [WindowCaptureStallMonitor.Observe, if_pos hbegin]
    refine ⟨⟨hsignal, hs⟩, ?_⟩
    simpa only [feed, hnone, reduceCtorEq, if_false] using hf

theorem run_feedAll (os : List (WindowStallSample × WindowStallVerdict)) : Run (feedAll os) := by
  have key : ∀ (os : List (WindowStallSample × WindowStallVerdict))
      (r : WindowCaptureStallMonitor × History), Run r → Run (os.foldl feed r) := by
    intro os
    induction os with
    | nil => exact fun r hr => hr
    | cons o os ih => exact fun r hr => ih _ (run_feed hr o)
  exact key os _ ⟨trivial, rfl⟩

/-! ## The contract -/

/-- A starvation with no progress after it in its session still stands. -/
theorem standing_of_no_progress {mid : History} {y : Fed} {rest : History}
    (hy : y.signal = .starved)
    (hgen : ∀ z ∈ mid, z.sample.sessionGeneration = y.sample.sessionGeneration)
    (hno : ∀ m₁ z m₂, mid = m₁ ++ z :: m₂ → ¬ ProgressAfter z.sample (m₂ ++ y :: rest)) :
    standing (mid ++ y :: rest) ≠ none := by
  induction mid with
  | nil => simp [standing, hy]
  | cons x mid ih =>
      have hc : Continues x.sample (mid ++ y :: rest) := by
        have hx := hgen x (by simp)
        cases mid with
        | nil => exact hx
        | cons z mid => exact hx.trans (hgen z (by simp)).symm
      have hold := ih (fun z hz => hgen z (List.mem_cons_of_mem x hz))
        (fun m₁ z m₂ h => hno (x :: m₁) z m₂ (by rw [h]; rfl))
      rw [List.cons_append, standing]
      split
      · simp
      · rw [if_pos ⟨hc, hno [] x mid rfl⟩]
        exact hold

/-- The sample from which the starve time counts, and those after it. -/
theorem since_sample : ∀ {h : History}, h ≠ [] → ∃ mid b rest, h = mid ++ b :: rest ∧
    since h = b.sample.elapsedSeconds ∧ lastFrames h = b.sample.framesCaptured ∧
    ∀ z ∈ mid, z.sample.sessionGeneration = b.sample.sessionGeneration ∧ Expected z.sample ∧
      z.sample.framesCaptured = b.sample.framesCaptured ∧
      b.sample.elapsedSeconds ≤ z.sample.elapsedSeconds
  | [], hne => absurd rfl hne
  | x :: h, _ => by
      by_cases hx : Continues x.sample h ∧ Expected x.sample ∧
          x.sample.framesCaptured = lastFrames h ∧ since h ≤ x.sample.elapsedSeconds
      · have hne : h ≠ [] := by
          rintro rfl
          exact hx.1
        obtain ⟨mid, b, rest, hsplit, hsince, hframes, hmid⟩ := since_sample hne
        have hgen : x.sample.sessionGeneration = b.sample.sessionGeneration := by
          have hc := hx.1
          rw [hsplit] at hc
          cases mid with
          | nil => exact hc
          | cons z mid => exact Eq.trans hc (hmid z (by simp)).1
        have hxframes : x.sample.framesCaptured = b.sample.framesCaptured := hx.2.2.1.trans hframes
        refine ⟨x :: mid, b, rest, by rw [hsplit]; rfl, ?_, hxframes, fun z hz => ?_⟩
        · rw [since, if_pos hx, hsince]
        · rcases List.mem_cons.mp hz with rfl | hz
          · exact ⟨hgen, hx.2.1, hxframes, hsince ▸ hx.2.2.2⟩
          · exact hmid z hz
      · refine ⟨[], x, h, rfl, ?_, rfl, fun z hz => absurd hz (by simp)⟩
        rw [since, if_neg hx]

/-- The contract of the signals of a run and of its count of stalls. -/
structure LatchContract (m : WindowCaptureStallMonitor) (h : History) : Prop where
  /-- Between two starvations of a session there was progress. -/
  separate : ∀ later x mid y rest, h = later ++ x :: (mid ++ y :: rest) →
    x.signal = .starved → y.signal = .starved →
    (∀ z ∈ x :: mid, z.sample.sessionGeneration = y.sample.sessionGeneration) →
    ∃ m₁ z m₂, mid = m₁ ++ z :: m₂ ∧ ProgressAfter z.sample (m₂ ++ y :: rest)
  /-- A recovery is signalled exactly at the first progress after a reported stall. -/
  recovered : ∀ later x earlier, h = later ++ x :: earlier →
    (x.signal = .recovered ↔
      ProgressAfter x.sample earlier ∧ standing earlier = some .stalled)
  /-- A starvation follows on the whole starve time without progress. -/
  starved : ∀ later x earlier, h = later ++ x :: earlier → x.signal = .starved →
    ∃ mid b rest, earlier = mid ++ b :: rest ∧
      (∀ z ∈ x :: mid, z.sample.sessionGeneration = b.sample.sessionGeneration ∧
        Expected z.sample ∧ z.sample.framesCaptured = b.sample.framesCaptured ∧
        b.sample.elapsedSeconds ≤ z.sample.elapsedSeconds) ∧
      kStallStarveSeconds ≤ x.sample.elapsedSeconds - b.sample.elapsedSeconds
  episodes : m.reportedEpisodes = reported h % 2 ^ 32

theorem signalAfter_starved {sample : WindowStallSample} {h : History}
    (hs : signalAfter sample h = .starved) :
    ¬ ProgressAfter sample h ∧ Continues sample h ∧ Expected sample ∧ standing h = none ∧
      kStallStarveSeconds ≤ sample.elapsedSeconds - since h := by
  unfold signalAfter at hs
  split at hs
  · split at hs <;> simp at hs
  · rename_i hp
    split at hs
    · rename_i hall
      exact ⟨hp, hall⟩
    · simp at hs

theorem signalAfter_recovered {sample : WindowStallSample} {h : History} :
    signalAfter sample h = .recovered ↔
      ProgressAfter sample h ∧ standing h = some .stalled := by
  unfold signalAfter
  split
  · rename_i hp
    split
    · rename_i hs
      exact iff_of_true rfl ⟨hp, hs⟩
    · rename_i hs
      exact iff_of_false (by simp) fun h => hs h.2
  · rename_i hp
    refine iff_of_false ?_ fun h => hp h.1
    split <;> simp

theorem latch_contract (os : List (WindowStallSample × WindowStallVerdict)) :
    LatchContract (feedAll os).1 (feedAll os).2 := by
  obtain ⟨hsignalled, hfollows⟩ := run_feedAll os
  generalize feedAll os = r at hsignalled hfollows
  obtain ⟨m, h⟩ := r
  refine ⟨?_, ?_, ?_, ?_⟩
  · rintro later x mid y rest rfl hx hy hgen
    by_contra hno
    rw [hsignalled.of_append] at hx
    refine standing_of_no_progress hy (fun z hz => hgen z (List.mem_cons_of_mem x hz))
      (fun m₁ z m₂ hsplit hp => hno ⟨m₁, z, m₂, hsplit, hp⟩) (signalAfter_starved hx).2.2.2.1
  · rintro later x earlier rfl
    rw [hsignalled.of_append]
    exact signalAfter_recovered
  · rintro later x earlier rfl hx
    rw [hsignalled.of_append] at hx
    obtain ⟨hp, hc, he, -, hlong⟩ := signalAfter_starved hx
    have hne : earlier ≠ [] := by
      rintro rfl
      exact hc
    obtain ⟨mid, b, rest, rfl, hsince, hframes, hmid⟩ := since_sample hne
    have hgen : x.sample.sessionGeneration = b.sample.sessionGeneration := by
      cases mid with
      | nil => exact hc
      | cons z mid => exact Eq.trans hc (hmid z (by simp)).1
    rw [hsince] at hlong
    refine ⟨mid, b, rest, rfl, fun z hz => ?_, hlong⟩
    rcases List.mem_cons.mp hz with rfl | hz
    · refine ⟨hgen, he, ?_, ?_⟩
      · exact hframes ▸ not_not.mp fun hne => hp ⟨hc, he, .inl hne⟩
      · exact hsince ▸ not_lt.mp fun hlt => hp ⟨hc, he, .inr hlt⟩
    · exact hmid z hz
  · cases h with
    | nil =>
        obtain rfl : m = {} := hfollows
        rfl
    | cons x h => exact hfollows.episodes

/-- Two starvations of one session, and not one new frame: the clock went back. -/
theorem starved_again_without_frames :
    ∃ os x mid y rest, (feedAll os).2 = x :: (mid ++ y :: rest) ∧
      x.signal = .starved ∧ y.signal = .starved ∧
      ∀ z ∈ x :: (mid ++ y :: rest), z.sample.sessionGeneration = 1 ∧
        z.sample.framesCaptured = 5 := by
  let at_ (seconds : Rat) : WindowStallSample :=
    { sessionGeneration := 1, isWindowTarget := true, captureExpected := true
      framesCaptured := 5, elapsedSeconds := seconds }
  refine ⟨[(at_ 5, .unknown), (at_ 15, .unknown), (at_ 1, .unknown), (at_ 11, .unknown)],
    ⟨at_ 11, .unknown, .starved⟩, [⟨at_ 1, .unknown, .none⟩], ⟨at_ 15, .unknown, .starved⟩,
    [⟨at_ 5, .unknown, .none⟩], by decide +kernel, rfl, rfl, ?_⟩
  simp [at_]

end Exosnap.Diagnostics
