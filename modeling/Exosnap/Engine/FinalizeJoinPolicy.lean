/-
  The progress-based wait for a finalize (`FinalizeProgressTracker`, `finalize_join_policy.h`).

  The tracker keeps the time of the last growth only. What it decides is stated of all the samples:
  those that mark progress (`Marks`) are the first one and each that is larger than the one right
  before it, and at a sample behind the first the tracker gives up if all of them lie a whole stall
  window back, or the cap has elapsed. The times never decrease, so the last mark is the latest
  (`follows_after`).
-/
import Mathlib.Data.List.Induction

namespace Exosnap.Engine

inductive FinalizeWaitDecision where
  | keepWaiting
  | stalledAbort
  deriving DecidableEq, Repr

structure FinalizeProgressTracker where
  stallWindowMs : Nat
  hardCapMs : Nat := 0
  seeded : Bool := false
  startMs : Nat := 0
  lastProgressMs : Nat := 0
  lastBytes : Nat := 0

namespace FinalizeProgressTracker

def elapsedSince (earlierMs nowMs : Nat) : Nat := if nowMs > earlierMs then nowMs - earlierMs else 0

theorem elapsedSince_eq (earlierMs nowMs : Nat) :
    elapsedSince earlierMs nowMs = nowMs - earlierMs := by
  rw [elapsedSince]
  split <;> omega

def observe (t : FinalizeProgressTracker) (bytesNow nowMs : Nat) :
    FinalizeWaitDecision × FinalizeProgressTracker :=
  if !t.seeded then
    (.keepWaiting, { t with
      seeded := true, startMs := nowMs, lastBytes := bytesNow, lastProgressMs := nowMs })
  else
    let lastProgressMs := if bytesNow > t.lastBytes then nowMs else t.lastProgressMs
    -- a drop rebases as well
    let t := { t with lastProgressMs := lastProgressMs, lastBytes := bytesNow }
    if t.hardCapMs > 0 ∧ elapsedSince t.startMs nowMs ≥ t.hardCapMs then (.stalledAbort, t)
    else if elapsedSince t.lastProgressMs nowMs ≥ t.stallWindowMs then (.stalledAbort, t)
    else (.keepWaiting, t)

/-! ## Samples -/

structure Sample where
  bytes : Nat
  ms : Nat
  deriving DecidableEq, Repr

def after (t : FinalizeProgressTracker) (samples : List Sample) : FinalizeProgressTracker :=
  samples.foldl (fun t s => (t.observe s.bytes s.ms).2) t

/-- The decision at a sample, behind those of `past`. -/
def decision (t : FinalizeProgressTracker) (past : List Sample) (s : Sample) :
    FinalizeWaitDecision :=
  ((t.after past).observe s.bytes s.ms).1

theorem after_concat (t : FinalizeProgressTracker) (past : List Sample) (s : Sample) :
    t.after (past ++ [s]) = ((t.after past).observe s.bytes s.ms).2 := by
  rw [after, List.foldl_append]
  rfl

/-- A sample that is larger than the one right before it. -/
def Growth (samples : List Sample) (x : Sample) : Prop :=
  ∃ before a rest, samples = before ++ a :: x :: rest ∧ a.bytes < x.bytes

/-- The first sample and the growths. -/
def Marks (samples : List Sample) (x : Sample) : Prop :=
  samples.head? = some x ∨ Growth samples x

/-- No growth in a whole stall window up to a sample: there are samples before it, and the marks lie
    a window back. -/
def Stalled (windowMs : Nat) (past : List Sample) (s : Sample) : Prop :=
  past ≠ [] ∧ ∀ x, Marks (past ++ [s]) x → windowMs ≤ s.ms - x.ms

def CapElapsed (capMs : Nat) (past : List Sample) (s : Sample) : Prop :=
  0 < capMs ∧ ∃ first, (past ++ [s]).head? = some first ∧ capMs ≤ s.ms - first.ms

theorem growth_concat {past : List Sample} {last s x : Sample} :
    Growth (past ++ [last] ++ [s]) x ↔
      Growth (past ++ [last]) x ∨ last.bytes < s.bytes ∧ x = s := by
  constructor
  · rintro ⟨before, a, rest, h, hlt⟩
    cases rest using List.reverseRecOn with
    | nil =>
      rw [show before ++ [a, x] = before ++ [a] ++ [x] by simp] at h
      obtain ⟨hpast, hx⟩ := List.append_inj' h rfl
      obtain ⟨-, ha⟩ := List.append_inj' hpast rfl
      rw [List.singleton_inj] at hx ha
      exact .inr ⟨ha ▸ hx ▸ hlt, hx.symm⟩
    | append_singleton rest y _ =>
      rw [show before ++ a :: x :: (rest ++ [y]) = before ++ a :: x :: rest ++ [y] by simp] at h
      exact .inl ⟨before, a, rest, (List.append_inj' h rfl).1, hlt⟩
  · rintro (⟨before, a, rest, h, hlt⟩ | ⟨hlt, rfl⟩)
    · exact ⟨before, a, rest ++ [s], by rw [h]; simp, hlt⟩
    · exact ⟨past, last, [], by simp, hlt⟩

theorem marks_concat {past : List Sample} {last s x : Sample} :
    Marks (past ++ [last] ++ [s]) x ↔
      Marks (past ++ [last]) x ∨ last.bytes < s.bytes ∧ x = s := by
  have hhead : (past ++ [last] ++ [s]).head? = (past ++ [last]).head? := by
    cases past <;> rfl
  rw [Marks, Marks, hhead, growth_concat, or_assoc]

theorem Marks.mem {samples : List Sample} {x : Sample} (h : Marks samples x) : x ∈ samples := by
  rcases h with h | ⟨before, a, rest, rfl, -⟩
  · exact List.mem_of_mem_head? h
  · simp

/-! ## What the tracker keeps -/

/-- The state behind samples the last of which is `last`. -/
structure Follows (t : FinalizeProgressTracker) (samples : List Sample) (last : Sample) : Prop where
  seeded : t.seeded = true
  start : ∃ first, samples.head? = some first ∧ t.startMs = first.ms
  bytes : t.lastBytes = last.bytes
  marked : ∃ x, Marks samples x ∧ t.lastProgressMs = x.ms
  latest : ∀ x, Marks samples x → x.ms ≤ t.lastProgressMs

/-- A tracker in front of its first sample. -/
def new (stallWindowMs hardCapMs : Nat) : FinalizeProgressTracker :=
  { stallWindowMs := stallWindowMs, hardCapMs := hardCapMs }

/-- Behind the first sample a tracker gives up on the cap or on the window, and keeps the time of
    the last growth. -/
theorem observe_seeded {t : FinalizeProgressTracker} (h : t.seeded = true) (bytesNow nowMs : Nat) :
    t.observe bytesNow nowMs =
      (if (t.hardCapMs > 0 ∧ elapsedSince t.startMs nowMs ≥ t.hardCapMs) ∨
          elapsedSince (if bytesNow > t.lastBytes then nowMs else t.lastProgressMs) nowMs ≥
            t.stallWindowMs then .stalledAbort else .keepWaiting,
        { t with
          lastProgressMs := if bytesNow > t.lastBytes then nowMs else t.lastProgressMs
          lastBytes := bytesNow }) := by
  rw [observe, h, if_neg (by decide)]
  dsimp only
  generalize (if bytesNow > t.lastBytes then nowMs else t.lastProgressMs) = progressMs
  by_cases hcap : t.hardCapMs > 0 ∧ elapsedSince t.startMs nowMs ≥ t.hardCapMs
  · rw [if_pos hcap, if_pos (.inl hcap)]
  · rw [if_neg hcap]
    simp only [hcap, false_or]
    split <;> rfl

theorem observe_limits (t : FinalizeProgressTracker) (bytesNow nowMs : Nat) :
    (t.observe bytesNow nowMs).2.stallWindowMs = t.stallWindowMs ∧
      (t.observe bytesNow nowMs).2.hardCapMs = t.hardCapMs := by
  cases h : t.seeded with
  | false => rw [observe, h]; exact ⟨rfl, rfl⟩
  | true => rw [observe_seeded h]; exact ⟨rfl, rfl⟩

theorem after_limits (t : FinalizeProgressTracker) (samples : List Sample) :
    (t.after samples).stallWindowMs = t.stallWindowMs ∧
      (t.after samples).hardCapMs = t.hardCapMs := by
  induction samples using List.reverseRecOn with
  | nil => exact ⟨rfl, rfl⟩
  | append_singleton samples s ih =>
    obtain ⟨hwindow, hcap⟩ := observe_limits (t.after samples) s.bytes s.ms
    rw [after_concat, hwindow, hcap]
    exact ih

/-- One more sample. -/
theorem Follows.observe {t : FinalizeProgressTracker} {past : List Sample} {last s : Sample}
    (h : Follows t (past ++ [last]) last) (hs : ∀ x ∈ past ++ [last], x.ms ≤ s.ms) :
    Follows (t.observe s.bytes s.ms).2 (past ++ [last] ++ [s]) s := by
  obtain ⟨first, hfirst, hstart⟩ := h.start
  obtain ⟨x, hx, hprogress⟩ := h.marked
  have hhead : (past ++ [last] ++ [s]).head? = some first := by
    rw [List.head?_append, hfirst]
    rfl
  rw [observe_seeded h.seeded]
  by_cases hgrows : s.bytes > t.lastBytes
  · rw [if_pos hgrows]
    have hlarger : last.bytes < s.bytes := h.bytes ▸ hgrows
    refine ⟨h.seeded, ⟨first, hhead, hstart⟩, rfl,
      ⟨s, marks_concat.mpr (.inr ⟨hlarger, rfl⟩), rfl⟩, fun y hy => ?_⟩
    rcases marks_concat.mp hy with hy | ⟨-, rfl⟩
    · exact hs y hy.mem
    · exact Nat.le_refl _
  · rw [if_neg hgrows]
    have hsmaller : ¬ last.bytes < s.bytes := h.bytes ▸ hgrows
    refine ⟨h.seeded, ⟨first, hhead, hstart⟩, rfl,
      ⟨x, marks_concat.mpr (.inl hx), hprogress⟩, fun y hy => ?_⟩
    rcases marks_concat.mp hy with hy | ⟨hlarger, -⟩
    · exact h.latest y hy
    · exact absurd hlarger hsmaller

theorem follows_after (stallWindowMs hardCapMs : Nat) (past : List Sample) (last : Sample)
    (hsorted : (past ++ [last]).Pairwise fun a b => a.ms ≤ b.ms) :
    Follows ((new stallWindowMs hardCapMs).after (past ++ [last])) (past ++ [last]) last := by
  induction past using List.reverseRecOn generalizing last with
  | nil =>
    refine ⟨rfl, ⟨last, rfl, rfl⟩, rfl, ⟨last, .inl rfl, rfl⟩, fun x hx => ?_⟩
    rcases List.mem_singleton.mp hx.mem with rfl
    exact Nat.le_refl _
  | append_singleton past s ih =>
    obtain ⟨hpast, -, hlast⟩ := List.pairwise_append.mp hsorted
    rw [after_concat]
    exact (ih s hpast).observe fun x hx => hlast x hx last (List.mem_singleton_self last)

/-- A stall is read off the last mark alone. -/
theorem Follows.stalled_iff {t : FinalizeProgressTracker} {past : List Sample} {s : Sample}
    (h : Follows t (past ++ [s]) s) (windowMs : Nat) :
    Stalled windowMs past s ↔ past ≠ [] ∧ windowMs ≤ s.ms - t.lastProgressMs := by
  refine and_congr_right fun _ => ⟨fun hstalled => ?_, fun hback x hx => ?_⟩
  · obtain ⟨x, hx, hprogress⟩ := h.marked
    rw [hprogress]
    exact hstalled x hx
  · have := h.latest x hx
    omega

theorem Follows.capElapsed_iff {t : FinalizeProgressTracker} {past : List Sample} {s : Sample}
    (h : Follows t (past ++ [s]) s) (capMs : Nat) :
    CapElapsed capMs past s ↔ 0 < capMs ∧ capMs ≤ s.ms - t.startMs := by
  obtain ⟨first, hfirst, hstart⟩ := h.start
  rw [CapElapsed, hfirst, hstart]
  simp

/-- What an observation decides, by the state behind it. -/
theorem observe_decides {t : FinalizeProgressTracker} (h : t.seeded = true) (bytesNow nowMs : Nat) :
    (t.observe bytesNow nowMs).1 = .stalledAbort ↔
      (0 < t.hardCapMs ∧ t.hardCapMs ≤ nowMs - (t.observe bytesNow nowMs).2.startMs) ∨
        t.stallWindowMs ≤ nowMs - (t.observe bytesNow nowMs).2.lastProgressMs := by
  rw [observe_seeded h]
  dsimp only
  rw [elapsedSince_eq, elapsedSince_eq]
  generalize (if bytesNow > t.lastBytes then nowMs else t.lastProgressMs) = progressMs
  split
  case isTrue hreached => exact ⟨fun _ => hreached, fun _ => rfl⟩
  case isFalse hnot => exact ⟨nofun, fun hreached => absurd hreached hnot⟩

/-- In every sequence of samples at times that do not decrease: the tracker gives up at a sample if
    and only if no growth was seen for a whole stall window up to it or the cap has elapsed. So
    where every sample has a mark less than a window back, none is given up before the cap. -/
theorem finalize_wait (stallWindowMs hardCapMs : Nat) (samples : List Sample)
    (hsorted : samples.Pairwise fun a b => a.ms ≤ b.ms) :
    (∀ past s rest, samples = past ++ s :: rest →
      ((new stallWindowMs hardCapMs).decision past s = .stalledAbort ↔
        Stalled stallWindowMs past s ∨ CapElapsed hardCapMs past s)) ∧
      ((∀ past s rest, samples = past ++ s :: rest →
          ∃ x, Marks (past ++ [s]) x ∧ s.ms - x.ms < stallWindowMs) →
        ∀ past s rest, samples = past ++ s :: rest → ¬ CapElapsed hardCapMs past s →
          (new stallWindowMs hardCapMs).decision past s = .keepWaiting) := by
  have hdecides : ∀ past s rest, samples = past ++ s :: rest →
      ((new stallWindowMs hardCapMs).decision past s = .stalledAbort ↔
        Stalled stallWindowMs past s ∨ CapElapsed hardCapMs past s) := by
    rintro past s rest rfl
    have hprefix : (past ++ [s]).Pairwise fun a b => a.ms ≤ b.ms := by
      rw [List.append_cons] at hsorted
      exact (List.pairwise_append.mp hsorted).1
    have hnow := follows_after stallWindowMs hardCapMs past s hprefix
    rw [hnow.stalled_iff, hnow.capElapsed_iff, after_concat]
    cases past using List.reverseRecOn with
    | nil =>
      have hkeeps : (new stallWindowMs hardCapMs).decision [] s = .keepWaiting := rfl
      have hstart : (((new stallWindowMs hardCapMs).after []).observe s.bytes s.ms).2.startMs =
        s.ms := rfl
      rw [hkeeps, hstart]
      refine ⟨nofun, ?_⟩
      rintro (⟨hpast, -⟩ | ⟨hcap, helapsed⟩)
      · exact absurd rfl hpast
      · omega
    | append_singleton past last _ =>
      have hbefore := follows_after stallWindowMs hardCapMs past last
        (List.pairwise_append.mp hprefix).1
      obtain ⟨hwindow, hcap⟩ := after_limits (new stallWindowMs hardCapMs) (past ++ [last])
      have hpast : past ++ [last] ≠ [] :=
        List.append_ne_nil_of_right_ne_nil _ (List.cons_ne_nil _ _)
      rw [decision, observe_decides hbefore.seeded, hwindow, hcap, or_comm]
      exact or_congr_left (and_iff_right hpast).symm
  refine ⟨hdecides, fun hprogress past s rest hsamples hcap => ?_⟩
  cases hdecision : (new stallWindowMs hardCapMs).decision past s with
  | keepWaiting => rfl
  | stalledAbort =>
    obtain ⟨-, hstalled⟩ | helapsed := (hdecides past s rest hsamples).mp hdecision
    · obtain ⟨x, hx, hlate⟩ := hprogress past s rest hsamples
      exact absurd (hstalled x hx) (Nat.not_le.mpr hlate)
    · exact absurd helapsed hcap

/-- A writer that starts over at 0 after 400 ms and grows again at 800 ms is waited for until 1800
    ms. -/
def restarted : List Sample := [⟨900, 0⟩, ⟨0, 400⟩, ⟨10, 800⟩, ⟨10, 1800⟩]

theorem finalize_wait_restarted :
    Stalled 1000 [⟨900, 0⟩, ⟨0, 400⟩, ⟨10, 800⟩] ⟨10, 1800⟩ ∧
      ¬ Stalled 1000 [⟨900, 0⟩, ⟨0, 400⟩] ⟨10, 800⟩ := by
  have hdecides := (finalize_wait 1000 0 restarted (by decide)).1
  refine ⟨?_, fun hstalled => ?_⟩
  · obtain hstalled | hcap :=
      (hdecides [⟨900, 0⟩, ⟨0, 400⟩, ⟨10, 800⟩] ⟨10, 1800⟩ [] rfl).mp (by decide)
    · exact hstalled
    · exact absurd hcap.1 (Nat.lt_irrefl 0)
  · exact absurd ((hdecides [⟨900, 0⟩, ⟨0, 400⟩] ⟨10, 800⟩ [⟨10, 1800⟩] rfl).mpr (.inl hstalled))
      (by decide)

end FinalizeProgressTracker

end Exosnap.Engine
