/-
  Two runs of one machine, compared step by step.

  `foldl_related` is the rule for two runs on inputs that are alike: a relation kept by two steps
  on alike inputs relates the ends. `foldl_zipIdx_congr` is the case where the machine does not
  tell the inputs apart, for inputs that are numbered. Nothing here knows what the machine is.
-/
import Exosnap.Lib.StepRun
import Mathlib.Data.List.Forall2

namespace StepRun

universe u v

variable {σ : Type u} {α : Type v}

/-- Folds over two numbered lists whose entries every step treats alike. -/
theorem foldl_zipIdx_congr {f : σ → α × Nat → σ} {I : σ → Prop} {P : Nat → α → α → Prop}
    (hkeep : ∀ s x, I s → I (f s x))
    (hstep : ∀ s a b i, I s → P i a b → f s (a, i) = f s (b, i)) {as : List α} :
    ∀ {bs : List α} (n : Nat) {s : σ}, I s → as.length = bs.length →
      (∀ i a b, as[i]? = some a → bs[i]? = some b → P (n + i) a b) →
      (as.zipIdx n).foldl f s = (bs.zipIdx n).foldl f s := by
  induction as with
  | nil =>
      intro bs n s _ hlen _
      rw [List.eq_nil_of_length_eq_zero hlen.symm]
  | cons a as ih =>
      intro bs n s hI hlen hP
      obtain ⟨b, bs, rfl⟩ := List.exists_cons_of_length_eq_add_one hlen.symm
      have hfirst : f s (a, n) = f s (b, n) := hstep s a b n hI (hP 0 a b rfl rfl)
      have hrest : ∀ i x y, as[i]? = some x → bs[i]? = some y → P (n + 1 + i) x y := by
        intro i x y hx hy
        have := hP (i + 1) x y (by simpa using hx) (by simpa using hy)
        rwa [show n + (i + 1) = n + 1 + i by omega] at this
      rw [List.zipIdx_cons, List.zipIdx_cons, List.foldl_cons, List.foldl_cons, ← hfirst]
      exact ih (n + 1) (hkeep _ _ hI) (Nat.succ.inj hlen) hrest

/-- The two-run rule of a total machine. A relation that two steps of one kind keep, where the
    first run meets `G`, relates the ends of the runs. -/
theorem foldl_related {f : σ → α → σ} {G : σ → α → Prop} {R : σ → σ → Prop}
    {S : α → α → Prop} (hstep : ∀ s t a b, R s t → G s a → S a b → R (f s a) (f t b))
    {as bs : List α} (hS : List.Forall₂ S as bs) :
    ∀ {s t : σ}, R s t → Meets (fun s a => some (f s a)) G s as →
      R (as.foldl f s) (bs.foldl f t) := by
  induction hS with
  | nil => exact fun h _ => h
  | cons hab _ ih => exact fun h hM => ih (hstep _ _ _ _ h hM.head hab) (hM.tail rfl)

end StepRun
