/-
  Runs of a machine given by a partial step function, and the induction rules the
  developments above it use: an invariant over a run whose steps all meet a condition
  (`exec_invariant`), a preorder that every step moves along (`exec_rel`), and what holds while
  a counter stands still (`exec_while_counter`).

  Nothing here knows what the machine is. A total machine is the case
  `fun s a => some (f s a)`, whose run is the fold (`exec_total`).
-/
import Mathlib.Order.Defs.Unbundled

namespace StepRun

universe u v

variable {σ : Type u} {α : Type v}

/-- The state after the actions, or `none` when one of them is not enabled. -/
def exec (step : σ → α → Option σ) : σ → List α → Option σ
  | s, [] => some s
  | s, a :: as => (step s a).bind fun s' => exec step s' as

/-- Every step of the run meets `G` in the state it starts from. -/
def Meets (step : σ → α → Option σ) (G : σ → α → Prop) : σ → List α → Prop
  | _, [] => True
  | s, a :: as => G s a ∧ ∀ s' ∈ step s a, Meets step G s' as

instance decMeets (step : σ → α → Option σ) (G : σ → α → Prop)
    [hG : ∀ s a, Decidable (G s a)] : (s : σ) → (as : List α) → Decidable (Meets step G s as)
  | _, [] => isTrue trivial
  | s, a :: as =>
      @instDecidableAnd _ _ (hG s a)
        (@Option.decidableForallMem _ _ (fun s' => decMeets step G s' as) (step s a))

section
variable {step : σ → α → Option σ} {G : σ → α → Prop}

@[simp] theorem exec_nil (s : σ) : exec step s [] = some s := rfl

@[simp] theorem exec_cons (s : σ) (a : α) (as : List α) :
    exec step s (a :: as) = (step s a).bind fun s' => exec step s' as := rfl

theorem exec_cons_some {s s' : σ} {a : α} {as : List α} :
    exec step s (a :: as) = some s' ↔ ∃ m, step s a = some m ∧ exec step m as = some s' := by
  rw [exec_cons, Option.bind_eq_some_iff]

theorem exec_append (s : σ) (as bs : List α) :
    exec step s (as ++ bs) = (exec step s as).bind fun m => exec step m bs := by
  induction as generalizing s with
  | nil => rfl
  | cons a as ih =>
      simp only [List.cons_append, exec_cons, Option.bind_assoc]
      exact congrArg _ (funext fun m => ih m)

theorem exec_append_some {s s' : σ} {as bs : List α} :
    exec step s (as ++ bs) = some s' ↔
      ∃ m, exec step s as = some m ∧ exec step m bs = some s' := by
  rw [exec_append, Option.bind_eq_some_iff]

/-- The run of a total machine is the fold of its step function. -/
theorem exec_total (f : σ → α → σ) (s : σ) (as : List α) :
    exec (fun s a => some (f s a)) s as = some (as.foldl f s) := by
  induction as generalizing s with
  | nil => rfl
  | cons a as ih => exact ih (f s a)

theorem Meets.head {s : σ} {a : α} {as : List α} (h : Meets step G s (a :: as)) : G s a := h.1

theorem Meets.tail {s s' : σ} {a : α} {as : List α} (h : Meets step G s (a :: as))
    (hs : step s a = some s') : Meets step G s' as :=
  h.2 s' hs

theorem Meets.mono {G' : σ → α → Prop} (hG : ∀ s a, G s a → G' s a) :
    ∀ {as : List α} {s : σ}, Meets step G s as → Meets step G' s as
  | [], _, _ => trivial
  | _ :: _, _, h => ⟨hG _ _ h.1, fun s' hs => Meets.mono hG (h.2 s' hs)⟩

theorem meets_true (s : σ) (as : List α) : Meets step (fun _ _ => True) s as := by
  induction as generalizing s with
  | nil => trivial
  | cons a as ih => exact ⟨trivial, fun s' _ => ih s'⟩

theorem Meets.snoc {a : α} {as : List α} :
    ∀ {s m : σ}, Meets step G s as → exec step s as = some m → G m a →
      Meets step G s (as ++ [a]) := by
  induction as with
  | nil =>
      intro s m _ he hG
      cases he
      exact ⟨hG, fun _ _ => trivial⟩
  | cons b bs ih =>
      intro s m hM he hG
      obtain ⟨n, hn, hrest⟩ := exec_cons_some.mp he
      refine ⟨hM.head, fun n' hn' => ?_⟩
      obtain rfl : n = n' := Option.some.inj (hn.symm.trans hn')
      exact ih (hM.tail hn) hrest hG

theorem Meets.of_append {as bs : List α} :
    ∀ {s : σ}, Meets step G s (as ++ bs) → Meets step G s as := by
  induction as with
  | nil => intro s _; trivial
  | cons a as ih => exact fun h => ⟨h.1, fun s' hs => ih (h.2 s' hs)⟩

theorem meets_total_cons (f : σ → α → σ) (G : σ → α → Prop) (s : σ) (a : α) (as : List α) :
    Meets (fun s a => some (f s a)) G s (a :: as) ↔
      G s a ∧ Meets (fun s a => some (f s a)) G (f s a) as := by
  simp [Meets]

/-- The condition on a total machine's run, seen from its end. -/
theorem meets_concat (f : σ → α → σ) (G : σ → α → Prop) (a : α) (as : List α) :
    ∀ s : σ, Meets (fun s a => some (f s a)) G s (as ++ [a]) ↔
      Meets (fun s a => some (f s a)) G s as ∧ G (as.foldl f s) a := by
  induction as with
  | nil => intro s; simp [Meets]
  | cons b bs ih => intro s; simp [Meets, ih, and_assoc]

/-- The invariant rule. What every step that meets `G` preserves holds at the end of a run
    whose steps all meet `G`. -/
theorem exec_invariant {I : σ → Prop}
    (hstep : ∀ s a s', I s → G s a → step s a = some s' → I s') {as : List α} :
    ∀ {s s' : σ}, I s → Meets step G s as → exec step s as = some s' → I s' := by
  induction as with
  | nil =>
      intro s s' hI _ he
      cases he
      exact hI
  | cons a as ih =>
      intro s s' hI hM he
      obtain ⟨m, hm, hrest⟩ := exec_cons_some.mp he
      exact ih (hstep s a m hI hM.head hm) (hM.tail hm) hrest

/-- The invariant rule for a run of any steps. -/
theorem exec_invariant_all {I : σ → Prop}
    (hstep : ∀ s a s', I s → step s a = some s' → I s') {as : List α} {s s' : σ} (hI : I s)
    (he : exec step s as = some s') : I s' :=
  exec_invariant (G := fun _ _ => True) (fun s a s' h _ hs => hstep s a s' h hs) hI
    (meets_true s as) he

/-- A preorder that every step moves along relates the two ends of a run. -/
theorem exec_rel {R : σ → σ → Prop} (hrefl : ∀ s, R s s)
    (htrans : ∀ {a b c}, R a b → R b c → R a c)
    (hstep : ∀ s a s', step s a = some s' → R s s') {as : List α} {s s' : σ}
    (he : exec step s as = some s') : R s s' := by
  induction as generalizing s with
  | nil =>
      cases he
      exact hrefl _
  | cons a as ih =>
      obtain ⟨m, hm, hrest⟩ := exec_cons_some.mp he
      exact htrans (hstep s a m hm) (ih hrest)

/-- What the steps preserve while a counter stands still holds at the end of a run that leaves
    the counter where it was. -/
theorem exec_while_counter {count : σ → Nat} {P : σ → Prop}
    (hmono : ∀ s a s', step s a = some s' → count s ≤ count s')
    (hkeep : ∀ s a s', P s → step s a = some s' → count s' = count s → P s') {as : List α} :
    ∀ {s s' : σ}, P s → exec step s as = some s' → count s' = count s → P s' := by
  induction as with
  | nil =>
      intro s s' hP he _
      cases he
      exact hP
  | cons a as ih =>
      intro s s' hP he hcount
      obtain ⟨m, hm, hrest⟩ := exec_cons_some.mp he
      have hfirst := hmono s a m hm
      have hlater := exec_rel (R := fun s s' => count s ≤ count s') (fun _ => Nat.le_refl _)
        Nat.le_trans hmono hrest
      exact ih (hkeep s a m hP hm (by omega)) hrest (by omega)

end

/-- What a step leaves to be seen depends on the step and on what was seen, and so does what a
    run leaves. -/
theorem foldl_view {ρ : Type*} {f : σ → α → σ} {view : σ → ρ}
    (hf : ∀ s t a, view s = view t → view (f s a) = view (f t a)) (as : List α) {s t : σ}
    (h : view s = view t) : view (as.foldl f s) = view (as.foldl f t) := by
  induction as generalizing s t with
  | nil => exact h
  | cons a as ih => exact ih (hf s t a h)

/-- The invariant rule of a total machine. -/
theorem foldl_invariant {f : σ → α → σ} {I : σ → Prop} (hf : ∀ s a, I s → I (f s a))
    (as : List α) {s : σ} (h : I s) : I (as.foldl f s) :=
  exec_invariant_all (fun s a _ hI hs => Option.some.inj hs ▸ hf s a hI) h (exec_total f s as)

end StepRun
