/-
  Computations that may raise: what a sequence, a fold or a map that raises nothing has computed, and
  when nothing is raised.
-/
import Mathlib.Tactic.Common

namespace Exosnap.Excepts

variable {ε α β σ : Type}

theorem bind_ok_iff {x : Except ε α} {f : α → Except ε β} {b : β} :
    (x >>= f) = .ok b ↔ ∃ a, x = .ok a ∧ f a = .ok b := by
  cases x with
  | error e => exact ⟨nofun, fun ⟨_, h, _⟩ => absurd h nofun⟩
  | ok a => exact ⟨fun h => ⟨a, rfl, h⟩, fun ⟨_, h, hf⟩ => Except.ok.inj h ▸ hf⟩

theorem ok_bind (a : α) (f : α → Except ε β) : (Except.ok a >>= f) = f a := rfl

/-- A map that raises nothing is the map of what every element gives. -/
theorem mapM_eq_map {f : α → Except ε β} {g : α → β} (hg : ∀ {a b}, f a = .ok b → b = g a)
    {l : List α} {out : List β} (h : l.mapM f = .ok out) : out = l.map g := by
  induction l generalizing out with
  | nil => exact (Except.ok.inj h).symm
  | cons a l ih =>
      rw [List.mapM_cons] at h
      obtain ⟨b, hb, h⟩ := bind_ok_iff.mp h
      obtain ⟨rest, hrest, h⟩ := bind_ok_iff.mp h
      obtain rfl := Except.ok.inj h
      rw [List.map_cons, hg hb, ih hrest]

theorem exists_mapM_ok {f : α → Except ε β} {l : List α} (h : ∀ a ∈ l, ∃ b, f a = .ok b) :
    ∃ out, l.mapM f = .ok out := by
  induction l with
  | nil => exact ⟨[], rfl⟩
  | cons a l ih =>
      obtain ⟨b, hb⟩ := h a List.mem_cons_self
      obtain ⟨out, hout⟩ := ih fun a ha => h a (List.mem_cons_of_mem _ ha)
      exact ⟨b :: out, by rw [List.mapM_cons, hb, ok_bind, hout]; rfl⟩

/-- A fold that raises nothing is the fold of what every step gives. -/
theorem foldlM_eq_foldl {f : σ → α → Except ε σ} {g : σ → α → σ}
    (hg : ∀ {s a t}, f s a = .ok t → t = g s a) {l : List α} {s out : σ}
    (h : l.foldlM f s = .ok out) : out = l.foldl g s := by
  induction l generalizing s with
  | nil => exact (Except.ok.inj h).symm
  | cons a l ih =>
      rw [List.foldlM_cons] at h
      obtain ⟨t, ht, h⟩ := bind_ok_iff.mp h
      rw [List.foldl_cons, ← hg ht]
      exact ih h

theorem exists_foldlM_ok {f : σ → α → Except ε σ} {l : List α}
    (h : ∀ a ∈ l, ∀ s, ∃ t, f s a = .ok t) (s : σ) : ∃ out, l.foldlM f s = .ok out := by
  induction l generalizing s with
  | nil => exact ⟨s, rfl⟩
  | cons a l ih =>
      obtain ⟨t, ht⟩ := h a List.mem_cons_self s
      obtain ⟨out, hout⟩ := ih (fun a ha => h a (List.mem_cons_of_mem _ ha)) t
      exact ⟨out, by rw [List.foldlM_cons, ht, ok_bind, hout]⟩

end Exosnap.Excepts
