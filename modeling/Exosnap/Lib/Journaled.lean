/-
  Programs that keep a journal, and a logic for them that speaks of every entry.

  A `Journaled` program runs on a state and writes entries as it goes. A crash leaves a prefix of
  the entries, so what must hold at every moment is a property of each entry. `Runs G P` is the
  judgement for it: from a state that meets the precondition, `P` holds of every entry up to and
  with the first that fails the guard `G`, and where none fails it the postcondition holds at the
  end. The guard is what a run is assumed to meet; an entry that fails it ends all promises.
-/
import Mathlib.Data.List.Basic

/-! ## Guarded lists -/

namespace Guarded

variable {α : Type*} {G G' P P' : α → Prop} {as bs : List α}

/-- `P` holds of every entry up to and with the first that fails `G`. -/
def Upheld (G P : α → Prop) : List α → Prop
  | [] => True
  | a :: as => P a ∧ (G a → Upheld G P as)

@[simp] theorem upheld_nil : Upheld G P [] := trivial

@[simp] theorem upheld_cons {a : α} : Upheld G P (a :: as) ↔ P a ∧ (G a → Upheld G P as) := Iff.rfl

theorem upheld_append :
    Upheld G P (as ++ bs) ↔ Upheld G P as ∧ ((∀ a ∈ as, G a) → Upheld G P bs) := by
  induction as with
  | nil => simp
  | cons a as ih =>
    rw [List.cons_append, upheld_cons, upheld_cons, ih, List.forall_mem_cons]
    constructor
    · exact fun h => ⟨⟨h.1, fun ha => (h.2 ha).1⟩, fun hall => (h.2 hall.1).2 hall.2⟩
    · exact fun h => ⟨h.1.1, fun ha => ⟨h.1.2 ha, fun hall => h.2 ⟨ha, hall⟩⟩⟩

theorem Upheld.of_append (h : Upheld G P (as ++ bs)) : Upheld G P as := (upheld_append.mp h).1

theorem Upheld.take (h : Upheld G P as) (n : ℕ) : Upheld G P (as.take n) := by
  have hsplit : Upheld G P (as.take n ++ as.drop n) := by rwa [List.take_append_drop]
  exact hsplit.of_append

theorem upheld_of_forall (h : ∀ a ∈ as, P a) : Upheld G P as := by
  induction as with
  | nil => trivial
  | cons a as ih =>
    obtain ⟨ha, has⟩ := List.forall_mem_cons.mp h
    exact ⟨ha, fun _ => ih has⟩

/-- `P` holds of an entry if every entry before it meets the guard. -/
theorem Upheld.getElem (h : Upheld G P as) {i : ℕ} (hi : i < as.length)
    (hG : ∀ a ∈ as.take i, G a) : P as[i] := by
  have hsplit : Upheld G P (as.take i ++ as[i] :: as.drop (i + 1)) := by
    rwa [List.getElem_cons_drop, List.take_append_drop]
  exact ((upheld_append.mp hsplit).2 hG).1

/-- Where every entry meets the guard, `P` holds of every entry. -/
theorem Upheld.forall (h : Upheld G P as) (hG : ∀ a ∈ as, G a) : ∀ a ∈ as, P a := by
  induction as with
  | nil => exact fun _ ha => absurd ha List.not_mem_nil
  | cons a as ih =>
    obtain ⟨hGa, hGas⟩ := List.forall_mem_cons.mp hG
    exact List.forall_mem_cons.mpr ⟨h.1, ih (h.2 hGa) hGas⟩

theorem Upheld.mono (h : Upheld G P as) (hG : ∀ a, G' a → G a) (hP : ∀ a, P a → P' a) :
    Upheld G' P' as := by
  induction as with
  | nil => trivial
  | cons a as ih => exact ⟨hP a h.1, fun ha => ih (h.2 (hG a ha))⟩

end Guarded

/-! ## Programs -/

/-- What a run of a program ends with. -/
structure Journaled.Outcome (σ ε α : Type*) where
  value : α
  state : σ
  entries : List ε := []

/-- A program on a state that writes entries to a journal. -/
def Journaled (σ ε α : Type*) := σ → Journaled.Outcome σ ε α

namespace Journaled

open Guarded

universe u

variable {σ τ ε δ : Type*} {α β : Type u}

instance : Monad (Journaled σ ε) where
  pure a := fun s => ⟨a, s, []⟩
  bind m f := fun s =>
    let o := m s
    let o' := f o.value o.state
    ⟨o'.value, o'.state, o.entries ++ o'.entries⟩

def read {σ : Type u} : Journaled σ ε σ := fun s => ⟨s, s, []⟩

def update (f : σ → σ) : Journaled σ ε PUnit.{u + 1} := fun s => ⟨⟨⟩, f s, []⟩

/-- Writes the entry that `f` makes of the state. -/
def record (f : σ → ε) : Journaled σ ε PUnit.{u + 1} := fun s => ⟨⟨⟩, s, [f s]⟩

/-- Runs a program on a part of the state, and takes its entries as entries of the whole. -/
def within (get : τ → σ) (set : σ → τ → τ) (entry : τ → ε → δ) (m : Journaled σ ε α) :
    Journaled τ δ α := fun t =>
  let o := m (get t)
  ⟨o.value, set o.state t, o.entries.map (entry t)⟩

/-- A run of `m` from `s`: `P` of every entry up to the first that fails `G`, and `post` of the
    value and the state at the end where none does. -/
def Runs (G P : ε → Prop) (m : Journaled σ ε α) (s : σ) (post : α → σ → Prop) : Prop :=
  Upheld G P (m s).entries ∧ ((∀ e ∈ (m s).entries, G e) → post (m s).value (m s).state)

section
variable {G P : ε → Prop} {m m' : Journaled σ ε α} {s : σ} {post post' : α → σ → Prop}
  {f : α → Journaled σ ε β} {last : β → σ → Prop}

theorem Runs.pure {a : α} (h : post a s) : Runs G P (Pure.pure a : Journaled σ ε α) s post :=
  ⟨trivial, fun _ => h⟩

theorem Runs.bind (hm : Runs G P m s post) (hf : ∀ a s', post a s' → Runs G P (f a) s' last) :
    Runs G P (m >>= f) s last := by
  obtain ⟨hupheld, hpost⟩ := hm
  refine ⟨upheld_append.mpr ⟨hupheld, fun hG => (hf _ _ (hpost hG)).1⟩, fun hG => ?_⟩
  obtain ⟨hfirst, hlast⟩ := List.forall_mem_append.mp hG
  exact (hf _ _ (hpost hfirst)).2 hlast

theorem Runs.mono (hm : Runs G P m s post) (h : ∀ a s', post a s' → post' a s') :
    Runs G P m s post' :=
  ⟨hm.1, fun hG => h _ _ (hm.2 hG)⟩

theorem Runs.imp {P' : ε → Prop} (hm : Runs G P m s post) (h : ∀ e, P e → P' e) :
    Runs G P' m s post :=
  ⟨hm.1.mono (fun _ he => he) h, hm.2⟩

theorem Runs.read_bind {σ : Type u} {s : σ} {f : σ → Journaled σ ε β} {last : β → σ → Prop}
    (h : Runs G P (f s) s last) : Runs G P (Journaled.read >>= f) s last := h

theorem Runs.update_bind {g : σ → σ} {f : PUnit.{u + 1} → Journaled σ ε β}
    (h : Runs G P (f ⟨⟩) (g s) last) : Runs G P (Journaled.update g >>= f) s last := h

theorem Runs.record_bind {g : σ → ε} {f : PUnit.{u + 1} → Journaled σ ε β} (hP : P (g s))
    (h : G (g s) → Runs G P (f ⟨⟩) s last) : Runs G P (Journaled.record g >>= f) s last := by
  refine ⟨⟨hP, fun hG => (h hG).1⟩, fun hG => ?_⟩
  obtain ⟨hg, hrest⟩ := List.forall_mem_cons.mp hG
  exact (h hg).2 hrest

theorem Runs.update {g : σ → σ} {post : PUnit.{u + 1} → σ → Prop} (h : post ⟨⟩ (g s)) :
    Runs G P (Journaled.update g : Journaled σ ε PUnit.{u + 1}) s post :=
  ⟨trivial, fun _ => h⟩

theorem Runs.record {g : σ → ε} {post : PUnit.{u + 1} → σ → Prop} (hP : P (g s))
    (h : G (g s) → post ⟨⟩ s) : Runs G P (Journaled.record g : Journaled σ ε PUnit.{u + 1}) s post :=
  ⟨⟨hP, fun _ => trivial⟩, fun hG => h (hG _ (List.mem_singleton.mpr rfl))⟩

theorem Runs.ite {c : Prop} [Decidable c] (hthen : c → Runs G P m s post)
    (helse : ¬ c → Runs G P m' s post) : Runs G P (if c then m else m') s post := by
  by_cases h : c
  · rw [if_pos h]
    exact hthen h
  · rw [if_neg h]
    exact helse h

/-- A program on a part of the state: its entries are the whole's, and the rest stays. -/
theorem Runs.within {get : τ → σ} {set : σ → τ → τ} {entry : τ → ε → δ} {G P : δ → Prop} {t : τ}
    {post : α → τ → Prop}
    (hm : Runs (G ∘ entry t) (P ∘ entry t) m (get t) fun a s => post a (set s t)) :
    Runs G P (Journaled.within get set entry m) t post := by
  refine ⟨?_, fun hG => hm.2 fun e he => hG _ (List.mem_map_of_mem he)⟩
  have hupheld := hm.1
  show Upheld G P ((m (get t)).entries.map (entry t))
  generalize (m (get t)).entries = entries at hupheld
  induction entries with
  | nil => trivial
  | cons e entries ih => exact ⟨hupheld.1, fun he => ih (hupheld.2 he)⟩

/-- Keeps an invariant, and meets `P` on the way. -/
def Keeps (G P : ε → Prop) (I : σ → Prop) (m : Journaled σ ε α) : Prop :=
  ∀ s, I s → Runs G P m s fun _ s' => I s'

variable {I : σ → Prop}

theorem Keeps.pure (a : α) : Keeps G P I (Pure.pure a : Journaled σ ε α) := fun _ h => Runs.pure h

theorem Keeps.bind (hm : Keeps G P I m) (hf : ∀ a, Keeps G P I (f a)) : Keeps G P I (m >>= f) :=
  fun s h => (hm s h).bind fun a s' h' => hf a s' h'

theorem Keeps.read_bind {σ : Type u} {I : σ → Prop} {f : σ → Journaled σ ε β}
    (hf : ∀ s, Keeps G P I (f s)) : Keeps G P I (Journaled.read >>= f) :=
  fun s h => Runs.read_bind (hf s s h)

theorem Keeps.update {g : σ → σ} (h : ∀ s, I s → I (g s)) :
    Keeps G P I (Journaled.update g : Journaled σ ε PUnit.{u + 1}) :=
  fun s hs => Runs.update (h s hs)

theorem Keeps.record {g : σ → ε} (hP : ∀ s, I s → P (g s)) :
    Keeps G P I (Journaled.record g : Journaled σ ε PUnit.{u + 1}) :=
  fun s hs => Runs.record (hP s hs) fun _ => hs

theorem Keeps.ite {c : Prop} [Decidable c] (hthen : Keeps G P I m) (helse : Keeps G P I m') :
    Keeps G P I (if c then m else m') :=
  fun s hs => Runs.ite (fun _ => hthen s hs) fun _ => helse s hs

end

end Journaled
