/-
  Reuse by key: slots that hold a content under a key, and a reference that holds the latest
  content to be repeated. Repeating it into a slot whose key equals the reference's key may
  skip the copy.

  `Sound.reuse` is what makes the skip right: equal keys, equal contents. It rests on one
  condition on the writer, that each new content comes under a key above the one before
  (`Sound.composite`). Keys are any partial order.
-/
import Mathlib.Order.Basic
import Mathlib.Logic.Function.Basic

namespace KeyedReuse

universe u v w
variable {ι : Type u} {κ : Type v} {γ : Type w}

/-- Slots and reference, with the key of the latest content written. -/
@[ext] structure Store (ι : Type u) (κ : Type v) (γ : Type w) where
  slots : ι → Option (κ × γ)
  ref : Option (κ × γ)
  last : Option κ

namespace Store

/-- A new content under a new key, written to a slot, and to the reference if `keep`. -/
def composite [DecidableEq ι] (st : Store ι κ γ) (keep : Bool) (k : κ) (c : γ) (i : ι) :
    Store ι κ γ where
  slots := Function.update st.slots i (some (k, c))
  ref := if keep then some (k, c) else st.ref
  last := some k

/-- The reference copied into a slot. -/
def duplicate [DecidableEq ι] (st : Store ι κ γ) (i : ι) : Store ι κ γ :=
  { st with slots := Function.update st.slots i st.ref }

section
variable [DecidableEq ι] {st : Store ι κ γ} {keep : Bool} {k k' : κ} {c c' : γ} {i j : ι}

theorem composite_slots_self : (st.composite keep k c i).slots i = some (k, c) :=
  Function.update_self ..

theorem composite_slots_of_ne (h : j ≠ i) : (st.composite keep k c i).slots j = st.slots j :=
  Function.update_of_ne h ..

theorem duplicate_slots_self : (st.duplicate i).slots i = st.ref :=
  Function.update_self ..

theorem duplicate_slots_of_ne (h : j ≠ i) : (st.duplicate i).slots j = st.slots j :=
  Function.update_of_ne h ..

theorem composite_slot (hj : (st.composite keep k c i).slots j = some (k', c')) :
    (k' = k ∧ c' = c) ∨ st.slots j = some (k', c') := by
  by_cases hji : j = i
  · rw [hji, composite_slots_self, Option.some.injEq, Prod.mk.injEq] at hj
    exact .inl ⟨hj.1.symm, hj.2.symm⟩
  · rw [composite_slots_of_ne hji] at hj
    exact .inr hj

theorem composite_ref (hr : (st.composite keep k c i).ref = some (k', c')) :
    (k' = k ∧ c' = c) ∨ st.ref = some (k', c') := by
  unfold composite at hr
  cases keep with
  | true =>
      rw [if_pos rfl, Option.some.injEq, Prod.mk.injEq] at hr
      exact .inl ⟨hr.1.symm, hr.2.symm⟩
  | false => exact .inr hr

theorem duplicate_slot (hj : (st.duplicate i).slots j = some (k', c')) :
    st.ref = some (k', c') ∨ st.slots j = some (k', c') := by
  by_cases hji : j = i
  · rw [hji, duplicate_slots_self] at hj
    exact .inl hj
  · rw [duplicate_slots_of_ne hji] at hj
    exact .inr hj

end

/-! ## Soundness -/

variable [PartialOrder κ]

/-- No key is above the latest one, and a slot under the reference's key holds its content. -/
structure Sound (st : Store ι κ γ) : Prop where
  slots_le : ∀ i k c, st.slots i = some (k, c) → ∃ l, st.last = some l ∧ k ≤ l
  ref_le : ∀ k c, st.ref = some (k, c) → ∃ l, st.last = some l ∧ k ≤ l
  reuse : ∀ i k c c', st.slots i = some (k, c) → st.ref = some (k, c') → c = c'

/-- The key is above the latest one. -/
def Fresh (st : Store ι κ γ) (k : κ) : Prop := ∀ l, st.last = some l → l < k

variable {st : Store ι κ γ} {k : κ}

theorem Sound.of_empty (hs : ∀ i, st.slots i = none) (hr : st.ref = none) : Sound st := by
  refine ⟨?_, ?_, ?_⟩
  · intro i k c hi
    rw [hs i] at hi
    cases hi
  · intro k c hc
    rw [hr] at hc
    cases hc
  · intro i k c c' hi
    rw [hs i] at hi
    cases hi

theorem Sound.slot_lt (h : Sound st) (hf : st.Fresh k) {j : ι} {k' : κ} {c' : γ}
    (hj : st.slots j = some (k', c')) : k' < k := by
  obtain ⟨l, hl, hle⟩ := h.slots_le j k' c' hj
  exact lt_of_le_of_lt hle (hf l hl)

theorem Sound.ref_lt (h : Sound st) (hf : st.Fresh k) {k' : κ} {c' : γ}
    (hr : st.ref = some (k', c')) : k' < k := by
  obtain ⟨l, hl, hle⟩ := h.ref_le k' c' hr
  exact lt_of_le_of_lt hle (hf l hl)

variable [DecidableEq ι]

/-- A content under a fresh key keeps the store sound. -/
theorem Sound.composite (h : Sound st) (hf : st.Fresh k) (keep : Bool) (c : γ) (i : ι) :
    Sound (st.composite keep k c i) := by
  refine ⟨?_, ?_, ?_⟩
  · intro j k₁ c₁ hj
    refine ⟨k, rfl, ?_⟩
    obtain ⟨hk, _⟩ | hj := composite_slot hj
    · exact le_of_eq hk
    · exact le_of_lt (h.slot_lt hf hj)
  · intro k₁ c₁ hr
    refine ⟨k, rfl, ?_⟩
    obtain ⟨hk, _⟩ | hr := composite_ref hr
    · exact le_of_eq hk
    · exact le_of_lt (h.ref_lt hf hr)
  · intro j k₁ c₁ c₂ hj hr
    obtain ⟨hk, hc⟩ | hj := composite_slot hj <;> obtain ⟨hk', hc'⟩ | hr := composite_ref hr
    · exact hc.trans hc'.symm
    -- a key seen before is below `k`, so it is not `k`
    · exact absurd hk (ne_of_lt (h.ref_lt hf hr))
    · exact absurd hk' (ne_of_lt (h.slot_lt hf hj))
    · exact h.reuse j k₁ c₁ c₂ hj hr

theorem Sound.duplicate (h : Sound st) (i : ι) : Sound (st.duplicate i) := by
  refine ⟨?_, h.ref_le, ?_⟩
  · intro j k₁ c₁ hj
    obtain hr | hj := duplicate_slot hj
    · exact h.ref_le k₁ c₁ hr
    · exact h.slots_le j k₁ c₁ hj
  · intro j k₁ c₁ c₂ hj hr
    obtain hr' | hj := duplicate_slot hj
    · exact (Prod.mk.inj (Option.some.inj (hr'.symm.trans hr))).2
    · exact h.reuse j k₁ c₁ c₂ hj hr

end Store

end KeyedReuse
