/-
  Lists that are cut at separators (`List.splitOnP`) and put together again with one
  (`List.intercalate`).

  What is put together from parts without separators is cut into these parts, and what is put together
  from some of the parts of a list is no longer than the list.
-/
import Mathlib

namespace Separated

variable {α β : Type} {p : α → Bool}

theorem mem_of_mem_splitOnP {l part : List α} (h : part ∈ l.splitOnP p) :
    ∀ a ∈ part, a ∈ l ∧ p a = false := by
  induction l generalizing part with
  | nil =>
    rw [List.splitOnP_nil, List.mem_singleton] at h
    subst h
    exact fun a ha => nomatch ha
  | cons b l ih =>
    rw [List.splitOnP_cons_eq_if_modifyHead] at h
    split at h
    case isTrue =>
      obtain rfl | h := List.mem_cons.mp h
      · exact fun a ha => nomatch ha
      · exact fun a ha => ⟨List.mem_cons_of_mem b (ih h a ha).1, (ih h a ha).2⟩
    case isFalse hb =>
      cases hl : l.splitOnP p with
      | nil => exact absurd hl (List.splitOnP_ne_nil p l)
      | cons first rest =>
        rw [hl, List.modifyHead_cons] at h
        obtain rfl | h := List.mem_cons.mp h
        · intro a ha
          obtain rfl | ha := List.mem_cons.mp ha
          · exact ⟨List.mem_cons_self, by simpa using hb⟩
          · have : ∀ a ∈ first, a ∈ l ∧ p a = false := ih (by simp [hl])
            exact ⟨List.mem_cons_of_mem b (this a ha).1, (this a ha).2⟩
        · intro a ha
          have : ∀ a ∈ part, a ∈ l ∧ p a = false := ih (by simp [hl, h])
          exact ⟨List.mem_cons_of_mem b (this a ha).1, (this a ha).2⟩

/-- In front of the first cut there may stand anything that is no separator. -/
theorem splitOnP_append {front : List α} (h : ∀ a ∈ front, p a = false) (l : List α) :
    (front ++ l).splitOnP p = (l.splitOnP p).modifyHead (front ++ ·) := by
  induction front with
  | nil =>
      rw [List.nil_append]
      cases l.splitOnP p <;> rfl
  | cons a front ih =>
      rw [List.cons_append, List.splitOnP_cons_eq_if_modifyHead, if_neg (by simp [h a]),
        ih fun b hb => h b (List.mem_cons_of_mem a hb), List.modifyHead_modifyHead]
      rfl

theorem forall₂_modifyHead {R : α → β → Prop} {f : α → α} {g : β → β}
    (h : ∀ a b, R a b → R (f a) (g b)) {l : List α} {m : List β} (hl : List.Forall₂ R l m) :
    List.Forall₂ R (l.modifyHead f) (m.modifyHead g) := by
  cases hl with
  | nil => exact .nil
  | cons head tail => exact .cons (h _ _ head) tail

theorem exists_of_forall₂ {R : α → β → Prop} {l : List α} {m : List β}
    (h : List.Forall₂ R l m) {b : β} (hb : b ∈ m) : ∃ a ∈ l, R a b := by
  induction h with
  | nil => exact absurd hb List.not_mem_nil
  | cons head tail ih =>
      rcases List.mem_cons.mp hb with rfl | hb
      · exact ⟨_, List.mem_cons_self, head⟩
      · obtain ⟨a, ha, hab⟩ := ih hb
        exact ⟨a, List.mem_cons_of_mem _ ha, hab⟩

/-- Cutting a list whose members were rewritten. -/
theorem splitOnP_map (f : β → α) (l : List β) :
    (l.map f).splitOnP p = (l.splitOnP (p ∘ f)).map (List.map f) := by
  induction l with
  | nil => simp
  | cons b l ih =>
    rw [List.map_cons, List.splitOnP_cons_eq_if_modifyHead, List.splitOnP_cons_eq_if_modifyHead, ih]
    cases hb : p (f b) with
    | true => simp [hb]
    | false =>
      cases hl : l.splitOnP (p ∘ f) with
      | nil => exact absurd hl (List.splitOnP_ne_nil _ l)
      | cons first rest => simp [hb]

theorem splitOnP_congr {q : α → Bool} {l : List α} (h : ∀ a ∈ l, p a = q a) :
    l.splitOnP p = l.splitOnP q := by
  induction l with
  | nil => rfl
  | cons a l ih =>
    rw [List.splitOnP_cons_eq_if_modifyHead, List.splitOnP_cons_eq_if_modifyHead,
      h a List.mem_cons_self, ih fun b hb => h b (List.mem_cons_of_mem a hb)]

/-- What was put together from parts without separators is cut into them. -/
theorem splitOnP_intercalate {a : α} (ha : p a = true) {parts : List (List α)} (hne : parts ≠ [])
    (hparts : ∀ part ∈ parts, ∀ b ∈ part, p b = false) :
    ([a].intercalate parts).splitOnP p = parts := by
  induction parts with
  | nil => exact absurd rfl hne
  | cons part parts ih =>
    have hpart := hparts part List.mem_cons_self
    cases parts with
    | nil => simpa using List.splitOnP_eq_singleton hpart
    | cons next rest =>
      have hrest := ih (by simp) fun q hq => hparts q (List.mem_cons_of_mem part hq)
      rw [List.intercalate_cons_cons, List.append_assoc, List.singleton_append,
        List.splitOnP_append_cons_of_forall_mem hpart a ha, hrest]

theorem mem_intercalate {a b : α} {parts : List (List α)} (h : b ∈ [a].intercalate parts) :
    b = a ∨ ∃ part ∈ parts, b ∈ part := by
  induction parts with
  | nil => cases h
  | cons part parts ih =>
    cases parts with
    | nil => exact .inr ⟨part, List.mem_cons_self, by simpa using h⟩
    | cons next rest =>
      rw [List.intercalate_cons_cons, List.mem_append, List.mem_append] at h
      obtain (h | h) | h := h
      · exact .inr ⟨part, List.mem_cons_self, h⟩
      · exact .inl (List.mem_singleton.mp h)
      · obtain h | ⟨q, hq, hb⟩ := ih h
        · exact .inl h
        · exact .inr ⟨q, List.mem_cons_of_mem part hq, hb⟩

/-! ## Lengths -/

/-- How long the parts are, each with a separator after it. -/
def weight (parts : List (List α)) : Nat := (parts.map fun part => part.length + 1).sum

theorem weight_splitOnP (l : List α) : weight (l.splitOnP p) = l.length + 1 := by
  induction l with
  | nil => simp [weight]
  | cons a l ih =>
    rw [List.splitOnP_cons_eq_if_modifyHead]
    split
    case isTrue =>
      have : weight ([] :: l.splitOnP p) = 1 + weight (l.splitOnP p) := by simp [weight]
      rw [this, ih, List.length_cons, Nat.add_comm]
    case isFalse =>
      cases hl : l.splitOnP p with
      | nil => exact absurd hl (List.splitOnP_ne_nil p l)
      | cons first rest =>
        rw [hl] at ih
        simp only [weight, List.modifyHead_cons, List.map_cons, List.sum_cons,
          List.length_cons] at ih ⊢
        omega

theorem length_intercalate_add_one (a : α) {parts : List (List α)} (hne : parts ≠ []) :
    ([a].intercalate parts).length + 1 = weight parts := by
  induction parts with
  | nil => exact absurd rfl hne
  | cons part parts ih =>
    cases parts with
    | nil => simp [weight]
    | cons next rest =>
      have hrest := ih (by simp)
      have hweight : weight (part :: next :: rest) = part.length + 1 + weight (next :: rest) := by
        simp [weight]
      rw [List.intercalate_cons_cons, hweight, ← hrest]
      simp only [List.length_append, List.length_singleton]
      omega

/-- Some of the parts of a list, put together again, are no longer than the list. -/
theorem length_intercalate_sublist (a : α) {l : List α} {parts : List (List α)}
    (h : parts.Sublist (l.splitOnP p)) : ([a].intercalate parts).length ≤ l.length := by
  by_cases hne : parts = []
  · simp [hne]
  · have hparts := length_intercalate_add_one a hne
    have hle : weight parts ≤ weight (l.splitOnP p) :=
      (h.map fun part : List α => part.length + 1).sum_le_sum fun _ _ => Nat.zero_le _
    rw [weight_splitOnP] at hle
    omega

/-! ## Ends -/

theorem head?_intercalate (a : α) {part : List α} (parts : List (List α)) (hne : part ≠ []) :
    ([a].intercalate (part :: parts)).head? = part.head? := by
  cases parts with
  | nil => simp
  | cons next rest =>
    rw [List.intercalate_cons_cons, List.append_assoc, List.head?_append_of_ne_nil _ hne]

theorem getLast?_intercalate (a : α) {parts : List (List α)} {last : List α}
    (hlast : parts.getLast? = some last) (hne : last ≠ []) :
    ([a].intercalate parts).getLast? = last.getLast? := by
  induction parts with
  | nil => cases hlast
  | cons part parts ih =>
    cases parts with
    | nil =>
      obtain rfl : part = last := by simpa using hlast
      simp
    | cons next rest =>
      have hrest := ih (by simpa using hlast)
      have hsome : ([a].intercalate (next :: rest)) ≠ [] := by
        intro hnil
        rw [hnil] at hrest
        exact hne (List.getLast?_eq_none_iff.mp hrest.symm)
      rw [List.intercalate_cons_cons, List.getLast?_append_of_ne_nil _ hsome, hrest]

end Separated
