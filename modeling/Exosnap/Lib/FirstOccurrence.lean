/-
  The first occurrence of a word in a text.

  A text that goes on has it where it was. The occurrence of a key between two quotes is found by a
  comparison with the pieces between the quotes of the text, one after another.
-/
import Mathlib.Data.List.Infix

namespace FirstOccurrence

variable {α : Type} [DecidableEq α] {q : α} {k p r s t w : List α}

/-- What stands behind the first occurrence of the word. -/
def afterFirst (w : List α) : List α → Option (List α)
  | [] => if w.isEmpty then some [] else none
  | c :: t => if w.isPrefixOf (c :: t) then some ((c :: t).drop w.length) else afterFirst w t

/-- A key between two quotes, and what follows it. -/
def keyed (q : α) (k w : List α) : List α := q :: (k ++ q :: w)

theorem afterFirst_append (w t : List α) : afterFirst w (w ++ t) = some t := by
  cases w with
  | nil => cases t <;> rfl
  | cons c w =>
    rw [List.cons_append, afterFirst, if_pos (by simp)]
    simp

theorem afterFirst_cons_of_not {c : α} (h : ¬ w <+: c :: t) :
    afterFirst w (c :: t) = afterFirst w t := by
  rw [afterFirst, if_neg (mt List.isPrefixOf_iff_prefix.1 h)]

theorem eq_append_of_afterFirst (h : afterFirst w t = some r) : ∃ a, t = a ++ w ++ r := by
  induction t with
  | nil =>
    cases w with
    | nil => exact ⟨[], by simpa [afterFirst] using h⟩
    | cons c w => simp [afterFirst] at h
  | cons c t ih =>
    by_cases hw : w <+: c :: t
    · obtain ⟨r', hr'⟩ := hw
      rw [← hr', afterFirst_append] at h
      exact ⟨[], by rw [← hr', Option.some.inj h]; rfl⟩
    · rw [afterFirst_cons_of_not hw] at h
      obtain ⟨a, rfl⟩ := ih h
      exact ⟨c :: a, rfl⟩

theorem afterFirst_mono (hs : s <+: t) (h : afterFirst w s = some r) :
    ∃ r', afterFirst w t = some r' ∧ r <+: r' := by
  induction s generalizing t with
  | nil =>
    obtain ⟨a, ha⟩ := eq_append_of_afterFirst h
    obtain ⟨rfl, rfl, rfl⟩ : a = [] ∧ w = [] ∧ r = [] := by simpa using ha.symm
    exact ⟨t, afterFirst_append [] t, List.nil_prefix⟩
  | cons c s ih =>
    obtain ⟨z, rfl⟩ := hs
    by_cases hw : w <+: c :: s
    · obtain ⟨r', hr'⟩ := hw
      rw [← hr', afterFirst_append] at h
      obtain rfl := Option.some.inj h
      exact ⟨r' ++ z, by rw [← hr', List.append_assoc, afterFirst_append], List.prefix_append _ _⟩
    · rw [afterFirst_cons_of_not hw] at h
      -- the word fits in what is left of `s`, so that it begins no earlier in the longer text
      have hlong : ¬ w <+: c :: (s ++ z) := fun hlong => by
        obtain ⟨a, rfl⟩ := eq_append_of_afterFirst h
        refine hw (List.prefix_of_prefix_length_le hlong (List.prefix_append (c :: _) z) ?_)
        simp
        omega
      rw [List.cons_append, afterFirst_cons_of_not hlong]
      exact ih (List.prefix_append s z) h

/-- What stands before the first quote is known from the text. -/
theorem eq_of_append_quote {r t : List α} (hk : q ∉ k) (hp : q ∉ p)
    (h : k ++ q :: r = p ++ q :: t) : k = p := by
  have hpiece : ∀ {u z : List α}, q ∉ u → (u ++ q :: z).takeWhile (· ≠ q) = u := by
    intro u z hu
    have hother : ∀ a ∈ u, decide (a ≠ q) = true := fun a ha =>
      decide_eq_true (ne_of_mem_of_not_mem ha hu)
    rw [List.takeWhile_append_of_pos hother]
    simp
  rw [← hpiece hk, h, hpiece hp]

/-- A word that begins with a quote does not begin where no quote is. -/
theorem afterFirst_skip (hp : q ∉ p) : afterFirst (q :: w) (p ++ t) = afterFirst (q :: w) t := by
  induction p with
  | nil => rfl
  | cons c p ih =>
    rw [List.cons_append, afterFirst_cons_of_not, ih fun hmem => hp (.tail _ hmem)]
    rintro ⟨r, hr⟩
    exact hp ((List.cons.inj hr).1 ▸ List.mem_cons_self)

theorem afterFirst_keyed_of_ne (hk : q ∉ k) (hp : q ∉ p) (hne : p = k → ¬ w <+: t) :
    afterFirst (keyed q k w) (keyed q p t) = afterFirst (keyed q k w) (q :: t) := by
  rw [keyed, keyed, afterFirst_cons_of_not, afterFirst_skip hp]
  rintro ⟨r, hr⟩
  have htail : k ++ q :: (w ++ r) = p ++ q :: t := by simpa using hr
  obtain rfl := eq_of_append_quote hk hp htail
  exact hne rfl ⟨r, by simpa using htail⟩

theorem afterFirst_keyed_last (hp : q ∉ p) : afterFirst (keyed q k w) (q :: p) = none := by
  have hnone : ¬ keyed q k w <+: q :: p := by
    rintro ⟨r, hr⟩
    have htail : k ++ q :: (w ++ r) = p := by simpa [keyed] using hr
    exact hp (htail ▸ List.mem_append_right _ List.mem_cons_self)
  have hskip := afterFirst_skip (w := k ++ q :: w) (t := []) hp
  rw [List.append_nil] at hskip
  rw [afterFirst_cons_of_not hnone, keyed, hskip]
  rfl

end FirstOccurrence
