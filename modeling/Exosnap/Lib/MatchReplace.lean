/-
  Replacing every match in a text by a placeholder.

  A matcher tells how long the match at the head of a text is, 0 where there is none. The matches
  are taken from the left and never overlap. The placeholder stands between two delimiters: a word
  without them that the result holds is in the placeholder's label, or it stood in the text, and no
  match began there.
-/
import Mathlib.Data.List.Infix

namespace MatchReplace

variable {α : Type} {m m' : List α → ℕ} {o c : α} {label : List α}

/-- The text with every match replaced by `r`, after the `k` letters left of the last match. -/
def replaceFrom (m : List α → ℕ) (r : List α) : ℕ → List α → List α
  | _, [] => []
  | k + 1, _ :: t => replaceFrom m r k t
  | 0, x :: t =>
      match m (x :: t) with
      | 0 => x :: replaceFrom m r 0 t
      | n + 1 => r ++ replaceFrom m r n t

def replaceAll (m : List α → ℕ) (r : List α) : List α → List α := replaceFrom m r 0

/-- A label between its delimiters. -/
def placeholder (o c : α) (label : List α) : List α := o :: (label ++ [c])

/-- No match begins anywhere in the text. -/
def Free (m : List α → ℕ) (t : List α) : Prop := ∀ s, s <:+ t → m s = 0

theorem Free.tail {x : α} {t : List α} (h : Free m (x :: t)) : Free m t :=
  fun s hs => h s (hs.trans (List.suffix_cons x t))

theorem replaceAll_cons_of_eq_zero {r t : List α} {x : α} (h : m (x :: t) = 0) :
    replaceAll m r (x :: t) = x :: replaceAll m r t := by
  simp only [replaceAll, replaceFrom, h]

theorem replaceAll_of_free {r t : List α} (h : Free m t) : replaceAll m r t = t := by
  induction t with
  | nil => rfl
  | cons x t ih =>
    rw [replaceAll_cons_of_eq_zero (h _ (List.suffix_refl _)), ih h.tail]

/-- Letters at the head of the result that are not the opening delimiter are the text's own. -/
theorem replaceAll_eq_append {w b t : List α} (ho : o ∉ w)
    (h : replaceAll m (placeholder o c label) t = w ++ b) :
    ∃ b', t = w ++ b' ∧ b = replaceAll m (placeholder o c label) b' := by
  induction w generalizing t with
  | nil => exact ⟨t, rfl, h.symm⟩
  | cons y w ih =>
    cases t with
    | nil => simp [replaceAll, replaceFrom] at h
    | cons x t =>
      cases hm : m (x :: t) with
      | zero =>
        rw [replaceAll_cons_of_eq_zero hm] at h
        obtain ⟨rfl, htail⟩ := List.cons.inj h
        obtain ⟨b', rfl, hb⟩ := ih (fun hmem => ho (List.mem_cons_of_mem _ hmem)) htail
        exact ⟨b', rfl, hb⟩
      | succ n =>
        simp only [replaceAll, replaceFrom, hm, placeholder, List.cons_append] at h
        exact absurd (List.cons.inj h).1 fun heq => ho (heq ▸ List.mem_cons_self)

/-- A word without delimiters in a text that begins with a placeholder is in the label or in the
    rest. -/
theorem infix_label_or_rest {a w b rest : List α} (hw : w ≠ []) (ho : o ∉ w) (hc : c ∉ w)
    (h : placeholder o c label ++ rest = a ++ w ++ b) :
    w <:+: label ∨ ∃ a', rest = a' ++ w ++ b := by
  obtain ⟨x, w', rfl⟩ := List.exists_cons_of_ne_nil hw
  cases a with
  | nil =>
    rw [placeholder, List.nil_append] at h
    exact absurd (List.cons.inj h).1 fun heq => ho (heq ▸ List.mem_cons_self)
  | cons y a =>
    have htail : label ++ (c :: rest) = a ++ (x :: w' ++ b) := by
      have := (List.cons.inj h).2
      simpa using this
    rcases List.append_eq_append_iff.1 htail with ⟨z, hz, hrest⟩ | ⟨z, hz, hrest⟩
    · -- the word begins behind the label
      cases z with
      | nil => exact absurd (List.cons.inj hrest).1 fun heq => hc (heq ▸ List.mem_cons_self)
      | cons z₀ z => exact .inr ⟨z, by simpa using (List.cons.inj hrest).2⟩
    · -- the word begins in the label, and cannot reach over the closing delimiter
      rcases List.append_eq_append_iff.1 hrest with ⟨v, hv, -⟩ | ⟨v, hv, hb⟩
      · exact .inl ⟨a, v, by rw [hz, hv]; simp⟩
      · cases v with
        | nil => exact .inl ⟨a, [], by rw [hz, hv]; simp⟩
        | cons v₀ v =>
          have hmem : v₀ ∈ x :: w' := hv ▸ List.mem_append_right _ List.mem_cons_self
          exact absurd hmem ((List.cons.inj hb).1 ▸ hc)

theorem replaceFrom_infix {k : ℕ} {t a w b : List α} (hw : w ≠ []) (ho : o ∉ w) (hc : c ∉ w)
    (h : replaceFrom m (placeholder o c label) k t = a ++ w ++ b) :
    w <:+: label ∨ ∃ b', w ++ b' <:+ t ∧ m (w ++ b') = 0 ∧
      b = replaceAll m (placeholder o c label) b' := by
  -- the induction is on the text, over the letters still to skip
  induction t generalizing k a with
  | nil => exact absurd h (by simp [replaceFrom, hw])
  | cons x t ih =>
    have later {k' a'} (h' : replaceFrom m (placeholder o c label) k' t = a' ++ w ++ b) :
        w <:+: label ∨ ∃ b', w ++ b' <:+ x :: t ∧ m (w ++ b') = 0 ∧
          b = replaceAll m (placeholder o c label) b' :=
      (ih h').imp_right fun ⟨b', hs, hb⟩ => ⟨b', hs.trans (List.suffix_cons x t), hb⟩
    cases k with
    | succ k => exact later h
    | zero =>
      cases hm : m (x :: t) with
      | zero =>
        have hout : x :: replaceAll m (placeholder o c label) t = a ++ w ++ b := by
          rw [← replaceAll_cons_of_eq_zero hm]
          exact h
        cases a with
        | nil =>
          have hself : replaceAll m (placeholder o c label) (x :: t) = w ++ b := by
            rw [replaceAll_cons_of_eq_zero hm]
            exact hout
          obtain ⟨b', ht, hb⟩ := replaceAll_eq_append ho hself
          exact .inr ⟨b', ht ▸ List.suffix_refl _, ht ▸ hm, hb⟩
        | cons y a => exact later (List.cons.inj hout).2
      | succ n =>
        simp only [replaceFrom, hm] at h
        exact (infix_label_or_rest hw ho hc h).elim .inl fun ⟨a', h'⟩ => later h'

/-- Every match of `m'` is seen in a word that holds no delimiter and is not in the label, whatever
    `m` replaces behind the word. -/
def Seen (o c : α) (label : List α) (m m' : List α → ℕ) : Prop :=
  ∀ s, m' s ≠ 0 → ∃ w b, s = w ++ b ∧ w ≠ [] ∧ o ∉ w ∧ c ∉ w ∧ ¬ w <:+: label ∧
    ∀ b', b = replaceAll m (placeholder o c label) b' → m' (w ++ b') ≠ 0

/-- What was found only where something is replaced is not found in the result. -/
theorem Seen.free_replaceAll {t : List α} (hseen : Seen o c label m m')
    (ht : ∀ s, s <:+ t → m s = 0 → m' s = 0) :
    Free m' (replaceAll m (placeholder o c label) t) := by
  rintro s ⟨a, hs⟩
  by_contra hmatch
  obtain ⟨w, b, rfl, hw, ho, hc, hlabel, hback⟩ := hseen s hmatch
  have hout : replaceFrom m (placeholder o c label) 0 t = a ++ w ++ b := by
    rw [List.append_assoc]
    exact hs.symm
  rcases replaceFrom_infix hw ho hc hout with hin | ⟨b', hsuffix, hzero, hb⟩
  · exact hlabel hin
  · exact hback b' hb (ht _ hsuffix hzero)

theorem Seen.replaceAll_clears {t : List α} (hseen : Seen o c label m m) :
    Free m (replaceAll m (placeholder o c label) t) :=
  hseen.free_replaceAll fun _ _ hzero => hzero

theorem Seen.replaceAll_keeps {t : List α} (hseen : Seen o c label m m') (ht : Free m' t) :
    Free m' (replaceAll m (placeholder o c label) t) :=
  hseen.free_replaceAll fun s hs _ => ht s hs

end MatchReplace
