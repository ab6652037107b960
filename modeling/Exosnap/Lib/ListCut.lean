/-
  Cutting a list where a test first fails. On a list in which the test never comes back once it has
  failed, the cut and the filter are the same, and nothing behind the cut passes it.
-/

variable {α : Type}

namespace ListCut

theorem filter_eq_takeWhile {p : α → Bool} {l : List α}
    (h : l.Pairwise fun a b => p b = true → p a = true) : l.filter p = l.takeWhile p := by
  induction l with
  | nil => rfl
  | cons a l ih =>
    obtain ⟨hhead, htail⟩ := List.pairwise_cons.mp h
    cases ha : p a with
    | true => simp [ha, ih htail]
    | false =>
      have hnone : ∀ b ∈ l, p b = false := fun b hb => by
        cases hb' : p b with
        | false => rfl
        | true => exact absurd (hhead b hb hb') (by simp [ha])
      simpa [ha] using hnone

theorem takeWhile_of_imp {p q : α → Bool} (h : ∀ a, p a = true → q a = true)
    (l : List α) : l.takeWhile q = l.takeWhile p ++ (l.dropWhile p).takeWhile q := by
  induction l with
  | nil => rfl
  | cons a l ih =>
    cases ha : p a with
    | true => simp [ha, h a ha, ih]
    | false => simp [ha]

theorem dropWhile_false {p : α → Bool} {l : List α}
    (h : l.Pairwise fun a b => p b = true → p a = true) : ∀ a ∈ l.dropWhile p, p a = false := by
  have hparts : l.takeWhile p ++ l.dropWhile p = l := List.takeWhile_append_dropWhile
  have hnil : (l.dropWhile p).filter p = [] := by
    have hsplit : l.filter p = (l.takeWhile p).filter p ++ (l.dropWhile p).filter p := by
      rw [← List.filter_append, hparts]
    rw [filter_eq_takeWhile h,
      List.filter_eq_self.mpr (fun a ha => List.all_eq_true.mp List.all_takeWhile a ha)] at hsplit
    simpa using hsplit
  intro a ha
  simpa using List.filter_eq_nil_iff.mp hnil a ha

theorem takeWhile_congr {p q : α → Bool} {l : List α} (h : ∀ a ∈ l, p a = q a) :
    l.takeWhile p = l.takeWhile q := by
  induction l with
  | nil => rfl
  | cons a l ih =>
    rw [List.takeWhile_cons, List.takeWhile_cons, h a List.mem_cons_self,
      ih fun b hb => h b (List.mem_cons_of_mem _ hb)]

end ListCut
