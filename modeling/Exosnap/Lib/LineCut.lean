/-
  A list that is cut into lines: the lines that a separator ends, and what stands after the last
  separator.

  The lines of a list come piece by piece (`cut_append`): what is left of one piece is put in front
  of the next one.
-/
import Mathlib.Data.List.Basic

namespace LineCut

variable {α : Type*} {p : α → Bool}

def cut (p : α → Bool) : List α → List (List α) × List α
  | [] => ([], [])
  | a :: l =>
      if p a then ([] :: (cut p l).1, (cut p l).2)
      else
        match cut p l with
        | ([], tail) => ([], a :: tail)
        | (line :: lines, tail) => ((a :: line) :: lines, tail)

theorem cut_cons_separator {a : α} (h : p a = true) (l : List α) :
    cut p (a :: l) = ([] :: (cut p l).1, (cut p l).2) := by
  rw [cut, if_pos h]

/-- The first line takes the member, or the rest does if there is none. -/
theorem cut_cons_other {a : α} (h : p a = false) (l : List α) :
    ((cut p l).1 = [] ∧ cut p (a :: l) = ([], a :: (cut p l).2)) ∨
      ∃ line lines, (cut p l).1 = line :: lines ∧
        cut p (a :: l) = ((a :: line) :: lines, (cut p l).2) := by
  rw [cut, if_neg (by simp [h])]
  match hl : cut p l with
  | ([], tail) => exact .inl ⟨rfl, rfl⟩
  | (line :: lines, tail) => exact .inr ⟨line, lines, rfl, rfl⟩

/-- The lines of two pieces: those of the first, and those of the second behind what was left. -/
theorem cut_append (l m : List α) :
    cut p (l ++ m) =
      ((cut p l).1 ++ (cut p ((cut p l).2 ++ m)).1, (cut p ((cut p l).2 ++ m)).2) := by
  induction l with
  | nil => rfl
  | cons a l ih =>
    cases ha : p a with
    | true =>
      rw [List.cons_append, cut_cons_separator ha, cut_cons_separator ha, ih]
      rfl
    | false =>
      obtain ⟨hnone, hcut⟩ | ⟨line, lines, hlines, hcut⟩ := cut_cons_other ha l
      · rw [hnone, List.nil_append] at ih
        rw [hcut, List.cons_append, List.cons_append, List.nil_append, cut, cut, ih]
      · rw [hlines] at ih
        rw [hcut, List.cons_append, cut, if_neg (by simp [ha]), ih]
        rfl

theorem cut_of_forall {l : List α} (h : ∀ a ∈ l, p a = false) : cut p l = ([], l) := by
  induction l with
  | nil => rfl
  | cons a l ih =>
    rw [cut, if_neg (by simp [h a List.mem_cons_self]),
      ih fun b hb => h b (List.mem_cons_of_mem a hb)]

theorem cut_line {line : List α} (h : ∀ a ∈ line, p a = false) {a : α} (ha : p a = true)
    (rest : List α) : cut p (line ++ a :: rest) = (line :: (cut p rest).1, (cut p rest).2) := by
  induction line with
  | nil => exact cut_cons_separator ha rest
  | cons b line ih =>
    rw [List.cons_append, cut, if_neg (by simp [h b List.mem_cons_self]),
      ih fun c hc => h c (List.mem_cons_of_mem b hc)]

theorem not_separator_of_mem_rest {l : List α} : ∀ a ∈ (cut p l).2, p a = false := by
  induction l with
  | nil => exact nofun
  | cons b l ih =>
    cases hb : p b with
    | true => rwa [cut_cons_separator hb]
    | false =>
      obtain ⟨-, hcut⟩ | ⟨line, lines, -, hcut⟩ := cut_cons_other hb l
      · rw [hcut]
        exact List.forall_mem_cons.mpr ⟨hb, ih⟩
      · rwa [hcut]

theorem cut_rest (l : List α) : cut p (cut p l).2 = ([], (cut p l).2) :=
  cut_of_forall not_separator_of_mem_rest

/-- No line, and no rest, is longer than the list. -/
theorem length_cut_le (l : List α) :
    (cut p l).2.length ≤ l.length ∧ ∀ line ∈ (cut p l).1, line.length ≤ l.length := by
  induction l with
  | nil => exact ⟨Nat.le_refl 0, nofun⟩
  | cons a l ih =>
    obtain ⟨hrest, hlines⟩ := ih
    cases ha : p a with
    | true =>
      rw [cut_cons_separator ha]
      exact ⟨Nat.le_succ_of_le hrest, List.forall_mem_cons.mpr
        ⟨Nat.zero_le _, fun line hline => Nat.le_succ_of_le (hlines line hline)⟩⟩
    | false =>
      obtain ⟨-, hcut⟩ | ⟨line, lines, hall, hcut⟩ := cut_cons_other ha l
      · rw [hcut]
        exact ⟨Nat.succ_le_succ hrest, nofun⟩
      · rw [hall] at hlines
        rw [hcut]
        obtain ⟨hline, hlines⟩ := List.forall_mem_cons.mp hlines
        exact ⟨Nat.le_succ_of_le hrest, List.forall_mem_cons.mpr
          ⟨Nat.succ_le_succ hline, fun line hmem => Nat.le_succ_of_le (hlines line hmem)⟩⟩

end LineCut
