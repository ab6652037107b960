/-
  Trimming: a list, or a string, without the members of a kind at its ends.

  What is trimmed already is recognised by its ends (`trim_eq_self`), and a list that begins and ends
  with something else is left alone whatever is between.
-/
import Mathlib.Data.List.DropRight

namespace Trimming

section
variable {α : Type} {p : α → Bool}

/-- Without the members of the kind at either end. -/
def trim (p : α → Bool) (l : List α) : List α := (l.dropWhile p).rdropWhile p

/-- No end is of the kind. -/
def Trimmed (p : α → Bool) (l : List α) : Prop :=
  (∀ a ∈ l.head?, p a = false) ∧ ∀ a ∈ l.getLast?, p a = false

instance (l : List α) : Decidable (Trimmed p l) := inferInstanceAs (Decidable (_ ∧ _))

theorem dropWhile_eq_self {l : List α} (h : ∀ a ∈ l.head?, p a = false) : l.dropWhile p = l := by
  cases l with
  | nil => rfl
  | cons a l => exact List.dropWhile_cons_of_neg (by simp [h a rfl])

theorem rdropWhile_eq_self {l : List α} (h : ∀ a ∈ l.getLast?, p a = false) : l.rdropWhile p = l := by
  refine List.rdropWhile_eq_self_iff.mpr fun hl => ?_
  simp [h _ (List.getLast?_eq_some_getLast hl)]

theorem trim_eq_self {l : List α} (h : Trimmed p l) : trim p l = l := by
  unfold trim
  rw [dropWhile_eq_self h.1, rdropWhile_eq_self h.2]

theorem head?_dropWhile (l : List α) : ∀ a ∈ (l.dropWhile p).head?, p a = false := by
  intro a ha
  have := List.head?_dropWhile_not p l
  rw [ha] at this
  exact this

/-- What is left after trimming needs no more of it. -/
theorem trimmed_trim (l : List α) : Trimmed p (trim p l) := by
  unfold trim
  refine ⟨fun a ha => ?_, fun a ha => ?_⟩
  · obtain ⟨rest, hrest⟩ := List.rdropWhile_prefix p (l := l.dropWhile p)
    refine head?_dropWhile l a ?_
    rw [← hrest]
    cases hl : (l.dropWhile p).rdropWhile p with
    | nil => simp [hl] at ha
    | cons b m =>
      rw [hl] at ha
      exact ha
  · have hne : (l.dropWhile p).rdropWhile p ≠ [] := by
      rintro hnil
      rw [hnil] at ha
      exact nomatch ha
    have hlast := List.rdropWhile_last_not p (l.dropWhile p) hne
    rw [List.getLast?_eq_some_getLast hne] at ha
    obtain rfl := Option.some.inj ha
    simpa using hlast

theorem trim_sublist (l : List α) : (trim p l).Sublist l :=
  (List.rdropWhile_prefix p _).sublist.trans (List.dropWhile_suffix p).sublist

/-- What trimming leaves alone is what is trimmed already. -/
theorem trim_eq_self_iff {l : List α} : trim p l = l ↔ Trimmed p l :=
  ⟨fun h => h ▸ trimmed_trim l, trim_eq_self⟩

/-- Trimming twice is trimming once. -/
theorem trim_trim (l : List α) : trim p (trim p l) = trim p l := trim_eq_self (trimmed_trim l)

theorem dropWhile_append_cons {a : α} (ha : p a = false) (l m : List α) :
    (l ++ a :: m).dropWhile p = l.dropWhile p ++ a :: m := by
  induction l with
  | nil => exact List.dropWhile_cons_of_neg (by simp [ha])
  | cons b l ih =>
    by_cases hb : p b = true
    · rw [List.cons_append, List.dropWhile_cons_of_pos hb, List.dropWhile_cons_of_pos hb, ih]
    · rw [List.cons_append, List.dropWhile_cons_of_neg hb, List.dropWhile_cons_of_neg hb,
        List.cons_append]

/-- What stands between two others that are not of the kind is kept, however it looks. -/
theorem trim_append_cons {a b : α} (ha : p a = false) (hb : p b = false) (l m : List α) :
    trim p (l ++ a :: (m ++ [b])) = l.dropWhile p ++ a :: (m ++ [b]) := by
  unfold trim
  rw [dropWhile_append_cons ha]
  have hconcat : l.dropWhile p ++ a :: (m ++ [b]) = (l.dropWhile p ++ a :: m) ++ [b] := by simp
  rw [hconcat, List.rdropWhile_concat_neg p _ _ (by simp [hb])]

end

variable {p : Char → Bool}

def trimString (p : Char → Bool) (s : String) : String := String.ofList (trim p s.toList)

@[simp] theorem toList_trimString (s : String) : (trimString p s).toList = trim p s.toList := by
  simp [trimString]

@[simp] theorem trimString_trimString (s : String) :
    trimString p (trimString p s) = trimString p s := by
  unfold trimString
  rw [String.toList_ofList, trim_trim]

theorem trimString_eq_self {s : String} (h : Trimmed p s.toList) : trimString p s = s := by
  unfold trimString
  rw [trim_eq_self h, String.ofList_toList]

end Trimming
