/-
  The search for the first free one of numbered candidates.

  Candidates that are told apart by a key run out of taken ones: if the keys in use are finitely many,
  a search that tries one candidate more than there are keys has an end (`firstFree_exists`).
-/
import Mathlib.Data.List.Nodup
import Mathlib.Data.List.Range
import Mathlib.Data.List.Perm.Subperm

namespace FirstFree

variable {taken : ℕ → Bool}

/-- The first number from `start` on that is not taken, among `fuel` of them. -/
def firstFree (taken : ℕ → Bool) : (fuel start : ℕ) → Option ℕ
  | 0, _ => none
  | fuel + 1, start => if taken start then firstFree taken fuel (start + 1) else some start

theorem not_taken_of_firstFree {fuel start k : ℕ} (h : firstFree taken fuel start = some k) :
    taken k = false := by
  induction fuel generalizing start with
  | zero => exact nomatch h
  | succ fuel ih =>
    unfold firstFree at h
    split_ifs at h with hstart
    · exact ih h
    · exact Option.some.inj h ▸ Bool.eq_false_iff.mpr hstart

/-- What a search passes over is taken. -/
theorem taken_of_lt_firstFree {fuel start k : ℕ} (h : firstFree taken fuel start = some k) :
    ∀ j, start ≤ j → j < k → taken j = true := by
  induction fuel generalizing start with
  | zero => exact nomatch h
  | succ fuel ih =>
    intro j hle hlt
    unfold firstFree at h
    split_ifs at h with hstart
    · by_cases hj : j = start
      · exact hj ▸ hstart
      · exact ih h j (by omega) hlt
    · obtain rfl := Option.some.inj h
      omega

/-- A search that finds nothing has seen every candidate taken. -/
theorem taken_of_firstFree_none {fuel start : ℕ} (h : firstFree taken fuel start = none) :
    ∀ k, start ≤ k → k < start + fuel → taken k = true := by
  induction fuel generalizing start with
  | zero =>
    intro k hle hlt
    omega
  | succ fuel ih =>
    unfold firstFree at h
    split_ifs at h with hstart
    intro k hle hlt
    by_cases hk : k = start
    · exact hk ▸ hstart
    · exact ih h k (by omega) (by omega)

/-- More fuel does not change what a search finds. -/
theorem firstFree_mono {fuel more start k : ℕ} (h : firstFree taken fuel start = some k)
    (hmore : fuel ≤ more) : firstFree taken more start = some k := by
  induction fuel generalizing start more with
  | zero => exact nomatch h
  | succ fuel ih =>
    cases more with
    | zero => omega
    | succ more =>
      unfold firstFree at h ⊢
      split_ifs at h ⊢ with hstart
      · exact ih h (by omega)
      · exact h

/-- One candidate more than there are keys in use is enough. -/
theorem firstFree_exists {κ : Type*} {key : ℕ → κ} (hkey : Function.Injective key) {used : List κ}
    (htaken : ∀ k, taken k = true → key k ∈ used) (start : ℕ) {fuel : ℕ}
    (hfuel : used.length < fuel) : ∃ k, firstFree taken fuel start = some k := by
  refine Option.ne_none_iff_exists'.mp fun hnone => ?_
  have hall := taken_of_firstFree_none hnone
  have hnodup : ((List.range' start fuel).map key).Nodup :=
    List.Nodup.map hkey List.nodup_range'
  have hsub : (List.range' start fuel).map key ⊆ used := by
    intro x hx
    obtain ⟨k, hk, rfl⟩ := List.mem_map.mp hx
    rw [List.mem_range'_1] at hk
    exact htaken k (hall k hk.1 hk.2)
  have hlength := (List.subperm_of_subset hnodup hsub).length_le
  rw [List.length_map, List.length_range'] at hlength
  omega

end FirstFree
